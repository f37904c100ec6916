import ZoneNet.Facility.Operations
import ZoneNet.Route.Message

/-!
# Installing a route

A route is installed by one write of its whole message. A write that takes less is an error and is
not tried again.
-/

namespace ZoneNet

variable {σ : Type}

/-- The index that a message can carry for an interface; it has 16 bits. -/
def messageIndex (ch : RouteChannel σ) : Option String → Except RouteError UInt16
  | none => .ok 0
  | some name =>
    match ch.interfaceIndex name with
    | some i =>
      if i.toNat ≤ 65535 then .ok (UInt16.ofNat i.toNat) else .error (.unknownInterface name)
    | none => .error (.unknownInterface name)

/-- The message for a request on a channel. The interface is looked up before the prefix is
checked. -/
def messageFor (ch : RouteChannel σ) (r : RouteRequest) : Except RouteError RouteMessage := do
  let index ← messageIndex ch r.interface
  RouteMessage.ofRequest r index ch.processId

/-- Writes the message for a request once. -/
def installRoute (ch : RouteChannel σ) (r : RouteRequest) (s : σ) : Outcome RouteError Unit σ :=
  match messageFor ch r with
  | .error e => (.error e, s)
  | .ok m =>
    match ch.send m.encode s with
    | (.error e, s) => (.error (.channel e), s)
    | (.ok written, s) =>
      if written < m.encode.length then (.error (.incompleteWrite written m.encode.length), s)
      else (.ok (), s)

end ZoneNet
