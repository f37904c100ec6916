import ZoneNet.Address.Family
import ZoneNet.Address.Object
import ZoneNet.Facility.Error
import ZoneNet.Outcome

/-!
# Facilities

Every effect of the engine is an operation of a facility on a state of that facility's choosing:
the kernel and its tools, or a journal of what was asked. The engine knows no more of the state
than that each operation leaves one.
-/

namespace ZoneNet

/-- What plumbing an interface for one family found. -/
inductive PlumbOutcome where
  | created
  | alreadyExists
  deriving DecidableEq, Repr

/-- Interfaces and the addresses on them. -/
structure AddressManager (σ : Type) where
  /-- Plumbs an interface for a family; an instance that is there already is no error. -/
  plumb : String → Family → σ → Outcome FacilityError PlumbOutcome σ
  /-- Marks the IPv6 instance of an interface up, so that it derives a link-local address. -/
  bringUpLinkLocal : String → σ → Outcome FacilityError Unit σ
  /-- Asks for a new logical interface on a base interface and gives its name. -/
  addLogical : String → Family → σ → Outcome FacilityError String σ
  createObject : ObjectName → σ → Outcome FacilityError AddressObject σ
  /-- Gives an object its value. -/
  setAddress : AddressObject → String → σ → Outcome FacilityError AddressObject σ
  /-- Creates the object's address in the active configuration and brings it up. -/
  activate : AddressObject → σ → Outcome FacilityError Unit σ
  /-- Lets go of an object. -/
  release : AddressObject → σ → σ

/-- The answer to a request for a lease. A code of zero is a success. -/
structure LeaseReply where
  code : Int
  message : String
  deriving DecidableEq, Repr

/-- The client that obtains leases; each request is bounded by a number of seconds. -/
structure LeaseAgent (σ : Type) where
  /-- Makes sure that the agent runs, starting it where needed. -/
  ensureRunning : UInt64 → σ → Outcome FacilityError Unit σ
  /-- Asks for a lease on an interface and waits for the answer. -/
  startLease : String → UInt64 → σ → Outcome FacilityError LeaseReply σ

/-- The control channel for routes. -/
structure RouteChannel (σ : Type) where
  /-- The process number that messages carry. -/
  processId : Int32
  /-- The kernel's index of an interface. -/
  interfaceIndex : String → Option UInt32
  /-- Writes one message and tells how many of its bytes were taken. -/
  send : List UInt8 → σ → Outcome SystemError Nat σ

/-- The daemon for stateless autoconfiguration. -/
structure Autoconf (σ : Type) where
  start : σ → Outcome FacilityError Unit σ

/-- All that network setup drives. -/
structure Facilities (σ : Type) where
  addresses : AddressManager σ
  leases : LeaseAgent σ
  routes : RouteChannel σ
  autoconf : Autoconf σ

end ZoneNet
