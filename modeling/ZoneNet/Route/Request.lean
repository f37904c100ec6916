import ZoneNet.Address.IPv4

/-!
# Route requests

A request to add one IPv4 route: where it leads, through which gateway, and the interface that it
is bound to, if any.
-/

namespace ZoneNet

structure RouteRequest where
  /-- The network and its prefix length; absent for the default route. -/
  destination : Option (IPv4 × UInt8)
  gateway : IPv4
  /-- The interface to bind the route to. -/
  interface : Option String
  deriving DecidableEq, Repr

namespace RouteRequest

/-- The default route through a gateway on an interface. -/
def defaultVia (gateway : IPv4) (iface : String) : RouteRequest := ⟨none, gateway, some iface⟩

/-- A route to a network through a gateway, bound to no interface. -/
def networkVia (network : IPv4) (bits : UInt8) (gateway : IPv4) : RouteRequest :=
  ⟨some (network, bits), gateway, none⟩

/-- The network and the gateway of a request, with the interface in parentheses. -/
def text (r : RouteRequest) : String :=
  let leads := match r.destination with
    | some (network, bits) => toString network ++ "/" ++ toString bits.toNat
    | none => "default"
  let bound := match r.interface with
    | some iface => " (" ++ iface ++ ")"
    | none => ""
  leads ++ " -> " ++ toString r.gateway ++ bound

end RouteRequest

end ZoneNet
