import ZoneNet.Setup.Error

/-!
# The IPv6 policy

A zone has IPv6 unless its `ipv6` attribute says otherwise; an interface follows its zone, and may
turn IPv6 off for itself but not on against its zone.
-/

namespace ZoneNet

/-- Whether a zone has IPv6. -/
def zoneIpv6 : Option String → Except SetupError Bool
  | none => .ok true
  | some value =>
    if value = "true" then .ok true
    else if value = "false" then .ok false
    else .error (.invalidIpv6 value)

/-- Whether an interface has IPv6, in a zone that has it or not. -/
def interfaceIpv6 (zone : Bool) (iface : String) : Option String → Except SetupError Bool
  | none => .ok zone
  | some value =>
    if value = "true" then if zone then .ok true else .error (.ipv6Disabled iface)
    else if value = "false" then .ok false
    else .error (.invalidIpv6 value)

end ZoneNet
