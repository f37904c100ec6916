import ZoneNet.Address.Assignment
import ZoneNet.Address.IPv4
import ZoneNet.Route.Error
import ZoneNet.Route.Request

/-!
# Errors, warnings and notes of network setup
-/

namespace ZoneNet

/-- What ends network setup. -/
inductive SetupError where
  /-- An `ipv6` attribute is neither `true` nor `false`. -/
  | invalidIpv6 (value : String)
  /-- An interface asks for IPv6 in a zone without it. -/
  | ipv6Disabled (iface : String)
  | plumb (iface : String) (family : Family) (cause : FacilityError)
  /-- A gateway is no IPv4 address. -/
  | badGateway (iface gateway : String)
  | defaultRoute (iface : String) (gateway : IPv4) (cause : RouteError)
  /-- A token could not be applied, and that cannot be skipped. -/
  | address (error : AssignError)
  | autoconf (cause : FacilityError)
  deriving DecidableEq, Repr

namespace SetupError

def message : SetupError → String
  | invalidIpv6 value => "invalid value for 'ipv6' attribute: '" ++ value ++ "'"
  | ipv6Disabled iface =>
    "cannot enable ipv6 for interface " ++ iface ++ " when it is disabled for the zone"
  | plumb iface family cause =>
    "plumb " ++ iface ++ "/" ++ family.name ++ ": " ++ cause.message
  | badGateway iface gateway =>
    "default route on " ++ iface ++ ": bad gateway '" ++ gateway ++ "'"
  | defaultRoute iface gateway cause =>
    "default route on " ++ iface ++ " -> " ++ toString gateway ++ " failed: " ++ cause.message
  | address error => error.message
  | autoconf cause => "failed to start autoconfiguration: " ++ cause.message

def causes : SetupError → List String
  | plumb _ _ cause => cause.message :: cause.causes
  | defaultRoute _ _ cause => cause.message :: cause.causes
  | address error => error.causes
  | autoconf cause => cause.message :: cause.causes
  | _ => []

end SetupError

/-- What network setup tells and goes on from. -/
inductive SetupWarning where
  /-- An interface has no address list and stays plumbed only. -/
  | noConfiguration (iface : String)
  | linkLocal (iface : String) (cause : FacilityError)
  /-- A token was skipped. -/
  | address (iface token : String) (error : AssignError)
  deriving DecidableEq, Repr

namespace SetupWarning

def message : SetupWarning → String
  | noConfiguration iface => "no network configuration for the " ++ iface ++ " interface"
  | linkLocal iface cause =>
    "unable to bring up link-local address on " ++ iface ++ ": " ++ cause.message
  | address iface token error =>
    "unable to add address " ++ token ++ " to " ++ iface ++ ": " ++ error.message

end SetupWarning

/-- What network setup tells as it goes along. -/
inductive SetupNote where
  | warned (warning : SetupWarning)
  /-- A token was applied to an interface. -/
  | applied (base : String) (token : Token) (did : Applied)
  /-- A default route was installed. -/
  | routed (route : RouteRequest)
  deriving DecidableEq, Repr

/-- The warning that a note gives. -/
def SetupNote.warning? : SetupNote → Option SetupWarning
  | warned w => some w
  | _ => none

/-- The account of a run. -/
structure SetupReport where
  /-- The interfaces in the order in which they were set up. -/
  interfaces : List String
  warnings : List SetupWarning
  addrconfStarted : Bool
  namesIssued : UInt32
  deriving DecidableEq, Repr

end ZoneNet
