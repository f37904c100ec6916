import ZoneNet.Route.FeedLine
import ZoneNet.Setup.Error

/-!
# What ends a boot

Each error has a reason code, which most messages start with.
-/

namespace ZoneNet

inductive BootError where
  /-- The zone document could not be read. -/
  | configLoad (path detail : String)
  /-- The zone does not own its IP stack. -/
  | ipType (value : String)
  /-- A zone attribute that is needed is absent or malformed. -/
  | zoneAttr (name detail : String)
  /-- A service could not be started or did not succeed. -/
  | service (name detail : String)
  | setup (error : SetupError)
  /-- The route feed could not be run or did not succeed. -/
  | feed (detail : String)
  /-- A line of the route feed could not be applied. -/
  | feedLine (error : FeedLineError)
  | hook (detail : String)
  | io (cause : SystemError)
  deriving DecidableEq, Repr

namespace BootError

/-- The code of an error. -/
def reason : BootError → String
  | configLoad .. => "config_load_failed"
  | ipType _ => "unsupported_ip_type"
  | zoneAttr .. => "bad_zone_attr"
  | service .. => "service_failed"
  | setup _ => "net_setup_failed"
  | feed _ | feedLine _ => "static_route_failed"
  | hook _ => "hook_failed"
  | io _ => "io_error"

def message : BootError → String
  | configLoad path detail => "config_load_failed: " ++ path ++ ": " ++ detail
  | ipType value => "unsupported_ip_type: unsupported configuration mode '" ++ value ++ "'"
  | zoneAttr name detail => "bad_zone_attr: " ++ name ++ ": " ++ detail
  | service name detail => "service_failed: " ++ name ++ ": " ++ detail
  | setup error => "net_setup_failed: " ++ error.message
  | feed detail => "static_route_failed: " ++ detail
  | feedLine error => "static_route_failed: " ++ error.message
  | hook detail => "hook_failed: " ++ detail
  | io cause => "io error: " ++ cause.message

/-- The messages of what stands behind an error, nearest first. -/
def causes : BootError → List String
  | setup error => error.message :: error.causes
  | feedLine error => error.message :: error.causes
  | io cause => [cause.message]
  | _ => []

end BootError

end ZoneNet
