import ZoneNet.Boot.Error
import ZoneNet.Native.Program
import ZoneNet.Text.PathJoin

/-!
# Native services

A service is started by a launcher, which is run to its end with no environment but the name of
the service's instance.
-/

namespace ZoneNet

open Text

structure Service where
  name : String
  path : String
  /-- The instance that the launcher is told to be. -/
  fmri : String
  deriving DecidableEq, Repr

/-! ## What is told -/

namespace LogEntry

def serviceStarting (v : Service) : LogEntry :=
  make .info .programs "starting service" [("service", .word v.name), ("path", .text v.path)]

def serviceStarted (v : Service) : LogEntry :=
  make .info .programs "service started" [("service", .word v.name)]

end LogEntry

namespace Service

/-- The daemon that manages interfaces. -/
def interfaceManager (root : String) : Service where
  name := "ipmgmtd"
  path := joinPath root "lib/inet/ipmgmtd"
  fmri := "svc:/network/ip-interface-management:default"

/-- The daemon for neighbour discovery, which does autoconfiguration. -/
def neighborDiscovery (root : String) : Service where
  name := "in.ndpd"
  path := joinPath root "usr/lib/inet/in.ndpd"
  fmri := "svc:/network/routing/ndp:default"

def command (v : Service) : Command where
  path := v.path
  environment := .only [("SMF_FMRI", v.fmri)]
  outputPassed := true

/-- Runs the launcher. -/
def launch (h : Host) (v : Service) (w : World) : Outcome BootError Unit World :=
  match World.run h v.command (w.tell [.serviceStarting v]) with
  | (.error e, w) => (.error (.service v.name ("failed to start: " ++ e.message)), w)
  | (.ok c, w) =>
    if c.ending.isSuccess then (.ok (), w.tell [.serviceStarted v])
    else (.error (.service v.name c.ending.phrase), w)

/-- The service as a facility. -/
def start (h : Host) (v : Service) (w : World) : Outcome FacilityError Unit World :=
  match v.launch h w with
  | (.ok (), w) => (.ok (), w)
  | (.error e, w) => (.error (.rejected v.name e.message), w)

end Service

end ZoneNet
