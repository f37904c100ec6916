import ZoneNet.Boot.Log
import ZoneNet.Boot.Settings
import ZoneNet.Files.Tree
import ZoneNet.Log.ConsoleLine
import ZoneNet.Log.Filter
import ZoneNet.Native.AddressTools
import ZoneNet.Native.LeaseTools
import ZoneNet.Native.PostnetHook
import ZoneNet.Native.Service
import ZoneNet.Setup.Run
import ZoneNet.Zone.Document

/-!
# The boot

The stages in order: the service that manages interfaces, the zone document, network setup, buffer
limits, the route feed, the hook. Each stage starts only if those before it have succeeded; a
failing buffer limit is no failure of its stage. Everything that is done or told becomes part of
one history.
-/

namespace ZoneNet

/-- The machine that a boot runs on, with its files. -/
structure Machine extends Host where
  /-- The bytes of a file, which may depend on what has been logged to it. -/
  fileBytes : World → String → Except SystemError (List UInt8)
  /-- Opens a device that is there for writing. -/
  openDevice : String → Except SystemError Device := fun _ => .ok .itself
  /-- Creates a file, and the directories above it, for writing. -/
  createFile : String → Except SystemError Unit := fun _ => .ok ()
  /-- What tells this boot from others in the log. -/
  bootId : String := "00000000-0000-4000-8000-000000000000"
  /-- The time that is told. -/
  time : String := "1970-01-01T00:00:00.000000Z"

/-- Why a boot stopped early. -/
inductive Stop where
  | failed (error : BootError)
  /-- The process broke off without a word. -/
  | aborted
  deriving DecidableEq, Repr

/-- What the zone document settles for the rest of the boot. -/
structure Declared where
  zone : Zone
  kernel : KernelVersion
  ipv6 : Bool

namespace Boot

abbrev Step (α : Type) := World → Outcome Stop α World

variable (m : Machine) (settings : Settings)

/-- The outcome of a stage as one of the boot. -/
def settle {α : Type} (o : Outcome BootError α World) : Outcome Stop α World :=
  o.mapError .failed

/-! ## The stages -/

/-- Nothing can be plumbed before this service runs. -/
def startManager : Step Unit := fun w =>
  settle ((Service.interfaceManager settings.nativeRoot).launch m.toHost w)

/-- The zone as its document declares it. -/
def loadZone (path : String) (file : Except SystemError (List UInt8)) : Except BootError Zone :=
  match Zone.load file with
  | .ok z => .ok z
  | .error fault => .error (.configLoad path fault.message)

/-- The kernel release that a zone declares; the zone must own its stack. -/
def kernelOf (z : Zone) : Except BootError KernelVersion :=
  if z.isExclusive then
    match z.kernelVersion with
    | .ok kernel => .ok kernel
    | .error fault => .error (.zoneAttr Zone.kernelAttr fault.message)
  else .error (.ipType z.ipType)

/-- Settles whether a zone has IPv6. A policy that the zone states is logged. -/
def settlePolicy (z : Zone) (kernel : KernelVersion) : Step Declared := fun w =>
  let stated := z.attr Zone.ipv6Attr
  match zoneIpv6 stated with
  | .error e => (.error (.failed (.setup e)), w)
  | .ok ipv6 => (.ok ⟨z, kernel, ipv6⟩, w.tell (if stated.isSome then [.ofPolicy ipv6] else []))

/-- Loads the zone document. -/
def readZone : Step Declared := fun w =>
  match loadZone settings.zoneConfig (m.fileBytes w settings.zoneConfig) with
  | .error e => (.error (.failed e), w)
  | .ok z =>
    match kernelOf z with
    | .error e => (.error (.failed e), w)
    | .ok kernel => settlePolicy z kernel (w.tell [.ofZone z kernel])

def addressTools : AddressTools where
  host := m.toHost
  ifconfig := settings.native "sbin/ifconfig"
  ipadm := settings.native "usr/sbin/ipadm"

def leaseTools : LeaseTools where
  host := m.toHost
  agent := settings.native "sbin/dhcpagent"
  ifconfig := settings.native "sbin/ifconfig"

def routes : RouteChannel World where
  processId := m.processId
  interfaceIndex := m.interfaceIndex
  send message w :=
    let r := m.routeWrite w message
    (r, w ++ [.send message r])

/-- Autoconfiguration, which is announced before its daemon is started. -/
def autoconf : Autoconf World where
  start w :=
    (Service.neighborDiscovery settings.nativeRoot).start m.toHost (w.tell [.autoconfStarting])

/-- The facilities that stand on the native tools. -/
def facilities : Facilities World where
  addresses := (addressTools m settings).addresses
  leases := (leaseTools m settings).leases
  routes := routes m
  autoconf := autoconf m settings

/-- Network setup on the native tools. -/
def networkSetup (ipv6 : Bool) : Setup World where
  facilities := facilities m settings
  ipv6
  timeout := settings.dhcpTimeout
  tell n w := w.tell (LogEntry.ofSetupNote m.interfaceIndex n)

/-- Sets up the network. Where a lease has no bound that can be told the process breaks off, and
all that would have come after it has not happened. -/
def setUp (d : Declared) : Step SetupReport := fun w =>
  let (result, p) := (networkSetup m settings d.ipv6).run d.zone.nets w
  let w := p.ledger.world
  if w.aborted then (.error .aborted, w.untilAbort)
  else
    match result with
    | .ok r => (.ok r, w.tell [.ofReport r])
    | .error e =>
      (.error (.failed (.setup e)), w.tell (LogEntry.beforeSetupError m.interfaceIndex e))

def bufferProperties : BufferProperties World :=
  { (addressTools m settings).bufferProperties with
    tell f w := w.tell [.ofPropertyFailure f] }

/-- Sets the buffer limits; a limit that could not be set is logged. -/
def setBuffers (d : Declared) : Step Unit := fun w =>
  let profile := BufferProfile.ofVersion d.kernel
  let (failures, w) := profile.apply (bufferProperties m settings) Protocol.all w
  (.ok (), w.tell [.ofProfile profile failures.length])

/-- Runs the route feed, if there is one, and installs what it prints. -/
def runFeed : Step Nat := fun w =>
  let path := RouteFeed.pathIn settings.nativeRoot
  match RouteFeed.begin? m.toHost path w with
  | (.error e, w) => (.error (.failed e), w)
  | (.ok none, w) => (.ok 0, w)
  | (.ok (some c), w) =>
    let tell := fun n w => World.tell (LogEntry.ofFeedNote n) w
    match RouteFeed.conclude (routes m) tell path c { channel := w } with
    | (.ok n, p) => (.ok n, p.channel.tell (LogEntry.ofFeed n))
    | (.error e, p) => (.error (.failed e), p.channel)

/-- Runs the hook, if there is one. -/
def runHook : Step Unit := fun w =>
  settle (PostnetHook.run m.toHost (PostnetHook.pathIn settings.nativeRoot) w)

/-- All stages in order. -/
def stages : Step Unit := fun w =>
  (startManager m settings w).andThen fun _ w =>
    (readZone m settings w).andThen fun d w =>
      (setUp m settings d w).andThen fun _ w =>
        (setBuffers m settings d w).andThen fun _ w =>
          (runFeed m settings w).andThen fun _ w => runHook m settings w

/-! ## The process -/

/-- How the process ends. -/
inductive Exit where
  | status (code : Nat)
  /-- It pauses for ever, so that the zone is not booted again and again. -/
  | paused
  deriving DecidableEq, Repr

/-- How the process ends, and the last entries of its log. -/
def ending (pauseOnFatal : Bool) : Except Stop Unit → Exit × List LogEntry
  | .ok () => (.status 0, [.complete])
  | .error .aborted => (.status 101, [])
  | .error (.failed e) =>
    if pauseOnFatal then (.paused, LogEntry.ofError e ++ [.pausing])
    else (.status 1, LogEntry.ofError e)

/-- The word said when the console cannot be opened. -/
def consoleNotice (path : String) (e : SystemError) : String :=
  "lx-init: cannot open console " ++ path ++ ": " ++ e.message ++ "; logging to stderr\n"

/-- What an event puts on the standard error. The entries of the log go there only if they have no
other console. -/
def stderrOf (showsEntry : LogEntry → Bool) : Event → List UInt8
  | .start c (.ok done) => if c.outputPassed then done.stderr else []
  | .told e => if showsEntry e then Text.Utf8.encode (e.consoleLine m.time) else []
  | _ => []

/-- What is written to the standard error while things happen. -/
def stderr (filter : LogFilter) (w : World) : List UInt8 :=
  match m.openDevice settings.console with
  | .ok .itself => w.flatMap (stderrOf m fun _ => false)
  | .ok .standardError => w.flatMap (stderrOf m filter.keeps)
  | .error e =>
    Text.Utf8.encode (consoleNotice settings.console e) ++ w.flatMap (stderrOf m filter.keeps)

/-- What a boot leaves behind. -/
structure Report where
  exit : Exit
  world : World
  /-- What was logged; absent if the log could not be created. -/
  log : Option (List LogEntry)
  /-- What was written to the standard error. -/
  stderr : List UInt8

/-- What is told before the first stage. -/
def opening : List LogEntry :=
  (match m.createFile settings.bootLog with
    | .ok () => []
    | .error e => [.logUnavailable settings.bootLog e]) ++ [.starting m.bootId]

/-- Runs the whole boot. -/
def run (filter : LogFilter) : Report :=
  let (result, w) := stages m settings (World.tell (opening m settings) [])
  let (exit, last) := ending settings.pauseOnFatal result
  let world := w.tell last
  { exit
    world
    log :=
      match m.createFile settings.bootLog with
      | .ok () => some (world.entries.filter filter.keeps)
      | .error _ => none
    stderr := stderr m settings filter world }

/-- What a process leaves that breaks off before it has done anything. -/
def nothingDone : Report where
  exit := .status 101
  world := []
  log := none
  stderr := []

/-- Runs the whole boot with the filter that a setting asks for. -/
def runWith (logSetting : Option String) : Report :=
  match LogFilter.ofSetting? logSetting with
  | some filter => run m settings filter
  | none => nothingDone

end Boot

end ZoneNet
