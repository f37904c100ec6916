import ZoneNet.Log.Entry
import ZoneNet.Buffer.Profile
import ZoneNet.Native.RouteFeed
import ZoneNet.Native.Service
import ZoneNet.Setup.Error
import ZoneNet.Text.Visible
import ZoneNet.Zone.Config

/-!
# What is logged

The entry, or the entries, for each thing that a boot tells, from the stages in their order. The
native programs have entries of their own.
-/

namespace ZoneNet

namespace LogEntry

/-- The version that a boot tells. -/
def version : String := "0.1.0"

/-- The log could not be created, so this is told on the console alone. -/
def logUnavailable (path : String) (cause : SystemError) : LogEntry :=
  make .warn .logging "boot log unavailable"
    [("path", .text path), ("error", .text cause.message)]

def starting (bootId : String) : LogEntry :=
  make .info .boot "lx-init starting" [("version", .word version), ("boot_id", .text bootId)]

def complete : LogEntry := make .info .boot "network configuration complete" []

/-! ## The zone -/

def ofZone (z : Zone) (kernel : KernelVersion) : LogEntry :=
  make .info .boot "zone configuration loaded"
    [("zonename", .text z.name), ("nets", .number z.nets.length),
      ("kernel_version", .text kernel.text)]

/-- The zone says itself whether it has IPv6. -/
def ofPolicy (enabled : Bool) : LogEntry :=
  make .warn .boot
    ("IPv6 is " ++ (if enabled then "enabled" else "disabled") ++ " by zone configuration") []

/-! ## Network setup -/

def ofWarning : SetupWarning → LogEntry
  | .noConfiguration iface =>
    make .warn .setup "could not find network configuration for interface" [("iface", .word iface)]
  | .linkLocal iface cause =>
    make .warn .setup "unable to bring up link-local address"
      [("iface", .word iface), ("error", .text cause.message)]
  | .address iface token error =>
    make .warn .setup "unable to add address"
      [("iface", .text iface), ("token", .text token), ("error", .text error.message)]

/-- What a token did to an interface. -/
def ofApplied (base : String) (t : Token) : Applied → LogEntry
  | .address iface object =>
    make .info .addresses "address configured"
      [("iface", .text iface), ("aobj", .text object.text), ("addr", .word t.text)]
  | .lease iface => make .info .addresses "DHCP lease started" [("iface", .text iface)]
  | .addrconf => make .debug .addresses "addrconf requested" [("iface", .text base)]

/-- A route is installed by a message that carries an index. -/
def ofRoute (index : Nat) (r : RouteRequest) : List LogEntry :=
  [make .debug .routes "route message written"
      [("index", .number index), ("len", .number RouteMessage.length.toNat)],
    make .info .routes "route installed" [("route", .text r.text)]]

/-- A note of network setup; `index` gives the kernel's indexes of interfaces. -/
def ofSetupNote (index : String → Option UInt32) : SetupNote → List LogEntry
  | .warned w => [ofWarning w]
  | .applied base t did => [ofApplied base t did]
  | .routed r => ofRoute (((r.interface.bind index).map UInt32.toNat).getD 0) r

/-- The kernel knows no interface of a name. -/
def noIndex (iface : String) : LogEntry :=
  make .debug .routing "interface index lookup failed"
    [("iface", .word iface), ("errno", .text "ENODEV: No such device")]

/-- What goes before an error of network setup. -/
def beforeSetupError (index : String → Option UInt32) : SetupError → List LogEntry
  | .defaultRoute _ _ (.unknownInterface name) => if (index name).isNone then [noIndex name] else []
  | _ => []

def autoconfStarting : LogEntry :=
  make .info .setup "starting stateless address autoconfiguration" []

def ofReport (r : SetupReport) : LogEntry :=
  make .info .boot "interfaces configured"
    [("interfaces", .text (Text.listVisibly r.interfaces)),
      ("warnings", .number r.warnings.length), ("addrconf", .flag r.addrconfStarted)]

/-! ## Buffers, routes and the hook -/

def ofPropertyFailure (f : PropertyFailure) : LogEntry :=
  make .warn .buffers "buffer property not set"
    [("protocol", .text f.protocol.name), ("property", .word f.property),
      ("value", .number f.value.toNat), ("error", .text f.cause.message)]

/-- A profile has been applied, with so many failures. -/
def ofProfile (p : BufferProfile) (failures : Nat) : LogEntry :=
  make .info .buffers "netstack buffers normalized"
    (p.settings.map (fun s => (s.1, .number s.2.toNat)) ++ [("failures", .number failures)])

def ofOddFlag (o : OddFlag) : LogEntry :=
  make .warn .feedLines "invalid static route: only next-hop routes are supported"
    [("line", .word o.line), ("flag", .text o.flag)]

/-- A note of the feed, whose routes are bound to no interface. -/
def ofFeedNote : FeedNote → List LogEntry
  | .oddFlag o => [ofOddFlag o]
  | .installed r =>
    ofRoute 0 r ++ [make .info .programs "static route added" [("route", .text r.text)]]

/-- The sum of what a feed did, unless it is nothing. -/
def ofFeed : Nat → List LogEntry
  | 0 => []
  | n + 1 => [make .info .boot "static routes installed" [("count", .number (n + 1))]]

/-! ## Failure -/

/-- A fatal error, then what stands behind it. -/
def ofError (e : BootError) : List LogEntry :=
  make .error .boot "lx-init failed" [("error", .text e.message), ("reason", .word e.reason)]
    :: e.causes.map fun c => make .error .boot "caused by" [("cause", .text c)]

def pausing : LogEntry := make .error .boot "pausing after fatal error" []

end LogEntry

end ZoneNet
