import ZoneNet.Boot.Run

/-!
# Rehearsals

A rehearsal is a boot on a machine that is nothing but a tree of files, so it shows which commands
a zone document leads to and changes nothing. The log and the console are files of the tree, too: a
file that one of them is written to holds what has been written, and cannot be started.
-/

namespace ZoneNet

/-- What a rehearsal is told before it starts. -/
structure Rehearsal where
  settings : Settings
  /-- What says which entries are logged. -/
  logSetting : Option String := none
  files : FileTree
  /-- The kernel's index of an interface. -/
  interfaceIndex : String → Option UInt32 := fun _ => none
  /-- What the routing channel says to a message. -/
  routeAnswer : List UInt8 → Except SystemError Nat := fun message => .ok message.length
  /-- The time that is told. -/
  time : String := "1970-01-01T00:00:00.000000Z"

namespace Rehearsal

variable (r : Rehearsal)

/-! ## The log and the console -/

/-- The log is created first. -/
def created : Outcome SystemError Place FileTree := r.files.createFile r.settings.bootLog

/-- The files once the log has been created. -/
def tree : FileTree := r.created.2

def logPlace? : Option Place := r.created.1.toOption

def console : Except SystemError (Place × Device) := r.tree.openForWriting r.settings.console

def consolePlace? : Option Place := r.console.toOption.map (·.1)

/-- Whether an entry is logged. -/
def keeps (e : LogEntry) : Bool := (LogFilter.ofSetting? r.logSetting).any (·.keeps e)

/-- The entries that have been logged, each as a text. -/
def written (text : LogEntry → String) (w : World) : List UInt8 :=
  (w.entries.filter r.keeps).flatMap fun e => Text.Utf8.encode (text e)

/-- A text with another one written over its beginning. -/
def overwrite (new old : List UInt8) : List UInt8 := new ++ old.drop new.length

/-- The bytes of a file after all that has happened. -/
def fileBytes (w : World) (path : String) : Except SystemError (List UInt8) :=
  match r.tree.resolve path with
  | .error e => .error e
  | .ok (_, none) => .error .notFound
  | .ok (_, some .directory) => .error .isDirectory
  | .ok (_, some (.closed e)) => .error e
  | .ok (_, some (.device _)) => .ok []
  | .ok (p, some (.file contents _)) =>
    let bytes := if r.logPlace? = some p then r.written (·.line r.time) w else contents
    .ok (if r.consolePlace? = some p then overwrite (r.written (·.consoleLine r.time) w) bytes
      else bytes)

/-! ## The machine -/

/-- Whether a command is given no time at all. -/
def isHurried (c : Command) : Bool :=
  r.settings.dhcpTimeout = 0 && c.path = r.settings.native "sbin/dhcpagent"

/-- How a command is answered. Within no time no program comes to its end. -/
def respond (w : World) (c : Command) : Except SystemError Completion :=
  (r.tree.start (r.logPlace?.toList ++ r.consolePlace?.toList) w c).map fun done =>
    { done with overruns := done.overruns || r.isHurried c }

/-- The machine of a rehearsal. -/
def machine : Machine where
  respond := r.respond
  node := r.tree.node
  interfaceIndex := r.interfaceIndex
  routeWrite _ message := r.routeAnswer message
  fileBytes := r.fileBytes
  openDevice _ := r.console.map (·.2)
  createFile _ := r.created.1.map fun _ => ()
  time := r.time

/-- What the boot leaves behind. -/
def report : Boot.Report := Boot.runWith r.machine r.settings r.logSetting

/-! ## Programs that succeed -/

/-- The native programs of a boot, as paths inside the native tree. -/
def programs : List String :=
  ["lib/inet/ipmgmtd", "usr/lib/inet/in.ndpd", "sbin/ifconfig", "usr/sbin/ipadm", "sbin/dhcpagent",
    "usr/lib/brand/lx/routeinfo", "usr/lib/brand/lx/lx_hook_postnet"]

/-- How often a command with these arguments has been started. -/
def timesStarted (args : List String) (w : World) : Nat :=
  w.started.countP (·.args = args)

/-- The next logical interface for these arguments. -/
def nextName (base : String) (args : List String) (w : World) : String :=
  base ++ ":" ++ toString (timesStarted args w + 1)

/-- What a command prints. Only a request for a logical interface has an answer. -/
def printed (w : World) (c : Command) : List UInt8 :=
  match c.args with
  | base :: rest =>
    if "addif" ∈ rest then
      let named := nextName base c.args w ++ "\n"
      Text.Utf8.encode (String.ofList AddressTools.newInterfaceMarker ++ named)
    else []
  | [] => []

/-- A program that always succeeds, and names the next logical interface where asked for one. -/
def succeed : Program := fun w c => { ending := .exited 0, stdout := printed w c }

end Rehearsal

/-! ## What a rehearsal shows -/

/-- An event as a line for people; entries of the log are shown apart. -/
def Event.text? : Event → Option String
  | .start c _ => some (String.intercalate " " (c.path :: c.args))
  | .send message _ => some ("(" ++ toString message.length ++ " bytes to the routing channel)")
  | .told _ => none
  | .abort => some "(aborted)"

/-- The number that the process ends with; one that would pause for ever counts as failed. -/
def Boot.Exit.number : Boot.Exit → Nat
  | .status code => code
  | .paused => 1

end ZoneNet
