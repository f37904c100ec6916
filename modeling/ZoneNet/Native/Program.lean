import ZoneNet.Facility.Error
import ZoneNet.Log.Entry
import ZoneNet.Outcome
import ZoneNet.Text.Blank

/-!
# Native programs

A host answers each command: the program cannot be started, or it runs to an end with some output.
The answer may depend on all that happened before. What happened is the world's history, and what
was told for the log is part of it.
-/

namespace ZoneNet

/-- The variables that a program is given. -/
inductive Environment where
  | inherited
  /-- No variables but these. -/
  | only (vars : List (String × String))
  deriving DecidableEq, Repr

structure Command where
  path : String
  args : List String := []
  environment : Environment := .inherited
  /-- What it prints goes where the boot itself prints, and is not looked at. -/
  outputPassed : Bool := false
  deriving DecidableEq, Repr

/-- Whether a command holds a NUL, which no program can be given. -/
def Command.hasNul (c : Command) : Bool := c.args.any fun a => '\x00' ∈ a.toList

/-- The longest argument that a program can be given, in bytes. -/
def longestArgument : Nat := 131071

/-- Whether an argument of a command is too long. -/
def Command.isTooLong (c : Command) : Bool := c.args.any (longestArgument < ·.utf8ByteSize)

/-- How a program ended. -/
inductive Ending where
  | exited (code : Nat)
  | killed (signal : Nat)
  deriving DecidableEq, Repr

namespace Ending

def isSuccess : Ending → Bool
  | exited code => code == 0
  | killed _ => false

/-- The code of an ending; a program that was killed has none, and counts as -1. -/
def code : Ending → Int
  | exited code => code
  | killed _ => -1

/-- An ending as a phrase. -/
def phrase : Ending → String
  | exited code => "exited with status " ++ toString code
  | killed signal => "killed by signal " ++ toString signal

/-- The names of the signals, from 1 on. -/
def signalNames : List String :=
  ["SIGHUP", "SIGINT", "SIGQUIT", "SIGILL", "SIGTRAP", "SIGABRT", "SIGBUS", "SIGFPE", "SIGKILL",
    "SIGUSR1", "SIGSEGV", "SIGUSR2", "SIGPIPE", "SIGALRM", "SIGTERM", "SIGSTKFLT", "SIGCHLD",
    "SIGCONT", "SIGSTOP", "SIGTSTP", "SIGTTIN", "SIGTTOU", "SIGURG", "SIGXCPU", "SIGXFSZ",
    "SIGVTALRM", "SIGPROF", "SIGWINCH", "SIGIO", "SIGPWR", "SIGSYS"]

/-- An ending as a status, with the name of the signal. -/
def status : Ending → String
  | exited code => "exit status: " ++ toString code
  | killed 0 => "signal: 0"
  | killed (n + 1) =>
    match signalNames[n]? with
    | some name => "signal: " ++ toString (n + 1) ++ " (" ++ name ++ ")"
    | none => "signal: " ++ toString (n + 1)

end Ending

/-- A program that has run. -/
structure Completion where
  ending : Ending
  stdout : List UInt8 := []
  stderr : List UInt8 := []
  /-- It had not ended when the time allotted to it was over, where there was such a time. -/
  overruns : Bool := false
  deriving DecidableEq, Repr

/-- The text that bytes of output stand for, without the blanks at its ends. -/
def trimmedText (bytes : List UInt8) : List Char := Text.trim (Text.Utf8.decodeLossy bytes)

/-- Something that happened. -/
inductive Event where
  /-- A program was to be started. -/
  | start (command : Command) (response : Except SystemError Completion)
  /-- A message was written to the routing channel. -/
  | send (message : List UInt8) (response : Except SystemError Nat)
  /-- An entry was told for the log. -/
  | told (entry : LogEntry)
  /-- The process itself broke off. -/
  | abort

/-- What happened so far, in order. -/
abbrev World := List Event

/-- What stands at a path. -/
inductive Node where
  | directory
  | file
  deriving DecidableEq, Repr

/-- The machine that the boot runs on. -/
structure Host where
  /-- How a command is answered. -/
  respond : World → Command → Except SystemError Completion
  /-- What stands at a path, if anything. -/
  node : String → Option Node
  /-- The kernel's index of an interface. -/
  interfaceIndex : String → Option UInt32 := fun _ => none
  /-- How many bytes of a message the routing channel takes. -/
  routeWrite : World → List UInt8 → Except SystemError Nat
  processId : Int32 := 0

namespace World

/-- How a command is answered. Whether its program can be started is looked at before the length of
its arguments. -/
def answer (h : Host) (c : Command) (w : World) : Except SystemError Completion :=
  if c.hasNul then .error .nulByte
  else
    match h.respond w c with
    | .ok done => if c.isTooLong then .error .argumentTooLong else .ok done
    | .error e => .error e

/-- Gives a command to the host. -/
def run (h : Host) (c : Command) (w : World) : Outcome SystemError Completion World :=
  let r := answer h c w
  (r, w ++ [.start c r])

/-- Tells entries for the log. -/
def tell (entries : List LogEntry) (w : World) : World := w ++ entries.map .told

/-- The entry that an event is. -/
def told? : Event → Option LogEntry
  | .told e => some e
  | _ => none

/-- What was told for the log, in order. -/
def entries (w : World) : List LogEntry := w.filterMap told?

/-- The commands whose program was started, in order. -/
def started (w : World) : List Command :=
  w.filterMap fun
    | .start c (.ok _) => some c
    | _ => none

/-- Whether an event is the process's own end. -/
def isAbort : Event → Bool
  | .abort => true
  | _ => false

/-- The history up to the point where the process broke off. -/
def untilAbort (w : World) : World := w.takeWhile fun e => !isAbort e

/-- Whether the process broke off. -/
def aborted (w : World) : Bool := w.any isAbort

end World

end ZoneNet
