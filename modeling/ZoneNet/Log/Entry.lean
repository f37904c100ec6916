/-!
# Entries of the boot log

An entry has a level, the part of the boot that it comes from, and named fields. In the file each
entry is one line of JSON.
-/

namespace ZoneNet

/-- How much an entry matters. -/
inductive Level where
  | error
  | warn
  | info
  | debug
  | trace
  deriving DecidableEq, Repr

namespace Level

def name : Level → String
  | error => "ERROR"
  | warn => "WARN"
  | info => "INFO"
  | debug => "DEBUG"
  | trace => "TRACE"

/-- The place of a level; what matters more comes first. -/
def rank : Level → Nat
  | error => 1
  | warn => 2
  | info => 3
  | debug => 4
  | trace => 5

end Level

/-- The part of the boot that an entry comes from. -/
inductive LogSource where
  | boot
  | logging
  | programs
  | tools
  | agent
  | routing
  | setup
  | placement
  | addresses
  | routes
  | feedLines
  | buffers
  deriving DecidableEq, Repr

/-- The name that directives select a source by; a `::` leads to a part of what stands before it. -/
def LogSource.target : LogSource → String
  | boot => "lx_init"
  | logging => "lx_init::logging"
  | programs => "lx_init::command"
  | tools => "lx_init::ipadm"
  | agent => "lx_init::dhcp"
  | routing => "lx_init::routing"
  | setup => "lxinit_networking::setup"
  | placement => "lxinit_networking::lif"
  | addresses => "lxinit_networking::address"
  | routes => "lxinit_networking::route"
  | feedLines => "lxinit_networking::static_route"
  | buffers => "lxinit_networking::netstack"

/-- The value of a field. -/
inductive LogValue where
  | text (s : String)
  /-- Text that a console shows between quotes. -/
  | word (s : String)
  | number (n : Nat)
  | flag (b : Bool)
  deriving DecidableEq, Repr

structure LogEntry where
  level : Level
  source : LogSource
  fields : List (String × LogValue)
  deriving DecidableEq, Repr

namespace LogEntry

/-- An entry with a message and further fields. -/
def make (level : Level) (source : LogSource) (message : String)
    (fields : List (String × LogValue)) : LogEntry :=
  ⟨level, source, ("message", .text message) :: fields⟩

def hasField (e : LogEntry) (name : String) : Bool := e.fields.any (·.1 = name)

/-! ## Written form -/

/-- A character inside quotes: the quote, the backslash and control characters are escaped. -/
def escape (c : Char) : List Char :=
  if c = '"' then ['\\', '"']
  else if c = '\\' then ['\\', '\\']
  else if c = '\n' then ['\\', 'n']
  else if c = '\r' then ['\\', 'r']
  else if c = '\t' then ['\\', 't']
  else if c = '\x08' then ['\\', 'b']
  else if c = '\x0C' then ['\\', 'f']
  else if c < ' ' then
    ['\\', 'u', '0', '0', Nat.digitChar (c.toNat / 16), Nat.digitChar (c.toNat % 16)]
  else [c]

def quoted (s : String) : String :=
  "\"" ++ String.ofList (s.toList.flatMap escape) ++ "\""

def valueText : LogValue → String
  | .text s | .word s => quoted s
  | .number n => toString n
  | .flag b => toString b

/-- An entry as one line of JSON, with the time at which it is written. -/
def line (time : String) (e : LogEntry) : String :=
  let fields := e.fields.map fun f => quoted f.1 ++ ":" ++ valueText f.2
  "\x7b\"timestamp\":" ++ quoted time ++ ",\"level\":" ++ quoted e.level.name ++ ",\"fields\":\x7b"
    ++ String.intercalate "," fields ++ "\x7d,\"target\":" ++ quoted e.source.target ++ "\x7d\n"

end LogEntry

end ZoneNet
