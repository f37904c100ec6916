import ZoneNet.Log.Entry
import ZoneNet.Text.Visible

/-!
# Entries on a console

A console shows an entry as one line for people: the time, the level, the source, the message, and
the other fields by name. Text inside a field may hold line feeds, so a line can take more than one
row.
-/

namespace ZoneNet

/-- A level in a column of five characters. -/
def Level.column (l : Level) : String := if l.name.length < 5 then " " ++ l.name else l.name

namespace LogEntry

/-- The controls of ASCII that a terminal could obey, with the text in their place. -/
def controlNames : List (Char × String) :=
  [('\x1b', "\\x1b"), ('\x07', "\\x07"), ('\x08', "\\x08"), ('\x0C', "\\x0c"), ('\x7f', "\\x7f")]

/-- A character of a message. What a terminal could obey is written as text. -/
def disarm (c : Char) : List Char :=
  match controlNames.lookup c with
  | some name => name.toList
  | none =>
    if 0x80 ≤ c.toNat ∧ c.toNat ≤ 0x9F then
      ['\\', 'u', '\x7b'] ++ Nat.toDigits 16 c.toNat ++ ['\x7d']
    else [c]

def valueOnConsole : LogValue → String
  | .text s => s
  | .word s => Text.quoteVisibly s
  | .number n => toString n
  | .flag b => toString b

/-- A field; the message has no name. -/
def fieldOnConsole (name : String) (v : LogValue) : String :=
  if name = "message" then String.ofList ((valueOnConsole v).toList.flatMap disarm)
  else name ++ "=" ++ valueOnConsole v

/-- An entry as a console shows it at a time. -/
def consoleLine (time : String) (e : LogEntry) : String :=
  time ++ " " ++ e.level.column ++ " " ++ e.source.target ++ ": "
    ++ String.intercalate " " (e.fields.map fun f => fieldOnConsole f.1 f.2) ++ "\n"

end LogEntry

end ZoneNet
