import ZoneNet.Json.Lexeme
import ZoneNet.Json.Value

/-!
# Reading a JSON document

Lexemes are taken one at a time by a machine with a stack of the brackets that are open, so nesting
has no limit. The machine stops when the value is complete, or at the first lexeme that cannot stand
where it does; then what is open is closed behind a `broken` leaf.
-/

namespace ZoneNet.Json

/-- An open bracket with what it holds so far (last first), and for an object the name of the member
whose value is being read. -/
inductive Frame where
  | array (done : List Json)
  | object (done : List (Option String × Json)) (key : Option String)

/-- What the machine waits for. -/
inductive State where
  | value (frames : List Frame)
  /-- Just behind an opening bracket of an array. -/
  | firstItem (frames : List Frame)
  | itemEnd (done : List Json) (frames : List Frame)
  /-- Just behind an opening bracket of an object. -/
  | firstMember (frames : List Frame)
  | member (done : List (Option String × Json)) (frames : List Frame)
  | colon (done : List (Option String × Json)) (key : Option String) (frames : List Frame)
  | memberEnd (done : List (Option String × Json)) (frames : List Frame)
  | complete (v : Json)

namespace State

/-- A value has come to its end. -/
def put (v : Json) : List Frame → State
  | [] => complete v
  | .array done :: fs => itemEnd (v :: done) fs
  | .object done key :: fs => memberEnd ((key, v) :: done) fs

/-- A value that is one lexeme, or the bracket that opens one. -/
def beginValue (fs : List Frame) : Lexeme → Option State
  | .null => some (put .null fs)
  | .bool b => some (put (.bool b) fs)
  | .number r => some (put (.number r) fs)
  | .string s => some (put (.string s) fs)
  | .openArray => some (firstItem fs)
  | .openObject => some (firstMember fs)
  | _ => none

/-- One lexeme more, if it can stand there. -/
def step : State → Lexeme → Option State
  | value fs, x => beginValue fs x
  | firstItem fs, .closeArray => some (put (.array []) fs)
  | firstItem fs, x => beginValue (.array [] :: fs) x
  | itemEnd done fs, .comma => some (value (.array done :: fs))
  | itemEnd done fs, .closeArray => some (put (.array done.reverse) fs)
  | firstMember fs, .closeObject => some (put (.object []) fs)
  | firstMember fs, .string key => some (colon [] key fs)
  | member done fs, .string key => some (colon done key fs)
  | colon done key fs, .colon => some (value (.object done key :: fs))
  | memberEnd done fs, .comma => some (member done fs)
  | memberEnd done fs, .closeObject => some (put (.object done.reverse) fs)
  | _, _ => none

/-- Closes open brackets around a value. -/
def close (v : Json) : List Frame → Json
  | [] => v
  | .array done :: fs => close (.array (v :: done).reverse) fs
  | .object done key :: fs => close (.object ((key, v) :: done).reverse) fs

/-- The document up to a fault. -/
def cutShort : State → Json
  | value fs => close .broken fs
  | firstItem fs => close .broken (.array [] :: fs)
  | itemEnd done fs => close .broken (.array done :: fs)
  | firstMember fs => close .broken (.object [] none :: fs)
  | member done fs | memberEnd done fs => close .broken (.object done none :: fs)
  | colon done key fs => close .broken (.object done key :: fs)
  | complete v => v

/-- Takes lexemes until the value is complete or a lexeme cannot stand; gives the rest. -/
def run : State → List Lexeme → Json × List Lexeme
  | complete v, ls => (v, ls)
  | s, [] => (s.cutShort, [])
  | s, x :: ls =>
    match s.step x with
    | some t => run t ls
    | none => (s.cutShort, x :: ls)

end State

/-- The value that a text starts with, and the lexemes behind it. -/
def read (l : List Char) : Json × List Lexeme := (State.value []).run (Lexeme.ofText l)

end ZoneNet.Json
