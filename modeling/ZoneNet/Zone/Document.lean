import ZoneNet.Facility.Error
import ZoneNet.Json.Reader
import ZoneNet.Json.Record
import ZoneNet.Zone.Config

/-!
# The zone document

A zone is declared by a JSON document. Names that are not known are passed over.
-/

namespace ZoneNet

open Json (RecordField)

def Attr.fields : List (RecordField Attr) :=
  [⟨"name", true, fun v d => do return { d with name := ← v.text? }⟩,
    ⟨"value", true, fun v d => do return { d with value := ← v.text? }⟩]

def Attr.ofJson? : Json → Except DocumentFault Attr := Json.record? fields ⟨"", ""⟩

def Net.fields : List (RecordField Net) :=
  [⟨"physical", true, fun v d => do return { d with physical := ← v.text? }⟩,
    ⟨"allowed_address", false, fun v d => do return { d with allowedAddress := ← v.optionalText? }⟩,
    ⟨"defrouter", false, fun v d => do return { d with defaultRouter := ← v.optionalText? }⟩,
    ⟨"attrs", false, fun v d => do return { d with attrs := ← v.list? Attr.ofJson? }⟩]

def Net.ofJson? : Json → Except DocumentFault Net := Json.record? fields { physical := "" }

namespace Zone

def fields : List (RecordField Zone) :=
  [⟨"zonename", true, fun v d => do return { d with name := ← v.text? }⟩,
    ⟨"ip_type", false, fun v d => do return { d with ipType := ← v.text? }⟩,
    ⟨"attrs", false, fun v d => do return { d with attrs := ← v.list? Attr.ofJson? }⟩,
    ⟨"nets", false, fun v d => do return { d with nets := ← v.list? Net.ofJson? }⟩]

def ofJson? : Json → Except DocumentFault Zone := Json.record? fields { name := "" }

/-- The zone that a text declares. Nothing but blanks may follow the document. -/
def ofText? (l : List Char) : Except DocumentFault Zone :=
  let (v, rest) := Json.read l
  match ofJson? v with
  | .error e => .error e
  | .ok z => if rest.isEmpty then .ok z else .error .malformed

/-- Why no zone could be loaded. -/
inductive LoadFault where
  | unreadable (cause : SystemError)
  | document (fault : DocumentFault)
  deriving DecidableEq, Repr

def LoadFault.message : LoadFault → String
  | unreadable cause => cause.message
  | document fault => fault.message

/-- The zone that a file declares. -/
def load (file : Except SystemError (List UInt8)) : Except LoadFault Zone :=
  match file with
  | .error e => .error (.unreadable e)
  | .ok bytes =>
    match Text.Utf8.decode bytes with
    | .error _ => .error (.unreadable .notText)
    | .ok l =>
      match ofText? l with
      | .error e => .error (.document e)
      | .ok z => .ok z

end Zone

end ZoneNet
