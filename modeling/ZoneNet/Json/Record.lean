import ZoneNet.Json.Value

/-!
# Records in JSON

A record is an object with members of known names, or an array with the fields in their order. The
value is walked in the order of the document, and the first fault decides.
-/

namespace ZoneNet

/-- Why a document does not hold what it should. -/
inductive DocumentFault where
  /-- The document is no JSON, or goes on where it should end. -/
  | malformed
  | invalidType
  | invalidLength
  | missing (field : String)
  | duplicate (field : String)
  deriving DecidableEq, Repr

def DocumentFault.message : DocumentFault → String
  | malformed => "syntax"
  | invalidType => "invalid type"
  | invalidLength => "invalid length"
  | missing field => "missing field `" ++ field ++ "`"
  | duplicate field => "duplicate field `" ++ field ++ "`"

namespace Json

/-- The fault of a value that stands where another kind of value should: one that cannot even be
read to its end is malformed. -/
def typeFault : Json → DocumentFault
  | broken | string none | number false => .malformed
  | _ => .invalidType

def text? : Json → Except DocumentFault String
  | string (some s) => .ok s
  | v => .error v.typeFault

/-- A text that may be given as `null`. -/
def optionalText? : Json → Except DocumentFault (Option String)
  | null => .ok none
  | v => v.text?.map some

/-- A list whose members are all read the same way. -/
def list? {α : Type} (f : Json → Except DocumentFault α) : Json → Except DocumentFault (List α)
  | array items => items.mapM f
  | v => .error v.typeFault

/-! ## Records -/

/-- A field of a record: how its value is put into a draft of the record. -/
structure RecordField (δ : Type) where
  name : String
  required : Bool
  set : Json → δ → Except DocumentFault δ

variable {δ : Type}

/-- Takes members in order. A known name may come once; what stands under other names is only read
to its end. -/
def takeMembers (fields : List (RecordField δ)) :
    List (Option String × Json) → List String → δ → Except DocumentFault (List String × δ)
  | [], seen, d => .ok (seen, d)
  | (none, _) :: _, _, _ => .error .malformed
  | (some name, v) :: r, seen, d =>
    match fields.find? (·.name = name) with
    | none => if v.isComplete then takeMembers fields r seen d else .error .malformed
    | some field =>
      if name ∈ seen then .error (.duplicate name)
      else
        match field.set v d with
        | .error e => .error e
        | .ok d => takeMembers fields r (name :: seen) d

/-- The first field that is needed and was not given. -/
def missing? (fields : List (RecordField δ)) (seen : List String) : Option String :=
  (fields.find? fun f => f.required ∧ f.name ∉ seen).map (·.name)

/-- Takes items for the fields in order. Only fields that are not needed may be left out at the end,
and there may be no more items than fields. -/
def takeItems : List (RecordField δ) → List Json → δ → Except DocumentFault δ
  | [], [], d => .ok d
  | [], _ :: _, _ => .error .malformed
  | f :: fs, [], d => if f.required then .error .invalidLength else takeItems fs [] d
  | f :: fs, v :: r, d =>
    match f.set v d with
    | .error e => .error e
    | .ok d => takeItems fs r d

/-- Reads a record into a draft that holds the defaults. -/
def record? (fields : List (RecordField δ)) (draft : δ) : Json → Except DocumentFault δ
  | object members =>
    match takeMembers fields members [] draft with
    | .error e => .error e
    | .ok (seen, d) =>
      match missing? fields seen with
      | some name => .error (.missing name)
      | none => .ok d
  | array items => takeItems fields items draft
  | v => .error v.typeFault

end Json

end ZoneNet
