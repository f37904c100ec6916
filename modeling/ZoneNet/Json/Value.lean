/-!
# JSON documents

The tree of a JSON document as far as the document is well formed. A document that is not is read up
to its first fault, and the tree has a `broken` leaf there; every bracket still open is closed
behind it. So a reader that walks the tree in the order of the document meets the fault exactly
where the document has it.
-/

namespace ZoneNet

inductive Json where
  | null
  | bool (b : Bool)
  /-- A number; `inRange` tells whether a double can hold it. -/
  | number (inRange : Bool)
  /-- A string; absent if an escape in it names half a surrogate pair. -/
  | string (s : Option String)
  | array (items : List Json)
  | object (members : List (Option String × Json))
  /-- The first fault of the document. -/
  | broken

namespace Json

/-- Whether a value has come to its end: the document has its first fault, if any, elsewhere. A
fault is always in the last part. -/
def isComplete : Json → Bool
  | broken => false
  | array items =>
    match _h : items.getLast? with
    | some v => isComplete v
    | none => true
  | object members =>
    match _h : members.getLast? with
    | some m => isComplete m.2
    | none => true
  | _ => true
termination_by v => sizeOf v
decreasing_by
  · have := List.sizeOf_lt_of_mem (List.mem_of_getLast? _h)
    simp only [array.sizeOf_spec]
    omega
  · have := List.sizeOf_lt_of_mem (List.mem_of_getLast? _h)
    have : sizeOf m.2 < sizeOf m := by cases m; simp +arith
    simp only [object.sizeOf_spec]
    omega

end Json

end ZoneNet
