import ZoneNet.Json.Reader
import ZoneNet.Proofs.Json.Grammar

/-!
# Reading what is written

A value has one row of lexemes, with commas between what a bracket holds. A text that holds these
lexemes is a document of the value, and is read as that value.

* `State.run_value` — the machine takes the lexemes of a value and puts the value where it belongs.
* `isComplete_of_whole` — a value without a fault comes to its end.
* `Document.read` — a document is read as its value, with nothing left.
-/

namespace ZoneNet.Json

/-! ## The lexemes of a value -/

mutual

/-- The lexemes that a value is written with. -/
def lexemes : Json → List Lexeme
  | null => [.null]
  | bool b => [.bool b]
  | number b => [.number b]
  | string s => [.string s]
  | array [] => [.openArray, .closeArray]
  | array (v :: vs) => .openArray :: (lexemes v ++ moreItems vs)
  | object [] => [.openObject, .closeObject]
  | object ((key, v) :: ms) =>
    .openObject :: .string key :: .colon :: (lexemes v ++ moreMembers ms)
  | broken => [.broken]

/-- The lexemes of further items, up to the closing bracket. -/
def moreItems : List Json → List Lexeme
  | [] => [.closeArray]
  | v :: vs => .comma :: (lexemes v ++ moreItems vs)

/-- The lexemes of further members, up to the closing bracket. -/
def moreMembers : List (Option String × Json) → List Lexeme
  | [] => [.closeObject]
  | (key, v) :: ms => .comma :: .string key :: .colon :: (lexemes v ++ moreMembers ms)

end

/-- A value without a fault. -/
def Whole (v : Json) : Prop := Lexeme.broken ∉ v.lexemes

/-- A text that holds a value and nothing else. -/
def Document (v : Json) (text : List Char) : Prop := Lexeme.Written v.lexemes text

/-! ## The machine -/

namespace State

/-- Behind the bracket of an array an item is read like any other. -/
theorem run_firstItem (v : Json) (fs : List Frame) (rest : List Lexeme) :
    (firstItem fs).run (v.lexemes ++ rest) = (value (.array [] :: fs)).run (v.lexemes ++ rest) := by
  rcases v with _ | _ | _ | _ | (_ | _) | (_ | _) | _ <;> simp only [lexemes] <;> rfl

mutual

/-- The machine takes the lexemes of a value and puts the value where it belongs. -/
theorem run_value (v : Json) (h : v.Whole) (fs : List Frame) (rest : List Lexeme) :
    (value fs).run (v.lexemes ++ rest) = (put v fs).run rest := by
  match v with
  | .null | .bool _ | .number _ | .string _ | .array [] | .object [] =>
    simp only [lexemes]
    rfl
  | .array (v :: vs) =>
    simp only [Whole, lexemes, List.mem_cons, List.mem_append, not_or] at h
    have hopen : (value fs).run ((Json.array (v :: vs)).lexemes ++ rest)
        = (firstItem fs).run (v.lexemes ++ (moreItems vs ++ rest)) := by
      simp only [lexemes, List.cons_append, List.append_assoc]
      rfl
    rw [hopen, run_firstItem, run_value v h.2.1]
    exact run_moreItems vs h.2.2 [v] fs rest
  | .object ((key, v) :: ms) =>
    simp only [Whole, lexemes, List.mem_cons, List.mem_append, not_or] at h
    have hopen : (value fs).run ((Json.object ((key, v) :: ms)).lexemes ++ rest)
        = (value (.object [] key :: fs)).run (v.lexemes ++ (moreMembers ms ++ rest)) := by
      simp only [lexemes, List.cons_append, List.append_assoc]
      rfl
    rw [hopen, run_value v h.2.2.2.1]
    exact run_moreMembers ms h.2.2.2.2 [(key, v)] fs rest
  | .broken => simp [Whole, lexemes] at h

theorem run_moreItems (vs : List Json) (h : .broken ∉ moreItems vs) (done : List Json)
    (fs : List Frame) (rest : List Lexeme) :
    (itemEnd done fs).run (moreItems vs ++ rest) = (put (.array (done.reverse ++ vs)) fs).run rest := by
  match vs with
  | [] =>
    simp only [moreItems, List.append_nil]
    rfl
  | v :: vs =>
    simp only [moreItems, List.mem_cons, List.mem_append, not_or] at h
    have hcomma : (itemEnd done fs).run (moreItems (v :: vs) ++ rest)
        = (value (.array done :: fs)).run (v.lexemes ++ (moreItems vs ++ rest)) := by
      simp only [moreItems, List.cons_append, List.append_assoc]
      rfl
    rw [hcomma, run_value v h.2.1, put, run_moreItems vs h.2.2 (v :: done), List.reverse_cons,
      List.append_assoc]
    rfl

theorem run_moreMembers (ms : List (Option String × Json)) (h : .broken ∉ moreMembers ms)
    (done : List (Option String × Json)) (fs : List Frame) (rest : List Lexeme) :
    (memberEnd done fs).run (moreMembers ms ++ rest)
      = (put (.object (done.reverse ++ ms)) fs).run rest := by
  match ms with
  | [] =>
    simp only [moreMembers, List.append_nil]
    rfl
  | (key, v) :: ms =>
    simp only [moreMembers, List.mem_cons, List.mem_append, not_or] at h
    have hcomma : (memberEnd done fs).run (moreMembers ((key, v) :: ms) ++ rest)
        = (value (.object done key :: fs)).run (v.lexemes ++ (moreMembers ms ++ rest)) := by
      simp only [moreMembers, List.cons_append, List.append_assoc]
      rfl
    rw [hcomma, run_value v h.2.2.2.1, put, run_moreMembers ms h.2.2.2.2 ((key, v) :: done),
      List.reverse_cons, List.append_assoc]
    rfl

end

end State

/-! ## Documents -/

mutual

theorem numbersApart_lexemes (v : Json) {rest : List Lexeme} (hrest : Lexeme.NumbersApart rest)
    (hstart : ∀ y ∈ rest.head?, y.isNumber = false) :
    Lexeme.NumbersApart (v.lexemes ++ rest) := by
  match v with
  | .null | .bool _ | .string _ | .broken =>
    simp only [lexemes]
    exact ⟨nofun, hrest⟩
  | .number _ =>
    simp only [lexemes]
    exact ⟨fun _ => hstart, hrest⟩
  | .array [] | .object [] =>
    simp only [lexemes]
    exact ⟨nofun, nofun, hrest⟩
  | .array (v :: vs) =>
    obtain ⟨hapart, hhead⟩ := numbersApart_moreItems vs hrest
    simp only [lexemes, List.cons_append, List.append_assoc]
    exact ⟨nofun, numbersApart_lexemes v hapart hhead⟩
  | .object ((key, v) :: ms) =>
    obtain ⟨hapart, hhead⟩ := numbersApart_moreMembers ms hrest
    simp only [lexemes, List.cons_append, List.append_assoc]
    exact ⟨nofun, nofun, nofun, numbersApart_lexemes v hapart hhead⟩

theorem numbersApart_moreItems (vs : List Json) {rest : List Lexeme}
    (hrest : Lexeme.NumbersApart rest) : Lexeme.NumbersApart (moreItems vs ++ rest) ∧
      ∀ y ∈ (moreItems vs ++ rest).head?, y.isNumber = false := by
  match vs with
  | [] =>
    simp only [moreItems]
    exact ⟨⟨nofun, hrest⟩, fun _ h => Option.mem_some.1 h ▸ rfl⟩
  | v :: vs =>
    obtain ⟨hapart, hhead⟩ := numbersApart_moreItems vs hrest
    simp only [moreItems, List.cons_append, List.append_assoc]
    exact ⟨⟨nofun, numbersApart_lexemes v hapart hhead⟩, fun _ h => Option.mem_some.1 h ▸ rfl⟩

theorem numbersApart_moreMembers (ms : List (Option String × Json)) {rest : List Lexeme}
    (hrest : Lexeme.NumbersApart rest) : Lexeme.NumbersApart (moreMembers ms ++ rest) ∧
      ∀ y ∈ (moreMembers ms ++ rest).head?, y.isNumber = false := by
  match ms with
  | [] =>
    simp only [moreMembers]
    exact ⟨⟨nofun, hrest⟩, fun _ h => Option.mem_some.1 h ▸ rfl⟩
  | (key, v) :: ms =>
    obtain ⟨hapart, hhead⟩ := numbersApart_moreMembers ms hrest
    simp only [moreMembers, List.cons_append, List.append_assoc]
    exact ⟨⟨nofun, nofun, nofun, numbersApart_lexemes v hapart hhead⟩,
      fun _ h => Option.mem_some.1 h ▸ rfl⟩

end

theorem not_mem_moreItems {vs : List Json} :
    .broken ∉ moreItems vs ↔ ∀ v ∈ vs, v.Whole := by
  induction vs with
  | nil => simp [moreItems]
  | cons v vs ih => simp [moreItems, ih, Whole]

theorem not_mem_moreMembers {ms : List (Option String × Json)} :
    .broken ∉ moreMembers ms ↔ ∀ m ∈ ms, m.2.Whole := by
  induction ms with
  | nil => simp [moreMembers]
  | cons m ms ih => simp [moreMembers, ih, Whole]

/-- The items of an array have no fault if the array has none. -/
theorem whole_array {vs : List Json} : Whole (.array vs) ↔ ∀ v ∈ vs, v.Whole := by
  rcases vs with _ | ⟨v, vs⟩
  · simp [Whole, lexemes]
  · rw [List.forall_mem_cons, ← not_mem_moreItems]
    simp [Whole, lexemes]

theorem whole_object {ms : List (Option String × Json)} :
    Whole (.object ms) ↔ ∀ m ∈ ms, m.2.Whole := by
  rcases ms with _ | ⟨m, ms⟩
  · simp [Whole, lexemes]
  · rw [List.forall_mem_cons, ← not_mem_moreMembers]
    simp [Whole, lexemes]

/-- A value without a fault comes to its end. -/
theorem isComplete_of_whole {v : Json} (h : v.Whole) : v.isComplete = true := by
  fun_induction isComplete v with
  | case1 => simp [Whole, lexemes] at h
  | case2 vs v hlast ih => exact ih (whole_array.1 h v (List.mem_of_getLast? hlast))
  | case3 => rfl
  | case4 ms m hlast ih => exact ih (whole_object.1 h m (List.mem_of_getLast? hlast))
  | case5 => rfl
  | case6 => rfl

/-- What is broken cannot be written. -/
theorem broken_not_mem_of_written {ls : List Lexeme} {text : List Char}
    (h : Lexeme.Written ls text) : .broken ∉ ls := by
  induction h with
  | nil => exact List.not_mem_nil
  | cons _ hx _ ih =>
    rintro (_ | ⟨_, hmem⟩)
    · cases hx
    · exact ih hmem

theorem Document.whole {v : Json} {text : List Char} (h : v.Document text) : v.Whole :=
  broken_not_mem_of_written h

/-- A document is read as its value, and nothing is left. -/
theorem Document.read {v : Json} {text : List Char} (h : v.Document text) :
    Json.read text = (v, []) := by
  have hlexemes : Lexeme.ofText text = v.lexemes := by
    refine Lexeme.Written.ofText h ?_
    have hapart : Lexeme.NumbersApart (v.lexemes ++ []) := numbersApart_lexemes v trivial nofun
    rwa [List.append_nil] at hapart
  have hrun := State.run_value v h.whole [] []
  unfold Json.read
  rw [hlexemes]
  rw [List.append_nil] at hrun
  exact hrun

end ZoneNet.Json
