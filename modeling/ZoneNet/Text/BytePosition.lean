/-!
# Byte positions

A position in a text can be told as the number of UTF-8 bytes before it. Not every number is one:
it may fall inside a character, or behind the end.

* `splitBytes?_eq_some_iff` — a text splits at a position just when so many bytes of it are a text.
-/

namespace ZoneNet.Text

/-- How many bytes a text takes in UTF-8. -/
def byteSize : List Char → Nat
  | [] => 0
  | c :: l => c.utf8Size + byteSize l

/-- The text before a position and the text behind it. -/
def splitBytes? : List Char → Nat → Option (List Char × List Char)
  | l, 0 => some ([], l)
  | [], _ + 1 => none
  | c :: l, n + 1 =>
    if c.utf8Size ≤ n + 1 then
      (splitBytes? l (n + 1 - c.utf8Size)).map fun p => (c :: p.1, p.2)
    else none

/-- The text between two positions. -/
def slice? (l : List Char) (start stop : Nat) : Option (List Char) :=
  match splitBytes? l start with
  | none => none
  | some (_, r) => (splitBytes? r (stop - start)).map (·.1)

/-- The text from a position on. -/
def sliceFrom? (l : List Char) (start : Nat) : Option (List Char) :=
  (splitBytes? l start).map (·.2)

theorem byteSize_eq_zero_iff {l : List Char} : byteSize l = 0 ↔ l = [] := by
  cases l with
  | nil => simp [byteSize]
  | cons c l => simp [byteSize, Nat.ne_of_gt c.utf8Size_pos]

theorem splitBytes?_eq_some_iff {l a b : List Char} {n : Nat} :
    splitBytes? l n = some (a, b) ↔ l = a ++ b ∧ byteSize a = n := by
  fun_induction splitBytes? l n generalizing a with
  | case1 l => grind [byteSize_eq_zero_iff]
  | case2 n =>
    constructor
    · simp
    · rintro ⟨h, hn⟩
      obtain ⟨rfl, rfl⟩ := List.append_eq_nil_iff.1 h.symm
      simp [byteSize] at hn
  | case3 c l n hc ih =>
    cases a with
    | nil => simp [byteSize]
    | cons x a =>
      simp only [Option.map_eq_some_iff, Prod.exists, Prod.mk.injEq, List.cons.injEq, byteSize,
        List.cons_append]
      constructor
      · rintro ⟨p, q, hp, ⟨rfl, rfl⟩, rfl⟩
        obtain ⟨rfl, hn⟩ := ih.1 hp
        exact ⟨⟨rfl, rfl⟩, by omega⟩
      · rintro ⟨⟨rfl, rfl⟩, hn⟩
        exact ⟨a, b, ih.2 ⟨rfl, by omega⟩, ⟨rfl, rfl⟩, rfl⟩
  | case4 c l n hc =>
    cases a with
    | nil => simp [byteSize]
    | cons x a =>
      simp only [byteSize, List.cons_append, List.cons.injEq, reduceCtorEq, false_iff, not_and]
      rintro ⟨rfl, rfl⟩
      omega

example : slice? "aéb".toList 1 3 = some ['é'] := by decide
example : slice? "aéb".toList 1 2 = none := by decide

end ZoneNet.Text
