/-!
# Cutting at a delimiter

`cut` takes a text apart at the first occurrence of a delimiter, `pieces` at every one. Both are
stated over lists of any symbols, so that they serve for characters and for bytes.

* `cut_eq_some_iff` — what `cut` hands back, with the delimiter between, is the text, and the
  first part is free of the delimiter.
* `join_pieces` — the pieces with the delimiter between them are the text again.
-/

namespace ZoneNet.Text

variable {α : Type} [DecidableEq α]

/-! ## The first occurrence -/

/-- The text before the first `d` and the text after it. -/
def cut (d : α) (l : List α) : Option (List α × List α) :=
  match l.dropWhile (· ≠ d) with
  | [] => none
  | _ :: r => some (l.takeWhile (· ≠ d), r)

@[simp] theorem cut_nil (d : α) : cut d [] = none := rfl

@[simp] theorem cut_cons_self (d : α) (l : List α) : cut d (d :: l) = some ([], l) := by
  simp [cut]

theorem cut_cons_of_ne {c d : α} (h : c ≠ d) (l : List α) :
    cut d (c :: l) = (cut d l).map fun p => (c :: p.1, p.2) := by
  have hd : (c :: l).dropWhile (· ≠ d) = l.dropWhile (· ≠ d) := by simp [h]
  have ht : (c :: l).takeWhile (· ≠ d) = c :: l.takeWhile (· ≠ d) := by simp [h]
  unfold cut
  rw [hd, ht]
  cases l.dropWhile (· ≠ d) <;> rfl

/-- A text cut at `d` is its first part, free of `d`, then `d`, then its second part. -/
theorem cut_eq_some_iff {d : α} {l a b : List α} :
    cut d l = some (a, b) ↔ l = a ++ d :: b ∧ d ∉ a := by
  induction l generalizing a with
  | nil => simp
  | cons c r ih =>
    by_cases h : c = d
    · subst h
      rw [cut_cons_self]
      cases a with
      | nil => simp
      | cons x a => simp +contextual
    · rw [cut_cons_of_ne h]
      cases a with
      | nil => simp [h]
      | cons x a =>
        constructor
        · intro hm
          obtain ⟨p, hp, he⟩ := Option.map_eq_some_iff.1 hm
          simp only [Prod.mk.injEq, List.cons.injEq] at he
          obtain ⟨⟨rfl, rfl⟩, rfl⟩ := he
          obtain ⟨hr, hn⟩ := ih.1 hp
          exact ⟨by rw [hr]; rfl, by simp [hn, Ne.symm h]⟩
        · rintro ⟨hr, hn⟩
          simp only [List.cons_append, List.cons.injEq] at hr
          obtain ⟨rfl, hr⟩ := hr
          simp only [List.mem_cons, not_or] at hn
          rw [ih.2 ⟨hr, hn.2⟩]
          rfl

/-- A text is left whole just when the delimiter is absent from it. -/
theorem cut_eq_none_iff {d : α} {l : List α} : cut d l = none ↔ d ∉ l := by
  induction l with
  | nil => simp
  | cons c r ih =>
    by_cases h : c = d
    · subst h; simp
    · rw [cut_cons_of_ne h]; simp [ih, Ne.symm h]

/-- The text before the first `d`, or all of it. -/
def before (d : α) (l : List α) : List α := l.takeWhile (· ≠ d)

/-! ## Every occurrence -/

/-- Puts one more symbol in front of a text that is already in pieces. -/
def extend (d c : α) (ps : List (List α)) : List (List α) :=
  if c = d then [] :: ps
  else
    match ps with
    | [] => [[c]]
    | p :: ps => (c :: p) :: ps

/-- The pieces between the occurrences of `d`; a text without `d` is one piece. -/
def pieces (d : α) (l : List α) : List (List α) := l.foldr (extend d) [[]]

@[simp] theorem pieces_nil (d : α) : pieces d [] = [[]] := rfl

theorem pieces_cons (d c : α) (l : List α) : pieces d (c :: l) = extend d c (pieces d l) := rfl

theorem pieces_ne_nil (d : α) (l : List α) : pieces d l ≠ [] := by
  cases l with
  | nil => simp
  | cons c r =>
    rw [pieces_cons]
    unfold extend
    split
    · simp
    · split <;> simp

/-- The pieces of a text joined by a delimiter are the pieces of both sides. -/
theorem pieces_append (d : α) (a b : List α) :
    pieces d (a ++ d :: b) = pieces d a ++ pieces d b := by
  induction a with
  | nil => simp [pieces_cons, extend]
  | cons c r ih =>
    rw [List.cons_append, pieces_cons, pieces_cons, ih]
    obtain ⟨p, ps, hp⟩ := List.exists_cons_of_ne_nil (pieces_ne_nil d r)
    by_cases h : c = d <;> simp [extend, h, hp]

/-- A text without the delimiter is its own only piece. -/
theorem pieces_of_not_mem {d : α} {l : List α} (h : d ∉ l) : pieces d l = [l] := by
  induction l with
  | nil => rfl
  | cons c r ih =>
    simp only [List.mem_cons, not_or] at h
    rw [pieces_cons, ih h.2]
    simp [extend, Ne.symm h.1]

/-- No piece holds the delimiter. -/
theorem not_mem_of_mem_pieces {d : α} {l p : List α} (h : p ∈ pieces d l) : d ∉ p := by
  induction l generalizing p with
  | nil => simp_all
  | cons c r ih =>
    rw [pieces_cons] at h
    obtain ⟨q, qs, hq⟩ := List.exists_cons_of_ne_nil (pieces_ne_nil d r)
    rw [hq] at h ih
    by_cases hc : c = d
    · simp only [extend, hc, if_true, List.mem_cons] at h
      rcases h with rfl | h
      · simp
      · exact ih (List.mem_cons.2 h)
    · simp only [extend, hc, if_false, List.mem_cons] at h
      rcases h with rfl | h
      · simp [Ne.symm hc, ih (List.mem_cons_self)]
      · exact ih (List.mem_cons_of_mem _ h)

/-- The texts of a list with `d` between them. -/
def join (d : α) : List (List α) → List α
  | [] => []
  | [p] => p
  | p :: ps => p ++ d :: join d ps

/-- The pieces, joined again, are the text. -/
theorem join_pieces (d : α) (l : List α) : join d (pieces d l) = l := by
  induction l with
  | nil => rfl
  | cons c r ih =>
    rw [pieces_cons]
    obtain ⟨p, ps, hp⟩ := List.exists_cons_of_ne_nil (pieces_ne_nil d r)
    rw [hp] at ih ⊢
    by_cases h : c = d
    · simp [extend, h, join, ih]
    · simp only [extend, h, if_false]
      cases ps <;> simp_all [join]

/-- Texts free of the delimiter come back from their join. -/
theorem pieces_join {d : α} {ps : List (List α)} (hne : ps ≠ []) (h : ∀ p ∈ ps, d ∉ p) :
    pieces d (join d ps) = ps := by
  induction ps with
  | nil => exact absurd rfl hne
  | cons p ps ih =>
    cases ps with
    | nil => exact pieces_of_not_mem (h p List.mem_cons_self)
    | cons q ps =>
      rw [join, pieces_append, pieces_of_not_mem (h p List.mem_cons_self),
        ih (by simp) (fun x hx => h x (List.mem_cons_of_mem _ hx))]
      · rfl
      · simp

end ZoneNet.Text
