import ZoneNet.Text.Cut
import ZoneNet.Text.Line

/-!
# The ends of lines

A text is cut into lines from its end. The same lines are had from the pieces between its line
feeds: each piece but the last is a line, and the last is one unless it is empty.

* `terminated_eq` — a line that has an end is a piece with its line feed.
* `map_dropEnd_terminated` — the lines without their ends are the pieces.
* `lines_append_cons`, `lines_of_not_mem` — the first line of a text, and the only one.
-/

namespace ZoneNet.Text

variable {α : Type} [DecidableEq α]

/-- Every piece but the last with a line feed after it; an empty last piece is no line. -/
def withEnds (lf : α) : List (List α) → List (List α)
  | [] => []
  | [p] => if p = [] then [] else [p]
  | p :: ps => (p ++ [lf]) :: withEnds lf ps

/-- A text without one carriage return at its end. -/
def dropReturn (cr : α) (l : List α) : List α :=
  if l.getLast? = some cr then l.dropLast else l

/-- The lines that the pieces of a text make up. Every piece but the last is a line, without one
carriage return at its end; the last is a line as it stands, unless it is empty. -/
def linesOf (cr : α) : List (List α) → List (List α)
  | [] => []
  | [p] => if p = [] then [] else [p]
  | p :: ps => dropReturn cr p :: linesOf cr ps

/-- One more symbol goes in front of the first piece whether the pieces have their ends or not. -/
theorem prependToLines_withEnds (lf c : α) {ps : List (List α)} (h : ps ≠ []) :
    prependToLines lf c (withEnds lf ps) = withEnds lf (extend lf c ps) := by
  obtain ⟨p, ps, rfl⟩ := List.exists_cons_of_ne_nil h
  unfold prependToLines extend
  by_cases hc : c = lf
  · rw [if_pos hc, if_pos hc, hc]
    rfl
  · rw [if_neg hc, if_neg hc]
    cases ps with
    | nil =>
      by_cases hp : p = []
      · simp [withEnds, hp]
      · simp [withEnds, hp]
    | cons q ps => rfl

theorem terminated_eq (lf : α) (l : List α) : terminated lf l = withEnds lf (pieces lf l) := by
  induction l with
  | nil => rfl
  | cons c l ih =>
    rw [terminated_cons, pieces_cons, ih, prependToLines_withEnds lf c (pieces_ne_nil lf l)]

/-- A line that has an end loses it, and one carriage return before it. -/
theorem dropEnd_append_singleton (lf cr : α) (p : List α) :
    dropEnd lf cr (p ++ [lf]) = dropReturn cr p := by
  rcases List.eq_nil_or_concat p with rfl | ⟨q, d, rfl⟩
  · simp [dropEnd, dropReturn]
  · by_cases hd : d = cr
    · simp [dropEnd, dropReturn, hd]
    · simp [dropEnd, dropReturn, hd]

/-- A line without an end is kept. -/
theorem dropEnd_of_not_mem {lf : α} (cr : α) {p : List α} (h : lf ∉ p) : dropEnd lf cr p = p := by
  rcases List.eq_nil_or_concat p with rfl | ⟨q, d, rfl⟩
  · rfl
  · have hd : d ≠ lf := by
      rintro rfl
      simp at h
    simp [dropEnd, hd]

theorem map_dropEnd_withEnds (lf cr : α) {ps : List (List α)} (h : ∀ p ∈ ps, lf ∉ p) :
    (withEnds lf ps).map (dropEnd lf cr) = linesOf cr ps := by
  induction ps with
  | nil => rfl
  | cons p ps ih =>
    cases ps with
    | nil =>
      by_cases hp : p = []
      · simp [withEnds, linesOf, hp]
      · simp [withEnds, linesOf, hp, dropEnd_of_not_mem cr (h p List.mem_cons_self)]
    | cons q ps =>
      have hrest := ih fun x hx => h x (List.mem_cons_of_mem _ hx)
      rw [withEnds, linesOf, List.map_cons, dropEnd_append_singleton, hrest]
      · simp
      · simp

/-- The lines of a text without their ends are made up by its pieces. -/
theorem map_dropEnd_terminated (lf cr : α) (l : List α) :
    (terminated lf l).map (dropEnd lf cr) = linesOf cr (pieces lf l) := by
  rw [terminated_eq, map_dropEnd_withEnds lf cr fun _ hp => not_mem_of_mem_pieces hp]

/-! ## Lines of characters -/

theorem dropReturn_prefix (cr : α) (l : List α) : dropReturn cr l <+: l := by
  unfold dropReturn
  split
  · exact List.dropLast_prefix l
  · exact List.prefix_rfl

/-- Every line is the beginning of a piece. -/
theorem exists_of_mem_linesOf {cr : α} {ps : List (List α)} {line : List α}
    (h : line ∈ linesOf cr ps) : ∃ p ∈ ps, line <+: p := by
  induction ps with
  | nil => cases h
  | cons p ps ih =>
    cases ps with
    | nil =>
      unfold linesOf at h
      split at h
      · cases h
      · exact ⟨p, List.mem_cons_self, List.mem_singleton.1 h ▸ List.prefix_rfl⟩
    | cons q ps =>
      rw [linesOf] at h
      · rcases List.mem_cons.1 h with rfl | h
        · exact ⟨p, List.mem_cons_self, dropReturn_prefix cr p⟩
        · obtain ⟨x, hx, hline⟩ := ih h
          exact ⟨x, List.mem_cons_of_mem p hx, hline⟩
      · simp

/-- No line holds a line feed. -/
theorem not_mem_of_mem_lines {l line : List Char} (h : line ∈ lines l) : '\n' ∉ line := by
  rw [lines, map_dropEnd_terminated] at h
  obtain ⟨p, hp, hline⟩ := exists_of_mem_linesOf h
  exact fun hm => not_mem_of_mem_pieces hp (hline.subset hm)

/-- What stands before the first line feed is the first line, without one carriage return at its
end. -/
theorem lines_append_cons {p : List Char} (h : '\n' ∉ p) (r : List Char) :
    lines (p ++ '\n' :: r) = dropReturn '\r' p :: lines r := by
  rw [lines, map_dropEnd_terminated, pieces_append, pieces_of_not_mem h, List.singleton_append,
    linesOf, lines, map_dropEnd_terminated]
  exact pieces_ne_nil '\n' r

/-- A text without a line feed is one line, unless it is empty. -/
theorem lines_of_not_mem {p : List Char} (h : '\n' ∉ p) :
    lines p = if p = [] then [] else [p] := by
  rw [lines, map_dropEnd_terminated, pieces_of_not_mem h, linesOf]

end ZoneNet.Text
