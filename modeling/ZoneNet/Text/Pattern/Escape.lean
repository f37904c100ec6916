import ZoneNet.Text.Blank
import ZoneNet.Text.Hexadecimal
import ZoneNet.Text.Pattern.Atom

/-!
# Blanks and escapes in a pattern

* `skip_suffix`, `read?_suffix` — what is left of a text is an end of it.
-/

namespace ZoneNet.Text.Pattern

/-! ## Blanks and comments -/

/-- The text behind its leading blanks and comments; a comment ends with its line. -/
def skipFrom : Bool → List Char → List Char
  | _, [] => []
  | true, c :: r => skipFrom (c ≠ '\n') r
  | false, c :: r =>
    if isBlank c then skipFrom false r else if c = '#' then skipFrom true r else c :: r

theorem skipFrom_suffix (inComment : Bool) (l : List Char) : skipFrom inComment l <:+ l := by
  fun_induction skipFrom inComment l with
  | case1 => exact List.suffix_rfl
  | case2 c r ih => exact ih.trans (List.suffix_cons c r)
  | case3 c r _ ih => exact ih.trans (List.suffix_cons c r)
  | case4 r _ ih => exact ih.trans (List.suffix_cons _ r)
  | case5 => exact List.suffix_rfl

/-- The text behind what does not count. -/
def skip (m : Modes) (l : List Char) : List Char := if m.verbose then skipFrom false l else l

theorem skip_suffix (m : Modes) (l : List Char) : skip m l <:+ l := by
  unfold skip
  split
  · exact skipFrom_suffix _ _
  · exact List.suffix_rfl

/-- The character that seems to come next. A look ahead goes past the sign of a comment, but takes
the text of the comment for what comes next. -/
def peek (m : Modes) (l : List Char) : Option Char :=
  if m.verbose then
    match trimStart l with
    | '#' :: r => (trimStart r).head?
    | r => r.head?
  else l.head?

/-! ## Escapes -/

namespace Escape

/-- How many hexadecimal digits stand behind a letter. -/
def width? : Char → Option Nat
  | 'x' => some 2
  | 'u' => some 4
  | 'U' => some 8
  | _ => none

/-- The number of so many digits behind the digits already read. -/
def number? (m : Modes) : Nat → Nat → List Char → Option (Nat × List Char)
  | 0, n, l => some (n, l)
  | width + 1, n, l =>
    match skip m l with
    | [] => none
    | c :: r =>
      match hexValue? c with
      | none => none
      | some d => number? m width (n * 16 + d) r

theorem number?_suffix {m : Modes} {width n k : Nat} {l r : List Char}
    (h : number? m width n l = some (k, r)) : r <:+ l := by
  induction width generalizing n l with
  | zero =>
    simp only [number?, Option.some.injEq, Prod.mk.injEq] at h
    exact h.2 ▸ List.suffix_rfl
  | succ width ih =>
    unfold number? at h
    have hs := skip_suffix m l
    split at h
    · cases h
    · next c q hq =>
      split at h
      · cases h
      · rw [hq] at hs
        exact ((ih h).trans (List.suffix_cons c q)).trans hs

/-- The letters for control characters, by their code points. -/
def controls : List (Char × Char) :=
  [('a', '\x07'), ('f', '\x0C'), ('t', '\t'), ('n', '\n'), ('r', '\r'), ('v', '\x0B')]

/-- What one character behind a backslash stands for. A sign of ASCII stands for itself; only `<`
and `>` are signs with a sense of their own. -/
def ofChar? (c : Char) : Option Atom :=
  if c ∈ ['d', 's', 'w'] then some (.kind false)
  else if c ∈ ['D', 'S', 'W'] then some (.kind true)
  else if c ∈ ['A', 'z'] then some .edge
  else if c ∈ ['b', 'B', '<', '>'] then some .wordEdge
  else
    match controls.lookup c with
    | some x => some (.literal x false)
    | none => if Atom.isAscii c ∧ !c.isAlphanum then some (.literal c false) else none

/-- The atom that an escape stands for, read behind the backslash. -/
def read? (m : Modes) : List Char → Option (Atom × List Char)
  | [] => none
  | c :: r =>
    match width? c with
    | none => (ofChar? c).map fun a => (a, r)
    | some width =>
      match number? m width 0 r with
      | none => none
      | some (n, r) =>
        if n.isValidChar then some (.literal (Char.ofNat n) (width = 2), r) else none

theorem read?_suffix {m : Modes} {l r : List Char} {a : Atom} (h : read? m l = some (a, r)) :
    r <:+ l := by
  unfold read? at h
  split at h
  · cases h
  · next c q =>
    split at h
    · obtain ⟨_, _, he⟩ := Option.map_eq_some_iff.1 h
      simp only [Prod.mk.injEq] at he
      exact he.2 ▸ List.suffix_cons c q
    · split at h
      · cases h
      · next hn =>
        split at h
        · simp only [Option.some.injEq, Prod.mk.injEq] at h
          exact h.2 ▸ (number?_suffix hn).trans (List.suffix_cons c q)
        · cases h

end Escape

end ZoneNet.Text.Pattern
