import ZoneNet.Text.Cut
import ZoneNet.Text.Pattern.Escape
import ZoneNet.Text.Pattern.Height

/-!
# Classes between brackets

A class lists characters, ranges of characters and other classes; operators with two signs combine
what stands on their left with what stands on their right.

* `step?_suffix` — what is left of a text is an end of it.
-/

namespace ZoneNet.Text.Pattern

/-- A class that has been opened. -/
structure Class where
  /-- Nothing but signs of minus has been read. -/
  fresh : Bool := true
  /-- The height of what stands on the left of the last operator. -/
  operand : Option Nat := none
  items : Sequence := {}
  deriving DecidableEq, Repr

namespace Class

/-- The height of what a class holds. -/
def height (k : Class) : Nat :=
  match k.operand with
  | none => k.items.height
  | some left => max left k.items.height + 1

/-- One item more, of a height. -/
def add (k : Class) (height : Nat) : Class :=
  { k with fresh := false, items := k.items.push height }

/-- A sign of minus before all else stands for itself. -/
def addMinus (k : Class) : Class := { k with items := k.items.push 0 }

/-- An operator takes all that stands on its left. -/
def combine (k : Class) : Class := { fresh := false, operand := some k.height }

/-! ## Items -/

/-- The names of the classes that are asked for by name. -/
def names : List String :=
  ["alnum", "alpha", "ascii", "blank", "cntrl", "digit", "graph", "lower", "print", "punct",
    "space", "upper", "word", "xdigit"]

/-- A class by name, read behind its bracket: whether it is negated, and the rest. -/
def readNamed? : List Char → Option (Bool × List Char)
  | ':' :: '^' :: r => readEnd true r
  | ':' :: r => readEnd false r
  | _ => none
where
  /-- A name up to the colon and the bracket behind it. -/
  readEnd (negated : Bool) (l : List Char) : Option (Bool × List Char) :=
    match cut ':' l with
    | some (name, ']' :: r) => if String.ofList name ∈ names then some (negated, r) else none
    | _ => none

/-- Whether a class by name may stand in a class. -/
def namedFits (m : Modes) (negated : Bool) : Bool := if m.unicode then !m.ignoreCase else !negated

/-- An atom that begins with this character. -/
def readAtom? (m : Modes) (c : Char) (l : List Char) : Option (Atom × List Char) :=
  if c = '\\' then Escape.read? m l else some (.literal c false, l)

/-- The rest behind an atom that may stand alone in a class. -/
def single? (m : Modes) (a : Atom) (l : List Char) : Option (List Char) :=
  if a.fitsClass m then some l else none

/-- The rest behind a range that begins with an atom; its end is read from the text. -/
def range? (m : Modes) (a : Atom) (l : List Char) : Option (List Char) :=
  match skip m l with
  | [] => none
  | c :: r =>
    match readAtom? m c r with
    | none => none
    | some (b, r) => if a.areEnds b ∧ a.fitsClass m ∧ b.fitsClass m then some r else none

/-- The rest behind a character or a range that begins with this character. A sign of minus makes
no range if the class seems to end behind it, or if it seems to be half of an operator. -/
def item? (m : Modes) (c : Char) (l : List Char) : Option (List Char) :=
  match readAtom? m c l with
  | none => none
  | some (a, r) =>
    match skip m r with
    | '-' :: q =>
      if peek m q ∈ [some ']', some '-'] then single? m a ('-' :: q) else range? m a q
    | q => single? m a q

/-! ## Steps -/

/-- Opens a class, read behind its bracket. Outside Unicode mode all characters but some would be
bytes beyond ASCII, too. -/
def open? (m : Modes) (l : List Char) : Option (List Char) :=
  match skip m l with
  | '^' :: r => if m.unicode then some r else none
  | r => some r

/-- What a step comes to. -/
inductive Move where
  /-- The class goes on. -/
  | goOn (k : Class)
  /-- A class inside it is opened. -/
  | opened (k : Class)
  | closed

/-- One item or operator that begins with this character. -/
def step? (m : Modes) (k : Class) (c : Char) (l : List Char) : Option (Move × List Char) :=
  let literal := Atom.literal c false
  if c = '-' ∧ k.fresh then (single? m literal l).map fun r => (.goOn k.addMinus, r)
  else if c = ']' ∧ k.fresh ∧ k.items.size = 0 then
    (single? m literal l).map fun r => (.goOn (k.add 0), r)
  else if c = ']' then some (.closed, l)
  else if c = '[' then
    match readNamed? l with
    | some (negated, r) => if namedFits m negated then some (.goOn (k.add 0), r) else none
    | none => (open? m l).map fun r => (.opened { k with fresh := false }, r)
  else if c ∈ ['&', '-', '~'] ∧ l.head? = some c then some (.goOn k.combine, l.drop 1)
  else (item? m c l).map fun r => (.goOn (k.add 0), r)

/-! ## What is left of the text -/

theorem readEnd_suffix {l r : List Char} {b b' : Bool}
    (h : readNamed?.readEnd b l = some (b', r)) : r <:+ l := by
  unfold readNamed?.readEnd at h
  split at h
  · next name q hq =>
    split at h
    · simp only [Option.some.injEq, Prod.mk.injEq] at h
      rw [(cut_eq_some_iff.1 hq).1, ← h.2]
      exact ⟨name ++ [':', ']'], by simp⟩
    · cases h
  · cases h

theorem readNamed?_suffix {l r : List Char} {b : Bool} (h : readNamed? l = some (b, r)) :
    r <:+ l := by
  unfold readNamed? at h
  split at h
  · exact (readEnd_suffix h).trans ⟨[':', '^'], rfl⟩
  · exact (readEnd_suffix h).trans ⟨[':'], rfl⟩
  · cases h

theorem readAtom?_suffix {m : Modes} {c : Char} {l r : List Char} {a : Atom}
    (h : readAtom? m c l = some (a, r)) : r <:+ l := by
  unfold readAtom? at h
  split at h
  · exact Escape.read?_suffix h
  · simp only [Option.some.injEq, Prod.mk.injEq] at h
    exact h.2 ▸ List.suffix_rfl

theorem single?_suffix {m : Modes} {a : Atom} {l r : List Char} (h : single? m a l = some r) :
    r <:+ l := by
  unfold single? at h
  split at h
  · exact Option.some.inj h ▸ List.suffix_rfl
  · cases h

theorem range?_suffix {m : Modes} {a : Atom} {l r : List Char} (h : range? m a l = some r) :
    r <:+ l := by
  have hs := skip_suffix m l
  unfold range? at h
  split at h
  · cases h
  · next c q hq =>
    rw [hq] at hs
    split at h
    · cases h
    · next hb =>
      split at h
      · rw [← Option.some.inj h]
        exact ((readAtom?_suffix hb).trans (List.suffix_cons c q)).trans hs
      · cases h

theorem item?_suffix {m : Modes} {c : Char} {l r : List Char} (h : item? m c l = some r) :
    r <:+ l := by
  unfold item? at h
  split at h
  · cases h
  · next a q hq =>
    have hs := (skip_suffix m q).trans (readAtom?_suffix hq)
    split at h
    · next t ht =>
      rw [ht] at hs
      split at h
      · exact (single?_suffix h).trans hs
      · exact ((range?_suffix h).trans (List.suffix_cons '-' t)).trans hs
    · exact (single?_suffix h).trans hs

theorem open?_suffix {m : Modes} {l r : List Char} (h : open? m l = some r) : r <:+ l := by
  have hs := skip_suffix m l
  unfold open? at h
  split at h
  · next q hq =>
    rw [hq] at hs
    split at h
    · exact Option.some.inj h ▸ (List.suffix_cons '^' q).trans hs
    · cases h
  · exact Option.some.inj h ▸ hs

theorem step?_suffix {m : Modes} {k : Class} {c : Char} {l r : List Char} {v : Move}
    (h : step? m k c l = some (v, r)) : r <:+ l := by
  have hmap {o : Option (List Char)} {f : Move} (hf : (o.map fun r => (f, r)) = some (v, r)) :
      o = some r := by
    obtain ⟨_, ho, he⟩ := Option.map_eq_some_iff.1 hf
    simp only [Prod.mk.injEq] at he
    exact he.2 ▸ ho
  simp only [step?] at h
  split at h
  · exact single?_suffix (hmap h)
  · split at h
    · exact single?_suffix (hmap h)
    · split at h
      · simp only [Option.some.injEq, Prod.mk.injEq] at h
        exact h.2 ▸ List.suffix_rfl
      · split at h
        · split at h
          · next hn =>
            split at h
            · simp only [Option.some.injEq, Prod.mk.injEq] at h
              exact h.2 ▸ readNamed?_suffix hn
            · cases h
          · exact open?_suffix (hmap h)
        · split at h
          · simp only [Option.some.injEq, Prod.mk.injEq] at h
            exact h.2 ▸ List.drop_suffix 1 l
          · exact item?_suffix (hmap h)

end Class

end ZoneNet.Text.Pattern
