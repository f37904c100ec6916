import ZoneNet.Text.Pattern.Class
import ZoneNet.Text.Pattern.Group

/-!
# Well-formed patterns

A pattern is read from left to right by a reader that keeps the groups and the classes that are
open. A pattern here stands between braces, so it holds no closing brace: a count of repetitions
could not come to its end, and an opening brace is malformed wherever it is not taken for itself.
-/

namespace ZoneNet.Text.Pattern

/-! ## Groups -/

/-- A group that has been opened. -/
structure Level where
  /-- The modes before the group, which hold again behind it. -/
  before : Modes := {}
  /-- The alternatives that have come to their end. -/
  alternatives : Sequence := {}
  items : Sequence := {}
  /-- The height of the last item, if it can be repeated. -/
  last : Option Nat := none
  deriving DecidableEq, Repr

namespace Level

/-- The height of what a group holds. -/
def height (g : Level) : Nat := (g.alternatives.push g.items.height).height

/-- One item more, of a height. -/
def add (g : Level) (height : Nat) : Level :=
  { g with items := g.items.push height, last := some height }

/-- A switch counts as an item, but cannot be repeated. -/
def addSwitch (g : Level) : Level := { g with items := g.items.push 0, last := none }

/-- The next alternative. -/
def alternative (g : Level) : Level :=
  { g with alternatives := g.alternatives.push g.items.height, items := {}, last := none }

/-- A repetition takes the place of the last item. -/
def repeated? (g : Level) : Option Level :=
  g.last.map fun h =>
    { g with items.highest := max g.items.highest (h + 1), last := some (h + 1) }

end Level

/-! ## The reader -/

/-- What has been read of a pattern. -/
structure Reader where
  modes : Modes := {}
  /-- The names of groups. -/
  names : List String := []
  level : Level := {}
  /-- The groups around the innermost one. -/
  outer : List Level := []
  /-- The classes that are open, the innermost one first. -/
  classes : List Class := []
  deriving DecidableEq, Repr

namespace Reader

/-- A class comes to its end. -/
def closeClass (s : Reader) (k : Class) : List Class → Reader
  | [] => { s with classes := [], level := s.level.add (k.height + 1) }
  | p :: ks => { s with classes := p.add (k.height + 1) :: ks }

/-- One step inside a class. -/
def stepClass? (s : Reader) (k : Class) (ks : List Class) (c : Char) (l : List Char) :
    Option (Reader × List Char) :=
  match k.step? s.modes c l with
  | none => none
  | some (.goOn k, r) => some ({ s with classes := k :: ks }, r)
  | some (.opened k, r) => some ({ s with classes := {} :: k :: ks }, r)
  | some (.closed, r) => some (s.closeClass k ks, r)

/-- Goes into a group in which these modes hold. -/
def enter (s : Reader) (modes : Modes) : Reader :=
  { s with modes, level := { before := s.modes }, outer := s.level :: s.outer }

/-- An opening parenthesis with what it opens. No two groups have one name. -/
def openGroup? (s : Reader) : Opening → Option Reader
  | .named none => some (s.enter s.modes)
  | .named (some name) =>
    if name ∈ s.names then none else some { s.enter s.modes with names := name :: s.names }
  | .scoped flags => some (s.enter (flags.change s.modes))
  | .switch flags => some { s with modes := flags.change s.modes, level := s.level.addSwitch }

/-- A closing parenthesis. -/
def closeGroup? (s : Reader) : Option Reader :=
  match s.outer with
  | [] => none
  | g :: gs =>
    some { s with modes := s.level.before, level := g.add (s.level.height + 1), outer := gs }

/-- An atom that begins with this character. -/
def readAtom? (m : Modes) (c : Char) (l : List Char) : Option (Atom × List Char) :=
  match c with
  | '\\' => Escape.read? m l
  | '.' => some (.any, l)
  | '^' | '$' => some (.edge, l)
  | c => some (.literal c false, l)

/-- A text without the sign that makes a repetition prefer fewer rounds. -/
def dropLazy : List Char → List Char
  | '?' :: r => r
  | l => l

/-- One step outside of classes. -/
def stepGroup? (s : Reader) (c : Char) (l : List Char) : Option (Reader × List Char) :=
  if c = '(' then
    match Opening.read? s.modes l with
    | none => none
    | some (o, r) => (s.openGroup? o).map fun s => (s, r)
  else if c = ')' then s.closeGroup?.map fun s => (s, l)
  else if c = '|' then some ({ s with level := s.level.alternative }, l)
  else if c = '[' then (Class.open? s.modes l).map fun r => ({ s with classes := [{}] }, r)
  else if c ∈ ['?', '*', '+'] then
    s.level.repeated?.map fun level => ({ s with level }, dropLazy l)
  else if c = '{' then none
  else
    match readAtom? s.modes c l with
    | none => none
    | some (a, r) => if a.fits s.modes then some ({ s with level := s.level.add 0 }, r) else none

/-- One step, which begins with this character. -/
def step? (s : Reader) (c : Char) (l : List Char) : Option (Reader × List Char) :=
  match s.classes with
  | [] => s.stepGroup? c l
  | k :: ks => s.stepClass? k ks c l

/-- Whether a pattern may end here. -/
def isComplete (s : Reader) : Bool :=
  s.classes.isEmpty && s.outer.isEmpty && s.level.height ≤ maxHeight

/-! ## What is left of the text -/

theorem stepClass?_suffix {s s' : Reader} {k : Class} {ks : List Class} {c : Char}
    {l r : List Char} (h : s.stepClass? k ks c l = some (s', r)) : r <:+ l := by
  unfold stepClass? at h
  split at h
  · cases h
  all_goals
    next hk =>
      simp only [Option.some.injEq, Prod.mk.injEq] at h
      exact h.2 ▸ Class.step?_suffix hk

theorem readAtom?_suffix {m : Modes} {c : Char} {l r : List Char} {a : Atom}
    (h : readAtom? m c l = some (a, r)) : r <:+ l := by
  unfold readAtom? at h
  split at h
  · exact Escape.read?_suffix h
  all_goals
    simp only [Option.some.injEq, Prod.mk.injEq] at h
    exact h.2 ▸ List.suffix_rfl

theorem dropLazy_suffix (l : List Char) : dropLazy l <:+ l := by
  unfold dropLazy
  split
  · exact List.suffix_cons _ _
  · exact List.suffix_rfl

theorem stepGroup?_suffix {s s' : Reader} {c : Char} {l r : List Char}
    (h : s.stepGroup? c l = some (s', r)) : r <:+ l := by
  unfold stepGroup? at h
  split at h
  · split at h
    · cases h
    · next ho =>
      obtain ⟨_, _, he⟩ := Option.map_eq_some_iff.1 h
      simp only [Prod.mk.injEq] at he
      exact he.2 ▸ Opening.read?_suffix ho
  · split at h
    · obtain ⟨_, _, he⟩ := Option.map_eq_some_iff.1 h
      simp only [Prod.mk.injEq] at he
      exact he.2 ▸ List.suffix_rfl
    · split at h
      · simp only [Option.some.injEq, Prod.mk.injEq] at h
        exact h.2 ▸ List.suffix_rfl
      · split at h
        · obtain ⟨_, ho, he⟩ := Option.map_eq_some_iff.1 h
          simp only [Prod.mk.injEq] at he
          exact he.2 ▸ Class.open?_suffix ho
        · split at h
          · obtain ⟨_, _, he⟩ := Option.map_eq_some_iff.1 h
            simp only [Prod.mk.injEq] at he
            exact he.2 ▸ dropLazy_suffix l
          · split at h
            · cases h
            · split at h
              · cases h
              · next ha =>
                split at h
                · simp only [Option.some.injEq, Prod.mk.injEq] at h
                  exact h.2 ▸ readAtom?_suffix ha
                · cases h

theorem step?_suffix {s s' : Reader} {c : Char} {l r : List Char}
    (h : s.step? c l = some (s', r)) : r <:+ l := by
  unfold step? at h
  split at h
  · exact stepGroup?_suffix h
  · exact stepClass?_suffix h

/-- Reads a text to its end. -/
def run (s : Reader) (l : List Char) : Bool :=
  match _hl : skip s.modes l with
  | [] => s.isComplete
  | c :: r =>
    match _hs : s.step? c r with
    | none => false
    | some (s, r) => s.run r
termination_by l.length
decreasing_by
  have hr := (step?_suffix _hs).length_le
  have hl := _hl ▸ (skip_suffix _ l).length_le
  exact Nat.lt_of_le_of_lt hr hl

end Reader

/-- Whether a text is a pattern. -/
def isWellFormed (l : List Char) : Bool := ({} : Reader).run l

end ZoneNet.Text.Pattern
