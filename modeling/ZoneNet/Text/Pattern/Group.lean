import ZoneNet.Text.Alphanumeric
import ZoneNet.Text.Cut
import ZoneNet.Text.Pattern.Escape

/-!
# What opens a group

Behind an opening parenthesis stands a name, or flags, or neither. Flags go up to a colon, and then
hold inside the group; or up to a closing parenthesis, and then hold from there on.

* `read?_suffix` — what is left of a text is an end of it.
-/

namespace ZoneNet.Text.Pattern

/-! ## Flags -/

/-- Letters; those behind a `-` turn their modes off. -/
abbrev Flags := List Char

namespace Flags

/-- Every flag that there is. Some of them change nothing about what a pattern may hold. -/
def letters : List Char := ['i', 'm', 's', 'U', 'u', 'R', 'x']

/-- No letter stands twice, nor does the `-`, and the `-` does not stand last. -/
def isValid (f : Flags) : Bool :=
  f.Nodup && f.all (fun c => c ∈ letters || c = '-') && f.getLast? ≠ some '-'

/-- A mode behind flags. -/
def apply (f : Flags) (letter : Char) (mode : Bool) : Bool :=
  if letter ∈ f.takeWhile (· ≠ '-') then true
  else if letter ∈ f then false
  else mode

/-- The modes behind flags. -/
def change (f : Flags) (m : Modes) : Modes where
  ignoreCase := f.apply 'i' m.ignoreCase
  unicode := f.apply 'u' m.unicode
  verbose := f.apply 'x' m.verbose

example : change "x-u".toList {} = { unicode := false, verbose := true } := by decide

end Flags

/-! ## Openings -/

/-- Whether a character may stand in a name. -/
def isNameChar (c : Char) : Bool := c ∈ ['_', '.', '[', ']'] || isAlphanumeric c

/-- A name begins with a letter or a low line. -/
def isName : List Char → Bool
  | [] => false
  | c :: r => (c = '_' || isAlphabetic c) && r.all isNameChar

/-- What an opening parenthesis opens. -/
inductive Opening where
  /-- A group, with a name of its own or without. -/
  | named (name : Option String)
  /-- A group with flags. -/
  | scoped (flags : Flags)
  /-- No group: the flags hold for what follows. -/
  | switch (flags : Flags)

namespace Opening

/-- A name up to its closing bracket. -/
def readName? (l : List Char) : Option (Opening × List Char) :=
  match cut '>' l with
  | none => none
  | some (name, r) => if isName name then some (.named (String.ofList name), r) else none

/-- Flags up to their end. A switch has at least one flag. -/
def readFlags? (l : List Char) : Option (Opening × List Char) :=
  let ends := fun c : Char => c = ':' || c = ')'
  let flags := l.takeWhile fun c => !ends c
  if Flags.isValid flags then
    match l.dropWhile fun c => !ends c with
    | [] => none
    | c :: r =>
      if c = ':' then some (.scoped flags, r)
      else if flags = [] then none
      else some (.switch flags, r)
  else none

/-- The opening, read behind the parenthesis. -/
def read? (m : Modes) (l : List Char) : Option (Opening × List Char) :=
  match skip m l with
  | '?' :: 'P' :: '<' :: r => readName? r
  | '?' :: '<' :: r => readName? r
  | '?' :: r => readFlags? r
  | r => some (.named none, r)

theorem readName?_suffix {l r : List Char} {o : Opening} (h : readName? l = some (o, r)) :
    r <:+ l := by
  unfold readName? at h
  split at h
  · cases h
  · next name q hq =>
    split at h
    · simp only [Option.some.injEq, Prod.mk.injEq] at h
      rw [(cut_eq_some_iff.1 hq).1, ← h.2]
      exact (List.suffix_cons '>' q).trans (List.suffix_append name _)
    · cases h

theorem readFlags?_suffix {l r : List Char} {o : Opening} (h : readFlags? l = some (o, r)) :
    r <:+ l := by
  simp only [readFlags?] at h
  split at h
  · have hs := List.dropWhile_suffix (fun c : Char => !(c = ':' || c = ')')) (l := l)
    split at h
    · cases h
    · next c q hq =>
      rw [hq] at hs
      have : r = q := by grind
      exact this ▸ (List.suffix_cons c q).trans hs
  · cases h

theorem read?_suffix {m : Modes} {l r : List Char} {o : Opening} (h : read? m l = some (o, r)) :
    r <:+ l := by
  have hs := skip_suffix m l
  unfold read? at h
  split at h
  · next q hq =>
    rw [hq] at hs
    exact ((readName?_suffix h).trans ⟨['?', 'P', '<'], rfl⟩).trans hs
  · next q hq =>
    rw [hq] at hs
    exact ((readName?_suffix h).trans ⟨['?', '<'], rfl⟩).trans hs
  · next q _ _ hq =>
    rw [hq] at hs
    exact ((readFlags?_suffix h).trans ⟨['?'], rfl⟩).trans hs
  · simp only [Option.some.injEq, Prod.mk.injEq] at h
    exact h.2 ▸ hs

end Opening

end ZoneNet.Text.Pattern
