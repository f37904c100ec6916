/-!
# The atoms of a pattern

An atom stands for one character, or for a place between two. What may stand in a pattern depends
on the modes that are on where it stands, for two reasons. No table of Unicode classes is at hand,
so in Unicode mode neither case nor the kinds of characters can be looked at. And a pattern must
match whole characters only, so outside Unicode mode nothing may stand for a byte beyond ASCII.
-/

namespace ZoneNet.Text.Pattern

/-- The modes that decide what a pattern may hold. -/
structure Modes where
  ignoreCase : Bool := false
  unicode : Bool := true
  /-- Blanks and comments between the parts of a pattern do not count. -/
  verbose : Bool := false
  deriving DecidableEq, Repr

inductive Atom where
  /-- One character; `asByte` tells that it was written as a byte, by two hexadecimal digits. -/
  | literal (c : Char) (asByte : Bool)
  /-- Any character. -/
  | any
  /-- Digits, blanks or the characters of words, or all characters but these. -/
  | kind (negated : Bool)
  /-- An end of a line or of the text. -/
  | edge
  /-- A place told by the words around it. -/
  | wordEdge
  deriving DecidableEq, Repr

namespace Atom

/-- Whether a character belongs to ASCII. -/
def isAscii (c : Char) : Bool := c.toNat < 128

/-- Whether an atom may stand between brackets. -/
def fitsClass (m : Modes) : Atom → Bool
  | literal c _ => if m.unicode then !m.ignoreCase else isAscii c
  | kind negated => !m.unicode && !negated
  | _ => false

/-- Whether an atom may stand on its own. -/
def fits (m : Modes) : Atom → Bool
  | literal c asByte => if m.unicode then !m.ignoreCase else isAscii c || !asByte
  | any => m.unicode
  | kind negated => !m.unicode && !negated
  | edge => true
  | wordEdge => !m.unicode

/-- Whether two atoms are the ends of a range. -/
def areEnds : Atom → Atom → Bool
  | literal a _, literal b _ => a ≤ b
  | _, _ => false

end Atom

end ZoneNet.Text.Pattern
