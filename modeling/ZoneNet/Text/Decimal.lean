import ZoneNet.Text.Blank

/-!
# Decimal numerals

Three readings of digits: the plain value, a numeral with a largest allowed value, and a lenient
reading that takes what digits there are and stays within a bound.
-/

namespace ZoneNet.Text.Decimal

/-- The value of an ASCII digit. -/
def digitValue (c : Char) : Nat := c.toNat - '0'.toNat

/-- The number that digits denote, most significant first. -/
def value (ds : List Char) : Nat := Nat.ofDigitChars 10 ds 0

/-- The digits written for a number denote it. -/
theorem value_toDigits (n : Nat) : value (Nat.toDigits 10 n) = n :=
  Nat.ofDigitChars_ten_toDigits

/-- The digits that a text starts with. -/
def leading (l : List Char) : List Char := l.takeWhile Char.isDigit

/-- A numeral: at most one `+`, then digits and nothing else, at least one of them. -/
def ofText? (l : List Char) : Option Nat :=
  let ds := match l with
    | '+' :: r => r
    | _ => l
  if ds ≠ [] ∧ ds.all Char.isDigit then some (value ds) else none

/-- A numeral whose value is at most `max`. -/
def upTo? (max : Nat) (l : List Char) : Option Nat :=
  (ofText? l).filter (· ≤ max)

/-- The greatest integer of 64 bits with a sign, 2^63 - 1. -/
def top : Nat := 9223372036854775807

/-- One digit more, held at the greatest integer of 64 bits by each of the two operations. -/
def saturate (n : Nat) (c : Char) : Nat := min (min (n * 10) top + digitValue c) top

/-- The digits that a text starts with, held at the greatest integer of 64 bits. -/
def saturated (l : List Char) : Nat := (leading l).foldl saturate 0

/-- Leading blanks are skipped and one sign is taken; what is no number is zero. -/
def lenient (l : List Char) : Int :=
  match trimStart l with
  | '-' :: r => -(saturated r : Int)
  | '+' :: r => saturated r
  | r => saturated r

theorem saturate_le_top (n : Nat) (c : Char) : saturate n c ≤ top := Nat.min_le_right _ _

theorem foldl_saturate_le_top (ds : List Char) {n : Nat} (h : n ≤ top) :
    ds.foldl saturate n ≤ top := by
  induction ds generalizing n with
  | nil => exact h
  | cons c r ih => exact ih (saturate_le_top n c)

/-- A lenient reading fits 64 bits with a sign. -/
theorem saturated_le_top (l : List Char) : saturated l ≤ top :=
  foldl_saturate_le_top _ (Nat.zero_le _)

example : lenient "  -07x".toList = -7 := by decide
example : lenient "+-7".toList = 0 := by decide

end ZoneNet.Text.Decimal
