/-!
# Numerals of real numbers

A sign, then digits with a point among them and an exponent behind them, or a word.
-/

namespace ZoneNet.Text.Numeral

/-- The words that stand for numbers, in either case. -/
def words : List String := ["inf", "infinity", "nan"]

/-- A text behind its sign, if it has one. -/
def unsigned : List Char → List Char
  | '+' :: r | '-' :: r => r
  | l => l

/-- Digits, at least one of them, and nothing else. -/
def isDigits (l : List Char) : Bool := !l.isEmpty && l.all Char.isDigit

/-- Nothing, or an `e` of either case with a number behind it. -/
def isExponent : List Char → Bool
  | [] => true
  | c :: r => (c = 'e' || c = 'E') && isDigits (unsigned r)

/-- The digits behind a point, if there is a point, and the rest. -/
def fraction : List Char → List Char × List Char
  | '.' :: r => (r.takeWhile Char.isDigit, r.dropWhile Char.isDigit)
  | l => ([], l)

/-- Digits with at most one point among or beside them, and an exponent. -/
def isDecimal (l : List Char) : Bool :=
  let (places, rest) := fraction (l.dropWhile Char.isDigit)
  isDigits (l.takeWhile Char.isDigit ++ places) && isExponent rest

/-- Whether a text is a numeral. -/
def isReal (l : List Char) : Bool :=
  isDecimal (unsigned l) || words.any (·.toList = (unsigned l).map Char.toLower)

example : isReal "+5.".toList ∧ isReal "-.5e+3".toList ∧ isReal "+Infinity".toList := by decide
example : ¬isReal ".".toList ∧ ¬isReal "5e".toList ∧ ¬isReal "+".toList := by decide

end ZoneNet.Text.Numeral
