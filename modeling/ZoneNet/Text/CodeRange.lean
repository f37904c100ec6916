/-!
# Ranges of code points

A class of characters is given by a table: the first and the last code point of each of its ranges.
-/

namespace ZoneNet.Text

/-- Whether a character lies in one of these ranges. -/
def inRanges (ranges : List (Nat × Nat)) (c : Char) : Bool :=
  ranges.any fun r => r.1 ≤ c.toNat && c.toNat ≤ r.2

end ZoneNet.Text
