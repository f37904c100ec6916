import ZoneNet.Text.Alphabetic
import ZoneNet.Text.Numeric

/-!
# Letters and digits
-/

namespace ZoneNet.Text

/-- Whether a character is a letter or a digit of any script. -/
def isAlphanumeric (c : Char) : Bool := isAlphabetic c || isNumeric c

end ZoneNet.Text
