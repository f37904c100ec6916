/-!
# Blank characters

The 25 code points with the Unicode property White_Space, and texts without them at their ends.
-/

namespace ZoneNet.Text

/-- The property White_Space of the Unicode character database. -/
def isBlank (c : Char) : Bool :=
  let n := c.toNat
  (0x09 ≤ n && n ≤ 0x0D) || n == 0x20 || n == 0x85 || n == 0xA0 || n == 0x1680
    || (0x2000 ≤ n && n ≤ 0x200A) || n == 0x2028 || n == 0x2029 || n == 0x202F || n == 0x205F
    || n == 0x3000

/-- The text from its first character that is not blank. -/
def trimStart (l : List Char) : List Char := l.dropWhile isBlank

/-- The text up to its last character that is not blank. -/
def trimEnd (l : List Char) : List Char := (l.reverse.dropWhile isBlank).reverse

/-- The text without the blanks at its two ends. -/
def trim (l : List Char) : List Char := trimEnd (trimStart l)

theorem trimStart_of_not_blank {c : Char} {l : List Char} (h : isBlank c = false) :
    trimStart (c :: l) = c :: l := by
  simp [trimStart, h]

/-- What stands before a trimmed text is blank. -/
theorem exists_blank_append_trimStart (l : List Char) :
    ∃ b, (∀ c ∈ b, isBlank c = true) ∧ l = b ++ trimStart l :=
  ⟨l.takeWhile isBlank, fun c h => List.all_eq_true.1 List.all_takeWhile c h,
    List.takeWhile_append_dropWhile.symm⟩

end ZoneNet.Text
