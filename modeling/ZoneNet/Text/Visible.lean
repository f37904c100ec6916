import ZoneNet.Text.Invisible

/-!
# Texts in which every character shows

Between its quotes a text has a name in place of each character that would not show, so it can be
told from every other text by eye.
-/

namespace ZoneNet.Text

/-- The letters behind a backslash that stand for characters. -/
def escapeLetters : List (Char × Char) :=
  [('\x00', '0'), ('\t', 't'), ('\r', 'r'), ('\n', 'n'), ('\\', '\\'), ('"', '"')]

/-- A character inside quotes; one that does not show is told by its code point. -/
def visible (c : Char) : List Char :=
  match escapeLetters.lookup c with
  | some letter => ['\\', letter]
  | none =>
    if isInvisible c then
      ['\\', 'u', '\x7b'] ++ Nat.toDigits 16 c.toNat ++ ['\x7d']
    else [c]

/-- A text between quotes. -/
def quoteVisibly (s : String) : String :=
  "\"" ++ String.ofList (s.toList.flatMap visible) ++ "\""

/-- A list of texts between brackets. -/
def listVisibly (l : List String) : String :=
  "[" ++ String.intercalate ", " (l.map quoteVisibly) ++ "]"

example : visible '\t' = "\\t".toList := by decide +kernel
example : visible '\x01' = "\\u\x7b1\x7d".toList := by decide +kernel
example : visible 'é' = ['é'] := by decide +kernel

end ZoneNet.Text
