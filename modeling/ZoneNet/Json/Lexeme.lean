import ZoneNet.Json.Number
import ZoneNet.Json.Quoted

/-!
# The lexemes of a JSON document

Brackets, marks, words, numbers and strings, with blanks anywhere between them. What is none of
these is one broken lexeme, and nothing is read behind it.
-/

namespace ZoneNet.Json

inductive Lexeme where
  | openArray
  | closeArray
  | openObject
  | closeObject
  | comma
  | colon
  | null
  | bool (b : Bool)
  | number (inRange : Bool)
  | string (s : Option String)
  | broken

namespace Lexeme

/-- The blanks of the format; there are four. -/
def isSpace (c : Char) : Bool := c == ' ' || c == '\n' || c == '\t' || c == '\r'

/-- The lexeme that a text without leading blanks starts with, and the rest. -/
def read : List Char → Option (Lexeme × List Char)
  | [] => none
  | '[' :: r => some (openArray, r)
  | ']' :: r => some (closeArray, r)
  | '{' :: r => some (openObject, r)
  | '}' :: r => some (closeObject, r)
  | ',' :: r => some (comma, r)
  | ':' :: r => some (colon, r)
  | 'n' :: 'u' :: 'l' :: 'l' :: r => some (null, r)
  | 't' :: 'r' :: 'u' :: 'e' :: r => some (bool true, r)
  | 'f' :: 'a' :: 'l' :: 's' :: 'e' :: r => some (bool false, r)
  | '"' :: r =>
    match Quoted.read? r with
    | some (s, r) => some (string s, r)
    | none => some (broken, [])
  | c :: r =>
    match Number.read? (c :: r) with
    | some (b, r) => some (number b, r)
    | none => some (broken, [])

/-- A lexeme is at least one character. -/
theorem read_length {l r : List Char} {x : Lexeme} (h : read l = some (x, r)) :
    r.length < l.length := by
  unfold read at h
  split at h
  case h_1 => simp at h
  case h_11 =>
    split at h
    · next hq =>
      have := Quoted.read?_length hq
      simp only [Option.some.injEq, Prod.mk.injEq] at h
      simp only [← h.2, List.length_cons]
      omega
    · simp only [Option.some.injEq, Prod.mk.injEq] at h
      simp [← h.2]
  case h_12 =>
    split at h
    · next hn =>
      have := Number.read?_length hn
      simp only [Option.some.injEq, Prod.mk.injEq] at h
      simp only [← h.2]
      omega
    · simp only [Option.some.injEq, Prod.mk.injEq] at h
      simp [← h.2]
  all_goals
    simp only [Option.some.injEq, Prod.mk.injEq] at h
    simp only [← h.2, List.length_cons]
    omega

/-- The lexemes of a text behind those already read (last first). -/
def readAll (acc : List Lexeme) (l : List Char) : List Lexeme :=
  match _h : read (l.dropWhile isSpace) with
  | none => acc.reverse
  | some (x, r) => readAll (x :: acc) r
termination_by l.length
decreasing_by
  exact Nat.lt_of_lt_of_le (read_length _h) (Number.length_dropWhile_le isSpace l)

/-- The lexemes of a document. -/
def ofText (l : List Char) : List Lexeme := readAll [] l

end Lexeme

end ZoneNet.Json
