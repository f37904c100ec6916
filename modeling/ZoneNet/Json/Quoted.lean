import ZoneNet.Text.Hexadecimal

/-!
# JSON strings

Between its quotes a string holds characters as they are, escapes of two characters, and escapes
of one UTF-16 unit. Two units that are the halves of a surrogate pair are one character; a half on
its own is well formed but names no character.
-/

namespace ZoneNet.Json.Quoted

open ZoneNet.Text

/-- A part of a string. -/
inductive Piece where
  | char (c : Char)
  | unit (n : Nat)

/-! ## Pieces -/

/-- The unit that four hexadecimal digits name. -/
def unit? (a b c d : Char) : Option Nat :=
  match hexValue? a, hexValue? b, hexValue? c, hexValue? d with
  | some a, some b, some c, some d => some (((a * 16 + b) * 16 + c) * 16 + d)
  | _, _, _, _ => none

/-- The character that an escape of two characters names. -/
def escaped? (c : Char) : Option Char :=
  match c with
  | '"' => some '"'
  | '\\' => some '\\'
  | '/' => some '/'
  | 'b' => some '\x08'
  | 'f' => some '\x0C'
  | 'n' => some '\n'
  | 'r' => some '\r'
  | 't' => some '\t'
  | _ => none

/-- The pieces up to the closing quote (`acc` holds those before, last first), and the rest. A
control character must be escaped. -/
def pieces? (acc : List Piece) : List Char → Option (List Piece × List Char)
  | '"' :: r => some (acc.reverse, r)
  | '\\' :: 'u' :: a :: b :: c :: d :: r =>
    match unit? a b c d with
    | some n => pieces? (.unit n :: acc) r
    | none => none
  | '\\' :: c :: r =>
    match escaped? c with
    | some c => pieces? (.char c :: acc) r
    | none => none
  | c :: r => if c = '\\' ∨ c < ' ' then none else pieces? (.char c :: acc) r
  | [] => none

/-- A string is at least its closing quote. -/
theorem pieces?_length {acc ps : List Piece} {l r : List Char} (h : pieces? acc l = some (ps, r)) :
    r.length < l.length := by
  fun_induction pieces? acc l with
  | case1 => simp_all
  | case2 | case4 | case7 =>
    rename_i ih
    have := ih h
    simp only [List.length_cons]
    omega
  | _ => simp_all

/-! ## Characters -/

/-- Whether a unit is the first half of a surrogate pair. -/
def isHigh (n : Nat) : Bool := 0xD800 ≤ n && n ≤ 0xDBFF

/-- Whether a unit is the second half of a surrogate pair. -/
def isLow (n : Nat) : Bool := 0xDC00 ≤ n && n ≤ 0xDFFF

/-- The character of a surrogate pair. -/
def ofPair (high low : Nat) : Char :=
  Char.ofNat (0x10000 + (high - 0xD800) * 0x400 + (low - 0xDC00))

/-- The characters that pieces stand for (`acc` holds those before, last first). -/
def chars? (acc : List Char) : List Piece → Option (List Char)
  | [] => some acc.reverse
  | .char c :: r => chars? (c :: acc) r
  | .unit n :: .unit m :: r =>
    if isHigh n then if isLow m then chars? (ofPair n m :: acc) r else none
    else if isLow n then none
    else chars? (Char.ofNat n :: acc) (.unit m :: r)
  | .unit n :: r =>
    if isHigh n ∨ isLow n then none else chars? (Char.ofNat n :: acc) r

/-- The string that a text starts with, the opening quote read already, and the rest. -/
def read? (l : List Char) : Option (Option String × List Char) :=
  match pieces? [] l with
  | none => none
  | some (ps, r) => some ((chars? [] ps).map String.ofList, r)

theorem read?_length {s : Option String} {l r : List Char} (h : read? l = some (s, r)) :
    r.length < l.length := by
  unfold read? at h
  split at h
  · simp at h
  · next hp =>
    simp only [Option.some.injEq, Prod.mk.injEq] at h
    rw [← h.2]
    exact pieces?_length hp

end ZoneNet.Json.Quoted
