import ZoneNet.Proofs.Json.Reading

/-!
# Writing a document

Every value without a fault has a document: the one without blanks, in which strings have no escapes
but those that they must have.

* `Quoted.spells_write` — a string is spelled by its characters, escaped where they must be.
* `document_write` — what is written for a value is a document of it.
-/

namespace ZoneNet.Json

open Text

namespace Quoted

/-- A character of a string. A quote, a backslash and a control character must be escaped. -/
def writeChar (c : Char) : List Char :=
  if c = '"' ∨ c = '\\' then ['\\', c]
  else if c < ' ' then
    ['\\', 'u', '0', '0', (c.toNat / 16).digitChar, (c.toNat % 16).digitChar]
  else [c]

/-- What stands between the quotes; half a surrogate pair names no text. -/
def write : Option String → List Char
  | some s => s.toList.flatMap writeChar
  | none => ['\\', 'u', 'D', '8', '0', '0']

theorem hexValue?_digitChar {n : Nat} (h : n < 16) : hexValue? n.digitChar = some n := by
  revert n
  decide

/-- One character is one piece. -/
theorem exists_piece (c : Char) : ∃ p : Piece, p.Spelled (writeChar c) ∧
    ∀ ps cs, Names ps cs → Names (p :: ps) (c :: cs) := by
  unfold writeChar
  split
  · next hescape =>
    refine ⟨.char c, .escape ?_, fun _ _ h => .char h⟩
    rcases hescape with rfl | rfl <;> decide
  split
  · next hcontrol =>
    have hsmall : c.toNat < 32 := hcontrol
    have hvalue : ((0 * 16 + 0) * 16 + c.toNat / 16) * 16 + c.toNat % 16 = c.toNat := by omega
    have hspelled : Piece.Spelled (.unit c.toNat)
        ['\\', 'u', '0', '0', (c.toNat / 16).digitChar, (c.toNat % 16).digitChar] := by
      have hunit := Piece.Spelled.unit (a := '0') (b := '0') (i := 0) (j := 0) rfl rfl
        (hexValue?_digitChar (n := c.toNat / 16) (by omega))
        (hexValue?_digitChar (n := c.toNat % 16) (by omega))
      rwa [hvalue] at hunit
    refine ⟨_, hspelled, fun ps cs h => ?_⟩
    have hnames := Names.unit (n := c.toNat) (by omega) h
    rwa [Char.ofNat_toNat] at hnames
  · next hplain hcontrol =>
    rw [not_or] at hplain
    exact ⟨.char c, .plain (Char.not_lt.1 hcontrol) hplain.1 hplain.2, fun _ _ h => .char h⟩

theorem exists_pieces (cs : List Char) :
    ∃ ps, Spelled ps (cs.flatMap writeChar) ∧ Names ps cs := by
  induction cs with
  | nil => exact ⟨[], .nil, .nil⟩
  | cons c cs ih =>
    obtain ⟨ps, hspelled, hnames⟩ := ih
    obtain ⟨p, hp, hgoes⟩ := exists_piece c
    exact ⟨p :: ps, .cons hp hspelled, hgoes ps cs hnames⟩

/-- A string is spelled by what is written for it. -/
theorem spells_write (s : Option String) : Spells s (write s) := by
  rcases s with _ | s
  · have hunit : Piece.Spelled (.unit 0xD800) ['\\', 'u', 'D', '8', '0', '0'] :=
      .unit (i := 13) (j := 8) (k := 0) (l := 0) rfl rfl rfl rfl
    refine .noText (.cons hunit .nil) ?_
    rintro _ (_ | _ | ⟨hn, _⟩)
    omega
  · obtain ⟨ps, hspelled, hnames⟩ := exists_pieces s.toList
    exact .text hspelled hnames

end Quoted

/-- What is written for a lexeme. Of the numbers that a double can hold zero is written, and of the
others a power of ten. -/
def Lexeme.write : Lexeme → List Char
  | openArray => ['[']
  | closeArray => [']']
  | openObject => ['{']
  | closeObject => ['}']
  | comma => [',']
  | colon => [':']
  | null => ['n', 'u', 'l', 'l']
  | bool true => ['t', 'r', 'u', 'e']
  | bool false => ['f', 'a', 'l', 's', 'e']
  | number true => ['0']
  | number false => ['1', 'e', '9', '9', '9']
  | string s => '"' :: (Quoted.write s ++ ['"'])
  | broken => []

theorem Lexeme.spells_write {x : Lexeme} (h : x ≠ broken) : x.Spells x.write := by
  cases x with
  | bool b => cases b <;> constructor
  | number b =>
    have hinteger {c : Char} (hc : c.isDigit = true) (hzero : c = '0' → [c] = ['0']) :
        Number.IsInteger [c] :=
      ⟨⟨nofun, by simpa using hc⟩, fun h => hzero (Option.some.inj h)⟩
    have hdigits : Number.IsDigits ['9', '9', '9'] := by
      refine ⟨nofun, fun c hc => ?_⟩
      obtain rfl : c = '9' := by simpa using hc
      rfl
    cases b with
    | true =>
      have hzero : Number.IsNumber ([] ++ (['0'] ++ ([] ++ []))) :=
        .mk (.inl rfl) (hinteger rfl fun _ => rfl) .absent .absent
      exact .number hzero rfl
    | false =>
      have hpower : Number.IsNumber ([] ++ (['1'] ++ ([] ++ 'e' :: ([] ++ ['9', '9', '9'])))) :=
        .mk (.inl rfl) (hinteger rfl nofun) .absent (.digits (.inl rfl) (.inl rfl) hdigits)
      exact .number hpower rfl
  | string s => exact .string (Quoted.spells_write s)
  | broken => exact absurd rfl h
  | _ => constructor

/-- A document of a value, without blanks. -/
def write (v : Json) : List Char := v.lexemes.flatMap Lexeme.write

theorem written_flatMap {ls : List Lexeme} (h : .broken ∉ ls) :
    Lexeme.Written ls (ls.flatMap Lexeme.write) := by
  induction ls with
  | nil => exact .nil nofun
  | cons x ls ih =>
    rw [List.mem_cons, not_or] at h
    have hx := Lexeme.spells_write (Ne.symm h.1)
    show Lexeme.Written (x :: ls) ([] ++ (x.write ++ ls.flatMap Lexeme.write))
    exact .cons nofun hx (ih h.2)

/-- A value without a fault has a document. -/
theorem document_write {v : Json} (h : v.Whole) : v.Document v.write := written_flatMap h

end ZoneNet.Json
