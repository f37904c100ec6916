import ZoneNet.Text.Decimal

/-!
# JSON numbers

A number is a sign, an integer part without leading zeros, a fraction and an exponent. Its value
does not matter to any reader here, but whether a double can hold it does: a number too large for
that is a fault wherever its value is asked for.
-/

namespace ZoneNet.Json.Number

open ZoneNet.Text

/-! ## The range -/

/-- The leading digits as a number of 64 bits, and the power of ten that goes with it. -/
structure Approx where
  value : Nat := 0
  exponent : Int := 0
  /-- A digit did not fit any more. -/
  full : Bool := false

namespace Approx

/-- Whether one digit more still fits 64 bits. -/
def fits (a : Approx) (c : Char) : Bool :=
  !a.full && a.value * 10 + Decimal.digitValue c < UInt64.size

/-- A digit of the integer part; one that does not fit counts as a power of ten. -/
def integerDigit (a : Approx) (c : Char) : Approx :=
  if a.fits c then { a with value := a.value * 10 + Decimal.digitValue c }
  else { a with exponent := a.exponent + 1, full := true }

/-- A digit of the fraction; from the first that does not fit on they are ignored. -/
def fractionDigit (a : Approx) (c : Char) : Approx :=
  if a.fits c then
    { a with value := a.value * 10 + Decimal.digitValue c, exponent := a.exponent - 1 }
  else { a with full := true }

def ofDigits (integer fraction : List Char) : Approx :=
  let a := integer.foldl integerDigit {}
  fraction.foldl fractionDigit { a with full := false }

end Approx

/-- Whether `n` times a power of ten stays below infinity as a double. -/
def isFinite (n : Nat) (exponent : Int) : Bool :=
  n == 0 || exponent < 0 ||
    (exponent ≤ 308 &&
      !(n.toUInt64.toFloat * Float.ofScientific 1 false exponent.toNat).isInf)

/-! ## Reading -/

/-- At least one digit, and the rest. -/
def digits? (l : List Char) : Option (List Char × List Char) :=
  match l.takeWhile Char.isDigit with
  | [] => none
  | ds => some (ds, l.dropWhile Char.isDigit)

/-- The integer part; a zero stands alone. -/
def integer? (l : List Char) : Option (List Char × List Char) :=
  match digits? l with
  | some ('0' :: _ :: _, _) => none
  | r => r

/-- The digits behind the point, if there is one. -/
def fraction? : List Char → Option (List Char × List Char)
  | '.' :: r => digits? r
  | l => some ([], l)

/-- The exponent, if there is one. -/
def exponent? : List Char → Option (Int × List Char)
  | c :: r =>
    if c = 'e' ∨ c = 'E' then
      match r with
      | '-' :: r => (digits? r).map fun p => (-(Decimal.value p.1 : Int), p.2)
      | '+' :: r => (digits? r).map fun p => ((Decimal.value p.1 : Int), p.2)
      | r => (digits? r).map fun p => ((Decimal.value p.1 : Int), p.2)
    else some (0, c :: r)
  | [] => some (0, [])

/-- A number without its sign, and the rest. -/
def unsigned? (l : List Char) : Option (Bool × List Char) :=
  match integer? l with
  | none => none
  | some (int, r) =>
    match fraction? r with
    | none => none
    | some (frac, r) =>
      match exponent? r with
      | none => none
      | some (e, r) =>
        let a := Approx.ofDigits int frac
        some (isFinite a.value (a.exponent + e), r)

/-- Whether a double can hold the number that a text starts with, and the rest of the text. -/
def read? : List Char → Option (Bool × List Char)
  | '-' :: r => unsigned? r
  | l => unsigned? l

/-! ## Reading consumes -/

theorem length_dropWhile_le {α : Type} (p : α → Bool) (l : List α) :
    (l.dropWhile p).length ≤ l.length :=
  (List.dropWhile_suffix p).length_le

theorem digits?_length {l ds r : List Char} (h : digits? l = some (ds, r)) :
    r.length < l.length := by
  unfold digits? at h
  split at h
  · simp at h
  · next hne =>
    obtain ⟨rfl, rfl⟩ : l.takeWhile Char.isDigit = ds ∧ l.dropWhile Char.isDigit = r := by
      simpa using h
    have hl := congrArg List.length (List.takeWhile_append_dropWhile (p := Char.isDigit) (l := l))
    have hp : 0 < (l.takeWhile Char.isDigit).length := List.length_pos_iff.2 fun h0 => hne h0
    rw [List.length_append] at hl
    omega

theorem integer?_length {l ds r : List Char} (h : integer? l = some (ds, r)) :
    r.length < l.length := by
  unfold integer? at h
  split at h
  · simp at h
  · exact digits?_length h

theorem fraction?_length {l ds r : List Char} (h : fraction? l = some (ds, r)) :
    r.length ≤ l.length := by
  unfold fraction? at h
  split at h
  · have := digits?_length h
    simp only [List.length_cons]
    omega
  · simp_all

theorem exponent?_length {l r : List Char} {e : Int} (h : exponent? l = some (e, r)) :
    r.length ≤ l.length := by
  unfold exponent? at h
  split at h
  · split at h
    · split at h <;>
        · obtain ⟨p, hp, he⟩ := Option.map_eq_some_iff.1 h
          have := digits?_length hp
          simp only [Prod.mk.injEq] at he
          rw [← he.2]
          simp only [List.length_cons]
          omega
    · simp_all
  · simp_all

theorem unsigned?_length {l r : List Char} {b : Bool} (h : unsigned? l = some (b, r)) :
    r.length < l.length := by
  unfold unsigned? at h
  split at h
  · simp at h
  · next hi =>
    have h1 := integer?_length hi
    split at h
    · simp at h
    · next hf =>
      have h2 := fraction?_length hf
      split at h
      · simp at h
      · next he =>
        have h3 := exponent?_length he
        simp only [Option.some.injEq, Prod.mk.injEq] at h
        rw [← h.2]
        omega

/-- A number is at least one character. -/
theorem read?_length {l r : List Char} {b : Bool} (h : read? l = some (b, r)) :
    r.length < l.length := by
  unfold read? at h
  split at h
  · have := unsigned?_length h
    simp only [List.length_cons]
    omega
  · exact unsigned?_length h

end ZoneNet.Json.Number
