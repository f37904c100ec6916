import ZoneNet.Proofs.Text.Spelling
import ZoneNet.Proofs.Text.Stretches
import ZoneNet.Proofs.Text.Trimming
import ZoneNet.Text.BytePosition

/-!
# Lenient integers

A lenient reading gives the integer that a text begins with, held between -(2^63 - 1) and 2^63 - 1,
however many digits there are.

* `begins_iff` — every text begins with one integer.
* `lenient_eq` — the reading holds that integer, though it saturates twice at every digit.
* `readBytes?_eq` — a reader that goes by bytes, with positions and integers of 64 bits that can be
  missed, misses none of them on any text, and reads the same.
-/

namespace ZoneNet.Text.Decimal

/-! ## The integer that a text begins with -/

/-- What may stand in front of the digits, and the factor that it stands for. -/
inductive Sign : List Char → Int → Prop where
  | none : Sign [] 1
  | plus : Sign ['+'] 1
  | minus : Sign ['-'] (-1)

/-- A text begins with blanks, a sign and digits. Each of the three takes all that belongs to it,
and digits that are missing stand for zero. -/
inductive Begins : List Char → Int → Prop where
  | intro {blanks sign digits rest : List Char} {factor : Int}
      (hblanks : ∀ c ∈ blanks, isBlank c = true)
      (hafter : ∀ c, (sign ++ (digits ++ rest)).head? = some c → isBlank c = false)
      (hsign : Sign sign factor)
      (hunsigned : sign = [] → ∀ c, (digits ++ rest).head? = some c → c ≠ '-' ∧ c ≠ '+')
      (hdigits : ∀ c ∈ digits, c.isDigit = true)
      (hrest : ∀ c, rest.head? = some c → c.isDigit = false) :
      Begins (blanks ++ (sign ++ (digits ++ rest))) (factor * value digits)

/-- Takes one sign from the front of a text, and turns around what is read behind a `-`. -/
def signed (read : List Char → Nat) : List Char → Int
  | '-' :: r => -(read r : Int)
  | '+' :: r => read r
  | r => read r

/-- The integer that a text begins with, without any bound. -/
def integer (l : List Char) : Int := signed (fun r => value (leading r)) (trimStart l)

theorem sign_cases (l : List Char) : (∃ r, l = '-' :: r) ∨ (∃ r, l = '+' :: r) ∨
    ∀ c, l.head? = some c → c ≠ '-' ∧ c ≠ '+' := by
  rcases l with _ | ⟨c, r⟩
  · exact .inr (.inr nofun)
  by_cases hminus : c = '-'
  · exact .inl ⟨r, hminus ▸ rfl⟩
  by_cases hplus : c = '+'
  · exact .inr (.inl ⟨r, hplus ▸ rfl⟩)
  · refine .inr (.inr ?_)
    rintro d ⟨⟩
    exact ⟨hminus, hplus⟩

theorem signed_of_unsigned (read : List Char → Nat) {l : List Char}
    (h : ∀ c, l.head? = some c → c ≠ '-' ∧ c ≠ '+') : signed read l = read l := by
  unfold signed
  split
  · exact absurd rfl (h _ rfl).1
  · exact absurd rfl (h _ rfl).2
  · rfl

theorem leading_append {digits rest : List Char} (hdigits : ∀ c ∈ digits, c.isDigit = true)
    (hrest : ∀ c, rest.head? = some c → c.isDigit = false) : leading (digits ++ rest) = digits := by
  unfold leading
  rw [List.takeWhile_append_of_pos hdigits]
  cases rest with
  | nil => simp
  | cons c rest => simp [hrest c rfl]

/-- What follows the digits of a text begins with no digit. -/
theorem exists_leading_append (l : List Char) :
    ∃ rest, l = leading l ++ rest ∧ (∀ c ∈ leading l, c.isDigit = true) ∧
      ∀ c, rest.head? = some c → c.isDigit = false := by
  refine ⟨l.dropWhile Char.isDigit, List.takeWhile_append_dropWhile.symm,
    fun c hc => List.all_eq_true.1 List.all_takeWhile c hc, fun c hc => ?_⟩
  have h := List.head?_dropWhile_not Char.isDigit l
  rwa [hc] at h

theorem Begins.eq_integer {l : List Char} {z : Int} (h : Begins l z) : z = integer l := by
  cases h with
  | @intro blanks sign digits rest factor hblanks hafter hsign hunsigned hdigits hrest =>
    have htrim : trimStart (blanks ++ (sign ++ (digits ++ rest))) = sign ++ (digits ++ rest) := by
      unfold trimStart
      rw [List.dropWhile_append_of_pos hblanks]
      generalize sign ++ (digits ++ rest) = s at hafter
      cases s with
      | nil => rfl
      | cons c s => simp [hafter c rfl]
    unfold integer
    rw [htrim]
    cases hsign with
    | none =>
      rw [List.nil_append, signed_of_unsigned _ (hunsigned rfl), leading_append hdigits hrest,
        Int.one_mul]
    | plus =>
      rw [Int.one_mul, List.singleton_append]
      simp only [signed, leading_append hdigits hrest]
    | minus =>
      rw [Int.neg_one_mul, List.singleton_append]
      simp only [signed, leading_append hdigits hrest]

/-- Blanks and a sign in front of a text leave the digits that it starts with. -/
theorem begins_append {blanks sign r : List Char} {factor : Int}
    (hblanks : ∀ c ∈ blanks, isBlank c = true)
    (hafter : ∀ c, (sign ++ r).head? = some c → isBlank c = false) (hsign : Sign sign factor)
    (hunsigned : sign = [] → ∀ c, r.head? = some c → c ≠ '-' ∧ c ≠ '+') :
    Begins (blanks ++ (sign ++ r)) (factor * value (leading r)) := by
  obtain ⟨rest, hr, hdigits, hrest⟩ := exists_leading_append r
  rw [hr] at hafter hunsigned
  have h := Begins.intro hblanks hafter hsign hunsigned hdigits hrest
  rwa [← hr] at h

theorem begins_integer (l : List Char) : Begins l (integer l) := by
  obtain ⟨blanks, hblanks, hl⟩ := exists_blank_append_trimStart l
  have hafter : ∀ c, (trimStart l).head? = some c → isBlank c = false :=
    fun _ => isBlank_of_head?_trimStart
  unfold integer
  conv => enter [1]; rw [hl]
  generalize trimStart l = s at hafter
  rcases sign_cases s with ⟨r, rfl⟩ | ⟨r, rfl⟩ | hunsigned
  · have h := begins_append hblanks hafter .minus nofun
    rwa [Int.neg_one_mul] at h
  · have h := begins_append hblanks hafter .plus nofun
    rwa [Int.one_mul] at h
  · have h : Begins (blanks ++ ([] ++ s)) (1 * value (leading s)) :=
      begins_append hblanks hafter .none fun _ => hunsigned
    rwa [Int.one_mul, ← signed_of_unsigned (fun r => value (leading r)) hunsigned] at h

/-- Every text begins with one integer. -/
theorem begins_iff {l : List Char} {z : Int} : Begins l z ↔ z = integer l :=
  ⟨Begins.eq_integer, fun h => h ▸ begins_integer l⟩

/-! ## The reading -/

/-- A number held at the top goes on as the number itself would. -/
theorem saturate_min (n : Nat) (c : Char) :
    saturate (min n top) c = min (10 * n + digitValue c) top := by
  unfold saturate top
  omega

/-- Holding every digit at the top is holding the number that all of them denote. -/
theorem foldl_saturate (ds : List Char) (n : Nat) :
    ds.foldl saturate (min n top) = min (Nat.ofDigitChars 10 ds n) top := by
  induction ds generalizing n with
  | nil => rfl
  | cons c ds ih =>
    rw [List.foldl_cons, saturate_min, ih, Nat.ofDigitChars_cons]
    rfl

theorem saturated_eq (l : List Char) : saturated l = min (value (leading l)) top :=
  foldl_saturate (leading l) 0

theorem lenient_eq_signed (l : List Char) : lenient l = signed saturated (trimStart l) := rfl

/-- A lenient reading is the integer that the text begins with, held between two bounds. -/
theorem lenient_eq (l : List Char) :
    lenient l = max (-(top : Int)) (min (top : Int) (integer l)) := by
  have hsaturated : saturated = fun r => min (value (leading r)) top := funext saturated_eq
  rw [lenient_eq_signed, integer, hsaturated]
  unfold signed
  split <;> dsimp only <;> omega

/-! ## Reading by bytes -/

/-- The least integer of 64 bits with a sign. -/
def least : Int := -9223372036854775808

/-- A result that is held within 64 bits. -/
def held (n : Int) : Int := max least (min top n)

/-- A result that must lie within 64 bits. -/
def within? (n : Int) : Option Int := if least ≤ n ∧ n ≤ top then some n else none

def isDigitByte (b : UInt8) : Bool := 0x30 ≤ b && b ≤ 0x39

/-- One byte more. The digit zero is taken from it, which a lesser byte would not allow. -/
def takeByte? (n : Int) (b : UInt8) : Option Int :=
  if 0x30 ≤ b then some (held (held (n * 10) + (b - 0x30).toNat)) else none

/-- The number of the digits that a text starts with, byte by byte. -/
def readDigits? (l : List Char) : Option Int :=
  ((Utf8.encode (String.ofList l)).takeWhile isDigitByte).foldlM takeByte? 0

/-- The lenient reading of a text by its bytes: the first byte is looked at for a sign, the text is
cut behind that byte, and the number is turned around behind a `-`. Each of these can fail. -/
def readBytes? (l : List Char) : Option Int :=
  let s := trimStart l
  let first := (Utf8.encode (String.ofList s)).head?
  if first = some 0x2D then
    (sliceFrom? s 1).bind fun r => (readDigits? r).bind fun n => within? (-n)
  else if first = some 0x2B then (sliceFrom? s 1).bind readDigits?
  else readDigits? s

/-- The bytes of a text begin with the byte of a plain character just when the text begins with that
character. -/
theorem head?_encode_iff {l : List Char} {d : Char} (hd : d.toNat < 0x80) :
    (Utf8.encode (String.ofList l)).head? = some (.ofNat d.toNat) ↔ l.head? = some d := by
  rw [Utf8.encode_ofList]
  cases l with
  | nil => simp
  | cons c l =>
    rw [List.flatMap_cons, List.head?_append, List.head?_cons, Option.some.injEq]
    by_cases hc : c.toNat < 0x80
    · rw [Utf8.utf8EncodeChar_plain hc]
      simpa using Utf8.ofNat_toNat_inj hc hd
    · obtain ⟨b, bytes, hb, hfirst⟩ :=
        (Utf8.high_utf8EncodeChar (Nat.le_of_not_lt hc)).exists_cons
      rw [hb]
      constructor
      · rintro ⟨⟩
        rw [UInt8.toNat_ofNat_of_lt' (show _ < 256 by omega)] at hfirst
        omega
      · rintro rfl
        omega

/-- The text behind a plain character is cut off at the first byte. -/
theorem sliceFrom?_one {d : Char} (hd : d.utf8Size = 1) (r : List Char) :
    sliceFrom? (d :: r) 1 = some r := by
  have hsplit : splitBytes? (d :: r) 1 = some ([d], r) :=
    splitBytes?_eq_some_iff.2 ⟨rfl, by simp [byteSize, hd]⟩
  unfold sliceFrom?
  rw [hsplit]
  rfl

theorem toNat_of_isDigitByte {b : UInt8} (h : isDigitByte b = true) :
    48 ≤ b.toNat ∧ b.toNat ≤ 57 := by
  simpa [isDigitByte, UInt8.le_iff_toNat_le] using h

/-- The bytes that are taken for digits are those of the digits. -/
theorem takeWhile_isDigitByte (l : List Char) :
    (Utf8.encode (String.ofList l)).takeWhile isDigitByte
      = (leading l).map fun c => UInt8.ofNat c.toNat := by
  rw [Utf8.encode_ofList]
  induction l with
  | nil => rfl
  | cons c l ih =>
    have hbyte (hc : c.toNat < 0x80) : isDigitByte (.ofNat c.toNat) = c.isDigit := by
      rw [Bool.eq_iff_iff, isDigit_iff]
      simp [isDigitByte, UInt8.le_iff_toNat_le, Nat.mod_eq_of_lt (show c.toNat < 256 by omega)]
    rw [List.flatMap_cons]
    by_cases hc : c.toNat < 0x80
    · rw [Utf8.utf8EncodeChar_plain hc, List.singleton_append, List.takeWhile_cons, hbyte hc]
      by_cases hdigit : c.isDigit = true
      · simp [leading, hdigit, ih]
      · simp [leading, hdigit]
    -- no byte of any other character is a digit
    · obtain ⟨b, bytes, hb, hfirst⟩ :=
        (Utf8.high_utf8EncodeChar (Nat.le_of_not_lt hc)).exists_cons
      have hnot : ¬isDigitByte b = true := fun h => by
        have := toNat_of_isDigitByte h
        omega
      have hnodigit : ¬c.isDigit = true := fun h => by
        have := toNat_of_isDigit h
        omega
      rw [hb, List.cons_append, List.takeWhile_cons, if_neg hnot]
      simp [leading, hnodigit]

theorem takeByte?_digit {n : Nat} (hn : n ≤ top) {c : Char} (hc : c.isDigit = true) :
    takeByte? n (.ofNat c.toNat) = some (saturate n c : Int) := by
  obtain ⟨hlo, hhi⟩ := toNat_of_isDigit hc
  have hbyte : (UInt8.ofNat c.toNat).toNat = c.toNat :=
    UInt8.toNat_ofNat_of_lt' (show _ < 256 by omega)
  have hle : (0x30 : UInt8) ≤ .ofNat c.toNat := by
    rw [UInt8.le_iff_toNat_le, hbyte]
    exact hlo
  have hvalue : (UInt8.ofNat c.toNat - 0x30).toNat = digitValue c := by
    rw [UInt8.toNat_sub_of_le _ _ hle, hbyte]
    rfl
  unfold takeByte?
  rw [if_pos hle, hvalue, Option.some.injEq]
  unfold held least saturate top at *
  omega

/-- Byte by byte no digit is missed. -/
theorem foldlM_takeByte? {ds : List Char} (hds : ∀ c ∈ ds, c.isDigit = true) {n : Nat}
    (hn : n ≤ top) :
    (ds.map fun c => UInt8.ofNat c.toNat).foldlM takeByte? (n : Int)
      = some ((ds.foldl saturate n : Nat) : Int) := by
  induction ds generalizing n with
  | nil => rfl
  | cons c ds ih =>
    obtain ⟨hc, hrest⟩ := List.forall_mem_cons.1 hds
    rw [List.map_cons, List.foldlM_cons, takeByte?_digit hn hc, List.foldl_cons]
    exact ih hrest (saturate_le_top n c)

theorem readDigits?_eq (l : List Char) : readDigits? l = some (saturated l : Int) := by
  obtain ⟨-, -, hdigits, -⟩ := exists_leading_append l
  unfold readDigits?
  rw [takeWhile_isDigitByte]
  exact foldlM_takeByte? hdigits (Nat.zero_le top)

/-- Reading a text by its bytes never fails: no position falls inside a character, and no integer
leaves the 64 bits. It reads the same as reading by characters. -/
theorem readBytes?_eq (l : List Char) : readBytes? l = some (lenient l) := by
  rw [lenient_eq_signed]
  unfold readBytes?
  have hminus (s : List Char) :
      (Utf8.encode (String.ofList s)).head? = some 0x2D ↔ s.head? = some '-' :=
    head?_encode_iff (d := '-') (by decide)
  have hplus (s : List Char) :
      (Utf8.encode (String.ofList s)).head? = some 0x2B ↔ s.head? = some '+' :=
    head?_encode_iff (d := '+') (by decide)
  simp only [hminus, hplus]
  rcases sign_cases (trimStart l) with ⟨r, hr⟩ | ⟨r, hr⟩ | hunsigned
  · have hle : saturated r ≤ top := saturated_le_top r
    have hwithin : least ≤ -(saturated r : Int) ∧ -(saturated r : Int) ≤ top := by
      unfold least top at *
      omega
    rw [hr, List.head?_cons, if_pos rfl, sliceFrom?_one rfl, Option.bind_some, readDigits?_eq,
      Option.bind_some]
    exact if_pos hwithin
  · rw [hr, List.head?_cons, if_neg (by simp), if_pos rfl, sliceFrom?_one rfl, Option.bind_some,
      readDigits?_eq]
    rfl
  · rw [if_neg fun h => (hunsigned _ h).1 rfl, if_neg fun h => (hunsigned _ h).2 rfl,
      readDigits?_eq, signed_of_unsigned _ hunsigned]

end ZoneNet.Text.Decimal
