import ZoneNet.Text.Cut
import ZoneNet.Text.Decimal

/-!
# The spelling of numbers

* `toDigits_value` — digits without a leading zero are the spelling of the number they denote.
* `append_cons_toDigits_inj` — a text that ends in a number tells the number and what stands before.
-/

namespace ZoneNet.Text.Decimal

/-- The code points of the ten digits. -/
theorem isDigit_iff {c : Char} : c.isDigit = true ↔ 48 ≤ c.toNat ∧ c.toNat ≤ 57 := by
  simp only [Char.isDigit, Bool.and_eq_true, decide_eq_true_eq, ge_iff_le,
    UInt32.le_iff_toNat_le]
  rfl

theorem toNat_of_isDigit {c : Char} (h : c.isDigit = true) : 48 ≤ c.toNat ∧ c.toNat ≤ 57 :=
  isDigit_iff.1 h

theorem digitValue_lt {c : Char} (h : c.isDigit = true) : digitValue c < 10 := by
  obtain ⟨_, hhi⟩ := toNat_of_isDigit h
  show c.toNat - 48 < 10
  omega

/-- A digit is the character of its value. -/
theorem digitChar_digitValue {c : Char} (h : c.isDigit = true) :
    Nat.digitChar (digitValue c) = c := by
  obtain ⟨hlo, _⟩ := toNat_of_isDigit h
  apply Char.toNat_inj.1
  rw [Nat.toNat_digitChar_of_lt_ten (digitValue_lt h)]
  show 48 + (c.toNat - 48) = c.toNat
  omega

/-- Digits read after a number other than zero are written after it. -/
theorem toDigits_ofDigitChars {ds : List Char} (hd : ∀ c ∈ ds, c.isDigit = true) :
    ∀ {n : Nat}, 0 < n → Nat.toDigits 10 (Nat.ofDigitChars 10 ds n) = Nat.toDigits 10 n ++ ds := by
  induction ds with
  | nil => intro n _; simp
  | cons c ds ih =>
    intro n hn
    have hc : c.isDigit = true := hd c List.mem_cons_self
    have hnext : Nat.toDigits 10 (10 * n + digitValue c) = Nat.toDigits 10 n ++ [c] := by
      rw [← Nat.toDigits_append_toDigits (by decide) hn (digitValue_lt hc),
        Nat.toDigits_of_lt_base (digitValue_lt hc), digitChar_digitValue hc]
    rw [Nat.ofDigitChars_cons]
    show Nat.toDigits 10 (Nat.ofDigitChars 10 ds (10 * n + digitValue c)) = _
    rw [ih (fun x hx => hd x (List.mem_cons_of_mem _ hx)) (by omega), hnext]
    simp

/-- Digits without a leading zero are the spelling of the number they denote. -/
theorem toDigits_value {ds : List Char} (hne : ds ≠ []) (hd : ∀ c ∈ ds, c.isDigit = true)
    (hz : ds.head? = some '0' → ds.length = 1) : Nat.toDigits 10 (value ds) = ds := by
  cases ds with
  | nil => exact absurd rfl hne
  | cons c ds =>
    have hc : c.isDigit = true := hd c List.mem_cons_self
    have hvalue : value (c :: ds) = Nat.ofDigitChars 10 ds (digitValue c) := by
      show Nat.ofDigitChars 10 (c :: ds) 0 = _
      rw [Nat.ofDigitChars_cons]
      simp [digitValue]
    rw [hvalue]
    by_cases h0 : c = '0'
    -- a leading zero stands alone, so the number is zero
    · have hds : ds = [] := by simpa [h0] using hz
      subst hds h0
      decide
    · have hpos : 0 < digitValue c := by
        rcases Nat.eq_zero_or_pos (digitValue c) with h | h
        · have hchar := digitChar_digitValue hc
          rw [h] at hchar
          exact absurd hchar.symm h0
        · exact h
      rw [toDigits_ofDigitChars (fun x hx => hd x (List.mem_cons_of_mem _ hx)) hpos,
        Nat.toDigits_of_lt_base (digitValue_lt hc), digitChar_digitValue hc]
      rfl

/-- The spelling of a number holds digits only. -/
theorem isDigit_of_mem_toDigits {c : Char} {n : Nat} (h : c ∈ Nat.toDigits 10 n) :
    c.isDigit = true := Nat.isDigit_of_mem_toDigits (by decide) (by decide) h

theorem not_mem_toDigits {c : Char} (hc : c.isDigit = false) (n : Nat) :
    c ∉ Nat.toDigits 10 n := by
  intro h
  have hdigit : c.isDigit = true := isDigit_of_mem_toDigits h
  rw [hc] at hdigit
  exact absurd hdigit (by decide)

/-- A number is written as its digits. -/
theorem toList_toString (n : Nat) : (toString n).toList = Nat.toDigits 10 n := by
  rw [Nat.toString_eq_repr, Nat.toList_repr]

theorem value_toString (n : Nat) : value (toString n).toList = n := by
  rw [toList_toString, value_toDigits]

/-! ## Numbers at the end of a text -/

/-- A text is told by what stands before and after its last delimiter. -/
theorem append_cons_inj_of_not_mem {d : Char} {a b x y : List Char} (hx : d ∉ x) (hy : d ∉ y)
    (h : a ++ d :: x = b ++ d :: y) : a = b ∧ x = y := by
  -- the last delimiter is the first one of the reversed text
  have hcut : ∀ {p q : List Char}, d ∉ q →
      cut d (p ++ d :: q).reverse = some (q.reverse, p.reverse) := by
    intro p q hq
    refine cut_eq_some_iff.2 ⟨by simp, ?_⟩
    rw [List.mem_reverse]
    exact hq
  have hsame := hcut (p := a) hx
  rw [h, hcut hy, Option.some.injEq, Prod.mk.injEq] at hsame
  exact ⟨(List.reverse_inj.1 hsame.2).symm, (List.reverse_inj.1 hsame.1).symm⟩

/-- A number after a character that is no digit is told by the whole text. -/
theorem append_cons_toDigits_inj {d : Char} (hd : d.isDigit = false) {a b : List Char} {m n : Nat}
    (h : a ++ d :: Nat.toDigits 10 m = b ++ d :: Nat.toDigits 10 n) : a = b ∧ m = n := by
  obtain ⟨hab, hdigits⟩ :=
    append_cons_inj_of_not_mem (not_mem_toDigits hd m) (not_mem_toDigits hd n) h
  have hvalue : value (Nat.toDigits 10 m) = value (Nat.toDigits 10 n) := congrArg value hdigits
  rw [value_toDigits, value_toDigits] at hvalue
  exact ⟨hab, hvalue⟩

end ZoneNet.Text.Decimal
