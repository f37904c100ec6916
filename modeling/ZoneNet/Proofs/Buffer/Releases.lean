import ZoneNet.Buffer.KernelVersion
import ZoneNet.Proofs.Text.Spelling
import ZoneNet.Proofs.Text.Trimming

/-!
# The reading of kernel releases

The components of a release are what stands between its dots. They count up to the first one that
does not start with a digit, and what counts of one is the number that its leading digits denote.

* `components?_take` — the numbers of the first components, or that one of them is too great.
* `parse_eq_ok_iff`, `parse_eq_error_iff` — which texts name a release, and which one.
* `parse_text_append` — a release is read from its text, whatever follows that is no digit.
-/

namespace ZoneNet.KernelVersion

open Text

/-! ## Components -/

/-- Whether a text starts with a digit. -/
def StartsWithDigit (l : List Char) : Prop := l.head?.any Char.isDigit = true

instance : DecidablePred StartsWithDigit := fun _ => inferInstanceAs (Decidable (_ = true))

/-- The component at a place, from 0 on; one that is absent is empty. -/
def component (ps : List (List Char)) (i : Nat) : List Char := ps.getD i []

/-- Whether a component counts: it and all those before it start with a digit. -/
def Counts (ps : List (List Char)) (i : Nat) : Prop := ∀ k ≤ i, StartsWithDigit (component ps k)

instance (ps : List (List Char)) (i : Nat) : Decidable (Counts ps i) :=
  inferInstanceAs (Decidable (∀ k ≤ i, StartsWithDigit (component ps k)))

/-- The number that the digits at the start of a text denote. -/
def leadingValue (l : List Char) : Nat := Decimal.value (Decimal.leading l)

/-- The number that a component stands for; one that does not count stands for zero. -/
def number (ps : List (List Char)) (i : Nat) : Nat :=
  if Counts ps i then leadingValue (component ps i) else 0

theorem startsWithDigit_iff {l : List Char} :
    StartsWithDigit l ↔ ∃ c, l.head? = some c ∧ c.isDigit = true :=
  Option.any_eq_true ..

theorem leading_eq_nil_iff {l : List Char} : Decimal.leading l = [] ↔ ¬StartsWithDigit l := by
  cases l with
  | nil => simp [Decimal.leading, StartsWithDigit]
  | cons c l => by_cases hc : c.isDigit <;> simp [Decimal.leading, StartsWithDigit, hc]

variable {p : List Char} {ps : List (List Char)} {i n : Nat}

theorem counts_zero : Counts ps 0 ↔ StartsWithDigit (component ps 0) := by
  constructor
  · intro h
    exact h 0 (Nat.le_refl 0)
  · intro h k hk
    obtain rfl := Nat.le_zero.1 hk
    exact h

theorem counts_cons_succ : Counts (p :: ps) (i + 1) ↔ StartsWithDigit p ∧ Counts ps i := by
  constructor
  · intro h
    exact ⟨h 0 (Nat.zero_le _), fun k hk => h (k + 1) (Nat.succ_le_succ hk)⟩
  · rintro ⟨hp, h⟩ (_ | k) hk
    · exact hp
    · exact h k (Nat.le_of_succ_le_succ hk)

theorem not_counts_nil : ¬Counts [] i := fun h => absurd (h 0 (Nat.zero_le i)) (by decide)

theorem not_counts_cons (h : ¬StartsWithDigit p) : ¬Counts (p :: ps) i :=
  fun hcounts => h (hcounts 0 (Nat.zero_le i))

theorem number_of_not_counts (h : ¬Counts ps i) : number ps i = 0 := if_neg h

theorem number_zero (h : StartsWithDigit (component ps 0)) :
    number ps 0 = leadingValue (component ps 0) := if_pos (counts_zero.2 h)

theorem number_cons_zero (h : StartsWithDigit p) : number (p :: ps) 0 = leadingValue p := by
  have hfirst : StartsWithDigit (component (p :: ps) 0) := h
  exact number_zero hfirst

theorem number_cons_succ (h : StartsWithDigit p) : number (p :: ps) (i + 1) = number ps i := by
  by_cases hi : Counts ps i
  · rw [number, number, if_pos hi, if_pos (counts_cons_succ.2 ⟨h, hi⟩)]
    rfl
  · rw [number_of_not_counts hi, number_of_not_counts (fun hc => hi (counts_cons_succ.1 hc).2)]

/-! ## The numbers of components -/

/-- Whether the number of each component that counts, of the first `n`, has 32 bits. -/
def Fits (ps : List (List Char)) (n : Nat) : Prop :=
  ∀ i < n, Counts ps i → leadingValue (component ps i) < UInt32.size

theorem fits_iff : Fits ps n ↔ ∀ i < n, number ps i < UInt32.size := by
  constructor
  · intro h i hi
    by_cases hcounts : Counts ps i
    · rw [number, if_pos hcounts]
      exact h i hi hcounts
    · rw [number_of_not_counts hcounts]
      decide
  · intro h i hi hcounts
    have hnumber := h i hi
    rwa [number, if_pos hcounts] at hnumber

theorem fits_nil : Fits [] n := fun _ _ h => absurd h not_counts_nil

theorem fits_cons_of_not (h : ¬StartsWithDigit p) : Fits (p :: ps) n :=
  fun _ _ hcounts => absurd hcounts (not_counts_cons h)

theorem fits_cons (h : StartsWithDigit p) :
    Fits (p :: ps) (n + 1) ↔ leadingValue p < UInt32.size ∧ Fits ps n := by
  constructor
  · intro hfits
    exact ⟨hfits 0 (Nat.succ_pos n) (counts_zero.2 h), fun i hi hcounts =>
      hfits (i + 1) (Nat.succ_lt_succ hi) (counts_cons_succ.2 ⟨h, hcounts⟩)⟩
  · rintro ⟨hp, hfits⟩ (_ | i) hi hcounts
    · exact hp
    · exact hfits i (Nat.lt_of_succ_lt_succ hi) (counts_cons_succ.1 hcounts).2

/-- The first components are read if they fit, and then the values are their numbers: the reading
stops at the first component that does not count, and the numbers are zero from there on. -/
theorem components?_take (ps : List (List Char)) (n : Nat) :
    (∃ vs, components? (ps.take n) = some vs ∧ Fits ps n ∧
      ∀ i < n, (vs.getD i 0).toNat = number ps i) ∨
    components? (ps.take n) = none ∧ ¬Fits ps n := by
  induction ps generalizing n with
  | nil =>
    rw [List.take_nil]
    exact Or.inl ⟨[], rfl, fits_nil, fun i _ => (number_of_not_counts not_counts_nil).symm⟩
  | cons p ps ih =>
    cases n with
    | zero => exact Or.inl ⟨[], rfl, nofun, nofun⟩
    | succ n =>
      rw [List.take_succ_cons, components?]
      by_cases hp : StartsWithDigit p
      · rw [if_neg (mt leading_eq_nil_iff.1 (not_not_intro hp)), fits_cons hp]
        by_cases hvalue : leadingValue p < UInt32.size
        · rw [if_pos (show Decimal.value (Decimal.leading p) < UInt32.size from hvalue)]
          rcases ih n with ⟨vs, hvs, hfits, hnumbers⟩ | ⟨hnone, hfits⟩
          · refine Or.inl ⟨_, by rw [hvs]; rfl, ⟨hvalue, hfits⟩, ?_⟩
            rintro (_ | i) hi
            · rw [number_cons_zero hp]
              exact UInt32.toNat_ofNat_of_lt' hvalue
            · rw [number_cons_succ hp]
              exact hnumbers i (Nat.lt_of_succ_lt_succ hi)
          · exact Or.inr ⟨by rw [hnone]; rfl, fun h => hfits h.2⟩
        · rw [if_neg (show ¬Decimal.value (Decimal.leading p) < UInt32.size from hvalue)]
          exact Or.inr ⟨rfl, fun h => hvalue h.1⟩
      · rw [if_pos (leading_eq_nil_iff.2 hp)]
        exact Or.inl ⟨[], rfl, fits_cons_of_not hp,
          fun i _ => (number_of_not_counts (not_counts_cons hp)).symm⟩

/-- There is a first value just when the first component starts with a digit. -/
theorem eq_nil_of_components? {vs : List UInt32} (h : components? ps = some vs) :
    vs = [] ↔ ¬StartsWithDigit (component ps 0) := by
  cases ps with
  | nil =>
    obtain rfl := Option.some.inj h
    exact iff_of_true rfl (by decide)
  | cons p ps =>
    rw [components?] at h
    show _ ↔ ¬StartsWithDigit p
    split at h
    · next hp =>
      obtain rfl := Option.some.inj h
      exact iff_of_true rfl (leading_eq_nil_iff.1 hp)
    · next hp =>
      refine iff_of_false ?_ (mt leading_eq_nil_iff.2 hp)
      split at h
      · obtain ⟨_, -, rfl⟩ := Option.map_eq_some_iff.1 h
        exact List.cons_ne_nil _ _
      · cases h

/-! ## Texts -/

/-- The first piece of a text that starts with a part free of the delimiter starts with it. -/
theorem component_pieces_append {d : Char} {a : List Char} (h : d ∉ a) (b : List Char) :
    component (pieces d (a ++ b)) 0 = a ++ component (pieces d b) 0 := by
  induction a with
  | nil => rfl
  | cons c a ih =>
    obtain ⟨hc, ha⟩ := List.ne_and_not_mem_of_not_mem_cons h
    obtain ⟨p, ps, hp⟩ := List.exists_cons_of_ne_nil (pieces_ne_nil d (a ++ b))
    rw [hp] at ih
    rw [List.cons_append, pieces_cons, hp, extend, if_neg (Ne.symm hc)]
    exact congrArg (c :: ·) (ih ha)

/-- The first component of a text starts with a digit just when the text does. -/
theorem startsWithDigit_component (l : List Char) :
    StartsWithDigit (component (pieces '.' l) 0) ↔ StartsWithDigit l := by
  cases l with
  | nil => rfl
  | cons c l =>
    by_cases hc : c = '.'
    · subst hc
      have hfirst : component (pieces '.' ('.' :: l)) 0 = [] := rfl
      rw [hfirst]
      exact iff_of_false (by decide) (by simp [StartsWithDigit])
    · have hdot : '.' ∉ [c] := by simpa using Ne.symm hc
      have hfirst : component (pieces '.' (c :: l)) 0 = c :: component (pieces '.' l) 0 :=
        component_pieces_append hdot l
      rw [hfirst]
      rfl

/-- The components of a text without the blanks at its ends. -/
def partsOf (s : String) : List (List Char) := pieces '.' (trim s.toList)

/-- Whether a text names a release: without the blanks at its ends it starts with a digit, and the
numbers of its first three components have 32 bits, as far as the components count. -/
def Names (s : String) : Prop := StartsWithDigit (trim s.toList) ∧ Fits (partsOf s) 3

/-- A text that names a release is read as the numbers of its first three components, and any other
text is told of as it stands. -/
theorem parse_cases (s : String) :
    (∃ v, parse s = .ok v ∧ Names s ∧ v.major.toNat = number (partsOf s) 0 ∧
      v.minor.toNat = number (partsOf s) 1 ∧ v.patch.toNat = number (partsOf s) 2) ∨
    parse s = .error ⟨s⟩ ∧ ¬Names s := by
  unfold parse Names
  dsimp only
  rw [show pieces '.' (trim s.toList) = partsOf s from rfl, ← startsWithDigit_component]
  rcases components?_take (partsOf s) 3 with ⟨vs, hvs, hfits, hnumbers⟩ | ⟨hnone, hfits⟩
  · have hempty : vs = [] ↔ ¬StartsWithDigit (component ((partsOf s).take 3) 0) :=
      eq_nil_of_components? hvs
    rw [show component ((partsOf s).take 3) 0 = component (partsOf s) 0 by
      simp [component, List.getD_eq_getElem?_getD]] at hempty
    rw [hvs]
    cases vs with
    | nil => exact Or.inr ⟨rfl, fun h => hempty.1 rfl h.1⟩
    | cons a vs =>
      refine Or.inl ⟨_, rfl, ⟨?_, hfits⟩, hnumbers 0 (by decide), hnumbers 1 (by decide),
        hnumbers 2 (by decide)⟩
      exact Decidable.of_not_not (mt hempty.2 (List.cons_ne_nil a vs))
  · rw [hnone]
    exact Or.inr ⟨rfl, fun h => hfits h.2⟩

theorem parse_eq_ok_iff {s : String} {v : KernelVersion} :
    parse s = .ok v ↔ Names s ∧ v.major.toNat = number (partsOf s) 0 ∧
      v.minor.toNat = number (partsOf s) 1 ∧ v.patch.toNat = number (partsOf s) 2 := by
  rcases parse_cases s with ⟨w, hw, hnames, hmajor, hminor, hpatch⟩ | ⟨herror, hnames⟩
  · rw [hw]
    constructor
    · rintro ⟨⟩
      exact ⟨hnames, hmajor, hminor, hpatch⟩
    · rintro ⟨-, hmajor', hminor', hpatch'⟩
      obtain ⟨a, b, c⟩ := v
      obtain ⟨a', b', c'⟩ := w
      obtain rfl : a' = a := UInt32.toNat_inj.1 (hmajor.trans hmajor'.symm)
      obtain rfl : b' = b := UInt32.toNat_inj.1 (hminor.trans hminor'.symm)
      obtain rfl : c' = c := UInt32.toNat_inj.1 (hpatch.trans hpatch'.symm)
      rfl
  · rw [herror]
    exact iff_of_false nofun fun h => hnames h.1

theorem parse_eq_error_iff {s : String} {e : Malformed} :
    parse s = .error e ↔ ¬Names s ∧ e = ⟨s⟩ := by
  rcases parse_cases s with ⟨w, hw, hnames, -⟩ | ⟨herror, hnames⟩
  · rw [hw]
    exact iff_of_false nofun fun h => h.1 hnames
  · rw [herror, Except.error.injEq, eq_comm]
    exact (and_iff_right hnames).symm

/-! ## Texts of releases -/

theorem isBlank_eq_false {c : Char} (h : c.isDigit = true) : isBlank c = false := by
  obtain ⟨hlow, hhigh⟩ := Decimal.toNat_of_isDigit h
  simp only [isBlank, Bool.or_eq_false_iff, Bool.and_eq_false_iff, decide_eq_false_iff_not,
    beq_eq_false_iff_ne]
  omega

/-- The digits of a number are all that counts of them and what follows that is no digit. -/
theorem leadingValue_toDigits_append (n : Nat) {r : List Char} (h : ¬StartsWithDigit r) :
    leadingValue (Nat.toDigits 10 n ++ r) = n := by
  have hall : ∀ c ∈ Nat.toDigits 10 n, c.isDigit = true := fun _ =>
    Decimal.isDigit_of_mem_toDigits
  have hleading : Decimal.leading (Nat.toDigits 10 n ++ r)
      = Nat.toDigits 10 n ++ Decimal.leading r := List.takeWhile_append_of_pos hall
  rw [leadingValue, hleading, leading_eq_nil_iff.2 h, List.append_nil, Decimal.value_toDigits]

theorem startsWithDigit_toDigits_append (n : Nat) (r : List Char) :
    StartsWithDigit (Nat.toDigits 10 n ++ r) := by
  have hne : Nat.toDigits 10 n ≠ [] := Nat.toDigits_ne_nil
  refine startsWithDigit_iff.2 ⟨(Nat.toDigits 10 n).head hne, ?_, ?_⟩
  · rw [List.head?_append, List.head?_eq_some_head hne]
    rfl
  · exact Decimal.isDigit_of_mem_toDigits (List.head_mem hne)

theorem toList_text (v : KernelVersion) :
    v.text.toList = Nat.toDigits 10 v.major.toNat ++ '.' :: (Nat.toDigits 10 v.minor.toNat ++ '.' ::
      Nat.toDigits 10 v.patch.toNat) := by
  simp [text]

/-- The text of a release begins and ends with a digit, so only what follows it is trimmed. -/
theorem trim_text_append (v : KernelVersion) (r : List Char) :
    trim (v.text.toList ++ r) = v.text.toList ++ trimEnd r := by
  have hne : Nat.toDigits 10 v.patch.toNat ≠ [] := Nat.toDigits_ne_nil
  have hstart : StartsWithDigit v.text.toList := by
    rw [toList_text]
    exact startsWithDigit_toDigits_append _ _
  obtain ⟨c, hfirst, hc⟩ := startsWithDigit_iff.1 hstart
  have hlast : v.text.toList.getLast? = some ((Nat.toDigits 10 v.patch.toNat).getLast hne) := by
    have hform : v.text.toList = (Nat.toDigits 10 v.major.toNat ++ '.' ::
        (Nat.toDigits 10 v.minor.toNat ++ ['.'])) ++ Nat.toDigits 10 v.patch.toNat := by
      simp [toList_text]
    rw [hform, List.getLast?_append, List.getLast?_eq_some_getLast hne]
    rfl
  have hlastDigit : ((Nat.toDigits 10 v.patch.toNat).getLast hne).isDigit = true :=
    Decimal.isDigit_of_mem_toDigits (List.getLast_mem hne)
  exact trim_append hfirst hlast (isBlank_eq_false hc) (isBlank_eq_false hlastDigit) r

/-- What follows the text of a release goes into its last component and those after it. -/
theorem partsOf_text_append (v : KernelVersion) (r : String) :
    partsOf (v.text ++ r) = Nat.toDigits 10 v.major.toNat :: Nat.toDigits 10 v.minor.toNat ::
      pieces '.' (Nat.toDigits 10 v.patch.toNat ++ trimEnd r.toList) := by
  have hdot : ∀ n, '.' ∉ Nat.toDigits 10 n := Decimal.not_mem_toDigits (by decide)
  rw [partsOf, String.toList_append, trim_text_append, toList_text, List.append_assoc,
    List.cons_append, List.append_assoc, List.cons_append, pieces_append, pieces_append,
    pieces_of_not_mem (hdot _), pieces_of_not_mem (hdot _)]
  rfl

theorem number_partsOf_text_append (v : KernelVersion) {r : String}
    (h : ¬StartsWithDigit r.toList) :
    number (partsOf (v.text ++ r)) 0 = v.major.toNat ∧
      number (partsOf (v.text ++ r)) 1 = v.minor.toNat ∧
      number (partsOf (v.text ++ r)) 2 = v.patch.toNat := by
  have hstart : ∀ n, StartsWithDigit (Nat.toDigits 10 n) := fun n => by
    simpa using startsWithDigit_toDigits_append n []
  have hvalue : ∀ n, leadingValue (Nat.toDigits 10 n) = n := fun n => by
    simpa using leadingValue_toDigits_append n (r := []) (by decide)
  have htrimmed : ¬StartsWithDigit (trimEnd r.toList) := by
    intro hstarts
    obtain ⟨c, hc, hdigit⟩ := startsWithDigit_iff.1 hstarts
    obtain ⟨b, hb⟩ := trimEnd_prefix r.toList
    exact h (startsWithDigit_iff.2 ⟨c, by rw [← hb, List.head?_append, hc]; rfl, hdigit⟩)
  have hlast : component (pieces '.' (Nat.toDigits 10 v.patch.toNat ++ trimEnd r.toList)) 0
      = Nat.toDigits 10 v.patch.toNat ++ component (pieces '.' (trimEnd r.toList)) 0 :=
    component_pieces_append (Decimal.not_mem_toDigits (by decide) _) _
  rw [partsOf_text_append]
  refine ⟨?_, ?_, ?_⟩
  · rw [number_cons_zero (hstart _)]
    exact hvalue _
  · rw [number_cons_succ (hstart _), number_cons_zero (hstart _)]
    exact hvalue _
  · rw [number_cons_succ (hstart _), number_cons_succ (hstart _), number_zero, hlast,
      leadingValue_toDigits_append]
    · rwa [startsWithDigit_component]
    · rw [hlast]
      exact startsWithDigit_toDigits_append _ _

/-- A release is read from its text, whatever follows that is no digit. -/
theorem parse_text_append (v : KernelVersion) {r : String} (h : ¬StartsWithDigit r.toList) :
    parse (v.text ++ r) = .ok v := by
  obtain ⟨hmajor, hminor, hpatch⟩ := number_partsOf_text_append v h
  have hstart : StartsWithDigit (trim (v.text ++ r).toList) := by
    rw [String.toList_append, trim_text_append, toList_text, List.append_assoc]
    exact startsWithDigit_toDigits_append _ _
  have hfits : Fits (partsOf (v.text ++ r)) 3 := by
    rw [fits_iff]
    intro i hi
    obtain rfl | rfl | rfl : i = 0 ∨ i = 1 ∨ i = 2 := by omega
    · exact hmajor ▸ v.major.toNat_lt_size
    · exact hminor ▸ v.minor.toNat_lt_size
    · exact hpatch ▸ v.patch.toNat_lt_size
  exact parse_eq_ok_iff.2 ⟨⟨hstart, hfits⟩, hmajor.symm, hminor.symm, hpatch.symm⟩

/-! ## What names a release -/

/-- Of every text it is told whether it is read as a release, as which one, and with which error if
it names none. So a release is read from its text with anything behind it that does not start with a
digit. -/
theorem parse_release :
    (∀ (s : String) (v : KernelVersion), parse s = .ok v ↔ Names s ∧
      v.major.toNat = number (partsOf s) 0 ∧ v.minor.toNat = number (partsOf s) 1 ∧
      v.patch.toNat = number (partsOf s) 2) ∧
    (∀ (s : String) (e : Malformed), parse s = .error e ↔ ¬Names s ∧ e = ⟨s⟩) ∧
    ∀ (v : KernelVersion) (r : String), ¬StartsWithDigit r.toList → parse (v.text ++ r) = .ok v :=
  ⟨fun _ _ => parse_eq_ok_iff, fun _ _ => parse_eq_error_iff, fun v _ h => parse_text_append v h⟩

/-- A release with the greatest numbers that there are, and a word behind it. -/
theorem parse_release_word :
    let v : KernelVersion := ⟨4294967295, 0, 4294967295⟩
    ¬StartsWithDigit ".10-lx ".toList ∧ parse (v.text ++ ".10-lx ") = .ok v := by
  intro v
  have hword : ¬StartsWithDigit ".10-lx ".toList := by decide
  exact ⟨hword, parse_release.2.2 v _ hword⟩

end ZoneNet.KernelVersion
