import ZoneNet.Text.Blank

/-!
# Texts without the blanks at their ends

* `exists_blank_append_trim` — what goes from a text that is trimmed is blank.
* `trim_append` — of a text that begins with one that has no blank at its ends, only the rest is
  trimmed, and only at its end.
* `isBlank_of_head?_trim`, `isBlank_of_getLast?_trim` — a trimmed text has no blank at its ends.
* `trim_blank_append`, `trim_append_blank` — blanks around a text make no difference.
-/

namespace ZoneNet.Text

/-- What stands behind a text whose end is trimmed is blank. -/
theorem exists_trimEnd_append_blank (l : List Char) :
    ∃ b, (∀ c ∈ b, isBlank c = true) ∧ l = trimEnd l ++ b := by
  obtain ⟨b, hb, hl⟩ := exists_blank_append_trimStart l.reverse
  refine ⟨b.reverse, fun c hc => hb c (List.mem_reverse.1 hc), ?_⟩
  have hreverse := congrArg List.reverse hl
  rwa [List.reverse_reverse, List.reverse_append] at hreverse

/-- What stands around a trimmed text is blank. -/
theorem exists_blank_append_trim (l : List Char) :
    ∃ a b, (∀ c ∈ a, isBlank c = true) ∧ (∀ c ∈ b, isBlank c = true) ∧ l = a ++ trim l ++ b := by
  obtain ⟨a, ha, hl⟩ := exists_blank_append_trimStart l
  obtain ⟨b, hb, hstart⟩ := exists_trimEnd_append_blank (trimStart l)
  refine ⟨a, b, ha, hb, ?_⟩
  calc l
      = a ++ trimStart l := hl
    _ = a ++ (trim l ++ b) := congrArg (a ++ ·) hstart
    _ = a ++ trim l ++ b := (List.append_assoc ..).symm

theorem trimEnd_prefix (l : List Char) : trimEnd l <+: l := by
  obtain ⟨b, -, hl⟩ := exists_trimEnd_append_blank l
  exact ⟨b, hl.symm⟩

theorem trimEnd_append {c : Char} {a : List Char} (hlast : a.getLast? = some c)
    (hc : isBlank c = false) (b : List Char) : trimEnd (a ++ b) = a ++ trimEnd b := by
  obtain ⟨r, rfl⟩ := List.getLast?_eq_some_iff.1 hlast
  unfold trimEnd
  rw [List.reverse_append, List.dropWhile_append]
  by_cases hb : b.reverse.dropWhile isBlank = []
  · simp [hb, hc]
  · rw [if_neg (by simpa using hb), List.reverse_append, List.reverse_reverse]

theorem trim_append {c d : Char} {a : List Char} (hfirst : a.head? = some c)
    (hlast : a.getLast? = some d) (hc : isBlank c = false) (hd : isBlank d = false)
    (b : List Char) : trim (a ++ b) = a ++ trimEnd b := by
  obtain ⟨r, rfl⟩ := List.head?_eq_some_iff.1 hfirst
  rw [trim, List.cons_append, trimStart_of_not_blank hc, ← List.cons_append, trimEnd_append hlast hd]

/-- A text without blanks at its ends is left as it is. -/
theorem trim_eq_self {c d : Char} {a : List Char} (hfirst : a.head? = some c)
    (hlast : a.getLast? = some d) (hc : isBlank c = false) (hd : isBlank d = false) :
    trim a = a := by
  have htrim := trim_append hfirst hlast hc hd []
  rwa [show trimEnd [] = [] from rfl, List.append_nil] at htrim

/-! ## The ends of a trimmed text -/

variable {c : Char} {l a b : List Char}

theorem isBlank_of_head?_trimStart (h : (trimStart l).head? = some c) : isBlank c = false := by
  have hfirst := List.head?_dropWhile_not isBlank l
  rwa [show (l.dropWhile isBlank).head? = some c from h] at hfirst

theorem isBlank_of_head?_trim (h : (trim l).head? = some c) : isBlank c = false := by
  obtain ⟨r, hr⟩ := List.head?_eq_some_iff.1 h
  obtain ⟨b, hb⟩ := trimEnd_prefix (trimStart l)
  refine isBlank_of_head?_trimStart (l := l) ?_
  rw [← hb, show trimEnd (trimStart l) = c :: r from hr]
  rfl

theorem isBlank_of_getLast?_trim (h : (trim l).getLast? = some c) : isBlank c = false := by
  rw [trim, trimEnd, List.getLast?_reverse] at h
  exact isBlank_of_head?_trimStart h

/-- What is not blank is not trimmed away. -/
theorem trim_ne_nil (hmem : c ∈ l) (hc : isBlank c = false) : trim l ≠ [] := by
  intro hnil
  obtain ⟨a, b, ha, hb, hl⟩ := exists_blank_append_trim l
  rw [hnil, List.append_nil] at hl
  rw [hl, List.mem_append] at hmem
  have hblank : isBlank c = true := hmem.elim (ha c) (hb c)
  rw [hc] at hblank
  cases hblank

/-! ## Blanks around a text -/

theorem trim_blank_append (ha : ∀ c ∈ a, isBlank c = true) (l : List Char) :
    trim (a ++ l) = trim l := by
  rw [trim, trimStart, List.dropWhile_append_of_pos ha]
  rfl

theorem trimEnd_append_blank (l : List Char) (hb : ∀ c ∈ b, isBlank c = true) :
    trimEnd (l ++ b) = trimEnd l := by
  have hreverse : ∀ c ∈ b.reverse, isBlank c = true := fun c hc => hb c (List.mem_reverse.1 hc)
  rw [trimEnd, List.reverse_append, List.dropWhile_append_of_pos hreverse]
  rfl

theorem trim_append_blank (l : List Char) (hb : ∀ c ∈ b, isBlank c = true) :
    trim (l ++ b) = trim l := by
  obtain ⟨a, ha, hl⟩ := exists_blank_append_trimStart l
  rw [show trim l = trimEnd (trimStart l) from rfl]
  conv => enter [1]; rw [hl, List.append_assoc, trim_blank_append ha]
  rcases hrest : trimStart l with _ | ⟨c, r⟩
  · have hall := trim_blank_append hb []
    rwa [List.append_nil] at hall
  · have hc : isBlank c = false := isBlank_of_head?_trimStart (l := l) (by rw [hrest]; rfl)
    rw [trim, List.cons_append, trimStart_of_not_blank hc, ← List.cons_append,
      trimEnd_append_blank _ hb]

end ZoneNet.Text
