import ZoneNet.Proofs.Text.Utf8Codec
import ZoneNet.Text.Blank

/-!
# Stretches of a text

What is looked for in a text is a stretch of it. Neither the replacement of faulty bytes, nor the
removal of blanks, nor a separator makes or breaks a stretch of plain characters, if the stretch
has no blank at its ends and does not hold the separator.

* `infix_append_cons_iff` — two texts with a separator between them.
* `infix_trim_iff` — a text without the blanks at its ends.
* `infix_decodeLossy_iff` — a text that was read from bytes of any kind.
-/

namespace ZoneNet.Text

variable {α : Type}

/-! ## Parts that have no part in a stretch -/

/-- A stretch does not begin in what does not hold its first symbol. -/
theorem infix_append_iff_of_not_mem {x : α} {p a l : List α} (h : x ∉ a) :
    x :: p <:+: a ++ l ↔ x :: p <:+: l := by
  induction a with
  | nil => rfl
  | cons c a ih =>
    obtain ⟨hc, ha⟩ := List.ne_and_not_mem_of_not_mem_cons h
    rw [List.cons_append, List.infix_cons_iff, ih ha, List.cons_prefix_cons]
    exact or_iff_right fun hfirst => hc hfirst.1

/-- A stretch without the separator lies on one side of it. -/
theorem infix_append_cons_iff {d : α} {p a b : List α} (h : d ∉ p) :
    p <:+: a ++ d :: b ↔ p <:+: a ∨ p <:+: b := by
  constructor
  · induction a with
    | nil =>
      intro hp
      rcases List.infix_cons_iff.1 hp with hfirst | hrest
      · rcases p with _ | ⟨x, p⟩
        · exact Or.inl List.nil_infix
        · exact absurd ((List.cons_prefix_cons.1 hfirst).1 ▸ List.mem_cons_self) h
      · exact Or.inr hrest
    | cons c a ih =>
      intro hp
      rcases List.infix_cons_iff.1 hp with hfirst | hrest
      -- a prefix that does not hold the separator ends before it
      · left
        rcases List.prefix_or_prefix_of_prefix hfirst (List.prefix_append (c :: a) (d :: b))
          with hshort | ⟨s, rfl⟩
        · exact hshort.isInfix
        · rcases s with _ | ⟨x, s⟩
          · exact (List.append_nil (c :: a)).symm ▸ List.infix_rfl
          · have hx : x = d :=
              (List.cons_prefix_cons.1 ((List.prefix_append_right_inj (c :: a)).1 hfirst)).1
            simp [hx] at h
      · exact (ih hrest).imp_left fun hi => hi.trans (List.suffix_cons c a).isInfix
  · rintro (hp | hp)
    · exact hp.trans (List.prefix_append a (d :: b)).isInfix
    · exact hp.trans ((List.suffix_cons d b).trans (List.suffix_append a (d :: b))).isInfix

/-! ## Blanks -/

/-- A stretch that begins with a character that is not blank. -/
theorem infix_trimStart_iff {c : Char} {p l : List Char} (hc : isBlank c = false) :
    c :: p <:+: trimStart l ↔ c :: p <:+: l := by
  obtain ⟨b, hb, hl⟩ := exists_blank_append_trimStart l
  have hnot : c ∉ b := by
    intro hm
    rw [hb c hm] at hc
    cases hc
  have hiff := infix_append_iff_of_not_mem (p := p) (l := trimStart l) hnot
  rw [← hl] at hiff
  exact hiff.symm

/-- A stretch that ends with one. -/
theorem infix_trimEnd_iff {c : Char} {p l : List Char} (hc : isBlank c = false) :
    p ++ [c] <:+: trimEnd l ↔ p ++ [c] <:+: l := by
  have hreversed {m : List Char} : p ++ [c] <:+: m.reverse ↔ c :: p.reverse <:+: m := by
    rw [← List.reverse_infix]
    simp
  calc p ++ [c] <:+: trimEnd l
      ↔ c :: p.reverse <:+: trimStart l.reverse := hreversed
    _ ↔ c :: p.reverse <:+: l.reverse := infix_trimStart_iff hc
    _ ↔ p ++ [c] <:+: l := by rw [← hreversed, List.reverse_reverse]

/-- A text without a blank at its ends stands in a trimmed text just when it does in the whole
one. -/
theorem infix_trim_iff {c d : Char} {p l : List Char} (hfirst : p.head? = some c)
    (hlast : p.getLast? = some d) (hc : isBlank c = false) (hd : isBlank d = false) :
    p <:+: trim l ↔ p <:+: l := by
  obtain ⟨q, hq⟩ := List.head?_eq_some_iff.1 hfirst
  obtain ⟨r, hr⟩ := List.getLast?_eq_some_iff.1 hlast
  unfold trim
  rw [hr, infix_trimEnd_iff hd, ← hr, hq, infix_trimStart_iff hc]

end ZoneNet.Text

namespace ZoneNet.Text.Utf8

open String (utf8EncodeChar)

/-! ## Bytes of any kind -/

/-- Bytes past those of plain characters, at least one of them. -/
def High (bytes : List UInt8) : Prop := bytes ≠ [] ∧ ∀ b ∈ bytes, 0x80 ≤ b.toNat

theorem high_cons {b : UInt8} {bytes : List UInt8} (hb : 0x80 ≤ b.toNat)
    (h : ∀ x ∈ bytes, 0x80 ≤ x.toNat) : High (b :: bytes) :=
  ⟨List.cons_ne_nil b bytes, List.forall_mem_cons.2 ⟨hb, h⟩⟩

theorem High.exists_cons {bytes : List UInt8} (h : High bytes) :
    ∃ b rest, bytes = b :: rest ∧ 0x80 ≤ b.toNat := by
  obtain ⟨hne, hbytes⟩ := h
  obtain ⟨b, rest, rfl⟩ := List.exists_cons_of_ne_nil hne
  exact ⟨b, rest, rfl, hbytes b List.mem_cons_self⟩

theorem le_of_mem_tail {k n : Nat} : ∀ b ∈ tail k n, 0x80 ≤ b.toNat := by
  induction k with
  | zero => simp [tail]
  | succ k ih =>
    intro b hb
    rcases List.mem_cons.1 hb with rfl | hb
    · rw [UInt8.toNat_ofNat_of_lt' (show _ < 256 by omega)]
      omega
    · exact ih b hb

/-- A plain character is one byte. -/
theorem utf8EncodeChar_plain {c : Char} (h : c.toNat < 0x80) :
    utf8EncodeChar c = [.ofNat c.toNat] := by
  have henc := utf8EncodeChar_ofNat (n := c.toNat) c.valid
  rwa [Char.ofNat_toNat, if_pos (by omega)] at henc

/-- No byte of any other character is that of a plain one. -/
theorem high_utf8EncodeChar {c : Char} (h : 0x80 ≤ c.toNat) : High (utf8EncodeChar c) := by
  have henc := utf8EncodeChar_ofNat (n := c.toNat) c.valid
  have hmax : c.toNat ≤ 0x10FFFF := by
    have hvalid : c.toNat.isValidChar := c.valid
    rcases hvalid with hv | hv <;> omega
  rw [Char.ofNat_toNat, if_neg (by omega)] at henc
  have hlead {n : Nat} (hn : n < 256) (hlow : 0x80 ≤ n) (k : Nat) :
      High (.ofNat n :: tail k c.toNat) := by
    refine high_cons ?_ le_of_mem_tail
    rwa [UInt8.toNat_ofNat_of_lt' (show _ < 256 from hn)]
  rw [henc]
  split
  · exact hlead (by omega) (by omega) 1
  split
  · exact hlead (by omega) (by omega) 2
  · exact hlead (by omega) (by omega) 3

/-- Faulty chunks hold no byte of a plain character. -/
def Chunk.Sound : Chunk → Prop
  | .char _ => True
  | .faulty bytes _ => High bytes

/-- What has been read so far holds sound chunks, and the sequence that has begun would be one. -/
structure State.Settled (s : State) : Prop where
  done : ∀ k ∈ s.done, k.Sound
  pending : ∀ p, s.pending = some p → High p.bytes ∧ 0x80 ≤ p.low.toNat

theorem settled_open {done : List Chunk} (h : ∀ k ∈ done, k.Sound) (b : UInt8) :
    (State.open done b).Settled := by
  unfold State.open
  by_cases hb : b < 0x80
  · rw [if_pos hb]
    exact ⟨List.forall_mem_cons.2 ⟨trivial, h⟩, nofun⟩
  rw [if_neg hb]
  have hhigh : High [b] := by
    rw [UInt8.lt_iff_toNat_lt] at hb
    exact high_cons (Nat.le_of_not_lt hb) (by simp)
  rcases hlead : lead b with _ | p
  · exact ⟨List.forall_mem_cons.2 ⟨hhigh, h⟩, nofun⟩
  · obtain ⟨hopens, hbytes⟩ := opens_of_lead hlead
    refine ⟨h, ?_⟩
    rintro q ⟨⟩
    rw [hbytes]
    exact ⟨hhigh, hopens.low⟩

theorem State.Settled.step {s : State} (h : s.Settled) (b : UInt8) : (s.step b).Settled := by
  obtain ⟨done, _ | p⟩ := s
  · exact settled_open h.done b
  obtain ⟨hhigh, hlow⟩ := h.pending p rfl
  by_cases hrange : p.low ≤ b ∧ b ≤ p.high
  · rw [step_of_mem hrange.1 hrange.2]
    split
    · exact ⟨List.forall_mem_cons.2 ⟨trivial, h.done⟩, nofun⟩
    · refine ⟨h.done, ?_⟩
      rintro q ⟨⟩
      have hb : 0x80 ≤ b.toNat := Nat.le_trans hlow (UInt8.le_iff_toNat_le.1 hrange.1)
      exact ⟨high_cons hb hhigh.2, Nat.le_refl 0x80⟩
  · have hfaulty : Chunk.Sound (.faulty p.bytes.reverse false) :=
      ⟨by simpa using hhigh.1, fun x hx => hhigh.2 x (List.mem_reverse.1 hx)⟩
    have hstep : State.step ⟨done, some p⟩ b = .open (.faulty p.bytes.reverse false :: done) b := by
      simp [State.step, hrange]
    rw [hstep]
    exact settled_open (List.forall_mem_cons.2 ⟨hfaulty, h.done⟩) b

theorem State.Settled.finish {s : State} (h : s.Settled) : ∀ k ∈ s.finish, k.Sound := by
  obtain ⟨done, _ | p⟩ := s
  · intro k hk
    exact h.done k (List.mem_reverse.1 hk)
  · obtain ⟨hhigh, -⟩ := h.pending p rfl
    intro k hk
    rcases List.mem_cons.1 (List.mem_reverse.1 hk) with rfl | hk
    · exact ⟨by simpa using hhigh.1, fun x hx => hhigh.2 x (List.mem_reverse.1 hx)⟩
    · exact h.done k hk

/-- Every chunk of a text is sound. -/
theorem sound_of_mem_chunks (bs : List UInt8) : ∀ k ∈ chunks bs, k.Sound := by
  have hfold : ∀ s : State, s.Settled → (bs.foldl State.step s).Settled := by
    induction bs with
    | nil => exact fun _ h => h
    | cons b bs ih => exact fun s h => ih _ (h.step b)
  exact (hfold .start ⟨by simp [State.start], nofun⟩).finish

/-- A sound chunk is a plain character, or stands for one that is not plain, with no byte of a plain
one. -/
theorem Chunk.Sound.cases {k : Chunk} (h : k.Sound) :
    (∃ c : Char, c.toNat < 0x80 ∧ k = .char c) ∨ 0x80 ≤ k.toChar.toNat ∧ High k.bytes := by
  cases k with
  | char c =>
    by_cases hc : c.toNat < 0x80
    · exact Or.inl ⟨c, hc, rfl⟩
    · exact Or.inr ⟨Nat.le_of_not_lt hc, high_utf8EncodeChar (Nat.le_of_not_lt hc)⟩
  | faulty bytes cutShort => exact Or.inr ⟨show 0x80 ≤ replacement.toNat by decide, h⟩

theorem ofNat_toNat_inj {c d : Char} (hc : c.toNat < 0x80) (hd : d.toNat < 0x80) :
    UInt8.ofNat c.toNat = UInt8.ofNat d.toNat ↔ c = d := by
  rw [← UInt8.toNat_inj, UInt8.toNat_ofNat_of_lt' (show _ < 256 by omega),
    UInt8.toNat_ofNat_of_lt' (show _ < 256 by omega), Char.toNat_inj]

variable {p : List Char} {ks : List Chunk}

/-- Plain characters begin a text just when their bytes begin its bytes. -/
theorem prefix_chunks_iff (hplain : ∀ c ∈ p, c.toNat < 0x80) (hsound : ∀ k ∈ ks, k.Sound) :
    p <+: ks.map Chunk.toChar ↔ p.flatMap utf8EncodeChar <+: ks.flatMap Chunk.bytes := by
  induction ks generalizing p with
  | nil =>
    cases p with
    | nil => simp
    | cons c p => simp [utf8EncodeChar_plain (hplain c List.mem_cons_self)]
  | cons k ks ih =>
    cases p with
    | nil => simp
    | cons c p =>
      obtain ⟨hc, hp⟩ := List.forall_mem_cons.1 hplain
      obtain ⟨hk, hks⟩ := List.forall_mem_cons.1 hsound
      rw [List.flatMap_cons, List.flatMap_cons, List.map_cons, List.cons_prefix_cons,
        utf8EncodeChar_plain hc]
      rcases hk.cases with ⟨d, hd, rfl⟩ | ⟨hchar, hhigh⟩
      · rw [Chunk.bytes, utf8EncodeChar_plain hd, List.singleton_append, List.singleton_append,
          List.cons_prefix_cons, ih hp hks, ofNat_toNat_inj hc hd]
        rfl
      -- the first byte of such a chunk is none of a plain character
      · obtain ⟨b, bytes, hb, hfirst⟩ := hhigh.exists_cons
        rw [hb, List.singleton_append, List.cons_append, List.cons_prefix_cons]
        constructor
        · rintro ⟨rfl, -⟩
          omega
        · rintro ⟨rfl, -⟩
          rw [UInt8.toNat_ofNat_of_lt' (show _ < 256 by omega)] at hfirst
          omega

/-- Plain characters stand somewhere in a text just when their bytes do in its bytes. -/
theorem infix_chunks_iff (hne : p ≠ []) (hplain : ∀ c ∈ p, c.toNat < 0x80)
    (hsound : ∀ k ∈ ks, k.Sound) :
    p <:+: ks.map Chunk.toChar ↔ p.flatMap utf8EncodeChar <:+: ks.flatMap Chunk.bytes := by
  obtain ⟨c, q, rfl⟩ := List.exists_cons_of_ne_nil hne
  have hc : c.toNat < 0x80 := hplain c List.mem_cons_self
  have henc : (c :: q).flatMap utf8EncodeChar = .ofNat c.toNat :: q.flatMap utf8EncodeChar := by
    rw [List.flatMap_cons, utf8EncodeChar_plain hc, List.singleton_append]
  induction ks with
  | nil => simp [henc]
  | cons k ks ih =>
    obtain ⟨hk, hks⟩ := List.forall_mem_cons.1 hsound
    have hrest : c :: q <:+: ks.map Chunk.toChar ↔
        (c :: q).flatMap utf8EncodeChar <:+: ks.flatMap Chunk.bytes := ih hks
    rw [List.map_cons, List.infix_cons_iff, hrest, ← List.map_cons, prefix_chunks_iff hplain hsound,
      henc]
    rcases hk.cases with ⟨d, hd, rfl⟩ | ⟨hchar, -, hbytes⟩
    · rw [List.flatMap_cons, Chunk.bytes, utf8EncodeChar_plain hd, List.singleton_append,
        List.infix_cons_iff]
    · have hnot : UInt8.ofNat c.toNat ∉ k.bytes := by
        intro hm
        have hlow := hbytes _ hm
        rw [UInt8.toNat_ofNat_of_lt' (show _ < 256 by omega)] at hlow
        omega
      rw [List.flatMap_cons, infix_append_iff_of_not_mem hnot]
      exact or_iff_right_of_imp fun hfirst =>
        (infix_append_iff_of_not_mem hnot).1 hfirst.isInfix

/-- Reading bytes of any kind makes and breaks no stretch of plain characters. -/
theorem infix_decodeLossy_iff (hne : p ≠ []) (hplain : ∀ c ∈ p, c.toNat < 0x80) (bs : List UInt8) :
    p <:+: decodeLossy bs ↔ encode (String.ofList p) <:+: bs := by
  rw [decodeLossy, infix_chunks_iff hne hplain (sound_of_mem_chunks bs), flatMap_bytes_chunks,
    encode_ofList]

end ZoneNet.Text.Utf8
