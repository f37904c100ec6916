import Mathlib.Algebra.Group.Nat.Defs
import ZoneNet.Text.Utf8

/-!
# UTF-8 read and written

The reader is held to the encoding of characters, in both directions.

* `flatMap_bytes_chunks` — the chunks of any bytes are those bytes: a character stands for the
  bytes that encode it, and a faulty chunk for its own.
* `chunks_encode` — the chunks of an encoded text are its characters.
* `decode_eq_ok_iff` — bytes are read as a text just when they are the text's encoding.
-/

namespace ZoneNet.Text.Utf8

open String (utf8EncodeChar)

/-- The bytes that a chunk was read from. -/
def Chunk.bytes : Chunk → List UInt8
  | .char c => utf8EncodeChar c
  | .faulty bytes _ => bytes

/-! ## Sequences -/

/-- The bytes that end an encoding: one for each of the last `k` groups of six bits. -/
def tail : Nat → Nat → List UInt8
  | 0, _ => []
  | k + 1, n => .ofNat (n / 64 ^ k % 64 + 0x80) :: tail k n

/-- Whether a character is one of those that a sequence can still become. -/
def Pending.Covers (p : Pending) (n : Nat) : Prop :=
  p.value * 64 + p.low.toNat ≤ n / 64 ^ (p.missing - 1) + 0x80 ∧
    n / 64 ^ (p.missing - 1) + 0x80 ≤ p.value * 64 + p.high.toNat

/-- What holds of a sequence that has begun: its bytes start the encoding of every character that
it can still become. -/
structure Pending.Opens (p : Pending) : Prop where
  missing : 0 < p.missing
  low : 0x80 ≤ p.low.toNat
  high : p.high.toNat ≤ 0xBF
  spells : ∀ n, p.Covers n →
    n.isValidChar ∧ utf8EncodeChar (Char.ofNat n) = p.bytes.reverse ++ tail p.missing n

/-- A sequence with one byte more. -/
def Pending.push (p : Pending) (b : UInt8) : Pending :=
  ⟨b :: p.bytes, p.value * 64 + (b.toNat - 0x80), p.missing - 1, 0x80, 0xBF⟩

/-- What a first byte opens, by the number of bytes that follow it. -/
theorem lead_eq (b : UInt8) :
    lead b =
      if 0xC2 ≤ b.toNat ∧ b.toNat ≤ 0xDF then some ⟨[b], b.toNat - 0xC0, 1, 0x80, 0xBF⟩
      else if 0xE0 ≤ b.toNat ∧ b.toNat ≤ 0xEF then
        some ⟨[b], b.toNat - 0xE0, 2, if b.toNat = 0xE0 then 0xA0 else 0x80,
          if b.toNat = 0xED then 0x9F else 0xBF⟩
      else if 0xF0 ≤ b.toNat ∧ b.toNat ≤ 0xF4 then
        some ⟨[b], b.toNat - 0xF0, 3, if b.toNat = 0xF0 then 0x90 else 0x80,
          if b.toNat = 0xF4 then 0x8F else 0xBF⟩
      else none := by
  unfold lead
  simp only [Bool.and_eq_true, decide_eq_true_eq, beq_iff_eq, UInt8.le_iff_toNat_le,
    ← UInt8.toNat_inj, UInt8.reduceToNat]
  grind

theorem toNat_ofNat {n : Nat} (h : n.isValidChar) : (Char.ofNat n).toNat = n := by
  unfold Char.ofNat
  rw [dif_pos h]
  unfold Char.ofNatAux Char.toNat
  simp

/-- The encoding of a character by its number. -/
theorem utf8EncodeChar_ofNat {n : Nat} (h : n.isValidChar) :
    utf8EncodeChar (Char.ofNat n) =
      if n ≤ 0x7F then [.ofNat n]
      else if n ≤ 0x7FF then .ofNat (n / 64 % 0x20 + 0xC0) :: tail 1 n
      else if n ≤ 0xFFFF then .ofNat (n / 4096 % 0x10 + 0xE0) :: tail 2 n
      else .ofNat (n / 262144 % 0x08 + 0xF0) :: tail 3 n := by
  have hn : (Char.ofNat n).val.toNat = n := toNat_ofNat h
  unfold utf8EncodeChar
  simp only [hn, tail, Nat.reducePow, Nat.div_one]

theorem opens_two {b : UInt8} (hb : 0xC2 ≤ b.toNat ∧ b.toNat ≤ 0xDF) :
    Pending.Opens ⟨[b], b.toNat - 0xC0, 1, 0x80, 0xBF⟩ := by
  refine ⟨by simp, by simp, by simp, fun n hn => ?_⟩
  simp only [Pending.Covers, UInt8.reduceToNat, Nat.reduceSub, Nat.reducePow, Nat.div_one] at hn
  have hv : n.isValidChar := Or.inl (by omega)
  refine ⟨hv, ?_⟩
  rw [utf8EncodeChar_ofNat hv, if_neg (by omega), if_pos (by omega),
    show n / 64 % 0x20 + 0xC0 = b.toNat by omega, UInt8.ofNat_toNat]
  rfl

/-- The ranges of the second byte leave out the overlong forms and the surrogates. -/
theorem opens_three {b low high : UInt8} (hb : 0xE0 ≤ b.toNat ∧ b.toNat ≤ 0xEF)
    (hlow : 0x80 ≤ low.toNat) (hhigh : high.toNat ≤ 0xBF)
    (hfirst : b.toNat = 0xE0 → 0xA0 ≤ low.toNat) (hlast : b.toNat = 0xED → high.toNat ≤ 0x9F) :
    Pending.Opens ⟨[b], b.toNat - 0xE0, 2, low, high⟩ := by
  refine ⟨by simp, hlow, hhigh, fun n hn => ?_⟩
  simp only [Pending.Covers, Nat.reduceSub, Nat.reducePow] at hn
  have hv : n.isValidChar := by
    by_cases hD : b.toNat ≤ 0xED
    · exact Or.inl (by omega)
    · exact Or.inr (by omega)
  refine ⟨hv, ?_⟩
  rw [utf8EncodeChar_ofNat hv, if_neg (by omega), if_neg (by omega), if_pos (by omega),
    show n / 4096 % 0x10 + 0xE0 = b.toNat by omega, UInt8.ofNat_toNat]
  rfl

/-- The ranges of the second byte leave out the overlong forms and what is past the last
character. -/
theorem opens_four {b low high : UInt8} (hb : 0xF0 ≤ b.toNat ∧ b.toNat ≤ 0xF4)
    (hlow : 0x80 ≤ low.toNat) (hhigh : high.toNat ≤ 0xBF)
    (hfirst : b.toNat = 0xF0 → 0x90 ≤ low.toNat) (hlast : b.toNat = 0xF4 → high.toNat ≤ 0x8F) :
    Pending.Opens ⟨[b], b.toNat - 0xF0, 3, low, high⟩ := by
  refine ⟨by simp, hlow, hhigh, fun n hn => ?_⟩
  simp only [Pending.Covers, Nat.reduceSub, Nat.reducePow] at hn
  have hv : n.isValidChar := Or.inr (by omega)
  refine ⟨hv, ?_⟩
  rw [utf8EncodeChar_ofNat hv, if_neg (by omega), if_neg (by omega), if_neg (by omega),
    show n / 262144 % 0x08 + 0xF0 = b.toNat by omega, UInt8.ofNat_toNat]
  rfl

theorem opens_of_lead {b : UInt8} {p : Pending} (h : lead b = some p) : p.Opens ∧ p.bytes = [b] := by
  rw [lead_eq] at h
  split at h
  · next hb =>
    cases h
    exact ⟨opens_two hb, rfl⟩
  split at h
  · next hb =>
    cases h
    refine ⟨opens_three hb ?_ ?_ ?_ ?_, rfl⟩ <;> split <;> simp_all
  split at h
  · next hb =>
    cases h
    refine ⟨opens_four hb ?_ ?_ ?_ ?_, rfl⟩ <;> split <;> simp_all
  · cases h

theorem not_lt_of_lead {b : UInt8} {p : Pending} (h : lead b = some p) : ¬b < 0x80 := by
  intro hb
  have hlt : b.toNat < 128 := UInt8.lt_iff_toNat_lt.1 hb
  rw [lead_eq, if_neg (by omega), if_neg (by omega), if_neg (by omega)] at h
  cases h

/-- Every character past the first 128 has a first byte that opens a sequence for it. -/
theorem exists_lead {n : Nat} (h : n.isValidChar) (hn : 0x80 ≤ n) :
    ∃ b p, lead b = some p ∧ p.Covers n := by
  have hmax : n ≤ 0x10FFFF ∧ ¬(0xD800 ≤ n ∧ n ≤ 0xDFFF) := by
    rcases h with h | h <;> omega
  by_cases h2 : n ≤ 0x7FF
  · have hb : (UInt8.ofNat (n / 64 + 0xC0)).toNat = n / 64 + 0xC0 :=
      UInt8.toNat_ofNat_of_lt' (show _ < 256 by omega)
    refine ⟨.ofNat (n / 64 + 0xC0), _, by rw [lead_eq, hb, if_pos (by omega)], ?_⟩
    simp only [Pending.Covers, UInt8.reduceToNat, Nat.reduceSub, Nat.reducePow, Nat.div_one]
    omega
  by_cases h3 : n ≤ 0xFFFF
  · have hb : (UInt8.ofNat (n / 4096 + 0xE0)).toNat = n / 4096 + 0xE0 :=
      UInt8.toNat_ofNat_of_lt' (show _ < 256 by omega)
    refine ⟨.ofNat (n / 4096 + 0xE0), _,
      by rw [lead_eq, hb, if_neg (by omega), if_pos (by omega)], ?_⟩
    simp only [Pending.Covers, apply_ite UInt8.toNat, UInt8.reduceToNat, Nat.reduceSub,
      Nat.reducePow]
    split <;> split <;> omega
  · have hb : (UInt8.ofNat (n / 262144 + 0xF0)).toNat = n / 262144 + 0xF0 :=
      UInt8.toNat_ofNat_of_lt' (show _ < 256 by omega)
    refine ⟨.ofNat (n / 262144 + 0xF0), _,
      by rw [lead_eq, hb, if_neg (by omega), if_neg (by omega), if_pos (by omega)], ?_⟩
    simp only [Pending.Covers, apply_ite UInt8.toNat, UInt8.reduceToNat, Nat.reduceSub,
      Nat.reducePow]
    split <;> split <;> omega

/-- A sequence with one byte more covers what it did before with that byte next. -/
theorem Pending.Opens.covers_push {p : Pending} (h : p.Opens) {b : UInt8} (hlow : p.low ≤ b)
    (hmore : 1 < p.missing) {n : Nat} :
    (p.push b).Covers n ↔ n / 64 ^ (p.missing - 1) + 0x80 = p.value * 64 + b.toNat := by
  have hl := h.low
  rw [UInt8.le_iff_toNat_le] at hlow
  obtain ⟨k, hk⟩ : ∃ k, p.missing = k + 2 := ⟨p.missing - 2, by omega⟩
  have hdiv : n / 64 ^ (k + 1) = n / 64 ^ k / 64 := by
    rw [Nat.pow_succ, Nat.div_div_eq_div_mul]
  simp only [Pending.Covers, Pending.push, hk, UInt8.reduceToNat, Nat.add_sub_cancel,
    show k + 2 - 1 = k + 1 from rfl, hdiv]
  omega

/-- A byte in range leaves a sequence that has begun, unless it was the last. -/
theorem Pending.Opens.push {p : Pending} (h : p.Opens) {b : UInt8} (hlow : p.low ≤ b)
    (hhigh : b ≤ p.high) (hmore : 1 < p.missing) : (p.push b).Opens := by
  have hl := h.low
  have hr := h.high
  have hlow' := UInt8.le_iff_toNat_le.1 hlow
  have hhigh' := UInt8.le_iff_toNat_le.1 hhigh
  refine ⟨by simp only [Pending.push]; omega, by simp [Pending.push], by simp [Pending.push], ?_⟩
  intro n hn
  rw [h.covers_push hlow hmore] at hn
  obtain ⟨hv, hspell⟩ := h.spells n ⟨by omega, by omega⟩
  refine ⟨hv, ?_⟩
  obtain ⟨k, hk⟩ : ∃ k, p.missing = k + 1 := ⟨p.missing - 1, by omega⟩
  rw [hk, Nat.add_sub_cancel] at hn
  rw [hspell, hk, tail, show n / 64 ^ k % 64 + 0x80 = b.toNat by omega, UInt8.ofNat_toNat]
  simp [Pending.push, hk]

/-- The last byte of a sequence closes it with the character that it encodes. -/
theorem Pending.Opens.close {p : Pending} (h : p.Opens) {b : UInt8} (hlow : p.low ≤ b)
    (hhigh : b ≤ p.high) (hlast : p.missing = 1) :
    utf8EncodeChar (Char.ofNat (p.push b).value) = p.bytes.reverse ++ [b] := by
  have hl := h.low
  have hr := h.high
  rw [UInt8.le_iff_toNat_le] at hlow hhigh
  have hv : (p.push b).value = p.value * 64 + (b.toNat - 0x80) := rfl
  obtain ⟨-, hspell⟩ := h.spells (p.push b).value (by
    simp only [Pending.Covers, hlast, hv, Nat.sub_self, Nat.pow_zero, Nat.div_one]
    omega)
  rw [hspell, hlast, tail, tail, hv,
    show (p.value * 64 + (b.toNat - 0x80)) / 64 ^ 0 % 64 + 0x80 = b.toNat by simp; omega,
    UInt8.ofNat_toNat]

/-! ## What has been read -/

/-- The bytes that a state was reached by. -/
def State.read (s : State) : List UInt8 :=
  s.done.reverse.flatMap Chunk.bytes ++ (s.pending.map fun p => p.bytes.reverse).getD []

/-- A state whose sequence, if there is one, is one that can still become a character. -/
def State.Sound (s : State) : Prop := ∀ p, s.pending = some p → p.Opens

theorem step_of_mem {done : List Chunk} {p : Pending} {b : UInt8} (hlow : p.low ≤ b)
    (hhigh : b ≤ p.high) :
    State.step ⟨done, some p⟩ b =
      if p.missing ≤ 1 then ⟨.char (Char.ofNat (p.push b).value) :: done, none⟩
      else ⟨done, some (p.push b)⟩ := by
  unfold State.step
  dsimp only
  rw [if_pos (by simp [hlow, hhigh])]
  rfl

/-- A byte outside any sequence is read for itself. -/
theorem open_read (done : List Chunk) (b : UInt8) :
    (State.open done b).Sound ∧
      (State.open done b).read = done.reverse.flatMap Chunk.bytes ++ [b] := by
  unfold State.open
  split
  · next hb =>
    have hb' : b.toNat < 128 := UInt8.lt_iff_toNat_lt.1 hb
    have hv : b.toNat.isValidChar := Or.inl (by omega)
    refine ⟨nofun, ?_⟩
    have henc : utf8EncodeChar (Char.ofNat b.toNat) = [b] := by
      rw [utf8EncodeChar_ofNat hv, if_pos (by omega), UInt8.ofNat_toNat]
    simp [State.read, Chunk.bytes, henc]
  · split
    · next p hp =>
      obtain ⟨hopens, hbytes⟩ := opens_of_lead hp
      exact ⟨fun q hq => (by cases hq; exact hopens), by simp [State.read, hbytes]⟩
    · exact ⟨nofun, by simp [State.read, Chunk.bytes]⟩

/-- One byte more is one byte more that has been read. -/
theorem step_read {s : State} (h : s.Sound) (b : UInt8) :
    (s.step b).Sound ∧ (s.step b).read = s.read ++ [b] := by
  obtain ⟨done, _ | p⟩ := s
  · show (State.open done b).Sound ∧ (State.open done b).read = _
    simpa [State.read] using open_read done b
  · have hp : p.Opens := h p rfl
    by_cases hrange : p.low ≤ b ∧ b ≤ p.high
    · rw [step_of_mem hrange.1 hrange.2]
      have hpos := hp.missing
      by_cases hlast : p.missing ≤ 1
      · rw [if_pos hlast]
        refine ⟨nofun, ?_⟩
        simp [State.read, Chunk.bytes, hp.close hrange.1 hrange.2 (by omega)]
      · rw [if_neg hlast]
        refine ⟨fun q hq => (by cases hq; exact hp.push hrange.1 hrange.2 (by omega)), ?_⟩
        simp [State.read, Pending.push]
    · have hstep : State.step ⟨done, some p⟩ b = .open (.faulty p.bytes.reverse false :: done) b := by
        simp [State.step, hrange]
      rw [hstep]
      simpa [State.read, Chunk.bytes] using open_read (.faulty p.bytes.reverse false :: done) b

theorem foldl_read {s : State} (h : s.Sound) (bs : List UInt8) :
    (bs.foldl State.step s).read = s.read ++ bs := by
  induction bs generalizing s with
  | nil => simp
  | cons b bs ih =>
    obtain ⟨hsound, hread⟩ := step_read h b
    rw [List.foldl_cons, ih hsound, hread, List.append_assoc, List.singleton_append]

/-- Nothing is lost: the chunks of a text, each as its bytes, are the text. -/
theorem flatMap_bytes_chunks (bs : List UInt8) : (chunks bs).flatMap Chunk.bytes = bs := by
  have hread := foldl_read (s := .start) nofun bs
  have hfinish : ∀ s : State, s.finish.flatMap Chunk.bytes = s.read := by
    rintro ⟨done, _ | p⟩
    · simp [State.finish, State.read]
    · simp [State.finish, State.read, Chunk.bytes]
  rw [chunks, hfinish, hread]
  rfl

/-! ## Encoded texts -/

/-- The bytes of an array are listed in order. -/
theorem toList_eq (bs : ByteArray) : bs.toList = bs.data.toList := by
  have hloop : ∀ i acc, ByteArray.toList.loop bs i acc = acc.reverse ++ bs.data.toList.drop i := by
    intro i acc
    fun_induction ByteArray.toList.loop bs i acc with
    | case1 i acc h ih =>
      have hi : i < bs.data.toList.length := by simpa using h
      rw [ih, List.drop_eq_getElem_cons hi]
      simp [ByteArray.get!, h]
    | case2 i acc h =>
      rw [List.drop_eq_nil_of_le (by simpa using Nat.le_of_not_lt h), List.append_nil]
  rw [ByteArray.toList, hloop, List.reverse_nil, List.nil_append, List.drop_zero]

theorem encode_ofList (cs : List Char) : encode (String.ofList cs) = cs.flatMap utf8EncodeChar := by
  rw [encode, toList_eq, String.toUTF8_eq_toByteArray, String.toByteArray_ofList, List.utf8Encode,
    List.toList_data_toByteArray]

/-- The bytes that are still to come close a sequence with a character that it covers. -/
theorem foldl_tail {p : Pending} (hp : p.Opens) {n : Nat} (hn : p.Covers n) (done : List Chunk) :
    (tail p.missing n).foldl State.step ⟨done, some p⟩ = ⟨.char (Char.ofNat n) :: done, none⟩ := by
  obtain ⟨k, hk⟩ : ∃ k, p.missing = k + 1 := ⟨p.missing - 1, by have := hp.missing; omega⟩
  have hl := hp.low
  have hr := hp.high
  have hn' := hn
  simp only [Pending.Covers, hk, Nat.add_sub_cancel] at hn'
  rw [hk, tail, List.foldl_cons]
  -- the next byte lies in the range of the sequence, since the character is covered by it
  have hb : (UInt8.ofNat (n / 64 ^ k % 64 + 0x80)).toNat = n / 64 ^ k % 64 + 0x80 :=
    UInt8.toNat_ofNat_of_lt' (show _ < 256 by omega)
  generalize UInt8.ofNat (n / 64 ^ k % 64 + 0x80) = b at hb
  have hlow : p.low ≤ b := UInt8.le_iff_toNat_le.2 (by omega)
  have hhigh : b ≤ p.high := UInt8.le_iff_toNat_le.2 (by omega)
  have hvalue : (p.push b).value = n / 64 ^ k := by
    simp only [Pending.push]
    omega
  rw [step_of_mem hlow hhigh]
  cases k with
  | zero => rw [if_pos (by omega), hvalue, Nat.pow_zero, Nat.div_one]; rfl
  | succ k =>
    rw [if_neg (by omega)]
    have hmissing : (p.push b).missing = k + 1 := by simp [Pending.push, hk]
    have hcovers : (p.push b).Covers n :=
      (hp.covers_push hlow (by omega)).2 (by rw [hk, Nat.add_sub_cancel]; omega)
    have ih := foldl_tail (hp.push hlow hhigh (by omega)) hcovers done
    rwa [hmissing] at ih
termination_by p.missing
decreasing_by simp only [Pending.push]; omega

/-- An encoded character is read as that character. -/
theorem foldl_utf8EncodeChar (c : Char) (done : List Chunk) :
    (utf8EncodeChar c).foldl State.step ⟨done, none⟩ = ⟨.char c :: done, none⟩ := by
  have hv : c.toNat.isValidChar := c.valid
  by_cases hascii : c.toNat < 0x80
  · have henc : utf8EncodeChar c = [.ofNat c.toNat] := by
      have h := utf8EncodeChar_ofNat hv
      rwa [if_pos (by omega), Char.ofNat_toNat] at h
    have hb : (UInt8.ofNat c.toNat).toNat = c.toNat :=
      UInt8.toNat_ofNat_of_lt' (show _ < 256 by omega)
    have hlt : UInt8.ofNat c.toNat < 0x80 := UInt8.lt_iff_toNat_lt.2 (by rw [hb]; exact hascii)
    rw [henc, List.foldl_cons, List.foldl_nil]
    show State.open done (.ofNat c.toNat) = _
    rw [State.open, if_pos hlt, hb, Char.ofNat_toNat]
  · obtain ⟨b, p, hlead, hcovers⟩ := exists_lead hv (by omega)
    obtain ⟨hopens, hbytes⟩ := opens_of_lead hlead
    obtain ⟨-, hspell⟩ := hopens.spells _ hcovers
    rw [Char.ofNat_toNat, hbytes, List.reverse_singleton, List.singleton_append] at hspell
    have hopen : State.open done b = ⟨done, some p⟩ := by
      simp only [State.open, if_neg (not_lt_of_lead hlead), hlead]
    rw [hspell, List.foldl_cons]
    show (tail p.missing c.toNat).foldl State.step (State.open done b) = _
    rw [hopen, foldl_tail hopens hcovers, Char.ofNat_toNat]

theorem foldl_flatMap (cs : List Char) (done : List Chunk) :
    (cs.flatMap utf8EncodeChar).foldl State.step ⟨done, none⟩
      = ⟨(cs.map Chunk.char).reverse ++ done, none⟩ := by
  induction cs generalizing done with
  | nil => rfl
  | cons c cs ih =>
    rw [List.flatMap_cons, List.foldl_append, foldl_utf8EncodeChar, ih]
    simp

/-- The chunks of an encoded text are its characters. -/
theorem chunks_encode (cs : List Char) :
    chunks (encode (String.ofList cs)) = cs.map Chunk.char := by
  rw [chunks, encode_ofList]
  show State.finish (_) = _
  rw [State.start, foldl_flatMap]
  simp [State.finish]

/-- Only characters are collected to the end. -/
theorem collect_eq_ok_iff {i : Nat} {acc cs : List Char} {chunks : List Chunk} :
    collect i acc chunks = .ok cs ↔ ∃ l, chunks = l.map Chunk.char ∧ cs = acc.reverse ++ l := by
  induction chunks generalizing i acc with
  | nil => simp [collect, eq_comm]
  | cons chunk rest ih =>
    cases chunk with
    | faulty bytes cutShort =>
      constructor
      · simp [collect]
      · rintro ⟨_ | ⟨c, l⟩, hl, -⟩
        · cases hl
        · cases hl
    | char c =>
      rw [collect, ih]
      constructor
      · rintro ⟨l, rfl, rfl⟩
        exact ⟨c :: l, rfl, by simp⟩
      · rintro ⟨l, hl, rfl⟩
        cases l with
        | nil => cases hl
        | cons d l =>
          rw [List.map_cons, List.cons.injEq] at hl
          obtain ⟨hd, rfl⟩ := hl
          cases hd
          exact ⟨l, rfl, by simp⟩

/-- Bytes are read as a text just when they are the encoding of that text. -/
theorem decode_eq_ok_iff {bs : List UInt8} {cs : List Char} :
    decode bs = .ok cs ↔ bs = encode (String.ofList cs) := by
  rw [decode, collect_eq_ok_iff]
  constructor
  · rintro ⟨l, hl, rfl⟩
    rw [← flatMap_bytes_chunks bs, hl, encode_ofList]
    simp [List.flatMap_map, Chunk.bytes]
  · rintro rfl
    exact ⟨cs, chunks_encode cs, rfl⟩

/-- A text can be told from its bytes. -/
theorem encode_injective : Function.Injective encode := by
  intro s t h
  have hs : decode (encode s) = .ok s.toList := decode_eq_ok_iff.2 (by rw [String.ofList_toList])
  have ht : decode (encode t) = .ok t.toList := decode_eq_ok_iff.2 (by rw [String.ofList_toList])
  rw [h, ht] at hs
  exact String.toList_injective (Except.ok.inj hs).symm

end ZoneNet.Text.Utf8
