import ZoneNet.Proofs.Text.Stretches
import ZoneNet.Proofs.Text.Trimming

/-!
# How long a text is that was read from bytes of any kind

A faulty chunk is read as one character, which is written with three bytes. So a text that was read
may be longer than the bytes that it was read from, by two for each faulty chunk at most.

* `size_decodeLossy_le` — the text beside its bytes.
* `faults_le_length` — there are no more faulty chunks than bytes.
* `faults_take_le` — bytes that are cut off have one faulty chunk more at most.
-/

namespace ZoneNet.Text.Utf8

open String (utf8EncodeChar)

/-- Whether a chunk is no character. -/
def Chunk.isFaulty : Chunk → Bool
  | .char _ => false
  | .faulty .. => true

/-- How many faulty chunks there are in a text. -/
def faults (bs : List UInt8) : Nat := (chunks bs).countP Chunk.isFaulty

/-! ## The length of a text -/

theorem length_encode (s : String) : (encode s).length = s.utf8ByteSize := by
  rw [encode, toList_eq, String.toUTF8_eq_toByteArray]
  rfl

theorem utf8ByteSize_ofList (cs : List Char) :
    (String.ofList cs).utf8ByteSize = (cs.flatMap utf8EncodeChar).length := by
  rw [← length_encode, encode_ofList]

/-- A trimmed text is no longer than the whole one. -/
theorem utf8ByteSize_trim_le (cs : List Char) :
    (String.ofList (trim cs)).utf8ByteSize ≤ (String.ofList cs).utf8ByteSize := by
  obtain ⟨a, b, -, -, hcs⟩ := exists_blank_append_trim cs
  have hbytes := congrArg (fun l => (l.flatMap utf8EncodeChar).length) hcs
  rw [utf8ByteSize_ofList, utf8ByteSize_ofList]
  simp only [List.flatMap_append, List.length_append] at hbytes
  omega

/-- The character that stands for a chunk adds two bytes at most, and none unless the chunk is
faulty. -/
theorem length_toChar_le {k : Chunk} (h : k.Sound) :
    (utf8EncodeChar k.toChar).length ≤ k.bytes.length + 2 * if k.isFaulty then 1 else 0 := by
  cases k with
  | char c => exact Nat.le_refl _
  | faulty bytes cutShort =>
    have hbytes : 0 < bytes.length := List.length_pos_iff.2 h.1
    have hthree : (utf8EncodeChar replacement).length = 3 := by decide
    show (utf8EncodeChar replacement).length ≤ bytes.length + 2
    omega

theorem length_flatMap_toChar_le {ks : List Chunk} (h : ∀ k ∈ ks, k.Sound) :
    ((ks.map Chunk.toChar).flatMap utf8EncodeChar).length
      ≤ (ks.flatMap Chunk.bytes).length + 2 * ks.countP Chunk.isFaulty := by
  induction ks with
  | nil => exact Nat.le_refl _
  | cons k ks ih =>
    obtain ⟨hk, hks⟩ := List.forall_mem_cons.1 h
    have hone := length_toChar_le hk
    have hrest := ih hks
    rw [List.map_cons, List.flatMap_cons, List.flatMap_cons, List.length_append,
      List.length_append, List.countP_cons]
    omega

/-- A text is longer than the bytes that it was read from by two for each faulty chunk at most. -/
theorem size_decodeLossy_le (bs : List UInt8) :
    (String.ofList (decodeLossy bs)).utf8ByteSize ≤ bs.length + 2 * faults bs := by
  have hlength := length_flatMap_toChar_le (sound_of_mem_chunks bs)
  rwa [flatMap_bytes_chunks, ← utf8ByteSize_ofList] at hlength

/-! ## Faulty chunks -/

theorem countP_isFaulty_le {ks : List Chunk} (h : ∀ k ∈ ks, k.Sound) :
    ks.countP Chunk.isFaulty ≤ (ks.flatMap Chunk.bytes).length := by
  induction ks with
  | nil => exact Nat.le_refl _
  | cons k ks ih =>
    obtain ⟨hk, hks⟩ := List.forall_mem_cons.1 h
    have hrest := ih hks
    rw [List.flatMap_cons, List.length_append, List.countP_cons]
    cases k with
    | char c => exact Nat.le_trans hrest (Nat.le_add_left ..)
    | faulty bytes cutShort =>
      have hbytes : 0 < bytes.length := List.length_pos_iff.2 hk.1
      show _ + 1 ≤ bytes.length + _
      omega

/-- A faulty chunk has a byte at least. -/
theorem faults_le_length (bs : List UInt8) : faults bs ≤ bs.length := by
  have hcount := countP_isFaulty_le (sound_of_mem_chunks bs)
  rwa [flatMap_bytes_chunks] at hcount

/-- An encoded text has no faulty chunk. -/
theorem faults_encode (s : String) : faults (encode s) = 0 := by
  have hchunks := chunks_encode s.toList
  rw [String.ofList_toList] at hchunks
  rw [faults, hchunks, List.countP_eq_zero]
  simp [Chunk.isFaulty]

/-- What has been read stays read. -/
theorem done_suffix_step (s : State) (b : UInt8) : s.done <:+ (s.step b).done := by
  have hopen (done : List Chunk) : done <:+ (State.open done b).done := by
    unfold State.open
    split
    · exact List.suffix_cons ..
    · split
      · exact List.suffix_rfl
      · exact List.suffix_cons ..
  unfold State.step
  split
  · exact hopen _
  · split
    · dsimp only
      split
      · exact List.suffix_cons ..
      · exact List.suffix_rfl
    · exact (List.suffix_cons ..).trans (hopen _)

theorem done_suffix_foldl (s : State) (bs : List UInt8) : s.done <:+ (bs.foldl State.step s).done := by
  induction bs generalizing s with
  | nil => exact List.suffix_rfl
  | cons b bs ih => exact (done_suffix_step s b).trans (ih _)

/-- The end of a text leaves one faulty chunk more at most. -/
theorem countP_finish (s : State) :
    s.done.countP Chunk.isFaulty ≤ s.finish.countP Chunk.isFaulty ∧
      s.finish.countP Chunk.isFaulty ≤ s.done.countP Chunk.isFaulty + 1 := by
  obtain ⟨done, _ | p⟩ := s
  · simp [State.finish]
  · simp [State.finish, Chunk.isFaulty]

/-- Bytes that are cut off have one faulty chunk more than before at most: that of the character
that was cut through. -/
theorem faults_take_le (n : Nat) (bs : List UInt8) : faults (bs.take n) ≤ faults bs + 1 := by
  have hsuffix := done_suffix_foldl ((bs.take n).foldl State.step .start) (bs.drop n)
  rw [← List.foldl_append, List.take_append_drop] at hsuffix
  calc faults (bs.take n)
    _ ≤ ((bs.take n).foldl State.step .start).done.countP Chunk.isFaulty + 1 :=
      (countP_finish _).2
    _ ≤ (bs.foldl State.step .start).done.countP Chunk.isFaulty + 1 :=
      Nat.add_le_add_right hsuffix.sublist.countP_le 1
    _ ≤ faults bs + 1 := Nat.add_le_add_right (countP_finish _).1 1

end ZoneNet.Text.Utf8
