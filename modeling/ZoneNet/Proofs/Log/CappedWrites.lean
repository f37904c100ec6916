import ZoneNet.Log.CappedFile

/-!
# Writes to a file with a cap

Whatever buffers are written to a file with a cap, it holds the first bytes of all of them, up to
the cap, and whoever writes never sees the cap.

* `Holds.write`, `holds_after` — one write, and from it any number of writes.
* `after_capped` — what is in the file after every write, and what the write answers.
-/

namespace ZoneNet.CappedFile

/-- A file that nothing has been written to. -/
def fresh (cap : Nat) : CappedFile := { cap }

/-- The file after buffers have been written to it one after another. -/
def after (f : CappedFile) (buffers : List (List UInt8)) : CappedFile :=
  buffers.foldl (fun f buffer => (f.write buffer).2) f

/-- A file with a cap holds what fits of the bytes written to it so far, and knows how much it
holds. -/
structure Holds (cap : Nat) (total : List UInt8) (f : CappedFile) : Prop where
  cap_eq : f.cap = cap
  contents : f.contents = total.take cap
  written : f.written = f.contents.length

variable {cap : Nat} {total : List UInt8} {f : CappedFile}

theorem holds_fresh (cap : Nat) : Holds cap [] (fresh cap) where
  cap_eq := rfl
  contents := List.take_nil.symm
  written := rfl

theorem Holds.written_eq (h : Holds cap total f) : f.written = min cap total.length := by
  rw [h.written, h.contents, List.length_take]

theorem Holds.written_le (h : Holds cap total f) : f.written ≤ cap := by
  rw [h.written_eq]
  exact Nat.min_le_left _ _

/-- Whoever writes is told that all of the buffer was written. -/
theorem fst_write (f : CappedFile) (buffer : List UInt8) : (f.write buffer).1 = buffer.length := by
  unfold write
  split <;> rfl

/-- One more buffer goes behind the bytes that are there, as far as it fits. -/
theorem Holds.write (h : Holds cap total f) (buffer : List UInt8) :
    Holds cap (total ++ buffer) (f.write buffer).2 := by
  have hsize : f.written = min cap total.length := h.written_eq
  unfold CappedFile.write
  by_cases hfull : f.cap ≤ f.written
  -- the file is full, so the cap lies in what was there before
  · rw [if_pos hfull]
    rw [h.cap_eq, hsize] at hfull
    have hcontents : f.contents = (total ++ buffer).take cap := by
      rw [h.contents, List.take_append_of_le_length (by omega)]
    exact ⟨h.cap_eq, hcontents, h.written⟩
  -- all that was there before has been kept, and the cap lies behind it
  · rw [if_neg hfull]
    rw [h.cap_eq, hsize] at hfull
    have hwritten : f.written = total.length := by omega
    have hcontents : f.contents ++ buffer.take (f.cap - f.written)
        = (total ++ buffer).take cap := by
      rw [List.take_append, h.contents, h.cap_eq, hwritten]
    refine ⟨h.cap_eq, hcontents, ?_⟩
    dsimp only
    rw [List.length_append, h.written]

/-- So do any number of them. -/
theorem Holds.after (h : Holds cap total f) (buffers : List (List UInt8)) :
    Holds cap (total ++ buffers.flatten) (f.after buffers) := by
  induction buffers generalizing total f with
  | nil => simpa [CappedFile.after] using h
  | cons buffer buffers ih =>
    have hrest := ih (h.write buffer)
    rwa [List.append_assoc] at hrest

theorem holds_after (cap : Nat) (buffers : List (List UInt8)) :
    Holds cap buffers.flatten ((fresh cap).after buffers) := (holds_fresh cap).after buffers

/-- The cap of a file through every write. Before it, no more has been written than the cap allows,
so what remains is the difference of the two. After it, the file holds the first bytes of all that
was written, up to the cap; how much has been written is the size of the file, and never past the
cap; and whoever writes is told the length of the whole buffer. -/
theorem after_capped (cap : Nat) (earlier : List (List UInt8)) (buffer : List UInt8) :
    let before := (fresh cap).after earlier
    let answer := (before.write buffer).1
    let f := (before.write buffer).2
    let total := (earlier ++ [buffer]).flatten
    f = (fresh cap).after (earlier ++ [buffer]) ∧
      before.cap = cap ∧
      (before.written : Int) + ((cap - before.written : Nat) : Int) = cap ∧
      f.contents = total.take (min cap total.length) ∧
      f.written = f.contents.length ∧
      f.contents.length = min cap total.length ∧
      f.written ≤ cap ∧
      answer = buffer.length := by
  intro before answer f total
  have hbefore : Holds cap earlier.flatten before := holds_after cap earlier
  have hle : before.written ≤ cap := hbefore.written_le
  have htotal : total = earlier.flatten ++ buffer := by simp [total]
  have hf : Holds cap total f := htotal ▸ hbefore.write buffer
  have hsize : f.contents.length = min cap total.length := by rw [← hf.written, hf.written_eq]
  refine ⟨?_, hbefore.cap_eq, by omega, ?_, hf.written, hsize, hf.written_le,
    fst_write before buffer⟩
  · simp [f, before, after, List.foldl_append]
  · rw [← List.take_take, List.take_length, hf.contents]

end ZoneNet.CappedFile
