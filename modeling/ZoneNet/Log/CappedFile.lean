/-!
# A file with a cap

The boot log holds at most so many bytes. What comes after that is dropped, and whoever writes it
is told that it was written.
-/

namespace ZoneNet

/-- A file of at most `cap` bytes. -/
structure CappedFile where
  cap : Nat
  contents : List UInt8 := []
  /-- How many bytes have been written. -/
  written : Nat := 0

namespace CappedFile

/-- The cap of the boot log: one mebibyte. -/
def bootLogCap : Nat := 1024 * 1024

/-- Writes what still fits of a buffer; the answer is the length of all of it. -/
def write (f : CappedFile) (buffer : List UInt8) : Nat × CappedFile :=
  if f.cap ≤ f.written then (buffer.length, f)
  else
    let kept := buffer.take (f.cap - f.written)
    (buffer.length, { f with contents := f.contents ++ kept, written := f.written + kept.length })

/-- The size of a file with a cap after buffers of these sizes. -/
def sizeAfter (cap : Nat) (sizes : List Nat) : Nat := min cap (sizes.foldl (· + ·) 0)

/-! ## What can be read back -/

/-- Of lines that are written after `used` bytes, those that are in the file whole. A line counts
as whole if nothing but its line feed is cut off, so it may end one byte past the cap. -/
def wholeFrom {α : Type} (cap : Nat) (size : α → Nat) (used : Nat) : List α → List α
  | [] => []
  | a :: rest =>
    if used + size a ≤ cap + 1 then a :: wholeFrom cap size (used + size a) rest else []

/-- Of lines that were written one after another, those that are in the file whole. -/
def whole {α : Type} (cap : Nat) (size : α → Nat) (lines : List α) : List α :=
  wholeFrom cap size 0 lines

end CappedFile

end ZoneNet
