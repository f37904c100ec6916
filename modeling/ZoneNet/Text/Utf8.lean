/-!
# UTF-8

Bytes are read one at a time by a machine that remembers the sequence it is in. A byte that cannot
continue that sequence ends it: what was read of it is one faulty chunk, the longest beginning of a
valid sequence, and the byte starts anew. So the same chunks serve both readers:

* `decodeLossy` puts one U+FFFD in place of each faulty chunk;
* `decode` stops at the first faulty chunk and tells where it stands and how long it is, or that
  the text ends inside a sequence.
-/

namespace ZoneNet.Text.Utf8

/-- The bytes of a text. -/
def encode (s : String) : List UInt8 := s.toUTF8.toList

/-! ## Chunks -/

/-- A decoded character, or bytes that are no character. `cutShort` tells that the text ended. -/
inductive Chunk where
  | char (c : Char)
  | faulty (bytes : List UInt8) (cutShort : Bool)
  deriving DecidableEq, Repr

/-- A sequence that has begun: its bytes (last first), the value so far, how many bytes are still
to come, and the range of the next one. -/
structure Pending where
  bytes : List UInt8
  value : Nat
  missing : Nat
  low : UInt8
  high : UInt8

/-- What a first byte opens: how many bytes follow it, the value of its own bits, and the range of
the second byte. The ranges leave out overlong forms, surrogates and values past U+10FFFF. -/
def lead (b : UInt8) : Option Pending :=
  if 0xC2 ≤ b && b ≤ 0xDF then some ⟨[b], b.toNat - 0xC0, 1, 0x80, 0xBF⟩
  else if b == 0xE0 then some ⟨[b], 0, 2, 0xA0, 0xBF⟩
  else if b == 0xED then some ⟨[b], 0xD, 2, 0x80, 0x9F⟩
  else if 0xE1 ≤ b && b ≤ 0xEF then some ⟨[b], b.toNat - 0xE0, 2, 0x80, 0xBF⟩
  else if b == 0xF0 then some ⟨[b], 0, 3, 0x90, 0xBF⟩
  else if b == 0xF4 then some ⟨[b], 4, 3, 0x80, 0x8F⟩
  else if 0xF1 ≤ b && b ≤ 0xF3 then some ⟨[b], b.toNat - 0xF0, 3, 0x80, 0xBF⟩
  else none

/-- The chunks read so far (last first) and the sequence being read. -/
structure State where
  done : List Chunk
  pending : Option Pending

def State.start : State := ⟨[], none⟩

/-- A byte outside any sequence. -/
def State.open (done : List Chunk) (b : UInt8) : State :=
  if b < 0x80 then ⟨.char (Char.ofNat b.toNat) :: done, none⟩
  else
    match lead b with
    | some p => ⟨done, some p⟩
    | none => ⟨.faulty [b] false :: done, none⟩

/-- One byte more. -/
def State.step (s : State) (b : UInt8) : State :=
  match s.pending with
  | none => .open s.done b
  | some p =>
    if p.low ≤ b && b ≤ p.high then
      let value := p.value * 64 + (b.toNat - 0x80)
      if p.missing ≤ 1 then ⟨.char (Char.ofNat value) :: s.done, none⟩
      else ⟨s.done, some ⟨b :: p.bytes, value, p.missing - 1, 0x80, 0xBF⟩⟩
    else .open (.faulty p.bytes.reverse false :: s.done) b

/-- The end of the text leaves a sequence that has begun unfinished. -/
def State.finish (s : State) : List Chunk :=
  match s.pending with
  | none => s.done.reverse
  | some p => (.faulty p.bytes.reverse true :: s.done).reverse

/-- The chunks of a text. -/
def chunks (bs : List UInt8) : List Chunk := (bs.foldl State.step .start).finish

/-! ## Reading that always succeeds -/

/-- The character that stands for bytes that are none. -/
def replacement : Char := '\uFFFD'

def Chunk.toChar : Chunk → Char
  | .char c => c
  | .faulty .. => replacement

/-- Each faulty chunk becomes one U+FFFD. -/
def decodeLossy (bs : List UInt8) : List Char := (chunks bs).map Chunk.toChar

/-! ## Reading that can fail -/

/-- Where the text stops being UTF-8: `index` valid bytes come first; `length` is that of the faulty
chunk, and is absent when the text ends inside a sequence. -/
structure Fault where
  index : Nat
  length : Option Nat
  deriving DecidableEq, Repr

def Fault.message (f : Fault) : String :=
  match f.length with
  | some n =>
    "invalid utf-8 sequence of " ++ toString n ++ " bytes from index " ++ toString f.index
  | none => "incomplete utf-8 byte sequence from index " ++ toString f.index

/-- Collects the characters (last first) up to the first faulty chunk, counting bytes. -/
def collect (index : Nat) (acc : List Char) : List Chunk → Except Fault (List Char)
  | [] => .ok acc.reverse
  | .char c :: r => collect (index + c.utf8Size) (c :: acc) r
  | .faulty bytes cutShort :: _ => .error ⟨index, if cutShort then none else some bytes.length⟩

/-- The text that the bytes encode, or the first place where they encode none. -/
def decode (bs : List UInt8) : Except Fault (List Char) := collect 0 [] (chunks bs)

example : decodeLossy [0x61, 0xE2, 0x82, 0x62, 0xFF] = ['a', '\uFFFD', 'b', '\uFFFD'] := by decide
example : decode [0x61, 0xE2, 0x82] = .error ⟨1, none⟩ := rfl
example : decode [0x61, 0xE2, 0x82, 0x62] = .error ⟨1, some 2⟩ := rfl
example : decode [0xE2, 0x82, 0xAC] = .ok ['€'] := rfl

end ZoneNet.Text.Utf8
