import ZoneNet.Text.Cut
import ZoneNet.Text.Decimal

/-!
# IPv4 addresses

Four octets, written in decimal with dots between. An octet has one to three digits, none of them a
leading zero, so an address has one spelling only.

* `ofText?_toText` — the spelling of an address reads back as that address.
-/

namespace ZoneNet

open Text

/-- Four octets, the most significant first. -/
structure IPv4 where
  a : UInt8
  b : UInt8
  c : UInt8
  d : UInt8
  deriving DecidableEq, Repr, Inhabited

namespace IPv4

def zero : IPv4 := ⟨0, 0, 0, 0⟩

def octets (ip : IPv4) : List UInt8 := [ip.a, ip.b, ip.c, ip.d]

/-- The octets of a number of 32 bits. -/
def ofBits (n : UInt32) : IPv4 :=
  ⟨(n >>> 24).toUInt8, (n >>> 16).toUInt8, (n >>> 8).toUInt8, n.toUInt8⟩

/-! ## Text -/

def octetText (o : UInt8) : List Char := Nat.toDigits 10 o.toNat

/-- The dotted spelling. -/
def toText (ip : IPv4) : List Char := join '.' (ip.octets.map octetText)

instance : ToString IPv4 where
  toString ip := String.ofList ip.toText

/-- One octet: digits only, at most three, no leading zero, at most 255. -/
def octet? (l : List Char) : Option UInt8 :=
  if l.all Char.isDigit ∧ l ≠ [] ∧ l.length ≤ 3 ∧ (l.head? = some '0' → l.length = 1)
      ∧ Decimal.value l ≤ 255 then
    some (UInt8.ofNat (Decimal.value l))
  else none

/-- Four octets with dots between and nothing else. -/
def ofText? (l : List Char) : Option IPv4 :=
  match pieces '.' l with
  | [a, b, c, d] => do return ⟨← octet? a, ← octet? b, ← octet? c, ← octet? d⟩
  | _ => none

/-- Reads an address from a string. -/
def parse? (s : String) : Option IPv4 := ofText? s.toList

theorem octet?_octetText (o : UInt8) : octet? (octetText o) = some o := by
  have hall : ∀ n : Fin 256, octet? (octetText (UInt8.ofNat n)) = some (UInt8.ofNat n) := by
    decide +kernel
  have h := hall ⟨o.toNat, o.toNat_lt⟩
  simpa using h

theorem dot_not_mem_octetText (o : UInt8) : '.' ∉ octetText o := fun h =>
  absurd (Nat.isDigit_of_mem_toDigits (by decide) (by decide) h) (by decide)

/-- The spelling of an address reads back as that address. -/
theorem ofText?_toText (ip : IPv4) : ofText? ip.toText = some ip := by
  have hp : pieces '.' ip.toText = ip.octets.map octetText :=
    pieces_join (by simp [octets]) (by
      intro p hp
      obtain ⟨o, -, rfl⟩ := List.mem_map.1 hp
      exact dot_not_mem_octetText o)
  simp [ofText?, hp, octets, octet?_octetText]

end IPv4

end ZoneNet
