import ZoneNet.Address.IPv4
import ZoneNet.Text.Hexadecimal

/-!
# IPv6 addresses

Eight groups of sixteen bits in the text forms of RFC 4291: groups of one to four hexadecimal
digits with colons between; one `::` may stand for one or more groups of zero; the last two groups
may be a dotted IPv4 address. There is no scope id.
-/

namespace ZoneNet

open Text

/-- Eight groups, the most significant first. -/
structure IPv6 where
  groups : List UInt16
  length_eq : groups.length = 8
  deriving DecidableEq, Repr

namespace IPv6

/-- One group: one to four hexadecimal digits. -/
def group? (l : List Char) : Option UInt16 :=
  if l = [] ∨ 4 < l.length then none
  else (l.mapM hexValue?).map fun ds => UInt16.ofNat (ds.foldl (fun n d => n * 16 + d) 0)

/-- The two groups that a dotted IPv4 address fills. -/
def ofIPv4 (ip : IPv4) : List UInt16 :=
  [UInt16.ofNat (ip.a.toNat * 256 + ip.b.toNat), UInt16.ofNat (ip.c.toNat * 256 + ip.d.toNat)]

/-- Groups written between colons; where `dotted` allows it, the last piece may be an IPv4
address. -/
def groupsOfPieces? (dotted : Bool) : List (List Char) → Option (List UInt16)
  | [] => some []
  | [p] =>
    match group? p with
    | some g => some [g]
    | none => if dotted then (IPv4.ofText? p).map ofIPv4 else none
  | p :: ps => do
    let g ← group? p
    let gs ← groupsOfPieces? dotted ps
    return g :: gs

/-- The groups of a stretch of text without `::`; an empty stretch has none. -/
def groups? (dotted : Bool) (l : List Char) : Option (List UInt16) :=
  if l = [] then some [] else groupsOfPieces? dotted (pieces ':' l)

/-- The text on the two sides of the first `::`. -/
def cutDouble : List Char → Option (List Char × List Char)
  | ':' :: ':' :: r => some ([], r)
  | c :: r => (cutDouble r).map fun p => (c :: p.1, p.2)
  | [] => none

/-- The groups on the two sides of `::` with zeros between, at least one of them. -/
def fill? (l r : List UInt16) : Option IPv6 :=
  if h : l.length + r.length ≤ 7 then
    some ⟨l ++ List.replicate (8 - l.length - r.length) 0 ++ r, by simp; omega⟩
  else none

def ofText? (l : List Char) : Option IPv6 :=
  match cutDouble l with
  | some (l, r) => do fill? (← groups? false l) (← groups? true r)
  | none => do
    let gs ← groups? true l
    if h : gs.length = 8 then some ⟨gs, h⟩ else none

example : (ofText? "::1".toList).map groups = some [0, 0, 0, 0, 0, 0, 0, 1] := by decide
example : (ofText? "1:2:3:4:5:6:7::".toList).map groups = some [1, 2, 3, 4, 5, 6, 7, 0] := by decide
example : (ofText? "64:ff9b::192.0.2.33".toList).map groups
    = some [0x64, 0xff9b, 0, 0, 0, 0, 0xC000, 0x221] := by decide
example : ofText? "1:2:3:4:5:6:7:8::".toList = none := by decide
example : ofText? "1.2.3.4::".toList = none := by decide
example : ofText? "1::2::3".toList = none := by decide

end IPv6

end ZoneNet
