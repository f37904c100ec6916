import ZoneNet.Text.Cut
import ZoneNet.Text.Decimal

/-!
# Kernel releases

A release has up to three components with dots between. What follows the leading digits of a
component is ignored, a component that is absent is zero, and a component without leading digits
ends the reading.
-/

namespace ZoneNet

open Text

/-- A release, compared from its most significant component on. -/
structure KernelVersion where
  major : UInt32
  minor : UInt32
  patch : UInt32
  deriving DecidableEq, Repr

namespace KernelVersion

/-- A text that names no release. -/
structure Malformed where
  text : String
  deriving DecidableEq, Repr

def Malformed.message (e : Malformed) : String := "malformed kernel version '" ++ e.text ++ "'"

def text (v : KernelVersion) : String :=
  toString v.major.toNat ++ "." ++ toString v.minor.toNat ++ "." ++ toString v.patch.toNat

/-- The values of the components up to the first one without leading digits. -/
def components? : List (List Char) → Option (List UInt32)
  | [] => some []
  | p :: ps =>
    let ds := Decimal.leading p
    if ds = [] then some []
    else if Decimal.value ds < UInt32.size then
      (components? ps).map (UInt32.ofNat (Decimal.value ds) :: ·)
    else none

/-- Reads a release; blanks around it do not count. -/
def parse (s : String) : Except Malformed KernelVersion :=
  let t := trim s.toList
  match components? ((pieces '.' t).take 3) with
  | none | some [] => .error ⟨s⟩
  | some (a :: r) => .ok ⟨a, r.getD 0 0, r.getD 1 0⟩

/-- The order of releases. -/
def le (v w : KernelVersion) : Bool :=
  if v.major ≠ w.major then v.major < w.major
  else if v.minor ≠ w.minor then v.minor < w.minor
  else v.patch ≤ w.patch

/-- A release before another one. -/
def before (v w : KernelVersion) : Bool := !le w v

end KernelVersion

end ZoneNet
