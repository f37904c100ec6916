import ZoneNet.Facility.Operations

/-!
# Placement

The first IPv4 address of an interface lives on the base interface itself. Every later IPv4
address, and every IPv6 address, gets a fresh logical interface.
-/

namespace ZoneNet

/-- What one configuration pass over an interface knows. -/
structure Context where
  base : String
  /-- Whether an IPv4 address occupies the base interface. -/
  occupied : Bool := false
  deriving DecidableEq, Repr

/-- The base interface now carries an IPv4 address. Nothing takes this back. -/
def Context.occupy (c : Context) : Context := { c with occupied := true }

/-- No logical interface could be had. -/
structure AllocError where
  base : String
  family : Family
  cause : FacilityError
  deriving DecidableEq, Repr

namespace AllocError

def message (e : AllocError) : String :=
  "failed to create new logical interface on " ++ e.base ++ " (" ++ e.family.name ++ "): "
    ++ e.cause.message

def causes (e : AllocError) : List String := e.cause.message :: e.cause.causes

end AllocError

/-- The interface for an address of a family. The context is left alone: the base interface counts
as occupied only once an address has landed on it. -/
def target {σ : Type} (m : AddressManager σ) (c : Context) (family : Family) (s : σ) :
    Outcome AllocError String σ :=
  if family = .v4 ∧ c.occupied = false then (.ok c.base, s)
  else (m.addLogical c.base family s).mapError fun cause => ⟨c.base, family, cause⟩

end ZoneNet
