/-!
# Address families
-/

namespace ZoneNet

/-- The family of an address or of an instance of an interface. -/
inductive Family where
  | v4
  | v6
  deriving DecidableEq, Repr

namespace Family

def name : Family → String
  | v4 => "v4"
  | v6 => "v6"

/-- The family that a literal, bare or with a prefix length, is taken for: a colon means IPv6. -/
def ofLiteral (addr : String) : Family :=
  if ':' ∈ addr.toList then v6 else v4

end Family

end ZoneNet
