import ZoneNet.Facility.Error

/-!
# Route errors
-/

namespace ZoneNet

/-- Why a route could not be installed. -/
inductive RouteError where
  /-- A prefix is longer than the 32 bits of an address. -/
  | invalidPrefix (bits : UInt8)
  /-- An interface has no index, or one that no message can carry. -/
  | unknownInterface (name : String)
  /-- The channel could not be opened or written. -/
  | channel (cause : SystemError)
  /-- The channel took only the first bytes of a message. -/
  | incompleteWrite (written expected : Nat)
  deriving DecidableEq, Repr

namespace RouteError

def message : RouteError → String
  | invalidPrefix bits => "invalid prefix length /" ++ toString bits.toNat
  | unknownInterface name => "unable to get interface index for " ++ name
  | channel cause => "routing socket: " ++ cause.message
  | incompleteWrite written expected =>
    "incomplete route message write: " ++ toString written ++ " of " ++ toString expected
      ++ " bytes"

def causes : RouteError → List String
  | channel cause => [cause.message]
  | _ => []

end RouteError

end ZoneNet
