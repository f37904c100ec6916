import ZoneNet.Address.IPv6

/-!
# Address literals

A literal is an address, bare or followed by `/` and a prefix length.
-/

namespace ZoneNet

open Text

/-- An address of either family. -/
inductive IP where
  | v4 (ip : IPv4)
  | v6 (ip : IPv6)
  deriving DecidableEq, Repr

namespace IP

def ofText? (l : List Char) : Option IP :=
  match IPv4.ofText? l with
  | some ip => some (.v4 ip)
  | none => (IPv6.ofText? l).map .v6

/-- The longest prefix of an address. -/
def maxPrefix : IP → Nat
  | .v4 _ => 32
  | .v6 _ => 128

end IP

/-- Why a text is no address literal. -/
inductive LiteralFault where
  | address (host : String)
  | prefixLength (text : String)
  deriving DecidableEq, Repr

def LiteralFault.message : LiteralFault → String
  | .address host => "invalid address '" ++ host ++ "'"
  | .prefixLength text => "invalid prefix length '" ++ text ++ "'"

/-- The prefix length of a literal: a numeral of eight bits within the bound of the family. -/
def prefixLength? (ip : IP) (text : List Char) : Option Nat :=
  (Decimal.upTo? 255 text).filter (· ≤ ip.maxPrefix)

/-- Accepts a bare address, and an address with a prefix length that its family admits. -/
def checkLiteral (addr : String) : Except LiteralFault Unit :=
  match cut '/' addr.toList with
  | none =>
    match IP.ofText? addr.toList with
    | some _ => .ok ()
    | none => .error (.address addr)
  | some (host, bits) =>
    match IP.ofText? host with
    | none => .error (.address (String.ofList host))
    | some ip =>
      match prefixLength? ip bits with
      | some _ => .ok ()
      | none => .error (.prefixLength (String.ofList bits))

end ZoneNet
