import ZoneNet.Text.Cut

/-!
# Address lists

An address list is a text with commas. Each entry that is not empty is a token: `dhcp` asks for a
lease, `addrconf` for autoconfiguration of the stack, and any other text is an address literal.
-/

namespace ZoneNet

open Text

inductive Token where
  | dhcp
  | addrconf
  | literal (addr : String)
  deriving DecidableEq, Repr

namespace Token

/-- The token that an entry stands for. -/
def ofEntry (entry : String) : Token :=
  if entry = "dhcp" then dhcp
  else if entry = "addrconf" then addrconf
  else literal entry

/-- The entry that a token is written as. -/
def text : Token → String
  | dhcp => "dhcp"
  | addrconf => "addrconf"
  | literal addr => addr

/-- The tokens of an address list, in order; empty entries are dropped. -/
def parseList (list : String) : List Token :=
  ((pieces ',' list.toList).filter (· ≠ [])).map fun p => ofEntry (String.ofList p)

end Token

end ZoneNet
