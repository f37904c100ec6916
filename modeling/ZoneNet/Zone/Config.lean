import ZoneNet.Buffer.KernelVersion

/-!
# Zones

What is declared for a zone: its IP stack mode, its attributes, and its network resources in
configuration order.
-/

namespace ZoneNet

/-- A named value. -/
structure Attr where
  name : String
  value : String
  deriving DecidableEq, Repr

/-- The value of the first attribute with a name. -/
def findAttr (attrs : List Attr) (name : String) : Option String :=
  (attrs.find? (·.name = name)).map (·.value)

/-- One network resource. -/
structure Net where
  physical : String
  /-- Takes the place of the `ips` attribute unless empty. -/
  allowedAddress : Option String := none
  /-- Takes the place of the `gateway` attribute unless empty. -/
  defaultRouter : Option String := none
  attrs : List Attr := []
  deriving DecidableEq, Repr

namespace Net

def attr (n : Net) (name : String) : Option String := findAttr n.attrs name

/-- The address override; an empty one counts as absent. -/
def allowed (n : Net) : Option String := n.allowedAddress.filter (· ≠ "")

/-- The router override; an empty one counts as absent. -/
def router (n : Net) : Option String := n.defaultRouter.filter (· ≠ "")

/-- The address list: the override wins over the attribute. -/
def addressList (n : Net) : Option String := n.allowed <|> n.attr "ips"

/-- The gateway: the router override wins; without it the attribute counts, and only on the primary
interface. -/
def gateway (n : Net) : Option String :=
  match n.router with
  | some router => some router
  | none => if n.attr "primary" = some "true" then n.attr "gateway" else none

end Net

structure Zone where
  name : String
  ipType : String := "exclusive"
  attrs : List Attr := []
  nets : List Net := []
  deriving DecidableEq, Repr

namespace Zone

def attr (z : Zone) (name : String) : Option String := findAttr z.attrs name

/-- The attribute with the declared kernel release. -/
def kernelAttr : String := "kernel-version"

/-- The attribute with the IPv6 policy of the zone. -/
def ipv6Attr : String := "ipv6"

/-- The only stack mode there is: the zone owns its IP stack. -/
def isExclusive (z : Zone) : Bool := z.ipType == "exclusive"

/-- Why a zone declares no kernel release. -/
inductive KernelFault where
  | absent
  | malformed (error : KernelVersion.Malformed)
  deriving DecidableEq, Repr

def KernelFault.message : KernelFault → String
  | absent => "attribute not found"
  | malformed error => error.message

/-- The declared kernel release. -/
def kernelVersion (z : Zone) : Except KernelFault KernelVersion :=
  match z.attr kernelAttr with
  | none => .error .absent
  | some text =>
    match KernelVersion.parse text with
    | .error e => .error (.malformed e)
    | .ok v => .ok v

end Zone

end ZoneNet
