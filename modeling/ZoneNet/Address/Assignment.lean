import ZoneNet.Address.Placement
import ZoneNet.Address.Token

/-!
# Assignment

Applies one token to one interface: a literal goes through an address object, `dhcp` through the
lease agent, and `addrconf` is only noted, since autoconfiguration is started once for the stack.
-/

namespace ZoneNet

/-- The step of a static assignment that failed. -/
inductive Stage where
  | createObject
  | setValue
  | activate
  deriving DecidableEq, Repr

def Stage.name : Stage → String
  | .createObject => "create address object"
  | .setValue => "set address"
  | .activate => "create address"

/-- Why a token could not be applied. -/
inductive AssignError where
  | alloc (error : AllocError)
  | apply (iface addr : String) (stage : Stage) (cause : FacilityError)
  /-- The request for a lease failed, ran out of time, or was answered with a failure. -/
  | lease (iface : String) (cause : FacilityError)
  /-- The lease agent could not be started. -/
  | agent (cause : FacilityError)
  deriving DecidableEq, Repr

namespace AssignError

/-- Without its agent no lease will ever start, so that alone is fatal. -/
def severity : AssignError → Severity
  | agent _ => .fatal
  | _ => .warning

def message : AssignError → String
  | alloc error => error.message
  | apply iface addr stage cause =>
    stage.name ++ " failed: addr " ++ addr ++ ", interface " ++ iface ++ ": " ++ cause.message
  | lease iface cause => "failed to start DHCP on " ++ iface ++ ": " ++ cause.message
  | agent cause => "failed to start dhcpagent: " ++ cause.message

/-- The failure of a facility behind an error. -/
def cause : AssignError → FacilityError
  | alloc error => error.cause
  | apply _ _ _ cause => cause
  | lease _ cause => cause
  | agent cause => cause

def causes (e : AssignError) : List String := e.cause.message :: e.cause.causes

end AssignError

/-- What an applied token did. -/
inductive Applied where
  | address (iface : String) (object : ObjectName)
  | lease (iface : String)
  | addrconf
  deriving DecidableEq, Repr

/-- The collaborators of assignment, and the bound on the requests to the agent. -/
structure Assigner (σ : Type) where
  addresses : AddressManager σ
  leases : LeaseAgent σ
  timeout : UInt64

/-- What assignment carries from token to token: the facilities' state, the names issued, and
whether a token asked for autoconfiguration. -/
structure Ledger (σ : Type) where
  world : σ
  names : NameCounter := {}
  addrconf : Bool := false

namespace Assigner

variable {σ : Type} (a : Assigner σ)

/-- Leaves the interface as it is, and reports a failure. -/
def refuse (c : Context) (l : Ledger σ) (s : σ) (e : AssignError) :
    Except AssignError Applied × Context × Ledger σ :=
  (.error e, c, { l with world := s })

/-- Obtains a lease. The interface counts as occupied only when the answer is a success. -/
def startLease (c : Context) (l : Ledger σ) : Except AssignError Applied × Context × Ledger σ :=
  match target a.addresses c .v4 l.world with
  | (.error e, s) => refuse c l s (.alloc e)
  | (.ok iface, s) =>
    match a.leases.ensureRunning a.timeout s with
    | (.error e, s) => refuse c l s (.agent e)
    | (.ok (), s) =>
      match a.leases.startLease iface a.timeout s with
      | (.error e, s) => refuse c l s (.lease iface e)
      | (.ok reply, s) =>
        if reply.code = 0 then (.ok (.lease iface), c.occupy, { l with world := s })
        else
          refuse c l s (.lease iface (.rejected "DHCP start"
            ("return code " ++ toString reply.code ++ ": " ++ reply.message)))

/-- Gives an object its value and activates it, then lets go of it whatever came of that. -/
def fillObject (iface addr : String) (obj : AddressObject) (s : σ) : Outcome AssignError Unit σ :=
  match a.addresses.setAddress obj addr s with
  | (.error e, s) => (.error (.apply iface addr .setValue e), a.addresses.release obj s)
  | (.ok obj, s) =>
    match a.addresses.activate obj s with
    | (.error e, s) => (.error (.apply iface addr .activate e), a.addresses.release obj s)
    | (.ok (), s) => (.ok (), a.addresses.release obj s)

/-- Brings up a static address. Its name is spent as soon as there is an interface for it. -/
def applyLiteral (c : Context) (addr : String) (l : Ledger σ) :
    Except AssignError Applied × Context × Ledger σ :=
  let family := Family.ofLiteral addr
  match target a.addresses c family l.world with
  | (.error e, s) => refuse c l s (.alloc e)
  | (.ok iface, s) =>
    let (name, names) := l.names.next iface
    let l := { l with names }
    match a.addresses.createObject name s with
    | (.error e, s) => refuse c l s (.apply iface addr .createObject e)
    | (.ok obj, s) =>
      match a.fillObject iface addr obj s with
      | (.error e, s) => refuse c l s e
      | (.ok (), s) =>
        (.ok (.address iface name), if family = .v4 then c.occupy else c, { l with world := s })

/-- Applies one token to one interface. -/
def apply (c : Context) (t : Token) (l : Ledger σ) :
    Except AssignError Applied × Context × Ledger σ :=
  match t with
  | .dhcp => a.startLease c l
  | .addrconf => (.ok .addrconf, c, { l with addrconf := true })
  | .literal addr => a.applyLiteral c addr l

end Assigner

end ZoneNet
