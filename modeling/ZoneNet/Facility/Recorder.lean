import ZoneNet.Buffer.Profile

/-!
# Recorded facilities

Facilities that do nothing but keep a journal of what they were asked. The journal is their whole
state: what is plumbed and how many logical interfaces there are is read off it. Each operation
can be made to fail.
-/

namespace ZoneNet

/-- One entry of the journal. -/
inductive Call where
  | plumb (iface : String) (family : Family)
  | linkLocal (iface : String)
  | addLogical (base : String) (family : Family) (name : String)
  | createObject (name : ObjectName)
  | setAddress (name : ObjectName) (addr : String)
  | activate (name : ObjectName) (addr : String)
  | release (name : ObjectName)
  | ensureAgent
  | startLease (iface : String)
  | setProperty (property value : String) (protocol : Protocol)
  | writeRoute (accepted : Nat) (message : List UInt8)
  | startAutoconf
  deriving DecidableEq, Repr

abbrev Journal := List Call

/-- How the recorded lease agent answers. -/
inductive LeaseBehavior where
  | lease
  | timeout
  | agentDown
  | code (n : Int)
  deriving DecidableEq, Repr

/-- Which operations fail. A mock stack has no settings `failCreate` and `channelError`: it is a
recorder with both at their defaults, which creates every object and whose channel never fails. The
isolation of an interface assumes the one, and the account of a run of the feed the other. -/
structure Recorder where
  /-- The indexes of interfaces; of two entries for one name the later counts. -/
  indexes : List (String × UInt32) := [("lo0", 1)]
  processId : Int32 := 0
  /-- The channel takes no more bytes than this of a message. -/
  shortWrite : Option Nat := none
  /-- The channel fails with this text and records nothing. -/
  channelError : Option String := none
  failLogical : Bool := false
  /-- The texts of the names for which no object is created. -/
  failCreate : List String := []
  rejected : List String := []
  failActivation : List String := []
  failLinkLocal : List String := []
  failPlumb : List String := []
  failProperties : List (String × Protocol) := []
  failAutoconf : Bool := false
  lease : LeaseBehavior := .lease

namespace Recorder

/-! ## What a journal tells -/

/-- The families that an interface has been plumbed for, as pairs. -/
def isPlumbed (iface : String) (family : Family) (j : Journal) : Bool :=
  j.contains (.plumb iface family)

/-- Whether a call handed out a logical interface on a base for a family. -/
def isLogicalOn (base : String) (family : Family) : Call → Bool
  | .addLogical b f _ => b == base && f == family
  | _ => false

/-- How many logical interfaces there are on a base for a family. -/
def logicalCount (base : String) (family : Family) (j : Journal) : Nat :=
  j.countP (isLogicalOn base family)

/-- The route messages written. -/
def writes (j : Journal) : List (List UInt8) :=
  j.filterMap fun
    | .writeRoute _ message => some message
    | _ => none

/-- The addresses activated, each with its object. -/
def activated (j : Journal) : List (ObjectName × String) :=
  j.filterMap fun
    | .activate name addr => some (name, addr)
    | _ => none

/-- The logical interfaces handed out. -/
def logicalNames (j : Journal) : List String :=
  j.filterMap fun
    | .addLogical _ _ name => some name
    | _ => none

/-- The properties set. -/
def properties (j : Journal) : List (String × String × Protocol) :=
  j.filterMap fun
    | .setProperty property value protocol => some (property, value, protocol)
    | _ => none

/-- How often autoconfiguration was started. -/
def autoconfStarts (j : Journal) : Nat := j.count .startAutoconf

/-! ## The facilities -/

variable (r : Recorder)

def record (c : Call) (j : Journal) : Journal := j ++ [c]

/-- The name of a logical interface; its number has 32 bits. -/
def logicalName (base : String) (n : Nat) : String :=
  base ++ ":" ++ toString (UInt32.ofNat n).toNat

/-- Numbers of logical interfaces count up for each base and family. -/
def addLogical (base : String) (family : Family) (j : Journal) :
    Outcome FacilityError String Journal :=
  if r.failLogical then (.error (.rejected "SIOCLIFADDIF" "no buffer space available"), j)
  else
    let name := logicalName base (logicalCount base family j + 1)
    (.ok name, record (.addLogical base family name) j)

def plumb (iface : String) (family : Family) (j : Journal) :
    Outcome FacilityError PlumbOutcome Journal :=
  if iface ∈ r.failPlumb then (.error (.rejected "create-if" "no such interface"), j)
  else
    (.ok (if isPlumbed iface family j then .alreadyExists else .created),
      record (.plumb iface family) j)

/-- A failing link-local address is recorded all the same. -/
def bringUpLinkLocal (iface : String) (j : Journal) : Outcome FacilityError Unit Journal :=
  (if iface ∈ r.failLinkLocal then .error (.rejected "SIOCSLIFFLAGS" "no such interface")
    else .ok (),
    record (.linkLocal iface) j)

def createObject (name : ObjectName) (j : Journal) : Outcome FacilityError AddressObject Journal :=
  if name.text ∈ r.failCreate then (.error (.rejected "create object" "out of handles"), j)
  else (.ok (.fresh name), record (.createObject name) j)

/-- A rejected value is recorded all the same. -/
def setAddress (obj : AddressObject) (addr : String) (j : Journal) :
    Outcome FacilityError AddressObject Journal :=
  (if addr ∈ r.rejected then .error (.rejected "set address" "invalid address")
    else .ok { obj with address := some addr },
    record (.setAddress obj.name addr) j)

/-- An object without a value is activated with an empty one. -/
def activate (obj : AddressObject) (j : Journal) : Outcome FacilityError Unit Journal :=
  let addr := obj.address.getD ""
  if addr ∈ r.failActivation then (.error (.rejected "create address" "address already in use"), j)
  else (.ok (), record (.activate obj.name addr) j)

def release (obj : AddressObject) (j : Journal) : Journal := record (.release obj.name) j

def addresses : AddressManager Journal where
  plumb := r.plumb
  bringUpLinkLocal := r.bringUpLinkLocal
  addLogical := r.addLogical
  createObject := r.createObject
  setAddress := r.setAddress
  activate := r.activate
  release := release

def ensureRunning (timeout : UInt64) (j : Journal) : Outcome FacilityError Unit Journal :=
  (if r.lease = .agentDown then .error (.timeout "start dhcpagent" timeout) else .ok (),
    record .ensureAgent j)

def startLease (iface : String) (timeout : UInt64) (j : Journal) :
    Outcome FacilityError LeaseReply Journal :=
  (match r.lease with
    | .lease | .agentDown => .ok ⟨0, "lease started"⟩
    | .code n => .ok ⟨n, "operation failed"⟩
    | .timeout => .error (.timeout ("DHCP start on " ++ iface) timeout),
    record (.startLease iface) j)

def leases : LeaseAgent Journal where
  ensureRunning := r.ensureRunning
  startLease := r.startLease

def interfaceIndex (name : String) : Option UInt32 :=
  (r.indexes.reverse.find? (·.1 = name)).map (·.2)

def send (message : List UInt8) (j : Journal) : Outcome SystemError Nat Journal :=
  match r.channelError with
  | some text => (.error (.other text), j)
  | none =>
    let accepted := match r.shortWrite with
      | some n => min n message.length
      | none => message.length
    (.ok accepted, record (.writeRoute accepted message) j)

def routes : RouteChannel Journal where
  processId := r.processId
  interfaceIndex := r.interfaceIndex
  send := r.send

def startAutoconf (j : Journal) : Outcome FacilityError Unit Journal :=
  if r.failAutoconf then (.error (.rejected "in.ndpd" "exited: 1"), j)
  else (.ok (), record .startAutoconf j)

/-- All that network setup drives. -/
def facilities : Facilities Journal where
  addresses := r.addresses
  leases := r.leases
  routes := r.routes
  autoconf := ⟨r.startAutoconf⟩

def setProperty (property value : String) (protocol : Protocol) (j : Journal) :
    Outcome FacilityError Unit Journal :=
  if (property, protocol) ∈ r.failProperties then
    (.error (.rejected "set-prop" "value out of range"), j)
  else (.ok (), record (.setProperty property value protocol) j)

def bufferProperties : BufferProperties Journal where
  set := r.setProperty

end Recorder

end ZoneNet
