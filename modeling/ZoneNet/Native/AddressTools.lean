import ZoneNet.Address.Literal
import ZoneNet.Buffer.Profile
import ZoneNet.Native.Program
import ZoneNet.Text.Line
import ZoneNet.Text.Occurrence
import ZoneNet.Text.Visible

/-!
# Addresses through the native tools

Every operation on interfaces and addresses is one command, run to its end. An address object is
known to this process alone: it costs no command until it is activated on the logical interface
that its name tells.
-/

namespace ZoneNet

open Text

/-! ## What is told -/

namespace LogEntry

/-- A command is about to be run. -/
def running (path : String) (args : List String) : LogEntry :=
  make .debug .tools "running" [("program", .text path), ("args", .text (listVisibly args))]

def logicalCreated (base name : String) (family : Family) : LogEntry :=
  make .debug .placement "logical interface created"
    [("base", .text base), ("lif", .text name), ("family", .text family.name)]

def released (name : ObjectName) : LogEntry :=
  make .debug .tools "address object released" [("aobj", .text name.text)]

end LogEntry

/-- The two administration tools. -/
structure AddressTools where
  host : Host
  ifconfig : String
  ipadm : String

namespace AddressTools

/-! ## Commands -/

/-- What a failed program has to say: its standard error, or else how it ended. -/
def failureDetail (c : Completion) : String :=
  match trimmedText c.stderr with
  | [] => "exited with " ++ c.ending.status
  | text => String.ofList text

/-- Runs a program to its end; one that does not succeed has rejected the operation. -/
def runChecked (h : Host) (path operation : String) (args : List String) (w : World) :
    Outcome FacilityError Completion World :=
  match World.run h { path, args } (w.tell [.running path args]) with
  | (.error e, w) => (.error (.io operation e), w)
  | (.ok c, w) =>
    if c.ending.isSuccess then (.ok c, w)
    else (.error (.rejected operation (failureDetail c)), w)

/-- The arguments for one instance of an interface. -/
def familyArgs (iface : String) (family : Family) (rest : List String) : List String :=
  match family with
  | .v4 => iface :: rest
  | .v6 => iface :: "inet6" :: rest

variable (t : AddressTools)

def runIfconfig (operation : String) (args : List String) (w : World) :
    Outcome FacilityError Completion World :=
  runChecked t.host t.ifconfig operation args w

/-! ## Interfaces -/

/-- Whether a failure only says that an instance is there already. -/
def isAlreadyPlumbed : FacilityError → Bool
  | .rejected _ detail => occursIn "already exists".toList detail.toList
  | _ => false

def plumb (iface : String) (family : Family) (w : World) :
    Outcome FacilityError PlumbOutcome World :=
  match t.runIfconfig "plumb" (familyArgs iface family ["plumb"]) w with
  | (.ok _, w) => (.ok .created, w)
  | (.error e, w) => if isAlreadyPlumbed e then (.ok .alreadyExists, w) else (.error e, w)

def bringUpLinkLocal (iface : String) (w : World) : Outcome FacilityError Unit World :=
  match t.runIfconfig "link-local up" [iface, "inet6", "up"] w with
  | (.ok _, w) => (.ok (), w)
  | (.error e, w) => (.error e, w)

/-- What the tool prints before the name of a new logical interface. -/
def newInterfaceMarker : List Char := "Created new logical interface ".toList

/-- The text of a line behind the marker. -/
def afterMarker? (line : List Char) : Option (List Char) :=
  let l := trim line
  if newInterfaceMarker.isPrefixOf l then some (l.drop newInterfaceMarker.length) else none

/-- The name on the first line with the marker. -/
def newInterface? (output : List Char) : Option (List Char) :=
  match (lines output).findSome? afterMarker? with
  | none => none
  | some rest =>
    let name := trim rest
    if name = [] then none else some name

/-- The address that asks for an instance without one. -/
def unspecified : Family → String
  | .v4 => "0.0.0.0"
  | .v6 => "::"

def addLogical (base : String) (family : Family) (w : World) :
    Outcome FacilityError String World :=
  match t.runIfconfig "addif" (familyArgs base family ["addif", unspecified family]) w with
  | (.error e, w) => (.error e, w)
  | (.ok c, w) =>
    let output := Utf8.decodeLossy c.stdout
    match newInterface? output with
    | some name =>
      let name := String.ofList name
      (.ok name, w.tell [.logicalCreated base name family])
    | none =>
      (.error (.rejected "addif" ("unexpected output: " ++ String.ofList (trim output))), w)

/-! ## Addresses -/

def createObject (name : ObjectName) (w : World) : Outcome FacilityError AddressObject World :=
  (.ok (.fresh name), w)

/-- An object takes any literal that is an address. -/
def setAddress (obj : AddressObject) (addr : String) (w : World) :
    Outcome FacilityError AddressObject World :=
  match checkLiteral addr with
  | .ok () => (.ok { obj with address := some addr }, w)
  | .error fault => (.error (.rejected "set address" fault.message), w)

/-- The address goes to the interface that the object's name tells. -/
def activate (obj : AddressObject) (w : World) : Outcome FacilityError Unit World :=
  match obj.address with
  | none => (.error (.rejected "create address" "no address set"), w)
  | some addr =>
    match t.runIfconfig "create address"
        (familyArgs obj.name.interface (Family.ofLiteral addr) [addr, "up"]) w with
    | (.ok _, w) => (.ok (), w)
    | (.error e, w) => (.error e, w)

/-- An object holds nothing outside this process. -/
def release (obj : AddressObject) (w : World) : World := w.tell [.released obj.name]

def addresses : AddressManager World where
  plumb := t.plumb
  bringUpLinkLocal := t.bringUpLinkLocal
  addLogical := t.addLogical
  createObject := createObject
  setAddress := setAddress
  activate := t.activate
  release := release

/-! ## Properties -/

def setProperty (property value : String) (protocol : Protocol) (w : World) :
    Outcome FacilityError Unit World :=
  let args := ["set-prop", "-t", "-p", property ++ "=" ++ value, protocol.moduleName]
  match runChecked t.host t.ipadm "set-prop" args w with
  | (.ok _, w) => (.ok (), w)
  | (.error e, w) => (.error e, w)

def bufferProperties : BufferProperties World where
  set := t.setProperty

end AddressTools

end ZoneNet
