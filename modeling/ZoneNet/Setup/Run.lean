import ZoneNet.Route.Install
import ZoneNet.Setup.Ipv6Policy
import ZoneNet.Zone.Config

/-!
# Network setup

The loopback interface first, then every interface in order, then autoconfiguration once. For one
interface: plumbing, the IPv6 policy, the link-local address, a lease, the other tokens in order,
and the default route. What can be skipped is told as a warning; the rest ends the run.
-/

namespace ZoneNet

/-- How network setup is to be done. -/
structure Setup (σ : Type) where
  facilities : Facilities σ
  /-- Whether the zone has IPv6. -/
  ipv6 : Bool
  /-- The bound on each request to the lease agent, in seconds. -/
  timeout : UInt64 := 5
  /-- Tells a note; the state may keep it or not. -/
  tell : SetupNote → σ → σ := fun _ s => s

/-- What has been done so far. -/
structure Progress (σ : Type) where
  ledger : Ledger σ
  interfaces : List String := []
  /-- What was told, in order. -/
  notes : List SetupNote := []

namespace Progress

variable {σ : Type}

def start (s : σ) : Progress σ := { ledger := { world := s } }

def setWorld (p : Progress σ) (s : σ) : Progress σ := { p with ledger.world := s }

/-- The warnings among what was told. -/
def warnings (p : Progress σ) : List SetupWarning := p.notes.filterMap SetupNote.warning?

def visit (p : Progress σ) (iface : String) : Progress σ :=
  { p with interfaces := p.interfaces ++ [iface] }

/-- The account of what has been done. -/
def report (p : Progress σ) (addrconfStarted : Bool) : SetupReport :=
  ⟨p.interfaces, p.warnings, addrconfStarted, p.ledger.names.issued⟩

end Progress

namespace Setup

variable {σ : Type} (u : Setup σ)

/-- Tells a note and keeps it. -/
def note (n : SetupNote) (p : Progress σ) : Progress σ :=
  { p with ledger.world := u.tell n p.ledger.world, notes := p.notes ++ [n] }

def warn (w : SetupWarning) (p : Progress σ) : Progress σ := u.note (.warned w) p

def assigner : Assigner σ := ⟨u.facilities.addresses, u.facilities.leases, u.timeout⟩

/-- The families that every interface is plumbed for. -/
def families : List Family := if u.ipv6 then [.v4, .v6] else [.v4]

/-- Plumbs an interface for one family. -/
def plumbFamily (iface : String) (family : Family) (p : Progress σ) :
    Outcome SetupError Unit (Progress σ) :=
  match u.facilities.addresses.plumb iface family p.ledger.world with
  | (.ok _, s) => (.ok (), p.setWorld s)
  | (.error e, s) => (.error (.plumb iface family e), p.setWorld s)

/-- Plumbs an interface for every family. -/
def plumb (iface : String) (p : Progress σ) : Outcome SetupError Unit (Progress σ) :=
  Outcome.each (u.plumbFamily iface) u.families p

/-- Brings up a link-local address; a failure is a warning. -/
def linkLocal (iface : String) (p : Progress σ) : Progress σ :=
  match u.facilities.addresses.bringUpLinkLocal iface p.ledger.world with
  | (.ok (), s) => p.setWorld s
  | (.error e, s) => u.warn (.linkLocal iface e) (p.setWorld s)

/-- Applies one token; an error that is not fatal is a warning, and the token is skipped. -/
def applyToken (c : Context) (t : Token) (p : Progress σ) :
    Outcome SetupError Context (Progress σ) :=
  match u.assigner.apply c t p.ledger with
  | (.ok did, c, ledger) => (.ok c, u.note (.applied c.base t did) { p with ledger })
  | (.error e, c, ledger) =>
    match e.severity with
    | .fatal => (.error (.address e), { p with ledger })
    | .warning => (.ok c, u.warn (.address c.base t.text e) { p with ledger })

/-- Applies tokens in order. -/
def applyTokens : List Token → Context → Progress σ → Outcome SetupError Unit (Progress σ)
  | [], _, p => (.ok (), p)
  | t :: ts, c, p => (u.applyToken c t p).andThen fun c => applyTokens ts c

/-- The order in which tokens are applied. A lease must run on the base interface, so `dhcp` comes
first, and once however often it is listed. -/
def order (tokens : List Token) : List Token :=
  (if .dhcp ∈ tokens then [.dhcp] else []) ++ tokens.filter (· ≠ .dhcp)

/-- Installs the default route of an interface. -/
def defaultRoute (iface gateway : String) (p : Progress σ) :
    Outcome SetupError Unit (Progress σ) :=
  match IPv4.parse? gateway with
  | none => (.error (.badGateway iface gateway), p)
  | some ip =>
    let route := RouteRequest.defaultVia ip iface
    match installRoute u.facilities.routes route p.ledger.world with
    | (.ok (), s) => (.ok (), u.note (.routed route) (p.setWorld s))
    | (.error e, s) => (.error (.defaultRoute iface ip e), p.setWorld s)

/-- Applies an address list and installs the default route of its interface. -/
def assign (net : Net) (list : String) (p : Progress σ) : Outcome SetupError Unit (Progress σ) :=
  (u.applyTokens (order (Token.parseList list)) { base := net.physical } p).andThen fun _ p =>
    match net.gateway with
    | some gateway => u.defaultRoute net.physical gateway p
    | none => (.ok (), p)

/-- Tells that an interface has no address list. -/
def noteAbsence (net : Net) (p : Progress σ) : Progress σ :=
  if net.addressList = none then u.warn (.noConfiguration net.physical) p else p

/-- Sets up one interface. It is plumbed whatever else is configured; without an address list it
gets no route either. -/
def configure (net : Net) (p : Progress σ) : Outcome SetupError Unit (Progress σ) :=
  (u.plumb net.physical (p.visit net.physical)).andThen fun _ p =>
    let p := u.noteAbsence net p
    match interfaceIpv6 u.ipv6 net.physical (net.attr "ipv6") with
    | .error e => (.error e, p)
    | .ok enabled =>
      let p := if enabled then u.linkLocal net.physical p else p
      match net.addressList with
      | none => (.ok (), p)
      | some list => u.assign net list p

def loopbackName : String := "lo0"

def loopbackAddress : String := "127.0.0.1/8"

/-- Sets up the loopback interface. -/
def loopback (p : Progress σ) : Outcome SetupError Unit (Progress σ) :=
  (u.plumb loopbackName p).andThen fun _ p =>
    (u.applyToken { base := loopbackName } (.literal loopbackAddress) p).andThen fun _ p =>
      let p := if u.ipv6 then u.linkLocal loopbackName p else p
      (.ok (), p.visit loopbackName)

/-- Starts autoconfiguration if a token asked for it, and gives the account of the run. -/
def finish (p : Progress σ) : Outcome SetupError SetupReport (Progress σ) :=
  if p.ledger.addrconf then
    match u.facilities.autoconf.start p.ledger.world with
    | (.ok (), s) => (.ok (p.report true), p.setWorld s)
    | (.error e, s) => (.error (.autoconf e), p.setWorld s)
  else (.ok (p.report false), p)

/-- The loopback interface, every other interface, autoconfiguration. -/
def run (nets : List Net) (s : σ) : Outcome SetupError SetupReport (Progress σ) :=
  (u.loopback (.start s)).andThen fun _ p =>
    (Outcome.each u.configure nets p).andThen fun _ p => u.finish p

end Setup

end ZoneNet
