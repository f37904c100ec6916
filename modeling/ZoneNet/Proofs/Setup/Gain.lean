import ZoneNet.Proofs.Facility.RecordedRoutes
import ZoneNet.Proofs.Facility.RecordedSteps
import ZoneNet.Proofs.Zone.Overrides
import ZoneNet.Setup.Run

/-!
# What setup over a recorder adds

Setup never takes back what it has done, so each stretch of it adds a gain to the progress: entries
of the journal, notes, interfaces, and names spent. A recorder answers by its settings alone, so the
gain of plumbing, of a link-local address and of a route is told by the settings.

* `plumb_of_mem`, `plumb_of_not_mem` — plumbing fails for both families or for none.
* `linkLocal_eq` — a link-local address that fails is warned of.
* `defaultRoute_eq` — the index of the interface and the channel decide on a default route.
-/

namespace ZoneNet

/-! ## Steps -/

/-- The steps of setup in the order in which they are taken: all but the last for each interface,
the last once. -/
inductive SetupStep where
  | plumb
  | policy
  | linkLocal
  | agent
  | lease
  | addresses
  | gateway
  | route
  | autoconf
  deriving DecidableEq, Repr

instance : LE SetupStep := ⟨fun a b => a.ctorIdx ≤ b.ctorIdx⟩

instance : DecidableLE SetupStep := fun a b => inferInstanceAs (Decidable (a.ctorIdx ≤ b.ctorIdx))

theorem SetupStep.le_refl (a : SetupStep) : a ≤ a := Nat.le_refl _

theorem SetupStep.le_trans {a b c : SetupStep} (hab : a ≤ b) (hbc : b ≤ c) : a ≤ c :=
  Nat.le_trans hab hbc

/-- The step that makes a call; setup sets no property. -/
def Call.step? : Call → Option SetupStep
  | plumb _ _ => some .plumb
  | linkLocal _ => some .linkLocal
  | ensureAgent => some .agent
  | startLease _ => some .lease
  | addLogical _ _ _ => some .addresses
  | createObject _ => some .addresses
  | setAddress _ _ => some .addresses
  | activate _ _ => some .addresses
  | release _ => some .addresses
  | writeRoute _ _ => some .route
  | startAutoconf => some .autoconf
  | setProperty _ _ _ => none

/-- Every one of these calls is made by one of the steps from the first to the last. -/
def Made (first last : SetupStep) (calls : List Call) : Prop :=
  ∀ call ∈ calls, ∃ step, call.step? = some step ∧ first ≤ step ∧ step ≤ last

@[simp] theorem made_nil (first last : SetupStep) : Made first last [] :=
  fun _ h => absurd h List.not_mem_nil

@[simp] theorem made_cons (first last : SetupStep) (call : Call) (calls : List Call) :
    Made first last (call :: calls) ↔
      (∃ step, call.step? = some step ∧ first ≤ step ∧ step ≤ last) ∧ Made first last calls :=
  List.forall_mem_cons

theorem made_single {step : SetupStep} {call : Call} (h : call.step? = some step) :
    Made step step [call] := by
  intro call' hm
  rw [List.mem_singleton.1 hm]
  exact ⟨step, h, step.le_refl, step.le_refl⟩

theorem Made.append {first last : SetupStep} {calls calls' : List Call}
    (h : Made first last calls) (h' : Made first last calls') :
    Made first last (calls ++ calls') := by
  intro call hm
  rcases List.mem_append.1 hm with hm | hm
  · exact h call hm
  · exact h' call hm

theorem Made.mono {first last first' last' : SetupStep} {calls : List Call}
    (h : Made first last calls) (hfirst : first' ≤ first) (hlast : last ≤ last') :
    Made first' last' calls := by
  intro call hm
  obtain ⟨step, hstep, hlo, hhi⟩ := h call hm
  exact ⟨step, hstep, SetupStep.le_trans hfirst hlo, SetupStep.le_trans hhi hlast⟩

/-- The interface that a call brings a link-local address up on. -/
def Call.linkLocal? : Call → Option String
  | linkLocal iface => some iface
  | _ => none

/-- No other step brings a link-local address up. -/
theorem Made.linkLocal_eq_nil {first last : SetupStep} {calls : List Call}
    (h : Made first last calls) (hout : ¬(first ≤ .linkLocal ∧ .linkLocal ≤ last)) :
    calls.filterMap Call.linkLocal? = [] := by
  rw [List.filterMap_eq_nil_iff]
  intro call hm
  obtain ⟨step, hstep, hwithin⟩ := h call hm
  cases call with
  | linkLocal iface =>
    cases hstep
    exact absurd hwithin hout
  | _ => rfl

theorem Made.startAutoconf_not_mem {first last : SetupStep} {calls : List Call}
    (h : Made first last calls) (hlast : ¬.autoconf ≤ last) : .startAutoconf ∉ calls := by
  intro hm
  obtain ⟨step, hstep, -, hhi⟩ := h _ hm
  cases hstep
  exact hlast hhi

/-! ## Gains -/

/-- What a stretch of setup adds to its progress. -/
structure Gain where
  calls : List Call := []
  notes : List SetupNote := []
  interfaces : List String := []
  names : Nat := 0
  addrconf : Bool := false

namespace Gain

instance : Append Gain where
  append g h := {
    calls := g.calls ++ h.calls
    notes := g.notes ++ h.notes
    interfaces := g.interfaces ++ h.interfaces
    names := g.names + h.names
    addrconf := g.addrconf || h.addrconf
  }

variable (g h : Gain)

@[simp] theorem calls_append : (g ++ h).calls = g.calls ++ h.calls := rfl

@[simp] theorem notes_append : (g ++ h).notes = g.notes ++ h.notes := rfl

@[simp] theorem interfaces_append : (g ++ h).interfaces = g.interfaces ++ h.interfaces := rfl

@[simp] theorem names_append : (g ++ h).names = g.names + h.names := rfl

@[simp] theorem addrconf_append : (g ++ h).addrconf = (g.addrconf || h.addrconf) := rfl

@[simp] theorem append_empty : g ++ ({} : Gain) = g := by
  show Gain.mk (g.calls ++ []) (g.notes ++ []) (g.interfaces ++ []) (g.names + 0)
    (g.addrconf || false) = g
  rw [List.append_nil, List.append_nil, List.append_nil, Nat.add_zero, Bool.or_false]

/-- The warnings among the notes. -/
def warnings (g : Gain) : List SetupWarning := g.notes.filterMap SetupNote.warning?

@[simp] theorem warnings_append : (g ++ h).warnings = g.warnings ++ h.warnings :=
  List.filterMap_append

theorem warnings_warned (calls : List Call) (ws : List SetupWarning) :
    warnings { calls, notes := ws.map .warned } = ws := by
  have hsome : SetupNote.warning? ∘ SetupNote.warned = some := rfl
  rw [warnings, List.filterMap_map, hsome, List.filterMap_some]

/-- A gain of calls to the routing channel alone. -/
structure IsRouting : Prop where
  calls : Made .route .route g.calls
  warnings : g.warnings = []
  interfaces : g.interfaces = []
  names : g.names = 0
  addrconf : g.addrconf = false

end Gain

namespace Progress

/-- A progress with a gain. -/
def add (p : Progress Journal) (g : Gain) : Progress Journal where
  ledger := {
    world := p.ledger.world ++ g.calls
    names := ⟨p.ledger.names.issued + UInt32.ofNat g.names⟩
    addrconf := p.ledger.addrconf || g.addrconf
  }
  interfaces := p.interfaces ++ g.interfaces
  notes := p.notes ++ g.notes

variable (p : Progress Journal)

theorem add_add (g h : Gain) : (p.add g).add h = p.add (g ++ h) := by
  simp only [add, Gain.calls_append, Gain.notes_append, Gain.interfaces_append, Gain.names_append,
    Gain.addrconf_append, List.append_assoc, Bool.or_assoc, UInt32.ofNat_add, UInt32.add_assoc]

@[simp] theorem add_empty : p.add {} = p := by
  simp [add]

theorem addrconf_start (j : Journal) (g : Gain) :
    ((Progress.start j).add g).ledger.addrconf = g.addrconf := Bool.false_or _

theorem setWorld_append (calls : List Call) :
    p.setWorld (p.ledger.world ++ calls) = p.add { calls } := by
  simp [setWorld, add]

theorem visit_eq (iface : String) : p.visit iface = p.add { interfaces := [iface] } := by
  simp [visit, add]

end Progress

/-! ## Setup over a recorder -/

/-- Network setup over a recorder, in a zone with IPv6 or without. -/
def Recorder.setup (r : Recorder) (zone : Bool) (timeout : UInt64) : Setup Journal where
  facilities := r.facilities
  ipv6 := zone
  timeout := timeout

namespace Recorder

variable (r : Recorder) (zone : Bool) (timeout : UInt64)

theorem note_eq (n : SetupNote) (p : Progress Journal) :
    (r.setup zone timeout).note n p = p.add { notes := [n] } := by
  simp [Setup.note, setup, Progress.add]

/-! ### Plumbing -/

/-- What plumbing an interface adds. -/
def plumbing (zone : Bool) (iface : String) : Gain where
  calls := (if zone then [.v4, .v6] else [.v4]).map (Call.plumb iface)

theorem made_plumbing (iface : String) : Made .plumb .plumb (plumbing zone iface).calls := by
  intro call hm
  obtain ⟨family, -, rfl⟩ := List.mem_map.1 hm
  exact ⟨.plumb, rfl, by decide⟩

variable {r}

theorem plumbFamily_of_not_mem {iface : String} (h : iface ∉ r.failPlumb) (family : Family)
    (p : Progress Journal) :
    (r.setup zone timeout).plumbFamily iface family p
      = (.ok (), p.add { calls := [.plumb iface family] }) := by
  simp only [Setup.plumbFamily, setup, facilities, addresses, plumb, if_neg h, record]
  rw [Progress.setWorld_append]

/-- The first family already fails for an interface that cannot be plumbed. -/
theorem plumb_of_mem {iface : String} (h : iface ∈ r.failPlumb) (p : Progress Journal) :
    (r.setup zone timeout).plumb iface p
      = (.error (.plumb iface .v4 (.rejected "create-if" "no such interface")), p) := by
  have hfirst : (r.setup zone timeout).plumbFamily iface .v4 p
      = (.error (.plumb iface .v4 (.rejected "create-if" "no such interface")), p) := by
    simp only [Setup.plumbFamily, setup, facilities, addresses, plumb, if_pos h]
    rfl
  unfold Setup.plumb Setup.families
  cases zone with
  | false =>
    rw [if_neg (by simp [setup]), Outcome.each_cons, hfirst]
    rfl
  | true =>
    rw [if_pos (by rfl), Outcome.each_cons, hfirst]
    rfl

theorem plumb_of_not_mem {iface : String} (h : iface ∉ r.failPlumb) (p : Progress Journal) :
    (r.setup zone timeout).plumb iface p = (.ok (), p.add (plumbing zone iface)) := by
  unfold Setup.plumb Setup.families
  cases zone with
  | false =>
    rw [if_neg (by simp [setup]), Outcome.each_cons, plumbFamily_of_not_mem _ _ h]
    rfl
  | true =>
    rw [if_pos (by rfl), Outcome.each_cons, plumbFamily_of_not_mem _ _ h, Outcome.andThen_ok,
      Outcome.each_cons, plumbFamily_of_not_mem _ _ h, Outcome.andThen_ok, Outcome.each_nil,
      Progress.add_add]
    rfl

/-! ### Link-local addresses and absent lists -/

variable (r)

/-- The warnings of a link-local address. -/
def linkLocalWarnings (iface : String) : List SetupWarning :=
  if iface ∈ r.failLinkLocal then
    [.linkLocal iface (.rejected "SIOCSLIFFLAGS" "no such interface")]
  else []

/-- What a link-local address adds, where there is to be one. -/
def linking (enabled : Bool) (iface : String) : Gain :=
  if enabled then
    { calls := [.linkLocal iface], notes := (r.linkLocalWarnings iface).map .warned }
  else {}

theorem linkLocal_eq (enabled : Bool) (iface : String) (p : Progress Journal) :
    (if enabled then (r.setup zone timeout).linkLocal iface p else p)
      = p.add (r.linking enabled iface) := by
  cases enabled with
  | false => simp [linking]
  | true =>
    by_cases h : iface ∈ r.failLinkLocal
    · simp [linking, linkLocalWarnings, h, Setup.linkLocal, Setup.warn, Setup.note, setup,
        facilities, addresses, bringUpLinkLocal, record, Progress.add, Progress.setWorld]
    · simp [linking, linkLocalWarnings, h, Setup.linkLocal, setup, facilities, addresses,
        bringUpLinkLocal, record, Progress.add, Progress.setWorld]

theorem warnings_linking (enabled : Bool) (iface : String) :
    (r.linking enabled iface).warnings = if enabled then r.linkLocalWarnings iface else [] := by
  cases enabled with
  | false => rfl
  | true => exact Gain.warnings_warned _ _

theorem made_linking (enabled : Bool) (iface : String) :
    Made .linkLocal .linkLocal (r.linking enabled iface).calls := by
  cases enabled with
  | false => exact made_nil _ _
  | true => exact made_single rfl

/-- What is told of an interface without an address list. -/
def absenceWarnings (net : Net) : List SetupWarning :=
  if net.chosenList = none then [.noConfiguration net.physical] else []

theorem noteAbsence_eq (net : Net) (p : Progress Journal) :
    (r.setup zone timeout).noteAbsence net p
      = p.add { notes := (absenceWarnings net).map .warned } := by
  unfold Setup.noteAbsence absenceWarnings
  rw [net.addressList_eq]
  by_cases h : net.chosenList = none
  · rw [if_pos h, if_pos h]
    exact r.note_eq zone timeout _ p
  · rw [if_neg h, if_neg h]
    exact (p.add_empty).symm

/-! ### Default routes -/

/-- Why no route can be installed on an interface, if none can: the interface has no index that fits
a message, or the channel does not take a message in full. -/
def routeCause (iface : String) : Option RouteError :=
  match r.interfaceIndex iface with
  | none => some (.unknownInterface iface)
  | some i =>
    if 65535 < i.toNat then some (.unknownInterface iface)
    else match r.channelAnswer with
      | .error e => some (.channel e)
      | .ok n => if n < 124 then some (.incompleteWrite n 124) else none

/-- The index of an interface fits a message or the route is refused. -/
theorem messageFor_defaultVia (ip : IPv4) (iface : String) :
    messageFor r.routes (.defaultVia ip iface)
      = match r.interfaceIndex iface with
        | none => .error (.unknownInterface iface)
        | some i =>
          if 65535 < i.toNat then .error (.unknownInterface iface)
          else .ok ⟨UInt16.ofNat i.toNat, r.processId, .zero, ip, .zero⟩ := by
  show (messageIndex r.routes (some iface)).bind _ = _
  simp only [messageIndex, routes]
  rcases r.interfaceIndex iface with _ | i
  · rfl
  · dsimp only
    by_cases hlarge : 65535 < i.toNat
    · rw [if_pos hlarge, if_neg (Nat.not_le.2 hlarge)]
      rfl
    · rw [if_neg hlarge, if_pos (Nat.not_lt.1 hlarge)]
      rfl

theorem refusal_defaultVia (ip : IPv4) (iface : String) :
    r.refusal (.defaultVia ip iface) = r.routeCause iface := by
  unfold refusal routeCause
  -- the index is looked up before the channel is asked
  rw [messageFor_defaultVia]
  rcases r.interfaceIndex iface with _ | i
  · rfl
  · dsimp only
    by_cases hlarge : 65535 < i.toNat
    · rw [if_pos hlarge, if_pos hlarge]
    · rw [if_neg hlarge, if_neg hlarge]
      rfl

theorem made_routeCalls (q : RouteRequest) : Made .route .route (r.routeCalls q) := by
  unfold routeCalls sending
  rcases messageFor r.routes q with e | m
  · exact made_nil _ _
  · rcases r.channelError with _ | text
    · exact made_single rfl
    · exact made_nil _ _

/-- What a default route adds: calls to the channel, and a note if it was installed. -/
def routing (ip : IPv4) (iface : String) : Gain where
  calls := r.routeCalls (.defaultVia ip iface)
  notes := if r.routeCause iface = none then [.routed (.defaultVia ip iface)] else []

theorem isRouting_routing (ip : IPv4) (iface : String) : (r.routing ip iface).IsRouting where
  calls := r.made_routeCalls _
  warnings := by
    unfold routing Gain.warnings
    by_cases h : r.routeCause iface = none
    · rw [if_pos h]
      rfl
    · rw [if_neg h]
      rfl
  interfaces := rfl
  names := rfl
  addrconf := rfl

theorem defaultRoute_eq {ip : IPv4} {iface gateway : String}
    (hparse : IPv4.parse? gateway = some ip) (p : Progress Journal) :
    (r.setup zone timeout).defaultRoute iface gateway p
      = (match r.routeCause iface with
        | some cause => .error (.defaultRoute iface ip cause)
        | none => .ok (), p.add (r.routing ip iface)) := by
  unfold Setup.defaultRoute routing
  rw [hparse]
  dsimp only
  rw [show (r.setup zone timeout).facilities.routes = r.routes from rfl, installRoute_eq,
    refusal_defaultVia]
  rcases r.routeCause iface with _ | cause
  · simp [Setup.note, setup, Progress.setWorld, Progress.add]
  · simp [Progress.setWorld_append]

end Recorder

end ZoneNet
