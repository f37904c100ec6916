import ZoneNet.Proofs.Setup.Lifecycle

/-!
# What a step of assignment leaves

Every operation that a step asks of its facilities is kept with its answer, so that what was not
done can be told too. A step that fails leaves the interface as it was and activates nothing; only
an agent that cannot be started is fatal, and then no lease is asked for.

* `Does.spends_error` — a step that fails spends a name just when an object was asked for.
* `startLease_traced`, `applyLiteral_traced` — what the operations of a step tell of its result.
* `apply_leaves` — what a step leaves, whatever the facilities answer.
-/

namespace ZoneNet

variable {σ : Type}

/-! ## Tracing -/

/-- An operation that assignment asks of its facilities, with the answer. -/
inductive AssignEvent where
  | addLogical (base : String) (family : Family) (answer : Except FacilityError String)
  | object (event : ObjectEvent)
  | ensureAgent (answer : Except FacilityError Unit)
  | startLease (iface : String) (answer : Except FacilityError LeaseReply)

/-- A state, and the operations so far. -/
abbrev Traced (σ : Type) := σ × List AssignEvent

/-- An operation that is kept with its answer. -/
def tracing {α ε : Type} (event : Except ε α → AssignEvent) (f : σ → Outcome ε α σ) (s : Traced σ) :
    Outcome ε α (Traced σ) :=
  ((f s.1).1, (f s.1).2, s.2 ++ [event (f s.1).1])

/-- The operations of assignment are kept; it neither plumbs nor brings up link-local addresses. -/
def AddressManager.traced (m : AddressManager σ) : AddressManager (Traced σ) where
  plumb iface family s := ((m.plumb iface family s.1).1, (m.plumb iface family s.1).2, s.2)
  bringUpLinkLocal iface s := ((m.bringUpLinkLocal iface s.1).1, (m.bringUpLinkLocal iface s.1).2, s.2)
  addLogical base family := tracing (.addLogical base family) (m.addLogical base family)
  createObject name := tracing (fun answer => .object (.create name answer)) (m.createObject name)
  setAddress obj addr := tracing (fun answer => .object (.set obj addr answer)) (m.setAddress obj addr)
  activate obj := tracing (fun answer => .object (.activate obj answer)) (m.activate obj)
  release obj s := (m.release obj s.1, s.2 ++ [.object (.release obj)])

def LeaseAgent.traced (m : LeaseAgent σ) : LeaseAgent (Traced σ) where
  ensureRunning timeout := tracing .ensureAgent (m.ensureRunning timeout)
  startLease iface timeout := tracing (.startLease iface) (m.startLease iface timeout)

/-- A ledger over a traced state. -/
def Ledger.traced (l : Ledger σ) (events : List AssignEvent) : Ledger (Traced σ) where
  world := (l.world, events)
  names := l.names
  addrconf := l.addrconf

/-- Whether an error is about the object of a static address. -/
def AssignError.isApply : AssignError → Bool
  | apply _ _ _ _ => true
  | _ => false

/-- A token that was applied put an IPv4 address somewhere if it asks for a lease or is an IPv4
literal. -/
theorem Token.lands_ok {t : Token} {did : Applied} : t.lands (.ok did) = true ↔
    t = .dhcp ∨ ∃ addr, t = .literal addr ∧ Family.ofLiteral addr = .v4 := by
  cases t with
  | dhcp => simp [Token.lands, Token.family?]
  | addrconf => simp [Token.lands, Token.family?]
  | literal addr => simp [Token.lands, Token.family?]

namespace Assigner

/-- Assignment with its operations kept. -/
def traced (a : Assigner σ) : Assigner (Traced σ) where
  addresses := a.addresses.traced
  leases := a.leases.traced
  timeout := a.timeout

/-! ## Operations and results -/

/-- What the operations of a step tell of its result. An address is activated just when the result
says so, and the error is over the agent just when that could not be started. -/
structure Tells (result : Except AssignError Applied) (events : List AssignEvent) : Prop where
  activated : (∃ obj, .object (.activate obj (.ok ())) ∈ events) ↔
    ∃ iface name, result = .ok (.address iface name)
  agent : (∃ cause, .ensureAgent (.error cause) ∈ events) ↔ ∃ cause, result = .error (.agent cause)
  unasked : (∃ cause, .ensureAgent (.error cause) ∈ events) →
    ∀ iface answer, .startLease iface answer ∉ events

/-- Operations that ask for a logical interface at most. -/
def OnlyPlace (events : List AssignEvent) : Prop :=
  ∀ e ∈ events, ∃ base family answer, e = .addLogical base family answer

/-- What is done to place a step has no part in what its operations tell. -/
theorem OnlyPlace.tells {placing rest : List AssignEvent} (h : OnlyPlace placing)
    {result : Except AssignError Applied} (hrest : Tells result rest) :
    Tells result (placing ++ rest) := by
  have hmem {e : AssignEvent} (he : ∀ base family answer, e ≠ .addLogical base family answer) :
      e ∈ placing ++ rest ↔ e ∈ rest := by
    rw [List.mem_append]
    constructor
    · rintro (hm | hm)
      · obtain ⟨base, family, answer, rfl⟩ := h e hm
        exact absurd rfl (he base family answer)
      · exact hm
    · exact Or.inr
  have hactivate (obj : AddressObject) :
      .object (.activate obj (.ok ())) ∈ placing ++ rest ↔ .object (.activate obj (.ok ())) ∈ rest :=
    hmem (by simp)
  have hagent (cause : FacilityError) :
      .ensureAgent (.error cause) ∈ placing ++ rest ↔ .ensureAgent (.error cause) ∈ rest :=
    hmem (by simp)
  have hlease (iface : String) (answer : Except FacilityError LeaseReply) :
      .startLease iface answer ∈ placing ++ rest ↔ .startLease iface answer ∈ rest :=
    hmem (by simp)
  constructor
  · simpa only [hactivate] using hrest.activated
  · simpa only [hagent] using hrest.agent
  · simpa only [hagent, hlease] using hrest.unasked

variable (a : Assigner σ)

theorem target_traced (c : Context) (family : Family) (s : Traced σ) :
    ∃ placing, OnlyPlace placing ∧ target a.traced.addresses c family s
      = ((target a.addresses c family s.1).1, (target a.addresses c family s.1).2, s.2 ++ placing) := by
  unfold target
  split
  · exact ⟨[], by simp [OnlyPlace], by simp⟩
  · show ∃ placing, _ ∧ Outcome.mapError _ (tracing _ _ s) = _
    unfold tracing
    rcases a.addresses.addLogical c.base family s.1 with ⟨e | iface, s₁⟩
    · exact ⟨[.addLogical c.base family (.error e)], by simp [OnlyPlace], rfl⟩
    · exact ⟨[.addLogical c.base family (.ok iface)], by simp [OnlyPlace], rfl⟩

/-- A request for a lease is made of an agent that could be started only. -/
theorem startLease_traced (c : Context) (l : Ledger σ) (before : List AssignEvent) :
    ∃ events, a.traced.startLease c (l.traced before) = ((a.startLease c l).1,
        (a.startLease c l).2.1, (a.startLease c l).2.2.traced (before ++ events)) ∧
      Tells (a.startLease c l).1 events := by
  obtain ⟨placing, hplacing, htarget⟩ := a.target_traced c .v4 (l.world, before)
  unfold startLease refuse
  dsimp only [Ledger.traced, traced, LeaseAgent.traced, tracing] at htarget ⊢
  rw [htarget]
  rcases target a.addresses c .v4 l.world with ⟨e | iface, s⟩
  · refine ⟨placing ++ [], by simp, hplacing.tells ?_⟩
    constructor <;> simp
  dsimp only
  rcases a.leases.ensureRunning a.timeout s with ⟨e | _, s⟩
  · refine ⟨placing ++ [.ensureAgent (.error e)], by simp, hplacing.tells ?_⟩
    constructor <;> simp
  dsimp only
  rcases a.leases.startLease iface a.timeout s with ⟨e | reply, s⟩
  · refine ⟨placing ++ [.ensureAgent (.ok ()), .startLease iface (.error e)], by simp,
      hplacing.tells ?_⟩
    constructor <;> simp
  dsimp only
  refine ⟨placing ++ [.ensureAgent (.ok ()), .startLease iface (.ok reply)], ?_, hplacing.tells ?_⟩
  · split <;> simp
  · split
    · constructor <;> simp
    · constructor <;> simp

/-- All that is done with one object is done with objects, and the object is activated just when
that succeeds. -/
theorem hold_traced (iface addr : String) (name : ObjectName) (s : Traced σ) :
    ∃ events : List ObjectEvent, a.traced.hold iface addr name s
        = ((a.hold iface addr name s.1).1, (a.hold iface addr name s.1).2,
          s.2 ++ events.map .object) ∧
      ((∃ obj, .activate obj (.ok ()) ∈ events) ↔ (a.hold iface addr name s.1).1 = .ok ()) := by
  unfold hold fillObject traced AddressManager.traced tracing
  dsimp only
  rcases a.addresses.createObject name s.1 with ⟨e | obj, s₁⟩
  · exact ⟨[.create name (.error e)], rfl, by simp⟩
  dsimp only
  rcases a.addresses.setAddress obj addr s₁ with ⟨e | obj', s₂⟩
  · exact ⟨[.create name (.ok obj), .set obj addr (.error e), .release obj], by simp, by simp⟩
  dsimp only
  rcases a.addresses.activate obj' s₂ with ⟨e | _, s₃⟩
  · exact ⟨[.create name (.ok obj), .set obj addr (.ok obj'), .activate obj' (.error e),
      .release obj'], by simp, by simp⟩
  · exact ⟨[.create name (.ok obj), .set obj addr (.ok obj'), .activate obj' (.ok ()),
      .release obj'], by simp, by simp⟩

/-- All that can fail with an object is one of its stages. -/
theorem hold_error {iface addr : String} {name : ObjectName} {s s' : σ} {e : AssignError}
    (h : a.hold iface addr name s = (.error e, s')) :
    ∃ stage cause, e = .apply iface addr stage cause := by
  unfold hold at h
  rcases hcreate : a.addresses.createObject name s with ⟨cause | obj, s₁⟩
  · rw [hcreate] at h
    cases h
    exact ⟨_, _, rfl⟩
  · rw [hcreate] at h
    have hfills := a.fillObject_fills iface addr obj s₁
    rw [show a.fillObject iface addr obj s₁ = (.error e, s') from h] at hfills
    exact hfills.error

/-- Nothing that is done with an object asks for the agent or for a lease. -/
theorem applyLiteral_traced (c : Context) (addr : String) (l : Ledger σ)
    (before : List AssignEvent) :
    ∃ events, a.traced.applyLiteral c addr (l.traced before) = ((a.applyLiteral c addr l).1,
        (a.applyLiteral c addr l).2.1, (a.applyLiteral c addr l).2.2.traced (before ++ events)) ∧
      Tells (a.applyLiteral c addr l).1 events := by
  obtain ⟨placing, hplacing, htarget⟩ :=
    a.target_traced c (Family.ofLiteral addr) (l.world, before)
  rw [applyLiteral_eq, applyLiteral_eq]
  unfold refuse
  dsimp only [Ledger.traced] at htarget ⊢
  rw [htarget]
  rcases target a.addresses c (Family.ofLiteral addr) l.world with ⟨e | iface, s⟩
  · refine ⟨placing ++ [], by simp, hplacing.tells ?_⟩
    constructor <;> simp
  obtain ⟨events, hhold, hactivated⟩ :=
    a.hold_traced iface addr (.make iface l.names.issued) (s, before ++ placing)
  refine ⟨placing ++ events.map .object, ?_, hplacing.tells ?_⟩
  · dsimp only
    rw [hhold]
    rcases a.hold iface addr (.make iface l.names.issued) s with ⟨e | _, s⟩ <;> simp
  · dsimp only at hactivated ⊢
    rcases hresult : a.hold iface addr (.make iface l.names.issued) s with ⟨e | _, s'⟩
    · rw [hresult] at hactivated
      obtain ⟨stage, cause, rfl⟩ := a.hold_error hresult
      constructor <;> simp [hactivated]
    · rw [hresult] at hactivated
      constructor <;> simp [hactivated]

/-! ## One step -/

theorem apply_traced (c : Context) (t : Token) (l : Ledger σ) :
    ∃ events, a.traced.apply c t (l.traced []) = ((a.apply c t l).1, (a.apply c t l).2.1,
        (a.apply c t l).2.2.traced events) ∧ Tells (a.apply c t l).1 events := by
  cases t with
  | dhcp => exact a.startLease_traced c l []
  | addrconf =>
    refine ⟨[], rfl, ?_⟩
    constructor <;> simp [apply]
  | literal addr => exact a.applyLiteral_traced c addr l []

variable {a}

/-- A token that could not be applied spent a name just when an object was asked for. -/
theorem Does.spends_error {c : Context} {l l' : Ledger σ} {t : Token} {e : AssignError}
    (h : a.Does c l t (.error e) l') : t.spends (.error e) = e.isApply := by
  generalize hresult : Except.error e = result at h
  cases h with
  | noted => cases hresult
  | unplaced =>
    cases hresult
    cases t <;> rfl
  | agentless => cases hresult; rfl
  | unanswered => cases hresult; rfl
  | refused => cases hresult; rfl
  | leased => cases hresult
  | uncreated => cases hresult; rfl
  | @filled addr iface obj r s₁ s₂ s₃ htarget hcreate hfill =>
    have hfills := a.fillObject_fills iface addr obj s₂
    rw [hfill] at hfills
    cases r with
    | ok => cases hresult
    | error =>
      cases hresult
      obtain ⟨stage, cause, rfl⟩ := hfills.error
      rfl

/-- A request for autoconfiguration cannot fail. -/
theorem Does.ne_addrconf {c : Context} {l l' : Ledger σ} {t : Token} {e : AssignError}
    (h : a.Does c l t (.error e) l') : t ≠ .addrconf := by
  rintro rfl
  cases h with
  | unplaced hfamily => cases hfamily

variable (a)

/-- What a step leaves, whatever the facilities answer. A step that fails leaves the context and the
request for autoconfiguration as they were, has activated no address, and has spent a name just when
an object was asked for. A step that succeeds has occupied the base interface if it put an IPv4
address somewhere, asked for autoconfiguration if that is its token, and spent a name if its token is
a literal. Only an agent that cannot be started is fatal, and then no lease was asked for. -/
theorem apply_leaves (c : Context) (t : Token) (l : Ledger σ) :
    let result := (a.apply c t l).1
    let c' := (a.apply c t l).2.1
    let l' := (a.apply c t l).2.2
    ∃ events : List AssignEvent, a.traced.apply c t (l.traced []) = (result, c', l'.traced events) ∧
      (∀ e, result = .error e → c' = c ∧ l'.addrconf = l.addrconf ∧
        (∀ obj, .object (.activate obj (.ok ())) ∉ events) ∧
        l'.names.issued = l.names.issued + if e.isApply then 1 else 0) ∧
      (∀ did, result = .ok did →
        c'.base = c.base ∧
        (c'.occupied = true ↔ c.occupied = true ∨ t = .dhcp ∨
          ∃ addr, t = .literal addr ∧ Family.ofLiteral addr = .v4) ∧
        l'.addrconf = (l.addrconf || decide (t = .addrconf)) ∧
        l'.names.issued = l.names.issued + match t with | .literal _ => 1 | _ => 0) ∧
      ((∃ e, result = .error e ∧ e.severity = .fatal) ↔
        ∃ cause, .ensureAgent (.error cause) ∈ events) ∧
      ((∃ e, result = .error e ∧ e.severity = .fatal) →
        ∀ iface answer, .startLease iface answer ∉ events) := by
  obtain ⟨events, htraced, htells⟩ := a.apply_traced c t l
  obtain ⟨result, l', hdoes, happly⟩ := a.exists_does c t l
  rw [happly] at htraced htells ⊢
  have hfatal : (∃ e, result = .error e ∧ e.severity = .fatal) ↔
      ∃ cause, .ensureAgent (.error cause) ∈ events := by
    rw [htells.agent]
    constructor
    · rintro ⟨e, rfl, hsevere⟩
      cases e with
      | agent cause => exact ⟨cause, rfl⟩
      | _ => cases hsevere
    · rintro ⟨cause, rfl⟩
      exact ⟨_, rfl, rfl⟩
  refine ⟨events, htraced, ?_, ?_, hfatal, fun h => htells.unasked (hfatal.1 h)⟩
  · rintro e rfl
    refine ⟨rfl, ?_, ?_, ?_⟩
    · rw [hdoes.addrconf, decide_eq_false (hdoes.ne_addrconf), Bool.or_false]
    · intro obj hm
      obtain ⟨iface, name, hok⟩ := htells.activated.1 ⟨obj, hm⟩
      cases hok
    · rw [hdoes.names, hdoes.spends_error]
  · rintro did rfl
    refine ⟨c.after_base t _, ?_, hdoes.addrconf, ?_⟩
    · rw [Context.after_occupied, Bool.or_eq_true, Token.lands_ok]
    · rw [hdoes.names]
      cases t <;> rfl

/-- A recorder without its agent that activates no `10.0.0.2/24`, after seven names. The request for
a lease is fatal, and no lease is asked for; the literal spends the eighth name and leaves the base
interface free. -/
theorem apply_leaves_agentDown :
    let r : Recorder := { lease := .agentDown, failActivation := ["10.0.0.2/24"] }
    let a : Assigner Journal := ⟨r.addresses, r.leases, 5⟩
    let c : Context := { base := "net0" }
    let l : Ledger Journal := { world := [], names := ⟨7⟩ }
    ((a.apply c .dhcp l).1 = .error (.agent (.timeout "start dhcpagent" 5)) ∧
      ∃ events, (a.traced.apply c .dhcp (l.traced [])).2.2.world.2 = events ∧
        (∃ cause, .ensureAgent (.error cause) ∈ events) ∧
        ∀ iface answer, .startLease iface answer ∉ events) ∧
    (a.apply c (.literal "10.0.0.2/24") l).1 = .error (.apply "net0" "10.0.0.2/24" .activate
        (.rejected "create address" "address already in use")) ∧
      (a.apply c (.literal "10.0.0.2/24") l).2.1 = c ∧
      (a.apply c (.literal "10.0.0.2/24") l).2.2.names.issued = 8 := by
  intro r a c l
  have hlease : (a.apply c .dhcp l).1 = .error (.agent (.timeout "start dhcpagent" 5)) := by rfl
  have hliteral : (a.apply c (.literal "10.0.0.2/24") l).1 = .error (.apply "net0" "10.0.0.2/24"
      .activate (.rejected "create address" "address already in use")) := by rfl
  obtain ⟨events, htraced, -, -, hfatal, hunasked⟩ := apply_leaves a c .dhcp l
  obtain ⟨_, -, hfailed, -⟩ := apply_leaves a c (.literal "10.0.0.2/24") l
  obtain ⟨hcontext, -, -, hissued⟩ := hfailed _ hliteral
  refine ⟨⟨hlease, events, ?_, hfatal.1 ⟨_, hlease, rfl⟩, hunasked ⟨_, hlease, rfl⟩⟩,
    hliteral, hcontext, ?_⟩
  · rw [htraced]
    rfl
  · rw [hissued]
    rfl

end Assigner

end ZoneNet
