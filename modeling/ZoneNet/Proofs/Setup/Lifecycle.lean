import ZoneNet.Facility.Recorder
import ZoneNet.Proofs.Setup.Lockstep

/-!
# The life of an address object

What is done with address objects is watched: every operation on one is kept, with the object it was
given and the answer. Whatever the facilities answer, the operations come in lifetimes: an object is
created, filled and released before the next one is created and before the call that created it
returns.

* `Assigner.hold_watched` — one object.
* `perform_lifetimes` — one call.
* `lifecycle` — any sequence of calls, going on after errors.
-/

namespace ZoneNet

variable {σ : Type}

/-! ## Watching -/

/-- An operation on an address object, and its answer. -/
inductive ObjectEvent where
  | create (name : ObjectName) (answer : Except FacilityError AddressObject)
  /-- The answer is the object with its value. -/
  | set (obj : AddressObject) (addr : String) (answer : Except FacilityError AddressObject)
  | activate (obj : AddressObject) (answer : Except FacilityError Unit)
  | release (obj : AddressObject)

/-- A state, and the operations on address objects so far. -/
abbrev Watched (σ : Type) := σ × List ObjectEvent

/-- An operation that is none on an address object. -/
def unwatched {α ε : Type} (f : σ → Outcome ε α σ) (s : Watched σ) : Outcome ε α (Watched σ) :=
  ((f s.1).1, (f s.1).2, s.2)

/-- An operation on an address object is kept with its answer. -/
def kept {α ε : Type} (event : Except ε α → ObjectEvent) (f : σ → Outcome ε α σ) (s : Watched σ) :
    Outcome ε α (Watched σ) :=
  ((f s.1).1, (f s.1).2, s.2 ++ [event (f s.1).1])

def AddressManager.watched (m : AddressManager σ) : AddressManager (Watched σ) where
  plumb iface family := unwatched (m.plumb iface family)
  bringUpLinkLocal iface := unwatched (m.bringUpLinkLocal iface)
  addLogical base family := unwatched (m.addLogical base family)
  createObject name := kept (.create name) (m.createObject name)
  setAddress obj addr := kept (.set obj addr) (m.setAddress obj addr)
  activate obj := kept (.activate obj) (m.activate obj)
  release obj s := (m.release obj s.1, s.2 ++ [.release obj])

/-- The facilities with what is done with address objects watched. -/
def Facilities.watched (f : Facilities σ) : Facilities (Watched σ) where
  addresses := f.addresses.watched
  leases := {
    ensureRunning := fun timeout => unwatched (f.leases.ensureRunning timeout)
    startLease := fun iface timeout => unwatched (f.leases.startLease iface timeout) }
  routes := {
    processId := f.routes.processId
    interfaceIndex := f.routes.interfaceIndex
    send := fun message => unwatched (f.routes.send message) }
  autoconf := ⟨unwatched f.autoconf.start⟩

def Setup.watched (u : Setup σ) : Setup (Watched σ) where
  facilities := u.facilities.watched
  ipv6 := u.ipv6
  timeout := u.timeout
  tell n s := (u.tell n s.1, s.2)

/-- The collaborators of assignment with what is done with address objects watched. -/
def Assigner.watched (a : Assigner σ) : Assigner (Watched σ) where
  addresses := a.addresses.watched
  leases := {
    ensureRunning := fun timeout => unwatched (a.leases.ensureRunning timeout)
    startLease := fun iface timeout => unwatched (a.leases.startLease iface timeout) }
  timeout := a.timeout

theorem Setup.assigner_watched (u : Setup σ) : u.watched.assigner = u.assigner.watched := rfl

/-- The name of the object that an operation asks for. -/
def ObjectEvent.asked? : ObjectEvent → Option ObjectName
  | create name _ => some name
  | _ => none

/-! ## Lifetimes -/

/-- The operations on one address object from its creation on, with the facility's own answers. An
object that was not created is not used; one that was is given a value once, activated at most once
and only as its value left it, and released at the end. -/
inductive Lifetime (m : AddressManager σ) : List ObjectEvent → Prop where
  | uncreated {name : ObjectName} {e : FacilityError} {s s₁ : σ}
      (hcreate : m.createObject name s = (.error e, s₁)) : Lifetime m [.create name (.error e)]
  | unset {name : ObjectName} {obj : AddressObject} {addr : String} {e : FacilityError} {s s₁ s₂ : σ}
      (hcreate : m.createObject name s = (.ok obj, s₁))
      (hset : m.setAddress obj addr s₁ = (.error e, s₂)) :
      Lifetime m [.create name (.ok obj), .set obj addr (.error e), .release obj]
  | filled {name : ObjectName} {obj obj' : AddressObject} {addr : String}
      {answer : Except FacilityError Unit} {s s₁ s₂ s₃ : σ}
      (hcreate : m.createObject name s = (.ok obj, s₁))
      (hset : m.setAddress obj addr s₁ = (.ok obj', s₂))
      (hactivate : m.activate obj' s₂ = (answer, s₃)) :
      Lifetime m
        [.create name (.ok obj), .set obj addr (.ok obj'), .activate obj' answer, .release obj']

/-- Operations that come in lifetimes, one after the other. -/
def Lifetimes (m : AddressManager σ) (events : List ObjectEvent) : Prop :=
  ∃ lifetimes : List (List ObjectEvent), events = lifetimes.flatten ∧ ∀ l ∈ lifetimes, Lifetime m l

variable {m : AddressManager σ}

theorem lifetimes_nil : Lifetimes m [] := ⟨[], rfl, by simp⟩

theorem Lifetime.lifetimes {events : List ObjectEvent} (h : Lifetime m events) :
    Lifetimes m events := ⟨[events], by simp, by simpa using h⟩

theorem Lifetimes.append {events events' : List ObjectEvent} (h : Lifetimes m events)
    (h' : Lifetimes m events') : Lifetimes m (events ++ events') := by
  obtain ⟨ls, rfl, hls⟩ := h
  obtain ⟨ls', rfl, hls'⟩ := h'
  exact ⟨ls ++ ls', by simp, List.forall_mem_append.2 ⟨hls, hls'⟩⟩

/-- Facilities for which an object keeps the text that was accepted as its value. -/
def AddressManager.KeepsText (m : AddressManager σ) : Prop :=
  ∀ obj addr s obj' s', m.setAddress obj addr s = (.ok obj', s') →
    obj' = { obj with address := some addr }

/-- A recorder's objects do. -/
theorem Recorder.keepsText (r : Recorder) : r.addresses.KeepsText := by
  intro obj addr s obj' s' h
  simp only [addresses, setAddress] at h
  split at h
  · cases h
  · cases h
    rfl

/-- An object is activated with the text that it was given. -/
theorem Lifetimes.text {events : List ObjectEvent} (h : Lifetimes m events) (hm : m.KeepsText)
    {obj : AddressObject} {answer : Except FacilityError Unit} (ha : .activate obj answer ∈ events) :
    ∃ obj₀ addr, .set obj₀ addr (.ok obj) ∈ events ∧ obj = { obj₀ with address := some addr } := by
  obtain ⟨lifetimes, rfl, hlifetimes⟩ := h
  obtain ⟨events, hevents, ha⟩ := List.mem_flatten.1 ha
  cases hlifetimes events hevents with
  | uncreated => simp at ha
  | unset => simp at ha
  | filled _ hset =>
    simp only [List.mem_cons, reduceCtorEq, ObjectEvent.activate.injEq, List.not_mem_nil, or_false,
      false_or] at ha
    obtain ⟨rfl, rfl⟩ := ha
    exact ⟨_, _, List.mem_flatten.2 ⟨_, hevents, by simp⟩, hm _ _ _ _ _ hset⟩

/-- All that is done with one object is a lifetime of it, and watching changes nothing. -/
theorem Assigner.hold_watched (a : Assigner σ) (iface addr : String) (name : ObjectName)
    (s : Watched σ) :
    ∃ events, Lifetime a.addresses events ∧ events.filterMap ObjectEvent.asked? = [name] ∧
      a.watched.hold iface addr name s
        = ((a.hold iface addr name s.1).1, (a.hold iface addr name s.1).2, s.2 ++ events) := by
  unfold Assigner.hold Assigner.fillObject Assigner.watched AddressManager.watched kept
  dsimp only
  rcases hcreate : a.addresses.createObject name s.1 with ⟨e | obj, s₁⟩
  · exact ⟨_, .uncreated hcreate, rfl, rfl⟩
  · dsimp only
    rcases hset : a.addresses.setAddress obj addr s₁ with ⟨e | obj', s₂⟩
    · exact ⟨_, .unset hcreate hset, rfl, by simp⟩
    · dsimp only
      rcases hactivate : a.addresses.activate obj' s₂ with ⟨e | _, s₃⟩
      · exact ⟨_, .filled hcreate hset hactivate, rfl, by simp⟩
      · exact ⟨_, .filled hcreate hset hactivate, rfl, by simp⟩

/-! ## Calls -/

/-- A watched state that stands for a state, with lifetimes since a given point. -/
def Follows (m : AddressManager σ) (before : List ObjectEvent) (s : σ) (w : Watched σ) : Prop :=
  w.1 = s ∧ ∃ events, w.2 = before ++ events ∧ Lifetimes m events

/-- An operation that is none on an object does the same whether it is watched or not. -/
theorem Follows.unwatched {before : List ObjectEvent} {s : σ} {w : Watched σ}
    (h : Follows m before s w) {ε α : Type} {A : α → α → Prop} (hA : ∀ a, A a a)
    (f : σ → Outcome ε α σ) : Outcome.Agree A (Follows m before) (f s) (ZoneNet.unwatched f w) := by
  obtain ⟨rfl, hevents⟩ := h
  unfold ZoneNet.unwatched
  rcases f w.1 with ⟨e | a, s'⟩
  · exact .error ⟨rfl, hevents⟩
  · exact .ok (hA a) ⟨rfl, hevents⟩

/-- A setup goes the same way whether it is watched or not, and adds lifetimes. -/
theorem lockstep_watched (u : Setup σ) (base : String) (before : List ObjectEvent) :
    u.Lockstep u.watched base 0 (Follows u.facilities.addresses before) where
  ipv6 := rfl
  plumb := fun _ _ _ h => h.unwatched (fun _ => trivial) _
  linkLocal := fun _ _ h => h.unwatched (fun _ => trivial) _
  addLogical := fun _ _ _ h => h.unwatched (fun _ => rfl) _
  hold := by
    rintro iface addr n _ w ⟨rfl, events, hevents, hlifetimes⟩
    obtain ⟨events', hlifetime, -, heq⟩ := u.assigner.hold_watched iface addr (.make iface n) w
    rw [UInt32.add_zero, u.assigner_watched, heq]
    have hstate {s : σ} : Follows u.facilities.addresses before s (s, w.2 ++ events') :=
      ⟨rfl, events ++ events', by rw [hevents, List.append_assoc],
        hlifetimes.append hlifetime.lifetimes⟩
    rcases u.assigner.hold iface addr (.make iface n) w.1 with ⟨e | _, s⟩
    · exact .error hstate
    · exact .ok trivial hstate
  ensureRunning := fun _ _ h => h.unwatched (fun _ => trivial) _
  startLease := fun _ _ _ h => h.unwatched (fun _ => rfl) _
  processId := rfl
  interfaceIndex := rfl
  send := fun _ _ _ h => h.unwatched (fun _ => rfl) _
  tell := by
    rintro n n' s w hn ⟨rfl, hevents⟩
    exact ⟨by rw [hn.eq]; rfl, hevents⟩

/-- A call on network setup. -/
inductive SetupCall where
  | loopback
  | configure (net : Net)

namespace Setup

/-- Makes one call. -/
def perform (u : Setup σ) : SetupCall → Progress σ → Outcome SetupError Unit (Progress σ)
  | .loopback => u.loopback
  | .configure net => u.configure net

/-- Makes calls in order and goes on after errors. -/
def performAll (u : Setup σ) (calls : List SetupCall) (p : Progress σ) : Progress σ :=
  calls.foldl (fun p call => (u.perform call p).2) p

end Setup

/-- A watched progress that stands for a progress. -/
structure Stands (p : Progress σ) (q : Progress (Watched σ)) : Prop where
  world : q.ledger.world.1 = p.ledger.world
  issued : q.ledger.names.issued = p.ledger.names.issued

/-- One call goes the same way whether it is watched or not, and adds lifetimes, whatever comes of
it. -/
theorem perform_lifetimes (u : Setup σ) (call : SetupCall) {p : Progress σ}
    {q : Progress (Watched σ)} (h : Stands p q) :
    (u.watched.perform call q).1 = (u.perform call p).1 ∧
      Stands (u.perform call p).2 (u.watched.perform call q).2 ∧
      ∃ events, Lifetimes u.facilities.addresses events ∧
        (u.watched.perform call q).2.ledger.world.2 = q.ledger.world.2 ++ events := by
  have htogether : Setup.Lockstep.Together 0 (Follows u.facilities.addresses q.ledger.world.2)
      p.warnings q.warnings p q :=
    ⟨⟨⟨h.world, [], by simp, lifetimes_nil⟩, by rw [UInt32.add_zero, h.issued]⟩, [], by simp, by simp⟩
  have hagree : Outcome.Agree (fun _ _ => True)
      (Setup.Lockstep.Together 0 (Follows u.facilities.addresses q.ledger.world.2)
        p.warnings q.warnings) (u.perform call p) (u.watched.perform call q) := by
    cases call with
    | loopback => exact (lockstep_watched u _ _).loopback rfl htogether
    | configure net => exact (lockstep_watched u _ _).configure rfl htogether
  obtain ⟨hworld, events, hevents, hlifetimes⟩ := hagree.state.ledgers.world
  have hissued := hagree.state.ledgers.issued
  rw [UInt32.add_zero] at hissued
  refine ⟨?_, ⟨hworld, hissued⟩, events, hlifetimes, hevents⟩
  generalize u.perform call p = o at hagree
  generalize u.watched.perform call q = o' at hagree
  cases hagree with
  | ok => rfl
  | error => rfl

/-- A progress of which the address objects are watched from here on. -/
def Progress.watched (p : Progress σ) : Progress (Watched σ) where
  ledger := { world := (p.ledger.world, []), names := p.ledger.names, addrconf := p.ledger.addrconf }
  interfaces := p.interfaces
  notes := p.notes

theorem performAll_lifetimes (u : Setup σ) (calls : List SetupCall) {p : Progress σ}
    {q : Progress (Watched σ)} (h : Stands p q) :
    ∃ stretches : List (List ObjectEvent), stretches.length = calls.length ∧
      (∀ stretch ∈ stretches, Lifetimes u.facilities.addresses stretch) ∧
      ∀ i, (u.watched.performAll (calls.take i) q).ledger.world
        = ((u.performAll (calls.take i) p).ledger.world,
          q.ledger.world.2 ++ (stretches.take i).flatten) := by
  induction calls generalizing p q with
  | nil => exact ⟨[], rfl, by simp, fun i => by simp [Setup.performAll, ← h.world]⟩
  | cons call calls ih =>
    obtain ⟨-, hstands, events, hlifetimes, hevents⟩ := perform_lifetimes u call h
    obtain ⟨stretches, hlength, hstretches, htake⟩ := ih hstands
    refine ⟨events :: stretches, by simp [hlength], List.forall_mem_cons.2 ⟨hlifetimes, hstretches⟩,
      fun i => ?_⟩
    cases i with
    | zero => simp [Setup.performAll, ← h.world]
    | succ i =>
      have hrest := htake i
      rw [hevents] at hrest
      simpa [Setup.performAll] using hrest

/-- The life of address objects. Calls are made in any order and any number, on any progress, and
go on after errors. Each adds its own lifetimes and no more, and watching makes no difference to
what the calls do. Where an object keeps the text that it is given, that text is activated. -/
theorem lifecycle (u : Setup σ) (calls : List SetupCall) (p : Progress σ) :
    ∃ stretches : List (List ObjectEvent), stretches.length = calls.length ∧
      (∀ i, (u.watched.performAll (calls.take i) p.watched).ledger.world
        = ((u.performAll (calls.take i) p).ledger.world, (stretches.take i).flatten)) ∧
      (∀ stretch ∈ stretches, Lifetimes u.facilities.addresses stretch) ∧
      (u.facilities.addresses.KeepsText → ∀ stretch ∈ stretches, ∀ obj answer,
        .activate obj answer ∈ stretch → ∃ obj₀ addr, .set obj₀ addr (.ok obj) ∈ stretch ∧
          obj = { obj₀ with address := some addr }) := by
  obtain ⟨stretches, hlength, hstretches, htake⟩ :=
    performAll_lifetimes u calls (p := p) (q := p.watched) ⟨rfl, rfl⟩
  refine ⟨stretches, hlength, fun i => by simpa [Progress.watched] using htake i, hstretches, ?_⟩
  intro hm stretch hstretch obj answer ha
  exact (hstretches stretch hstretch).text hm ha

/-- Two calls over a recorder that rejects one value: the loopback address, and an interface with a
literal that is rejected and one that is activated. -/
theorem lifecycle_rejected :
    let r : Recorder := { rejected := ["10.0.0.2/24"] }
    let u : Setup Journal := { facilities := r.facilities, ipv6 := false }
    let calls : List SetupCall :=
      [.loopback, .configure { physical := "net0", attrs := [⟨"ips", "10.0.0.2/24,10.0.0.3/24"⟩] }]
    (u.watched.performAll calls (Progress.start []).watched).ledger.world.2.length = 11 ∧
      r.addresses.KeepsText ∧
      ∃ stretches : List (List ObjectEvent), stretches.length = 2 ∧
        (∀ stretch ∈ stretches, Lifetimes r.addresses stretch) ∧
        ∀ stretch ∈ stretches, ∀ obj answer, .activate obj answer ∈ stretch →
          ∃ obj₀ addr, .set obj₀ addr (.ok obj) ∈ stretch ∧
            obj = { obj₀ with address := some addr } := by
  intro r u calls
  obtain ⟨stretches, hlength, -, hlifetimes, htext⟩ := lifecycle u calls (.start [])
  exact ⟨by decide +kernel, r.keepsText, stretches, hlength, hlifetimes, htext r.keepsText⟩

end ZoneNet
