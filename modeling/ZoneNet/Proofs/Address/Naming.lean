import Mathlib.Data.List.ReduceOption
import ZoneNet.Proofs.Address.ObjectNames
import ZoneNet.Proofs.Address.Sessions
import ZoneNet.Proofs.Setup.Lifecycle

/-!
# The names that a session issues

A name is issued for a literal as soon as there is an interface for it, and is put to the facility
at once, so the names issued are those that objects are asked for under. Facilities may answer
whatever they like.

* `Assigner.apply_watched` — the name that one step issues, if any.
* `Session.run_watched` — the names that a run of steps issues.
* `Session.naming` — in every session the names are numbered from zero on and are all different.
-/

namespace ZoneNet

variable {κ σ : Type}

/-! ## One step -/

/-- A ledger over a watched state. -/
def Ledger.watched (l : Ledger σ) (events : List ObjectEvent) : Ledger (Watched σ) where
  world := (l.world, events)
  names := l.names
  addrconf := l.addrconf

namespace Assigner

variable (a : Assigner σ)

/-- The interface for the static address that a token asks for, if it asks for one and there is an
interface. -/
def site? (c : Context) (t : Token) (s : σ) : Option String :=
  match t with
  | .literal addr => (target a.addresses c (Family.ofLiteral addr) s).1.toOption
  | _ => none

theorem target_watched (c : Context) (family : Family) (s : Watched σ) :
    target a.watched.addresses c family s
      = ((target a.addresses c family s.1).1, (target a.addresses c family s.1).2, s.2) := by
  unfold target
  split
  · rfl
  · show Outcome.mapError _ (unwatched _ s) = _
    unfold unwatched
    rcases a.addresses.addLogical c.base family s.1 with ⟨_ | _, _⟩ <;> rfl

/-- A request for a lease asks for no object. -/
theorem startLease_watched (c : Context) (l : Ledger σ) (before : List ObjectEvent) :
    a.watched.startLease c (l.watched before)
      = ((a.startLease c l).1, (a.startLease c l).2.1, (a.startLease c l).2.2.watched before) ∧
      (a.startLease c l).2.2.names = l.names := by
  unfold startLease refuse
  rw [target_watched]
  dsimp only [Ledger.watched, watched, unwatched]
  rcases target a.addresses c .v4 l.world with ⟨e | iface, s⟩
  · exact ⟨rfl, rfl⟩
  dsimp only
  rcases a.leases.ensureRunning a.timeout s with ⟨e | _, s⟩
  · exact ⟨rfl, rfl⟩
  dsimp only
  rcases a.leases.startLease iface a.timeout s with ⟨e | reply, s⟩
  · exact ⟨rfl, rfl⟩
  dsimp only
  split
  · exact ⟨rfl, rfl⟩
  · exact ⟨rfl, rfl⟩

/-- A literal asks for one object, under the next name, if there is an interface for it. -/
theorem applyLiteral_watched (c : Context) (addr : String) (l : Ledger σ)
    (before : List ObjectEvent) :
    ∃ events, a.watched.applyLiteral c addr (l.watched before)
        = ((a.applyLiteral c addr l).1, (a.applyLiteral c addr l).2.1,
          (a.applyLiteral c addr l).2.2.watched (before ++ events)) ∧
      events.filterMap ObjectEvent.asked?
        = ObjectName.series l.names.issued (a.site? c (.literal addr) l.world).toList ∧
      (a.applyLiteral c addr l).2.2.names.issued = l.names.issued
        + UInt32.ofNat (a.site? c (.literal addr) l.world).toList.length := by
  rw [applyLiteral_eq, applyLiteral_eq, target_watched]
  unfold site? refuse
  dsimp only [Ledger.watched]
  rcases target a.addresses c (Family.ofLiteral addr) l.world with ⟨e | iface, s⟩
  · exact ⟨[], by simp, rfl, by simp [Except.toOption]⟩
  · obtain ⟨events, -, hasked, hhold⟩ :=
      a.hold_watched iface addr (.make iface l.names.issued) (s, before)
    refine ⟨events, ?_, ?_, ?_⟩
    · dsimp only
      rw [hhold]
      rcases a.hold iface addr (.make iface l.names.issued) s with ⟨e | _, s⟩
      · rfl
      · rfl
    · rw [hasked]
      show _ = [ObjectName.make iface (l.names.issued + UInt32.ofNat 0)]
      rw [show UInt32.ofNat 0 = 0 from rfl, UInt32.add_zero]
    · dsimp only
      rcases a.hold iface addr (.make iface l.names.issued) s with ⟨e | _, s⟩
      · rfl
      · rfl

/-- A step issues a name for a literal that there is an interface for, whatever becomes of the
object, and none for anything else. Watching makes no difference. -/
theorem apply_watched (c : Context) (t : Token) (l : Ledger σ) (before : List ObjectEvent) :
    ∃ events, a.watched.apply c t (l.watched before)
        = ((a.apply c t l).1, (a.apply c t l).2.1, (a.apply c t l).2.2.watched (before ++ events)) ∧
      events.filterMap ObjectEvent.asked?
        = ObjectName.series l.names.issued (a.site? c t l.world).toList ∧
      (a.apply c t l).2.2.names.issued
        = l.names.issued + UInt32.ofNat (a.site? c t l.world).toList.length := by
  cases t with
  | dhcp =>
    obtain ⟨heq, hnames⟩ := a.startLease_watched c l before
    refine ⟨[], ?_, rfl, ?_⟩
    · rw [List.append_nil]
      exact heq
    · show (a.startLease c l).2.2.names.issued = _
      rw [hnames]
      exact (UInt32.add_zero _).symm
  | addrconf =>
    refine ⟨[], ?_, rfl, (UInt32.add_zero _).symm⟩
    rw [List.append_nil]
    rfl
  | literal addr => exact a.applyLiteral_watched c addr l before

end Assigner

/-! ## Sessions -/

namespace Session

variable [DecidableEq κ] (a : Assigner σ)

/-- The session with its facilities watched. -/
def watched (s : Session κ σ) (events : List ObjectEvent) : Session κ (Watched σ) :=
  ⟨s.contexts, s.ledger.watched events⟩

/-- Step by step, the interface for a literal, if there is one. -/
def sites (s : Session κ σ) : List (κ × Token) → List (Option String)
  | [] => []
  | (k, t) :: steps =>
    a.site? (s.contexts k) t s.ledger.world :: sites (s.step a k t).2 steps

theorem sites_take (s : Session κ σ) (steps : List (κ × Token)) (i : Nat) :
    s.sites a (steps.take i) = (s.sites a steps).take i := by
  induction steps generalizing s i with
  | nil => simp [sites]
  | cons x steps ih =>
    cases i with
    | zero => rfl
    | succ i =>
      rw [List.take_succ_cons, sites, sites, List.take_succ_cons, ih]

theorem length_sites (s : Session κ σ) (steps : List (κ × Token)) :
    (s.sites a steps).length = steps.length := by
  induction steps generalizing s with
  | nil => rfl
  | cons x steps ih => rw [sites, List.length_cons, List.length_cons, ih]

theorem step_watched (s : Session κ σ) (k : κ) (t : Token) (before : List ObjectEvent) :
    ∃ events, (s.watched before).step a.watched k t
        = ((s.step a k t).1, (s.step a k t).2.watched (before ++ events)) ∧
      events.filterMap ObjectEvent.asked? = ObjectName.series s.ledger.names.issued
        (a.site? (s.contexts k) t s.ledger.world).toList ∧
      (s.step a k t).2.ledger.names.issued = s.ledger.names.issued
        + UInt32.ofNat (a.site? (s.contexts k) t s.ledger.world).toList.length := by
  obtain ⟨events, heq, hasked, hissued⟩ := a.apply_watched (s.contexts k) t s.ledger before
  refine ⟨events, ?_, hasked, hissued⟩
  unfold step watched
  dsimp only
  rw [heq]

theorem reduceOption_cons {α : Type} (o : Option α) (l : List (Option α)) :
    (o :: l).reduceOption = o.toList ++ l.reduceOption := by
  cases o with
  | none => rfl
  | some a => rfl

/-- A run of steps issues a name for each literal that there is an interface for, in order. -/
theorem run_watched (s : Session κ σ) (steps : List (κ × Token)) (before : List ObjectEvent) :
    ∃ events, (s.watched before).run a.watched steps
        = ((s.run a steps).1, (s.run a steps).2.watched (before ++ events)) ∧
      events.filterMap ObjectEvent.asked?
        = ObjectName.series s.ledger.names.issued (s.sites a steps).reduceOption ∧
      (s.run a steps).2.ledger.names.issued
        = s.ledger.names.issued + UInt32.ofNat (s.sites a steps).reduceOption.length := by
  induction steps generalizing s before with
  | nil => exact ⟨[], by rw [List.append_nil]; rfl, rfl, (UInt32.add_zero _).symm⟩
  | cons x steps ih =>
    obtain ⟨k, t⟩ := x
    obtain ⟨events, hstep, hasked, hissued⟩ := s.step_watched a k t before
    obtain ⟨rest, hrun, hrest, hcount⟩ := ih (s.step a k t).2 (before ++ events)
    refine ⟨events ++ rest, ?_, ?_, ?_⟩
    · rw [run, hstep]
      dsimp only
      rw [hrun, List.append_assoc]
      rfl
    · rw [List.filterMap_append, hasked, hrest, hissued, sites, reduceOption_cons,
        ObjectName.series_append]
    · show ((s.step a k t).2.run a steps).2.ledger.names.issued = _
      rw [hcount, hissued, sites, reduceOption_cons, List.length_append, UInt32.ofNat_add,
        UInt32.add_assoc]

/-- The names of a session that begins with any contexts, over facilities of any kind. Step by step
the names issued so far, those that objects were asked for under, are the interfaces of the
literals that had one, numbered from zero on; the dispatcher's count is theirs. As long as the
numbers last, no two of them are one text. -/
theorem naming (a : Assigner σ) (contexts : κ → Context) (w : σ) (steps : List (κ × Token)) :
    let start : Session κ σ := ⟨contexts, { world := w }⟩
    let watched (i : Nat) := (start.watched []).run a.watched (steps.take i)
    let plain (i : Nat) := start.run a (steps.take i)
    let issued (i : Nat) := (watched i).2.ledger.world.2.filterMap ObjectEvent.asked?
    let sites := start.sites a steps
    (issued steps.length).length < UInt32.size →
      (∀ i, (watched i).1 = (plain i).1 ∧ (watched i).2.contexts = (plain i).2.contexts ∧
        (watched i).2.ledger.world.1 = (plain i).2.ledger.world) ∧
      sites.length = steps.length ∧
      (∀ i, (issued i).map (·.text)
        = (sites.take i).reduceOption.mapIdx fun n iface => iface ++ "/addr" ++ toString n) ∧
      (∀ i, (plain i).2.ledger.names.issued.toNat = (issued i).length) ∧
      ((issued steps.length).map (·.text)).Nodup := by
  intro start watched plain issued sites hfew
  have hrun (i : Nat) : (watched i).1 = (plain i).1 ∧
      (watched i).2.contexts = (plain i).2.contexts ∧
      (watched i).2.ledger.world.1 = (plain i).2.ledger.world ∧
      issued i = ObjectName.series 0 (sites.take i).reduceOption ∧
      (plain i).2.ledger.names.issued = UInt32.ofNat (sites.take i).reduceOption.length := by
    obtain ⟨events, hwatched, hasked, hcount⟩ := start.run_watched a (steps.take i) []
    rw [sites_take, show start.ledger.names.issued = 0 from rfl] at hasked hcount
    rw [UInt32.zero_add] at hcount
    dsimp only [watched, issued]
    rw [hwatched]
    exact ⟨rfl, rfl, rfl, hasked, hcount⟩
  have hlength (i : Nat) : (sites.take i).reduceOption.length = (issued i).length := by
    rw [(hrun i).2.2.2.1, ObjectName.series, List.length_mapIdx]
  -- the names issued so far are no more than those issued in the end
  have hfits (i : Nat) : (issued i).length < UInt32.size := by
    refine Nat.lt_of_le_of_lt ?_ hfew
    rw [← hlength, ← hlength, ← length_sites a start steps, List.take_length]
    exact ((List.take_sublist i sites).filterMap id).length_le
  refine ⟨fun i => ⟨(hrun i).1, (hrun i).2.1, (hrun i).2.2.1⟩, length_sites a start steps, ?_, ?_, ?_⟩
  · intro i
    rw [(hrun i).2.2.2.1]
    exact ObjectName.map_text_series (Nat.le_of_lt (hlength i ▸ hfits i))
  · intro i
    rw [(hrun i).2.2.2.2, hlength, UInt32.toNat_ofNat_of_lt' (hfits i)]
  · rw [(hrun steps.length).2.2.2.1]
    exact ObjectName.nodup_map_text_series (Nat.le_of_lt (hlength steps.length ▸ hfits steps.length))

/-- Two passes, one of them over an interface that is called like an object of the other. The first
object cannot be created and the last address cannot be activated; between them stand an address
without an interface and a lease. -/
theorem naming_like_object :
    let r : Recorder := {
      failLogical := true, failCreate := ["net0/addr0"], failActivation := ["10.0.0.3/24"] }
    let start : Session (Fin 2) Journal :=
      ⟨fun k => { base := if k = 0 then "net0" else "net0/addr0" }, { world := [] }⟩
    let steps : List (Fin 2 × Token) :=
      [(0, .literal "10.0.0.2/24"), (0, .literal "fd00::2/64"), (0, .dhcp),
        (1, .literal "10.0.0.3/24"), (1, .addrconf)]
    let issued (i : Nat) := ((start.watched []).run (r.assigner 5).watched
      (steps.take i)).2.ledger.world.2.filterMap ObjectEvent.asked?
    (issued 5).map (·.text) = ["net0/addr0", "net0/addr0/addr1"] ∧
      (issued 5).length < UInt32.size ∧ ((issued 5).map (·.text)).Nodup := by
  intro r start steps issued
  have htexts : (issued 5).map (·.text) = ["net0/addr0", "net0/addr0/addr1"] := by decide +kernel
  have hfew : (issued 5).length < UInt32.size := by
    rw [← List.length_map (·.text), htexts]
    decide
  exact ⟨htexts, hfew, (naming (r.assigner 5) start.contexts [] steps hfew).2.2.2.2⟩

end Session

end ZoneNet
