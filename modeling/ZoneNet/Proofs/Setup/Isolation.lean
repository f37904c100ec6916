import Mathlib.Data.List.Forall2
import ZoneNet.Proofs.Facility.LogicalNames
import ZoneNet.Proofs.Setup.Accounts
import ZoneNet.Proofs.Setup.Lockstep

/-!
# Interfaces apart

An interface is set up in two runs of one recorder, between other interfaces each time. The runs are
in lockstep while it is set up: all that is left of the interfaces before it is the number of the
next address object.

* `lockstep` — a recorder is in lockstep with itself from journals that agree on a base.
* `configure_isolated` — one interface after two different beginnings.
* `isolation` — one interface in two runs.
-/

namespace ZoneNet

/-- The address object that a call names. -/
def Call.object? : Call → Option ObjectName
  | createObject name => some name
  | setAddress name _ => some name
  | activate name _ => some name
  | release name => some name
  | _ => none

/-- Two calls that are equal, except for the number of the address object that they name. -/
inductive Call.Shifted (k : UInt32) : Call → Call → Prop where
  | same {call : Call} (h : call.object? = none) : Shifted k call call
  | createObject (iface : String) (n : UInt32) :
      Shifted k (.createObject (.make iface n)) (.createObject (.make iface (n + k)))
  | setAddress (iface : String) (n : UInt32) (addr : String) :
      Shifted k (.setAddress (.make iface n) addr) (.setAddress (.make iface (n + k)) addr)
  | activate (iface : String) (n : UInt32) (addr : String) :
      Shifted k (.activate (.make iface n) addr) (.activate (.make iface (n + k)) addr)
  | release (iface : String) (n : UInt32) :
      Shifted k (.release (.make iface n)) (.release (.make iface (n + k)))

namespace Recorder

/-- Calls that are equal one by one, except for the numbers of address objects. -/
abbrev ShiftedCalls (k : UInt32) : List Call → List Call → Prop := List.Forall₂ (Call.Shifted k)

variable {k : UInt32}

theorem ShiftedCalls.logicalCount {calls calls' : List Call} (h : ShiftedCalls k calls calls')
    (base : String) (family : Family) :
    logicalCount base family calls = logicalCount base family calls' := by
  induction h with
  | nil => rfl
  | @cons call call' calls calls' hcall _ ih =>
    have hone : isLogicalOn base family call = isLogicalOn base family call' := by
      cases hcall <;> rfl
    unfold Recorder.logicalCount at ih ⊢
    rw [List.countP_cons, List.countP_cons, ih, hone]

/-- The messages hold no number of an object. -/
theorem ShiftedCalls.writes {calls calls' : List Call} (h : ShiftedCalls k calls calls') :
    writes calls = writes calls' := by
  induction h with
  | nil => rfl
  | cons hcall _ ih =>
    unfold Recorder.writes at ih ⊢
    rw [List.filterMap_cons, List.filterMap_cons, ih]
    cases hcall <;> rfl

/-- Two journals that have gone on alike since given points, and count alike on a base. -/
structure Aligned (k : UInt32) (base : String) (start start' j j' : Journal) : Prop where
  calls : ∃ calls calls', j = start ++ calls ∧ j' = start' ++ calls' ∧ ShiftedCalls k calls calls'
  counts : ∀ family, logicalCount base family j = logicalCount base family j'

variable {base : String} {start start' j j' : Journal}

theorem Aligned.append (h : Aligned k base start start' j j') {calls calls' : List Call}
    (hcalls : ShiftedCalls k calls calls') :
    Aligned k base start start' (j ++ calls) (j' ++ calls') := by
  refine ⟨?_, fun family => ?_⟩
  · obtain ⟨before, before', rfl, rfl, hbefore⟩ := h.calls
    exact ⟨before ++ calls, before' ++ calls', by simp, by simp, List.rel_append hbefore hcalls⟩
  · rw [logicalCount_append, logicalCount_append, h.counts, hcalls.logicalCount]

/-- A call that names no object is made alike. -/
theorem Aligned.record (h : Aligned k base start start' j j') {call : Call}
    (hcall : call.object? = none) :
    Aligned k base start start' (record call j) (record call j') :=
  h.append (.cons (.same hcall) .nil)

variable (r : Recorder) (zone : Bool) (timeout : UInt64)

theorem hold_aligned (hcreate : r.failCreate = []) (h : Aligned k base start start' j j')
    (iface addr : String) (n : UInt32) :
    Outcome.Agree (fun _ _ => True) (Aligned k base start start')
      ((r.assigner timeout).hold iface addr (.make iface n) j)
      ((r.assigner timeout).hold iface addr (.make iface (n + k)) j') := by
  have hset : ShiftedCalls k [.setAddress (.make iface n) addr]
      [.setAddress (.make iface (n + k)) addr] := .cons (.setAddress iface n addr) .nil
  have hrelease : ShiftedCalls k [.release (.make iface n)] [.release (.make iface (n + k))] :=
    .cons (.release iface n) .nil
  have h' := h.append (.cons (.createObject iface n) .nil)
  rw [hold_eq, hold_eq, if_neg (by simp [hcreate]), if_neg (by simp [hcreate]), fillObject_eq,
    fillObject_eq]
  by_cases hrejected : addr ∈ r.rejected
  · rw [if_pos hrejected, if_pos hrejected]
    exact .error (h'.append (List.rel_append hset hrelease))
  · rw [if_neg hrejected, if_neg hrejected]
    by_cases hinactive : addr ∈ r.failActivation
    · rw [if_pos hinactive, if_pos hinactive]
      exact .error (h'.append (List.rel_append hset hrelease))
    · rw [if_neg hinactive, if_neg hinactive]
      exact .ok trivial (h'.append (.cons (.setAddress iface n addr)
        (.cons (.activate iface n addr) hrelease)))

/-- A recorder goes the same way from two journals that count alike on the base. -/
theorem lockstep (hcreate : r.failCreate = []) :
    (r.setup zone timeout).Lockstep (r.setup zone timeout) base k (Aligned k base start start') where
  ipv6 := rfl
  plumb := by
    intro family s t h
    show Outcome.Agree _ _ (r.plumb base family s) (r.plumb base family t)
    unfold plumb
    split
    · exact .error h
    · exact .ok trivial (h.record rfl)
  linkLocal := by
    intro s t h
    show Outcome.Agree _ _ (r.bringUpLinkLocal base s) (r.bringUpLinkLocal base t)
    unfold bringUpLinkLocal
    split
    · exact .error (h.record rfl)
    · exact .ok trivial (h.record rfl)
  addLogical := by
    intro family s t h
    show Outcome.Agree _ _ (r.addLogical base family s) (r.addLogical base family t)
    unfold addLogical
    split
    · exact .error h
    · dsimp only
      rw [h.counts family]
      exact .ok rfl (h.record rfl)
  hold iface addr n s t h := r.hold_aligned timeout hcreate h iface addr n
  ensureRunning := by
    intro s t h
    show Outcome.Agree _ _ (r.ensureRunning timeout s) (r.ensureRunning timeout t)
    unfold ensureRunning
    split
    · exact .error (h.record rfl)
    · exact .ok trivial (h.record rfl)
  startLease := by
    intro iface s t h
    show Outcome.Agree _ _ (r.startLease iface timeout s) (r.startLease iface timeout t)
    unfold startLease
    split
    · exact .ok rfl (h.record rfl)
    · exact .ok rfl (h.record rfl)
    · exact .ok rfl (h.record rfl)
    · exact .error (h.record rfl)
  processId := rfl
  interfaceIndex := rfl
  send := by
    intro message s t h
    show Outcome.Agree _ _ (r.send message s) (r.send message t)
    unfold send
    split
    · exact .error h
    · exact .ok rfl (h.record rfl)
  tell _ _ _ _ _ h := h

/-! ## What is left of other interfaces -/

/-- Calls that hand out nothing on a base leave its counts. -/
theorem logicalCount_append_of_all {calls : List Call} {n : Family → Nat}
    (h : ∀ family, logicalCount base family j = n family)
    (hcalls : ∀ family, calls.all (!isLogicalOn base family ·) = true) (family : Family) :
    logicalCount base family (j ++ calls) = n family := by
  have hnone : logicalCount base family calls = 0 := by
    rw [logicalCount, List.countP_eq_zero]
    intro call hmem
    simpa using List.all_eq_true.1 (hcalls family) call hmem
  rw [logicalCount_append, h, hnone, Nat.add_zero]

/-- Setting up an interface hands out logical interfaces on that interface alone. -/
theorem keeps_logicalCount {other : String} (hother : other ≠ base) (n : Family → Nat) :
    (r.setup zone timeout).Keeps other fun j => ∀ family, logicalCount base family j = n family where
  plumb := by
    intro family j h
    show ∀ f, logicalCount base f (r.plumb other family j).2 = _
    unfold plumb
    split
    · exact h
    · exact logicalCount_append_of_all h fun _ => rfl
  linkLocal := by
    intro j h
    exact logicalCount_append_of_all h fun _ => rfl
  addLogical := by
    intro family j h
    show ∀ f, logicalCount base f (r.addLogical other family j).2 = _
    unfold addLogical
    split
    · exact h
    · exact logicalCount_append_of_all h fun _ => by simp [isLogicalOn, hother]
  hold := by
    intro iface addr name j h
    show ∀ f, logicalCount base f ((r.assigner timeout).hold iface addr name j).2 = _
    have hcreated : ∀ family, logicalCount base family (j ++ [.createObject name]) = n family :=
      logicalCount_append_of_all h fun _ => rfl
    rw [hold_eq]
    split
    · exact h
    · rw [fillObject_eq]
      split
      · exact logicalCount_append_of_all hcreated fun _ => rfl
      · split
        · exact logicalCount_append_of_all hcreated fun _ => rfl
        · exact logicalCount_append_of_all hcreated fun _ => rfl
  ensureRunning := by
    intro j h
    exact logicalCount_append_of_all h fun _ => rfl
  startLease := by
    intro iface j h
    exact logicalCount_append_of_all h fun _ => rfl
  send := by
    intro message j h
    show ∀ f, logicalCount base f (r.send message j).2 = _
    unfold send
    split
    · exact h
    · exact logicalCount_append_of_all h fun _ => rfl
  tell _ _ h := h

variable {r zone timeout}

/-- Interfaces of other names leave the counts of a base, whatever comes of them. -/
theorem each_logicalCount {nets : List Net} (hnets : ∀ net ∈ nets, net.physical ≠ base)
    {n : Family → Nat} {p : Progress Journal}
    (h : ∀ family, logicalCount base family p.ledger.world = n family) (family : Family) :
    logicalCount base family
      (Outcome.each (r.setup zone timeout).configure nets p).2.ledger.world = n family := by
  induction nets generalizing p with
  | nil => exact h family
  | cons net nets ih =>
    obtain ⟨hnet, hrest⟩ := List.forall_mem_cons.1 hnets
    have hfirst := (r.keeps_logicalCount zone timeout hnet n).configure rfl h
    rw [Outcome.each_cons]
    generalize (r.setup zone timeout).configure net p = o at hfirst
    obtain ⟨_ | _, p'⟩ := o
    · exact hfirst family
    · exact ih hrest hfirst

/-- Two beginnings without an interface count alike on it. -/
theorem reach_logicalCount {nets nets' : List Net} (hnets : ∀ net ∈ nets, net.physical ≠ base)
    (hnets' : ∀ net ∈ nets', net.physical ≠ base) {p p' : Progress Journal} {j : Journal}
    (h : (r.setup zone timeout).reach nets j = (.ok (), p))
    (h' : (r.setup zone timeout).reach nets' j = (.ok (), p')) (family : Family) :
    logicalCount base family p.ledger.world = logicalCount base family p'.ledger.world := by
  unfold Setup.reach at h h'
  -- both begin with the loopback interface, which goes one way
  generalize (r.setup zone timeout).loopback (.start j) = o at h h'
  obtain ⟨_ | _, q⟩ := o
  · cases h
  · rw [Outcome.andThen_ok] at h h'
    have hcount : logicalCount base family
        (Outcome.each (r.setup zone timeout).configure nets q).2.ledger.world
          = logicalCount base family q.ledger.world := each_logicalCount hnets (fun _ => rfl) family
    have hcount' : logicalCount base family
        (Outcome.each (r.setup zone timeout).configure nets' q).2.ledger.world
          = logicalCount base family q.ledger.world := each_logicalCount hnets' (fun _ => rfl) family
    rw [h] at hcount
    rw [h'] at hcount'
    rw [hcount, hcount']

/-! ## One interface in two runs -/

/-- After two beginnings without it an interface is set up alike: with one result, one list of
warnings, and calls that differ by one offset. -/
theorem configure_isolated (hcreate : r.failCreate = []) {nets nets' : List Net} {c : Net}
    (hnets : ∀ net ∈ nets, net.physical ≠ c.physical)
    (hnets' : ∀ net ∈ nets', net.physical ≠ c.physical) {p p' : Progress Journal} {j : Journal}
    (h : (r.setup zone timeout).reach nets j = (.ok (), p))
    (h' : (r.setup zone timeout).reach nets' j = (.ok (), p')) :
    ∃ result q q' calls calls' warned,
      (r.setup zone timeout).configure c p = (result, q) ∧
      (r.setup zone timeout).configure c p' = (result, q') ∧
      q.ledger.world = p.ledger.world ++ calls ∧ q'.ledger.world = p'.ledger.world ++ calls' ∧
      ShiftedCalls (p'.ledger.names.issued - p.ledger.names.issued) calls calls' ∧
      q.warnings = p.warnings ++ warned ∧ q'.warnings = p'.warnings ++ warned := by
  have haligned : Aligned (p'.ledger.names.issued - p.ledger.names.issued) c.physical
      p.ledger.world p'.ledger.world p.ledger.world p'.ledger.world :=
    ⟨⟨[], [], by simp, by simp, .nil⟩, reach_logicalCount hnets hnets' h h'⟩
  have htogether : Setup.Lockstep.Together _ _ p.warnings p'.warnings p p' :=
    ⟨⟨haligned, by rw [UInt32.add_comm, UInt32.sub_add_cancel]⟩, [], by simp, by simp⟩
  have hagree := (r.lockstep zone timeout hcreate).configure rfl htogether
  generalize (r.setup zone timeout).configure c p = o at hagree
  generalize (r.setup zone timeout).configure c p' = o' at hagree
  cases hagree with
  | ok _ hstate =>
    obtain ⟨calls, calls', hcalls, hcalls', hshifted⟩ := hstate.ledgers.world.calls
    obtain ⟨warned, hwarned, hwarned'⟩ := hstate.warnings
    exact ⟨_, _, _, calls, calls', warned, rfl, rfl, hcalls, hcalls', hshifted, hwarned, hwarned'⟩
  | error hstate =>
    obtain ⟨calls, calls', hcalls, hcalls', hshifted⟩ := hstate.ledgers.world.calls
    obtain ⟨warned, hwarned, hwarned'⟩ := hstate.warnings
    exact ⟨_, _, _, calls, calls', warned, rfl, rfl, hcalls, hcalls', hshifted, hwarned, hwarned'⟩

end Recorder

/-- The calls and the warnings that a run adds while one of its interfaces is set up. -/
def Setup.Adds (u : Setup Journal) (before : List Net) (c : Net) (after : List Net)
    (calls : List Call) (warned : List SetupWarning) : Prop :=
  ∃ p q, u.reach before [] = (.ok (), p) ∧ u.configure c p = (.ok (), q) ∧
    u.run (before ++ [c] ++ after) []
      = (Outcome.each u.configure after q).andThen (fun _ p => u.finish p) ∧
    q.ledger.world = p.ledger.world ++ calls ∧ q.warnings = p.warnings ++ warned

namespace Recorder

variable {r : Recorder} {zone : Bool} {timeout : UInt64}

/-- A run that succeeds has set up what comes before an interface, and then the interface. -/
theorem exists_configured {before after : List Net} {c : Net} {report : SetupReport}
    (h : ((r.setup zone timeout).run (before ++ [c] ++ after) []).1 = .ok report) :
    ∃ p q, (r.setup zone timeout).reach before [] = (.ok (), p) ∧
      (r.setup zone timeout).configure c p = (.ok (), q) ∧
      (r.setup zone timeout).run (before ++ [c] ++ after) []
        = (Outcome.each (r.setup zone timeout).configure after q).andThen
          (fun _ p => (r.setup zone timeout).finish p) := by
  rw [Setup.run_eq, List.append_assoc, Setup.reach_append] at h ⊢
  generalize (r.setup zone timeout).reach before [] = o at h ⊢
  obtain ⟨_ | _, p⟩ := o
  · cases h
  · rw [Outcome.andThen_ok, List.singleton_append, Outcome.each_cons] at h ⊢
    rcases hconfigure : (r.setup zone timeout).configure c p with ⟨_ | _, q⟩
    · rw [hconfigure] at h
      cases h
    · exact ⟨p, q, rfl, hconfigure, rfl⟩

/-- An interface in two runs of one recorder that succeed, behind interfaces of other names. The
calls made for it are the same one by one, except that the numbers of address objects differ by one
offset; its warnings and its messages to the routing channel are the same. The recorder creates
every object: which one it does not is told by a name, and so by a number. -/
theorem isolation (hcreate : r.failCreate = []) {before after before' after' : List Net} {c : Net}
    (hbefore : ∀ net ∈ before, net.physical ≠ c.physical)
    (hbefore' : ∀ net ∈ before', net.physical ≠ c.physical) {report report' : SetupReport}
    (h : ((r.setup zone timeout).run (before ++ [c] ++ after) []).1 = .ok report)
    (h' : ((r.setup zone timeout).run (before' ++ [c] ++ after') []).1 = .ok report') :
    ∃ k calls calls' warned, (r.setup zone timeout).Adds before c after calls warned ∧
      (r.setup zone timeout).Adds before' c after' calls' warned ∧
      ShiftedCalls k calls calls' ∧ writes calls = writes calls' := by
  obtain ⟨p, q, hreach, hconfigure, hrun⟩ := exists_configured h
  obtain ⟨p', q', hreach', hconfigure', hrun'⟩ := exists_configured h'
  obtain ⟨result, _, _, calls, calls', warned, heq, heq', hcalls, hcalls', hshifted, hwarned, hwarned'⟩ :=
    configure_isolated hcreate hbefore hbefore' hreach hreach'
  obtain ⟨rfl, rfl⟩ := Prod.mk.inj (hconfigure.symm.trans heq)
  obtain ⟨-, rfl⟩ := Prod.mk.inj (hconfigure'.symm.trans heq')
  exact ⟨_, calls, calls', warned, ⟨p, q, hreach, hconfigure, hrun, hcalls, hwarned⟩,
    ⟨p', q', hreach', hconfigure', hrun', hcalls', hwarned'⟩, hshifted, hshifted.writes⟩

/-- An interface with a lease, a literal that is rejected and a default route, alone in one run and
after another interface in the other. -/
theorem isolation_behind :
    let r : Recorder := { indexes := [("net1", 3)], rejected := ["10.1.0.3/24"] }
    let first : Net := { physical := "net0", attrs := [⟨"ips", "10.0.0.2/24,10.0.0.3/24"⟩] }
    let c : Net := {
      physical := "net1", defaultRouter := some "10.1.0.1"
      attrs := [⟨"ips", "10.1.0.2/24,10.1.0.3/24,dhcp"⟩] }
    let warned : List SetupWarning := [.address "net1" "10.1.0.3/24"
      (.apply "net1:2" "10.1.0.3/24" .setValue (.rejected "set address" "invalid address"))]
    (((r.setup false 5).run ([] ++ [c] ++ []) []).1 = .ok ⟨["lo0", "net1"], warned, false, 3⟩ ∧
      ((r.setup false 5).run ([first] ++ [c] ++ []) []).1
        = .ok ⟨["lo0", "net0", "net1"], warned, false, 5⟩) ∧
    ∃ k calls calls' warned, (r.setup false 5).Adds [] c [] calls warned ∧
      (r.setup false 5).Adds [first] c [] calls' warned ∧
      ShiftedCalls k calls calls' ∧ writes calls = writes calls' := by
  intro r first c warned
  have hok {ε α : Type} {o : Except ε α} {a : α} (h : o.toOption = some a) : o = .ok a := by
    cases o with
    | ok b => exact congrArg Except.ok (Option.some.inj h)
    | error e => cases h
  have hrun : ((r.setup false 5).run ([] ++ [c] ++ []) []).1
      = .ok ⟨["lo0", "net1"], warned, false, 3⟩ := hok (by decide +kernel)
  have hrun' : ((r.setup false 5).run ([first] ++ [c] ++ []) []).1
      = .ok ⟨["lo0", "net0", "net1"], warned, false, 5⟩ := hok (by decide +kernel)
  exact ⟨⟨hrun, hrun'⟩, isolation rfl (by simp) (by simp [first, c]) hrun hrun'⟩

end Recorder

end ZoneNet
