import ZoneNet.Facility.Recorder
import ZoneNet.Proofs.Address.Steps

/-!
# What a recorder writes for a step of assignment

A recorder answers by its settings and its journal alone, so each way in which a token can go has
its guard and its entries in the journal.

* `exists_writes` — the journal grows by the entries of the way that the token went.
-/

namespace ZoneNet

/-- A ledger after a token: the journal with its entries, and what was spent or asked for. -/
def Ledger.after (l : Ledger Journal) (t : Token) (result : Except AssignError Applied)
    (calls : List Call) : Ledger Journal where
  world := l.world ++ calls
  names := ⟨l.names.issued + if t.spends result then 1 else 0⟩
  addrconf := l.addrconf || decide (t = .addrconf)

namespace Recorder

/-- The assigner over a recorder. -/
def assigner (r : Recorder) (timeout : UInt64) : Assigner Journal := ⟨r.addresses, r.leases, timeout⟩

/-- The name of the next logical interface on a base for a family. -/
def nextLogical (base : String) (family : Family) (j : Journal) : String :=
  logicalName base (logicalCount base family j + 1)

/-- Where an address is placed, and the entries for that. -/
inductive Places (r : Recorder) (c : Context) (family : Family) (j : Journal) :
    String → List Call → Prop where
  | base (hfamily : family = .v4) (hfree : c.occupied = false) : Places r c family j c.base []
  | logical (hn : ¬(family = .v4 ∧ c.occupied = false)) (hlogical : r.failLogical = false) :
      Places r c family j (nextLogical c.base family j)
        [.addLogical c.base family (nextLogical c.base family j)]

/-- Why the recorded agent starts no lease, if it does not. -/
def leaseCause (r : Recorder) (timeout : UInt64) (iface : String) : Option FacilityError :=
  match r.lease with
  | .lease | .agentDown => none
  | .timeout => some (.timeout ("DHCP start on " ++ iface) timeout)
  | .code n =>
    if n = 0 then none
    else some (.rejected "DHCP start" ("return code " ++ toString n ++ ": " ++ "operation failed"))

/-- The ways in which a token can go over a recorder, with their guards and their entries. -/
inductive Writes (r : Recorder) (timeout : UInt64) (c : Context) (l : Ledger Journal) :
    Token → Except AssignError Applied → List Call → Prop where
  | noted : Writes r timeout c l .addrconf (.ok .addrconf) []
  | unplaced {t : Token} {family : Family} (hfamily : t.family? = some family)
      (hn : ¬(family = .v4 ∧ c.occupied = false)) (hlogical : r.failLogical = true) :
      Writes r timeout c l t
        (.error (.alloc ⟨c.base, family, .rejected "SIOCLIFADDIF" "no buffer space available"⟩)) []
  | agentless {iface : String} {placing : List Call} (hp : r.Places c .v4 l.world iface placing)
      (hdown : r.lease = .agentDown) :
      Writes r timeout c l .dhcp (.error (.agent (.timeout "start dhcpagent" timeout)))
        (placing ++ [.ensureAgent])
  | unleased {iface : String} {placing : List Call} {cause : FacilityError}
      (hp : r.Places c .v4 l.world iface placing) (hup : r.lease ≠ .agentDown)
      (hcause : r.leaseCause timeout iface = some cause) :
      Writes r timeout c l .dhcp (.error (.lease iface cause))
        (placing ++ [.ensureAgent, .startLease iface])
  | leased {iface : String} {placing : List Call} (hp : r.Places c .v4 l.world iface placing)
      (hup : r.lease ≠ .agentDown) (hcause : r.leaseCause timeout iface = none) :
      Writes r timeout c l .dhcp (.ok (.lease iface)) (placing ++ [.ensureAgent, .startLease iface])
  | uncreated {addr iface : String} {placing : List Call} {name : ObjectName}
      (hp : r.Places c (Family.ofLiteral addr) l.world iface placing)
      (hname : name = .make iface l.names.issued) (hcreate : name.text ∈ r.failCreate) :
      Writes r timeout c l (.literal addr)
        (.error (.apply iface addr .createObject (.rejected "create object" "out of handles")))
        placing
  | unset {addr iface : String} {placing : List Call} {name : ObjectName}
      (hp : r.Places c (Family.ofLiteral addr) l.world iface placing)
      (hname : name = .make iface l.names.issued) (hcreate : name.text ∉ r.failCreate)
      (hset : addr ∈ r.rejected) :
      Writes r timeout c l (.literal addr)
        (.error (.apply iface addr .setValue (.rejected "set address" "invalid address")))
        (placing ++ [.createObject name, .setAddress name addr, .release name])
  | inactive {addr iface : String} {placing : List Call} {name : ObjectName}
      (hp : r.Places c (Family.ofLiteral addr) l.world iface placing)
      (hname : name = .make iface l.names.issued) (hcreate : name.text ∉ r.failCreate)
      (hset : addr ∉ r.rejected) (hactivate : addr ∈ r.failActivation) :
      Writes r timeout c l (.literal addr)
        (.error (.apply iface addr .activate (.rejected "create address" "address already in use")))
        (placing ++ [.createObject name, .setAddress name addr, .release name])
  | activated {addr iface : String} {placing : List Call} {name : ObjectName}
      (hp : r.Places c (Family.ofLiteral addr) l.world iface placing)
      (hname : name = .make iface l.names.issued) (hcreate : name.text ∉ r.failCreate)
      (hset : addr ∉ r.rejected) (hactivate : addr ∉ r.failActivation) :
      Writes r timeout c l (.literal addr) (.ok (.address iface name))
        (placing ++ [.createObject name, .setAddress name addr, .activate name addr, .release name])

/-! ## The operations of a recorder -/

variable {r : Recorder}

/-- A recorder places an address or has no logical interface for it. -/
theorem target_eq {c : Context} {family : Family} {j s : Journal} {o : Except AllocError String}
    (h : target r.addresses c family j = (o, s)) :
    (∃ iface placing, o = .ok iface ∧ s = j ++ placing ∧ r.Places c family j iface placing) ∨
      ¬(family = .v4 ∧ c.occupied = false) ∧ r.failLogical = true ∧ s = j ∧
        o = .error ⟨c.base, family, .rejected "SIOCLIFADDIF" "no buffer space available"⟩ := by
  unfold target at h
  by_cases hbase : family = .v4 ∧ c.occupied = false
  · rw [if_pos hbase] at h
    obtain ⟨rfl, rfl⟩ := Prod.mk.inj h
    exact Or.inl ⟨_, [], rfl, by simp, .base hbase.1 hbase.2⟩
  · rw [if_neg hbase] at h
    by_cases hlogical : r.failLogical = true
    · simp only [addresses, addLogical, if_pos hlogical, Outcome.mapError_error] at h
      obtain ⟨rfl, rfl⟩ := Prod.mk.inj h
      exact Or.inr ⟨hbase, hlogical, rfl, rfl⟩
    · simp only [addresses, addLogical, if_neg hlogical, Outcome.mapError_ok] at h
      obtain ⟨rfl, rfl⟩ := Prod.mk.inj h
      exact Or.inl ⟨_, _, rfl, rfl, .logical hbase (Bool.eq_false_iff.2 hlogical)⟩

theorem target_ok {c : Context} {family : Family} {j s : Journal} {iface : String}
    (h : target r.addresses c family j = (.ok iface, s)) :
    ∃ placing, s = j ++ placing ∧ r.Places c family j iface placing := by
  rcases target_eq h with ⟨_, placing, ho, hs, hp⟩ | ⟨_, _, _, ho⟩
  · cases ho
    exact ⟨placing, hs, hp⟩
  · cases ho

/-- Whether an object is filled is decided by the two lists of failing texts. -/
theorem fillObject_eq (timeout : UInt64) (iface addr : String) (name : ObjectName) (j : Journal) :
    (r.assigner timeout).fillObject iface addr (.fresh name) j =
      if addr ∈ r.rejected then
        (.error (.apply iface addr .setValue (.rejected "set address" "invalid address")),
          j ++ [.setAddress name addr, .release name])
      else if addr ∈ r.failActivation then
        (.error (.apply iface addr .activate (.rejected "create address" "address already in use")),
          j ++ [.setAddress name addr, .release name])
      else (.ok (), j ++ [.setAddress name addr, .activate name addr, .release name]) := by
  by_cases hset : addr ∈ r.rejected
  · simp [Assigner.fillObject, assigner, addresses, setAddress, release, record,
      AddressObject.fresh, hset]
  · by_cases hactivate : addr ∈ r.failActivation <;>
      simp [Assigner.fillObject, assigner, addresses, setAddress, activate, release, record,
        AddressObject.fresh, hset, hactivate]

/-- Whether there is an object to fill is decided by its name. -/
theorem hold_eq (timeout : UInt64) (iface addr : String) (name : ObjectName) (j : Journal) :
    (r.assigner timeout).hold iface addr name j =
      if name.text ∈ r.failCreate then
        (.error (.apply iface addr .createObject (.rejected "create object" "out of handles")), j)
      else (r.assigner timeout).fillObject iface addr (.fresh name) (j ++ [.createObject name]) := by
  unfold Assigner.hold
  rw [show (r.assigner timeout).addresses.createObject name j = r.createObject name j from rfl]
  unfold createObject
  by_cases hname : name.text ∈ r.failCreate
  · rw [if_pos hname, if_pos hname]
  · rw [if_neg hname, if_neg hname]
    rfl

theorem createObject_error {name : ObjectName} {j s : Journal} {e : FacilityError}
    (h : r.createObject name j = (.error e, s)) :
    name.text ∈ r.failCreate ∧ e = .rejected "create object" "out of handles" ∧ s = j := by
  unfold createObject at h
  by_cases hname : name.text ∈ r.failCreate
  · rw [if_pos hname] at h
    cases h
    exact ⟨hname, rfl, rfl⟩
  · rw [if_neg hname] at h
    cases h

theorem createObject_ok {name : ObjectName} {j s : Journal} {obj : AddressObject}
    (h : r.createObject name j = (.ok obj, s)) :
    name.text ∉ r.failCreate ∧ obj = .fresh name ∧ s = j ++ [.createObject name] := by
  unfold createObject at h
  by_cases hname : name.text ∈ r.failCreate
  · rw [if_pos hname] at h
    cases h
  · rw [if_neg hname] at h
    cases h
    exact ⟨hname, rfl, rfl⟩

/-- The agent answers by its setting, and is recorded whatever it answers. -/
theorem ensureRunning_eq {timeout : UInt64} {j s : Journal} {o : Except FacilityError Unit}
    (h : r.ensureRunning timeout j = (o, s)) :
    s = j ++ [.ensureAgent] ∧
      (r.lease = .agentDown ∧ o = .error (.timeout "start dhcpagent" timeout) ∨
        r.lease ≠ .agentDown ∧ o = .ok ()) := by
  unfold ensureRunning at h
  by_cases hdown : r.lease = .agentDown
  · rw [if_pos hdown] at h
    obtain ⟨rfl, rfl⟩ := Prod.mk.inj h
    exact ⟨rfl, Or.inl ⟨hdown, rfl⟩⟩
  · rw [if_neg hdown] at h
    obtain ⟨rfl, rfl⟩ := Prod.mk.inj h
    exact ⟨rfl, Or.inr ⟨hdown, rfl⟩⟩

/-- An agent that runs answers a request by its setting; the request is recorded. -/
theorem startLease_eq {timeout : UInt64} {iface : String} {j s : Journal}
    {o : Except FacilityError LeaseReply} (h : r.startLease iface timeout j = (o, s)) :
    s = j ++ [.startLease iface] ∧
      ((∃ reply, o = .ok reply ∧ reply.code = 0 ∧ r.leaseCause timeout iface = none) ∨
        (∃ reply, o = .ok reply ∧ reply.code ≠ 0 ∧ r.leaseCause timeout iface = some
          (.rejected "DHCP start" ("return code " ++ toString reply.code ++ ": " ++ reply.message))) ∨
        ∃ e, o = .error e ∧ r.leaseCause timeout iface = some e) := by
  obtain ⟨rfl, rfl⟩ := Prod.mk.inj h
  refine ⟨rfl, ?_⟩
  unfold leaseCause
  cases r.lease with
  | lease => exact Or.inl ⟨_, rfl, rfl, rfl⟩
  | agentDown => exact Or.inl ⟨_, rfl, rfl, rfl⟩
  | timeout => exact Or.inr (Or.inr ⟨_, rfl, rfl⟩)
  | code n =>
    by_cases hn : n = 0
    · exact Or.inl ⟨_, rfl, hn, if_pos hn⟩
    · exact Or.inr (Or.inl ⟨_, rfl, hn, if_neg hn⟩)

/-! ## One token -/

variable (r)

/-- Every token goes one of the ways there are, and the ledger afterwards is told by the way. -/
theorem exists_writes (timeout : UInt64) (c : Context) (t : Token) (l : Ledger Journal) :
    ∃ result calls, r.Writes timeout c l t result calls ∧
      (r.assigner timeout).apply c t l = (result, c.after t result, l.after t result calls) := by
  obtain ⟨result, l', hdoes, happly⟩ := (r.assigner timeout).exists_does c t l
  suffices h : ∃ calls, r.Writes timeout c l t result calls ∧ l'.world = l.world ++ calls by
    obtain ⟨calls, hwrites, hworld⟩ := h
    refine ⟨result, calls, hwrites, ?_⟩
    rw [happly, Ledger.after, ← hworld, ← hdoes.names, ← hdoes.addrconf]
  -- each answer of a facility gives its guard and its entry
  cases hdoes with
  | noted => exact ⟨[], .noted, by simp⟩
  | unplaced hfamily htarget =>
    rcases target_eq htarget with ⟨_, _, ho, _, _⟩ | ⟨hn, hlogical, rfl, ho⟩
    · cases ho
    · cases ho
      exact ⟨[], .unplaced hfamily hn hlogical, by simp⟩
  | agentless htarget hagent =>
    obtain ⟨placing, rfl, hp⟩ := target_ok htarget
    obtain ⟨rfl, ⟨hdown, ho⟩ | ⟨_, ho⟩⟩ := ensureRunning_eq hagent
    · cases ho
      exact ⟨_, .agentless hp hdown, List.append_assoc _ _ _⟩
    · cases ho
  | unanswered htarget hagent hlease =>
    obtain ⟨placing, rfl, hp⟩ := target_ok htarget
    obtain ⟨rfl, ⟨_, ho⟩ | ⟨hup, _⟩⟩ := ensureRunning_eq hagent
    · cases ho
    · obtain ⟨rfl, ⟨_, ho, _⟩ | ⟨_, ho, _⟩ | ⟨_, ho, hcause⟩⟩ := startLease_eq hlease
      · cases ho
      · cases ho
      · cases ho
        exact ⟨_, .unleased hp hup hcause, by simp⟩
  | refused htarget hagent hlease hcode =>
    obtain ⟨placing, rfl, hp⟩ := target_ok htarget
    obtain ⟨rfl, ⟨_, ho⟩ | ⟨hup, _⟩⟩ := ensureRunning_eq hagent
    · cases ho
    · obtain ⟨rfl, ⟨_, ho, hzero, _⟩ | ⟨_, ho, _, hcause⟩ | ⟨_, ho, _⟩⟩ := startLease_eq hlease
      · cases ho
        exact absurd hzero hcode
      · cases ho
        exact ⟨_, .unleased hp hup hcause, by simp⟩
      · cases ho
  | leased htarget hagent hlease hcode =>
    obtain ⟨placing, rfl, hp⟩ := target_ok htarget
    obtain ⟨rfl, ⟨_, ho⟩ | ⟨hup, _⟩⟩ := ensureRunning_eq hagent
    · cases ho
    · obtain ⟨rfl, ⟨_, ho, _, hcause⟩ | ⟨_, ho, hne, _⟩ | ⟨_, ho, _⟩⟩ := startLease_eq hlease
      · cases ho
        exact ⟨_, .leased hp hup hcause, by simp⟩
      · cases ho
        exact absurd hcode hne
      · cases ho
  | uncreated htarget hcreate =>
    obtain ⟨placing, rfl, hp⟩ := target_ok htarget
    obtain ⟨hname, rfl, rfl⟩ := createObject_error hcreate
    exact ⟨_, .uncreated hp rfl hname, rfl⟩
  | @filled addr iface _ _ _ _ _ htarget hcreate hfill =>
    obtain ⟨placing, rfl, hp⟩ := target_ok htarget
    obtain ⟨hname, rfl, rfl⟩ := createObject_ok hcreate
    rw [fillObject_eq] at hfill
    by_cases hset : addr ∈ r.rejected
    · rw [if_pos hset] at hfill
      cases hfill
      exact ⟨_, .unset hp rfl hname hset, by simp⟩
    · rw [if_neg hset] at hfill
      by_cases hactivate : addr ∈ r.failActivation
      · rw [if_pos hactivate] at hfill
        cases hfill
        exact ⟨_, .inactive hp rfl hname hset hactivate, by simp⟩
      · rw [if_neg hactivate] at hfill
        cases hfill
        exact ⟨_, .activated hp rfl hname hset hactivate, by simp⟩

end Recorder

end ZoneNet
