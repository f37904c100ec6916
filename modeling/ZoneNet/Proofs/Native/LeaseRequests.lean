import ZoneNet.Proofs.Native.LiteralCommands
import ZoneNet.Proofs.Text.Stretches

/-!
# Requests for leases through the native tools

Two programs have a part in a lease: the agent, which is to be started first, and the tool that asks
it. Each can fail in three ways: it is not started, it does not end in time, or it ends badly. An
agent that ends badly because another one runs already has not failed; it says so in bytes that are
looked for in the text of its two outputs.

* `occursIn_combinedText` — the marker is in the text just when its bytes are in one of the outputs.
* `ensureRunning_eq_error_iff`, `leaseFault_iff` — when each of the two fails, and over what.
* `startLease_outcome` — what a request for a lease comes to, whatever the two programs do.
* `startLease_outcome_forever` — the one bound that cannot be told breaks the process off.
-/

namespace ZoneNet

open Text World

theorem Ending.code_eq_zero_iff {e : Ending} : e.code = 0 ↔ e = .exited 0 := by
  cases e with
  | exited n => simp [code]
  | killed signal => simp [code]

/-- Why there is no lease, by the answer to the request for it. -/
def leaseFailure? : Except FacilityError LeaseReply → Option FacilityError
  | .error e => some e
  | .ok reply =>
    if reply.code = 0 then none
    else some (.rejected "DHCP start"
      ("return code " ++ toString reply.code ++ ": " ++ reply.message))

namespace Assigner

variable {σ : Type} (a : Assigner σ) {c : Context} {l : Ledger σ} {iface : String} {s s' : σ}

/-- Without the agent nothing is asked for. -/
theorem apply_dhcp_of_agentless {e : FacilityError}
    (htarget : target a.addresses c .v4 l.world = (.ok iface, s))
    (hagent : a.leases.ensureRunning a.timeout s = (.error e, s')) :
    a.apply c .dhcp l = (.error (.agent e), c, { l with world := s' }) := by
  unfold apply startLease
  rw [htarget]
  dsimp only
  rw [hagent]
  rfl

/-- With the agent the answer to the request decides. -/
theorem apply_dhcp_of_ready (htarget : target a.addresses c .v4 l.world = (.ok iface, s))
    (hagent : a.leases.ensureRunning a.timeout s = (.ok (), s')) :
    a.apply c .dhcp l =
      match leaseFailure? (a.leases.startLease iface a.timeout s').1 with
      | some cause =>
        (.error (.lease iface cause), c,
          { l with world := (a.leases.startLease iface a.timeout s').2 })
      | none =>
        (.ok (.lease iface), c.occupy,
          { l with world := (a.leases.startLease iface a.timeout s').2 }) := by
  unfold apply startLease
  rw [htarget]
  dsimp only
  rw [hagent]
  dsimp only
  rcases a.leases.startLease iface a.timeout s' with ⟨e | reply, s''⟩
  · rfl
  dsimp only [leaseFailure?]
  by_cases hcode : reply.code = 0
  · rw [if_pos hcode, if_pos hcode]
  · rw [if_neg hcode, if_neg hcode]
    rfl

end Assigner

namespace LeaseTools

/-! ## The marker -/

/-- The bytes of what an agent prints when another one runs already. -/
def markerBytes : List UInt8 := Utf8.encode (String.ofList alreadyRunning)

/-- Neither output of a program holds the marker. -/
def Silent (done : Completion) : Prop :=
  ¬markerBytes <:+: done.stdout ∧ ¬markerBytes <:+: done.stderr

/-- Reading and trimming an output leave the marker alone. -/
theorem infix_trimmedText_iff (bytes : List UInt8) :
    alreadyRunning <:+: trimmedText bytes ↔ markerBytes <:+: bytes := by
  have hfirst : alreadyRunning.head? = some 'a' := by decide
  have hlast : alreadyRunning.getLast? = some 'g' := by decide
  unfold markerBytes
  have hplain : alreadyRunning.all (fun c => c.toNat < 0x80) = true := by decide
  rw [← Utf8.infix_decodeLossy_iff (by decide) (by simpa using hplain)]
  exact infix_trim_iff hfirst hlast rfl rfl

/-- So does joining the two outputs: the marker is in their text just when its bytes are in one of
them. -/
theorem occursIn_combinedText (done : Completion) :
    occursIn alreadyRunning (combinedText done) = true ↔
      markerBytes <:+: done.stdout ∨ markerBytes <:+: done.stderr := by
  have hempty : ¬alreadyRunning <:+: [] := by
    rw [List.infix_nil]
    decide
  rw [occursIn_iff, ← infix_trimmedText_iff, ← infix_trimmedText_iff]
  unfold combinedText
  generalize trimmedText done.stdout = out
  generalize trimmedText done.stderr = err
  cases err with
  | nil => simp [hempty]
  | cons e err =>
    cases out with
    | nil => simp [hempty]
    | cons o out => exact infix_append_cons_iff (by decide)

theorem silent_iff {done : Completion} :
    Silent done ↔ occursIn alreadyRunning (combinedText done) = false := by
  rw [← Bool.not_eq_true, occursIn_combinedText, not_or]
  rfl

variable (d : LeaseTools)

/-! ## The two programs -/

/-- The ways in which the agent can fail, with what is reported. -/
inductive AgentFault (seconds : UInt64) (w : World) : FacilityError → Prop where
  | unstarted {e : SystemError} (hanswer : answer d.host d.agentCommand w = .error e) :
      AgentFault seconds w (.io "start dhcpagent" e)
  | late {done : Completion} (hanswer : answer d.host d.agentCommand w = .ok done)
      (hlate : done.overruns = true) : AgentFault seconds w (.timeout "start dhcpagent" seconds)
  | failed {done : Completion} (hanswer : answer d.host d.agentCommand w = .ok done)
      (hintime : done.overruns = false) (hending : done.ending ≠ .exited 0)
      (hsilent : Silent done) :
      AgentFault seconds w (.rejected "start dhcpagent"
        ("exit code " ++ toString done.ending.code ++ ": " ++ String.ofList (combinedText done)))

/-- The ways in which the tool can fail that asks for a lease, with what is reported. Its bound is
one second past that of the agent. -/
inductive LeaseFault (iface : String) (seconds : UInt64) (w : World) : FacilityError → Prop where
  | unstarted {e : SystemError}
      (hanswer : answer d.host (d.leaseCommand iface seconds) w = .error e) :
      LeaseFault iface seconds w (.io ("DHCP start on " ++ iface) e)
  | late {done : Completion} (hanswer : answer d.host (d.leaseCommand iface seconds) w = .ok done)
      (hlate : done.overruns = true) :
      LeaseFault iface seconds w (.timeout ("DHCP start on " ++ iface) (seconds + 1))
  | failed {done : Completion} (hanswer : answer d.host (d.leaseCommand iface seconds) w = .ok done)
      (hintime : done.overruns = false) (hending : done.ending ≠ .exited 0) :
      LeaseFault iface seconds w (.rejected "DHCP start"
        ("return code " ++ toString done.ending.code ++ ": " ++ String.ofList (combinedText done)))

/-- What becomes of the agent is told by how its program is answered. -/
theorem fst_ensureRunning (seconds : UInt64) (w : World) :
    (d.ensureRunning seconds w).1 =
      match answer d.host d.agentCommand w with
      | .error e => .error (.io "start dhcpagent" e)
      | .ok done =>
        if done.overruns = true then .error (.timeout "start dhcpagent" seconds)
        else if done.ending.code = 0 ∨ occursIn alreadyRunning (combinedText done) = true then
          .ok ()
        else
          .error (.rejected "start dhcpagent" ("exit code " ++ toString done.ending.code ++ ": "
            ++ String.ofList (combinedText done))) := by
  have hcommand : ({ path := d.agent } : Command) = d.agentCommand := rfl
  unfold ensureRunning runBounded World.run
  rw [hcommand]
  rcases answer d.host d.agentCommand w with e | done
  · rfl
  dsimp only
  by_cases hlate : done.overruns = true
  · rw [if_pos hlate, if_pos hlate]
  rw [if_neg hlate, if_neg hlate]
  dsimp only
  by_cases hcode : done.ending.code = 0
  · rw [if_pos hcode, if_pos (Or.inl hcode)]
  by_cases hmarker : occursIn alreadyRunning (combinedText done) = true
  · rw [if_neg hcode, if_pos hmarker, if_pos (Or.inr hmarker)]
  · rw [if_neg hcode, if_neg hmarker, if_neg (not_or.2 ⟨hcode, hmarker⟩)]

/-- The agent is there afterwards unless it fails. -/
theorem ensureRunning_eq_error_iff {seconds : UInt64} {w : World} {cause : FacilityError} :
    (d.ensureRunning seconds w).1 = .error cause ↔ d.AgentFault seconds w cause := by
  rw [fst_ensureRunning]
  constructor
  · rcases hanswer : answer d.host d.agentCommand w with e | done
    · rintro ⟨⟩
      exact .unstarted hanswer
    dsimp only
    by_cases hlate : done.overruns = true
    · rw [if_pos hlate]
      rintro ⟨⟩
      exact .late hanswer hlate
    rw [if_neg hlate]
    by_cases hready : done.ending.code = 0 ∨ occursIn alreadyRunning (combinedText done) = true
    · rw [if_pos hready]
      nofun
    · rw [if_neg hready]
      rintro ⟨⟩
      rw [not_or, Ending.code_eq_zero_iff, Bool.not_eq_true, ← silent_iff] at hready
      exact .failed hanswer (Bool.eq_false_iff.2 hlate) hready.1 hready.2
  · intro h
    cases h with
    | unstarted hanswer => rw [hanswer]
    | late hanswer hlate =>
      rw [hanswer]
      dsimp only
      rw [if_pos hlate]
    | failed hanswer hintime hending hsilent =>
      rw [hanswer]
      dsimp only
      rw [if_neg (Bool.eq_false_iff.1 hintime), if_neg]
      rw [not_or, Ending.code_eq_zero_iff, Bool.not_eq_true, ← silent_iff]
      exact ⟨hending, hsilent⟩

/-- What becomes of a request is told by how its program is answered, if its bound can be told. -/
theorem fst_startLease {seconds : UInt64} (hseconds : seconds.toNat + 1 < UInt64.size)
    (iface : String) (w : World) :
    (d.startLease iface seconds w).1 =
      match answer d.host (d.leaseCommand iface seconds) w with
      | .error e => .error (.io ("DHCP start on " ++ iface) e)
      | .ok done =>
        if done.overruns = true then .error (.timeout ("DHCP start on " ++ iface) (seconds + 1))
        else .ok ⟨done.ending.code, String.ofList (combinedText done)⟩ := by
  have hcommand : (⟨d.ifconfig, [iface, "dhcp", "start", "wait", toString seconds.toNat],
    .inherited, false⟩ : Command) = d.leaseCommand iface seconds := rfl
  unfold startLease leaseBound? runBounded World.run
  rw [if_pos hseconds]
  dsimp only
  rw [hcommand]
  rcases answer d.host (d.leaseCommand iface seconds) w with e | done
  · rfl
  dsimp only
  by_cases hlate : done.overruns = true
  · rw [if_pos hlate, if_pos hlate]
  · rw [if_neg hlate, if_neg hlate]

/-- There is no lease just when the tool fails. -/
theorem leaseFault_iff {seconds : UInt64} (hseconds : seconds.toNat + 1 < UInt64.size)
    {iface : String} {w : World} {cause : FacilityError} :
    d.LeaseFault iface seconds w cause ↔
      leaseFailure? (d.startLease iface seconds w).1 = some cause := by
  rw [d.fst_startLease hseconds]
  constructor
  · intro h
    cases h with
    | unstarted hanswer =>
      rw [hanswer]
      rfl
    | late hanswer hlate =>
      rw [hanswer]
      dsimp only
      rw [if_pos hlate]
      rfl
    | failed hanswer hintime hending =>
      rw [hanswer]
      dsimp only
      rw [if_neg (Bool.eq_false_iff.1 hintime)]
      exact if_neg fun hcode => hending (Ending.code_eq_zero_iff.1 hcode)
  · rcases hanswer : answer d.host (d.leaseCommand iface seconds) w with e | done
    · rintro ⟨⟩
      exact .unstarted hanswer
    dsimp only
    by_cases hlate : done.overruns = true
    · rw [if_pos hlate]
      rintro ⟨⟩
      exact .late hanswer hlate
    rw [if_neg hlate]
    dsimp only [leaseFailure?]
    by_cases hcode : done.ending.code = 0
    · rw [if_pos hcode]
      nofun
    · rw [if_neg hcode]
      rintro ⟨⟩
      exact .failed hanswer (Bool.eq_false_iff.2 hlate)
        fun hending => hcode (Ending.code_eq_zero_iff.2 hending)

/-- A bound that cannot be told breaks the process off before the tool is started. -/
theorem startLease_of_unboundable {seconds : UInt64} (hseconds : UInt64.size ≤ seconds.toNat + 1)
    (iface : String) (w : World) :
    d.startLease iface seconds w
      = (.error (.unboundable ("DHCP start on " ++ iface)), w ++ [.abort]) := by
  unfold startLease leaseBound?
  rw [if_neg (by omega)]

/-! ## A request for a lease -/

/-- What a request for a lease comes to, whatever the two programs do, once there is an interface
for it. It is fatal just when the agent fails, and then no lease is asked for. Otherwise the lease is
asked for, and there is a warning just when that fails; the interface counts as occupied just when
there is a lease. All this if the bound on the tool can be told: where the agent's own is the last
number of seconds there is, the process breaks off. -/
theorem startLease_outcome (m : AddressManager World) (d : LeaseTools) (seconds : UInt64)
    (c : Context) (l : Ledger World) {iface : String} {w : World}
    (htarget : target m c .v4 l.world = (.ok iface, w)) :
    let a : Assigner World := ⟨m, d.leases, seconds⟩
    let result := (a.apply c .dhcp l).1
    let c' := (a.apply c .dhcp l).2.1
    let w' := (a.apply c .dhcp l).2.2.world
    let asked := (d.ensureRunning seconds w).2
    (∀ done, occursIn alreadyRunning (combinedText done) = true ↔
      markerBytes <:+: done.stdout ∨ markerBytes <:+: done.stderr) ∧
    w.Adds [d.agentCommand] asked ∧
    (∀ cause, result = .error (.agent cause) ↔ d.AgentFault seconds w cause) ∧
    ((∃ e, result = .error e ∧ e.severity = .fatal) ↔ ∃ cause, d.AgentFault seconds w cause) ∧
    ((∃ cause, d.AgentFault seconds w cause) → c' = c ∧ w' = asked) ∧
    ((∀ cause, ¬d.AgentFault seconds w cause) → seconds.toNat + 1 < UInt64.size →
      asked.Adds [d.leaseCommand iface seconds] w' ∧
      (∀ cause, result = .error (.lease iface cause) ↔ d.LeaseFault iface seconds asked cause) ∧
      ((∃ cause, d.LeaseFault iface seconds asked cause) → c' = c) ∧
      ((∀ cause, ¬d.LeaseFault iface seconds asked cause) →
        result = .ok (.lease iface) ∧ c' = c.occupy)) ∧
    ((∀ cause, ¬d.AgentFault seconds w cause) → UInt64.size ≤ seconds.toNat + 1 →
      w' = asked ++ [.abort]) := by
  intro a result c' w' asked
  refine ⟨occursIn_combinedText, d.ensureRunning_adds_one seconds w, ?_⟩
  rcases hagent : d.ensureRunning seconds w with ⟨e | _, s⟩
  -- the agent fails, and nothing is asked for
  · have happly := a.apply_dhcp_of_agentless htarget hagent
    have hresult : result = .error (.agent e) := congrArg Prod.fst happly
    have hcontext : c' = c := congrArg (·.2.1) happly
    have hworld : w' = s := congrArg (·.2.2.world) happly
    have hasked : asked = s := congrArg Prod.snd hagent
    have hfault (cause : FacilityError) : d.AgentFault seconds w cause ↔ e = cause := by
      rw [← d.ensureRunning_eq_error_iff, hagent, Except.error.injEq]
    clear_value result c' w' asked
    subst hresult hcontext hworld hasked
    simp [hfault, AssignError.severity]
  -- the agent is there, and the answer to the request decides
  · have happly := a.apply_dhcp_of_ready htarget hagent
    have hasked : asked = s := congrArg Prod.snd hagent
    have hno (cause : FacilityError) : ¬d.AgentFault seconds w cause := by
      rw [← d.ensureRunning_eq_error_iff, hagent]
      nofun
    rcases hanswer : d.startLease iface seconds s with ⟨answer, s'⟩
    rw [show a.leases.startLease iface a.timeout s = (answer, s') from hanswer] at happly
    have hadds (hseconds : seconds.toNat + 1 < UInt64.size) :
        s.Adds [d.leaseCommand iface seconds] s' := by
      have hone := d.startLease_adds_one hseconds iface s
      rwa [hanswer] at hone
    have hfault (hseconds : seconds.toNat + 1 < UInt64.size) (cause : FacilityError) :
        d.LeaseFault iface seconds s cause ↔ leaseFailure? answer = some cause := by
      rw [d.leaseFault_iff hseconds, hanswer]
    have habort (hseconds : UInt64.size ≤ seconds.toNat + 1) : s' = s ++ [.abort] := by
      rw [d.startLease_of_unboundable hseconds] at hanswer
      exact (congrArg Prod.snd hanswer).symm
    rcases hfailure : leaseFailure? answer with _ | cause
    · rw [hfailure] at happly
      have hresult : result = .ok (.lease iface) := congrArg Prod.fst happly
      have hcontext : c' = c.occupy := congrArg (·.2.1) happly
      have hworld : w' = s' := congrArg (·.2.2.world) happly
      clear_value result c' w' asked
      subst hresult hcontext hworld hasked
      refine ⟨by simp [hno], by simp [hno], by simp [hno], ?_, fun _ => habort⟩
      intro _ hseconds
      have hleased (cause : FacilityError) : ¬d.LeaseFault iface seconds asked cause := by
        rw [hfault hseconds, hfailure]
        nofun
      exact ⟨hadds hseconds, by simp [hleased], by simp [hleased], fun _ => ⟨rfl, rfl⟩⟩
    · rw [hfailure] at happly
      have hresult : result = .error (.lease iface cause) := congrArg Prod.fst happly
      have hcontext : c' = c := congrArg (·.2.1) happly
      have hworld : w' = s' := congrArg (·.2.2.world) happly
      clear_value result c' w' asked
      subst hresult hcontext hworld hasked
      refine ⟨by simp [hno], by simp [hno, AssignError.severity], by simp [hno], ?_,
        fun _ => habort⟩
      intro _ hseconds
      have hfailed : d.LeaseFault iface seconds asked cause := (hfault hseconds cause).2 hfailure
      refine ⟨hadds hseconds, ?_, fun _ => rfl, fun hnone => absurd hfailed (hnone cause)⟩
      intro cause'
      rw [hfault hseconds, hfailure, Except.error.injEq, AssignError.lease.injEq,
        Option.some.injEq, and_iff_right rfl]

/-- An agent that another one keeps from starting says so between bytes that are no text, and the
lease is had. -/
theorem startLease_outcome_running :
    let host : Host := {
      respond := fun _ c =>
        if c.path = "dhcpagent" then
          .ok ⟨.exited 1, [],
            0xFF :: Text.Utf8.encode "dhcpagent already running" ++ [0xE2, 0x82], false⟩
        else .ok ⟨.exited 0, [], [], false⟩
      node := fun _ => none
      routeWrite := fun _ message => .ok message.length }
    let t : AddressTools := ⟨host, "ifconfig", "ipadm"⟩
    let d : LeaseTools := ⟨host, "dhcpagent", "ifconfig"⟩
    let a := t.assigner d.leases 5
    let c : Context := { base := "net0" }
    let l : Ledger World := { world := [] }
    (a.apply c .dhcp l).1 = .ok (.lease "net0") ∧ (a.apply c .dhcp l).2.1 = c.occupy ∧
      (a.apply c .dhcp l).2.2.world.attempts = [d.agentCommand, d.leaseCommand "net0" 5] := by
  intro host t d a c l
  have htarget : target t.addresses c .v4 l.world = (.ok "net0", []) := rfl
  obtain ⟨-, hagent, -, -, -, hlease, -⟩ := startLease_outcome t.addresses d 5 c l htarget
  have hready : (d.ensureRunning 5 []).1 = .ok () := by decide +kernel
  have hno (cause : FacilityError) : ¬d.AgentFault 5 [] cause := by
    rw [← d.ensureRunning_eq_error_iff, hready]
    nofun
  obtain ⟨hadds, -, -, hleased⟩ := hlease hno (by decide)
  have hreply : (d.startLease "net0" 5 (d.ensureRunning 5 []).2).1 = .ok ⟨0, ""⟩ := by
    decide +kernel
  have hno' (cause : FacilityError) :
      ¬d.LeaseFault "net0" 5 (d.ensureRunning 5 []).2 cause := by
    rw [d.leaseFault_iff (by decide), hreply]
    nofun
  obtain ⟨hresult, hcontext⟩ := hleased hno'
  exact ⟨hresult, hcontext, (hagent.trans hadds).attempts⟩

/-- With the longest bound there is, the tool that would answer is not even started: the process has
broken off. -/
theorem startLease_outcome_forever :
    let host : Host := {
      respond := fun _ _ => .ok { ending := .exited 0 }
      node := fun _ => none
      routeWrite := fun _ message => .ok message.length }
    let t : AddressTools := ⟨host, "ifconfig", "ipadm"⟩
    let d : LeaseTools := ⟨host, "dhcpagent", "ifconfig"⟩
    let seconds : UInt64 := 18446744073709551615
    let a := t.assigner d.leases seconds
    let c : Context := { base := "net0" }
    let l : Ledger World := { world := [] }
    (∀ cause, ¬d.AgentFault seconds [] cause) ∧
      (∀ cause, ¬d.LeaseFault "net0" seconds (d.ensureRunning seconds []).2 cause) ∧
      (a.apply c .dhcp l).1 ≠ .ok (.lease "net0") ∧
      (a.apply c .dhcp l).2.2.world.attempts = [d.agentCommand] ∧
      (a.apply c .dhcp l).2.2.world.aborted = true := by
  intro host t d seconds a c l
  have hready : (d.ensureRunning seconds []).1 = .ok () := by decide +kernel
  have hanswer : answer host (d.leaseCommand "net0" seconds) (d.ensureRunning seconds []).2
      = .ok { ending := .exited 0 } := by decide +kernel
  refine ⟨fun cause => ?_, ?_, by decide +kernel, by decide +kernel, by decide +kernel⟩
  · rw [← d.ensureRunning_eq_error_iff, hready]
    nofun
  · rintro cause (h | ⟨h, hlate⟩ | ⟨h, -, hending⟩)
    · rw [hanswer] at h
      cases h
    · rw [hanswer] at h
      cases h
      cases hlate
    · rw [hanswer] at h
      cases h
      exact hending rfl

end LeaseTools

end ZoneNet
