import ZoneNet.Proofs.Address.DottedQuad
import ZoneNet.Proofs.Setup.Accounts

/-!
# What ends a run

A run over a recorder comes to its end if the recorder and the interfaces meet a list of conditions.
Otherwise it ends with the error of the first condition that is not met, in the order in which the
conditions are met on the way, and nothing is recorded for anything that comes after it.

* `Sets.fault` — an interface fails over its first fault, and records no later step.
* `admits_iff` — the conditions are met just when there is no first fault.
* `run_fatality` — how a run ends, and what is recorded of one that fails.
-/

namespace ZoneNet

namespace Recorder

/-! ## Conditions -/

/-- The conditions under which an interface is set up. Its address list and its gateway are those
that count: a non-empty override, or else the attribute. -/
structure AdmitsNet (r : Recorder) (zone : Bool) (net : Net) : Prop where
  plumb : net.physical ∉ r.failPlumb
  policy : net.attr "ipv6" = none ∨ net.attr "ipv6" = some "false" ∨
    net.attr "ipv6" = some "true" ∧ zone = true
  agent : .dhcp ∈ net.tokens → r.lease ≠ .agentDown
  route : ∀ list gateway, net.chosenList = some list → net.chosenGateway = some gateway →
    (∃ ip : IPv4, gateway = toString ip) ∧
      (∃ i, r.interfaceIndex net.physical = some i ∧ i.toNat ≤ 65535) ∧
      r.channelError = none ∧ ∀ n ∈ r.shortWrite, 124 ≤ n

/-- The conditions under which a run comes to its end. -/
structure Admits (r : Recorder) (zone : Bool) (nets : List Net) : Prop where
  loopback : "lo0" ∉ r.failPlumb
  net : ∀ net ∈ nets, r.AdmitsNet zone net
  autoconf : (∃ net ∈ nets, .addrconf ∈ net.tokens) → r.failAutoconf = false

/-! ## Faults -/

variable (r : Recorder) (zone : Bool) (timeout : UInt64)

def plumbFault (iface : String) : Option (SetupStep × SetupError) :=
  if iface ∈ r.failPlumb then
    some (.plumb, .plumb iface .v4 (.rejected "create-if" "no such interface"))
  else none

def policyFault (net : Net) : Option (SetupStep × SetupError) :=
  match net.attr "ipv6" with
  | none => none
  | some value =>
    if value = "true" then if zone then none else some (.policy, .ipv6Disabled net.physical)
    else if value = "false" then none
    else some (.policy, .invalidIpv6 value)

def agentFault (net : Net) : Option (SetupStep × SetupError) :=
  if .dhcp ∈ net.tokens ∧ r.lease = .agentDown then
    some (.agent, .address (.agent (.timeout "start dhcpagent" timeout)))
  else none

def gatewayFault (net : Net) : Option (SetupStep × SetupError) :=
  net.routeGateway.bind fun gateway =>
    match IPv4.parse? gateway with
    | none => some (.gateway, .badGateway net.physical gateway)
    | some ip => (r.routeCause net.physical).map fun cause =>
      (.route, .defaultRoute net.physical ip cause)

/-- The first fault of an interface, with the step that finds it. -/
def netFault (net : Net) : Option (SetupStep × SetupError) :=
  (r.plumbFault net.physical).or <| (policyFault zone net).or <| (r.agentFault timeout net).or <|
    r.gatewayFault net

/-- The first fault of the loopback interface and the interfaces in order. -/
def faultAmong (nets : List Net) : Option (SetupStep × SetupError) :=
  (r.plumbFault "lo0").or (nets.findSome? (r.netFault zone timeout))

def autoconfFault (nets : List Net) : Option (SetupStep × SetupError) :=
  if (∃ net ∈ nets, .addrconf ∈ net.tokens) ∧ r.failAutoconf then
    some (.autoconf, .autoconf (.rejected "in.ndpd" "exited: 1"))
  else none

/-- The first fault of a run. -/
def firstFault (nets : List Net) : Option (SetupStep × SetupError) :=
  (r.faultAmong zone timeout nets).or (r.autoconfFault nets)

/-! ## One interface -/

variable {r zone timeout}

theorem plumbFault_eq_none {iface : String} : r.plumbFault iface = none ↔ iface ∉ r.failPlumb := by
  simp [plumbFault]

theorem policyFault_eq (net : Net) :
    policyFault zone net = match interfaceIpv6 zone net.physical (net.attr "ipv6") with
      | .error e => some (.policy, e)
      | .ok _ => none := by
  unfold policyFault interfaceIpv6
  rcases net.attr "ipv6" with _ | value
  · rfl
  · dsimp only
    by_cases htrue : value = "true"
    · rw [if_pos htrue, if_pos htrue]
      cases zone <;> rfl
    · rw [if_neg htrue, if_neg htrue]
      by_cases hfalse : value = "false"
      · rw [if_pos hfalse, if_pos hfalse]
      · rw [if_neg hfalse, if_neg hfalse]

/-- An interface that was opened has its first fault, if any, in its address list. -/
theorem Opens.netFault_eq {net : Net} {enabled : Bool} (h : r.Opens zone net enabled) :
    r.netFault zone timeout net = (r.agentFault timeout net).or (r.gatewayFault net) := by
  have hpolicy : policyFault zone net = none := by rw [policyFault_eq, h.policy]
  rw [netFault, plumbFault_eq_none.2 h.plumb, hpolicy, Option.none_or, Option.none_or]

/-- An interface whose tokens were settled has its first fault, if any, in its gateway. -/
theorem Assigns.netFault_eq {net : Net} {enabled : Bool} {settled : List Settlement} {g : Gain}
    (hopens : r.Opens zone net enabled) (h : r.Assigns timeout net settled g) :
    r.netFault zone timeout net = r.gatewayFault net := by
  have hagent : r.agentFault timeout net = none := by
    unfold agentFault
    rw [if_neg fun hdown => h.agent hdown.1 hdown.2]
  rw [hopens.netFault_eq, hagent, Option.none_or]

/-- An interface fails over its first fault, and no step after the one that finds it is taken. -/
theorem Sets.fault {net : Net} {result : Except SetupError Unit} {g : Gain}
    (h : r.Sets zone timeout net result g) :
    (result = .ok () ∧ r.netFault zone timeout net = none) ∨
      ∃ step e, result = .error e ∧ r.netFault zone timeout net = some (step, e) ∧
        Made .plumb step g.calls := by
  cases h with
  | unplumbed hplumb =>
    refine Or.inr ⟨.plumb, _, rfl, ?_, made_nil _ _⟩
    rw [netFault, plumbFault, if_pos hplumb, Option.some_or]
  | barred hplumb hpolicy =>
    refine Or.inr ⟨.policy, _, rfl, ?_, ?_⟩
    · rw [netFault, plumbFault_eq_none.2 hplumb, policyFault_eq, hpolicy]
      rfl
    · have hplumbing : Made .plumb .policy (plumbing zone net.physical).calls :=
        (made_plumbing zone net.physical).mono (by decide) (by decide)
      exact hplumbing.append (made_nil _ _)
  | @agentless enabled hopens hdhcp hdown =>
    refine Or.inr ⟨.agent, _, rfl, ?_, ?_⟩
    · rw [hopens.netFault_eq, agentFault, if_pos ⟨hdhcp, hdown⟩, Option.some_or]
    · have hopening : Made .plumb .agent (r.opening zone enabled net).calls :=
        (r.made_opening zone enabled net).mono (by decide) (by decide)
      exact hopening.append ((made_single rfl).mono (by decide) (by decide))
  | unrouted hopens hassigns hgateway =>
    refine Or.inl ⟨rfl, ?_⟩
    rw [hassigns.netFault_eq hopens, gatewayFault, hgateway]
    rfl
  | misread hopens hassigns hgateway hparse =>
    refine Or.inr ⟨.gateway, _, rfl, ?_, (hassigns.made _ _).mono (by decide) (by decide)⟩
    rw [hassigns.netFault_eq hopens, gatewayFault, hgateway, Option.bind_some, hparse]
  | refused hopens hassigns hgateway hparse hcause hrouting =>
    refine Or.inr ⟨.route, _, rfl, ?_, ((hassigns.tells hopens).append_routing hrouting).made⟩
    rw [hassigns.netFault_eq hopens, gatewayFault, hgateway, Option.bind_some, hparse]
    dsimp only
    rw [hcause]
    rfl
  | routed hopens hassigns hgateway hparse hcause =>
    refine Or.inl ⟨rfl, ?_⟩
    rw [hassigns.netFault_eq hopens, gatewayFault, hgateway, Option.bind_some, hparse]
    dsimp only
    rw [hcause]
    rfl

/-! ## Interfaces in order -/

theorem configure_of_none {net : Net} (h : r.netFault zone timeout net = none)
    (p : Progress Journal) : ∃ q, (r.setup zone timeout).configure net p = (.ok (), q) := by
  obtain ⟨result, g, hsets, hconfigure⟩ := r.exists_sets zone timeout net p
  rcases hsets.fault with ⟨rfl, -⟩ | ⟨step, e, -, hfault, -⟩
  · exact ⟨_, hconfigure⟩
  · rw [h] at hfault
    cases hfault

theorem configure_of_some {net : Net} {step : SetupStep} {e : SetupError}
    (h : r.netFault zone timeout net = some (step, e)) (p : Progress Journal) :
    ∃ g, Made .plumb step g.calls ∧
      (r.setup zone timeout).configure net p = (.error e, p.add g) := by
  obtain ⟨result, g, hsets, hconfigure⟩ := r.exists_sets zone timeout net p
  rcases hsets.fault with ⟨-, hnone⟩ | ⟨step', e', rfl, hfault, hmade⟩
  · rw [h] at hnone
    cases hnone
  · rw [h] at hfault
    cases hfault
    exact ⟨g, hmade, hconfigure⟩

theorem each_of_none {nets : List Net} (h : ∀ net ∈ nets, r.netFault zone timeout net = none)
    (p : Progress Journal) :
    ∃ q, Outcome.each (r.setup zone timeout).configure nets p = (.ok (), q) := by
  induction nets generalizing p with
  | nil => exact ⟨p, rfl⟩
  | cons net nets ih =>
    obtain ⟨q, hfirst⟩ := configure_of_none (h net List.mem_cons_self) p
    obtain ⟨q', hrest⟩ := ih (fun net' hm => h net' (List.mem_cons_of_mem _ hm)) q
    refine ⟨q', ?_⟩
    rw [Outcome.each_cons, hfirst, Outcome.andThen_ok, hrest]

theorem faultAmong_eq_none {nets : List Net} :
    r.faultAmong zone timeout nets = none ↔ "lo0" ∉ r.failPlumb ∧
      ∀ net ∈ nets, r.netFault zone timeout net = none := by
  rw [faultAmong, Option.or_eq_none_iff, plumbFault_eq_none, List.findSome?_eq_none_iff]

/-- Without a fault every interface is set up. -/
theorem reach_of_none {nets : List Net} (h : r.faultAmong zone timeout nets = none) (j : Journal) :
    ∃ q, (r.setup zone timeout).reach nets j = (.ok (), q) := by
  obtain ⟨hplumb, hnets⟩ := faultAmong_eq_none.1 h
  obtain ⟨s, g, -, hloopback⟩ := r.exists_loopback zone timeout hplumb (.start j)
  obtain ⟨q, heach⟩ := each_of_none hnets ((Progress.start j).add g)
  refine ⟨q, ?_⟩
  rw [Setup.reach, hloopback, Outcome.andThen_ok, heach]

/-- The interfaces up to a faulty one are set up; that one fails, and none after it is begun. -/
theorem reach_of_some {done : List Net} {net : Net} {step : SetupStep} {e : SetupError}
    (hdone : r.faultAmong zone timeout done = none)
    (hfault : r.netFault zone timeout net = some (step, e)) (j : Journal) :
    ∃ g, Made .plumb step g.calls ∧ ∀ rest,
      (r.setup zone timeout).reach (done ++ net :: rest) j
        = (.error e, ((r.setup zone timeout).reach done j).2.add g) := by
  obtain ⟨q, hreach⟩ := reach_of_none hdone j
  obtain ⟨g, hmade, hconfigure⟩ := configure_of_some hfault q
  refine ⟨g, hmade, fun rest => ?_⟩
  rw [Setup.reach_append, hreach, Outcome.andThen_ok, Outcome.each_cons, hconfigure,
    Outcome.andThen_error]

/-! ## A run -/

theorem run_of_none {nets : List Net} (h : r.firstFault zone timeout nets = none) (j : Journal) :
    ∃ report, ((r.setup zone timeout).run nets j).1 = .ok report := by
  obtain ⟨hamong, hautoconf⟩ := Option.or_eq_none_iff.1 h
  obtain ⟨q, hreach⟩ := reach_of_none hamong j
  rw [Setup.run_eq, hreach, Outcome.andThen_ok, finish_eq]
  by_cases hasked : q.ledger.addrconf = true
  -- autoconfiguration was asked for by a token, so its failure would be a fault
  · have hworks : ¬r.failAutoconf = true := by
      intro hfail
      rw [autoconfFault, if_pos ⟨(reach_addrconf hreach).1 hasked, hfail⟩] at hautoconf
      cases hautoconf
    rw [if_pos hasked, if_neg hworks]
    exact ⟨_, rfl⟩
  · rw [if_neg hasked]
    exact ⟨_, rfl⟩

/-- A run fails over the loopback interface before anything is recorded. -/
theorem run_of_plumbFault {step : SetupStep} {e : SetupError}
    (h : r.plumbFault "lo0" = some (step, e)) (nets : List Net) (j : Journal) :
    (r.setup zone timeout).run nets j = (.error e, .start j) := by
  have hplumb : "lo0" ∈ r.failPlumb := by
    refine Decidable.byContradiction fun hn => ?_
    rw [plumbFault_eq_none.2 hn] at h
    cases h
  rw [plumbFault, if_pos hplumb] at h
  cases h
  rw [Setup.run, loopback_of_mem _ _ _ hplumb, Outcome.andThen_error]
  rfl

/-- A run fails over an interface and comes to none after it. -/
theorem run_of_netFault {done : List Net} {net : Net} {step : SetupStep} {e : SetupError}
    (hdone : r.faultAmong zone timeout done = none)
    (hfault : r.netFault zone timeout net = some (step, e)) (j : Journal) :
    ∃ g, Made .plumb step g.calls ∧ ∀ rest,
      (r.setup zone timeout).run (done ++ net :: rest) j
        = (.error e, ((r.setup zone timeout).reach done j).2.add g) := by
  obtain ⟨g, hmade, hreach⟩ := reach_of_some hdone hfault j
  refine ⟨g, hmade, fun rest => ?_⟩
  rw [Setup.run_eq, hreach, Outcome.andThen_error]

/-- A run fails over autoconfiguration after every interface was set up. -/
theorem run_of_autoconfFault {nets : List Net} {step : SetupStep} {e : SetupError}
    (hnets : r.faultAmong zone timeout nets = none)
    (hfault : r.autoconfFault nets = some (step, e)) (j : Journal) :
    (r.setup zone timeout).run nets j = (.error e, ((r.setup zone timeout).reach nets j).2) := by
  obtain ⟨q, hreach⟩ := reach_of_none hnets j
  unfold autoconfFault at hfault
  by_cases hboth : (∃ net ∈ nets, .addrconf ∈ net.tokens) ∧ r.failAutoconf = true
  · rw [if_pos hboth] at hfault
    cases hfault
    rw [Setup.run_eq, hreach, Outcome.andThen_ok, finish_eq,
      if_pos ((reach_addrconf hreach).2 hboth.1), if_pos hboth.2]
  · rw [if_neg hboth] at hfault
    cases hfault

/-- A run fails with its first fault. -/
theorem run_of_some {nets : List Net} {step : SetupStep} {e : SetupError}
    (h : r.firstFault zone timeout nets = some (step, e)) (j : Journal) :
    ((r.setup zone timeout).run nets j).1 = .error e := by
  unfold firstFault at h
  -- it is a fault of the loopback interface, of an interface after some without, or of the end
  rcases Option.or_eq_some_iff.1 h with hamong | ⟨hamong, hautoconf⟩
  · unfold faultAmong at hamong
    rcases Option.or_eq_some_iff.1 hamong with hplumb | ⟨hplumb, hnets⟩
    · rw [run_of_plumbFault hplumb]
    · obtain ⟨done, net, rest, rfl, hfault, hdone⟩ := List.findSome?_eq_some_iff.1 hnets
      have hbefore : r.faultAmong zone timeout done = none :=
        faultAmong_eq_none.2 ⟨plumbFault_eq_none.1 hplumb, hdone⟩
      obtain ⟨g, -, hrun⟩ := run_of_netFault hbefore hfault j
      rw [hrun]
  · rw [run_of_autoconfFault hamong hautoconf]

/-! ## Conditions and faults -/

theorem policyFault_eq_none {net : Net} :
    policyFault zone net = none ↔ net.attr "ipv6" = none ∨ net.attr "ipv6" = some "false" ∨
      net.attr "ipv6" = some "true" ∧ zone = true := by
  unfold policyFault
  rcases net.attr "ipv6" with _ | value
  · simp
  · dsimp only
    by_cases htrue : value = "true"
    · subst htrue
      cases zone <;> simp
    · rw [if_neg htrue]
      by_cases hfalse : value = "false"
      · simp [hfalse]
      · simp [hfalse, htrue]

theorem agentFault_eq_none {net : Net} :
    r.agentFault timeout net = none ↔ (.dhcp ∈ net.tokens → r.lease ≠ .agentDown) := by
  simp [agentFault]

theorem channelAnswer_ok_iff :
    (∃ n, r.channelAnswer = .ok n ∧ 124 ≤ n) ↔
      r.channelError = none ∧ ∀ n ∈ r.shortWrite, 124 ≤ n := by
  unfold channelAnswer
  rcases r.channelError with _ | text
  · rcases r.shortWrite with _ | n
    · simp
    · constructor
      · rintro ⟨m, hm, hle⟩
        cases hm
        refine ⟨rfl, ?_⟩
        intro n' hn'
        cases hn'
        exact Nat.le_trans hle (Nat.min_le_left _ _)
      · rintro ⟨-, hfull⟩
        exact ⟨_, rfl, Nat.le_min.2 ⟨hfull n rfl, Nat.le_refl _⟩⟩
  · simp

/-- A route is installed on an interface with an index that fits a message, if the channel takes a
message in full. -/
theorem routeCause_eq_none {iface : String} :
    r.routeCause iface = none ↔
      (∃ i, r.interfaceIndex iface = some i ∧ i.toNat ≤ 65535) ∧
        r.channelError = none ∧ ∀ n ∈ r.shortWrite, 124 ≤ n := by
  rw [← channelAnswer_ok_iff]
  unfold routeCause
  rcases r.interfaceIndex iface with _ | i
  · simp
  · dsimp only
    by_cases hlarge : 65535 < i.toNat
    · rw [if_pos hlarge]
      simp [Nat.not_le.2 hlarge]
    · rw [if_neg hlarge]
      rcases r.channelAnswer with e | n
      · simp
      · simp [Nat.not_lt.1 hlarge]

theorem gatewayFault_eq_none {net : Net} :
    r.gatewayFault net = none ↔ ∀ list gateway, net.chosenList = some list →
      net.chosenGateway = some gateway → (∃ ip : IPv4, gateway = toString ip) ∧
        r.routeCause net.physical = none := by
  unfold gatewayFault Net.routeGateway
  simp only [← IPv4.parse?_eq_some_iff]
  rcases net.chosenList with _ | list
  · simp
  · rcases net.chosenGateway with _ | gateway
    · simp
    · rcases hparse : IPv4.parse? gateway with _ | ip
      · simp [hparse]
      · simp [hparse]

theorem autoconfFault_eq_none {nets : List Net} :
    r.autoconfFault nets = none ↔
      ((∃ net ∈ nets, .addrconf ∈ net.tokens) → r.failAutoconf = false) := by
  simp [autoconfFault]

theorem netFault_eq_none {net : Net} :
    r.netFault zone timeout net = none ↔ r.AdmitsNet zone net := by
  rw [netFault, Option.or_eq_none_iff, Option.or_eq_none_iff, Option.or_eq_none_iff,
    plumbFault_eq_none, policyFault_eq_none, agentFault_eq_none, gatewayFault_eq_none,
    routeCause_eq_none]
  constructor
  · rintro ⟨hplumb, hpolicy, hagent, hroute⟩
    exact ⟨hplumb, hpolicy, hagent, hroute⟩
  · rintro ⟨hplumb, hpolicy, hagent, hroute⟩
    exact ⟨hplumb, hpolicy, hagent, hroute⟩

/-- The conditions are met just when there is no first fault. -/
theorem admits_iff (timeout : UInt64) {nets : List Net} :
    r.Admits zone nets ↔ r.firstFault zone timeout nets = none := by
  rw [firstFault, Option.or_eq_none_iff, faultAmong_eq_none, autoconfFault_eq_none]
  simp only [netFault_eq_none]
  constructor
  · rintro ⟨hloopback, hnets, hautoconf⟩
    exact ⟨⟨hloopback, hnets⟩, hautoconf⟩
  · rintro ⟨⟨hloopback, hnets⟩, hautoconf⟩
    exact ⟨hloopback, hnets, hautoconf⟩

/-- How a run ends. It comes to its end just when the conditions are met, and fails with its first
fault otherwise. Over the loopback interface it fails before anything is recorded; over another
interface with nothing recorded for a later step and as though no later interface were listed; over
autoconfiguration with nothing recorded after the interfaces. -/
theorem run_fatality (r : Recorder) (zone : Bool) (timeout : UInt64) (nets : List Net)
    (j : Journal) :
    let u := r.setup zone timeout
    ((∃ report, (u.run nets j).1 = .ok report) ↔ r.Admits zone nets) ∧
      (∀ e, (u.run nets j).1 = .error e ↔
        ∃ step, r.firstFault zone timeout nets = some (step, e)) ∧
      (∀ step e, r.plumbFault "lo0" = some (step, e) →
        (u.run nets j).2.ledger.world = j) ∧
      (∀ done net rest step e, nets = done ++ net :: rest →
        r.faultAmong zone timeout done = none → r.netFault zone timeout net = some (step, e) →
          u.run nets j = u.run (done ++ [net]) j ∧
            ∃ calls, Made .plumb step calls ∧
              (u.run nets j).2.ledger.world = (u.reach done j).2.ledger.world ++ calls) ∧
      (∀ step e, r.faultAmong zone timeout nets = none →
        r.autoconfFault nets = some (step, e) →
          (u.run nets j).2.ledger.world = (u.reach nets j).2.ledger.world) := by
  intro u
  refine ⟨?_, ?_, ?_, ?_, ?_⟩
  · rw [admits_iff timeout]
    constructor
    · rintro ⟨report, hok⟩
      rcases hfault : r.firstFault zone timeout nets with _ | ⟨step, e⟩
      · rfl
      · rw [run_of_some hfault j] at hok
        cases hok
    · intro hnone
      exact run_of_none hnone j
  · intro e
    constructor
    · intro herror
      rcases hfault : r.firstFault zone timeout nets with _ | ⟨step, e'⟩
      · obtain ⟨report, hok⟩ := run_of_none hfault j
        rw [hok] at herror
        cases herror
      · rw [run_of_some hfault j] at herror
        cases herror
        exact ⟨step, rfl⟩
    · rintro ⟨step, hfault⟩
      exact run_of_some hfault j
  · intro step e hplumb
    rw [run_of_plumbFault hplumb]
    rfl
  · rintro done net rest step e rfl hdone hfault
    obtain ⟨g, hmade, hrun⟩ := run_of_netFault hdone hfault j
    rw [hrun rest, hrun []]
    exact ⟨rfl, g.calls, hmade, rfl⟩
  · intro step e hnets hfault
    rw [run_of_autoconfFault hnets hfault]

/-- The agent cannot be started for the second of three interfaces, which has `dhcp` in its override
alone: it was asked for, but no lease was, and the third interface was not begun. The first interface
has an empty override, so it was given the address of its attribute. -/
theorem run_fatality_agentDown :
    let u := Recorder.setup { lease := .agentDown } true 5
    let net₀ : Net := {
      physical := "net0"
      allowedAddress := some ""
      attrs := [⟨"ips", "10.0.0.2/24"⟩] }
    let net₁ : Net := {
      physical := "net1"
      allowedAddress := some "10.1.0.2/24,dhcp"
      attrs := [⟨"ips", "10.1.0.2/24"⟩] }
    let net₂ : Net := { physical := "net2", attrs := [⟨"ips", "10.2.0.2/24"⟩] }
    (u.run [net₀, net₁, net₂] []).1
        = .error (.address (.agent (.timeout "start dhcpagent" 5))) ∧
      u.run [net₀, net₁, net₂] [] = u.run [net₀, net₁] [] ∧
      .activate ⟨"net0/addr1"⟩ "10.0.0.2/24" ∈ (u.run [net₀, net₁, net₂] []).2.ledger.world ∧
      ∃ calls, Made .plumb .agent calls ∧
        (u.run [net₀, net₁, net₂] []).2.ledger.world
          = (u.reach [net₀] []).2.ledger.world ++ calls := by
  intro u net₀ net₁ net₂
  obtain ⟨-, herror, -, hnet, -⟩ :=
    run_fatality { lease := .agentDown } true 5 [net₀, net₁, net₂] []
  obtain ⟨hfirst, hcalls⟩ := hnet [net₀] net₁ [net₂] .agent _ rfl (by rfl) (by rfl)
  exact ⟨(herror _).2 ⟨.agent, by rfl⟩, hfirst, by decide +kernel, hcalls⟩

end Recorder

end ZoneNet
