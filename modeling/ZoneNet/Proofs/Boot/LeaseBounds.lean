import ZoneNet.Proofs.Boot.FailStop
import ZoneNet.Proofs.Native.LeaseRequests
import ZoneNet.Proofs.Native.LiteralGrammar
import ZoneNet.Proofs.Setup.Origins

/-!
# The bound on a request for a lease

The bound that the environment asks for is handed on, as it is, to whatever requests a lease; the
tool that is waited for gets one second more. Of all numbers of seconds that can be asked for, just
one leaves no room for that second, and a boot that requests a lease with it breaks off.

* `Settings.toNat_dhcpTimeout`, `Settings.dhcpTimeout_eq_default` — the bound that is asked for.
* `networkSetup_aborted_iff`, `run_broken_iff` — when network setup breaks off, and when a boot does.
* `leaseBounds` — all of this for the settings of an environment.
* `leaseBounds_last` — a boot that breaks off over its bound.
-/

namespace ZoneNet

open World Text

/-- What is done step by step fails in its first step or behind it. -/
theorem Outcome.fst_andThen_eq_error_iff {ε α β σ : Type} {o : Outcome ε α σ}
    {f : α → σ → Outcome ε β σ} {e : ε} :
    (o.andThen f).1 = .error e ↔ o.1 = .error e ∨ ∃ a, o.1 = .ok a ∧ (f a o.2).1 = .error e := by
  rcases o with ⟨e' | a, s⟩
  · simp
  · simp

/-! ## The bound that is asked for -/

namespace Settings

/-- The last number of seconds that 64 bits can tell. -/
def lastSecond : Nat := 18446744073709551615

/-- The environment asks for this bound: the variable holds decimal digits of that value, at least one
of them, with at most one sign in front. -/
def AsksFor (lookup : String → Option String) (n : Nat) : Prop :=
  ∃ text ds, lookup "LXINIT_DHCP_TIMEOUT_SECS" = some text ∧
    (text.toList = ds ∨ text.toList = '+' :: ds) ∧ ds ≠ [] ∧ (∀ c ∈ ds, c.isDigit = true) ∧
    Decimal.value ds = n

variable {lookup : String → Option String} {n : Nat}

theorem asksFor_iff : AsksFor lookup n ↔ ∃ text,
    lookup "LXINIT_DHCP_TIMEOUT_SECS" = some text ∧ Decimal.ofText? text.toList = some n := by
  simp only [Decimal.ofText?_eq_some_iff]
  constructor
  · rintro ⟨text, ds, htext, hds⟩
    exact ⟨text, htext, ds, hds⟩
  · rintro ⟨text, htext, ds, hds⟩
    exact ⟨text, ds, htext, hds⟩

theorem dhcpTimeout_ofLookup (lookup : String → Option String) : (ofLookup lookup).dhcpTimeout =
    ((lookup "LXINIT_DHCP_TIMEOUT_SECS").bind seconds?).getD 5 := rfl

theorem seconds?_of_ofText? {text : String} (h : Decimal.ofText? text.toList = some n) :
    seconds? text = if n < UInt64.size then some (UInt64.ofNat n) else none := by
  have hmax : n ≤ UInt64.size - 1 ↔ n < UInt64.size := Nat.lt_succ_iff.symm
  unfold seconds? Decimal.upTo?
  rw [h, Option.filter_some]
  simp only [hmax, decide_eq_true_iff]
  split <;> rfl

/-- A bound that can be told is the one that is asked for. -/
theorem toNat_dhcpTimeout (h : AsksFor lookup n) (hn : n < UInt64.size) :
    (ofLookup lookup).dhcpTimeout.toNat = n := by
  obtain ⟨text, htext, hread⟩ := asksFor_iff.1 h
  rw [dhcpTimeout_ofLookup, htext, Option.bind_some, seconds?_of_ofText? hread, if_pos hn,
    Option.getD_some]
  exact UInt64.toNat_ofNat_of_lt' hn

/-- A number that is too large counts as no number, and both as no bound at all. -/
theorem dhcpTimeout_eq_default (h : ∀ n < UInt64.size, ¬AsksFor lookup n) :
    (ofLookup lookup).dhcpTimeout = 5 := by
  rw [dhcpTimeout_ofLookup]
  rcases htext : lookup "LXINIT_DHCP_TIMEOUT_SECS" with _ | text
  · rfl
  rw [Option.bind_some]
  rcases hread : Decimal.ofText? text.toList with _ | n
  · unfold seconds? Decimal.upTo?
    rw [hread]
    rfl
  · rw [seconds?_of_ofText? hread, if_neg fun hn => h n hn (asksFor_iff.2 ⟨text, htext, hread⟩)]
    rfl

/-- There is no room for one second more just when the last second is asked for. -/
theorem size_le_dhcpTimeout_iff (lookup : String → Option String) :
    UInt64.size ≤ (ofLookup lookup).dhcpTimeout.toNat + 1 ↔ AsksFor lookup lastSecond := by
  have hlast : lastSecond + 1 = UInt64.size := rfl
  constructor
  · intro hsize
    by_cases hasks : ∃ n < UInt64.size, AsksFor lookup n
    · obtain ⟨n, hn, hasks⟩ := hasks
      have htold := toNat_dhcpTimeout hasks hn
      obtain rfl : n = lastSecond := by omega
      exact hasks
    · rw [dhcpTimeout_eq_default fun n hn h => hasks ⟨n, hn, h⟩] at hsize
      exact absurd hsize (by decide)
  · intro hasks
    have htold := toNat_dhcpTimeout hasks (Nat.lt_of_succ_le (Nat.le_of_eq hlast))
    exact Nat.le_of_eq (htold ▸ hlast.symm)

end Settings

theorem LeaseTools.leaseBound?_eq_none_iff {seconds : UInt64} :
    leaseBound? seconds = none ↔ UInt64.size ≤ seconds.toNat + 1 := by
  simp [leaseBound?]

theorem LeaseTools.toNat_of_leaseBound? {seconds bound : UInt64}
    (h : leaseBound? seconds = some bound) : bound.toNat = seconds.toNat + 1 := by
  unfold leaseBound? at h
  split at h
  · next hseconds =>
    cases h
    rw [UInt64.toNat_add]
    exact Nat.mod_eq_of_lt hseconds
  · cases h

/-! ## Turns that request a lease -/

/-- What a request leaves is what its placement leaves, or else the agent, or else the tool. -/
theorem Assigner.world_startLease {σ : Type} (a : Assigner σ) (c : Context) (l : Ledger σ) :
    (a.startLease c l).2.2.world =
      match target a.addresses c .v4 l.world with
      | (.error _, s) => s
      | (.ok iface, s) =>
        match a.leases.ensureRunning a.timeout s with
        | (.error _, s) => s
        | (.ok (), s) => (a.leases.startLease iface a.timeout s).2 := by
  unfold startLease refuse
  rcases target a.addresses c .v4 l.world with ⟨e | iface, s⟩
  · rfl
  dsimp only
  rcases a.leases.ensureRunning a.timeout s with ⟨e | _, s⟩
  · rfl
  dsimp only
  rcases a.leases.startLease iface a.timeout s with ⟨e | reply, s⟩
  · rfl
  · dsimp only
    split <;> rfl

/-- A request breaks the process off if there is an interface for it, the agent is there, and there
is no bound for the tool. -/
theorem LeaseTools.startLease_aborted_iff (t : AddressTools) (d : LeaseTools) (seconds : UInt64)
    (c : Context) (l : Ledger World) :
    ((t.assigner d.leases seconds).startLease c l).2.2.world.aborted = true ↔
      l.world.aborted = true ∨ UInt64.size ≤ seconds.toNat + 1 ∧ ∃ iface s s',
        target t.addresses c .v4 l.world = (.ok iface, s) ∧
        d.ensureRunning seconds s = (.ok (), s') := by
  have htarget := t.target_adds c .v4 l.world
  rw [Assigner.world_startLease]
  unfold AddressTools.assigner LeaseTools.leases
  dsimp only
  generalize target t.addresses c .v4 l.world = o at htarget ⊢
  rcases o with ⟨e | iface, s⟩
  · simp [htarget.aborted]
  have hagent := d.ensureRunning_adds_one seconds s
  dsimp only
  rcases hready : d.ensureRunning seconds s with ⟨e | _, s'⟩
  · rw [hready] at hagent
    simp [(htarget.trans hagent).aborted, hready]
  rw [hready] at hagent
  have hasked : s'.aborted = l.world.aborted := (htarget.trans hagent).aborted
  dsimp only
  by_cases hbound : seconds.toNat + 1 < UInt64.size
  · rw [(d.startLease_adds_one hbound iface s').aborted, hasked]
    exact (or_iff_left fun h => absurd h.1 (Nat.not_le.2 hbound)).symm
  · have hnone : UInt64.size ≤ seconds.toNat + 1 := Nat.le_of_not_lt hbound
    rw [d.startLease_of_unboundable hnone, World.aborted_append]
    simp [hready, hnone, World.aborted, World.isAbort]

/-- A lease is requested in this turn: there is an interface for it, and the agent is there. -/
def Turn.RequestsLease {σ : Type} (u : Setup σ) (turn : Turn σ) : Prop :=
  turn.token = .dhcp ∧ ∃ iface s s',
    target u.facilities.addresses turn.context .v4 turn.ledger.world = (.ok iface, s) ∧
    u.facilities.leases.ensureRunning u.timeout s = (.ok (), s')

namespace Boot

variable (m : Machine) (settings : Settings)

theorem assigner_networkSetup (ipv6 : Bool) : (networkSetup m settings ipv6).assigner =
    (addressTools m settings).assigner (leaseTools m settings).leases settings.dhcpTimeout := rfl

/-- A literal does not break the process off. -/
theorem applyLiteral_aborted (ipv6 : Bool) (c : Context) (addr : String) (l : Ledger World) :
    ((networkSetup m settings ipv6).assigner.applyLiteral c addr l).2.2.world.aborted
      = l.world.aborted := by
  rw [assigner_networkSetup]
  obtain ⟨commands, -, hadds, -⟩ := (addressTools m settings).applyLiteral_commands
    (leaseTools m settings).leases settings.dhcpTimeout c addr l
  exact hadds.aborted

/-- Nothing in network setup does but a request for a lease. -/
theorem networkSetup_arisesIn (ipv6 : Bool) :
    (networkSetup m settings ipv6).ArisesIn (fun w => w.aborted = true) fun turn =>
      UInt64.size ≤ settings.dhcpTimeout.toNat + 1 ∧
        turn.RequestsLease (networkSetup m settings ipv6) where
  plumb iface family w := by
    rw [← ((addressTools m settings).plumb_adds iface family w).aborted]
    rfl
  linkLocal iface w := by
    rw [← ((addressTools m settings).bringUpLinkLocal_adds iface w).aborted]
    rfl
  apply c t l := by
    cases t with
    | dhcp =>
      have hlease := LeaseTools.startLease_aborted_iff (addressTools m settings)
        (leaseTools m settings) settings.dhcpTimeout c l
      rw [← assigner_networkSetup m settings ipv6] at hlease
      refine hlease.trans (or_congr_right (and_congr_right fun _ => ?_))
      exact (and_iff_right rfl).symm
    | addrconf => simp [Assigner.apply, Turn.RequestsLease]
    | literal addr =>
      rw [Assigner.apply, applyLiteral_aborted]
      simp [Turn.RequestsLease]
  send message w := by
    rw [← (adds_send message (m.routeWrite w message) w).aborted]
    rfl
  autoconf w := by
    rw [← ((adds_tell [.autoconfStarting] w).trans
      ((Service.neighborDiscovery settings.nativeRoot).start_adds m.toHost _)).aborted]
    rfl
  tell n w := by
    rw [← (adds_tell (LogEntry.ofSetupNote m.interfaceIndex n) w).aborted]
    rfl

/-- Network setup breaks off just when it requests a lease and there is no bound for the tool. -/
theorem networkSetup_aborted_iff (ipv6 : Bool) (nets : List Net) {w : World}
    (hw : w.aborted = false) :
    ((networkSetup m settings ipv6).run nets w).2.ledger.world.aborted = true ↔
      UInt64.size ≤ settings.dhcpTimeout.toNat + 1 ∧
        ∃ turn ∈ (networkSetup m settings ipv6).runTurns nets w,
          turn.RequestsLease (networkSetup m settings ipv6) := by
  rw [(networkSetup_arisesIn m settings ipv6).run]
  simp only [hw, Bool.false_eq_true, false_or]
  constructor
  · rintro ⟨turn, hturn, hbound, hrequests⟩
    exact ⟨hbound, turn, hturn, hrequests⟩
  · rintro ⟨hbound, turn, hturn, hrequests⟩
    exact ⟨turn, hturn, hbound, hrequests⟩

/-! ## Boots that break off -/

theorem setUp_aborted_iff {d : Declared} {w : World} :
    (setUp m settings d w).1 = .error .aborted ↔
      ((networkSetup m settings d.ipv6).run d.zone.nets w).2.ledger.world.aborted = true := by
  unfold setUp
  rcases (networkSetup m settings d.ipv6).run d.zone.nets w with ⟨result, p⟩
  dsimp only
  by_cases haborted : p.ledger.world.aborted = true
  · rw [if_pos haborted]
    simp [haborted]
  · rw [if_neg haborted]
    rcases result with e | report <;> simp [haborted]

/-- Of all stages only network setup breaks off. -/
theorem stages_aborted_iff : (stages m settings (beforeStages m settings)).1 = .error .aborted ↔
    ∃ d, Cleared m settings d ∧
      (setUp m settings d (beforeSetup m settings)).1 = .error .aborted := by
  have hmanager := startManager_runs m settings (beforeStages m settings)
  have hread := readZone_runs m settings (beforeReading m settings)
  unfold stages
  simp only [Outcome.fst_andThen_eq_error_iff]
  constructor
  · rintro (h | ⟨_, hmanaged, h | ⟨d, hdeclared, h⟩⟩)
    · exact absurd h hmanager.goes
    · exact absurd h hread.goes
    · refine ⟨d, ⟨(startManager_ok_iff m settings).1 hmanaged,
        (readZone_ok_iff m settings).1 hdeclared⟩, ?_⟩
      rcases h with h | ⟨_, -, h | ⟨_, -, h | ⟨_, -, h⟩⟩⟩
      · exact h
      -- the stages behind it do not break off
      · exact absurd h (setBuffers_runs m settings d _).1.goes
      · exact absurd h (runFeed_runs m settings _).goes
      · exact absurd h (runHook_runs m settings _).goes
  · rintro ⟨d, ⟨hmanaged, hdeclares⟩, h⟩
    exact .inr ⟨(), (startManager_ok_iff m settings).2 hmanaged,
      .inr ⟨d, (readZone_ok_iff m settings).2 hdeclares, .inl h⟩⟩

theorem run_exit_eq_iff (filter : LogFilter) : (run m settings filter).exit = .status 101 ↔
    (stages m settings (beforeStages m settings)).1 = .error .aborted := by
  rw [run_exit]
  generalize (stages m settings (beforeStages m settings)).1 = result
  unfold ending
  rcases result with (e | _) | _
  · cases settings.pauseOnFatal <;> simp
  · simp
  · simp

/-- A boot breaks off just when it comes to request a lease and there is no bound for the tool. -/
theorem run_broken_iff (filter : LogFilter) : (run m settings filter).exit = .status 101 ↔
    UInt64.size ≤ settings.dhcpTimeout.toNat + 1 ∧ ∃ d, Cleared m settings d ∧
      ∃ turn ∈ (networkSetup m settings d.ipv6).runTurns d.zone.nets (beforeSetup m settings),
        turn.RequestsLease (networkSetup m settings d.ipv6) := by
  rw [run_exit_eq_iff, stages_aborted_iff]
  simp only [setUp_aborted_iff,
    networkSetup_aborted_iff m settings _ _ (aborted_beforeSetup m settings)]
  constructor
  · rintro ⟨d, hcleared, hbound, hrequests⟩
    exact ⟨hbound, d, hcleared, hrequests⟩
  · rintro ⟨hbound, d, hcleared, hrequests⟩
    exact ⟨d, hcleared, hbound, hrequests⟩

/-! ## The settings of an environment -/

/-- The bound on a request for a lease, for the settings of any environment. It is the number of
seconds that the environment asks for, or the default if it asks for none that can be told. It comes
unchanged to what requests a lease, and the tool that is waited for has one second more, unless it is
the last second that is asked for: then there is no bound for the tool. Network setup breaks off just
when that is so and a lease is requested, and so does a boot. -/
theorem leaseBounds (lookup : String → Option String) :
    let settings := Settings.ofLookup lookup
    let seconds := settings.dhcpTimeout
    (∀ n < UInt64.size, Settings.AsksFor lookup n → seconds.toNat = n) ∧
    ((∀ n < UInt64.size, ¬Settings.AsksFor lookup n) → seconds = 5) ∧
    (∀ m ipv6, (networkSetup m settings ipv6).assigner.timeout = seconds) ∧
    (∀ bound, LeaseTools.leaseBound? seconds = some bound → bound.toNat = seconds.toNat + 1) ∧
    (LeaseTools.leaseBound? seconds = none ↔ Settings.AsksFor lookup Settings.lastSecond) ∧
    (∀ m ipv6 nets (w : World), w.aborted = false →
      (((networkSetup m settings ipv6).run nets w).2.ledger.world.aborted = true ↔
        Settings.AsksFor lookup Settings.lastSecond ∧
          ∃ turn ∈ (networkSetup m settings ipv6).runTurns nets w,
            turn.RequestsLease (networkSetup m settings ipv6))) ∧
    ∀ m filter, (run m settings filter).exit = .status 101 ↔
      Settings.AsksFor lookup Settings.lastSecond ∧ ∃ d, Cleared m settings d ∧
        ∃ turn ∈ (networkSetup m settings d.ipv6).runTurns d.zone.nets (beforeSetup m settings),
          turn.RequestsLease (networkSetup m settings d.ipv6) := by
  intro settings seconds
  have hlast := Settings.size_le_dhcpTimeout_iff lookup
  refine ⟨fun n hn hasks => Settings.toNat_dhcpTimeout hasks hn, Settings.dhcpTimeout_eq_default,
    fun _ _ => rfl, fun _ => LeaseTools.toNat_of_leaseBound?, ?_, ?_, ?_⟩
  · rw [LeaseTools.leaseBound?_eq_none_iff, hlast]
  · intro m ipv6 nets w hw
    rw [networkSetup_aborted_iff m settings ipv6 nets hw, hlast]
  · intro m filter
    rw [run_broken_iff, hlast]

/-- The machine on which every program exits with zero, for a zone with one interface that is to have
a lease. -/
def leasing : Machine :=
  { willing with
    fileBytes _ _ := .ok (Utf8.encode ("\x7b\"zonename\":\"z\",\"attrs\":["
      ++ "\x7b\"name\":\"kernel-version\",\"value\":\"4.4\"\x7d],\"nets\":["
      ++ "\x7b\"physical\":\"net0\",\"attrs\":["
      ++ "\x7b\"name\":\"ips\",\"value\":\"dhcp\"\x7d]\x7d]\x7d")) }

/-- An environment in which nothing but a bound is asked for. -/
def bounded (text name : String) : Option String :=
  if name = "LXINIT_DHCP_TIMEOUT_SECS" then some text else none

/-- With one second less than the last one there is a bound for the tool, which is started, and the
boot goes through all stages. -/
theorem leaseBounds_beforeLast :
    let settings := Settings.ofLookup (bounded "+18446744073709551614")
    (∃ bound, LeaseTools.leaseBound? settings.dhcpTimeout = some bound ∧
      bound.toNat = Settings.lastSecond) ∧
      ⟨"/native/sbin/ifconfig", ["net0", "dhcp", "start", "wait", "18446744073709551614"],
        .inherited, false⟩ ∈ (run leasing settings .byDefault).world.attempts ∧
      (run leasing settings .byDefault).exit ≠ .status 101 ∧
      (run leasing settings .byDefault).exit = .status 0 := by
  intro settings
  obtain ⟨htold, -, -, hbound, hnone, -, hexit⟩ := leaseBounds (bounded "+18446744073709551614")
  have hasks : Settings.AsksFor (bounded "+18446744073709551614") 18446744073709551614 :=
    ⟨"+18446744073709551614", "18446744073709551614".toList, rfl, .inr rfl, by decide,
      List.all_eq_true.1 (by decide), by decide⟩
  have hseconds := htold _ (by decide) hasks
  have hnot : ¬Settings.AsksFor (bounded "+18446744073709551614") Settings.lastSecond := by
    intro hlast
    rw [htold _ (by decide) hlast] at hseconds
    exact absurd hseconds (by decide)
  have hexit' : (run leasing settings .byDefault).exit ≠ .status 101 :=
    fun h => hnot ((hexit leasing .byDefault).1 h).1
  refine ⟨?_, by decide +kernel, hexit', by decide +kernel⟩
  rcases hsome : LeaseTools.leaseBound? settings.dhcpTimeout with _ | bound
  · exact absurd (hnone.1 hsome) hnot
  · refine ⟨bound, rfl, ?_⟩
    rw [hbound bound hsome, hseconds]
    rfl

/-- With the last second the boot of that machine breaks off once the agent is there, though the pause
on a failure is on, and neither the tool nor any later program is started. -/
theorem leaseBounds_last :
    let settings := Settings.ofLookup (bounded "18446744073709551615")
    LeaseTools.leaseBound? settings.dhcpTimeout = none ∧ settings.pauseOnFatal = true ∧
      (run leasing settings .byDefault).exit = .status 101 ∧
      (run leasing settings .byDefault).world.attempts.getLast?
        = some (leaseTools leasing settings).agentCommand := by
  decide +kernel

end Boot

end ZoneNet
