import ZoneNet.Proofs.Setup.Accounts

/-!
# The account of a run

A run that comes to its end has an account of every token of every address list: what was activated,
which leases were asked for, what was warned of and how many names were spent is read off it, and
there is nothing besides.

* `countP_spends` — a literal spends a name or is warned of for want of an interface.
* `run_accounting` — the report and the journal of a run balance with its accounts.
-/

namespace ZoneNet

def Token.isLiteral : Token → Bool
  | literal _ => true
  | _ => false

/-- Whether a warning is of a token for which there was no interface. -/
def SetupWarning.isUnplaced : SetupWarning → Bool
  | address _ _ (.alloc _) => true
  | _ => false

variable {r : Recorder} {zone : Bool} {timeout : UInt64}

/-! ## Settlements -/

namespace Settlement

/-- A literal is activated or warned of, and not both. -/
theorem Fits.literal {s : Settlement} (h : s.Fits r timeout) {addr : String}
    (htoken : s.token = .literal addr) :
    (∃ name, s.footprint = [.activate name addr] ∧ s.warning? = none) ∨
      ∃ e, s.footprint = [] ∧ s.warning? = some (.address s.iface addr e) := by
  cases h with
  | noted => cases htoken
  | leased => cases htoken
  | unleased => cases htoken
  | unplaced =>
    cases htoken
    exact Or.inr ⟨_, rfl, rfl⟩
  | failed =>
    cases htoken
    exact Or.inr ⟨_, rfl, rfl⟩
  | activated =>
    cases htoken
    exact Or.inl ⟨_, rfl, rfl⟩

/-- A lease is asked for once, and the setting of the agent decides what comes of it. -/
theorem Fits.dhcp {s : Settlement} (h : s.Fits r timeout) (htoken : s.token = .dhcp) :
    s.footprint = [.startLease s.iface] ∧
      match r.leaseCause timeout s.iface with
      | none => s.result = .ok (.lease s.iface) ∧ s.warning? = none
      | some cause => s.warning? = some (.address s.iface "dhcp" (.lease s.iface cause)) := by
  cases h with
  | leased hcause =>
    rw [hcause]
    exact ⟨rfl, rfl, rfl⟩
  | unleased hcause =>
    rw [hcause]
    exact ⟨rfl, rfl⟩
  | _ => cases htoken

/-- A literal spends a name or is warned of for want of an interface; no other token does either. -/
theorem Fits.count {s : Settlement} (h : s.Fits r timeout) :
    (if s.spends then 1 else 0) + s.warning?.toList.countP SetupWarning.isUnplaced
      = if s.token.isLiteral then 1 else 0 := by
  cases h with
  | _ => rfl

end Settlement

namespace Recorder

/-! ## Names -/

theorem countP_spends {settled : List Settlement} (h : ∀ s ∈ settled, s.Fits r timeout) :
    settled.countP Settlement.spends
        + (settled.filterMap Settlement.warning?).countP SetupWarning.isUnplaced
      = (settled.map Settlement.token).countP Token.isLiteral := by
  induction settled with
  | nil => rfl
  | cons s settled ih =>
    have hrest := ih fun s' hm => h s' (List.mem_cons_of_mem _ hm)
    have hfirst := (h s List.mem_cons_self).count
    -- each settlement counts on the left as often as its token on the right
    have hwarnings : (s :: settled).filterMap Settlement.warning?
        = s.warning?.toList ++ settled.filterMap Settlement.warning? := by
      rw [List.filterMap_cons]
      cases s.warning? <;> rfl
    rw [hwarnings, List.countP_append, List.countP_cons, List.map_cons, List.countP_cons]
    omega

/-- The order of application keeps every literal. -/
theorem countP_order (tokens : List Token) :
    (Setup.order tokens).countP Token.isLiteral = tokens.countP Token.isLiteral := by
  have hrest : (tokens.filter (· ≠ .dhcp)).countP Token.isLiteral
      = tokens.countP Token.isLiteral := by
    rw [List.countP_filter]
    congr 1
    funext t
    cases t <;> rfl
  by_cases hdhcp : .dhcp ∈ tokens
  · rw [order_of_mem hdhcp, List.countP_cons, hrest]
    rfl
  · rw [order_of_not_mem hdhcp, hrest]

theorem countP_linkLocalWarnings (iface : String) :
    (r.linkLocalWarnings iface).countP SetupWarning.isUnplaced = 0 := by
  unfold linkLocalWarnings
  by_cases h : iface ∈ r.failLinkLocal
  · rw [if_pos h]
    rfl
  · rw [if_neg h]
    rfl

/-- Of the warnings of an account only those of its tokens are for want of an interface. -/
theorem countP_accountWarnings (a : Account) :
    (r.accountWarnings zone a).countP SetupWarning.isUnplaced
      = (a.settled.filterMap Settlement.warning?).countP SetupWarning.isUnplaced := by
  have habsence : (absenceWarnings a.net).countP SetupWarning.isUnplaced = 0 := by
    unfold absenceWarnings
    by_cases h : a.net.chosenList = none
    · rw [if_pos h]
      rfl
    · rw [if_neg h]
      rfl
  have hlinkLocal : (if a.net.keepsIpv6 zone then r.linkLocalWarnings a.net.physical
      else []).countP SetupWarning.isUnplaced = 0 := by
    by_cases h : a.net.keepsIpv6 zone = true
    · rw [if_pos h, countP_linkLocalWarnings]
    · rw [if_neg h]
      rfl
  rw [accountWarnings, List.countP_append, List.countP_append, habsence, hlinkLocal, Nat.zero_add]

/-- Every literal of the lists spends a name or is warned of for want of an interface. -/
theorem countP_accounts (zone : Bool) {accounts : List Account}
    (h : ∀ a ∈ accounts, a.Fits r timeout) :
    (accounts.flatMap Account.settled).countP Settlement.spends
        + (accounts.flatMap (r.accountWarnings zone)).countP SetupWarning.isUnplaced
      = ((accounts.map Account.net).flatMap Net.tokens).countP Token.isLiteral := by
  induction accounts with
  | nil => rfl
  | cons a accounts ih =>
    have hrest := ih fun a' hm => h a' (List.mem_cons_of_mem _ hm)
    have hfits := h a List.mem_cons_self
    have hfirst := countP_spends hfits.settled
    rw [Settlement.map_token hfits.tokens, ← a.net.order_tokens, countP_order] at hfirst
    rw [List.flatMap_cons, List.flatMap_cons, List.map_cons, List.flatMap_cons, List.countP_append,
      List.countP_append, List.countP_append, countP_accountWarnings]
    omega

/-! ## A run -/

/-- A report and the calls of a run balance with a first settlement, of the loopback address, and the
accounts of the interfaces. -/
structure Balances (r : Recorder) (zone : Bool) (timeout : UInt64) (nets : List Net)
    (report : SetupReport) (calls : List Call) (first : Settlement) (accounts : List Account) :
    Prop where
  loopback : first.iface = "lo0" ∧ first.token = .literal "127.0.0.1/8"
  /-- Every interface has one account. -/
  covers : accounts.map Account.net = nets
  /-- Every token has one settlement, in the order of application: `dhcp` first and once. -/
  tokens : ∀ a ∈ accounts, a.settled.map (fun s => (s.iface, s.token))
    = a.net.ordered.map (a.net.physical, ·)
  /-- A literal is activated or warned of. -/
  literals : ∀ s ∈ first :: accounts.flatMap Account.settled, ∀ addr, s.token = .literal addr →
    (∃ name, s.footprint = [.activate name addr] ∧ s.warning? = none) ∨
      ∃ e, s.footprint = [] ∧ s.warning? = some (.address s.iface addr e)
  /-- A lease is asked for, and started or warned of. -/
  leases : ∀ s ∈ first :: accounts.flatMap Account.settled, s.token = .dhcp →
    s.footprint = [.startLease s.iface] ∧
      match r.leaseCause timeout s.iface with
      | none => s.result = .ok (.lease s.iface) ∧ s.warning? = none
      | some cause => s.warning? = some (.address s.iface "dhcp" (.lease s.iface cause))
  interfaces : report.interfaces = "lo0" :: nets.map Net.physical
  /-- The leases asked for and the addresses activated, in order; there are no others. -/
  footprint : calls.filter Call.isSettling
    = (first :: accounts.flatMap Account.settled).flatMap Settlement.footprint
  /-- The link-local addresses brought up. -/
  linked : calls.filterMap Call.linkLocal?
    = (if zone then ["lo0"] else [])
      ++ (nets.filter (Net.keepsIpv6 zone)).map Net.physical
  /-- The warnings, in order; there are no others. -/
  warnings : report.warnings = first.warning?.toList
    ++ (if zone then r.linkLocalWarnings "lo0" else [])
    ++ accounts.flatMap (r.accountWarnings zone)
  unplaced : report.warnings.countP SetupWarning.isUnplaced
    ≤ (nets.flatMap Net.tokens).countP Token.isLiteral
  /-- The names issued, one for the loopback address, as a number of 32 bits. -/
  names : report.namesIssued = UInt32.ofNat (1 + (nets.flatMap Net.tokens).countP Token.isLiteral
    - report.warnings.countP SetupWarning.isUnplaced)
  addrconf : report.addrconfStarted = true ↔ ∃ net ∈ nets, .addrconf ∈ net.tokens
  /-- Autoconfiguration is started at most once, after everything else. -/
  autoconf : ∃ before, .startAutoconf ∉ before ∧
    calls = before ++ if report.addrconfStarted then [.startAutoconf] else []

/-- A run that comes to its end reports what was reached, and starts autoconfiguration if that was
asked for. -/
theorem run_ok {nets : List Net} {j : Journal} {report : SetupReport}
    (h : ((r.setup zone timeout).run nets j).1 = .ok report) :
    ∃ q, (r.setup zone timeout).reach nets j = (.ok (), q) ∧
      report = q.report q.ledger.addrconf ∧
      ((r.setup zone timeout).run nets j).2
        = q.add { calls := if q.ledger.addrconf then [.startAutoconf] else [] } := by
  rw [Setup.run_eq] at h ⊢
  rcases hreach : (r.setup zone timeout).reach nets j with ⟨_ | _, q⟩
  · rw [hreach] at h
    cases h
  · rw [hreach, Outcome.andThen_ok, finish_eq] at h
    refine ⟨q, rfl, ?_⟩
    rw [Outcome.andThen_ok, finish_eq]
    by_cases hasked : q.ledger.addrconf = true
    · rw [if_pos hasked] at h
      by_cases hfail : r.failAutoconf = true
      · rw [if_pos hfail] at h
        cases h
      · rw [if_neg hfail] at h
        cases h
        rw [if_pos hasked, if_neg hfail, hasked]
        exact ⟨rfl, rfl⟩
    · rw [if_neg hasked] at h
      cases h
      rw [if_neg hasked, Bool.eq_false_iff.2 hasked]
      exact ⟨rfl, (Progress.add_empty q).symm⟩

/-- The names spent and the warnings of literals without an interface make up the literals of all
lists and the loopback address, which spent one. -/
theorem TellsLoopback.count {s : Settlement} {g g' : Gain} {accounts : List Account}
    (hloopback : r.TellsLoopback zone timeout s g) (htells : r.Tells zone timeout accounts g') :
    1 ≤ (g ++ g').names ∧
      (g ++ g').names + (g ++ g').warnings.countP SetupWarning.isUnplaced
        = 1 + ((accounts.map Account.net).flatMap Net.tokens).countP Token.isLiteral := by
  -- the loopback address spent a name, so it had an interface
  have hfirst : s.warning?.toList.countP SetupWarning.isUnplaced = 0 := by
    have hcount := hloopback.fits.count
    rw [hloopback.spends, hloopback.token] at hcount
    simpa [Token.isLiteral] using hcount
  have hlinkLocal : (if zone then r.linkLocalWarnings Setup.loopbackName else []).countP
      SetupWarning.isUnplaced = 0 := by
    cases zone with
    | false => rfl
    | true => exact countP_linkLocalWarnings _
  have haccounts := countP_accounts zone htells.fits
  rw [Gain.names_append, hloopback.names, htells.names, Gain.warnings_append, hloopback.warnings,
    htells.warnings, List.countP_append, List.countP_append, hfirst, hlinkLocal]
  omega

theorem TellsLoopback.all_fits {s : Settlement} {g g' : Gain} {accounts : List Account}
    (hloopback : r.TellsLoopback zone timeout s g) (htells : r.Tells zone timeout accounts g') :
    ∀ s' ∈ s :: accounts.flatMap Account.settled, s'.Fits r timeout := by
  intro s' hs'
  rcases List.mem_cons.1 hs' with rfl | hs'
  · exact hloopback.fits
  · obtain ⟨a, ha, hs'⟩ := List.mem_flatMap.1 hs'
    exact (htells.fits a ha).settled s' hs'

/-- What was reached balances, with or without autoconfiguration after it. -/
theorem TellsLoopback.balances {s : Settlement} {g g' : Gain} {accounts : List Account}
    (hloopback : r.TellsLoopback zone timeout s g) (htells : r.Tells zone timeout accounts g')
    (j : Journal) :
    r.Balances zone timeout (accounts.map Account.net)
      (((Progress.start j).add (g ++ g')).report (g ++ g').addrconf)
      ((g ++ g').calls ++ if (g ++ g').addrconf then [.startAutoconf] else []) s accounts where
  loopback := ⟨hloopback.iface, hloopback.token⟩
  covers := rfl
  tokens := fun a ha => (htells.fits a ha).tokens
  literals := fun s' hs' _ haddr => (hloopback.all_fits htells s' hs').literal haddr
  leases := fun s' hs' hdhcp => (hloopback.all_fits htells s' hs').dhcp hdhcp
  interfaces := by
    show (g ++ g').interfaces = _
    rw [Gain.interfaces_append, hloopback.interfaces, htells.interfaces, List.map_map]
    rfl
  footprint := by
    have hending : (if (g ++ g').addrconf then [Call.startAutoconf] else []).filter Call.isSettling
        = [] := by
      cases (g ++ g').addrconf <;> rfl
    rw [List.filter_append, hending, List.append_nil, Gain.calls_append, List.filter_append,
      hloopback.footprint, htells.footprint, List.flatMap_cons, List.flatMap_assoc]
  linked := by
    have hending : (if (g ++ g').addrconf then [Call.startAutoconf] else []).filterMap
        Call.linkLocal? = [] := by
      cases (g ++ g').addrconf <;> rfl
    rw [List.filterMap_append, hending, List.append_nil, Gain.calls_append, List.filterMap_append,
      hloopback.linked, htells.linked]
    rfl
  warnings := by
    show (g ++ g').warnings = _
    rw [Gain.warnings_append, hloopback.warnings, htells.warnings]
    rfl
  unplaced := by
    obtain ⟨hone, hcount⟩ := hloopback.count htells
    show (g ++ g').warnings.countP _ ≤ _
    omega
  names := by
    obtain ⟨-, hcount⟩ := hloopback.count htells
    show 0 + UInt32.ofNat (g ++ g').names = UInt32.ofNat (_ - (g ++ g').warnings.countP _)
    rw [UInt32.zero_add, ← hcount, Nat.add_sub_cancel]
  addrconf := hloopback.addrconf_iff htells
  autoconf := by
    -- autoconfiguration is a step of its own, after those of the interfaces
    have hmade : Made .plumb .route (g ++ g').calls :=
      (hloopback.made.mono (by decide) (by decide)).append htells.made
    exact ⟨_, hmade.startAutoconf_not_mem (by decide), rfl⟩

/-- A run that comes to its end has accounts that its report and its calls balance with. -/
theorem run_accounting (r : Recorder) (zone : Bool) (timeout : UInt64) (nets : List Net)
    (j : Journal) {report : SetupReport}
    (h : ((r.setup zone timeout).run nets j).1 = .ok report) :
    ∃ first accounts calls,
      ((r.setup zone timeout).run nets j).2.ledger.world = j ++ calls ∧
        r.Balances zone timeout nets report calls first accounts := by
  obtain ⟨q, hreach, rfl, hrun⟩ := run_ok h
  obtain ⟨s, g, accounts, g', hloopback, rfl, htells, rfl⟩ := exists_reach hreach
  rw [Progress.addrconf_start] at hrun ⊢
  refine ⟨s, accounts, _, ?_, hloopback.balances htells j⟩
  rw [hrun]
  exact List.append_assoc _ _ _

/-- No logical interface can be had: the lease takes the base interface, so the literal beside it is
warned of and spends no name, and the run has spent two. -/
theorem run_accounting_failLogical :
    let u := Recorder.setup { failLogical := true, failLinkLocal := ["net1"] } true 5
    let nets : List Net := [
      { physical := "net0", attrs := [⟨"ips", "10.0.0.2/24,dhcp,addrconf,dhcp"⟩] },
      { physical := "net1", attrs := [⟨"ips", "10.1.0.2/24"⟩] },
      { physical := "net2" }]
    let report : SetupReport := {
      interfaces := ["lo0", "net0", "net1", "net2"]
      warnings := [
        .address "net0" "10.0.0.2/24"
          (.alloc ⟨"net0", .v4, .rejected "SIOCLIFADDIF" "no buffer space available"⟩),
        .linkLocal "net1" (.rejected "SIOCSLIFFLAGS" "no such interface"),
        .noConfiguration "net2"]
      addrconfStarted := true
      namesIssued := 2
    }
    (u.run nets []).1 = .ok report ∧ ∃ first accounts calls,
      (u.run nets []).2.ledger.world = [] ++ calls ∧
        Recorder.Balances { failLogical := true, failLinkLocal := ["net1"] } true 5 nets report calls
          first accounts := by
  intro u nets report
  have hrun : (u.run nets []).1 = .ok report := by rfl
  exact ⟨hrun, run_accounting { failLogical := true, failLinkLocal := ["net1"] } true 5 nets [] hrun⟩

end Recorder

end ZoneNet
