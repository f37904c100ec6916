import ZoneNet.Proofs.Setup.Interfaces

/-!
# The accounts of interfaces

An interface that was set up has an account: a settlement for each of its tokens. Whatever else is
read off a journal or a report adds up over the accounts in order.

* `Sets.tells`, `exists_accounts` — interfaces that were set up have accounts.
* `exists_loopback` — the loopback interface fails over plumbing alone.
* `exists_reach` — when every interface was set up, what was added is told by the accounts.
-/

namespace ZoneNet

/-- The account of an interface: what came of each of its tokens. -/
structure Account where
  net : Net
  settled : List Settlement

/-- An account of a settlement for each token, in the order of application. -/
structure Account.Fits (a : Account) (r : Recorder) (timeout : UInt64) : Prop where
  tokens : a.settled.map (fun s => (s.iface, s.token))
    = a.net.ordered.map (a.net.physical, ·)
  settled : ∀ s ∈ a.settled, s.Fits r timeout

namespace Recorder

variable (r : Recorder) (zone : Bool) (timeout : UInt64)

/-- The warnings of an account: of an absent list, of the link-local address, of the tokens. -/
def accountWarnings (a : Account) : List SetupWarning :=
  absenceWarnings a.net
    ++ (if a.net.keepsIpv6 zone then r.linkLocalWarnings a.net.physical else [])
    ++ a.settled.filterMap Settlement.warning?

/-- A gain that these accounts tell in order. -/
structure Tells (accounts : List Account) (g : Gain) : Prop where
  fits : ∀ a ∈ accounts, a.Fits r timeout
  footprint : g.calls.filter Call.isSettling
    = accounts.flatMap fun a => a.settled.flatMap Settlement.footprint
  made : Made .plumb .route g.calls
  linked : g.calls.filterMap Call.linkLocal?
    = ((accounts.map Account.net).filter (Net.keepsIpv6 zone)).map Net.physical
  warnings : g.warnings = accounts.flatMap (r.accountWarnings zone)
  interfaces : g.interfaces = accounts.map (·.net.physical)
  names : g.names = (accounts.flatMap Account.settled).countP Settlement.spends
  addrconf : g.addrconf = (accounts.map Account.net).any fun net => decide (.addrconf ∈ net.tokens)

variable {r zone timeout}

theorem tells_nil : r.Tells zone timeout [] {} where
  fits := fun _ h => absurd h List.not_mem_nil
  footprint := rfl
  made := made_nil _ _
  linked := rfl
  warnings := rfl
  interfaces := rfl
  names := rfl
  addrconf := rfl

theorem Tells.append {accounts accounts' : List Account} {g h : Gain}
    (hg : r.Tells zone timeout accounts g) (hh : r.Tells zone timeout accounts' h) :
    r.Tells zone timeout (accounts ++ accounts') (g ++ h) where
  fits := by
    intro a ha
    rcases List.mem_append.1 ha with ha | ha
    · exact hg.fits a ha
    · exact hh.fits a ha
  footprint := by
    rw [Gain.calls_append, List.filter_append, hg.footprint, hh.footprint, List.flatMap_append]
  made := hg.made.append hh.made
  linked := by
    rw [Gain.calls_append, List.filterMap_append, hg.linked, hh.linked, List.map_append,
      List.filter_append, List.map_append]
  warnings := by rw [Gain.warnings_append, hg.warnings, hh.warnings, List.flatMap_append]
  interfaces := by rw [Gain.interfaces_append, hg.interfaces, hh.interfaces, List.map_append]
  names := by
    rw [Gain.names_append, hg.names, hh.names, List.flatMap_append, List.countP_append]
  addrconf := by
    rw [Gain.addrconf_append, hg.addrconf, hh.addrconf, List.map_append, List.any_append]

/-- A default route leaves an account as it is. -/
theorem Tells.append_routing {accounts : List Account} {g h : Gain}
    (hg : r.Tells zone timeout accounts g) (hh : h.IsRouting) :
    r.Tells zone timeout accounts (g ++ h) where
  fits := hg.fits
  footprint := by
    rw [Gain.calls_append, List.filter_append, hh.calls.filter_isSettling (by decide) (by decide),
      List.append_nil, hg.footprint]
  made := hg.made.append (hh.calls.mono (by decide) (by decide))
  linked := by
    rw [Gain.calls_append, List.filterMap_append, hh.calls.linkLocal_eq_nil (by decide),
      List.append_nil, hg.linked]
  warnings := by rw [Gain.warnings_append, hh.warnings, List.append_nil, hg.warnings]
  interfaces := by rw [Gain.interfaces_append, hh.interfaces, List.append_nil, hg.interfaces]
  names := by rw [Gain.names_append, hh.names, Nat.add_zero, hg.names]
  addrconf := by rw [Gain.addrconf_append, hh.addrconf, Bool.or_false, hg.addrconf]

/-- An interface that was opened and whose tokens were settled has an account. -/
theorem Assigns.tells {net : Net} {enabled : Bool} {settled : List Settlement} {g : Gain}
    (hopens : r.Opens zone net enabled) (h : r.Assigns timeout net settled g) :
    r.Tells zone timeout [⟨net, settled⟩] (r.opening zone enabled net ++ g) where
  fits := by
    intro a ha
    rw [List.mem_singleton.1 ha]
    exact ⟨h.tokens, h.settles.fits⟩
  footprint := by
    rw [Gain.calls_append, List.filter_append, filter_opening, List.nil_append,
      h.settles.footprint, List.flatMap_singleton]
  made := (h.made zone enabled).mono (by decide) (by decide)
  linked := by
    rw [Gain.calls_append, List.filterMap_append, linked_opening,
      h.settles.made.linkLocal_eq_nil (by decide), List.append_nil, hopens.enabled]
    by_cases hkeeps : net.keepsIpv6 zone = true
    · simp [hkeeps]
    · simp [hkeeps]
  warnings := by
    rw [Gain.warnings_append, h.settles.warnings, warnings_opening, hopens.enabled]
    rw [List.flatMap_singleton, accountWarnings]
  interfaces := by
    rw [Gain.interfaces_append, h.settles.interfaces, interfaces_opening]
    rfl
  names := by
    rw [Gain.names_append, h.settles.names, names_opening, Nat.zero_add, List.flatMap_singleton]
  addrconf := by
    have hmem : .addrconf ∈ net.tokens ↔ ∃ s ∈ settled, s.token = .addrconf := by
      rw [← mem_order, net.order_tokens, ← Settlement.map_token h.tokens, List.mem_map]
    rw [Gain.addrconf_append, h.settles.addrconf, addrconf_opening, Bool.false_or, Bool.eq_iff_iff]
    simp [hmem]

/-- An interface that was set up has an account. -/
theorem Sets.tells {net : Net} {g : Gain} (h : r.Sets zone timeout net (.ok ()) g) :
    ∃ settled, r.Tells zone timeout [⟨net, settled⟩] g := by
  generalize hresult : (.ok () : Except SetupError Unit) = result at h
  cases h with
  | unrouted hopens hassigns => exact ⟨_, hassigns.tells hopens⟩
  | routed hopens hassigns _ _ _ hrouting =>
    exact ⟨_, (hassigns.tells hopens).append_routing hrouting⟩
  | _ => cases hresult

/-- Interfaces that were set up in order have accounts in order. -/
theorem exists_accounts (nets : List Net) {p q : Progress Journal}
    (h : Outcome.each (r.setup zone timeout).configure nets p = (.ok (), q)) :
    ∃ accounts g, accounts.map Account.net = nets ∧ r.Tells zone timeout accounts g ∧
      q = p.add g := by
  induction nets generalizing p with
  | nil =>
    cases h
    exact ⟨[], {}, rfl, tells_nil, (Progress.add_empty _).symm⟩
  | cons net nets ih =>
    obtain ⟨result, g, hsets, hconfigure⟩ := r.exists_sets zone timeout net p
    rw [Outcome.each_cons, hconfigure] at h
    -- an error of the first interface would be the error of all
    cases result with
    | error e => cases h
    | ok u =>
      obtain ⟨settled, hfirst⟩ := hsets.tells
      obtain ⟨accounts, g', hmap, hrest, rfl⟩ := ih h
      exact ⟨⟨net, settled⟩ :: accounts, g ++ g', by rw [List.map_cons, hmap],
        hfirst.append hrest, Progress.add_add p g g'⟩

/-! ## The loopback interface -/

variable (r zone timeout)

/-- A gain of the loopback interface, with the settlement of its address. That address is always
placed, so it always spends a name. -/
structure TellsLoopback (s : Settlement) (g : Gain) : Prop where
  iface : s.iface = Setup.loopbackName
  token : s.token = .literal Setup.loopbackAddress
  fits : s.Fits r timeout
  spends : s.spends = true
  footprint : g.calls.filter Call.isSettling = s.footprint
  made : Made .plumb .addresses g.calls
  linked : g.calls.filterMap Call.linkLocal? = if zone then [Setup.loopbackName] else []
  warnings : g.warnings
    = s.warning?.toList ++ if zone then r.linkLocalWarnings Setup.loopbackName else []
  interfaces : g.interfaces = [Setup.loopbackName]
  names : g.names = 1
  addrconf : g.addrconf = false

/-- A literal on a fresh context spends a name if it is an IPv4 address. -/
theorem Writes.spends_of_fresh {r : Recorder} {timeout : UInt64} {c : Context} {l : Ledger Journal}
    {addr : String} {result : Except AssignError Applied} {calls : List Call}
    (h : r.Writes timeout c l (.literal addr) result calls) (hfresh : c.occupied = false)
    (hfamily : Family.ofLiteral addr = .v4) : (Token.literal addr).spends result = true := by
  cases h with
  | unplaced hf hn =>
    rw [Token.family?, Option.some.injEq, hfamily] at hf
    exact absurd ⟨hf.symm, hfresh⟩ hn
  | _ => rfl

/-- What is added for the loopback interface, with what is added for its address. -/
def loopbackGain (g : Gain) : Gain :=
  plumbing zone Setup.loopbackName ++ g ++ r.linking zone Setup.loopbackName
    ++ { interfaces := [Setup.loopbackName] }

theorem tellsLoopback {s : Settlement} {g : Gain} (hiface : s.iface = Setup.loopbackName)
    (htoken : s.token = .literal Setup.loopbackAddress) (hspends : s.spends = true)
    (hsettles : g.Settles r timeout [s]) :
    r.TellsLoopback zone timeout s (r.loopbackGain zone g) where
  iface := hiface
  token := htoken
  fits := hsettles.fits s (List.mem_singleton.2 rfl)
  spends := hspends
  footprint := by
    have hfilter := hsettles.footprint
    rw [List.flatMap_singleton] at hfilter
    cases zone <;> simp [loopbackGain, plumbing, linking, hfilter, Call.isSettling]
  made := by
    have hplumbing : Made .plumb .addresses (plumbing zone Setup.loopbackName).calls :=
      (made_plumbing zone Setup.loopbackName).mono (by decide) (by decide)
    have hlinking : Made .plumb .addresses (r.linking zone Setup.loopbackName).calls :=
      (r.made_linking zone Setup.loopbackName).mono (by decide) (by decide)
    have htoken : Made .plumb .addresses g.calls := hsettles.made.mono (by decide) (by decide)
    exact ((hplumbing.append htoken).append hlinking).append (made_nil _ _)
  linked := by
    rw [loopbackGain, Gain.calls_append, Gain.calls_append, Gain.calls_append,
      List.filterMap_append, List.filterMap_append, List.filterMap_append,
      hsettles.made.linkLocal_eq_nil (by decide)]
    cases zone <;> rfl
  warnings := by
    have hsingle : [s].filterMap Settlement.warning? = s.warning?.toList := by
      cases h : s.warning? <;> simp [h]
    rw [loopbackGain, Gain.warnings_append, Gain.warnings_append, Gain.warnings_append,
      warnings_linking, hsettles.warnings, hsingle]
    exact List.append_nil _
  interfaces := by
    rw [loopbackGain, Gain.interfaces_append, Gain.interfaces_append, Gain.interfaces_append,
      hsettles.interfaces]
    cases zone <;> rfl
  names := by
    rw [loopbackGain, Gain.names_append, Gain.names_append, Gain.names_append, hsettles.names,
      List.countP_singleton, if_pos hspends]
    cases zone <;> rfl
  addrconf := by
    rw [loopbackGain, Gain.addrconf_append, Gain.addrconf_append, Gain.addrconf_append,
      hsettles.addrconf]
    cases zone <;> simp [htoken, plumbing, linking]

/-- The loopback interface that can be plumbed is set up, whatever comes of its address. -/
theorem exists_loopback (hplumb : Setup.loopbackName ∉ r.failPlumb) (p : Progress Journal) :
    ∃ s g, r.TellsLoopback zone timeout s g ∧
      (r.setup zone timeout).loopback p = (.ok (), p.add g) := by
  have hliteral (h : Token.literal Setup.loopbackAddress = .dhcp) :
      Context.occupied { base := Setup.loopbackName } = false ∧ r.lease ≠ .agentDown := by
    cases h
  obtain ⟨result, calls, hwrites, hsettles, happly⟩ :=
    r.exists_settlement zone timeout hliteral (p.add (plumbing zone Setup.loopbackName))
  have hspends : Settlement.spends
      ⟨Setup.loopbackName, .literal Setup.loopbackAddress, result⟩ = true :=
    hwrites.spends_of_fresh rfl (by decide)
  refine ⟨_, _, r.tellsLoopback zone timeout rfl rfl hspends hsettles, ?_⟩
  unfold Setup.loopback
  rw [plumb_of_not_mem _ _ hplumb, Outcome.andThen_ok, happly, Outcome.andThen_ok]
  dsimp only
  rw [show (r.setup zone timeout).ipv6 = zone from rfl, linkLocal_eq, Progress.visit_eq,
    loopbackGain, ← Progress.add_add, ← Progress.add_add, ← Progress.add_add]

/-- The loopback interface that cannot be plumbed ends the run before anything is recorded. -/
theorem loopback_of_mem (hplumb : Setup.loopbackName ∈ r.failPlumb) (p : Progress Journal) :
    (r.setup zone timeout).loopback p = (.error (.plumb Setup.loopbackName .v4
      (.rejected "create-if" "no such interface")), p) := by
  rw [Setup.loopback, plumb_of_mem _ _ hplumb, Outcome.andThen_error]

end Recorder

/-! ## All interfaces -/

/-- A run without its end: the loopback interface and every other one. -/
def Setup.reach {σ : Type} (u : Setup σ) (nets : List Net) (s : σ) :
    Outcome SetupError Unit (Progress σ) :=
  (u.loopback (.start s)).andThen fun _ p => Outcome.each u.configure nets p

theorem Setup.run_eq {σ : Type} (u : Setup σ) (nets : List Net) (s : σ) :
    u.run nets s = (u.reach nets s).andThen fun _ p => u.finish p := by
  unfold Setup.run Setup.reach
  rcases u.loopback (.start s) with ⟨_ | _, p⟩
  · rfl
  · rfl

theorem Setup.reach_append {σ : Type} (u : Setup σ) (nets nets' : List Net) (s : σ) :
    u.reach (nets ++ nets') s
      = (u.reach nets s).andThen fun _ p => Outcome.each u.configure nets' p := by
  unfold Setup.reach
  rcases u.loopback (.start s) with ⟨_ | _, p⟩
  · rfl
  · exact Outcome.each_append u.configure nets nets' p

namespace Recorder

variable {r : Recorder} {zone : Bool} {timeout : UInt64}

/-- When every interface was set up, each has its account. -/
theorem exists_reach {nets : List Net} {j : Journal} {q : Progress Journal}
    (h : (r.setup zone timeout).reach nets j = (.ok (), q)) :
    ∃ s g accounts g', r.TellsLoopback zone timeout s g ∧ accounts.map Account.net = nets ∧
      r.Tells zone timeout accounts g' ∧ q = (Progress.start j).add (g ++ g') := by
  unfold Setup.reach at h
  by_cases hplumb : Setup.loopbackName ∈ r.failPlumb
  · rw [r.loopback_of_mem zone timeout hplumb, Outcome.andThen_error] at h
    cases h
  · obtain ⟨s, g, hloopback, hok⟩ := r.exists_loopback zone timeout hplumb (.start j)
    rw [hok, Outcome.andThen_ok] at h
    obtain ⟨accounts, g', hmap, htells, rfl⟩ := exists_accounts nets h
    exact ⟨s, g, accounts, g', hloopback, hmap, htells, Progress.add_add _ g g'⟩

theorem finish_eq (p : Progress Journal) :
    (r.setup zone timeout).finish p =
      if p.ledger.addrconf then
        if r.failAutoconf then (.error (.autoconf (.rejected "in.ndpd" "exited: 1")), p)
        else (.ok (p.report true), p.add { calls := [.startAutoconf] })
      else (.ok (p.report false), p) := by
  unfold Setup.finish
  by_cases hasked : p.ledger.addrconf = true
  · rw [if_pos hasked, if_pos hasked]
    by_cases hfail : r.failAutoconf = true
    · rw [if_pos hfail]
      simp only [setup, facilities, startAutoconf, if_pos hfail]
      rfl
    · rw [if_neg hfail]
      simp only [setup, facilities, startAutoconf, if_neg hfail, record]
      rw [Progress.setWorld_append]
  · rw [if_neg hasked, if_neg hasked]

/-- Autoconfiguration is asked for by the tokens of the interfaces alone. -/
theorem TellsLoopback.addrconf_iff {s : Settlement} {g g' : Gain} {accounts : List Account}
    (hloopback : r.TellsLoopback zone timeout s g) (htells : r.Tells zone timeout accounts g') :
    (g ++ g').addrconf = true ↔ ∃ net ∈ accounts.map Account.net, .addrconf ∈ net.tokens := by
  rw [Gain.addrconf_append, hloopback.addrconf, Bool.false_or, htells.addrconf, List.any_eq_true]
  simp only [decide_eq_true_iff]

theorem reach_addrconf {nets : List Net} {j : Journal} {q : Progress Journal}
    (h : (r.setup zone timeout).reach nets j = (.ok (), q)) :
    q.ledger.addrconf = true ↔ ∃ net ∈ nets, .addrconf ∈ net.tokens := by
  obtain ⟨s, g, accounts, g', hloopback, rfl, htells, rfl⟩ := exists_reach h
  rw [Progress.addrconf_start, hloopback.addrconf_iff htells]

end Recorder

end ZoneNet
