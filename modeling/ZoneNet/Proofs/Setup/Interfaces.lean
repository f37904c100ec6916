import ZoneNet.Proofs.Setup.Settlement

/-!
# Setting up interfaces over a recorder

The ways in which setting up one interface can go, with their guards and their gains. An interface
is opened, its tokens are settled, and its route is installed; each of the three can end the run.

* `Opens.enabled` — an interface has IPv6 if its zone has it and it keeps it.
* `exists_sets` — every interface goes one of the ways there are.
-/

namespace ZoneNet

namespace Net

/-- The tokens of the address list, as they are listed. -/
def tokens (net : Net) : List Token := (net.chosenList.map Token.parseList).getD []

/-- The tokens in the order of application: `dhcp` first and once, the others as they are listed. -/
def ordered (net : Net) : List Token :=
  (if .dhcp ∈ net.tokens then [.dhcp] else []) ++ net.tokens.filter (· ≠ .dhcp)

/-- The gateway of the default route; without an address list there is none. -/
def routeGateway (net : Net) : Option String := net.chosenList.bind fun _ => net.chosenGateway

theorem order_tokens (net : Net) : Setup.order net.tokens = net.ordered := rfl

theorem tokens_of_none {net : Net} (h : net.addressList = none) : net.tokens = [] := by
  rw [tokens, ← net.addressList_eq, h]
  rfl

theorem tokens_of_some {net : Net} {list : String} (h : net.addressList = some list) :
    net.tokens = Token.parseList list := by
  rw [tokens, ← net.addressList_eq, h]
  rfl

theorem routeGateway_of_none {net : Net} (h : net.addressList = none) :
    net.routeGateway = none := by
  rw [routeGateway, ← net.addressList_eq, h]
  rfl

theorem routeGateway_of_some {net : Net} {list : String} (h : net.addressList = some list) :
    net.routeGateway = net.gateway := by
  rw [routeGateway, ← net.addressList_eq, ← net.gateway_eq, h]
  rfl

/-- Whether the zone has IPv6 and the interface does not turn it off. -/
def keepsIpv6 (zone : Bool) (net : Net) : Bool := zone && net.attr "ipv6" != some "false"

end Net

namespace Recorder

/-- What is added for an interface before its address list. -/
def opening (r : Recorder) (zone enabled : Bool) (net : Net) : Gain :=
  { interfaces := [net.physical] } ++ plumbing zone net.physical
    ++ { notes := (absenceWarnings net).map .warned } ++ r.linking enabled net.physical

/-- An interface that is plumbed and has an IPv6 policy. -/
structure Opens (r : Recorder) (zone : Bool) (net : Net) (enabled : Bool) : Prop where
  plumb : net.physical ∉ r.failPlumb
  policy : interfaceIpv6 zone net.physical (net.attr "ipv6") = .ok enabled

/-- An interface whose tokens are all settled in the order of application. -/
structure Assigns (r : Recorder) (timeout : UInt64) (net : Net) (settled : List Settlement)
    (g : Gain) : Prop where
  agent : .dhcp ∈ net.tokens → r.lease ≠ .agentDown
  settles : g.Settles r timeout settled
  tokens : settled.map (fun s => (s.iface, s.token))
    = net.ordered.map (net.physical, ·)

/-- The ways in which setting up an interface can go, with their guards and their gains. -/
inductive Sets (r : Recorder) (zone : Bool) (timeout : UInt64) (net : Net) :
    Except SetupError Unit → Gain → Prop where
  | unplumbed (hplumb : net.physical ∈ r.failPlumb) :
      Sets r zone timeout net
        (.error (.plumb net.physical .v4 (.rejected "create-if" "no such interface")))
        { interfaces := [net.physical] }
  | barred {e : SetupError} (hplumb : net.physical ∉ r.failPlumb)
      (hpolicy : interfaceIpv6 zone net.physical (net.attr "ipv6") = .error e) :
      Sets r zone timeout net (.error e)
        ({ interfaces := [net.physical] } ++ plumbing zone net.physical
          ++ { notes := (absenceWarnings net).map .warned })
  | agentless {enabled : Bool} (hopens : r.Opens zone net enabled) (hdhcp : .dhcp ∈ net.tokens)
      (hdown : r.lease = .agentDown) :
      Sets r zone timeout net (.error (.address (.agent (.timeout "start dhcpagent" timeout))))
        (r.opening zone enabled net ++ { calls := [.ensureAgent] })
  | unrouted {enabled : Bool} {settled : List Settlement} {g : Gain}
      (hopens : r.Opens zone net enabled) (hassigns : r.Assigns timeout net settled g)
      (hgateway : net.routeGateway = none) :
      Sets r zone timeout net (.ok ()) (r.opening zone enabled net ++ g)
  | misread {enabled : Bool} {settled : List Settlement} {g : Gain} {gateway : String}
      (hopens : r.Opens zone net enabled) (hassigns : r.Assigns timeout net settled g)
      (hgateway : net.routeGateway = some gateway) (hparse : IPv4.parse? gateway = none) :
      Sets r zone timeout net (.error (.badGateway net.physical gateway))
        (r.opening zone enabled net ++ g)
  | refused {enabled : Bool} {settled : List Settlement} {g g' : Gain} {gateway : String}
      {ip : IPv4} {cause : RouteError}
      (hopens : r.Opens zone net enabled) (hassigns : r.Assigns timeout net settled g)
      (hgateway : net.routeGateway = some gateway) (hparse : IPv4.parse? gateway = some ip)
      (hcause : r.routeCause net.physical = some cause) (hrouting : g'.IsRouting) :
      Sets r zone timeout net (.error (.defaultRoute net.physical ip cause))
        (r.opening zone enabled net ++ g ++ g')
  | routed {enabled : Bool} {settled : List Settlement} {g g' : Gain} {gateway : String} {ip : IPv4}
      (hopens : r.Opens zone net enabled) (hassigns : r.Assigns timeout net settled g)
      (hgateway : net.routeGateway = some gateway) (hparse : IPv4.parse? gateway = some ip)
      (hcause : r.routeCause net.physical = none) (hrouting : g'.IsRouting) :
      Sets r zone timeout net (.ok ()) (r.opening zone enabled net ++ g ++ g')

/-- An interface that has a policy has IPv6 just when the zone has it and it keeps it. -/
theorem Opens.enabled {r : Recorder} {zone : Bool} {net : Net} {enabled : Bool}
    (h : r.Opens zone net enabled) : enabled = net.keepsIpv6 zone := by
  have hpolicy := h.policy
  unfold interfaceIpv6 at hpolicy
  unfold Net.keepsIpv6
  rcases hattr : net.attr "ipv6" with _ | value
  · rw [hattr] at hpolicy
    cases hpolicy
    simp
  · rw [hattr] at hpolicy
    dsimp only at hpolicy
    by_cases htrue : value = "true"
    -- an interface cannot have IPv6 against its zone
    · rw [if_pos htrue] at hpolicy
      subst htrue
      cases zone <;> cases hpolicy
      decide
    · rw [if_neg htrue] at hpolicy
      by_cases hfalse : value = "false"
      · rw [if_pos hfalse] at hpolicy
        cases hpolicy
        simp [hfalse]
      · rw [if_neg hfalse] at hpolicy
        cases hpolicy

variable (r : Recorder) (zone : Bool) (timeout : UInt64)

/-! ## One interface -/

/-- Without an address list there is nothing to settle. -/
theorem assigns_of_none {net : Net} (h : net.addressList = none) :
    r.Assigns timeout net [] {} := by
  have htokens : net.tokens = [] := Net.tokens_of_none h
  exact ⟨fun hdhcp => absurd (htokens ▸ hdhcp) List.not_mem_nil, Gain.settles_nil, by
    rw [← net.order_tokens, htokens]; rfl⟩

/-- An interface with an address list goes one of the ways there are. -/
theorem exists_assign {net : Net} {list : String} {enabled : Bool}
    (hopens : r.Opens zone net enabled) (hlist : net.addressList = some list)
    (p : Progress Journal) :
    ∃ result g, r.Sets zone timeout net result g ∧
      (r.setup zone timeout).assign net list (p.add (r.opening zone enabled net))
        = (result, p.add g) := by
  have htokens : net.tokens = Token.parseList list := Net.tokens_of_some hlist
  have hroute : net.routeGateway = net.gateway := Net.routeGateway_of_some hlist
  unfold Setup.assign
  by_cases hdown : .dhcp ∈ net.tokens ∧ r.lease = .agentDown
  · refine ⟨_, _, .agentless hopens hdown.1 hdown.2, ?_⟩
    rw [applyOrder_of_agentDown (htokens ▸ hdown.1) hdown.2, Outcome.andThen_error,
      Progress.add_add]
  · have hagent : .dhcp ∈ net.tokens → r.lease ≠ .agentDown := fun hdhcp h => hdown ⟨hdhcp, h⟩
    obtain ⟨settled, g, hsettles, hmap, happly⟩ := settlesAll_order (htokens ▸ hagent) net.physical
      (p.add (r.opening zone enabled net))
    have hassigns : r.Assigns timeout net settled g := ⟨hagent, hsettles, by
      rw [← net.order_tokens, htokens, hmap]⟩
    rw [happly, Outcome.andThen_ok, Progress.add_add]
    rcases hgateway : net.gateway with _ | gateway
    · exact ⟨_, _, .unrouted hopens hassigns (hroute.trans hgateway), rfl⟩
    · dsimp only
      rcases hparse : IPv4.parse? gateway with _ | ip
      · refine ⟨_, _, .misread hopens hassigns (hroute.trans hgateway) hparse, ?_⟩
        rw [Setup.defaultRoute, hparse]
      · have hrouting := r.isRouting_routing ip net.physical
        rw [r.defaultRoute_eq zone timeout hparse, Progress.add_add]
        rcases hcause : r.routeCause net.physical with _ | cause
        · exact ⟨_, _, .routed hopens hassigns (hroute.trans hgateway) hparse hcause hrouting, rfl⟩
        · exact ⟨_, _, .refused hopens hassigns (hroute.trans hgateway) hparse hcause hrouting, rfl⟩

theorem opening_eq (enabled : Bool) (net : Net) (p : Progress Journal) :
    p.add (r.opening zone enabled net)
      = (((p.add { interfaces := [net.physical] }).add (plumbing zone net.physical)).add
          { notes := (absenceWarnings net).map .warned }).add (r.linking enabled net.physical) := by
  rw [opening, ← Progress.add_add, ← Progress.add_add, ← Progress.add_add]

theorem filter_opening (enabled : Bool) (net : Net) :
    (r.opening zone enabled net).calls.filter Call.isSettling = [] := by
  cases zone <;> cases enabled <;> rfl

theorem warnings_opening (enabled : Bool) (net : Net) :
    (r.opening zone enabled net).warnings
      = absenceWarnings net ++ if enabled then r.linkLocalWarnings net.physical else [] := by
  rw [opening, Gain.warnings_append, Gain.warnings_append, Gain.warnings_append,
    Gain.warnings_warned, warnings_linking]
  rfl

theorem linked_opening (enabled : Bool) (net : Net) :
    (r.opening zone enabled net).calls.filterMap Call.linkLocal?
      = if enabled then [net.physical] else [] := by
  cases zone <;> cases enabled <;> rfl

theorem made_opening (enabled : Bool) (net : Net) :
    Made .plumb .linkLocal (r.opening zone enabled net).calls := by
  have hplumbing : Made .plumb .linkLocal (plumbing zone net.physical).calls :=
    (made_plumbing zone net.physical).mono (by decide) (by decide)
  unfold opening
  rw [Gain.calls_append, Gain.calls_append, Gain.calls_append, List.nil_append, List.append_nil]
  exact hplumbing.append ((r.made_linking enabled net.physical).mono (by decide) (by decide))

theorem interfaces_opening (enabled : Bool) (net : Net) :
    (r.opening zone enabled net).interfaces = [net.physical] := by
  cases enabled <;> rfl

theorem names_opening (enabled : Bool) (net : Net) :
    (r.opening zone enabled net).names = 0 := by
  cases enabled <;> rfl

theorem addrconf_opening (enabled : Bool) (net : Net) :
    (r.opening zone enabled net).addrconf = false := by
  cases enabled <;> rfl

theorem Assigns.made {r : Recorder} {timeout : UInt64} {net : Net} {settled : List Settlement}
    {g : Gain} (h : r.Assigns timeout net settled g) (zone enabled : Bool) :
    Made .plumb .addresses (r.opening zone enabled net ++ g).calls := by
  have hopening : Made .plumb .addresses (r.opening zone enabled net).calls :=
    (r.made_opening zone enabled net).mono (by decide) (by decide)
  exact hopening.append (h.settles.made.mono (by decide) (by decide))

/-- An interface is opened, unless it cannot be plumbed or its policy bars it; an opened one has its
address list applied, if it has one. -/
theorem configure_eq (net : Net) (p : Progress Journal) :
    (r.setup zone timeout).configure net p =
      if net.physical ∈ r.failPlumb then
        (.error (.plumb net.physical .v4 (.rejected "create-if" "no such interface")),
          p.add { interfaces := [net.physical] })
      else match interfaceIpv6 zone net.physical (net.attr "ipv6") with
        | .error e => (.error e, p.add ({ interfaces := [net.physical] }
            ++ plumbing zone net.physical ++ { notes := (absenceWarnings net).map .warned }))
        | .ok enabled => match net.addressList with
          | none => (.ok (), p.add (r.opening zone enabled net))
          | some list =>
            (r.setup zone timeout).assign net list (p.add (r.opening zone enabled net)) := by
  unfold Setup.configure
  rw [Progress.visit_eq]
  by_cases hplumb : net.physical ∈ r.failPlumb
  · rw [if_pos hplumb, plumb_of_mem _ _ hplumb, Outcome.andThen_error]
  · rw [if_neg hplumb, plumb_of_not_mem _ _ hplumb, Outcome.andThen_ok, noteAbsence_eq]
    dsimp only
    rw [show (r.setup zone timeout).ipv6 = zone from rfl]
    rcases interfaceIpv6 zone net.physical (net.attr "ipv6") with e | enabled
    · rw [← Progress.add_add, ← Progress.add_add]
    · rcases net.addressList with _ | list
      · dsimp only
        rw [linkLocal_eq, opening_eq]
      · dsimp only
        rw [linkLocal_eq, opening_eq]

/-- Every interface goes one of the ways there are. -/
theorem exists_sets (net : Net) (p : Progress Journal) :
    ∃ result g, r.Sets zone timeout net result g ∧
      (r.setup zone timeout).configure net p = (result, p.add g) := by
  rw [configure_eq]
  by_cases hplumb : net.physical ∈ r.failPlumb
  · rw [if_pos hplumb]
    exact ⟨_, _, .unplumbed hplumb, rfl⟩
  · rw [if_neg hplumb]
    rcases hpolicy : interfaceIpv6 zone net.physical (net.attr "ipv6") with e | enabled
    · exact ⟨_, _, .barred hplumb hpolicy, rfl⟩
    · dsimp only
      rcases hlist : net.addressList with _ | list
      -- without a list there are no tokens and no route
      · have hgateway : net.routeGateway = none := Net.routeGateway_of_none hlist
        refine ⟨_, _, .unrouted ⟨hplumb, hpolicy⟩ (r.assigns_of_none timeout hlist) hgateway, ?_⟩
        rw [Gain.append_empty]
      · exact r.exists_assign zone timeout ⟨hplumb, hpolicy⟩ hlist p

end Recorder

end ZoneNet
