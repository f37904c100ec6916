import ZoneNet.Proofs.Setup.Interfaces

/-!
# The phases of one interface

Over a recorder the calls for one interface come in phases: it is plumbed, it is given a link-local
address, a lease is asked for, each literal has its block of calls, and the default route is
written. A setup that ends early has made the first of these calls and no others.

* `applyTokens_blocks` — the calls for literals are their blocks, in order.
* `configure_calls` — the calls for an interface are a prefix of its phases, and all of them if it
  was set up.
* `configure_relisted` — of an address list only the literals, in order, and the presence of `dhcp`
  count.
-/

namespace ZoneNet

/-- The literal that a token is. -/
def Token.literal? : Token → Option String
  | literal addr => some addr
  | _ => none

namespace Net

/-- The literals of the address list, in order. -/
def literals (net : Net) : List String := net.tokens.filterMap Token.literal?

/-- Two interfaces that differ in their address lists alone, and these only in what stands between
the literals: both have `dhcp` somewhere, or neither has. -/
structure Relisted (net net' : Net) : Prop where
  physical : net'.physical = net.physical
  defaultRouter : net'.defaultRouter = net.defaultRouter
  attr : ∀ name, name ≠ "ips" → net'.attr name = net.attr name
  listed : net'.chosenList = none ↔ net.chosenList = none
  literals : net'.literals = net.literals
  dhcp : .dhcp ∈ net'.tokens ↔ .dhcp ∈ net.tokens

theorem Relisted.gateway {net net' : Net} (h : net.Relisted net') :
    net'.gateway = net.gateway := by
  rw [net'.gateway_eq, net.gateway_eq, chosenGateway, chosenGateway, h.defaultRouter,
    h.attr "primary" (by decide), h.attr "gateway" (by decide)]

end Net

namespace Recorder

variable (r : Recorder) (zone : Bool) (timeout : UInt64)

/-! ## Blocks -/

/-- The interface for an address and the call for that, if there is one. An IPv4 address takes a free
base interface; any other address needs a logical interface. -/
def place? (c : Context) (family : Family) (j : Journal) : Option (String × List Call) :=
  if family = .v4 ∧ c.occupied = false then some (c.base, [])
  else if r.failLogical then none
  else
    some (nextLogical c.base family j, [.addLogical c.base family (nextLogical c.base family j)])

/-- Whether an address is activated: its object is to be had, takes it and can be activated. -/
def Activates (name : ObjectName) (addr : String) : Prop :=
  name.text ∉ r.failCreate ∧ addr ∉ r.rejected ∧ addr ∉ r.failActivation

instance (name : ObjectName) (addr : String) : Decidable (r.Activates name addr) :=
  inferInstanceAs (Decidable (_ ∧ _))

/-- The calls for one address object, if it is to be had. It is let go of in any case. -/
def holding (name : ObjectName) (addr : String) : List Call :=
  if name.text ∈ r.failCreate then []
  else
    [.createObject name, .setAddress name addr]
      ++ (if r.Activates name addr then [.activate name addr] else []) ++ [.release name]

/-- The calls for one literal, and what they leave for the next one. -/
structure Block where
  calls : List Call
  context : Context
  issued : UInt32

/-- The block of a literal. Without an interface for it there are no calls. -/
def block (c : Context) (addr : String) (j : Journal) (n : UInt32) : Block :=
  match r.place? c (Family.ofLiteral addr) j with
  | none => ⟨[], c, n⟩
  | some (iface, placing) =>
    let name : ObjectName := .make iface n
    { calls := placing ++ r.holding name addr
      context := if Family.ofLiteral addr = .v4 ∧ r.Activates name addr then c.occupy else c
      issued := n + 1 }

/-- The blocks of literals in order. -/
def blocks : List String → Context → Journal → UInt32 → List (List Call)
  | [], _, _, _ => []
  | addr :: addrs, c, j, n =>
    let b := r.block c addr j n
    b.calls :: blocks addrs b.context (j ++ b.calls) b.issued

/-! ## Phases -/

/-- The calls for a lease on the base interface, if one is asked for. -/
def leasing (base : String) (tokens : List Token) : List Call :=
  if .dhcp ∈ tokens then [.ensureAgent, .startLease base] else []

/-- The context of the first literal: a lease that is had occupies the base interface. -/
def leased (base : String) (tokens : List Token) : Context where
  base := base
  occupied := decide (.dhcp ∈ tokens ∧ r.leaseCause timeout base = none)

/-- The calls for the tokens of an address list. -/
def listing (base : String) (tokens : List Token) (j : Journal) (n : UInt32) : List Call :=
  leasing base tokens ++ (r.blocks (tokens.filterMap Token.literal?) (r.leased timeout base tokens)
    (j ++ leasing base tokens) n).flatten

/-- The calls for plumbing, for IPv6 only in a zone that has it. -/
def plumbed (zone : Bool) (net : Net) : List Call :=
  .plumb net.physical .v4 :: if zone then [.plumb net.physical .v6] else []

/-- The call for a link-local address, where the policies let the interface have IPv6. -/
def linked (zone : Bool) (net : Net) : List Call :=
  match interfaceIpv6 zone net.physical (net.attr "ipv6") with
  | .ok true => [.linkLocal net.physical]
  | _ => []

/-- The calls for an interface up to its default route. -/
def phases (net : Net) (j : Journal) (n : UInt32) : List Call :=
  let opened := plumbed zone net ++ linked zone net
  opened ++ r.listing timeout net.physical net.tokens (j ++ opened) n

/-- The calls that an outcome added to a journal are the first ones of a sequence, and all of it if
the outcome is a success. -/
structure Makes (o : Outcome SetupError Unit (Progress Journal)) (j : Journal)
    (calls sequence : List Call) : Prop where
  world : o.2.ledger.world = j ++ calls
  first : calls <+: sequence
  whole : o.1 = .ok () → calls = sequence

/-- The call for a default route: one write, if there is a gateway. -/
def IsRoute (gateway : Option String) (route : List Call) : Prop :=
  match gateway with
  | none => route = []
  | some _ => ∃ accepted message, route = [.writeRoute accepted message]

/-! ## Literals -/

variable {r zone timeout}

theorem Places.place?_eq {c : Context} {family : Family} {j : Journal} {iface : String}
    {placing : List Call} (h : r.Places c family j iface placing) :
    r.place? c family j = some (iface, placing) := by
  unfold place?
  cases h with
  | base hfamily hfree => rw [if_pos ⟨hfamily, hfree⟩]
  | logical hn hlogical => simp [hn, hlogical]

/-- A literal writes its block. -/
theorem Writes.block_eq {c : Context} {l : Ledger Journal} {addr : String}
    {result : Except AssignError Applied} {calls : List Call}
    (h : r.Writes timeout c l (.literal addr) result calls) :
    r.block c addr l.world l.names.issued
      = ⟨calls, c.after (.literal addr) result,
        l.names.issued + if (Token.literal addr).spends result then 1 else 0⟩ := by
  unfold block
  cases h with
  | unplaced hfamily hn hlogical =>
    cases hfamily
    simp [place?, hn, hlogical, Context.after, Token.lands, Token.spends]
  | uncreated hp hname hcreate =>
    subst hname
    simp [hp.place?_eq, holding, Activates, hcreate, Context.after, Token.lands, Token.spends]
  | unset hp hname hcreate hset =>
    subst hname
    simp [hp.place?_eq, holding, Activates, hcreate, hset, Context.after, Token.lands, Token.spends]
  | inactive hp hname hcreate hset hactivate =>
    subst hname
    simp [hp.place?_eq, holding, Activates, hcreate, hactivate, Context.after, Token.lands,
      Token.spends]
  | activated hp hname hcreate hset hactivate =>
    subst hname
    simp [hp.place?_eq, holding, Activates, hcreate, hset, hactivate, Context.after, Token.lands,
      Token.spends, Token.family?]

variable (r) (zone) (timeout)

theorem applyToken_literal (c : Context) (addr : String) (p : Progress Journal) :
    ∃ p', (r.setup zone timeout).applyToken c (.literal addr) p
        = (.ok (r.block c addr p.ledger.world p.ledger.names.issued).context, p') ∧
      p'.ledger.world
        = p.ledger.world ++ (r.block c addr p.ledger.world p.ledger.names.issued).calls ∧
      p'.ledger.names.issued = (r.block c addr p.ledger.world p.ledger.names.issued).issued := by
  obtain ⟨result, calls, hwrites, ⟨e, rfl, -⟩ | ⟨-, happly⟩⟩ :=
    r.exists_applyToken zone timeout c (.literal addr) p
  -- a literal needs no agent
  · cases hwrites.eq_dhcp
  · rw [hwrites.block_eq]
    refine ⟨_, happly, ?_, ?_⟩
    · simp [Progress.add, Settlement.gain]
    · by_cases hspends : (Token.literal addr).spends result = true
      · simp [Progress.add, Settlement.gain, Settlement.spends, hspends]
      · simp [Progress.add, Settlement.gain, Settlement.spends, hspends]

theorem applyToken_addrconf (c : Context) (p : Progress Journal) :
    ∃ p', (r.setup zone timeout).applyToken c .addrconf p = (.ok c, p') ∧
      p'.ledger.world = p.ledger.world ∧ p'.ledger.names = p.ledger.names := ⟨_, rfl, rfl, rfl⟩

/-- Tokens without `dhcp` make the calls of their literals, block after block. -/
theorem applyTokens_blocks {tokens : List Token} (h : .dhcp ∉ tokens) (c : Context)
    (p : Progress Journal) :
    ∃ p', (r.setup zone timeout).applyTokens tokens c p = (.ok (), p') ∧
      p'.ledger.world = p.ledger.world ++ (r.blocks (tokens.filterMap Token.literal?) c
        p.ledger.world p.ledger.names.issued).flatten := by
  induction tokens generalizing c p with
  | nil => exact ⟨p, rfl, (List.append_nil _).symm⟩
  | cons t tokens ih =>
    obtain ⟨ht, htokens⟩ := List.ne_and_not_mem_of_not_mem_cons h
    rw [Setup.applyTokens]
    cases t with
    | dhcp => exact absurd rfl ht
    | addrconf =>
      obtain ⟨p', happly, hworld, hnames⟩ := r.applyToken_addrconf zone timeout c p
      obtain ⟨p'', hrest, hblocks⟩ := ih htokens c p'
      rw [happly]
      refine ⟨p'', hrest, ?_⟩
      rw [hblocks, hworld, hnames]
      rfl
    | literal addr =>
      obtain ⟨p', happly, hworld, hissued⟩ := r.applyToken_literal zone timeout c addr p
      obtain ⟨p'', hrest, hblocks⟩ := ih htokens _ p'
      rw [happly]
      refine ⟨p'', hrest, ?_⟩
      rw [hblocks, hworld, hissued, List.append_assoc]
      rfl

/-! ## Address lists -/

theorem filterMap_literal?_filter (tokens : List Token) :
    (tokens.filter (· ≠ .dhcp)).filterMap Token.literal? = tokens.filterMap Token.literal? := by
  rw [List.filterMap_filter]
  congr 1
  funext t
  cases t <;> rfl

/-- A lease is asked for on the base interface, and occupies it if it is had. -/
theorem applyToken_dhcp (hup : r.lease ≠ .agentDown) (base : String) (p : Progress Journal) :
    ∃ p', (r.setup zone timeout).applyToken { base } .dhcp p
        = (.ok { base, occupied := decide (r.leaseCause timeout base = none) }, p') ∧
      p'.ledger.world = p.ledger.world ++ [.ensureAgent, .startLease base] ∧
      p'.ledger.names.issued = p.ledger.names.issued := by
  obtain ⟨result, calls, hwrites, -, happly⟩ := r.exists_settlement zone timeout
    (c := { base }) (t := .dhcp) (fun _ => ⟨rfl, hup⟩) p
  have hgoes : calls = [.ensureAgent, .startLease base] ∧ Context.after { base } .dhcp result
      = { base, occupied := decide (r.leaseCause timeout base = none) } := by
    cases hwrites with
    | unplaced hfamily hn =>
      cases hfamily
      exact absurd ⟨rfl, rfl⟩ hn
    | agentless _ hdown => exact absurd hdown hup
    | unleased hp _ hcause =>
      obtain ⟨rfl, rfl⟩ := hp.of_fresh rfl
      exact ⟨rfl, by simp [Context.after, Token.lands, hcause]⟩
    | leased hp _ hcause =>
      obtain ⟨rfl, rfl⟩ := hp.of_fresh rfl
      exact ⟨rfl, by simp [Context.after, Token.lands, Token.family?, Context.occupy, hcause]⟩
  obtain ⟨rfl, hcontext⟩ := hgoes
  rw [hcontext] at happly
  refine ⟨_, happly, ?_, ?_⟩
  · simp [Progress.add, Settlement.gain]
  · simp [Progress.add, Settlement.gain, Settlement.spends, Token.spends]

/-- With the agent that it needs an address list makes its calls, wherever `dhcp` stands in it. -/
theorem applyOrder_listing {tokens : List Token} (h : .dhcp ∈ tokens → r.lease ≠ .agentDown)
    (base : String) (p : Progress Journal) :
    ∃ p', (r.setup zone timeout).applyTokens (Setup.order tokens) { base } p = (.ok (), p') ∧
      p'.ledger.world = p.ledger.world
        ++ r.listing timeout base tokens p.ledger.world p.ledger.names.issued := by
  unfold listing leasing leased
  by_cases hdhcp : .dhcp ∈ tokens
  · obtain ⟨p', hfirst, hworld, hissued⟩ := r.applyToken_dhcp zone timeout (h hdhcp) base p
    obtain ⟨p'', hrest, hblocks⟩ := r.applyTokens_blocks zone timeout (not_mem_rest tokens)
      { base, occupied := decide (r.leaseCause timeout base = none) } p'
    rw [order_of_mem hdhcp, Setup.applyTokens, hfirst]
    refine ⟨p'', hrest, ?_⟩
    rw [hblocks, hworld, hissued, filterMap_literal?_filter, List.append_assoc]
    simp [hdhcp]
  · obtain ⟨p', hall, hblocks⟩ :=
      r.applyTokens_blocks zone timeout (not_mem_rest tokens) { base } p
    rw [order_of_not_mem hdhcp]
    refine ⟨p', hall, ?_⟩
    rw [hblocks, filterMap_literal?_filter]
    simp [hdhcp]

/-! ## Default routes -/

theorem exists_isRoute (gateway : Option String) : ∃ route, IsRoute gateway route := by
  cases gateway with
  | none => exact ⟨[], rfl⟩
  | some gateway => exact ⟨_, 0, [], rfl⟩

/-- A request makes one write if it is met, and at most one if it is refused. -/
theorem routeCalls_prefix (q : RouteRequest) :
    ∃ accepted message, r.routeCalls q <+: [.writeRoute accepted message] ∧
      (r.refusal q = none → r.routeCalls q = [.writeRoute accepted message]) := by
  unfold routeCalls refusal channelCause channelAnswer sending
  rcases messageFor r.routes q with e | m
  · exact ⟨0, [], List.nil_prefix, by simp⟩
  · rcases r.channelError with _ | text
    · exact ⟨_, _, List.prefix_rfl, fun _ => rfl⟩
    · exact ⟨0, [], List.nil_prefix, by simp⟩

/-- Whatever was done before, a default route makes one write if it is installed, and at most one if
it is not. -/
theorem exists_defaultRoute (iface gateway : String) :
    ∃ result calls, (∀ p : Progress Journal,
        ((r.setup zone timeout).defaultRoute iface gateway p).1 = result ∧
        ((r.setup zone timeout).defaultRoute iface gateway p).2.ledger.world
          = p.ledger.world ++ calls) ∧
      ∃ route, IsRoute (some gateway) route ∧ calls <+: route ∧
        (result = .ok () → calls = route) := by
  rcases hparse : IPv4.parse? gateway with _ | ip
  · refine ⟨.error (.badGateway iface gateway), [], fun p => ?_, _, ⟨0, [], rfl⟩, List.nil_prefix,
      by simp⟩
    unfold Setup.defaultRoute
    rw [hparse]
    exact ⟨rfl, (List.append_nil _).symm⟩
  · obtain ⟨accepted, message, hprefix, hmet⟩ := r.routeCalls_prefix (.defaultVia ip iface)
    rw [refusal_defaultVia] at hmet
    rcases hcause : r.routeCause iface with _ | cause
    · refine ⟨.ok (), r.routeCalls (.defaultVia ip iface), fun p => ?_, _, ⟨accepted, message, rfl⟩,
        hprefix, fun _ => hmet hcause⟩
      rw [r.defaultRoute_eq zone timeout hparse, hcause]
      exact ⟨rfl, rfl⟩
    · refine ⟨.error (.defaultRoute iface ip cause), r.routeCalls (.defaultVia ip iface),
        fun p => ?_, _, ⟨accepted, message, rfl⟩, hprefix, by simp⟩
      rw [r.defaultRoute_eq zone timeout hparse, hcause]
      exact ⟨rfl, rfl⟩

/-! ## One interface -/

theorem assign_calls {net : Net} {list : String} (hlist : net.addressList = some list)
    (p : Progress Journal) :
    ∃ calls route, IsRoute net.routeGateway route ∧
      Makes ((r.setup zone timeout).assign net list p) p.ledger.world calls
        (r.listing timeout net.physical net.tokens p.ledger.world p.ledger.names.issued
          ++ route) := by
  unfold Setup.assign
  rw [← Net.tokens_of_some hlist, Net.routeGateway_of_some hlist]
  by_cases hdown : .dhcp ∈ net.tokens ∧ r.lease = .agentDown
  · obtain ⟨route, hisRoute⟩ := exists_isRoute net.gateway
    rw [applyOrder_of_agentDown hdown.1 hdown.2, Outcome.andThen_error]
    refine ⟨[.ensureAgent], route, hisRoute, rfl, ?_, by simp⟩
    simp [listing, leasing, hdown.1]
  · have hagent : .dhcp ∈ net.tokens → r.lease ≠ .agentDown := fun hdhcp hr => hdown ⟨hdhcp, hr⟩
    obtain ⟨p', happly, hworld⟩ := r.applyOrder_listing zone timeout hagent net.physical p
    rw [happly, Outcome.andThen_ok]
    rcases net.gateway with _ | gateway
    · exact ⟨_, [], rfl, hworld, List.prefix_append _ _, fun _ => (List.append_nil _).symm⟩
    · obtain ⟨result, calls, hdefault, route, hisRoute, hprefix, hall⟩ :=
        r.exists_defaultRoute zone timeout net.physical gateway
      obtain ⟨hresult, hcalls⟩ := hdefault p'
      refine ⟨_, route, hisRoute, hcalls.trans (by rw [hworld, List.append_assoc]),
        (List.prefix_append_right_inj _).2 hprefix, ?_⟩
      intro hok
      rw [hall (hresult.symm.trans hok)]

theorem calls_plumbing (net : Net) : (plumbing zone net.physical).calls = plumbed zone net := by
  cases zone <;> rfl

variable {zone} in
/-- An interface that has an IPv6 policy is opened by its plumbing and its link-local address, and
no name is spent on that. -/
theorem add_opening {enabled : Bool} {net : Net}
    (hpolicy : interfaceIpv6 zone net.physical (net.attr "ipv6") = .ok enabled)
    (p : Progress Journal) :
    (p.add (r.opening zone enabled net)).ledger.world
        = p.ledger.world ++ (plumbed zone net ++ linked zone net) ∧
      (p.add (r.opening zone enabled net)).ledger.names.issued = p.ledger.names.issued := by
  have hlinked : (r.linking enabled net.physical).calls = linked zone net := by
    unfold linking linked
    rw [hpolicy]
    cases enabled <;> rfl
  refine ⟨?_, ?_⟩
  · simp [Progress.add, opening, calls_plumbing, hlinked]
  · simp [Progress.add, names_opening]

/-- However far the setup of an interface gets, it makes the first calls of its phases and no other
ones; if the interface was set up, it made them all. -/
theorem configure_calls (net : Net) (p : Progress Journal) :
    ∃ calls route, IsRoute net.routeGateway route ∧
      Makes ((r.setup zone timeout).configure net p) p.ledger.world calls
        (r.phases zone timeout net p.ledger.world p.ledger.names.issued ++ route) := by
  rw [configure_eq]
  unfold phases
  by_cases hplumb : net.physical ∈ r.failPlumb
  · obtain ⟨route, hisRoute⟩ := exists_isRoute net.routeGateway
    rw [if_pos hplumb]
    exact ⟨[], route, hisRoute, rfl, List.nil_prefix, by simp⟩
  rw [if_neg hplumb]
  rcases hpolicy : interfaceIpv6 zone net.physical (net.attr "ipv6") with e | enabled
  · obtain ⟨route, hisRoute⟩ := exists_isRoute net.routeGateway
    refine ⟨plumbed zone net, route, hisRoute, ?_, ?_, by simp⟩
    · simp [Progress.add, calls_plumbing]
    · rw [List.append_assoc, List.append_assoc]
      exact List.prefix_append _ _
  obtain ⟨hworld, hissued⟩ := r.add_opening hpolicy p
  dsimp only
  rcases hlist : net.addressList with _ | list
  -- without a list there are no tokens and no route
  · have hlisting (j : Journal) : r.listing timeout net.physical net.tokens j p.ledger.names.issued
        = [] := by
      rw [Net.tokens_of_none hlist]
      rfl
    rw [Net.routeGateway_of_none hlist, hlisting]
    exact ⟨_, [], rfl, hworld, by simp, by simp⟩
  · obtain ⟨calls, route, hisRoute, hmakes⟩ :=
      r.assign_calls zone timeout hlist (p.add (r.opening zone enabled net))
    rw [hworld, hissued] at hmakes
    refine ⟨plumbed zone net ++ linked zone net ++ calls, route, hisRoute, ?_, ?_, ?_⟩
    · rw [hmakes.world, List.append_assoc]
    · rw [List.append_assoc _ _ route]
      exact (List.prefix_append_right_inj _).2 hmakes.first
    · intro hok
      rw [hmakes.whole hok, List.append_assoc _ _ route]

/-! ## Lists that differ -/

variable {r zone timeout}

theorem listing_congr {tokens tokens' : List Token}
    (hliterals : tokens'.filterMap Token.literal? = tokens.filterMap Token.literal?)
    (hdhcp : .dhcp ∈ tokens' ↔ .dhcp ∈ tokens) (base : String) (j : Journal) (n : UInt32) :
    r.listing timeout base tokens' j n = r.listing timeout base tokens j n := by
  have hleasing : leasing base tokens' = leasing base tokens := by simp only [leasing, hdhcp]
  have hleased : r.leased timeout base tokens' = r.leased timeout base tokens := by
    simp only [leased, hdhcp]
  unfold listing
  rw [hliterals, hleasing, hleased]

/-- Two lists with the same literals in order, and with `dhcp` in both or in neither, are worked off
by the same calls to the same end. -/
theorem assign_relisted {net net' : Net} (h : net.Relisted net') {list list' : String}
    (hlist : net.addressList = some list) (hlist' : net'.addressList = some list')
    (p : Progress Journal) :
    ((r.setup zone timeout).assign net' list' p).1 = ((r.setup zone timeout).assign net list p).1 ∧
      ((r.setup zone timeout).assign net' list' p).2.ledger.world
        = ((r.setup zone timeout).assign net list p).2.ledger.world := by
  unfold Setup.assign
  rw [← Net.tokens_of_some hlist, ← Net.tokens_of_some hlist', h.physical, h.gateway]
  by_cases hdown : .dhcp ∈ net.tokens ∧ r.lease = .agentDown
  · rw [applyOrder_of_agentDown hdown.1 hdown.2, applyOrder_of_agentDown (h.dhcp.2 hdown.1) hdown.2]
    exact ⟨rfl, rfl⟩
  · have hagent : .dhcp ∈ net.tokens → r.lease ≠ .agentDown := fun hdhcp hr => hdown ⟨hdhcp, hr⟩
    obtain ⟨q, happly, hworld⟩ := r.applyOrder_listing zone timeout hagent net.physical p
    obtain ⟨q', happly', hworld'⟩ := r.applyOrder_listing zone timeout
      (fun hdhcp => hagent (h.dhcp.1 hdhcp)) net.physical p
    rw [listing_congr h.literals h.dhcp, ← hworld] at hworld'
    rw [happly, happly', Outcome.andThen_ok, Outcome.andThen_ok]
    rcases net.gateway with _ | gateway
    · exact ⟨rfl, hworld'⟩
    · obtain ⟨result, calls, hdefault, -⟩ :=
        r.exists_defaultRoute zone timeout net.physical gateway
      dsimp only
      rw [(hdefault q).1, (hdefault q').1, (hdefault q).2, (hdefault q').2, hworld']
      exact ⟨rfl, rfl⟩

/-- So are two interfaces that differ in such lists alone. -/
theorem configure_relisted {net net' : Net} (h : net.Relisted net') (p : Progress Journal) :
    ((r.setup zone timeout).configure net' p).1 = ((r.setup zone timeout).configure net p).1 ∧
      ((r.setup zone timeout).configure net' p).2.ledger.world
        = ((r.setup zone timeout).configure net p).2.ledger.world := by
  have habsence : absenceWarnings net' = absenceWarnings net := by
    simp only [absenceWarnings, h.listed, h.physical]
  have hopening (enabled : Bool) : r.opening zone enabled net' = r.opening zone enabled net := by
    unfold opening
    rw [h.physical, habsence]
  rw [configure_eq, configure_eq, h.physical, h.attr "ipv6" (by decide), habsence]
  by_cases hplumb : net.physical ∈ r.failPlumb
  · rw [if_pos hplumb, if_pos hplumb]
    exact ⟨rfl, rfl⟩
  rw [if_neg hplumb, if_neg hplumb]
  rcases interfaceIpv6 zone net.physical (net.attr "ipv6") with e | enabled
  · exact ⟨rfl, rfl⟩
  dsimp only
  rw [hopening]
  have hlisted : net'.addressList = none ↔ net.addressList = none := by
    rw [net'.addressList_eq, net.addressList_eq]
    exact h.listed
  rcases hlist : net.addressList with _ | list
  · rw [hlisted.2 hlist]
    exact ⟨rfl, rfl⟩
  · rcases hlist' : net'.addressList with _ | list'
    · rw [hlisted.1 hlist'] at hlist
      cases hlist
    · dsimp only
      exact assign_relisted h hlist hlist' _

/-! ## Every interface -/

/-- The phases of an interface. Whatever the facilities answer, its calls are the first ones of its
phases and its default route, and all of them if it was set up. Where `dhcp` stands in the list and
how often it does, and whether autoconfiguration is asked for, make no difference to them. -/
theorem configure_phases (r : Recorder) (zone : Bool) (timeout : UInt64) (net : Net)
    (p : Progress Journal) :
    ∃ calls route, IsRoute net.routeGateway route ∧
      Makes ((r.setup zone timeout).configure net p) p.ledger.world calls
        (r.phases zone timeout net p.ledger.world p.ledger.names.issued ++ route) ∧
      ∀ net', net.Relisted net' →
        ((r.setup zone timeout).configure net' p).1 = ((r.setup zone timeout).configure net p).1 ∧
        ((r.setup zone timeout).configure net' p).2.ledger.world = p.ledger.world ++ calls := by
  obtain ⟨calls, route, hisRoute, hmakes⟩ := r.configure_calls zone timeout net p
  refine ⟨calls, route, hisRoute, hmakes, ?_⟩
  intro net' h
  rw [← hmakes.world]
  exact configure_relisted h p

/-- Two lists of an interface with a lease, an IPv4 literal and an IPv6 literal that is rejected, in
which `dhcp` comes first or comes late and twice. -/
theorem configure_phases_late :
    let r : Recorder := { indexes := [("net0", 2)], rejected := ["fd00::2/64"] }
    let net : Net := {
      physical := "net0"
      defaultRouter := some "10.0.0.1"
      attrs := [⟨"ips", "dhcp,10.0.0.2/24,addrconf,fd00::2/64"⟩] }
    let net' : Net := { net with attrs := [⟨"ips", "10.0.0.2/24,dhcp,fd00::2/64,dhcp"⟩] }
    net.Relisted net' ∧ ((r.setup true 5).configure net (.start [])).1 = .ok () ∧
      ∃ route : List Call, IsRoute (some "10.0.0.1") route ∧
        ((r.setup true 5).configure net' (.start [])).2.ledger.world
          = [.plumb "net0" .v4, .plumb "net0" .v6, .linkLocal "net0", .ensureAgent,
            .startLease "net0", .addLogical "net0" .v4 "net0:1", .createObject ⟨"net0:1/addr0"⟩,
            .setAddress ⟨"net0:1/addr0"⟩ "10.0.0.2/24", .activate ⟨"net0:1/addr0"⟩ "10.0.0.2/24",
            .release ⟨"net0:1/addr0"⟩, .addLogical "net0" .v6 "net0:1",
            .createObject ⟨"net0:1/addr1"⟩, .setAddress ⟨"net0:1/addr1"⟩ "fd00::2/64",
            .release ⟨"net0:1/addr1"⟩] ++ route := by
  intro r net net'
  have hrelisted : net.Relisted net' := {
    physical := rfl
    defaultRouter := rfl
    attr := by
      intro name hname
      simp [net, net', Net.attr, findAttr, hname.symm]
    listed := by decide +kernel
    literals := by decide +kernel
    dhcp := by decide +kernel }
  have hok : ((r.setup true 5).configure net (.start [])).1 = .ok () := by rfl
  obtain ⟨calls, route, hisRoute, hmakes, hsame⟩ := r.configure_phases true 5 net (.start [])
  refine ⟨hrelisted, hok, route, hisRoute, ?_⟩
  rw [(hsame net' hrelisted).2, hmakes.whole hok, ← List.append_assoc]
  refine congrArg (· ++ route) ?_
  decide +kernel

end Recorder

end ZoneNet
