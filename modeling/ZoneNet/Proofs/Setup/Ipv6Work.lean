import ZoneNet.Proofs.Setup.Accounts
import ZoneNet.Proofs.Setup.Phases

/-!
# IPv6 work in a zone without IPv6

A zone without IPv6 has no interface plumbed for it and no link-local address. Tokens are applied as
they are listed all the same, so what is done for IPv6 there is what an address list asks for: an
address, on a logical interface of its own, or autoconfiguration.

* `ofCalls_block` — a literal has no more IPv6 work done than it asks for.
* `configure_bounds`, `loopback_bounds`, `finish_bounds` — nor has any step of a run.
* `run_ipv6Work` — the IPv6 work of a run is what its address lists ask for, in order, at most once.
* `run_ipv6Work_asked` — what is asked for is done, although the zone has no IPv6.
-/

namespace ZoneNet

open scoped List

/-- What is done for IPv6. -/
inductive Ipv6Work where
  | plumb (iface : String)
  | linkLocal (iface : String)
  | logical (base : String)
  | address (addr : String)
  | autoconf
  deriving DecidableEq, Repr

/-- The IPv6 work that a call is, if it is any. -/
def Call.ipv6? : Call → Option Ipv6Work
  | plumb iface .v6 => some (.plumb iface)
  | linkLocal iface => some (.linkLocal iface)
  | addLogical base .v6 _ => some (.logical base)
  | activate _ addr => if Family.ofLiteral addr = .v6 then some (.address addr) else none
  | startAutoconf => some .autoconf
  | _ => none

namespace Ipv6Work

/-- The IPv6 work of calls, in order. -/
def ofCalls (calls : List Call) : List Ipv6Work := calls.filterMap Call.ipv6?

@[simp] theorem ofCalls_nil : ofCalls [] = [] := rfl

theorem ofCalls_cons (call : Call) (calls : List Call) :
    ofCalls (call :: calls) = call.ipv6?.toList ++ ofCalls calls := by
  unfold ofCalls
  rw [List.filterMap_cons]
  cases call.ipv6? <;> rfl

@[simp] theorem ofCalls_append (calls calls' : List Call) :
    ofCalls (calls ++ calls') = ofCalls calls ++ ofCalls calls' := List.filterMap_append

/-- The IPv6 work that a literal asks for on a base interface. -/
def ofLiteral (base addr : String) : List Ipv6Work :=
  if Family.ofLiteral addr = .v6 then [.logical base, .address addr] else []

/-- The IPv6 work that the literals of an interface ask for. -/
def ofNet (net : Net) : List Ipv6Work := net.literals.flatMap (ofLiteral net.physical)

/-- The IPv6 work that address lists ask for: that of their literals, and autoconfiguration once. -/
def ofNets (nets : List Net) : List Ipv6Work :=
  nets.flatMap ofNet ++ if ∃ net ∈ nets, .addrconf ∈ net.tokens then [.autoconf] else []

theorem mem_ofNets {nets : List Net} {work : Ipv6Work} (h : work ∈ ofNets nets) :
    (∃ net ∈ nets, ∃ addr ∈ net.literals, Family.ofLiteral addr = .v6 ∧
      (work = .logical net.physical ∨ work = .address addr)) ∨
    (∃ net ∈ nets, .addrconf ∈ net.tokens) ∧ work = .autoconf := by
  rcases List.mem_append.1 h with h | h
  · obtain ⟨net, hnet, h⟩ := List.mem_flatMap.1 h
    obtain ⟨addr, haddr, h⟩ := List.mem_flatMap.1 h
    unfold ofLiteral at h
    by_cases hfamily : Family.ofLiteral addr = .v6
    · rw [if_pos hfamily] at h
      exact Or.inl ⟨net, hnet, addr, haddr, hfamily, by simpa using h⟩
    · rw [if_neg hfamily] at h
      exact absurd h List.not_mem_nil
  · by_cases hasked : ∃ net ∈ nets, .addrconf ∈ net.tokens
    · rw [if_pos hasked] at h
      exact Or.inr ⟨hasked, List.mem_singleton.1 h⟩
    · rw [if_neg hasked] at h
      exact absurd h List.not_mem_nil

/-- What an outcome added to a journal holds no IPv6 work but this, in order. -/
def Bounds {ε α : Type} (work : List Ipv6Work) (o : Outcome ε α (Progress Journal)) (j : Journal) :
    Prop :=
  ∃ calls, o.2.ledger.world = j ++ calls ∧ ofCalls calls <+ work

/-- Where an outcome is gone on from, the work of both is bounded; where it is an error, that of the
first. -/
theorem Bounds.andThen {ε α β : Type} {work work' : List Ipv6Work}
    {o : Outcome ε α (Progress Journal)} {j : Journal}
    {f : α → Progress Journal → Outcome ε β (Progress Journal)} (h : Bounds work o j)
    (hf : ∀ a p, o = (.ok a, p) → Bounds work' (f a p) p.ledger.world) :
    Bounds (work ++ work') (o.andThen f) j := by
  obtain ⟨calls, hworld, hbound⟩ := h
  rcases o with ⟨e | a, p⟩
  · exact ⟨calls, hworld, hbound.trans (List.sublist_append_left _ _)⟩
  · obtain ⟨calls', hworld', hbound'⟩ := hf a p rfl
    refine ⟨calls ++ calls', ?_, ?_⟩
    · rw [Outcome.andThen_ok, hworld', hworld, List.append_assoc]
    · rw [ofCalls_append]
      exact hbound.append hbound'

/-- One operation for each member in order does no more than all of them may. -/
theorem Bounds.each {ε α : Type} {work : α → List Ipv6Work}
    {f : α → Progress Journal → Outcome ε Unit (Progress Journal)}
    (hf : ∀ a p, Bounds (work a) (f a p) p.ledger.world) (members : List α) (p : Progress Journal) :
    Bounds (members.flatMap work) (Outcome.each f members p) p.ledger.world := by
  induction members generalizing p with
  | nil => exact ⟨[], (List.append_nil _).symm, List.Sublist.refl _⟩
  | cons a members ih =>
    rw [Outcome.each_cons, List.flatMap_cons]
    exact (hf a p).andThen fun _ p _ => ih p

end Ipv6Work

namespace Recorder

open Ipv6Work

variable (r : Recorder) (timeout : UInt64)

/-! ## Literals -/

/-- Of the calls for an address object only its activation can be IPv6 work. -/
theorem ofCalls_holding (name : ObjectName) (addr : String) :
    ofCalls (r.holding name addr)
      <+ if Family.ofLiteral addr = .v6 then [.address addr] else [] := by
  unfold holding
  by_cases hcreate : name.text ∈ r.failCreate
  · rw [if_pos hcreate]
    exact List.nil_sublist _
  rw [if_neg hcreate]
  by_cases hactivates : r.Activates name addr
  · rw [if_pos hactivates]
    by_cases hfamily : Family.ofLiteral addr = .v6
    · simp [ofCalls_cons, Call.ipv6?, hfamily]
    · simp [ofCalls_cons, Call.ipv6?, hfamily]
  · simp [ofCalls_cons, Call.ipv6?, hactivates]

/-- A place for an address is IPv6 work if the address is an IPv6 one. -/
theorem ofCalls_placing {c : Context} {family : Family} {j : Journal} {iface : String}
    {placing : List Call} (h : r.place? c family j = some (iface, placing)) :
    ofCalls placing <+ if family = .v6 then [.logical c.base] else [] := by
  unfold place? at h
  split at h
  · cases h
    exact List.nil_sublist _
  split at h
  · cases h
  · cases h
    cases family with
    | v4 => exact List.Sublist.refl _
    | v6 => exact List.Sublist.refl _

/-- The block of a literal has no IPv6 work but what the literal asks for. -/
theorem ofCalls_block (c : Context) (addr : String) (j : Journal) (n : UInt32) :
    ofCalls (r.block c addr j n).calls <+ ofLiteral c.base addr := by
  unfold block
  rcases hplace : r.place? c (Family.ofLiteral addr) j with _ | ⟨iface, placing⟩
  · exact List.nil_sublist _
  dsimp only
  rw [ofCalls_append]
  have hboth := (r.ofCalls_placing hplace).append (r.ofCalls_holding (.make iface n) addr)
  unfold ofLiteral
  by_cases hfamily : Family.ofLiteral addr = .v6
  · simpa [hfamily] using hboth
  · simpa [hfamily] using hboth

theorem base_block (c : Context) (addr : String) (j : Journal) (n : UInt32) :
    (r.block c addr j n).context.base = c.base := by
  unfold block
  rcases r.place? c (Family.ofLiteral addr) j with _ | ⟨iface, placing⟩
  · rfl
  · dsimp only
    split
    · rfl
    · rfl

/-- Nor have the blocks of literals. -/
theorem ofCalls_blocks (addrs : List String) (c : Context) (j : Journal) (n : UInt32) :
    ofCalls (r.blocks addrs c j n).flatten <+ addrs.flatMap (ofLiteral c.base) := by
  induction addrs generalizing c j n with
  | nil => exact List.Sublist.refl _
  | cons addr addrs ih =>
    have hrest := ih (r.block c addr j n).context (j ++ (r.block c addr j n).calls)
      (r.block c addr j n).issued
    rw [base_block] at hrest
    rw [blocks, List.flatten_cons, ofCalls_append, List.flatMap_cons]
    exact (r.ofCalls_block c addr j n).append hrest

/-! ## Interfaces -/

theorem ofCalls_listing (base : String) (tokens : List Token) (j : Journal) (n : UInt32) :
    ofCalls (r.listing timeout base tokens j n)
      <+ (tokens.filterMap Token.literal?).flatMap (ofLiteral base) := by
  have hleasing : ofCalls (leasing base tokens) = [] := by
    unfold leasing
    split
    · rfl
    · rfl
  unfold listing
  rw [ofCalls_append, hleasing, List.nil_append]
  exact r.ofCalls_blocks _ (r.leased timeout base tokens) _ n

/-- An interface has no IPv6 against its zone, so nothing is linked there. -/
theorem linked_false (net : Net) : linked false net = [] := by
  unfold linked
  rcases hpolicy : interfaceIpv6 false net.physical (net.attr "ipv6") with e | enabled
  · rfl
  · rw [Opens.enabled (r := { failPlumb := [] }) ⟨List.not_mem_nil, hpolicy⟩]
    rfl

theorem ofCalls_phases (net : Net) (j : Journal) (n : UInt32) :
    ofCalls (r.phases false timeout net j n) <+ ofNet net := by
  unfold phases
  rw [linked_false, ofCalls_append]
  exact r.ofCalls_listing timeout net.physical net.tokens _ n

theorem IsRoute.ofCalls {gateway : Option String} {route : List Call} (h : IsRoute gateway route) :
    ofCalls route = [] := by
  cases gateway with
  | none =>
    cases h
    rfl
  | some gateway =>
    obtain ⟨accepted, message, rfl⟩ := h
    rfl

/-- However far its setup gets, an interface has no IPv6 work done but what its literals ask for. -/
theorem configure_bounds (net : Net) (p : Progress Journal) :
    Bounds (ofNet net) ((r.setup false timeout).configure net p) p.ledger.world := by
  obtain ⟨calls, route, hisRoute, hmakes⟩ := r.configure_calls false timeout net p
  refine ⟨calls, hmakes.world, ?_⟩
  have hfirst : ofCalls calls <+ ofCalls (_ ++ route) := (hmakes.first.filterMap _).sublist
  rw [ofCalls_append, hisRoute.ofCalls, List.append_nil] at hfirst
  exact hfirst.trans (r.ofCalls_phases timeout net _ _)

/-- The loopback address is no IPv6 address. -/
theorem loopback_bounds (p : Progress Journal) :
    Bounds [] ((r.setup false timeout).loopback p) p.ledger.world := by
  by_cases hplumb : Setup.loopbackName ∈ r.failPlumb
  · rw [r.loopback_of_mem false timeout hplumb]
    exact ⟨[], (List.append_nil _).symm, List.Sublist.refl _⟩
  · obtain ⟨p', happly, hworld, -⟩ := r.applyToken_literal false timeout
      { base := Setup.loopbackName } Setup.loopbackAddress
      (p.add (plumbing false Setup.loopbackName))
    unfold Setup.loopback
    rw [plumb_of_not_mem _ _ hplumb, Outcome.andThen_ok, happly]
    refine ⟨_, hworld.trans (List.append_assoc _ _ _), ?_⟩
    rw [ofCalls_append]
    exact r.ofCalls_block _ Setup.loopbackAddress _ _

/-! ## Runs -/

theorem reach_bounds (nets : List Net) (j : Journal) :
    Bounds (nets.flatMap ofNet) ((r.setup false timeout).reach nets j) j := by
  unfold Setup.reach
  rw [← List.nil_append (nets.flatMap ofNet)]
  exact (r.loopback_bounds timeout (.start j)).andThen
    fun _ p _ => Bounds.each (r.configure_bounds timeout) nets p

/-- The end of a run starts autoconfiguration at most, and only if it was asked for. -/
theorem finish_bounds (p : Progress Journal) :
    Bounds (if p.ledger.addrconf then [.autoconf] else []) ((r.setup false timeout).finish p)
      p.ledger.world := by
  rw [finish_eq]
  by_cases hasked : p.ledger.addrconf = true
  · rw [if_pos hasked, if_pos hasked]
    by_cases hfail : r.failAutoconf = true
    · rw [if_pos hfail]
      exact ⟨[], (List.append_nil _).symm, List.nil_sublist _⟩
    · rw [if_neg hfail]
      exact ⟨[.startAutoconf], rfl, List.Sublist.refl _⟩
  · rw [if_neg hasked, if_neg hasked]
    exact ⟨[], (List.append_nil _).symm, List.Sublist.refl _⟩

theorem run_bounds (nets : List Net) (j : Journal) :
    Bounds (ofNets nets) ((r.setup false timeout).run nets j) j := by
  rw [Setup.run_eq]
  refine (r.reach_bounds timeout nets j).andThen fun _ p hreach => ?_
  -- only a run that set up every interface gets to its end, and there all tokens have been applied
  have hend := r.finish_bounds timeout p
  simp only [reach_addrconf hreach] at hend
  exact hend

/-- In a zone without IPv6, whether a run ends well or not, no interface is plumbed for IPv6 and
none has a link-local address. What else is done for IPv6 is what an address list asks for, in order
and at most once: a logical interface and an address for each IPv6 literal, and autoconfiguration.
Where no list asks for any of it, nothing is done for IPv6. -/
theorem run_ipv6Work (r : Recorder) (timeout : UInt64) (nets : List Net) (j : Journal) :
    ∃ calls, ((r.setup false timeout).run nets j).2.ledger.world = j ++ calls ∧
      (∀ iface, .plumb iface .v6 ∉ calls ∧ .linkLocal iface ∉ calls) ∧
      calls.filterMap Call.ipv6? <+ nets.flatMap ofNet
        ++ (if ∃ net ∈ nets, .addrconf ∈ net.tokens then [.autoconf] else []) ∧
      ((∀ net ∈ nets, .addrconf ∉ net.tokens ∧
          ∀ addr ∈ net.literals, Family.ofLiteral addr = .v4) →
        calls.filterMap Call.ipv6? = []) := by
  obtain ⟨calls, hworld, hbound⟩ := r.run_bounds timeout nets j
  have hasked {call : Call} {work : Ipv6Work} (hcall : call ∈ calls)
      (hwork : call.ipv6? = some work) :=
    mem_ofNets (hbound.subset (List.mem_filterMap.2 ⟨call, hcall, hwork⟩))
  refine ⟨calls, hworld, fun iface => ⟨fun hcall => ?_, fun hcall => ?_⟩, hbound, fun hnone => ?_⟩
  · simpa using hasked hcall rfl
  · simpa using hasked hcall rfl
  · refine List.eq_nil_iff_forall_not_mem.2 fun work hwork => ?_
    rcases mem_ofNets (hbound.subset hwork) with
      ⟨net, hnet, addr, haddr, hfamily, -⟩ | ⟨⟨net, hnet, htoken⟩, -⟩
    · rw [(hnone net hnet).2 addr haddr] at hfamily
      cases hfamily
    · exact (hnone net hnet).1 htoken

/-- A lease and an IPv4 literal are no IPv6 work, in a run that ends over its default route. -/
theorem run_ipv6Work_none :
    let r : Recorder := {}
    let nets : List Net := [{
      physical := "net0"
      defaultRouter := some "10.0.0.1"
      attrs := [⟨"ips", "dhcp,10.0.0.2/24"⟩, ⟨"primary", "true"⟩] }]
    let o := (r.setup false 5).run nets []
    (∃ e, o.1 = .error e) ∧ .activate ⟨"net0:1/addr1"⟩ "10.0.0.2/24" ∈ o.2.ledger.world ∧
      o.2.ledger.world.filterMap Call.ipv6? = [] := by
  intro r nets o
  obtain ⟨calls, hworld, -, -, hnone⟩ := r.run_ipv6Work 5 nets []
  have hlists : ∀ net ∈ nets, .addrconf ∉ net.tokens ∧
      ∀ addr ∈ net.literals, Family.ofLiteral addr = .v4 := by decide +kernel
  refine ⟨⟨_, rfl⟩, by decide +kernel, ?_⟩
  rw [hworld, List.nil_append]
  exact hnone hlists

/-- A list that asks for an IPv6 address and for autoconfiguration is given both. -/
theorem run_ipv6Work_asked :
    let r : Recorder := {}
    let nets : List Net := [{ physical := "net0", attrs := [⟨"ips", "fd00::2/64,addrconf"⟩] }]
    let o := (r.setup false 5).run nets []
    (∃ report, o.1 = .ok report) ∧
      o.2.ledger.world.filterMap Call.ipv6?
        = [.logical "net0", .address "fd00::2/64", .autoconf] ∧
      .addLogical "net0" .v6 "net0:1" ∈ o.2.ledger.world ∧
      .activate ⟨"net0:1/addr1"⟩ "fd00::2/64" ∈ o.2.ledger.world ∧
      .startAutoconf ∈ o.2.ledger.world := by
  intro r nets o
  exact ⟨⟨_, rfl⟩, by decide +kernel, by decide +kernel, by decide +kernel, by decide +kernel⟩

end Recorder

end ZoneNet
