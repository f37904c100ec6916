import ZoneNet.Proofs.Setup.Gain

/-!
# Settling the tokens of an interface

A token is settled when it was applied or skipped. Over a recorder every token is settled, `dhcp`
in first place excepted while the agent is down.

* `Writes.settles` — a token that is not fatal is settled by its entries and its note.
* `settlesAll_of_not_mem` — tokens without `dhcp` are all settled, in order.
* `applyOrder_of_agentDown`, `settlesAll_order` — so is every list in the order of application,
  unless the agent that it needs is down.
-/

namespace ZoneNet

/-- A token of an interface, and what came of it. -/
structure Settlement where
  iface : String
  token : Token
  result : Except AssignError Applied

/-- Whether a call activates an address or asks for a lease. -/
def Call.isSettling : Call → Bool
  | activate _ _ => true
  | startLease _ => true
  | _ => false

/-- Calls settle nothing outside the steps for leases and addresses. -/
theorem Made.filter_isSettling {first last : SetupStep} {calls : List Call}
    (h : Made first last calls) (hlease : ¬(first ≤ .lease ∧ .lease ≤ last))
    (haddresses : ¬(first ≤ .addresses ∧ .addresses ≤ last)) :
    calls.filter Call.isSettling = [] := by
  rw [List.filter_eq_nil_iff]
  intro call hm hsettling
  obtain ⟨step, hstep, hwithin⟩ := h call hm
  cases call with
  | startLease iface =>
    cases hstep
    exact hlease hwithin
  | activate name addr =>
    cases hstep
    exact haddresses hwithin
  | _ => cases hsettling

namespace Settlement

/-- The note of a settlement; a token that was skipped is warned of. -/
def note (s : Settlement) : SetupNote :=
  match s.result with
  | .ok did => .applied s.iface s.token did
  | .error e => .warned (.address s.iface s.token.text e)

/-- The warning of a settlement, if its token was skipped. -/
def warning? (s : Settlement) : Option SetupWarning := s.note.warning?

/-- The calls that a settlement is told by: one for a lease whatever came of it, one for a literal
that was activated. -/
def footprint (s : Settlement) : List Call :=
  match s.token, s.result with
  | .dhcp, _ => [.startLease s.iface]
  | .literal addr, .ok (.address _ name) => [.activate name addr]
  | _, _ => []

/-- Whether a settlement spent a name. -/
def spends (s : Settlement) : Bool := s.token.spends s.result

theorem map_token {settled : List Settlement} {iface : String} {tokens : List Token}
    (h : settled.map (fun s => (s.iface, s.token)) = tokens.map (iface, ·)) :
    settled.map Settlement.token = tokens := by
  have hsnd := congrArg (List.map Prod.snd) h
  rwa [List.map_map, List.map_map, show Prod.snd ∘ (iface, ·) = id from rfl, List.map_id] at hsnd

/-- The gain of a settlement that wrote these calls; it is told at the end. -/
def gain (s : Settlement) (calls : List Call) : Gain :=
  { calls, names := if s.spends then 1 else 0, addrconf := decide (s.token = .addrconf) }
    ++ { notes := [s.note] }

/-- What can come of a token that is settled. A lease is had or not as the agent is set; a literal
is activated on some interface or skipped for want of an interface or over some stage. -/
inductive Fits (r : Recorder) (timeout : UInt64) : Settlement → Prop where
  | noted {iface : String} : Fits r timeout ⟨iface, .addrconf, .ok .addrconf⟩
  | leased {iface : String} (hcause : r.leaseCause timeout iface = none) :
      Fits r timeout ⟨iface, .dhcp, .ok (.lease iface)⟩
  | unleased {iface : String} {cause : FacilityError}
      (hcause : r.leaseCause timeout iface = some cause) :
      Fits r timeout ⟨iface, .dhcp, .error (.lease iface cause)⟩
  | unplaced {iface addr : String} {e : AllocError} :
      Fits r timeout ⟨iface, .literal addr, .error (.alloc e)⟩
  | failed {iface addr lif : String} {stage : Stage} {cause : FacilityError} :
      Fits r timeout ⟨iface, .literal addr, .error (.apply lif addr stage cause)⟩
  | activated {iface addr lif : String} {name : ObjectName} :
      Fits r timeout ⟨iface, .literal addr, .ok (.address lif name)⟩

end Settlement

/-- A gain that comes of settling these tokens in order and of nothing else. -/
structure Gain.Settles (g : Gain) (r : Recorder) (timeout : UInt64) (settled : List Settlement) :
    Prop where
  fits : ∀ s ∈ settled, s.Fits r timeout
  footprint : g.calls.filter Call.isSettling = settled.flatMap Settlement.footprint
  made : Made .agent .addresses g.calls
  warnings : g.warnings = settled.filterMap Settlement.warning?
  interfaces : g.interfaces = []
  names : g.names = settled.countP Settlement.spends
  addrconf : g.addrconf = settled.any (·.token = .addrconf)

variable {r : Recorder} {zone : Bool} {timeout : UInt64}

theorem Gain.settles_nil : Gain.Settles {} r timeout [] where
  fits := by simp
  footprint := rfl
  made := made_nil _ _
  warnings := rfl
  interfaces := rfl
  names := rfl
  addrconf := rfl

theorem Gain.Settles.append {g h : Gain} {settled settled' : List Settlement}
    (hg : g.Settles r timeout settled) (hh : h.Settles r timeout settled') :
    (g ++ h).Settles r timeout (settled ++ settled') where
  fits := by
    intro s hs
    rcases List.mem_append.1 hs with hs | hs
    · exact hg.fits s hs
    · exact hh.fits s hs
  footprint := by
    rw [Gain.calls_append, List.filter_append, hg.footprint, hh.footprint, List.flatMap_append]
  made := hg.made.append hh.made
  warnings := by rw [Gain.warnings_append, hg.warnings, hh.warnings, List.filterMap_append]
  interfaces := by rw [Gain.interfaces_append, hg.interfaces, hh.interfaces, List.append_nil]
  names := by rw [Gain.names_append, hg.names, hh.names, List.countP_append]
  addrconf := by rw [Gain.addrconf_append, hg.addrconf, hh.addrconf, List.any_append]

/-- One settlement is settled by calls that show its footprint. -/
theorem Settlement.Fits.settles {s : Settlement} (h : s.Fits r timeout) {calls : List Call}
    (hfootprint : calls.filter Call.isSettling = s.footprint) (hmade : Made .agent .addresses calls) :
    (s.gain calls).Settles r timeout [s] where
  fits := by
    intro s' hs'
    rwa [List.mem_singleton.1 hs']
  footprint := by simpa [gain] using hfootprint
  made := hmade.append (made_nil _ _)
  warnings := rfl
  interfaces := rfl
  names := by
    rw [List.countP_singleton]
    rfl
  addrconf := by simp [gain]

namespace Recorder

/-- Placing an address asks for a logical interface at most. -/
theorem Places.calls {c : Context} {family : Family} {j : Journal} {iface : String}
    {placing : List Call} (h : r.Places c family j iface placing) :
    placing.filter Call.isSettling = [] ∧ Made .agent .addresses placing := by
  cases h with
  | base => exact ⟨rfl, made_nil _ _⟩
  | logical => exact ⟨rfl, by simp +decide [Call.step?]⟩

/-- The base interface of a fresh context is free for a lease. -/
theorem Places.of_fresh {c : Context} {j : Journal} {iface : String} {placing : List Call}
    (h : r.Places c .v4 j iface placing) (hfresh : c.occupied = false) :
    iface = c.base ∧ placing = [] := by
  cases h with
  | base => exact ⟨rfl, rfl⟩
  | logical hn => exact absurd ⟨rfl, hfresh⟩ hn

theorem Writes.settles {c : Context} {l : Ledger Journal} {t : Token}
    {result : Except AssignError Applied} {calls : List Call}
    (h : r.Writes timeout c l t result calls) (hfresh : t = .dhcp → c.occupied = false)
    (hfatal : ∀ e, result ≠ .error (.agent e)) :
    (Settlement.gain ⟨c.base, t, result⟩ calls).Settles r timeout [⟨c.base, t, result⟩] := by
  suffices hcalls : Settlement.Fits r timeout ⟨c.base, t, result⟩ ∧
      calls.filter Call.isSettling = Settlement.footprint ⟨c.base, t, result⟩ ∧
      Made .agent .addresses calls from
    hcalls.1.settles hcalls.2.1 hcalls.2.2
  cases h with
  | noted => exact ⟨.noted, rfl, made_nil _ _⟩
  | unplaced hfamily hn =>
    -- the base interface of a fresh context takes a lease, so only literals are left without one
    cases t with
    | dhcp =>
      cases hfamily
      exact absurd ⟨rfl, hfresh rfl⟩ hn
    | addrconf => cases hfamily
    | literal addr => exact ⟨.unplaced, rfl, made_nil _ _⟩
  | agentless => exact absurd rfl (hfatal _)
  | unleased hp _ hcause =>
    obtain ⟨rfl, rfl⟩ := hp.of_fresh (hfresh rfl)
    exact ⟨.unleased hcause, rfl, by simp +decide [Call.step?]⟩
  | leased hp _ hcause =>
    obtain ⟨rfl, rfl⟩ := hp.of_fresh (hfresh rfl)
    exact ⟨.leased hcause, rfl, by simp +decide [Call.step?]⟩
  | uncreated hp => exact ⟨.failed, hp.calls.1, hp.calls.2⟩
  | unset hp =>
    refine ⟨.failed, ?_, hp.calls.2.append (by simp +decide [Call.step?])⟩
    rw [List.filter_append, hp.calls.1]
    rfl
  | inactive hp =>
    refine ⟨.failed, ?_, hp.calls.2.append (by simp +decide [Call.step?])⟩
    rw [List.filter_append, hp.calls.1]
    rfl
  | activated hp =>
    refine ⟨.activated, ?_, hp.calls.2.append (by simp +decide [Call.step?])⟩
    rw [List.filter_append, hp.calls.1]
    rfl

/-! ## One token -/

variable (r) (zone) (timeout)

theorem ledger_after (p : Progress Journal) (t : Token) (result : Except AssignError Applied)
    (calls : List Call) :
    { p with ledger := p.ledger.after t result calls }
      = p.add { calls, names := if t.spends result then 1 else 0,
                addrconf := decide (t = .addrconf) } := by
  unfold Ledger.after Progress.add
  by_cases h : t.spends result = true
  · simp [h]
  · simp [h]

theorem Writes.eq_dhcp {c : Context} {l : Ledger Journal} {t : Token} {e : FacilityError}
    {calls : List Call} (h : r.Writes timeout c l t (.error (.agent e)) calls) : t = .dhcp := by
  cases h with
  | agentless => rfl

/-- A token ends the run when the agent that it needs cannot be started; any other token adds its
settlement. -/
theorem exists_applyToken (c : Context) (t : Token) (p : Progress Journal) :
    ∃ result calls, r.Writes timeout c p.ledger t result calls ∧
      ((∃ e, result = .error (.agent e) ∧ (r.setup zone timeout).applyToken c t p
          = (.error (.address (.agent e)), p.add { calls })) ∨
        (∀ e, result ≠ .error (.agent e)) ∧ (r.setup zone timeout).applyToken c t p
          = (.ok (c.after t result), p.add (Settlement.gain ⟨c.base, t, result⟩ calls))) := by
  obtain ⟨result, calls, hwrites, happly⟩ := r.exists_writes timeout c t p.ledger
  refine ⟨result, calls, hwrites, ?_⟩
  have happly' : (r.setup zone timeout).assigner.apply c t p.ledger
      = (result, c.after t result, p.ledger.after t result calls) := happly
  unfold Setup.applyToken
  rw [happly']
  cases result with
  | ok did =>
    refine Or.inr ⟨fun e he => (by cases he), ?_⟩
    dsimp only
    rw [ledger_after, note_eq, Progress.add_add, Context.after_base]
    rfl
  | error e =>
    cases e with
    | agent e =>
      obtain rfl := hwrites.eq_dhcp
      refine Or.inl ⟨e, rfl, ?_⟩
      dsimp only [AssignError.severity]
      rw [ledger_after]
      rfl
    | _ =>
      refine Or.inr ⟨fun e he => (by cases he), ?_⟩
      dsimp only [AssignError.severity]
      rw [ledger_after, Setup.warn, note_eq, Progress.add_add, Context.after_base]
      rfl

/-- A token is settled on any context, and `dhcp` on a fresh one while its agent can be started. -/
theorem exists_settlement {c : Context} {t : Token}
    (h : t = .dhcp → c.occupied = false ∧ r.lease ≠ .agentDown) (p : Progress Journal) :
    ∃ result calls, r.Writes timeout c p.ledger t result calls ∧
      (Settlement.gain ⟨c.base, t, result⟩ calls).Settles r timeout [⟨c.base, t, result⟩] ∧
      (r.setup zone timeout).applyToken c t p
        = (.ok (c.after t result), p.add (Settlement.gain ⟨c.base, t, result⟩ calls)) := by
  obtain ⟨result, calls, hwrites, ⟨e, rfl, -⟩ | ⟨hfatal, happly⟩⟩ :=
    r.exists_applyToken zone timeout c t p
  · cases hwrites with
    | agentless _ hdown => exact absurd hdown (h rfl).2
  · exact ⟨result, calls, hwrites, hwrites.settles (fun ht => (h ht).1) hfatal, happly⟩

/-! ## Tokens in order -/

/-- Whatever was done before, these tokens are all settled, in order. -/
def SettlesAll (tokens : List Token) (c : Context) : Prop :=
  ∀ p, ∃ settled g, Gain.Settles g r timeout settled ∧
    settled.map (fun s => (s.iface, s.token)) = tokens.map (c.base, ·) ∧
    (r.setup zone timeout).applyTokens tokens c p = (.ok (), p.add g)

variable {r zone timeout}

theorem settlesAll_nil (c : Context) : r.SettlesAll zone timeout [] c := by
  intro p
  refine ⟨[], {}, Gain.settles_nil, rfl, ?_⟩
  rw [Progress.add_empty]
  rfl

theorem SettlesAll.cons {c : Context} {t : Token} {tokens : List Token}
    (ht : t = .dhcp → c.occupied = false ∧ r.lease ≠ .agentDown)
    (htokens : ∀ c', c'.base = c.base → r.SettlesAll zone timeout tokens c') :
    r.SettlesAll zone timeout (t :: tokens) c := by
  intro p
  obtain ⟨result, calls, -, hsettles, hfirst⟩ := r.exists_settlement zone timeout ht p
  obtain ⟨settled, g, hg, hmap, hrest⟩ := htokens (c.after t result) (c.after_base t result)
    (p.add (Settlement.gain ⟨c.base, t, result⟩ calls))
  refine ⟨_, _, hsettles.append hg, ?_, ?_⟩
  · rw [List.singleton_append, List.map_cons, List.map_cons, hmap, Context.after_base]
  · rw [Setup.applyTokens, hfirst, Outcome.andThen_ok, hrest, Progress.add_add]

/-- Tokens without `dhcp` are settled whatever is on the base interface. -/
theorem settlesAll_of_not_mem {tokens : List Token} (h : .dhcp ∉ tokens) (c : Context) :
    r.SettlesAll zone timeout tokens c := by
  induction tokens generalizing c with
  | nil => exact settlesAll_nil c
  | cons t tokens ih =>
    obtain ⟨ht, htokens⟩ := List.ne_and_not_mem_of_not_mem_cons h
    exact .cons (fun hdhcp => absurd hdhcp.symm ht) fun c' _ => ih htokens c'

/-! ## The order of application -/

/-- The order of application has `dhcp` in first place if at all. -/
theorem order_of_mem {tokens : List Token} (h : .dhcp ∈ tokens) :
    Setup.order tokens = .dhcp :: tokens.filter (· ≠ .dhcp) := by
  rw [Setup.order, if_pos h, List.singleton_append]

theorem order_of_not_mem {tokens : List Token} (h : .dhcp ∉ tokens) :
    Setup.order tokens = tokens.filter (· ≠ .dhcp) := by
  rw [Setup.order, if_neg h, List.nil_append]

theorem not_mem_rest (tokens : List Token) : Token.dhcp ∉ tokens.filter (· ≠ .dhcp) := by
  intro h
  have hne := (List.mem_filter.1 h).2
  simp at hne

/-- The order of application drops no token but `dhcp` listed again. -/
theorem mem_order {t : Token} {tokens : List Token} : t ∈ Setup.order tokens ↔ t ∈ tokens := by
  by_cases hdhcp : .dhcp ∈ tokens
  · rw [order_of_mem hdhcp, List.mem_cons, List.mem_filter, decide_eq_true_iff]
    constructor
    · rintro (rfl | ⟨hm, -⟩)
      · exact hdhcp
      · exact hm
    · intro hm
      by_cases ht : t = .dhcp
      · exact Or.inl ht
      · exact Or.inr ⟨hm, ht⟩
  · rw [order_of_not_mem hdhcp, List.mem_filter, decide_eq_true_iff]
    constructor
    · rintro ⟨hm, -⟩
      exact hm
    · intro hm
      refine ⟨hm, ?_⟩
      rintro rfl
      exact hdhcp hm

/-- Without the agent that it needs a list ends the run, and the agent alone was asked for. -/
theorem applyOrder_of_agentDown {tokens : List Token} (h : .dhcp ∈ tokens)
    (hdown : r.lease = .agentDown) (base : String) (p : Progress Journal) :
    (r.setup zone timeout).applyTokens (Setup.order tokens) { base } p
      = (.error (.address (.agent (.timeout "start dhcpagent" timeout))),
        p.add { calls := [.ensureAgent] }) := by
  rw [order_of_mem h, Setup.applyTokens]
  obtain ⟨result, calls, hwrites, hfirst⟩ := r.exists_applyToken zone timeout { base } .dhcp p
  -- of the ways that `dhcp` can go on a fresh context, the setting leaves one
  cases hwrites with
  | unplaced hfamily hn =>
    cases hfamily
    exact absurd ⟨rfl, rfl⟩ hn
  | agentless hp =>
    obtain ⟨-, rfl⟩ := hp.of_fresh rfl
    rcases hfirst with ⟨e, he, hfirst⟩ | ⟨hfatal, -⟩
    · cases he
      rw [hfirst]
      rfl
    · exact absurd rfl (hfatal _)
  | unleased _ hup => exact absurd hdown hup
  | leased _ hup => exact absurd hdown hup

/-- With the agent that it needs a list is settled in the order of application. -/
theorem settlesAll_order {tokens : List Token} (h : .dhcp ∈ tokens → r.lease ≠ .agentDown)
    (base : String) : r.SettlesAll zone timeout (Setup.order tokens) { base } := by
  have hrest (c : Context) : r.SettlesAll zone timeout (tokens.filter (· ≠ .dhcp)) c :=
    settlesAll_of_not_mem (not_mem_rest tokens) c
  by_cases hdhcp : .dhcp ∈ tokens
  · rw [order_of_mem hdhcp]
    exact .cons (fun _ => ⟨rfl, h hdhcp⟩) fun c _ => hrest c
  · rw [order_of_not_mem hdhcp]
    exact hrest { base }

end Recorder

end ZoneNet
