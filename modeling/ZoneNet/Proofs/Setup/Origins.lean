import ZoneNet.Proofs.Setup.Lockstep
import ZoneNet.Proofs.Setup.Turns

/-!
# What turns bring about

Something that only turns of one kind bring about, and that nothing else makes a difference to, is
there after a run just when it was there before or a turn of the run was of that kind.

* `ArisesIn.turns`, `ArisesIn.configure` — tokens in order, and an interface.
* `ArisesIn.run` — a whole run.
-/

namespace ZoneNet.Setup

variable {σ : Type}

/-- Only turns of one kind bring this about; whatever else a setup does leaves it as it is. -/
structure ArisesIn (u : Setup σ) (I : σ → Prop) (B : Turn σ → Prop) : Prop where
  plumb : ∀ iface family s, I (u.facilities.addresses.plumb iface family s).2 ↔ I s
  linkLocal : ∀ iface s, I (u.facilities.addresses.bringUpLinkLocal iface s).2 ↔ I s
  apply : ∀ c t l, I (u.assigner.apply c t l).2.2.world ↔ I l.world ∨ B ⟨c, t, l⟩
  send : ∀ message s, I (u.facilities.routes.send message s).2 ↔ I s
  autoconf : ∀ s, I (u.facilities.autoconf.start s).2 ↔ I s
  tell : ∀ n s, I (u.tell n s) ↔ I s

namespace ArisesIn

variable {u : Setup σ} {I : σ → Prop} {B : Turn σ → Prop} (h : u.ArisesIn I B)
include h

/-! ## Between the turns -/

theorem plumbs (iface : String) (p : Progress σ) :
    I (u.plumb iface p).2.ledger.world ↔ I p.ledger.world := by
  refine Outcome.each_keeps (P := fun q : Progress σ => I q.ledger.world ↔ I p.ledger.world) ?_ _
    Iff.rfl
  intro family q hq
  have hplumb := (h.plumb iface family q.ledger.world).trans hq
  unfold plumbFamily
  generalize u.facilities.addresses.plumb iface family q.ledger.world = o at hplumb ⊢
  rcases o with ⟨e | outcome, s⟩ <;> exact hplumb

theorem linkLocals (iface : String) (p : Progress σ) :
    I (u.linkLocal iface p).ledger.world ↔ I p.ledger.world := by
  have hlink := h.linkLocal iface p.ledger.world
  unfold Setup.linkLocal
  generalize u.facilities.addresses.bringUpLinkLocal iface p.ledger.world = o at hlink ⊢
  rcases o with ⟨e | _, s⟩
  · exact (h.tell _ s).trans hlink
  · exact hlink

theorem noteAbsence (net : Net) (p : Progress σ) :
    I (u.noteAbsence net p).ledger.world ↔ I p.ledger.world := by
  unfold Setup.noteAbsence
  split
  · exact h.tell _ _
  · rfl

theorem installRoute (q : RouteRequest) (s : σ) :
    I (ZoneNet.installRoute u.facilities.routes q s).2 ↔ I s := by
  unfold ZoneNet.installRoute
  rcases messageFor u.facilities.routes q with e | message
  · rfl
  · have hsend := h.send message.encode s
    dsimp only
    generalize u.facilities.routes.send message.encode s = o at hsend ⊢
    rcases o with ⟨e | written, s'⟩
    · exact hsend
    · dsimp only
      split <;> exact hsend

theorem defaultRoute (iface gateway : String) (p : Progress σ) :
    I (u.defaultRoute iface gateway p).2.ledger.world ↔ I p.ledger.world := by
  unfold Setup.defaultRoute
  rcases IPv4.parse? gateway with _ | ip
  · rfl
  · have hroute := h.installRoute (.defaultVia ip iface) p.ledger.world
    dsimp only
    generalize ZoneNet.installRoute u.facilities.routes _ p.ledger.world = o at hroute ⊢
    rcases o with ⟨e | _, s⟩
    · exact hroute
    · exact (h.tell _ s).trans hroute

theorem finish (p : Progress σ) : I (u.finish p).2.ledger.world ↔ I p.ledger.world := by
  unfold Setup.finish
  split
  · have hstart := h.autoconf p.ledger.world
    generalize u.facilities.autoconf.start p.ledger.world = o at hstart ⊢
    rcases o with ⟨e | _, s⟩ <;> exact hstart
  · rfl

/-! ## Turns -/

/-- One token, as one turn. -/
theorem applyToken (c : Context) (t : Token) (p : Progress σ) :
    I (u.applyToken c t p).2.ledger.world ↔ I p.ledger.world ∨ B ⟨c, t, p.ledger⟩ := by
  have happly := h.apply c t p.ledger
  unfold Setup.applyToken
  generalize u.assigner.apply c t p.ledger = o at happly ⊢
  rcases o with ⟨e | did, c', l⟩
  · dsimp only
    cases e.severity with
    | fatal => exact happly
    | warning => exact (h.tell _ _).trans happly
  · exact (h.tell _ _).trans happly

/-- Tokens in order, each of which has its turn unless one before it ends the run. -/
theorem turns (ts : List Token) (c : Context) (p : Progress σ) :
    I (u.applyTokens ts c p).2.ledger.world ↔
      I p.ledger.world ∨ ∃ turn ∈ u.turns ts c p, B turn := by
  induction ts generalizing c p with
  | nil => simp [applyTokens, Setup.turns]
  | cons t ts ih =>
    have hone := h.applyToken c t p
    rw [applyTokens, Setup.turns]
    generalize u.applyToken c t p = o at hone ⊢
    rcases o with ⟨e | c', p'⟩
    · simpa using hone
    · rw [Outcome.andThen_ok, ih, hone, or_assoc]
      simp

theorem assign (net : Net) (list : String) (p : Progress σ) :
    I (u.assign net list p).2.ledger.world ↔ I p.ledger.world ∨
      ∃ turn ∈ u.turns (order (Token.parseList list)) { base := net.physical } p, B turn := by
  rw [← h.turns]
  unfold Setup.assign
  generalize u.applyTokens (order (Token.parseList list)) { base := net.physical } p = o
  rcases o with ⟨e | _, p'⟩
  · rfl
  · rw [Outcome.andThen_ok]
    rcases net.gateway with _ | gateway
    · rfl
    · exact h.defaultRoute net.physical gateway p'

/-- One interface. -/
theorem configure (net : Net) (p : Progress σ) :
    I (u.configure net p).2.ledger.world ↔
      I p.ledger.world ∨ ∃ turn ∈ u.netTurns net p, B turn := by
  have hplumb := h.plumbs net.physical (p.visit net.physical)
  rw [show (p.visit net.physical).ledger = p.ledger from rfl] at hplumb
  rw [← hplumb]
  unfold Setup.configure netTurns
  generalize u.plumb net.physical (p.visit net.physical) = o
  rcases o with ⟨e | _, p'⟩
  · simp
  rw [Outcome.andThen_ok]
  have habsence := h.noteAbsence net p'
  dsimp only
  generalize u.noteAbsence net p' = q at habsence ⊢
  rw [← habsence]
  rcases interfaceIpv6 u.ipv6 net.physical (net.attr "ipv6") with e | enabled
  · simp
  have hlink : I (if enabled = true then u.linkLocal net.physical q else q).ledger.world ↔
      I q.ledger.world := by
    split
    · exact h.linkLocals net.physical q
    · rfl
  dsimp only
  rw [← hlink]
  rcases hlist : net.addressList with _ | list
  -- without a list there are no tokens, and so no turns
  · rw [Net.tokens_of_none hlist]
    simp [order, Setup.turns]
  · rw [Net.tokens_of_some hlist]
    exact h.assign net list _

/-- Interfaces in order. -/
theorem nets (nets : List Net) (p : Progress σ) :
    I (Outcome.each u.configure nets p).2.ledger.world ↔
      I p.ledger.world ∨ ∃ turn ∈ u.netsTurns nets p, B turn := by
  induction nets generalizing p with
  | nil => simp [netsTurns]
  | cons net nets ih =>
    have hone := h.configure net p
    rw [Outcome.each_cons, netsTurns]
    generalize u.configure net p = o at hone ⊢
    rcases o with ⟨e | _, p'⟩
    · simpa using hone
    · rw [Outcome.andThen_ok, ih, hone, or_assoc]
      simp only [List.mem_append, or_and_right, exists_or]

theorem loopback (p : Progress σ) :
    I (u.loopback p).2.ledger.world ↔
      I p.ledger.world ∨ ∃ turn ∈ u.loopbackTurns p, B turn := by
  rw [← h.plumbs loopbackName p]
  unfold Setup.loopback loopbackTurns
  generalize u.plumb loopbackName p = o
  rcases o with ⟨e | _, p'⟩
  · simp
  rw [Outcome.andThen_ok]
  dsimp only
  rw [← h.turns, applyTokens]
  generalize u.applyToken { base := loopbackName } (.literal loopbackAddress) p' = o
  rcases o with ⟨e | c, p''⟩
  · rfl
  · rw [Outcome.andThen_ok, Outcome.andThen_ok]
    dsimp only
    split
    · exact h.linkLocals loopbackName p''
    · rfl

/-- Only the turns of a run bring it about. -/
theorem run (nets : List Net) (s : σ) :
    I (u.run nets s).2.ledger.world ↔ I s ∨ ∃ turn ∈ u.runTurns nets s, B turn := by
  have hloopback := h.loopback (.start s)
  rw [show (Progress.start s).ledger.world = s from rfl] at hloopback
  unfold Setup.run runTurns
  generalize u.loopback (.start s) = o at hloopback ⊢
  rcases o with ⟨e | _, p⟩
  · simpa using hloopback
  rw [Outcome.andThen_ok]
  have hnets := h.nets nets p
  rw [hloopback] at hnets
  have hrun : I ((Outcome.each u.configure nets p).andThen fun _ p => u.finish p).2.ledger.world ↔
      I (Outcome.each u.configure nets p).2.ledger.world := by
    generalize Outcome.each u.configure nets p = o
    rcases o with ⟨e | _, p'⟩
    · rfl
    · exact h.finish p'
  rw [hrun, hnets, or_assoc]
  simp only [List.mem_append, or_and_right, exists_or]

end ArisesIn

end ZoneNet.Setup
