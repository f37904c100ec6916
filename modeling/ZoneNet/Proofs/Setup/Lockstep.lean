import ZoneNet.Proofs.Address.Steps
import ZoneNet.Setup.Run

/-!
# Two setups in lockstep

Two setups, each over facilities of its own, are run for one interface side by side. If the
facilities agree on every operation from states that are related, then the runs agree: they fail
alike, warn alike and leave related states. The numbers of address objects may differ by an offset,
which is the same from the first object to the last.

* `Lockstep.applyToken` — one token.
* `Lockstep.configure`, `Lockstep.loopback` — one interface.
* `Keeps.configure`, `Keeps.run` — what every operation keeps is kept: a setup is in lockstep with
  itself.
-/

namespace ZoneNet

variable {σ τ : Type}

/-! ## Outcomes that agree -/

/-- Both succeed, with values and states that are related, or both fail with one error and states
that are related. -/
inductive Outcome.Agree {ε α β : Type} (A : α → β → Prop) (R : σ → τ → Prop) :
    Outcome ε α σ → Outcome ε β τ → Prop where
  | ok {a : α} {b : β} {s : σ} {t : τ} (hvalue : A a b) (hstate : R s t) :
      Agree A R (.ok a, s) (.ok b, t)
  | error {e : ε} {s : σ} {t : τ} (hstate : R s t) : Agree A R (.error e, s) (.error e, t)

namespace Outcome.Agree

variable {ε ε' α β γ δ : Type} {A : α → β → Prop} {B : γ → δ → Prop} {R : σ → τ → Prop}
  {o : Outcome ε α σ} {o' : Outcome ε β τ}

theorem state (h : Agree A R o o') : R o.2 o'.2 := by
  cases h with
  | ok _ hstate => exact hstate
  | error hstate => exact hstate

theorem andThen (h : Agree A R o o') {f : α → σ → Outcome ε γ σ} {g : β → τ → Outcome ε δ τ}
    (hnext : ∀ a b s t, A a b → R s t → Agree B R (f a s) (g b t)) :
    Agree B R (o.andThen f) (o'.andThen g) := by
  cases h with
  | ok hvalue hstate => exact hnext _ _ _ _ hvalue hstate
  | error hstate => exact .error hstate

theorem mapError (h : Agree A R o o') (g : ε → ε') :
    Agree A R (o.mapError g) (o'.mapError g) := by
  cases h with
  | ok hvalue hstate => exact .ok hvalue hstate
  | error hstate => exact .error hstate

/-- Lists are gone through side by side. -/
theorem each {f : α → σ → Outcome ε Unit σ} {g : α → τ → Outcome ε Unit τ}
    (hone : ∀ a s t, R s t → Agree (fun _ _ => True) R (f a s) (g a t)) (l : List α) {s : σ} {t : τ}
    (h : R s t) : Agree (fun _ _ => True) R (Outcome.each f l s) (Outcome.each g l t) := by
  induction l generalizing s t with
  | nil => exact .ok trivial h
  | cons a l ih =>
    rw [Outcome.each_cons, Outcome.each_cons]
    exact (hone a s t h).andThen fun _ _ _ _ _ hst => ih hst

end Outcome.Agree

/-- What one member keeps, a whole list keeps, however far it is gone through. -/
theorem Outcome.each_keeps {ε α : Type} {f : α → σ → Outcome ε Unit σ} {P : σ → Prop}
    (hone : ∀ a s, P s → P (f a s).2) (l : List α) {s : σ} (h : P s) :
    P (Outcome.each f l s).2 := by
  induction l generalizing s with
  | nil => exact h
  | cons a l ih =>
    have hfirst := hone a s h
    rw [Outcome.each_cons]
    generalize f a s = o at hfirst ⊢
    rcases o with ⟨_ | _, t⟩
    · exact hfirst
    · exact ih hfirst

/-! ## What differs by an offset -/

/-- Two applied tokens that did the same, except for the number of an address object. -/
inductive Applied.Shifted (k : UInt32) : Applied → Applied → Prop where
  | address (iface : String) (n : UInt32) :
      Shifted k (.address iface (.make iface n)) (.address iface (.make iface (n + k)))
  | lease (iface : String) : Shifted k (.lease iface) (.lease iface)
  | addrconf : Shifted k .addrconf .addrconf

/-- Two notes that tell the same, except for the number of an address object. -/
inductive SetupNote.Shifted (k : UInt32) : SetupNote → SetupNote → Prop where
  | warned (w : SetupWarning) : Shifted k (.warned w) (.warned w)
  | applied (base : String) (t : Token) {did did' : Applied} (h : did.Shifted k did') :
      Shifted k (.applied base t did) (.applied base t did')
  | routed (q : RouteRequest) : Shifted k (.routed q) (.routed q)

theorem SetupNote.Shifted.warning {k : UInt32} {n n' : SetupNote} (h : n.Shifted k n') :
    n.warning? = n'.warning? := by
  cases h with
  | warned => rfl
  | applied => rfl
  | routed => rfl

theorem Applied.Shifted.eq {did did' : Applied} (h : did.Shifted 0 did') : did = did' := by
  cases h with
  | address iface n => rw [UInt32.add_zero]
  | lease => rfl
  | addrconf => rfl

theorem SetupNote.Shifted.eq {n n' : SetupNote} (h : n.Shifted 0 n') : n = n' := by
  cases h with
  | warned => rfl
  | applied _ _ hdid => rw [hdid.eq]
  | routed => rfl

namespace Setup

open Outcome (Agree)

/-- Facilities that agree on every operation on behalf of one interface, from states that are
related. What is done with an address object counts as one operation. -/
structure Lockstep (u : Setup σ) (v : Setup τ) (base : String) (k : UInt32) (R : σ → τ → Prop) :
    Prop where
  ipv6 : u.ipv6 = v.ipv6
  plumb : ∀ family s t, R s t → Agree (fun _ _ => True) R (u.facilities.addresses.plumb base family s)
    (v.facilities.addresses.plumb base family t)
  linkLocal : ∀ s t, R s t → Agree (fun _ _ => True) R
    (u.facilities.addresses.bringUpLinkLocal base s) (v.facilities.addresses.bringUpLinkLocal base t)
  addLogical : ∀ family s t, R s t → Agree (· = ·) R
    (u.facilities.addresses.addLogical base family s)
    (v.facilities.addresses.addLogical base family t)
  hold : ∀ iface addr n s t, R s t → Agree (fun _ _ => True) R
    (u.assigner.hold iface addr (.make iface n) s)
    (v.assigner.hold iface addr (.make iface (n + k)) t)
  ensureRunning : ∀ s t, R s t → Agree (fun _ _ => True) R
    (u.facilities.leases.ensureRunning u.timeout s) (v.facilities.leases.ensureRunning v.timeout t)
  startLease : ∀ iface s t, R s t → Agree (· = ·) R
    (u.facilities.leases.startLease iface u.timeout s)
    (v.facilities.leases.startLease iface v.timeout t)
  processId : u.facilities.routes.processId = v.facilities.routes.processId
  interfaceIndex : u.facilities.routes.interfaceIndex = v.facilities.routes.interfaceIndex
  send : ∀ message s t, R s t → Agree (· = ·) R
    (u.facilities.routes.send message s) (v.facilities.routes.send message t)
  tell : ∀ n n' s t, n.Shifted k n' → R s t → R (u.tell n s) (v.tell n' t)

namespace Lockstep

variable {u : Setup σ} {v : Setup τ} {base : String} {k : UInt32} {R : σ → τ → Prop}

/-- Ledgers with related states, and with counters that differ by the offset. -/
structure Ledgers (k : UInt32) (R : σ → τ → Prop) (l : Ledger σ) (l' : Ledger τ) : Prop where
  world : R l.world l'.world
  issued : l'.names.issued = l.names.issued + k

/-- Progresses with related ledgers that have told the same warnings since given points. -/
structure Together (k : UInt32) (R : σ → τ → Prop) (before before' : List SetupWarning)
    (p : Progress σ) (q : Progress τ) : Prop where
  ledgers : Ledgers k R p.ledger q.ledger
  warnings : ∃ added, p.warnings = before ++ added ∧ q.warnings = before' ++ added

variable {before before' : List SetupWarning} {p : Progress σ} {q : Progress τ}

theorem Ledgers.setWorld {l : Ledger σ} {l' : Ledger τ} (h : Ledgers k R l l') {s : σ} {t : τ}
    (hst : R s t) : Ledgers k R { l with world := s } { l' with world := t } := ⟨hst, h.issued⟩

theorem Ledgers.next {l : Ledger σ} {l' : Ledger τ} (h : Ledgers k R l l') (iface : String) :
    Ledgers k R { l with names := (l.names.next iface).2 }
      { l' with names := (l'.names.next iface).2 } := by
  refine ⟨h.world, ?_⟩
  simp only [NameCounter.next, h.issued]
  ac_rfl

theorem Together.setWorld (h : Together k R before before' p q) {s : σ} {t : τ} (hst : R s t) :
    Together k R before before' (p.setWorld s) (q.setWorld t) :=
  ⟨h.ledgers.setWorld hst, h.warnings⟩

theorem Together.visit (h : Together k R before before' p q) (iface : String) :
    Together k R before before' (p.visit iface) (q.visit iface) := ⟨h.ledgers, h.warnings⟩

variable (L : Lockstep u v base k R)
include L

theorem note {n n' : SetupNote} (hn : n.Shifted k n') (h : Together k R before before' p q) :
    Together k R before before' (u.note n p) (v.note n' q) := by
  obtain ⟨added, hp, hq⟩ := h.warnings
  refine ⟨⟨L.tell n n' _ _ hn h.ledgers.world, h.ledgers.issued⟩,
    added ++ [n].filterMap SetupNote.warning?, ?_, ?_⟩
  · show (p.notes ++ [n]).filterMap _ = _
    rw [List.filterMap_append, ← List.append_assoc, ← hp]
    rfl
  · show (q.notes ++ [n']).filterMap _ = _
    rw [List.filterMap_append, ← List.append_assoc, ← hq, List.filterMap_cons, List.filterMap_cons,
      hn.warning]
    rfl

/-! ## Tokens -/

theorem target {c : Context} (hc : c.base = base) (family : Family) {s : σ} {t : τ} (h : R s t) :
    Agree (· = ·) R (ZoneNet.target u.facilities.addresses c family s)
      (ZoneNet.target v.facilities.addresses c family t) := by
  unfold ZoneNet.target
  split
  · exact .ok rfl h
  · rw [hc]
    exact (L.addLogical family s t h).mapError _

/-- What two tokens leave: one context on the base, and ledgers that are related. -/
def Left (base : String) (k : UInt32) (R : σ → τ → Prop) (x : Context × Ledger σ)
    (y : Context × Ledger τ) : Prop :=
  x.1 = y.1 ∧ x.1.base = base ∧ Ledgers k R x.2 y.2

theorem startLease_agree {c : Context} (hc : c.base = base) {l : Ledger σ} {l' : Ledger τ}
    (h : Ledgers k R l l') :
    Agree (Applied.Shifted k) (Left base k R) (u.assigner.startLease c l)
      (v.assigner.startLease c l') := by
  have left {s : σ} {t : τ} (hst : R s t) :
      Left base k R (c, { l with world := s }) (c, { l' with world := t }) :=
    ⟨rfl, hc, h.setWorld hst⟩
  have ht := L.target hc .v4 h.world
  unfold Assigner.startLease Assigner.refuse Setup.assigner
  dsimp only
  generalize ZoneNet.target u.facilities.addresses c .v4 l.world = o at ht
  generalize ZoneNet.target v.facilities.addresses c .v4 l'.world = o' at ht
  cases ht with
  | error hst => exact .error (left hst)
  | @ok iface _ s t hiface hst =>
    obtain rfl := hiface
    have hr := L.ensureRunning s t hst
    dsimp only
    generalize u.facilities.leases.ensureRunning u.timeout s = o at hr
    generalize v.facilities.leases.ensureRunning v.timeout t = o' at hr
    cases hr with
    | error hst => exact .error (left hst)
    | @ok _ _ s t _ hst =>
      have hl := L.startLease iface s t hst
      dsimp only
      generalize u.facilities.leases.startLease iface u.timeout s = o at hl
      generalize v.facilities.leases.startLease iface v.timeout t = o' at hl
      cases hl with
      | error hst => exact .error (left hst)
      | @ok reply _ s t hreply hst =>
        obtain rfl := hreply
        dsimp only
        split
        · exact .ok (.lease iface) ⟨rfl, hc, h.setWorld hst⟩
        · exact .error (left hst)

theorem applyLiteral_agree {c : Context} (hc : c.base = base) (addr : String) {l : Ledger σ}
    {l' : Ledger τ} (h : Ledgers k R l l') :
    Agree (Applied.Shifted k) (Left base k R) (u.assigner.applyLiteral c addr l)
      (v.assigner.applyLiteral c addr l') := by
  have ht := L.target hc (Family.ofLiteral addr) h.world
  rw [Assigner.applyLiteral_eq, Assigner.applyLiteral_eq]
  unfold Assigner.refuse
  rw [show u.assigner.addresses = u.facilities.addresses from rfl,
    show v.assigner.addresses = v.facilities.addresses from rfl]
  generalize ZoneNet.target u.facilities.addresses c (Family.ofLiteral addr) l.world = o at ht
  generalize ZoneNet.target v.facilities.addresses c (Family.ofLiteral addr) l'.world = o' at ht
  cases ht with
  | error hst => exact .error ⟨rfl, hc, h.setWorld hst⟩
  | @ok iface _ s t hiface hst =>
    obtain rfl := hiface
    have hh := L.hold iface addr l.names.issued s t hst
    dsimp only
    rw [h.issued]
    generalize u.assigner.hold iface addr (.make iface l.names.issued) s = o at hh
    generalize v.assigner.hold iface addr (.make iface (l.names.issued + k)) t = o' at hh
    cases hh with
    | error hst => exact .error ⟨rfl, hc, (h.next iface).setWorld hst⟩
    | ok _ hst =>
      refine .ok (.address iface _) ⟨rfl, ?_, (h.next iface).setWorld hst⟩
      dsimp only
      split <;> exact hc

theorem apply {c : Context} (hc : c.base = base) (t : Token) {l : Ledger σ} {l' : Ledger τ}
    (h : Ledgers k R l l') :
    Agree (Applied.Shifted k) (Left base k R) (u.assigner.apply c t l) (v.assigner.apply c t l') := by
  cases t with
  | dhcp => exact L.startLease_agree hc h
  | addrconf => exact .ok .addrconf ⟨rfl, hc, h.world, h.issued⟩
  | literal addr => exact L.applyLiteral_agree hc addr h

/-- A token goes the same way in both, and leaves one context. -/
theorem applyToken {c : Context} (hc : c.base = base) (t : Token)
    (h : Together k R before before' p q) :
    Agree (fun c c' => c = c' ∧ c.base = base) (Together k R before before') (u.applyToken c t p)
      (v.applyToken c t q) := by
  have ha := L.apply hc t h.ledgers
  unfold Setup.applyToken
  rcases hu : u.assigner.apply c t p.ledger with ⟨x, c₁, l₁⟩
  rcases hv : v.assigner.apply c t q.ledger with ⟨y, c₂, l₂⟩
  rw [hu, hv] at ha
  cases ha with
  | ok hdid hleft =>
    obtain ⟨rfl, hbase, hl⟩ := hleft
    exact .ok ⟨rfl, hbase⟩ (L.note (.applied c₁.base t hdid) ⟨hl, h.warnings⟩)
  | @error e _ _ hleft =>
    obtain ⟨rfl, hbase, hl⟩ := hleft
    dsimp only
    cases e.severity with
    | fatal => exact .error ⟨hl, h.warnings⟩
    | warning => exact .ok ⟨rfl, hbase⟩ (L.note (.warned _) ⟨hl, h.warnings⟩)

theorem applyTokens (ts : List Token) {c : Context} (hc : c.base = base)
    (h : Together k R before before' p q) :
    Agree (fun _ _ => True) (Together k R before before') (u.applyTokens ts c p)
      (v.applyTokens ts c q) := by
  induction ts generalizing c p q with
  | nil => exact .ok trivial h
  | cons t ts ih =>
    unfold Setup.applyTokens
    refine (L.applyToken hc t h).andThen ?_
    rintro c' _ p' q' ⟨rfl, hbase⟩ h'
    exact ih hbase h'

/-! ## One interface -/

theorem plumbs (h : Together k R before before' p q) :
    Agree (fun _ _ => True) (Together k R before before') (u.plumb base p) (v.plumb base q) := by
  unfold Setup.plumb families
  rw [L.ipv6]
  refine .each ?_ _ h
  intro family p q h
  have hp := L.plumb family _ _ h.ledgers.world
  unfold plumbFamily
  generalize u.facilities.addresses.plumb base family p.ledger.world = o at hp
  generalize v.facilities.addresses.plumb base family q.ledger.world = o' at hp
  cases hp with
  | ok _ hst => exact .ok trivial (h.setWorld hst)
  | error hst => exact .error (h.setWorld hst)

theorem linkLocals (h : Together k R before before' p q) :
    Together k R before before' (u.linkLocal base p) (v.linkLocal base q) := by
  have hl := L.linkLocal _ _ h.ledgers.world
  unfold Setup.linkLocal
  generalize u.facilities.addresses.bringUpLinkLocal base p.ledger.world = o at hl
  generalize v.facilities.addresses.bringUpLinkLocal base q.ledger.world = o' at hl
  cases hl with
  | ok _ hst => exact h.setWorld hst
  | error hst => exact L.note (.warned _) (h.setWorld hst)

theorem installRoute (q : RouteRequest) {s : σ} {t : τ} (h : R s t) :
    Agree (fun _ _ => True) R (ZoneNet.installRoute u.facilities.routes q s)
      (ZoneNet.installRoute v.facilities.routes q t) := by
  have hmessage : messageFor u.facilities.routes q = messageFor v.facilities.routes q := by
    unfold messageFor messageIndex
    rw [L.processId, L.interfaceIndex]
  unfold ZoneNet.installRoute
  rw [hmessage]
  rcases messageFor v.facilities.routes q with e | m
  · exact .error h
  · have hs := L.send m.encode s t h
    dsimp only
    generalize u.facilities.routes.send m.encode s = o at hs
    generalize v.facilities.routes.send m.encode t = o' at hs
    cases hs with
    | error hst => exact .error hst
    | ok hwritten hst =>
      obtain rfl := hwritten
      dsimp only
      split
      · exact .error hst
      · exact .ok trivial hst

theorem defaultRoute (iface gateway : String) (h : Together k R before before' p q) :
    Agree (fun _ _ => True) (Together k R before before') (u.defaultRoute iface gateway p)
      (v.defaultRoute iface gateway q) := by
  unfold Setup.defaultRoute
  rcases IPv4.parse? gateway with _ | ip
  · exact .error h
  · have hr := L.installRoute (.defaultVia ip iface) h.ledgers.world
    dsimp only
    generalize ZoneNet.installRoute u.facilities.routes _ p.ledger.world = o at hr
    generalize ZoneNet.installRoute v.facilities.routes _ q.ledger.world = o' at hr
    cases hr with
    | ok _ hst => exact .ok trivial (L.note (.routed _) (h.setWorld hst))
    | error hst => exact .error (h.setWorld hst)

theorem assign {net : Net} (hbase : net.physical = base) (list : String)
    (h : Together k R before before' p q) :
    Agree (fun _ _ => True) (Together k R before before') (u.assign net list p)
      (v.assign net list q) := by
  unfold Setup.assign
  refine (L.applyTokens _ (c := { base := net.physical }) hbase h).andThen ?_
  intro _ _ p' q' _ h'
  rcases net.gateway with _ | gateway
  · exact .ok trivial h'
  · exact L.defaultRoute _ _ h'

/-- Setting up one interface goes the same way in both. -/
theorem configure {net : Net} (hbase : net.physical = base)
    (h : Together k R before before' p q) :
    Agree (fun _ _ => True) (Together k R before before') (u.configure net p)
      (v.configure net q) := by
  unfold Setup.configure
  rw [hbase, L.ipv6]
  refine (L.plumbs (h.visit base)).andThen ?_
  intro _ _ p' q' _ h'
  have habsence : Together k R before before' (u.noteAbsence net p') (v.noteAbsence net q') := by
    unfold noteAbsence
    split
    · exact L.note (.warned _) h'
    · exact h'
  dsimp only
  generalize u.noteAbsence net p' = p' at habsence
  generalize v.noteAbsence net q' = q' at habsence
  rcases interfaceIpv6 v.ipv6 base (net.attr "ipv6") with e | enabled
  · exact .error habsence
  · have hlink : Together k R before before' (if enabled then u.linkLocal base p' else p')
        (if enabled then v.linkLocal base q' else q') := by
      split
      · exact L.linkLocals habsence
      · exact habsence
    dsimp only
    rcases net.addressList with _ | list
    · exact .ok trivial hlink
    · exact L.assign hbase list hlink

/-- So does setting up the loopback interface. -/
theorem loopback (hbase : loopbackName = base) (h : Together k R before before' p q) :
    Agree (fun _ _ => True) (Together k R before before') (u.loopback p) (v.loopback q) := by
  unfold Setup.loopback
  rw [hbase, L.ipv6]
  refine (L.plumbs h).andThen ?_
  intro _ _ p' q' _ h'
  refine (L.applyToken (c := { base }) rfl (.literal loopbackAddress) h').andThen ?_
  intro _ _ p' q' _ h'
  refine .ok trivial (Together.visit ?_ base)
  split
  · exact L.linkLocals h'
  · exact h'

end Lockstep

/-! ## What one setup keeps -/

/-- A property of states that every operation on behalf of one interface keeps. -/
structure Keeps (u : Setup σ) (base : String) (I : σ → Prop) : Prop where
  plumb : ∀ family s, I s → I (u.facilities.addresses.plumb base family s).2
  linkLocal : ∀ s, I s → I (u.facilities.addresses.bringUpLinkLocal base s).2
  addLogical : ∀ family s, I s → I (u.facilities.addresses.addLogical base family s).2
  hold : ∀ iface addr name s, I s → I (u.assigner.hold iface addr name s).2
  ensureRunning : ∀ s, I s → I (u.facilities.leases.ensureRunning u.timeout s).2
  startLease : ∀ iface s, I s → I (u.facilities.leases.startLease iface u.timeout s).2
  send : ∀ message s, I s → I (u.facilities.routes.send message s).2
  tell : ∀ n s, I s → I (u.tell n s)

namespace Keeps

variable {u : Setup σ} {base : String} {I : σ → Prop}

theorem agree {ε α : Type} {A : α → α → Prop} (hA : ∀ a, A a a) {o : Outcome ε α σ} (h : I o.2) :
    Agree A (fun s t => s = t ∧ I s) o o := by
  rcases o with ⟨_ | a, s⟩
  · exact .error ⟨rfl, h⟩
  · exact .ok (hA a) ⟨rfl, h⟩

theorem together {p : Progress σ} (hp : I p.ledger.world) :
    Lockstep.Together 0 (fun s t => s = t ∧ I s) p.warnings p.warnings p p :=
  ⟨⟨⟨rfl, hp⟩, (UInt32.add_zero _).symm⟩, [], (List.append_nil _).symm, (List.append_nil _).symm⟩

variable (h : u.Keeps base I)
include h

theorem lockstep : Lockstep u u base 0 (fun s t => s = t ∧ I s) where
  ipv6 := rfl
  plumb := fun family _ _ ⟨hst, hs⟩ => hst ▸ agree (fun _ => trivial) (h.plumb family _ hs)
  linkLocal := fun _ _ ⟨hst, hs⟩ => hst ▸ agree (fun _ => trivial) (h.linkLocal _ hs)
  addLogical := fun family _ _ ⟨hst, hs⟩ => hst ▸ agree (fun _ => rfl) (h.addLogical family _ hs)
  hold := fun iface addr n _ _ ⟨hst, hs⟩ => by
    rw [UInt32.add_zero]
    exact hst ▸ agree (fun _ => trivial) (h.hold iface addr _ _ hs)
  ensureRunning := fun _ _ ⟨hst, hs⟩ => hst ▸ agree (fun _ => trivial) (h.ensureRunning _ hs)
  startLease := fun iface _ _ ⟨hst, hs⟩ => hst ▸ agree (fun _ => rfl) (h.startLease iface _ hs)
  processId := rfl
  interfaceIndex := rfl
  send := fun message _ _ ⟨hst, hs⟩ => hst ▸ agree (fun _ => rfl) (h.send message _ hs)
  tell := fun n n' _ _ hn ⟨hst, hs⟩ => by
    rw [hn.eq, hst]
    exact ⟨rfl, h.tell n' _ (hst ▸ hs)⟩

theorem configure {net : Net} (hbase : net.physical = base) {p : Progress σ}
    (hp : I p.ledger.world) : I (u.configure net p).2.ledger.world :=
  (h.lockstep.configure hbase (together hp)).state.ledgers.world.2

theorem loopback (hbase : loopbackName = base) {p : Progress σ} (hp : I p.ledger.world) :
    I (u.loopback p).2.ledger.world :=
  (h.lockstep.loopback hbase (together hp)).state.ledgers.world.2

omit h in
/-- What every operation keeps whatever interface it is for, a run keeps up to autoconfiguration;
it may end before that. -/
theorem run (h : ∀ base, u.Keeps base I) (nets : List Net) {s : σ} (hs : I s) :
    ∃ p : Progress σ, I p.ledger.world ∧
      (u.run nets s = u.finish p ∨ ∃ e, u.run nets s = (.error e, p)) := by
  have hloopback := (h loopbackName).loopback rfl (p := .start s) hs
  unfold Setup.run
  generalize u.loopback (.start s) = o at hloopback ⊢
  rcases o with ⟨e | _, p⟩
  · exact ⟨p, hloopback, .inr ⟨e, rfl⟩⟩
  · have hnets := Outcome.each_keeps (f := u.configure) (P := fun p => I p.ledger.world)
      (fun net q hq => (h net.physical).configure rfl hq) nets hloopback
    rw [Outcome.andThen_ok]
    generalize Outcome.each u.configure nets p = o at hnets ⊢
    rcases o with ⟨e | _, p⟩
    · exact ⟨p, hnets, .inr ⟨e, rfl⟩⟩
    · exact ⟨p, hnets, .inl rfl⟩

end Keeps

end Setup

end ZoneNet
