import ZoneNet.Address.Assignment

/-!
# What one step of assignment does

The ways in which applying a token can go, one constructor each, for facilities of every kind.
What a step preserves is then told way by way.

* `exists_does` — every token goes one of these ways, and the base interface becomes occupied just
  when an IPv4 token was applied.
* `Does.names` — a name is spent on every literal for which there was an interface, and on nothing
  else.
* `Does.addrconf` — autoconfiguration is asked for by `addrconf` alone, and never taken back.
-/

namespace ZoneNet

/-- The family of the address that a token asks for; a lease is an IPv4 address. -/
def Token.family? : Token → Option Family
  | dhcp => some .v4
  | addrconf => none
  | literal addr => some (Family.ofLiteral addr)

/-- The interface that an applied token put an address on. -/
def Applied.interface? : Applied → Option String
  | address iface _ => some iface
  | lease iface => some iface
  | addrconf => none

/-- Whether a token with this result put an IPv4 address on its interface. -/
def Token.lands (t : Token) : Except AssignError Applied → Bool
  | .ok _ => t.family? = some .v4
  | .error _ => false

theorem Token.lands_iff {t : Token} {result : Except AssignError Applied} :
    t.lands result = true ↔ t.family? = some .v4 ∧ ∃ did, result = .ok did := by
  cases result with
  | ok did => simp [Token.lands]
  | error e => simp [Token.lands]

/-- Whether a token with this result spent a name: every literal does but one without an
interface. -/
def Token.spends : Token → Except AssignError Applied → Bool
  | literal _, .error (.alloc _) => false
  | literal _, _ => true
  | _, _ => false

/-- A context after a token. -/
def Context.after (c : Context) (t : Token) (result : Except AssignError Applied) : Context :=
  if t.lands result then c.occupy else c

@[simp] theorem Context.after_base (c : Context) (t : Token) (result : Except AssignError Applied) :
    (c.after t result).base = c.base := by
  unfold Context.after
  split <;> rfl

theorem Context.after_occupied (c : Context) (t : Token) (result : Except AssignError Applied) :
    (c.after t result).occupied = (c.occupied || t.lands result) := by
  unfold Context.after
  by_cases h : t.lands result = true
  · rw [if_pos h, h, Bool.or_true]
    rfl
  · rw [if_neg h, Bool.eq_false_iff.2 h, Bool.or_false]

namespace Assigner

variable {σ : Type}

/-- The ways in which a token can go, with the result and what is left in the ledger. -/
inductive Does (a : Assigner σ) (c : Context) (l : Ledger σ) :
    Token → Except AssignError Applied → Ledger σ → Prop where
  | noted : Does a c l .addrconf (.ok .addrconf) { l with addrconf := true }
  /-- There was no interface for the token. -/
  | unplaced {t : Token} {family : Family} {e : AllocError} {s : σ}
      (hfamily : t.family? = some family)
      (htarget : target a.addresses c family l.world = (.error e, s)) :
      Does a c l t (.error (.alloc e)) { l with world := s }
  | agentless {iface : String} {e : FacilityError} {s₁ s₂ : σ}
      (htarget : target a.addresses c .v4 l.world = (.ok iface, s₁))
      (hagent : a.leases.ensureRunning a.timeout s₁ = (.error e, s₂)) :
      Does a c l .dhcp (.error (.agent e)) { l with world := s₂ }
  /-- The request for a lease got no answer. -/
  | unanswered {iface : String} {e : FacilityError} {s₁ s₂ s₃ : σ}
      (htarget : target a.addresses c .v4 l.world = (.ok iface, s₁))
      (hagent : a.leases.ensureRunning a.timeout s₁ = (.ok (), s₂))
      (hlease : a.leases.startLease iface a.timeout s₂ = (.error e, s₃)) :
      Does a c l .dhcp (.error (.lease iface e)) { l with world := s₃ }
  /-- The request for a lease was answered with a failure. -/
  | refused {iface : String} {reply : LeaseReply} {s₁ s₂ s₃ : σ}
      (htarget : target a.addresses c .v4 l.world = (.ok iface, s₁))
      (hagent : a.leases.ensureRunning a.timeout s₁ = (.ok (), s₂))
      (hlease : a.leases.startLease iface a.timeout s₂ = (.ok reply, s₃)) (hcode : reply.code ≠ 0) :
      Does a c l .dhcp (.error (.lease iface (.rejected "DHCP start"
        ("return code " ++ toString reply.code ++ ": " ++ reply.message)))) { l with world := s₃ }
  | leased {iface : String} {reply : LeaseReply} {s₁ s₂ s₃ : σ}
      (htarget : target a.addresses c .v4 l.world = (.ok iface, s₁))
      (hagent : a.leases.ensureRunning a.timeout s₁ = (.ok (), s₂))
      (hlease : a.leases.startLease iface a.timeout s₂ = (.ok reply, s₃)) (hcode : reply.code = 0) :
      Does a c l .dhcp (.ok (.lease iface)) { l with world := s₃ }
  /-- There was no object for the address. -/
  | uncreated {addr iface : String} {e : FacilityError} {s₁ s₂ : σ}
      (htarget : target a.addresses c (Family.ofLiteral addr) l.world = (.ok iface, s₁))
      (hcreate : a.addresses.createObject (.make iface l.names.issued) s₁ = (.error e, s₂)) :
      Does a c l (.literal addr) (.error (.apply iface addr .createObject e))
        { l with world := s₂, names := (l.names.next iface).2 }
  /-- There was an object; it was filled or not, and let go of. -/
  | filled {addr iface : String} {obj : AddressObject} {r : Except AssignError Unit} {s₁ s₂ s₃ : σ}
      (htarget : target a.addresses c (Family.ofLiteral addr) l.world = (.ok iface, s₁))
      (hcreate : a.addresses.createObject (.make iface l.names.issued) s₁ = (.ok obj, s₂))
      (hfill : a.fillObject iface addr obj s₂ = (r, s₃)) :
      Does a c l (.literal addr) (r.map fun _ => .address iface (.make iface l.names.issued))
        { l with world := s₃, names := (l.names.next iface).2 }

/-- The ways in which an object can be filled. -/
inductive Fills (a : Assigner σ) (iface addr : String) (obj : AddressObject) (s : σ) :
    Except AssignError Unit → σ → Prop where
  | unset {e : FacilityError} {s₁ : σ} (hset : a.addresses.setAddress obj addr s = (.error e, s₁)) :
      Fills a iface addr obj s (.error (.apply iface addr .setValue e)) (a.addresses.release obj s₁)
  | inactive {obj' : AddressObject} {e : FacilityError} {s₁ s₂ : σ}
      (hset : a.addresses.setAddress obj addr s = (.ok obj', s₁))
      (hactivate : a.addresses.activate obj' s₁ = (.error e, s₂)) :
      Fills a iface addr obj s (.error (.apply iface addr .activate e))
        (a.addresses.release obj' s₂)
  | activated {obj' : AddressObject} {s₁ s₂ : σ}
      (hset : a.addresses.setAddress obj addr s = (.ok obj', s₁))
      (hactivate : a.addresses.activate obj' s₁ = (.ok (), s₂)) :
      Fills a iface addr obj s (.ok ()) (a.addresses.release obj' s₂)

variable (a : Assigner σ)

/-- All that is done with the object of a static address, from its creation to its release. -/
def hold (iface addr : String) (name : ObjectName) (s : σ) : Outcome AssignError Unit σ :=
  match a.addresses.createObject name s with
  | (.error e, s) => (.error (.apply iface addr .createObject e), s)
  | (.ok obj, s) => a.fillObject iface addr obj s

/-- A literal is placed, and then its object is held. -/
theorem applyLiteral_eq (c : Context) (addr : String) (l : Ledger σ) :
    a.applyLiteral c addr l =
      match target a.addresses c (Family.ofLiteral addr) l.world with
      | (.error e, s) => refuse c l s (.alloc e)
      | (.ok iface, s) =>
        match a.hold iface addr (.make iface l.names.issued) s with
        | (.error e, s) => refuse c { l with names := (l.names.next iface).2 } s e
        | (.ok (), s) =>
          (.ok (.address iface (.make iface l.names.issued)),
            if Family.ofLiteral addr = .v4 then c.occupy else c,
            { l with world := s, names := (l.names.next iface).2 }) := by
  unfold applyLiteral hold
  dsimp only [NameCounter.next]
  rcases target a.addresses c (Family.ofLiteral addr) l.world with ⟨_ | iface, s⟩
  · rfl
  · dsimp only
    rcases a.addresses.createObject (.make iface l.names.issued) s with ⟨_ | obj, s⟩
    · rfl
    · rfl

theorem fillObject_fills (iface addr : String) (obj : AddressObject) (s : σ) :
    a.Fills iface addr obj s (a.fillObject iface addr obj s).1 (a.fillObject iface addr obj s).2 := by
  unfold fillObject
  rcases hs : a.addresses.setAddress obj addr s with ⟨_ | obj', s₁⟩
  · exact .unset hs
  · dsimp only
    rcases hv : a.addresses.activate obj' s₁ with ⟨_ | _, s₂⟩
    · exact .inactive hs hv
    · exact .activated hs hv

theorem startLease_does (c : Context) (l : Ledger σ) :
    ∃ result l', a.Does c l .dhcp result l' ∧
      a.startLease c l = (result, c.after .dhcp result, l') := by
  unfold startLease
  rcases ht : target a.addresses c .v4 l.world with ⟨_ | iface, s₁⟩
  · exact ⟨_, _, .unplaced rfl ht, rfl⟩
  · dsimp only
    rcases hr : a.leases.ensureRunning a.timeout s₁ with ⟨_ | _, s₂⟩
    · exact ⟨_, _, .agentless ht hr, rfl⟩
    · dsimp only
      rcases hl : a.leases.startLease iface a.timeout s₂ with ⟨_ | reply, s₃⟩
      · exact ⟨_, _, .unanswered ht hr hl, rfl⟩
      · dsimp only
        by_cases h : reply.code = 0
        · rw [if_pos h]
          exact ⟨_, _, .leased ht hr hl h, rfl⟩
        · rw [if_neg h]
          exact ⟨_, _, .refused ht hr hl h, rfl⟩

theorem applyLiteral_does (c : Context) (addr : String) (l : Ledger σ) :
    ∃ result l', a.Does c l (.literal addr) result l' ∧
      a.applyLiteral c addr l = (result, c.after (.literal addr) result, l') := by
  unfold applyLiteral
  dsimp only [NameCounter.next]
  rcases ht : target a.addresses c (Family.ofLiteral addr) l.world with ⟨_ | iface, s₁⟩
  · exact ⟨_, _, .unplaced rfl ht, rfl⟩
  · dsimp only
    rcases hc : a.addresses.createObject (.make iface l.names.issued) s₁ with ⟨_ | obj, s₂⟩
    · exact ⟨_, _, .uncreated ht hc, rfl⟩
    · dsimp only
      rcases hf : a.fillObject iface addr obj s₂ with ⟨_ | _, s₃⟩
      · exact ⟨_, _, .filled ht hc hf, rfl⟩
      · refine ⟨_, _, .filled ht hc hf, ?_⟩
        -- an IPv6 address leaves the base interface free
        by_cases h : Family.ofLiteral addr = .v4 <;>
          simp [Context.after, Token.lands, Token.family?, NameCounter.next, Except.map, h]

/-- Every token goes one of the ways there are; the base interface is occupied afterwards if it
was, or if the token put an IPv4 address on it. -/
theorem exists_does (c : Context) (t : Token) (l : Ledger σ) :
    ∃ result l', a.Does c l t result l' ∧ a.apply c t l = (result, c.after t result, l') := by
  cases t with
  | dhcp => exact a.startLease_does c l
  | addrconf => exact ⟨_, _, .noted, rfl⟩
  | literal addr => exact a.applyLiteral_does c addr l

/-! ## What every way preserves -/

variable {a}

/-- Filling an object fails over the value or over the activation, and over nothing else. -/
theorem Fills.error {iface addr : String} {obj : AddressObject} {s s' : σ} {e : AssignError}
    (h : a.Fills iface addr obj s (.error e) s') :
    ∃ stage cause, e = .apply iface addr stage cause := by
  cases h with
  | unset => exact ⟨_, _, rfl⟩
  | inactive => exact ⟨_, _, rfl⟩

theorem Does.names {c : Context} {l l' : Ledger σ} {t : Token} {result : Except AssignError Applied}
    (h : a.Does c l t result l') :
    l'.names.issued = l.names.issued + if t.spends result then 1 else 0 := by
  cases h with
  | @filled addr iface obj r _ s₂ s₃ _ _ hfill =>
    -- filling fails over a stage, never for want of an interface
    have hspent : (Token.literal addr).spends
        (r.map fun _ => Applied.address iface (.make iface l.names.issued)) = true := by
      cases r with
      | ok => rfl
      | error e =>
        have hfills := a.fillObject_fills iface addr obj s₂
        rw [hfill] at hfills
        obtain ⟨stage, cause, rfl⟩ := hfills.error
        rfl
    rw [if_pos hspent]
    rfl
  | uncreated => rfl
  | @unplaced t => cases t <;> simp [Token.spends]
  | _ => simp [Token.spends]

theorem Does.addrconf {c : Context} {l l' : Ledger σ} {t : Token}
    {result : Except AssignError Applied} (h : a.Does c l t result l') :
    l'.addrconf = (l.addrconf || decide (t = .addrconf)) := by
  cases h with
  | noted => simp
  | @unplaced t _ _ _ hfamily =>
    cases t with
    | addrconf => exact absurd hfamily (by simp [Token.family?])
    | _ => simp
  | _ => simp

end Assigner

end ZoneNet
