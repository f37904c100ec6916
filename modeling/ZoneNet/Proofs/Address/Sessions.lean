import ZoneNet.Proofs.Facility.LogicalNames

/-!
# Sessions of one dispatcher

Passes over interfaces that share one dispatcher, in any interleaving. Passes are told apart by a
key, and two of them may be over one base interface: a pass that is started anew is one more pass.

* `Sound.step` — what one step preserves.
* `sound_run` — what every sequence of steps preserves.
* `placement` — in every sequence of steps the first IPv4 address of a pass is on the base
  interface, and every other address is on a logical interface that is fresh.
-/

namespace ZoneNet

/-- The contexts of the passes and the ledger that they share. -/
structure Session (κ σ : Type) where
  contexts : κ → Context
  ledger : Ledger σ

namespace Session

/-- One step of a session: a token applied in a pass, and what came of it. -/
structure Event (κ : Type) where
  pass : κ
  token : Token
  result : Except AssignError Applied

variable {κ σ : Type}

/-- No pass has done anything yet. -/
def start (base : κ → String) (s : σ) : Session κ σ :=
  ⟨fun k => { base := base k }, { world := s }⟩

/-- What holds of a session after the events of its history. -/
structure Sound (base : κ → String) (events : List (Event κ)) (s : Session κ Journal) : Prop where
  bases : ∀ k, (s.contexts k).base = base k
  flags : ∀ k, (s.contexts k).occupied = true ↔
    ∃ e ∈ events, e.pass = k ∧ e.token.lands e.result = true
  numbered : Recorder.Numbered s.ledger.world

theorem sound_start (base : κ → String) : Sound base [] (start base []) where
  bases := fun _ => rfl
  flags := fun _ => by simp [start]
  numbered := Recorder.numbered_nil

/-! ## One step over a recorder -/

variable [DecidableEq κ]

/-- Applies a token in a pass. -/
def step (a : Assigner σ) (s : Session κ σ) (k : κ) (t : Token) : Event κ × Session κ σ :=
  let (result, c, l) := a.apply (s.contexts k) t s.ledger
  (⟨k, t, result⟩, ⟨fun k' => if k' = k then c else s.contexts k', l⟩)

/-- Applies tokens in order, each in its pass, and tells what came of them. -/
def run (a : Assigner σ) (s : Session κ σ) : List (κ × Token) → List (Event κ) × Session κ σ
  | [] => ([], s)
  | (k, t) :: steps =>
    let (e, s) := s.step a k t
    let (es, s) := s.run a steps
    (e :: es, s)

variable {r : Recorder} {timeout : UInt64} {base : κ → String}

/-- A step goes one of the ways that a token can go; every other pass is left alone. -/
theorem exists_step (r : Recorder) (timeout : UInt64) (s : Session κ Journal) (k : κ) (t : Token) :
    ∃ result calls, r.Writes timeout (s.contexts k) s.ledger t result calls ∧
      s.step (r.assigner timeout) k t = (⟨k, t, result⟩,
        ⟨fun k' => if k' = k then (s.contexts k).after t result else s.contexts k',
          s.ledger.after t result calls⟩) := by
  obtain ⟨result, calls, hwrites, happly⟩ :=
    r.exists_writes timeout (s.contexts k) t s.ledger
  refine ⟨result, calls, hwrites, ?_⟩
  unfold step
  rw [happly]

/-- A context after a step is occupied if it was, or if the step put an IPv4 address on it. -/
theorem occupied_step (s : Session κ Journal) (k k' : κ) (t : Token) :
    ((s.step (r.assigner timeout) k t).2.contexts k').occupied = true ↔
      (s.contexts k').occupied = true ∨
        k = k' ∧ t.lands (s.step (r.assigner timeout) k t).1.result = true := by
  obtain ⟨result, calls, -, hstep⟩ := exists_step r timeout s k t
  rw [hstep]
  by_cases hk : k' = k
  · subst hk
    simp [Context.after_occupied]
  · simp [hk, Ne.symm hk]

theorem Sound.step {events : List (Event κ)} {s : Session κ Journal} (h : Sound base events s)
    (k : κ) (t : Token) :
    Sound base (events ++ [(s.step (r.assigner timeout) k t).1])
      (s.step (r.assigner timeout) k t).2 where
  bases := by
    intro k'
    obtain ⟨result, calls, -, hstep⟩ := exists_step r timeout s k t
    rw [hstep]
    by_cases hk : k' = k
    · subst hk
      simp [h.bases]
    · simp [hk, h.bases]
  flags := by
    intro k'
    rw [occupied_step, h.flags]
    constructor
    · rintro (⟨e, he, hpass⟩ | ⟨rfl, hlands⟩)
      · exact ⟨e, List.mem_append_left _ he, hpass⟩
      · refine ⟨_, List.mem_append_right _ (List.mem_singleton.2 rfl), ?_⟩
        obtain ⟨result, calls, -, hstep⟩ := exists_step r timeout s k t
        rw [hstep] at hlands ⊢
        exact ⟨rfl, hlands⟩
    · rintro ⟨e, he, hpass⟩
      rcases List.mem_append.1 he with he | he
      · exact Or.inl ⟨e, he, hpass⟩
      · rw [List.mem_singleton.1 he] at hpass
        obtain ⟨result, calls, -, hstep⟩ := exists_step r timeout s k t
        rw [hstep] at hpass ⊢
        exact Or.inr hpass
  numbered := by
    obtain ⟨result, calls, hwrites, hstep⟩ := exists_step r timeout s k t
    rw [hstep]
    exact h.numbered.append_calls hwrites

/-- Every sequence of steps preserves soundness. -/
theorem Sound.run {events : List (Event κ)} {s : Session κ Journal} (h : Sound base events s)
    (steps : List (κ × Token)) :
    Sound base (events ++ (s.run (r.assigner timeout) steps).1)
      (s.run (r.assigner timeout) steps).2 := by
  -- the history grows at its end, the steps are taken from their beginning
  induction steps generalizing events s with
  | nil => simpa [Session.run] using h
  | cons x steps ih =>
    obtain ⟨k, t⟩ := x
    have hstep : Sound base (events ++ [(s.step (r.assigner timeout) k t).1])
        (s.step (r.assigner timeout) k t).2 := h.step k t
    have hrest := ih hstep
    rw [List.append_assoc] at hrest
    exact hrest

/-- What holds of a session after any sequence of steps. -/
theorem sound_run (base : κ → String) (steps : List (κ × Token)) :
    Sound base ((start base []).run (r.assigner timeout) steps).1
      ((start base []).run (r.assigner timeout) steps).2 :=
  (sound_start base).run steps

/-- Placement, after any sequence of steps and for any next one. A pass counts as occupied just
when an IPv4 token of it was applied, and stays so. The first IPv4 address of a pass goes to the
base interface and nothing is handed out; any other address goes to a logical interface handed out
for it, which is not the base and was never handed out for the family before, as long as the
32-bit count of its base has not come round. -/
theorem placement (r : Recorder) (timeout : UInt64) (base : κ → String)
    (steps : List (κ × Token)) (k : κ) (t : Token) :
    let before := (start base []).run (r.assigner timeout) steps
    let next := before.2.step (r.assigner timeout) k t
    (∀ k', (next.2.contexts k').occupied = true ↔
        ∃ e ∈ before.1 ++ [next.1], e.pass = k' ∧ e.token.family? = some .v4 ∧
          ∃ did, e.result = .ok did) ∧
      (∀ k', (before.2.contexts k').occupied = true → (next.2.contexts k').occupied = true) ∧
      ∃ calls, next.2.ledger.world = before.2.ledger.world ++ calls ∧
        ∀ did iface, next.1.result = .ok did → did.interface? = some iface →
          ∃ family, t.family? = some family ∧
            if family = .v4 ∧ (before.2.contexts k).occupied = false then
              iface = base k ∧ Recorder.HandsOutNone calls
            else
              Call.addLogical (base k) family iface ∈ calls ∧ iface ≠ base k ∧
                (Recorder.logicalCount (base k) family before.2.ledger.world < UInt32.size →
                  ∀ base', Call.addLogical base' family iface ∉ before.2.ledger.world) := by
  intro before next
  have hsound : Sound base before.1 before.2 := sound_run base steps
  have hnext : Sound base (before.1 ++ [next.1]) next.2 := hsound.step k t
  refine ⟨fun k' => ?_, fun k' h => (occupied_step before.2 k k' t).2 (Or.inl h), ?_⟩
  · rw [hnext.flags]
    simp only [Token.lands_iff]
  · obtain ⟨result, calls, hwrites, hstep⟩ := exists_step r timeout before.2 k t
    refine ⟨calls, by rw [show next = _ from hstep]; rfl, ?_⟩
    intro did iface hresult hiface
    rw [show next = _ from hstep] at hresult
    have hbase : (before.2.contexts k).base = base k := hsound.bases k
    -- a token that was applied to an interface was placed on it
    rcases hwrites.placing with ⟨family, _, _, rest, hfamily, hp, rfl, hrest, hdid⟩ | ⟨_, hdid⟩
    · have hsame := hdid did hresult
      rw [hiface, Option.some.injEq] at hsame
      subst hsame
      refine ⟨family, hfamily, ?_⟩
      cases hp with
      | base hv4 hfree =>
        rw [if_pos ⟨hv4, hfree⟩]
        exact ⟨hbase, hrest⟩
      | logical hn =>
        rw [if_neg hn, ← hbase]
        exact ⟨List.mem_append_left _ (List.mem_singleton.2 rfl),
          Recorder.logicalName_ne _ _, hsound.numbered.nextLogical_not_mem⟩
    · rw [hdid did hresult] at hiface
      cases hiface

/-- Two passes over one base each have an address on it, and the first has a lease on the IPv4
interface `net0:1`. An IPv6 address of the second pass then goes to an IPv6 interface of that name,
which is fresh. -/
theorem placement_same_base :
    let before := (start (fun _ : Fin 2 => "net0") []).run (({} : Recorder).assigner 5)
      [(0, .literal "10.0.0.2/24"), (1, .literal "10.0.0.3/24"), (0, .dhcp)]
    let next := before.2.step (({} : Recorder).assigner 5) 1 (.literal "fd00::3/64")
    next.1.result = .ok (.address "net0:1" ⟨"net0:1/addr2"⟩) ∧
      Recorder.logicalCount "net0" .v6 before.2.ledger.world = 0 ∧
      ∀ base, Call.addLogical base .v6 "net0:1" ∉ before.2.ledger.world := by
  have hresult : (((start (fun _ : Fin 2 => "net0") []).run (({} : Recorder).assigner 5)
      [(0, .literal "10.0.0.2/24"), (1, .literal "10.0.0.3/24"), (0, .dhcp)]).2.step
        (({} : Recorder).assigner 5) 1 (.literal "fd00::3/64")).1.result
      = .ok (.address "net0:1" ⟨"net0:1/addr2"⟩) := by rfl
  have hcount : Recorder.logicalCount "net0" .v6
      ((start (fun _ : Fin 2 => "net0") []).run (({} : Recorder).assigner 5)
        [(0, .literal "10.0.0.2/24"), (1, .literal "10.0.0.3/24"), (0, .dhcp)]).2.ledger.world
      = 0 := by rfl
  obtain ⟨-, -, calls, -, hplaced⟩ := placement {} 5 (fun _ : Fin 2 => "net0")
    [(0, .literal "10.0.0.2/24"), (1, .literal "10.0.0.3/24"), (0, .dhcp)] 1 (.literal "fd00::3/64")
  obtain ⟨family, hfamily, hwhere⟩ := hplaced _ _ hresult rfl
  have hv6 : family = .v6 := by
    have hliteral : (Token.literal "fd00::3/64").family? = some .v6 := by decide
    rw [hliteral] at hfamily
    exact (Option.some.inj hfamily).symm
  subst hv6
  rw [if_neg (by simp)] at hwhere
  exact ⟨hresult, hcount, hwhere.2.2 (by rw [hcount]; decide)⟩

end Session

end ZoneNet
