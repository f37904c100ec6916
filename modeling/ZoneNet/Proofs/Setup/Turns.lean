import ZoneNet.Proofs.Setup.Interfaces

/-!
# The turns of a run

Each token that is applied has its turn: the context, the token and the ledger that the application
starts from. The turns of a run are those of the loopback address and of the tokens of every
interface in order, up to the first that ends the run.

* `runTurns_inTurn` — the turns of a run are the first ones of its schedule, and all of them if the
  run comes to its end.
-/

namespace ZoneNet

/-- What the application of a token starts from. -/
structure Turn (σ : Type) where
  context : Context
  token : Token
  ledger : Ledger σ

/-- The interface that is configured, and the token. -/
def Turn.entry {σ : Type} (turn : Turn σ) : String × Token := (turn.context.base, turn.token)

namespace Net

/-- The tokens of an interface in the order of application. -/
def entries (net : Net) : List (String × Token) := net.ordered.map fun t => (net.physical, t)

end Net

namespace Setup

variable {σ : Type} (u : Setup σ)

/-- The turns of tokens in order; a token that ends the run has the last one. -/
def turns : List Token → Context → Progress σ → List (Turn σ)
  | [], _, _ => []
  | t :: ts, c, p =>
    ⟨c, t, p.ledger⟩ ::
      match u.applyToken c t p with
      | (.ok c, p) => turns ts c p
      | (.error _, _) => []

/-- The turns of an interface, which has some only once it is plumbed and its policy is settled. -/
def netTurns (net : Net) (p : Progress σ) : List (Turn σ) :=
  match u.plumb net.physical (p.visit net.physical) with
  | (.error _, _) => []
  | (.ok (), p) =>
    let p := u.noteAbsence net p
    match interfaceIpv6 u.ipv6 net.physical (net.attr "ipv6") with
    | .error _ => []
    | .ok enabled =>
      let p := if enabled then u.linkLocal net.physical p else p
      u.turns (order net.tokens) { base := net.physical } p

/-- The turns of interfaces that are set up in order. -/
def netsTurns : List Net → Progress σ → List (Turn σ)
  | [], _ => []
  | net :: nets, p =>
    u.netTurns net p ++
      match u.configure net p with
      | (.ok (), p) => netsTurns nets p
      | (.error _, _) => []

/-- The turn of the loopback address. -/
def loopbackTurns (p : Progress σ) : List (Turn σ) :=
  match u.plumb loopbackName p with
  | (.error _, _) => []
  | (.ok (), p) => u.turns [.literal loopbackAddress] { base := loopbackName } p

/-- The turns of a run. -/
def runTurns (nets : List Net) (s : σ) : List (Turn σ) :=
  u.loopbackTurns (.start s) ++
    match u.loopback (.start s) with
    | (.ok (), p) => u.netsTurns nets p
    | (.error _, _) => []

/-- All that a run is to apply: the loopback address, and the tokens of every interface. -/
def schedule (nets : List Net) : List (String × Token) :=
  (loopbackName, .literal loopbackAddress) :: nets.flatMap Net.entries

/-- Turns are the first ones of a schedule, and all of it if the work that they are part of comes to
its end. -/
structure InTurn {ε α τ : Type} (turns : List (Turn σ)) (planned : List (String × Token))
    (o : Outcome ε α τ) : Prop where
  first : turns.map Turn.entry <+: planned
  whole : (∃ a, o.1 = .ok a) → turns.map Turn.entry = planned

variable {u}

/-- What follows on a success keeps the rest of the schedule. -/
theorem InTurn.append {ε α β τ υ : Type} {turns rest : List (Turn σ)}
    {planned later : List (String × Token)} {o : Outcome ε α τ} {o' : Outcome ε β υ}
    (h : InTurn turns planned o) (hok : ∃ a, o.1 = .ok a) (hrest : InTurn rest later o') :
    InTurn (turns ++ rest) (planned ++ later) o' where
  first := by
    rw [List.map_append, h.whole hok]
    exact (List.prefix_append_right_inj _).2 hrest.first
  whole := fun hok' => by rw [List.map_append, h.whole hok, hrest.whole hok']

/-- What follows on an error does not come about. -/
theorem InTurn.cut {ε α τ υ : Type} {turns : List (Turn σ)} {planned : List (String × Token)}
    {o : Outcome ε α τ} (h : InTurn turns planned o) (later : List (String × Token)) {e : ε} {s : υ}
    {β : Type} : InTurn turns (planned ++ later) ((.error e, s) : Outcome ε β υ) where
  first := h.first.trans (List.prefix_append _ _)
  whole := by simp

variable (u)

/-- A token leaves the base interface of its context what it was. -/
theorem base_of_applyToken {c c' : Context} {t : Token} {p p' : Progress σ}
    (h : u.applyToken c t p = (.ok c', p')) : c'.base = c.base := by
  obtain ⟨result, l, -, happly⟩ := u.assigner.exists_does c t p.ledger
  unfold applyToken at h
  rw [happly] at h
  rcases result with e | did
  · dsimp only at h
    cases hsevere : e.severity with
    | fatal =>
      rw [hsevere] at h
      cases h
    | warning =>
      rw [hsevere] at h
      cases h
      exact c.after_base t _
  · cases h
    exact c.after_base t _

theorem turns_inTurn (ts : List Token) (c : Context) (p : Progress σ) :
    InTurn (u.turns ts c p) (ts.map fun t => (c.base, t)) (u.applyTokens ts c p) := by
  induction ts generalizing c p with
  | nil => exact ⟨List.prefix_rfl, fun _ => rfl⟩
  | cons t ts ih =>
    rw [turns, applyTokens]
    rcases happly : u.applyToken c t p with ⟨e | c', p'⟩
    · exact ⟨⟨ts.map fun t => (c.base, t), rfl⟩, by simp⟩
    · have hrest := ih c' p'
      rw [u.base_of_applyToken happly] at hrest
      exact ⟨List.cons_prefix_cons.2 ⟨rfl, hrest.first⟩,
        fun hok => congrArg (_ :: ·) (hrest.whole hok)⟩

theorem assign_ok {net : Net} {list : String} {p : Progress σ}
    (h : (u.assign net list p).1 = .ok ()) :
    (u.applyTokens (order (Token.parseList list)) { base := net.physical } p).1 = .ok () := by
  unfold assign at h
  rcases happly : u.applyTokens (order (Token.parseList list)) { base := net.physical } p
    with ⟨e | _, p'⟩
  · rw [happly] at h
    cases h
  · rfl

theorem netTurns_inTurn (net : Net) (p : Progress σ) :
    InTurn (u.netTurns net p) net.entries (u.configure net p) := by
  unfold netTurns configure Net.entries
  rw [← net.order_tokens]
  rcases u.plumb net.physical (p.visit net.physical) with ⟨e | _, p⟩
  · exact ⟨List.nil_prefix, by simp⟩
  rw [Outcome.andThen_ok]
  dsimp only
  rcases interfaceIpv6 u.ipv6 net.physical (net.attr "ipv6") with e | enabled
  · exact ⟨List.nil_prefix, by simp⟩
  dsimp only
  generalize (if enabled = true then u.linkLocal net.physical (u.noteAbsence net p)
    else u.noteAbsence net p) = p
  have hturns := u.turns_inTurn (order net.tokens) { base := net.physical } p
  refine ⟨hturns.first, ?_⟩
  rintro ⟨_, hok⟩
  rcases hlist : net.addressList with _ | list
  -- without a list there are no tokens
  · rw [Net.tokens_of_none hlist]
    rfl
  · rw [hlist] at hok
    rw [Net.tokens_of_some hlist] at hturns
    have happly := u.assign_ok hok
    rw [Net.tokens_of_some hlist]
    exact hturns.whole ⟨_, happly⟩

theorem netsTurns_inTurn (nets : List Net) (p : Progress σ) :
    InTurn (u.netsTurns nets p) (nets.flatMap Net.entries) (Outcome.each u.configure nets p) := by
  induction nets generalizing p with
  | nil => exact ⟨List.prefix_rfl, fun _ => rfl⟩
  | cons net nets ih =>
    have hnet := u.netTurns_inTurn net p
    rw [netsTurns, Outcome.each_cons, List.flatMap_cons]
    generalize u.configure net p = o at hnet ⊢
    rcases o with ⟨e | _, p'⟩
    · rw [List.append_nil]
      exact hnet.cut _
    · exact hnet.append ⟨_, rfl⟩ (ih p')

theorem loopbackTurns_inTurn (p : Progress σ) :
    InTurn (u.loopbackTurns p) [(loopbackName, .literal loopbackAddress)] (u.loopback p) := by
  unfold loopbackTurns loopback
  rcases u.plumb loopbackName p with ⟨e | _, p⟩
  · exact ⟨List.nil_prefix, by simp⟩
  · rw [Outcome.andThen_ok]
    have hturns := u.turns_inTurn [.literal loopbackAddress] { base := loopbackName } p
    refine ⟨hturns.first, ?_⟩
    rintro ⟨_, hok⟩
    rcases happly : u.applyToken { base := loopbackName } (.literal loopbackAddress) p
      with ⟨e | c, p'⟩
    · rw [happly] at hok
      cases hok
    · refine hturns.whole ⟨(), ?_⟩
      simp [applyTokens, happly]

/-- The turns of a run are the first ones of its schedule, and all of them if the run comes to its
end. -/
theorem runTurns_inTurn (nets : List Net) (s : σ) :
    InTurn (u.runTurns nets s) (schedule nets) (u.run nets s) := by
  have hloopback := u.loopbackTurns_inTurn (.start s)
  unfold runTurns run
  generalize u.loopback (.start s) = lo at hloopback ⊢
  rcases lo with ⟨e | _, p⟩
  · rw [List.append_nil]
    exact hloopback.cut _
  rw [Outcome.andThen_ok]
  have hnets := u.netsTurns_inTurn nets p
  dsimp only
  generalize Outcome.each u.configure nets p = o at hnets
  have hfinish : InTurn (u.netsTurns nets p) (nets.flatMap Net.entries)
      (o.andThen fun _ p => u.finish p) := by
    refine ⟨hnets.first, ?_⟩
    rintro ⟨report, hok⟩
    rcases o with ⟨e | _, p'⟩
    · cases hok
    · exact hnets.whole ⟨_, rfl⟩
  exact hloopback.append ⟨(), rfl⟩ hfinish

/-- The base interface of a turn is the loopback interface or one that is set up. -/
theorem base_of_mem_runTurns {nets : List Net} {s : σ} {turn : Turn σ}
    (h : turn ∈ u.runTurns nets s) :
    turn.context.base = loopbackName ∨ ∃ net ∈ nets, turn.context.base = net.physical := by
  have hentry : turn.entry ∈ schedule nets :=
    (u.runTurns_inTurn nets s).first.subset (List.mem_map_of_mem h)
  rcases List.mem_cons.1 hentry with hlo | hnets
  · exact Or.inl (congrArg Prod.fst hlo)
  · obtain ⟨net, hnet, hentry⟩ := List.mem_flatMap.1 hnets
    obtain ⟨t, -, hturn⟩ := List.mem_map.1 hentry
    exact Or.inr ⟨net, hnet, (congrArg Prod.fst hturn).symm⟩

end Setup

end ZoneNet
