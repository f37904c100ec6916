import ZoneNet.Proofs.Address.ObjectNames
import ZoneNet.Proofs.Facility.LogicalNames
import ZoneNet.Proofs.Setup.Accounts

/-!
# The IPv4 occupants of interfaces

An IPv4 address or a lease occupies its interface. One pass never lets two of them onto one
interface, but a pass knows of no other pass: what keeps the passes of a run apart is the names of
the interfaces alone.

* `Occupancy.token` — what one token keeps.
* `Occupancy.configure`, `Occupancy.loopback` — what one interface keeps, whatever comes of it.
* `run_occupants` — interfaces whose names keep them apart have one occupant each, and so have the
  logical interfaces on them.
* `run_occupants_twice` — an interface that is listed twice has two.
-/

namespace ZoneNet

open Text

/-- The interface of the address of an object: the text before the last `/` of its name. -/
def ObjectName.target (name : ObjectName) : String :=
  match cut '/' name.text.toList.reverse with
  | some (_, before) => String.ofList before.reverse
  | none => name.text

/-- A name tells the interface that it was made for, whatever slashes that has. -/
theorem ObjectName.target_make (iface : String) (n : UInt32) :
    (ObjectName.make iface n).target = iface := by
  have hcut : cut '/' (ObjectName.make iface n).text.toList.reverse
      = some (("addr".toList ++ Nat.toDigits 10 n.toNat).reverse, iface.toList.reverse) := by
    rw [toList_make]
    refine cut_eq_some_iff.2 ⟨by simp, ?_⟩
    rw [List.mem_reverse, List.mem_append]
    rintro (h | h)
    · exact absurd h (by decide)
    · exact Decimal.not_mem_toDigits (by decide) _ h
  unfold target
  rw [hcut]
  dsimp only
  rw [List.reverse_reverse, String.ofList_toList]

/-- Calls outside the step for addresses hand out nothing. -/
theorem Made.handsOutNone {first last : SetupStep} {calls : List Call} (h : Made first last calls)
    (haddresses : ¬(first ≤ .addresses ∧ .addresses ≤ last)) : Recorder.HandsOutNone calls := by
  intro base family name hm
  obtain ⟨step, hstep, hwithin⟩ := h _ hm
  cases hstep
  exact haddresses hwithin

namespace Recorder

/-- The interface that a call occupies: that of an IPv4 address that is activated, or that of a
lease that is had. -/
def occupied? (r : Recorder) (timeout : UInt64) : Call → Option String
  | .activate name addr => if Family.ofLiteral addr = .v4 then some name.target else none
  | .startLease iface => if r.leaseCause timeout iface = none then some iface else none
  | _ => none

/-- The interfaces that were occupied, each as often as it was. -/
def occupants (r : Recorder) (timeout : UInt64) (j : Journal) : List String :=
  j.filterMap (r.occupied? timeout)

/-- No name is that of a logical interface on another. -/
def Apart (names : List String) : Prop := ∀ base ∈ names, ∀ n, logicalName base n ∉ names

/-- On no base has the count of logical interfaces for IPv4 come round. -/
def Unwrapped (j : Journal) : Prop := ∀ base, logicalCount base .v4 j ≤ UInt32.size

/-- An interface that was begun, or a logical interface that was handed out on one of a run. -/
def Known (names seen : List String) (j : Journal) (iface : String) : Prop :=
  iface ∈ seen ∨ ∃ base ∈ names, .addLogical base .v4 iface ∈ j

/-- What holds of a journal once the interfaces in `seen` were begun, of all those in `names`. -/
structure Occupancy (r : Recorder) (timeout : UInt64) (names seen : List String) (j : Journal) :
    Prop where
  numbered : Numbered j
  known : ∀ iface ∈ r.occupants timeout j, Known names seen j iface
  nodup : Unwrapped j → (r.occupants timeout j).Nodup

/-- Where a pass takes its base interface to be free, nothing occupies it. -/
def Vacant (r : Recorder) (timeout : UInt64) (c : Context) (j : Journal) : Prop :=
  c.occupied = false → c.base ∉ r.occupants timeout j

variable {r : Recorder} {zone : Bool} {timeout : UInt64} {names seen : List String} {j : Journal}

theorem occupants_append (calls : List Call) :
    r.occupants timeout (j ++ calls) = r.occupants timeout j ++ r.occupants timeout calls :=
  List.filterMap_append

theorem Known.append {iface : String} (h : Known names seen j iface) (calls : List Call) :
    Known names seen (j ++ calls) iface :=
  h.imp_right fun ⟨base, hbase, hcall⟩ => ⟨base, hbase, List.mem_append_left _ hcall⟩

theorem Unwrapped.of_append {calls : List Call} (h : Unwrapped (j ++ calls)) : Unwrapped j := by
  intro base
  have hbase := h base
  rw [logicalCount_append] at hbase
  omega

/-- Calls outside the steps for leases and addresses occupy nothing. -/
theorem occupants_of_made {first last : SetupStep} {calls : List Call} (h : Made first last calls)
    (hlease : ¬(first ≤ .lease ∧ .lease ≤ last))
    (haddresses : ¬(first ≤ .addresses ∧ .addresses ≤ last)) : r.occupants timeout calls = [] := by
  refine List.filterMap_eq_nil_iff.2 fun call hm => ?_
  obtain ⟨step, hstep, hwithin⟩ := h call hm
  cases call with
  | startLease =>
    cases hstep
    exact absurd hwithin hlease
  | activate =>
    cases hstep
    exact absurd hwithin haddresses
  | _ => rfl

/-- A token that puts an IPv4 address on an interface occupies it; any other token occupies
nothing. -/
theorem Writes.occupants {c : Context} {l : Ledger Journal} {t : Token}
    {result : Except AssignError Applied} {calls : List Call}
    (h : r.Writes timeout c l t result calls) :
    (r.occupants timeout calls = [] ∧ t.lands result = false) ∨
      ∃ iface placing rest, r.Places c .v4 l.world iface placing ∧ calls = placing ++ rest ∧
        r.occupants timeout calls = [iface] ∧ t.lands result = true := by
  have hplacing {family : Family} {iface : String} {placing : List Call}
      (hp : r.Places c family l.world iface placing) (rest : List Call) :
      r.occupants timeout (placing ++ rest) = r.occupants timeout rest := by
    cases hp with
    | base => rfl
    | logical => rfl
  cases h with
  | noted => exact Or.inl ⟨rfl, rfl⟩
  | unplaced => exact Or.inl ⟨rfl, rfl⟩
  | agentless hp => exact Or.inl ⟨hplacing hp _, rfl⟩
  | unleased hp _ hcause =>
    refine Or.inl ⟨?_, rfl⟩
    rw [hplacing hp]
    simp [Recorder.occupants, List.filterMap_cons, occupied?, hcause]
  | leased hp _ hcause =>
    refine Or.inr ⟨_, _, _, hp, rfl, ?_, rfl⟩
    rw [hplacing hp]
    simp [Recorder.occupants, List.filterMap_cons, occupied?, hcause]
  | uncreated hp => exact Or.inl ⟨by rw [← List.append_nil calls, hplacing hp]; rfl, rfl⟩
  | unset hp => exact Or.inl ⟨hplacing hp _, rfl⟩
  | inactive hp => exact Or.inl ⟨hplacing hp _, rfl⟩
  | @activated addr _ _ _ hp hname =>
    subst hname
    by_cases hfamily : Family.ofLiteral addr = .v4
    · rw [hfamily] at hp
      refine Or.inr ⟨_, _, _, hp, rfl, ?_, by simp [Token.lands, Token.family?, hfamily]⟩
      rw [hplacing hp]
      simp [Recorder.occupants, List.filterMap_cons, occupied?, hfamily, ObjectName.target_make]
    -- an IPv6 address leaves its interface to IPv4
    · refine Or.inl ⟨?_, by simp [Token.lands, Token.family?, hfamily]⟩
      rw [hplacing hp]
      simp [Recorder.occupants, List.filterMap_cons, occupied?, hfamily]

namespace Occupancy

theorem start : Occupancy r timeout names seen [] where
  numbered := numbered_nil
  known := fun _ h => absurd h List.not_mem_nil
  nodup := fun _ => List.nodup_nil

/-- Interfaces may be taken to have been begun before they are. -/
theorem mono (h : Occupancy r timeout names seen j) {seen' : List String} (hsub : seen ⊆ seen') :
    Occupancy r timeout names seen' j where
  numbered := h.numbered
  known := fun iface hm => (h.known iface hm).imp_left (hsub ·)
  nodup := h.nodup

theorem append_of_made (h : Occupancy r timeout names seen j) {first last : SetupStep}
    {calls : List Call} (hmade : Made first last calls)
    (hlease : ¬(first ≤ .lease ∧ .lease ≤ last))
    (haddresses : ¬(first ≤ .addresses ∧ .addresses ≤ last)) :
    Occupancy r timeout names seen (j ++ calls) := by
  have hsame : r.occupants timeout (j ++ calls) = r.occupants timeout j := by
    rw [occupants_append, occupants_of_made hmade hlease haddresses, List.append_nil]
  refine ⟨h.numbered.append_of_handsOutNone (hmade.handsOutNone haddresses), ?_, ?_⟩
  · rw [hsame]
    exact fun iface hm => (h.known iface hm).append calls
  · rw [hsame]
    exact fun hround => h.nodup hround.of_append

/-- An interface that is not begun yet is not occupied: it is nobody's logical interface. -/
theorem not_mem (h : Occupancy r timeout names seen j) (hapart : Apart names) {iface : String}
    (hiface : iface ∈ names) (hnew : iface ∉ seen) : iface ∉ r.occupants timeout j := by
  intro hm
  rcases h.known iface hm with hseen | ⟨base, hbase, hcall⟩
  · exact hnew hseen
  · obtain ⟨n, -, -, rfl⟩ := h.numbered base .v4 iface hcall
    exact hapart base hbase n hiface

/-- Placing an IPv4 address takes an interface that is not occupied. -/
theorem place (h : Occupancy r timeout names seen j) (hapart : Apart names) (hsub : seen ⊆ names)
    {c : Context} (hbase : c.base ∈ seen) (hvacant : r.Vacant timeout c j) {iface : String}
    {placing : List Call} (hp : r.Places c .v4 j iface placing) :
    Known names seen (j ++ placing) iface ∧
      (Unwrapped (j ++ placing) → iface ∉ r.occupants timeout j) := by
  cases hp with
  | base _ hfree => exact ⟨Or.inl hbase, fun _ => hvacant hfree⟩
  | logical =>
    refine ⟨Or.inr ⟨c.base, hsub hbase, List.mem_append_right _ List.mem_cons_self⟩,
      fun hround hm => ?_⟩
    rcases h.known _ hm with hseen | ⟨base, -, hcall⟩
    · exact hapart c.base (hsub hbase) _ (hsub hseen)
    -- the count has not come round, so the name was not handed out before
    · have hcount : logicalCount c.base .v4 j < UInt32.size := by
        have hafter := hround c.base
        rw [logicalCount_append] at hafter
        simp only [logicalCount, List.countP_singleton, isLogicalOn, beq_self_eq_true,
          Bool.and_self, if_true] at hafter ⊢
        omega
      exact h.numbered.nextLogical_not_mem hcount base hcall

/-- A token keeps interfaces to one occupant each, and its pass aware of the base interface. -/
theorem token {l : Ledger Journal} (h : Occupancy r timeout names seen l.world)
    (hapart : Apart names) (hsub : seen ⊆ names) {c : Context} (hbase : c.base ∈ seen)
    (hvacant : r.Vacant timeout c l.world) {t : Token} {result : Except AssignError Applied}
    {calls : List Call} (hw : r.Writes timeout c l t result calls) :
    Occupancy r timeout names seen (l.world ++ calls) ∧
      r.Vacant timeout (c.after t result) (l.world ++ calls) := by
  have hnumbered : Numbered (l.world ++ calls) := h.numbered.append_calls hw
  rcases hw.occupants with ⟨hnone, hlands⟩ | ⟨iface, placing, rest, hp, rfl, hone, hlands⟩
  -- without a new occupant the context stays as it is
  · have hsame : r.occupants timeout (l.world ++ calls) = r.occupants timeout l.world := by
      rw [occupants_append, hnone, List.append_nil]
    refine ⟨⟨hnumbered, fun iface hm => ?_, fun hround => ?_⟩, ?_⟩
    · exact (h.known iface (hsame ▸ hm)).append calls
    · rw [hsame]
      exact h.nodup hround.of_append
    · unfold Vacant
      rw [hsame, Context.after_base, Context.after_occupied, hlands, Bool.or_false]
      exact hvacant
  · obtain ⟨hknown, hfresh⟩ := h.place hapart hsub hbase hvacant hp
    have hmore : r.occupants timeout (l.world ++ (placing ++ rest))
        = r.occupants timeout l.world ++ [iface] := by rw [occupants_append, hone]
    refine ⟨⟨hnumbered, ?_, fun hround => ?_⟩, ?_⟩
    · rw [hmore]
      intro iface' hm
      rcases List.mem_append.1 hm with hm | hm
      · exact (h.known iface' hm).append _
      · rw [List.mem_singleton.1 hm, ← List.append_assoc]
        exact hknown.append rest
    · rw [hmore, List.nodup_append]
      refine ⟨h.nodup hround.of_append, List.pairwise_singleton _ _, ?_⟩
      rw [← List.append_assoc] at hround
      intro a ha b hb hab
      rw [List.mem_singleton.1 hb] at hab
      exact hfresh hround.of_append (hab ▸ ha)
    · intro hfree
      rw [Context.after_occupied, hlands, Bool.or_true] at hfree
      cases hfree

/-! ## One interface -/

variable (hapart : Apart names)
include hapart

theorem applyToken (zone : Bool) (hsub : seen ⊆ names) {c : Context} (t : Token)
    {p : Progress Journal} (h : Occupancy r timeout names seen p.ledger.world) (hbase : c.base ∈ seen)
    (hvacant : r.Vacant timeout c p.ledger.world) :
    Occupancy r timeout names seen ((r.setup zone timeout).applyToken c t p).2.ledger.world ∧
      ∀ c', ((r.setup zone timeout).applyToken c t p).1 = .ok c' → c'.base = c.base ∧
        r.Vacant timeout c' ((r.setup zone timeout).applyToken c t p).2.ledger.world := by
  obtain ⟨result, calls, hwrites, happly⟩ := r.exists_applyToken zone timeout c t p
  obtain ⟨hnext, hvacant'⟩ := h.token hapart hsub hbase hvacant hwrites
  rcases happly with ⟨e, -, hfatal⟩ | ⟨-, hgoes⟩
  · rw [hfatal]
    exact ⟨hnext, fun c' hc => by cases hc⟩
  · have hcalls : (p.add (Settlement.gain ⟨c.base, t, result⟩ calls)).ledger.world
        = p.ledger.world ++ calls := by simp [Progress.add, Settlement.gain]
    rw [hgoes]
    dsimp only
    rw [hcalls]
    refine ⟨hnext, fun c' hc => ?_⟩
    cases hc
    exact ⟨c.after_base t result, hvacant'⟩

theorem applyTokens (hsub : seen ⊆ names) (ts : List Token) {c : Context} {p : Progress Journal}
    (h : Occupancy r timeout names seen p.ledger.world) (hbase : c.base ∈ seen)
    (hvacant : r.Vacant timeout c p.ledger.world) :
    Occupancy r timeout names seen
      ((r.setup zone timeout).applyTokens ts c p).2.ledger.world := by
  induction ts generalizing c p with
  | nil => exact h
  | cons t ts ih =>
    obtain ⟨hnext, hcontext⟩ := h.applyToken hapart zone hsub t hbase hvacant
    unfold Setup.applyTokens
    generalize (r.setup zone timeout).applyToken c t p = o at hnext hcontext
    obtain ⟨_ | c', q⟩ := o
    · exact hnext
    · obtain ⟨hsame, hvacant'⟩ := hcontext c' rfl
      exact ih hnext (hsame ▸ hbase) hvacant'

theorem assign {net : Net} (hsub : seen ⊆ names) (hbase : net.physical ∈ seen) (list : String)
    {p : Progress Journal} (h : Occupancy r timeout names seen p.ledger.world)
    (hfree : net.physical ∉ r.occupants timeout p.ledger.world) :
    Occupancy r timeout names seen
      ((r.setup zone timeout).assign net list p).2.ledger.world := by
  unfold Setup.assign
  have htokens : Occupancy r timeout names seen ((r.setup zone timeout).applyTokens
      (Setup.order (Token.parseList list)) { base := net.physical } p).2.ledger.world :=
    h.applyTokens hapart hsub _ hbase fun _ => hfree
  generalize (r.setup zone timeout).applyTokens _ _ p = o at htokens
  obtain ⟨_ | _, q⟩ := o
  · exact htokens
  · rw [Outcome.andThen_ok]
    rcases net.gateway with _ | gateway
    · exact htokens
    · dsimp only
      rcases hparse : IPv4.parse? gateway with _ | ip
      · rw [Setup.defaultRoute, hparse]
        exact htokens
      · rw [r.defaultRoute_eq zone timeout hparse]
        exact htokens.append_of_made (r.made_routeCalls _) (by decide) (by decide)

/-- An interface that comes under its name for the first time leaves every interface with no more
than one occupant, whatever comes of it. -/
theorem configure {net : Net} (hsub : net.physical :: seen ⊆ names) (hnew : net.physical ∉ seen)
    {p : Progress Journal} (h : Occupancy r timeout names seen p.ledger.world) :
    Occupancy r timeout names (net.physical :: seen)
      ((r.setup zone timeout).configure net p).2.ledger.world := by
  have hbegun := h.mono (List.subset_cons_self net.physical seen)
  rw [configure_eq]
  by_cases hplumb : net.physical ∈ r.failPlumb
  · rw [if_pos hplumb]
    exact hbegun.append_of_made (made_nil .plumb .plumb) (by decide) (by decide)
  · rw [if_neg hplumb]
    rcases interfaceIpv6 zone net.physical (net.attr "ipv6") with e | enabled
    · have hplumbing : Made .plumb .plumb ([] ++ (plumbing zone net.physical).calls ++ []) :=
        ((made_nil _ _).append (made_plumbing zone net.physical)).append (made_nil _ _)
      exact hbegun.append_of_made hplumbing (by decide) (by decide)
    · have hopening := r.made_opening zone enabled net
      have hopened := hbegun.append_of_made hopening (by decide) (by decide)
      dsimp only
      rcases net.addressList with _ | list
      · exact hopened
      · refine assign hapart hsub List.mem_cons_self list hopened ?_
        show _ ∉ r.occupants timeout (p.ledger.world ++ _)
        rw [occupants_append, occupants_of_made hopening (by decide) (by decide), List.append_nil]
        exact h.not_mem hapart (hsub List.mem_cons_self) hnew

/-- The loopback interface comes first. -/
theorem loopback (hname : Setup.loopbackName ∈ names) :
    Occupancy r timeout names [Setup.loopbackName]
      ((r.setup zone timeout).loopback (.start [])).2.ledger.world := by
  by_cases hplumb : Setup.loopbackName ∈ r.failPlumb
  · rw [r.loopback_of_mem zone timeout hplumb]
    exact start
  · have hplumbing := made_plumbing zone Setup.loopbackName
    have hplumbed : Occupancy r timeout names [Setup.loopbackName]
        ((Progress.start []).add (plumbing zone Setup.loopbackName)).ledger.world :=
      start.append_of_made hplumbing (by decide) (by decide)
    have hvacant : r.Vacant timeout { base := Setup.loopbackName }
        ((Progress.start []).add (plumbing zone Setup.loopbackName)).ledger.world := by
      intro _
      show _ ∉ r.occupants timeout (plumbing zone Setup.loopbackName).calls
      rw [occupants_of_made hplumbing (by decide) (by decide)]
      exact List.not_mem_nil
    obtain ⟨hliteral, -⟩ := hplumbed.applyToken hapart zone (by simpa using hname)
      (.literal Setup.loopbackAddress) List.mem_cons_self hvacant
    unfold Setup.loopback
    rw [plumb_of_not_mem _ _ hplumb, Outcome.andThen_ok]
    generalize (r.setup zone timeout).applyToken _ _ _ = o at hliteral
    obtain ⟨_ | _, q⟩ := o
    · exact hliteral
    · rw [Outcome.andThen_ok]
      dsimp only
      rw [linkLocal_eq]
      exact hliteral.append_of_made (r.made_linking _ _) (by decide) (by decide)

/-- Interfaces that each come under their name for the first time, one after the other. -/
theorem each {nets : List Net} (hnets : ∀ net ∈ nets, net.physical ∈ names)
    (hnew : ∀ net ∈ nets, net.physical ∉ seen) (hdistinct : (nets.map Net.physical).Nodup)
    (hsub : seen ⊆ names) {p : Progress Journal}
    (h : Occupancy r timeout names seen p.ledger.world) :
    Occupancy r timeout names names
      (Outcome.each (r.setup zone timeout).configure nets p).2.ledger.world := by
  induction nets generalizing seen p with
  | nil => exact h.mono hsub
  | cons net nets ih =>
    obtain ⟨hname, hnames⟩ := List.forall_mem_cons.1 hnets
    obtain ⟨hfirst, hrest⟩ := List.forall_mem_cons.1 hnew
    obtain ⟨hother, hdistinct⟩ := List.nodup_cons.1 hdistinct
    have hsub' : net.physical :: seen ⊆ names := List.cons_subset.2 ⟨hname, hsub⟩
    have hconfigure : Occupancy r timeout names (net.physical :: seen)
        ((r.setup zone timeout).configure net p).2.ledger.world :=
      h.configure hapart hsub' hfirst
    rw [Outcome.each_cons]
    generalize (r.setup zone timeout).configure net p = o at hconfigure
    obtain ⟨_ | _, q⟩ := o
    · exact hconfigure.mono hsub'
    · refine ih hnames (fun net' hm => ?_) hdistinct hsub' hconfigure
      rw [List.mem_cons, not_or]
      exact ⟨fun heq => hother (heq ▸ List.mem_map_of_mem hm), hrest net' hm⟩

end Occupancy

/-! ## A whole run -/

/-- Names without a colon are apart. -/
theorem apart_of_colon_not_mem (h : ∀ name ∈ names, ':' ∉ name.toList) : Apart names := by
  intro base _ n hm
  refine h _ hm ?_
  rw [toList_logicalName]
  exact List.mem_append_right _ List.mem_cons_self

/-- The names of all interfaces of a run. -/
def runNames (nets : List Net) : List String := Setup.loopbackName :: nets.map Net.physical

theorem occupancy_reach {nets : List Net} (hdistinct : (runNames nets).Nodup)
    (hapart : Apart (runNames nets)) :
    Occupancy r timeout (runNames nets) (runNames nets)
      ((r.setup zone timeout).reach nets []).2.ledger.world := by
  obtain ⟨hlo, hdistinct⟩ := List.nodup_cons.1 hdistinct
  have hsub : [Setup.loopbackName] ⊆ runNames nets :=
    List.cons_subset_cons _ (List.nil_subset _)
  have hloopback : Occupancy r timeout (runNames nets) [Setup.loopbackName]
      ((r.setup zone timeout).loopback (.start [])).2.ledger.world :=
    .loopback hapart List.mem_cons_self
  unfold Setup.reach
  generalize (r.setup zone timeout).loopback (.start []) = o at hloopback
  obtain ⟨_ | _, p⟩ := o
  · exact hloopback.mono hsub
  · refine hloopback.each hapart (fun net hm => ?_) (fun net hm heq => ?_) hdistinct hsub
    · exact List.mem_cons_of_mem _ (List.mem_map_of_mem hm)
    · rw [List.mem_singleton] at heq
      exact hlo (heq ▸ List.mem_map_of_mem hm)

theorem occupancy_run {nets : List Net} (hdistinct : (runNames nets).Nodup)
    (hapart : Apart (runNames nets)) :
    Occupancy r timeout (runNames nets) (runNames nets)
      ((r.setup zone timeout).run nets []).2.ledger.world := by
  have hreach : Occupancy r timeout (runNames nets) (runNames nets)
      ((r.setup zone timeout).reach nets []).2.ledger.world := occupancy_reach hdistinct hapart
  rw [Setup.run_eq]
  generalize (r.setup zone timeout).reach nets [] = o at hreach
  obtain ⟨_ | _, p⟩ := o
  · exact hreach
  · rw [Outcome.andThen_ok, finish_eq]
    split
    · split
      · exact hreach
      · exact hreach.append_of_made (made_single rfl) (by decide) (by decide)
    · exact hreach

/-- No interface has two IPv4 occupants after a run, whatever its result, if the names of the
interfaces, the loopback interface with them, are distinct and none is that of a logical interface
on another; as long as no count of logical interfaces has come round. -/
theorem run_occupants (r : Recorder) (zone : Bool) (timeout : UInt64) {nets : List Net}
    (hdistinct : (runNames nets).Nodup) (hapart : Apart (runNames nets))
    (hround : Unwrapped ((r.setup zone timeout).run nets []).2.ledger.world) :
    (r.occupants timeout ((r.setup zone timeout).run nets []).2.ledger.world).Nodup :=
  (occupancy_run hdistinct hapart).nodup hround

/-- Two interfaces with a lease, a second literal and an IPv6 address between them. -/
theorem run_occupants_two :
    let nets : List Net := [
      { physical := "net0", attrs := [⟨"ips", "10.0.0.2/24,dhcp,fd00::2/64,10.0.0.3/24"⟩] },
      { physical := "net1", attrs := [⟨"ips", "10.1.0.2/24"⟩] }]
    let j := ((({} : Recorder).setup false 5).run nets []).2.ledger.world
    occupants {} 5 j = ["lo0", "net0", "net0:1", "net0:2", "net1"] ∧ (occupants {} 5 j).Nodup := by
  intro nets j
  have hapart : Apart (runNames nets) := apart_of_colon_not_mem (by decide)
  have hround : Unwrapped j := by
    intro base
    calc logicalCount base .v4 j
      _ ≤ j.length := List.countP_le_length
      _ ≤ UInt32.size := by decide +kernel
  exact ⟨by decide +kernel, run_occupants {} false 5 (by decide) hapart hround⟩

/-- An interface that is listed twice has two occupants, though no operation fails. -/
theorem run_occupants_twice :
    let nets : List Net := [
      { physical := "net0", attrs := [⟨"ips", "10.0.0.2/24"⟩] },
      { physical := "net0", attrs := [⟨"ips", "10.0.0.3/24"⟩] }]
    let j := ((({} : Recorder).setup false 5).run nets []).2.ledger.world
    occupants {} 5 j = ["lo0", "net0", "net0"] ∧ ¬(occupants {} 5 j).Nodup := by
  decide +kernel

end Recorder

end ZoneNet
