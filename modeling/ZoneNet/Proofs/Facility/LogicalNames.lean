import ZoneNet.Proofs.Facility.RecordedSteps
import ZoneNet.Proofs.Text.Spelling

/-!
# The names of logical interfaces

A logical interface is named after its base and a number of 32 bits, counted for each base and
family. A number holds no colon, so a name tells its base, whatever colons the base has.

* `logicalName_inj` — a name tells its base and its number.
* `Numbered.append_calls` — every name that is handed out carries a number that was counted.
* `Numbered.nextLogical_not_mem` — the next name was not handed out before.
-/

namespace ZoneNet.Recorder

open Text

/-! ## Names -/

theorem toList_logicalName (base : String) (n : Nat) :
    (logicalName base n).toList = base.toList ++ ':' :: Nat.toDigits 10 (UInt32.ofNat n).toNat := by
  unfold logicalName
  rw [String.toList_append, String.toList_append, Decimal.toList_toString, List.append_assoc]
  rfl

/-- The name of a logical interface tells its base and its number. -/
theorem logicalName_inj {base base' : String} {m n : Nat}
    (h : logicalName base m = logicalName base' n) :
    base = base' ∧ UInt32.ofNat m = UInt32.ofNat n := by
  have hlist := congrArg String.toList h
  rw [toList_logicalName, toList_logicalName] at hlist
  obtain ⟨hbase, hnumber⟩ := Decimal.append_cons_toDigits_inj (by decide) hlist
  exact ⟨String.toList_inj.1 hbase, UInt32.toNat_inj.1 hnumber⟩

/-- A logical interface is never its base. -/
theorem logicalName_ne (base : String) (n : Nat) : logicalName base n ≠ base := by
  intro h
  have hlength := congrArg (fun s : String => s.toList.length) h
  simp only [toList_logicalName, List.length_append, List.length_cons] at hlength
  omega

/-! ## What a step hands out -/

/-- No call among these hands out a logical interface. -/
def HandsOutNone (calls : List Call) : Prop :=
  ∀ base family name, Call.addLogical base family name ∉ calls

/-- A token that was placed writes the entries of its placing and then hands out nothing more; any
other token writes nothing. -/
theorem Writes.placing {r : Recorder} {timeout : UInt64} {c : Context} {l : Ledger Journal}
    {t : Token} {result : Except AssignError Applied} {calls : List Call}
    (h : r.Writes timeout c l t result calls) :
    (∃ family iface placing rest, t.family? = some family ∧
        r.Places c family l.world iface placing ∧ calls = placing ++ rest ∧ HandsOutNone rest ∧
        ∀ did, result = .ok did → did.interface? = some iface) ∨
      calls = [] ∧ ∀ did, result = .ok did → did.interface? = none := by
  cases h with
  | noted =>
    refine Or.inr ⟨rfl, fun did hd => ?_⟩
    cases hd
    rfl
  | unplaced => exact Or.inr ⟨rfl, fun did hd => by cases hd⟩
  | agentless hp =>
    exact Or.inl ⟨_, _, _, _, rfl, hp, rfl, by simp [HandsOutNone], fun did hd => by cases hd⟩
  | unleased hp =>
    exact Or.inl ⟨_, _, _, _, rfl, hp, rfl, by simp [HandsOutNone], fun did hd => by cases hd⟩
  | leased hp =>
    refine Or.inl ⟨_, _, _, _, rfl, hp, rfl, by simp [HandsOutNone], fun did hd => ?_⟩
    cases hd
    rfl
  | uncreated hp =>
    exact Or.inl ⟨_, _, _, [], rfl, hp, (List.append_nil _).symm, by simp [HandsOutNone],
      fun did hd => by cases hd⟩
  | unset hp =>
    exact Or.inl ⟨_, _, _, _, rfl, hp, rfl, by simp [HandsOutNone], fun did hd => by cases hd⟩
  | inactive hp =>
    exact Or.inl ⟨_, _, _, _, rfl, hp, rfl, by simp [HandsOutNone], fun did hd => by cases hd⟩
  | activated hp =>
    refine Or.inl ⟨_, _, _, _, rfl, hp, rfl, by simp [HandsOutNone], fun did hd => ?_⟩
    cases hd
    rfl

/-! ## Numbers -/

/-- Every name in the journal carries a number from 1 to the count for its base and family. -/
def Numbered (j : Journal) : Prop :=
  ∀ base family name, Call.addLogical base family name ∈ j →
    ∃ n, 1 ≤ n ∧ n ≤ logicalCount base family j ∧ name = logicalName base n

theorem numbered_nil : Numbered [] := fun _ _ _ h => absurd h List.not_mem_nil

theorem logicalCount_append (base : String) (family : Family) (j calls : List Call) :
    logicalCount base family (j ++ calls)
      = logicalCount base family j + logicalCount base family calls :=
  List.countP_append

/-- Calls that hand out nothing keep every number. -/
theorem Numbered.append_of_handsOutNone {j rest : List Call} (h : Numbered j)
    (hrest : HandsOutNone rest) : Numbered (j ++ rest) := by
  intro base family name hm
  rcases List.mem_append.1 hm with hm | hm
  · obtain ⟨n, hlo, hhi, hname⟩ := h base family name hm
    exact ⟨n, hlo, by rw [logicalCount_append]; omega, hname⟩
  · exact absurd hm (hrest base family name)

/-- Placing an address counts the name that it hands out. -/
theorem Numbered.append_placing {r : Recorder} {c : Context} {family : Family} {j : Journal}
    {iface : String} {placing : List Call} (h : Numbered j)
    (hp : r.Places c family j iface placing) : Numbered (j ++ placing) := by
  cases hp with
  | base => rwa [List.append_nil]
  | logical =>
    intro base family' name hm
    rcases List.mem_append.1 hm with hm | hm
    -- counts only grow, so an old number stays within its count
    · obtain ⟨n, hlo, hhi, hname⟩ := h base family' name hm
      exact ⟨n, hlo, by rw [logicalCount_append]; omega, hname⟩
    · rw [List.mem_singleton] at hm
      cases hm
      refine ⟨logicalCount c.base family j + 1, by omega, ?_, rfl⟩
      simp [logicalCount, isLogicalOn]

/-- A token keeps every name numbered. -/
theorem Numbered.append_calls {r : Recorder} {timeout : UInt64} {c : Context} {l : Ledger Journal}
    {t : Token} {result : Except AssignError Applied} {calls : List Call}
    (h : Numbered l.world) (hw : r.Writes timeout c l t result calls) :
    Numbered (l.world ++ calls) := by
  rcases hw.placing with ⟨_, _, placing, rest, _, hp, rfl, hrest, _⟩ | ⟨rfl, _⟩
  · rw [← List.append_assoc]
    exact (h.append_placing hp).append_of_handsOutNone hrest
  · rwa [List.append_nil]

/-- The next name for a base and a family was not handed out before, for any base, as long as the
count has not come round. -/
theorem Numbered.nextLogical_not_mem {j : Journal} (h : Numbered j) {base : String}
    {family : Family} (hcount : logicalCount base family j < UInt32.size) (base' : String) :
    Call.addLogical base' family (nextLogical base family j) ∉ j := by
  intro hm
  obtain ⟨n, hlo, hhi, hname⟩ := h base' family _ hm
  -- the name tells its base, and there no number has come as far as the next one
  obtain ⟨rfl, hnumber⟩ := logicalName_inj hname
  have hmod := congrArg UInt32.toNat hnumber
  simp only [UInt32.toNat_ofNat'] at hmod
  rw [show UInt32.size = 4294967296 from rfl] at hcount
  omega

end ZoneNet.Recorder
