import Mathlib.Data.Prod.Lex
import ZoneNet.Facility.Recorder
import ZoneNet.Proofs.Text.Spelling

/-!
# The setting of buffer limits

Every setting of a profile is tried, whatever comes of those before it. Over a recorder the settings
that are taken and those that fail are the two parts of what is tried, each in its order; so the
largest limit of a transport is there before its sizes are, wherever one looks.

* `setAll_watched` — what is tried, whatever the facility answers.
* `setAll_recorded` — what is taken over a recorder, and what fails.
* `within_of_prefix` — the sizes stay within the limit after every setting.
* `maxBuf_mono` — a later release has no smaller limit.
-/

namespace ZoneNet

open Text

/-- A setting as a facility is given it: the property, its value as a numeral, and the transport. -/
abbrev Setting := String × String × Protocol

/-- The facility with every setting that is tried written down behind its state. -/
def BufferProperties.watched {σ : Type} (props : BufferProperties σ) :
    BufferProperties (σ × List Setting) where
  set property value protocol s :=
    let o := props.set property value protocol s.1
    (o.1, o.2, s.2 ++ [(property, value, protocol)])
  tell f s := (props.tell f s.1, s.2)

/-- The setting that failed. -/
def PropertyFailure.setting (f : PropertyFailure) : Setting :=
  (f.property, toString f.value.toNat, f.protocol)

/-- The entry of a setting that was taken. -/
def Call.ofSetting (s : Setting) : Call := .setProperty s.1 s.2.1 s.2.2

namespace BufferProfile

/-! ## What is tried -/

/-- The settings for one transport: its largest limit, then its two sizes. -/
def settingsFor (p : BufferProfile) (q : Protocol) : List Setting :=
  [("max_buf", toString p.maxBuf.toNat, q), ("send_buf", toString p.sendBuf.toNat, q),
    ("recv_buf", toString p.recvBuf.toNat, q)]

theorem mem_settingsFor {p : BufferProfile} {q : Protocol} {s : Setting} :
    s ∈ p.settingsFor q ↔ s = ("max_buf", toString p.maxBuf.toNat, q) ∨
      s = ("send_buf", toString p.sendBuf.toNat, q) ∨
      s = ("recv_buf", toString p.recvBuf.toNat, q) := by
  simp only [settingsFor, List.mem_cons, List.not_mem_nil, or_false]

/-- A setting for a transport tells which one. -/
theorem protocol_of_mem {p : BufferProfile} {q : Protocol} {s : Setting}
    (h : s ∈ p.settingsFor q) : s.2.2 = q := by
  rcases mem_settingsFor.1 h with rfl | rfl | rfl <;> rfl

/-- The settings for transports, one transport after the other. -/
def attempts (p : BufferProfile) (qs : List Protocol) : List Setting := qs.flatMap p.settingsFor

/-- A step of a plan as a setting. -/
def asSetting (s : Protocol × String × UInt32) : Setting := (s.2.1, toString s.2.2.toNat, s.1)

theorem map_asSetting_plan (p : BufferProfile) (qs : List Protocol) :
    (p.plan qs).map asSetting = p.attempts qs := by
  unfold plan attempts
  rw [List.map_flatMap]
  rfl

theorem length_attempts (p : BufferProfile) (qs : List Protocol) :
    (p.attempts qs).length = 3 * qs.length := by
  have hthree : ∀ q ∈ qs, (p.settingsFor q).length = 3 := fun _ _ => rfl
  rw [attempts, List.length_flatMap, List.map_congr_left hthree, List.map_const',
    List.sum_replicate_nat, Nat.mul_comm]

variable {σ : Type}

/-- Every step of a plan is tried in its turn, and watching changes nothing. -/
theorem setAll_watched (props : BufferProperties σ) (plan : List (Protocol × String × UInt32))
    (s : σ) (before : List Setting) :
    setAll props.watched plan (s, before)
      = ((setAll props plan s).1, (setAll props plan s).2, before ++ plan.map asSetting) := by
  induction plan generalizing s before with
  | nil => simp [setAll]
  | cons step plan ih =>
    obtain ⟨protocol, property, value⟩ := step
    have hset : props.watched.set property (toString value.toNat) protocol (s, before)
        = ((props.set property (toString value.toNat) protocol s).1,
          (props.set property (toString value.toNat) protocol s).2,
          before ++ [(property, toString value.toNat, protocol)]) := rfl
    have hmap : before ++ List.map asSetting ((protocol, property, value) :: plan)
        = (before ++ [(property, toString value.toNat, protocol)]) ++ plan.map asSetting := by
      simp [asSetting]
    rw [setAll, setAll, hset, hmap]
    rcases props.set property (toString value.toNat) protocol s with ⟨e | _, t⟩
    · have htell (f : PropertyFailure) (l : List Setting) :
          props.watched.tell f (t, l) = (props.tell f t, l) := rfl
      dsimp only
      rw [htell, ih]
    · exact ih t _

theorem apply_watched (props : BufferProperties σ) (p : BufferProfile) (qs : List Protocol) (s : σ) :
    p.apply props.watched qs (s, [])
      = ((p.apply props qs s).1, (p.apply props qs s).2, p.attempts qs) := by
  unfold apply
  rw [setAll_watched, map_asSetting_plan, List.nil_append]

end BufferProfile

namespace Recorder

open BufferProfile

variable (r : Recorder)

/-! ## What is taken and what fails -/

/-- Whether a recorder refuses a setting. -/
def refuses (s : Setting) : Bool := r.failProperties.contains (s.1, s.2.2)

theorem refuses_of_mem {s : Setting} (h : (s.1, s.2.2) ∈ r.failProperties) : r.refuses s = true :=
  List.contains_iff_mem.2 h

theorem refuses_of_not_mem {s : Setting} (h : (s.1, s.2.2) ∉ r.failProperties) :
    r.refuses s = false := by
  rw [← Bool.not_eq_true]
  exact mt List.contains_iff_mem.1 h

/-- Why a recorder refuses a setting. -/
def settingRefusal : FacilityError := .rejected "set-prop" "value out of range"

/-- Of the settings of a plan those that are refused are the failures, and the others are recorded,
both in order. -/
theorem setAll_recorded (plan : List (Protocol × String × UInt32)) (j : Journal) :
    (setAll r.bufferProperties plan j).2
        = j ++ ((plan.map asSetting).filter (!r.refuses ·)).map Call.ofSetting ∧
      (setAll r.bufferProperties plan j).1.map PropertyFailure.setting
        = (plan.map asSetting).filter r.refuses ∧
      ∀ f ∈ (setAll r.bufferProperties plan j).1, f.cause = settingRefusal := by
  induction plan generalizing j with
  | nil => simp [setAll]
  | cons step plan ih =>
    obtain ⟨protocol, property, value⟩ := step
    rw [setAll, List.map_cons]
    dsimp only [bufferProperties, setProperty]
    by_cases hrefused : (property, protocol) ∈ r.failProperties
    · have hrefuses : r.refuses (asSetting (protocol, property, value)) = true :=
        r.refuses_of_mem hrefused
      obtain ⟨hrecorded, hfailed, hcause⟩ := ih j
      rw [if_pos hrefused]
      dsimp only
      rw [List.filter_cons_of_neg (by simp [hrefuses]), List.filter_cons_of_pos hrefuses]
      exact ⟨hrecorded, congrArg (asSetting (protocol, property, value) :: ·) hfailed,
        List.forall_mem_cons.2 ⟨rfl, hcause⟩⟩
    · have hrefuses : r.refuses (asSetting (protocol, property, value)) = false :=
        r.refuses_of_not_mem hrefused
      obtain ⟨hrecorded, hfailed, hcause⟩ :=
        ih (record (.setProperty property (toString value.toNat) protocol) j)
      rw [if_neg hrefused]
      dsimp only
      rw [List.filter_cons_of_pos (by simp [hrefuses]), List.filter_cons_of_neg (by simp [hrefuses])]
      refine ⟨?_, hfailed, hcause⟩
      refine hrecorded.trans ?_
      simp [record, Call.ofSetting, asSetting]

/-- The settings of a profile that a recorder takes, in order. -/
def taken (p : BufferProfile) (qs : List Protocol) : List Setting :=
  (p.attempts qs).filter (!r.refuses ·)

theorem properties_append_ofSetting (j : Journal) (sets : List Setting) :
    properties (j ++ sets.map Call.ofSetting) = properties j ++ sets := by
  rw [properties, List.filterMap_append, List.filterMap_map]
  exact congrArg (properties j ++ ·) List.filterMap_some

/-! ## Limits and sizes -/

/-- The number that a property of a transport was last set to. -/
def lastSet (property : String) (q : Protocol) (sets : List Setting) : Option Nat :=
  ((sets.filter fun s => s.1 = property ∧ s.2.2 = q).getLast?).map fun s =>
    Decimal.value s.2.1.toList

/-- The sizes of a transport are within its largest limit, which is set if one of them is. -/
def Within (q : Protocol) (sets : List Setting) : Prop :=
  ∀ property ∈ ["send_buf", "recv_buf"], ∀ n, lastSet property q sets = some n →
    ∃ m, lastSet "max_buf" q sets = some m ∧ n ≤ m

theorem exists_of_lastSet {property : String} {q : Protocol} {sets : List Setting} {n : Nat}
    (h : lastSet property q sets = some n) :
    ∃ s ∈ sets, s.1 = property ∧ s.2.2 = q ∧ Decimal.value s.2.1.toList = n := by
  obtain ⟨s, hlast, hvalue⟩ := Option.map_eq_some_iff.1 h
  obtain ⟨hmem, hs⟩ := List.mem_filter.1 (List.mem_of_getLast? hlast)
  obtain ⟨hproperty, hq⟩ := of_decide_eq_true hs
  exact ⟨s, hmem, hproperty, hq, hvalue⟩

theorem exists_lastSet {s : Setting} {sets : List Setting} (h : s ∈ sets) :
    ∃ n, lastSet s.1 s.2.2 sets = some n := by
  have hmem : s ∈ sets.filter fun t => t.1 = s.1 ∧ t.2.2 = s.2.2 :=
    List.mem_filter.2 ⟨h, decide_eq_true ⟨rfl, rfl⟩⟩
  rw [lastSet, List.getLast?_eq_some_getLast (List.ne_nil_of_mem hmem)]
  exact ⟨_, rfl⟩

/-- Settings of which every beginning holds the largest limit of a transport as soon as it holds
anything of that transport, unless the limit is refused. -/
def Led (sets : List Setting) : Prop :=
  ∀ done, done <+: sets → ∀ s ∈ done, ("max_buf", s.2.2) ∉ r.failProperties →
    ∃ l ∈ done, l.1 = "max_buf" ∧ l.2.2 = s.2.2

variable {r}

theorem Led.append {a b : List Setting} (ha : r.Led a) (hb : r.Led b) : r.Led (a ++ b) := by
  intro done hdone s hs hmax
  rcases List.prefix_or_prefix_of_prefix hdone (List.prefix_append a b) with hshort | ⟨t, rfl⟩
  · exact ha done hshort s hs hmax
  · rcases List.mem_append.1 hs with hs | hs
    · obtain ⟨l, hl, hlimit⟩ := ha a List.prefix_rfl s hs hmax
      exact ⟨l, List.mem_append_left t hl, hlimit⟩
    · obtain ⟨l, hl, hlimit⟩ := hb t ((List.prefix_append_right_inj a).1 hdone) s hs hmax
      exact ⟨l, List.mem_append_right a hl, hlimit⟩

variable (p : BufferProfile)

/-- What is taken for one transport begins with its limit, if that is taken. -/
theorem led_settingsFor (q : Protocol) : r.Led ((p.settingsFor q).filter (!r.refuses ·)) := by
  intro done hdone s hs hmax
  have hq : s.2.2 = q := protocol_of_mem (List.mem_filter.1 (hdone.subset hs)).1
  rw [hq] at hmax ⊢
  have hlimit : r.refuses ("max_buf", toString p.maxBuf.toNat, q) = false :=
    r.refuses_of_not_mem hmax
  rw [settingsFor, List.filter_cons_of_pos (by rw [hlimit]; rfl)] at hdone
  cases done with
  | nil => simp at hs
  | cons l done =>
    obtain ⟨rfl, -⟩ := List.cons_prefix_cons.1 hdone
    exact ⟨_, List.mem_cons_self, rfl, rfl⟩

theorem led_taken (qs : List Protocol) : r.Led (r.taken p qs) := by
  unfold taken attempts
  induction qs with
  | nil =>
    intro done hdone s hs
    rw [List.prefix_nil.1 hdone] at hs
    simp at hs
  | cons q qs ih =>
    rw [List.flatMap_cons, List.filter_append]
    exact (led_settingsFor p q).append ih

theorem mem_settingsFor_of_mem_taken {qs : List Protocol} {s : Setting} (h : s ∈ r.taken p qs) :
    s ∈ p.settingsFor s.2.2 := by
  obtain ⟨q, -, hq⟩ := List.mem_flatMap.1 (List.mem_filter.1 h).1
  rwa [protocol_of_mem hq]

variable {p}

/-- No setting of a profile is greater than its largest limit, if its sizes are not. -/
theorem value_le_of_mem (hsend : p.sendBuf ≤ p.maxBuf) (hrecv : p.recvBuf ≤ p.maxBuf) {q : Protocol}
    {s : Setting} (h : s ∈ p.settingsFor q) : Decimal.value s.2.1.toList ≤ p.maxBuf.toNat := by
  rcases mem_settingsFor.1 h with rfl | rfl | rfl
  · exact (Decimal.value_toString _).le
  · exact (Decimal.value_toString _).trans_le (UInt32.le_iff_toNat_le.1 hsend)
  · exact (Decimal.value_toString _).trans_le (UInt32.le_iff_toNat_le.1 hrecv)

theorem value_eq_of_mem {q : Protocol} {s : Setting} (h : s ∈ p.settingsFor q)
    (hlimit : s.1 = "max_buf") : Decimal.value s.2.1.toList = p.maxBuf.toNat := by
  rcases mem_settingsFor.1 h with rfl | rfl | rfl
  · exact Decimal.value_toString _
  · exact absurd hlimit (show "send_buf" ≠ "max_buf" by decide)
  · exact absurd hlimit (show "recv_buf" ≠ "max_buf" by decide)

/-- After each setting that is taken the sizes of a transport are within its limit. -/
theorem within_of_prefix (hsend : p.sendBuf ≤ p.maxBuf) (hrecv : p.recvBuf ≤ p.maxBuf)
    {qs : List Protocol} {done : List Setting} (hdone : done <+: r.taken p qs) {q : Protocol}
    (hmax : ("max_buf", q) ∉ r.failProperties) : Within q done := by
  have hsettings : ∀ s ∈ done, s ∈ p.settingsFor s.2.2 := fun s hs =>
    mem_settingsFor_of_mem_taken p (hdone.subset hs)
  intro property _ n hn
  obtain ⟨s, hs, -, rfl, rfl⟩ := exists_of_lastSet hn
  obtain ⟨l, hl, hlimit, hq⟩ := led_taken p qs done hdone s hs hmax
  obtain ⟨m, hm⟩ := exists_lastSet hl
  rw [hlimit, hq] at hm
  obtain ⟨t, ht, hname, -, rfl⟩ := exists_of_lastSet hm
  refine ⟨_, hm, ?_⟩
  rw [value_eq_of_mem (hsettings t ht) hname]
  exact value_le_of_mem hsend hrecv (hsettings s hs)

end Recorder

/-! ## The limits of releases -/

namespace KernelVersion

/-- The components of a release, compared from the most significant one on. -/
def key (v : KernelVersion) : ℕ ×ₗ ℕ ×ₗ ℕ :=
  toLex (v.major.toNat, toLex (v.minor.toNat, v.patch.toNat))

theorem le_iff_key_le {v w : KernelVersion} : v.le w = true ↔ v.key ≤ w.key := by
  unfold key
  rw [Prod.Lex.toLex_le_toLex, Prod.Lex.toLex_le_toLex]
  dsimp only
  by_cases hmajor : v.major = w.major
  · by_cases hminor : v.minor = w.minor
    · simp [le, hmajor, hminor, UInt32.le_iff_toNat_le]
    · have hne : v.minor.toNat ≠ w.minor.toNat := mt UInt32.toNat_inj.1 hminor
      simp [le, hmajor, hminor, hne, UInt32.lt_iff_toNat_lt]
  · have hne : v.major.toNat ≠ w.major.toNat := mt UInt32.toNat_inj.1 hmajor
    simp [le, hmajor, hne, UInt32.lt_iff_toNat_lt]

end KernelVersion

namespace BufferProfile

/-- The sizes that go with a release are within its limit. -/
theorem sizes_le_maxBuf (v : KernelVersion) :
    (ofVersion v).sendBuf ≤ (ofVersion v).maxBuf ∧ (ofVersion v).recvBuf ≤ (ofVersion v).maxBuf := by
  unfold ofVersion
  dsimp only
  split <;> decide

/-- A later release has no smaller limit. -/
theorem maxBuf_mono {v w : KernelVersion} (h : v.key ≤ w.key) :
    (ofVersion v).maxBuf ≤ (ofVersion w).maxBuf := by
  have hbefore : w.before cutover = true → v.before cutover = true := by
    unfold KernelVersion.before
    rw [Bool.not_eq_true', Bool.not_eq_true', ← Bool.not_eq_true, ← Bool.not_eq_true,
      KernelVersion.le_iff_key_le, KernelVersion.le_iff_key_le]
    exact mt fun hv => hv.trans h
  unfold ofVersion
  dsimp only
  by_cases hw : w.before cutover = true
  · rw [if_pos hw, if_pos (hbefore hw)]
    exact UInt32.le_refl _
  · rw [if_neg hw]
    split <;> decide

/-- What comes of a profile over a recorder, from any journal on. -/
structure Applied (r : Recorder) (p : BufferProfile) (qs : List Protocol) (j : Journal) : Prop where
  /-- Every setting is tried, one transport after the other, whatever fails. -/
  attempted : p.apply r.bufferProperties.watched qs (j, [])
    = ((p.apply r.bufferProperties qs j).1, (p.apply r.bufferProperties qs j).2, p.attempts qs)
  /-- Those that are not refused are recorded, and nothing else is. -/
  recorded : (p.apply r.bufferProperties qs j).2 = j ++ (r.taken p qs).map Call.ofSetting
  properties : Recorder.properties (p.apply r.bufferProperties qs j).2
    = Recorder.properties j ++ (p.attempts qs).filter (!r.refuses ·)
  /-- Those that are refused are the failures. -/
  failed : (p.apply r.bufferProperties qs j).1.map PropertyFailure.setting
    = (p.attempts qs).filter r.refuses
  caused : ∀ f ∈ (p.apply r.bufferProperties qs j).1, f.cause = Recorder.settingRefusal
  /-- Each transport has three settings, and each of them is either taken or a failure. -/
  counted : (r.taken p qs).length + (p.apply r.bufferProperties qs j).1.length = 3 * qs.length

theorem applied (r : Recorder) (p : BufferProfile) (qs : List Protocol) (j : Journal) :
    Applied r p qs j := by
  obtain ⟨hrecorded, hfailed, hcaused⟩ := r.setAll_recorded (p.plan qs) j
  rw [map_asSetting_plan] at hrecorded hfailed
  have hlength := congrArg List.length hfailed
  rw [List.length_map, ← List.countP_eq_length_filter] at hlength
  refine ⟨apply_watched _ p qs j, hrecorded, ?_, hfailed, hcaused, ?_⟩
  · exact (congrArg Recorder.properties hrecorded).trans (Recorder.properties_append_ofSetting ..)
  · calc (r.taken p qs).length + (p.apply r.bufferProperties qs j).1.length
      _ = (p.attempts qs).countP (!r.refuses ·) + (p.attempts qs).countP r.refuses := by
        rw [Recorder.taken, ← List.countP_eq_length_filter]
        exact congrArg _ hlength
      _ = (p.attempts qs).length := by
        rw [List.length_eq_countP_add_countP r.refuses, Nat.add_comm]
        simp
      _ = 3 * qs.length := p.length_attempts qs

/-- Over a recorder, whichever settings it refuses, a profile is tried in full and in order, and is
told in full by what is recorded and what fails. With the limits of a release, the sizes of a
transport are within its largest limit after each setting that is recorded, unless that limit is
refused; and a later release has no smaller limit. -/
theorem apply_limits (r : Recorder) (qs : List Protocol) (j : Journal) :
    (∀ p : BufferProfile, Applied r p qs j) ∧
    (∀ (v : KernelVersion) (sets done : List Setting) (q : Protocol),
      Recorder.properties ((ofVersion v).apply r.bufferProperties qs j).2
        = Recorder.properties j ++ sets →
      done <+: sets → ("max_buf", q) ∉ r.failProperties → Recorder.Within q done) ∧
    ∀ v w : KernelVersion, v.key ≤ w.key → (ofVersion v).maxBuf ≤ (ofVersion w).maxBuf := by
  refine ⟨fun p => applied r p qs j, fun v sets done q hsets hdone hmax => ?_,
    fun _ _ => maxBuf_mono⟩
  obtain ⟨hsend, hrecv⟩ := sizes_le_maxBuf v
  rw [(applied r (ofVersion v) qs j).properties] at hsets
  obtain rfl := List.append_cancel_left hsets
  exact Recorder.within_of_prefix hsend hrecv hdone hmax

/-- Transports of which one is listed twice and of which two refuse a setting, after a setting of
its own that is too small. -/
theorem apply_limits_twice :
    let r : Recorder := { failProperties := [("max_buf", .tcp), ("send_buf", .udp)] }
    let j : Journal := [.setProperty "max_buf" "1" .udp]
    let sets : List Setting := [("send_buf", "2097152", .tcp), ("recv_buf", "2097152", .tcp),
      ("max_buf", "4194304", .udp), ("recv_buf", "2097152", .udp), ("send_buf", "2097152", .tcp),
      ("recv_buf", "2097152", .tcp)]
    (Recorder.properties ((ofVersion ⟨3, 3, 9⟩).apply r.bufferProperties [.tcp, .udp, .tcp] j).2
        = Recorder.properties j ++ sets ∧
      sets.take 4 <+: sets ∧ ("max_buf", .udp) ∉ r.failProperties) ∧
    Recorder.lastSet "recv_buf" .udp (sets.take 4) = some 2097152 ∧
    Recorder.Within .udp (sets.take 4) ∧
    (KernelVersion.key ⟨3, 3, 9⟩ ≤ KernelVersion.key ⟨3, 10, 0⟩) ∧
    (ofVersion ⟨3, 3, 9⟩).maxBuf ≤ (ofVersion ⟨3, 10, 0⟩).maxBuf := by
  intro r j sets
  have hsets : Recorder.properties
      ((ofVersion ⟨3, 3, 9⟩).apply r.bufferProperties [.tcp, .udp, .tcp] j).2
        = Recorder.properties j ++ sets := by decide +kernel
  have hdone : sets.take 4 <+: sets := List.take_prefix 4 sets
  have hmax : ("max_buf", Protocol.udp) ∉ r.failProperties := by decide
  have hkey : KernelVersion.key ⟨3, 3, 9⟩ ≤ KernelVersion.key ⟨3, 10, 0⟩ :=
    KernelVersion.le_iff_key_le.1 (by decide)
  exact ⟨⟨hsets, hdone, hmax⟩, by decide +kernel,
    (apply_limits r [.tcp, .udp, .tcp] j).2.1 ⟨3, 3, 9⟩ sets _ .udp hsets hdone hmax, hkey,
    (apply_limits r [] j).2.2 ⟨3, 3, 9⟩ ⟨3, 10, 0⟩ hkey⟩

end BufferProfile

end ZoneNet
