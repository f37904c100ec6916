import Mathlib.Data.List.Forall2
import Mathlib.Data.List.Nodup
import ZoneNet.Json.Record
import ZoneNet.Proofs.Json.Reading

/-!
# Records and their members

A record takes the members of an object in whatever order they come. Members of other names are
passed over, and a name that is known may come once.

* `takeMembers_ok` — what the members leave, if each can be put into the draft.
* `record?_of_holds` — a record is read whatever the order of its members.
* `not_repeats_of_record?` — no name that is known comes twice in an object that is read.
-/

namespace ZoneNet.Json

variable {δ : Type}

/-! ## Names -/

/-- The name of a member, if it is one of these. -/
def knownName? (names : List String) (m : Option String × Json) : Option String :=
  m.1.filter (· ∈ names)

/-- The names of members as far as they are among these, in order. -/
def knownNames (names : List String) (ms : List (Option String × Json)) : List String :=
  ms.filterMap (knownName? names)

theorem knownNames_cons_of_mem {names : List String} {name : String} (h : name ∈ names) (v : Json)
    (ms : List (Option String × Json)) :
    knownNames names ((some name, v) :: ms) = name :: knownNames names ms :=
  List.filterMap_cons_some (by simp [knownName?, Option.filter, h])

theorem knownNames_cons_of_not_mem {names : List String} {name : String} (h : name ∉ names)
    (v : Json) (ms : List (Option String × Json)) :
    knownNames names ((some name, v) :: ms) = knownNames names ms :=
  List.filterMap_cons_none (by simp [knownName?, Option.filter, h])

theorem knownNames_append (names : List String) (ms ms' : List (Option String × Json)) :
    knownNames names (ms ++ ms') = knownNames names ms ++ knownNames names ms' :=
  List.filterMap_append

/-- The names of fields. -/
def fieldNames (fields : List (RecordField δ)) : List String := fields.map (·.name)

variable {fields : List (RecordField δ)}

theorem find?_eq_none {name : String} :
    fields.find? (·.name = name) = none ↔ name ∉ fieldNames fields := by
  simp [fieldNames, List.find?_eq_none]

theorem mem_of_find?_eq_some {name : String} {field : RecordField δ}
    (h : fields.find? (·.name = name) = some field) : field.name = name ∧ name ∈ fieldNames fields := by
  have hname : field.name = name := by simpa using List.find?_some h
  exact ⟨hname, hname ▸ List.mem_map_of_mem (List.mem_of_find?_eq_some h)⟩

/-! ## Taking members -/

/-- Members can be taken into a draft that depends on the names taken so far, if the value of every
known member makes the draft go on so. -/
theorem takeMembers_ok (draft : List String → δ) {ms : List (Option String × Json)}
    (hnames : ∀ m ∈ ms, m.1.isSome = true) (hwhole : ∀ m ∈ ms, m.2.Whole)
    (hset : ∀ name v, (some name, v) ∈ ms → ∀ field, fields.find? (·.name = name) = some field →
      ∀ seen, field.set v (draft seen) = .ok (draft (name :: seen)))
    {seen : List String} (hnodup : (knownNames (fieldNames fields) ms ++ seen).Nodup) :
    takeMembers fields ms seen (draft seen)
      = .ok ((knownNames (fieldNames fields) ms).reverse ++ seen,
          draft ((knownNames (fieldNames fields) ms).reverse ++ seen)) := by
  induction ms generalizing seen with
  | nil => rfl
  | cons m ms ih =>
    obtain ⟨_ | name, v⟩ := m
    · cases hnames _ List.mem_cons_self
    have hrest : ∀ m ∈ ms, m.1.isSome = true := fun m hm => hnames m (List.mem_cons_of_mem _ hm)
    have hwholes : ∀ m ∈ ms, m.2.Whole := fun m hm => hwhole m (List.mem_cons_of_mem _ hm)
    have hsets := fun name v h => hset name v (List.mem_cons_of_mem _ h)
    unfold takeMembers
    rcases hfind : fields.find? (·.name = name) with _ | field
    · -- the value is passed over, which takes no more than that it comes to its end
      rw [knownNames_cons_of_not_mem (find?_eq_none.1 hfind)] at hnodup ⊢
      rw [hfind]
      dsimp only
      rw [if_pos (isComplete_of_whole (hwhole _ List.mem_cons_self))]
      exact ih hrest hwholes hsets hnodup
    · obtain ⟨-, hname⟩ := mem_of_find?_eq_some hfind
      rw [knownNames_cons_of_mem hname] at hnodup ⊢
      rw [List.cons_append, List.nodup_cons, List.mem_append, not_or] at hnodup
      obtain ⟨⟨hlater, hearlier⟩, hnodup⟩ := hnodup
      rw [hfind]
      dsimp only
      rw [if_neg hearlier, hset name v List.mem_cons_self field hfind]
      have htail : (knownNames (fieldNames fields) ms ++ name :: seen).Nodup := by
        rw [List.nodup_middle, List.nodup_cons, List.mem_append, not_or]
        exact ⟨⟨hlater, hearlier⟩, hnodup⟩
      dsimp only
      rw [ih hrest hwholes hsets htail, List.reverse_cons, List.append_assoc]
      rfl

/-- Members that are taken repeat no name that is known, and the values under such names can be put
into some draft. -/
theorem of_takeMembers {ms : List (Option String × Json)} {seen seen' : List String} {d d' : δ}
    (h : takeMembers fields ms seen d = .ok (seen', d')) :
    (knownNames (fieldNames fields) ms).Nodup ∧
      (∀ name ∈ knownNames (fieldNames fields) ms, name ∉ seen) ∧
      ∀ name v, (some name, v) ∈ ms → ∀ field, fields.find? (·.name = name) = some field →
        ∃ d d', field.set v d = .ok d' := by
  induction ms generalizing seen d with
  | nil => exact ⟨List.nodup_nil, nofun, nofun⟩
  | cons m ms ih =>
    obtain ⟨_ | name, v⟩ := m
    · cases h
    unfold takeMembers at h
    rcases hfind : fields.find? (·.name = name) with _ | field
    · rw [hfind] at h
      dsimp only at h
      split at h
      · obtain ⟨hnodup, hfresh, hsets⟩ := ih h
        rw [knownNames_cons_of_not_mem (find?_eq_none.1 hfind)]
        refine ⟨hnodup, hfresh, fun name' v' hm field' hfind' => ?_⟩
        rcases List.mem_cons.1 hm with heq | hm
        · cases heq
          rw [hfind] at hfind'
          cases hfind'
        · exact hsets name' v' hm field' hfind'
      · cases h
    · rw [hfind] at h
      dsimp only at h
      split at h
      · cases h
      · next hearlier =>
        rcases hset : field.set v d with e | d₁
        · rw [hset] at h
          cases h
        rw [hset] at h
        obtain ⟨hnodup, hfresh, hsets⟩ := ih h
        rw [knownNames_cons_of_mem (mem_of_find?_eq_some hfind).2]
        refine ⟨List.nodup_cons.2 ⟨fun hmem => hfresh name hmem List.mem_cons_self, hnodup⟩, ?_, ?_⟩
        · intro name' hmem
          rcases List.mem_cons.1 hmem with rfl | hmem
          · exact hearlier
          · exact fun hseen => hfresh name' hmem (List.mem_cons_of_mem _ hseen)
        · intro name' v' hm field' hfind'
          rcases List.mem_cons.1 hm with heq | hm
          · cases heq
            rw [hfind] at hfind'
            cases hfind'
            exact ⟨d, d₁, hset⟩
          · exact hsets name' v' hm field' hfind'

/-! ## Records -/

/-- The members of an object are these, in any order, and others under names that are not among
the given ones. -/
def Holds (names : List String) (known : List (String × Json)) (ms : List (Option String × Json)) :
    Prop :=
  ∃ extras, ms.Perm (known.map (fun m => (some m.1, m.2)) ++ extras) ∧
    ∀ m ∈ extras, ∃ name, m.1 = some name ∧ name ∉ names

/-- An object may hold nothing else. -/
theorem holds_map (names : List String) (known : List (String × Json)) :
    Holds names known (known.map fun m => (some m.1, m.2)) :=
  ⟨[], by rw [List.append_nil], nofun⟩

theorem Holds.names {names : List String} {known : List (String × Json)}
    {ms : List (Option String × Json)} (h : Holds names known ms)
    (hknown : ∀ m ∈ known, m.1 ∈ names) : (knownNames names ms).Perm (known.map Prod.fst) := by
  obtain ⟨extras, hperm, hextras⟩ := h
  have hnone : extras.filterMap (knownName? names) = [] := by
    rw [List.filterMap_eq_nil_iff]
    intro m hm
    obtain ⟨name, hname, hout⟩ := hextras m hm
    simp [knownName?, hname, Option.filter, hout]
  have hall : (known.map fun m => (some m.1, m.2)).filterMap (knownName? names)
      = known.map Prod.fst := by
    rw [List.filterMap_map, ← List.filterMap_eq_map]
    refine List.filterMap_congr fun m hm => ?_
    simp [knownName?, Option.filter, hknown m hm]
  have hfilter := hperm.filterMap (knownName? names)
  rwa [List.filterMap_append, hall, hnone, List.append_nil] at hfilter

theorem Holds.whole {names : List String} {known : List (String × Json)}
    {ms : List (Option String × Json)} (h : Holds names known ms) (hwhole : Whole (.object ms))
    {name : String} {v : Json} (hm : (name, v) ∈ known) : v.Whole := by
  obtain ⟨extras, hperm, -⟩ := h
  have hmem : (some name, v) ∈ known.map fun m => (some m.1, m.2) :=
    List.mem_map_of_mem (f := fun m : String × Json => (some m.1, m.2)) hm
  exact whole_object.1 hwhole _ (hperm.mem_iff.2 (List.mem_append_left _ hmem))

/-- A record is read from an object whatever the order of its members, and whatever else the object
holds under other names. -/
theorem record?_of_holds (draft : List String → δ) {target : δ} {known : List (String × Json)}
    {ms : List (Option String × Json)} (hms : Holds (fieldNames fields) known ms)
    (hwhole : Whole (.object ms)) (hnodup : (known.map Prod.fst).Nodup)
    (hset : ∀ m ∈ known, ∃ field, fields.find? (·.name = m.1) = some field ∧
      ∀ seen, field.set m.2 (draft seen) = .ok (draft (m.1 :: seen)))
    (hneeded : ∀ field ∈ fields, field.required = true → field.name ∈ known.map Prod.fst)
    (htarget : ∀ seen : List String, (∀ m ∈ known, m.1 ∈ seen) → draft seen = target) :
    record? fields (draft []) (.object ms) = .ok target := by
  have hnames := hms.names fun m hm => by
    obtain ⟨field, hfind, -⟩ := hset m hm
    exact (mem_of_find?_eq_some hfind).2
  obtain ⟨extras, hperm, hextras⟩ := hms
  have htexts : ∀ m ∈ ms, m.1.isSome = true := by
    intro m hm
    rcases List.mem_append.1 (hperm.mem_iff.1 hm) with hm | hm
    · obtain ⟨m', -, rfl⟩ := List.mem_map.1 hm
      rfl
    · obtain ⟨name, hname, -⟩ := hextras m hm
      rw [hname]
      rfl
  have hsets : ∀ name v, (some name, v) ∈ ms → ∀ field, fields.find? (·.name = name) = some field →
      ∀ seen, field.set v (draft seen) = .ok (draft (name :: seen)) := by
    intro name v hm field hfind
    rcases List.mem_append.1 (hperm.mem_iff.1 hm) with hm | hm
    · obtain ⟨⟨name', v'⟩, hm', heq⟩ := List.mem_map.1 hm
      cases heq
      obtain ⟨field', hfind', hgoes⟩ := hset _ hm'
      rw [hfind] at hfind'
      cases hfind'
      exact hgoes
    · obtain ⟨name', hname', hout⟩ := hextras _ hm
      cases hname'
      exact absurd (mem_of_find?_eq_some hfind).2 hout
  have hfresh : (knownNames (fieldNames fields) ms ++ []).Nodup := by
    rw [List.append_nil]
    exact hnames.nodup_iff.2 hnodup
  have htake := takeMembers_ok draft htexts (whole_object.1 hwhole) hsets hfresh
  have hseen : ∀ name, name ∈ (knownNames (fieldNames fields) ms).reverse ++ [] ↔
      name ∈ known.map Prod.fst := by
    intro name
    rw [List.append_nil, List.mem_reverse]
    exact hnames.mem_iff
  have hmissing : missing? fields ((knownNames (fieldNames fields) ms).reverse ++ []) = none := by
    unfold missing?
    rw [Option.map_eq_none_iff, List.find?_eq_none]
    intro field hfield hmiss
    simp only [decide_eq_true_eq] at hmiss
    exact hmiss.2 ((hseen field.name).2 (hneeded field hfield hmiss.1))
  have hfilled := htarget _ fun m hm => (hseen m.1).2 (List.mem_map_of_mem hm)
  simp only [record?, htake, hmissing, hfilled]

/-! ## Entries -/

/-- What a record has for a field: one member, or none where the value is the default. -/
inductive Entry {α : Type} (name : String) (R : α → Json → Prop) (default : Option α) :
    α → List (String × Json) → Prop where
  | given {a : α} {v : Json} (h : R a v) : Entry name R default a [(name, v)]
  | absent {a : α} (h : default = some a) : Entry name R default a []

namespace Entry

variable {α : Type} {name : String} {R : α → Json → Prop} {default : Option α} {a : α}
  {ms : List (String × Json)}

theorem of_mem (h : Entry name R default a ms) {m : String × Json} (hm : m ∈ ms) :
    m.1 = name ∧ R a m.2 := by
  cases h with
  | given h =>
    obtain rfl := List.mem_singleton.1 hm
    exact ⟨rfl, h⟩
  | absent => cases hm

theorem sublist (h : Entry name R default a ms) : (ms.map Prod.fst).Sublist [name] := by
  cases h with
  | given => exact List.Sublist.refl _
  | absent => exact List.nil_sublist _

/-- A draft has the value once its members are taken, if there are any. -/
theorem filled (h : Entry name R default a ms) {seen : List String} (hseen : ∀ m ∈ ms, m.1 ∈ seen)
    {d : α} (hd : ∀ x ∈ default, x = d) : (if name ∈ seen then a else d) = a := by
  cases h with
  | given => rw [if_pos (hseen _ List.mem_cons_self)]
  | absent h => rw [hd a h, ite_self]

/-- What has no default is given. -/
theorem mem_of_needed (h : Entry name R none a ms) : name ∈ ms.map Prod.fst := by
  cases h with
  | given => exact List.mem_cons_self
  | absent h => cases h

end Entry

/-! ## Values -/

def IsText (s : String) (v : Json) : Prop := v = .string (some s)

/-- A text that may be given as `null` where there is none. -/
def IsOptionalText (o : Option String) (v : Json) : Prop :=
  match o with
  | some s => v = .string (some s)
  | none => v = .null

/-- A list, each member of which is given so. -/
def IsList {α : Type} (R : α → Json → Prop) (l : List α) (v : Json) : Prop :=
  ∃ items, v = .array items ∧ List.Forall₂ R l items

theorem optionalText?_of_isOptionalText {o : Option String} {v : Json} (h : IsOptionalText o v) :
    v.optionalText? = .ok o := by
  rcases o with _ | s
  · cases h
    rfl
  · cases h
    rfl

theorem list?_of_isList {α : Type} {R : α → Json → Prop} {f : Json → Except DocumentFault α}
    {l : List α} {v : Json} (h : IsList R l v) (hwhole : v.Whole)
    (hone : ∀ a v, R a v → v.Whole → f v = .ok a) : v.list? f = .ok l := by
  obtain ⟨items, rfl, hitems⟩ := h
  have hwholes := whole_array.1 hwhole
  show items.mapM f = .ok l
  clear hwhole
  induction hitems with
  | nil => rfl
  | cons hfirst _ ih =>
    rw [List.mapM_cons, hone _ _ hfirst (hwholes _ List.mem_cons_self),
      ih fun v hv => hwholes v (List.mem_cons_of_mem _ hv)]
    rfl

/-- The items of a list that is read are read. -/
theorem of_list? {α : Type} {f : Json → Except DocumentFault α} {items : List Json} {l : List α}
    (h : (Json.array items).list? f = .ok l) {v : Json} (hv : v ∈ items) : ∃ a, f v = .ok a := by
  change items.mapM f = .ok l at h
  induction items generalizing l with
  | nil => cases hv
  | cons v' items ih =>
    rw [List.mapM_cons] at h
    rcases hfirst : f v' with e | a
    · rw [hfirst] at h
      cases h
    rcases hrest : items.mapM f with e | l'
    · rw [hfirst, hrest] at h
      cases h
    rcases List.mem_cons.1 hv with rfl | hv
    · exact ⟨a, hfirst⟩
    · exact ih hv hrest

/-! ## Repeated names -/

/-- An object with a second member under one of these names. -/
def Repeats (names : List String) (v : Json) : Prop :=
  ∃ name ∈ names, ∃ before u between w behind,
    v = .object (before ++ (some name, u) :: (between ++ (some name, w) :: behind))

/-- A value is an item of the array that an object holds under a name. -/
def ItemUnder (name : String) (item v : Json) : Prop :=
  ∃ ms items, v = .object ms ∧ (some name, .array items) ∈ ms ∧ item ∈ items

theorem of_record? {ms : List (Option String × Json)} {draft d : δ}
    (h : record? fields draft (.object ms) = .ok d) :
    ∃ seen d', takeMembers fields ms [] draft = .ok (seen, d') := by
  unfold record? at h
  rcases htake : takeMembers fields ms [] draft with e | ⟨seen, d'⟩
  · simp only [htake] at h
    cases h
  · exact ⟨seen, d', rfl⟩

/-- An object that is read repeats no name that is known. -/
theorem not_repeats_of_record? {v : Json} {draft d : δ} (h : record? fields draft v = .ok d) :
    ¬Repeats (fieldNames fields) v := by
  rintro ⟨name, hname, before, u, between, w, behind, rfl⟩
  obtain ⟨seen, d', htake⟩ := of_record? h
  obtain ⟨hnodup, -, -⟩ := of_takeMembers htake
  rw [knownNames_append, knownNames_cons_of_mem hname, knownNames_append,
    knownNames_cons_of_mem hname] at hnodup
  have hbehind := (List.nodup_cons.1 (List.nodup_append.1 hnodup).2.1).1
  exact hbehind (List.mem_append_right _ List.mem_cons_self)

/-- The items that an object which is read holds under a name are read, if the field of that name
puts a list of such items into the record. -/
theorem of_itemUnder {α : Type} {f : Json → Except DocumentFault α} (put : List α → δ → δ)
    {name : String} {item v : Json} {draft d : δ} (h : record? fields draft v = .ok d)
    (hitem : ItemUnder name item v) {required : Bool}
    (hfind : fields.find? (·.name = name)
      = some ⟨name, required, fun v d => do return put (← v.list? f) d⟩) :
    ∃ a, f item = .ok a := by
  obtain ⟨ms, items, rfl, hm, hmem⟩ := hitem
  obtain ⟨seen, d', htake⟩ := of_record? h
  obtain ⟨-, -, hsets⟩ := of_takeMembers htake
  obtain ⟨d₁, d₂, hset⟩ := hsets name _ hm _ hfind
  rcases hlist : (Json.array items).list? f with e | l
  · simp only [hlist] at hset
    cases hset
  · exact of_list? hlist hmem

end ZoneNet.Json
