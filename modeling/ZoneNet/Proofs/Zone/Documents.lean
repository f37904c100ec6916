import ZoneNet.Proofs.Json.Members
import ZoneNet.Proofs.Json.Writing
import ZoneNet.Proofs.Text.Utf8Codec
import ZoneNet.Zone.Document

/-!
# Documents of zones

A zone is given by nested objects. The members of each may come in any order, among others under
names that are no fields, and some may be left out where the value is the default.

* `Attr.ofJson?_of_renders`, `Net.ofJson?_of_renders`, `Zone.ofJson?_of_renders` — a record is read
  from every value that renders it.
* `Attr.not_doubled`, `Net.not_doubled`, `Zone.not_doubled` — a record that is read has no name
  twice.
* `Zone.load_write` — every zone has a document.
* `Zone.load_document` — a document of a zone is loaded as that zone, and one with a name twice is
  not loaded.
-/

namespace ZoneNet

open Json Text

/-! ## What renders a zone -/

def Attr.names : List String := ["name", "value"]

def Net.names : List String := ["physical", "allowed_address", "defrouter", "attrs"]

def Zone.names : List String := ["zonename", "ip_type", "attrs", "nets"]

/-- An object with the name and the value of an attribute. -/
def Attr.Renders (a : Attr) (v : Json) : Prop :=
  ∃ ms name value, v = .object ms ∧
    Entry "name" IsText none a.name name ∧
    Entry "value" IsText none a.value value ∧
    Holds names (name ++ value) ms

/-- An object for a network resource. The overrides may be left out or `null` if there are none, and
the attributes may be left out if there are none. -/
def Net.Renders (n : Net) (v : Json) : Prop :=
  ∃ ms physical allowed router attrs, v = .object ms ∧
    Entry "physical" IsText none n.physical physical ∧
    Entry "allowed_address" IsOptionalText (some none) n.allowedAddress allowed ∧
    Entry "defrouter" IsOptionalText (some none) n.defaultRouter router ∧
    Entry "attrs" (IsList Attr.Renders) (some []) n.attrs attrs ∧
    Holds names (physical ++ allowed ++ router ++ attrs) ms

/-- An object for a zone. The stack mode may be left out if it is the exclusive one, and the lists
if they are empty. -/
def Zone.Renders (z : Zone) (v : Json) : Prop :=
  ∃ ms zonename ipType attrs nets, v = .object ms ∧
    Entry "zonename" IsText none z.name zonename ∧
    Entry "ip_type" IsText (some "exclusive") z.ipType ipType ∧
    Entry "attrs" (IsList Attr.Renders) (some []) z.attrs attrs ∧
    Entry "nets" (IsList Net.Renders) (some []) z.nets nets ∧
    Holds names (zonename ++ ipType ++ attrs ++ nets) ms

/-- The draft of an attribute once the members of these names are taken. -/
def Attr.partly (a : Attr) (seen : List String) : Attr where
  name := if "name" ∈ seen then a.name else ""
  value := if "value" ∈ seen then a.value else ""

/-- The draft of a network resource once the members of these names are taken. -/
def Net.partly (n : Net) (seen : List String) : Net where
  physical := if "physical" ∈ seen then n.physical else ""
  allowedAddress := if "allowed_address" ∈ seen then n.allowedAddress else none
  defaultRouter := if "defrouter" ∈ seen then n.defaultRouter else none
  attrs := if "attrs" ∈ seen then n.attrs else []

/-- The draft of a zone once the members of these names are taken. -/
def Zone.partly (z : Zone) (seen : List String) : Zone where
  name := if "zonename" ∈ seen then z.name else ""
  ipType := if "ip_type" ∈ seen then z.ipType else "exclusive"
  attrs := if "attrs" ∈ seen then z.attrs else []
  nets := if "nets" ∈ seen then z.nets else []

theorem Attr.ofJson?_of_renders {a : Attr} {v : Json} (h : a.Renders v) (hv : v.Whole) :
    Attr.ofJson? v = .ok a := by
  obtain ⟨ms, name, value, rfl, hname, hvalue, hms⟩ := h
  refine record?_of_holds a.partly hms hv ?_ ?_ ?_ ?_
  · rw [List.map_append]
    exact (hname.sublist.append hvalue.sublist).nodup (by decide)
  · rintro ⟨k, v⟩ hm
    rcases List.mem_append.1 hm with hm | hm
    · obtain ⟨rfl, rfl⟩ := hname.of_mem hm
      exact ⟨fields[0], rfl, fun seen => by simp [fields, partly, text?]⟩
    · obtain ⟨rfl, rfl⟩ := hvalue.of_mem hm
      exact ⟨fields[1], rfl, fun seen => by simp [fields, partly, text?]⟩
  · simp [fields, -List.mem_map, hname.mem_of_needed, hvalue.mem_of_needed]
  · intro seen hseen
    obtain ⟨h₁, h₂⟩ := List.forall_mem_append.1 hseen
    unfold partly
    rw [hname.filled h₁ (by simp), hvalue.filled h₂ (by simp)]

theorem Net.ofJson?_of_renders {n : Net} {v : Json} (h : n.Renders v) (hv : v.Whole) :
    Net.ofJson? v = .ok n := by
  obtain ⟨ms, physical, allowed, router, attrs, rfl, hphysical, hallowed, hrouter, hattrs, hms⟩ := h
  refine record?_of_holds n.partly hms hv ?_ ?_ ?_ ?_
  · simp only [List.map_append]
    exact (((hphysical.sublist.append hallowed.sublist).append hrouter.sublist).append
      hattrs.sublist).nodup (by decide)
  · rintro ⟨k, v⟩ hm
    have hwhole := hms.whole hv hm
    simp only [List.mem_append] at hm
    rcases hm with ((hm | hm) | hm) | hm
    · obtain ⟨rfl, rfl⟩ := hphysical.of_mem hm
      exact ⟨fields[0], rfl, fun seen => by simp [fields, partly, text?]⟩
    · obtain ⟨rfl, hvalue⟩ := hallowed.of_mem hm
      have htext := optionalText?_of_isOptionalText hvalue
      exact ⟨fields[1], rfl, fun seen => by simp [fields, partly, htext]⟩
    · obtain ⟨rfl, hvalue⟩ := hrouter.of_mem hm
      have htext := optionalText?_of_isOptionalText hvalue
      exact ⟨fields[2], rfl, fun seen => by simp [fields, partly, htext]⟩
    · obtain ⟨rfl, hvalue⟩ := hattrs.of_mem hm
      have hlist := list?_of_isList hvalue hwhole fun _ _ => Attr.ofJson?_of_renders
      exact ⟨fields[3], rfl, fun seen => by simp [fields, partly, hlist]⟩
  · simp [fields, -List.mem_map, hphysical.mem_of_needed]
  · intro seen hseen
    simp only [List.forall_mem_append] at hseen
    obtain ⟨⟨⟨h₁, h₂⟩, h₃⟩, h₄⟩ := hseen
    unfold partly
    rw [hphysical.filled h₁ (by simp), hallowed.filled h₂ (by simp), hrouter.filled h₃ (by simp),
      hattrs.filled h₄ (by simp)]

theorem Zone.ofJson?_of_renders {z : Zone} {v : Json} (h : z.Renders v) (hv : v.Whole) :
    Zone.ofJson? v = .ok z := by
  obtain ⟨ms, zonename, ipType, attrs, nets, rfl, hzonename, hipType, hattrs, hnets, hms⟩ := h
  refine record?_of_holds z.partly hms hv ?_ ?_ ?_ ?_
  · simp only [List.map_append]
    exact (((hzonename.sublist.append hipType.sublist).append hattrs.sublist).append
      hnets.sublist).nodup (by decide)
  · rintro ⟨k, v⟩ hm
    have hwhole := hms.whole hv hm
    simp only [List.mem_append] at hm
    rcases hm with ((hm | hm) | hm) | hm
    · obtain ⟨rfl, rfl⟩ := hzonename.of_mem hm
      exact ⟨fields[0], rfl, fun seen => by simp [fields, partly, text?]⟩
    · obtain ⟨rfl, rfl⟩ := hipType.of_mem hm
      exact ⟨fields[1], rfl, fun seen => by simp [fields, partly, text?]⟩
    · obtain ⟨rfl, hvalue⟩ := hattrs.of_mem hm
      have hlist := list?_of_isList hvalue hwhole fun _ _ => Attr.ofJson?_of_renders
      exact ⟨fields[2], rfl, fun seen => by simp [fields, partly, hlist]⟩
    · obtain ⟨rfl, hvalue⟩ := hnets.of_mem hm
      have hlist := list?_of_isList hvalue hwhole fun _ _ => Net.ofJson?_of_renders
      exact ⟨fields[3], rfl, fun seen => by simp [fields, partly, hlist]⟩
  · simp [fields, -List.mem_map, hzonename.mem_of_needed]
  · intro seen hseen
    simp only [List.forall_mem_append] at hseen
    obtain ⟨⟨⟨h₁, h₂⟩, h₃⟩, h₄⟩ := hseen
    unfold partly
    rw [hzonename.filled h₁ (by simp), hipType.filled h₂ (by simp), hattrs.filled h₃ (by simp),
      hnets.filled h₄ (by simp)]

/-! ## Names that come twice -/

/-- An attribute with a second member under one of its names. -/
def Attr.Doubled (v : Json) : Prop := Repeats names v

/-- A network resource with a second member under one of its names, or with such an attribute. -/
def Net.Doubled (v : Json) : Prop :=
  Repeats names v ∨ ∃ item, ItemUnder "attrs" item v ∧ Attr.Doubled item

/-- A zone with a second member under one of its names, or with such an attribute or network
resource. -/
def Zone.Doubled (v : Json) : Prop :=
  Repeats names v ∨ (∃ item, ItemUnder "attrs" item v ∧ Attr.Doubled item) ∨
    ∃ item, ItemUnder "nets" item v ∧ Net.Doubled item

theorem Attr.not_doubled {a : Attr} {v : Json} (h : Attr.ofJson? v = .ok a) : ¬Doubled v :=
  not_repeats_of_record? h

theorem Net.not_doubled {n : Net} {v : Json} (h : Net.ofJson? v = .ok n) : ¬Doubled v := by
  rintro (hrepeats | ⟨item, hitem, hdoubled⟩)
  · exact not_repeats_of_record? h hrepeats
  · obtain ⟨a, ha⟩ := of_itemUnder (fun l d => { d with attrs := l }) h hitem rfl
    exact Attr.not_doubled ha hdoubled

theorem Zone.not_doubled {z : Zone} {v : Json} (h : Zone.ofJson? v = .ok z) : ¬Doubled v := by
  rintro (hrepeats | ⟨item, hitem, hdoubled⟩ | ⟨item, hitem, hdoubled⟩)
  · exact not_repeats_of_record? h hrepeats
  · obtain ⟨a, ha⟩ := of_itemUnder (fun l d => { d with attrs := l }) h hitem rfl
    exact Attr.not_doubled ha hdoubled
  · obtain ⟨n, hn⟩ := of_itemUnder (fun l d => { d with nets := l }) h hitem rfl
    exact Net.not_doubled hn hdoubled

/-! ## Loading -/

/-- What a file comes to that holds a document of a value. -/
theorem Zone.load_of_document {v : Json} {text : List Char} (h : v.Document text) :
    Zone.load (.ok (Utf8.encode (String.ofList text)))
      = (Zone.ofJson? v).mapError LoadFault.document := by
  have hdecode : Utf8.decode (Utf8.encode (String.ofList text)) = .ok text :=
    Utf8.decode_eq_ok_iff.2 rfl
  simp only [load, hdecode, ofText?, h.read]
  rcases Zone.ofJson? v with e | z
  · rfl
  · rfl

/-! ## Every zone has a document -/

/-- The members of an attribute. -/
def Attr.members (a : Attr) : List (String × Json) :=
  [("name", .string (some a.name)), ("value", .string (some a.value))]

def Attr.toJson (a : Attr) : Json := .object (a.members.map fun m => (some m.1, m.2))

/-- A text, or `null` where there is none. -/
def optionalToJson : Option String → Json
  | some s => .string (some s)
  | none => .null

/-- The members of a network resource, with none left out. -/
def Net.members (n : Net) : List (String × Json) :=
  [("physical", .string (some n.physical)), ("allowed_address", optionalToJson n.allowedAddress),
    ("defrouter", optionalToJson n.defaultRouter), ("attrs", .array (n.attrs.map Attr.toJson))]

def Net.toJson (n : Net) : Json := .object (n.members.map fun m => (some m.1, m.2))

/-- The members of a zone, with none left out. -/
def Zone.members (z : Zone) : List (String × Json) :=
  [("zonename", .string (some z.name)), ("ip_type", .string (some z.ipType)),
    ("attrs", .array (z.attrs.map Attr.toJson)), ("nets", .array (z.nets.map Net.toJson))]

def Zone.toJson (z : Zone) : Json := .object (z.members.map fun m => (some m.1, m.2))

theorem isOptionalText_optionalToJson (o : Option String) : IsOptionalText o (optionalToJson o) := by
  cases o with
  | none => rfl
  | some s => rfl

theorem whole_string (s : Option String) : Whole (.string s) := by
  simp [Whole, lexemes]

theorem whole_optionalToJson (o : Option String) : (optionalToJson o).Whole := by
  cases o with
  | none => simp [optionalToJson, Whole, lexemes]
  | some s => exact whole_string _

theorem isList_map {α : Type} {R : α → Json → Prop} {f : α → Json} (h : ∀ a, R a (f a)) (l : List α) :
    IsList R l (.array (l.map f)) :=
  ⟨_, rfl, List.forall₂_map_right_iff.2 (List.forall₂_same.2 fun a _ => h a)⟩

theorem whole_array_map {α : Type} {f : α → Json} (h : ∀ a, (f a).Whole) (l : List α) :
    Whole (.array (l.map f)) :=
  whole_array.2 (List.forall_mem_map.2 fun a _ => h a)

theorem Attr.renders_toJson (a : Attr) : a.Renders a.toJson :=
  ⟨_, _, _, rfl, .given rfl, .given rfl, holds_map _ _⟩

theorem Attr.whole_toJson (a : Attr) : a.toJson.Whole := by
  refine whole_object.2 ?_
  simp [members, whole_string]

theorem Net.renders_toJson (n : Net) : n.Renders n.toJson :=
  ⟨_, _, _, _, _, rfl, .given rfl, .given (isOptionalText_optionalToJson _),
    .given (isOptionalText_optionalToJson _), .given (isList_map Attr.renders_toJson _),
    holds_map _ _⟩

theorem Net.whole_toJson (n : Net) : n.toJson.Whole := by
  refine whole_object.2 ?_
  simp [members, whole_string, whole_optionalToJson, whole_array_map Attr.whole_toJson]

theorem Zone.renders_toJson (z : Zone) : z.Renders z.toJson :=
  ⟨_, _, _, _, _, rfl, .given rfl, .given rfl, .given (isList_map Attr.renders_toJson _),
    .given (isList_map Net.renders_toJson _), holds_map _ _⟩

theorem Zone.whole_toJson (z : Zone) : z.toJson.Whole := by
  refine whole_object.2 ?_
  simp [members, whole_string, whole_array_map Attr.whole_toJson, whole_array_map Net.whole_toJson]

/-- Every zone is what some document is loaded as: the one that leaves nothing out. -/
theorem Zone.load_write (z : Zone) :
    Zone.load (.ok (Utf8.encode (String.ofList z.toJson.write))) = .ok z := by
  rw [load_of_document (document_write z.whole_toJson),
    ofJson?_of_renders z.renders_toJson z.whole_toJson]
  rfl

/-! ## All documents -/

/-- A document that renders a zone is loaded as just that zone. A document with a second member
under one name of a field is not loaded, be it in the zone, in a network resource or in an
attribute. -/
theorem Zone.load_document {v : Json} {text : List Char} (h : v.Document text) :
    (∀ z : Zone, z.Renders v → Zone.load (.ok (Utf8.encode (String.ofList text))) = .ok z) ∧
      (Zone.Doubled v →
        ∃ fault, Zone.load (.ok (Utf8.encode (String.ofList text))) = .error (.document fault)) := by
  rw [load_of_document h]
  refine ⟨fun z hz => ?_, fun hdoubled => ?_⟩
  · rw [ofJson?_of_renders hz h.whole]
    rfl
  · rcases hread : Zone.ofJson? v with e | z
    · exact ⟨e, rfl⟩
    · exact absurd hdoubled (not_doubled hread)

/-- The members come last first, one of them with half a surrogate pair under a name that is no
field; the stack mode and the attributes of the zone are left out. With the first member once more
at the end, the document is not loaded. -/
theorem Zone.load_document_reversed :
    let ips : Json :=
      .object [(some "value", .string (some "dhcp")), (some "name", .string (some "ips"))]
    let net : Json := .object [(some "mtu", .number false), (some "attrs", .array [ips]),
      (some "defrouter", .null), (some "physical", .string (some "net\"0"))]
    let members := [(some "brand", Json.string none), (some "nets", .array [net]),
      (some "zonename", .string (some "z\n"))]
    let v : Json := .object members
    let doubled : Json := .object (members ++ [(some "nets", .null)])
    let z : Zone := { name := "z\n", nets := [{ physical := "net\"0", attrs := [⟨"ips", "dhcp"⟩] }] }
    v.Document v.write ∧ z.Renders v ∧
      Zone.load (.ok (Utf8.encode (String.ofList v.write))) = .ok z ∧
      doubled.Document doubled.write ∧ Zone.Doubled doubled ∧
      ∃ fault, Zone.load (.ok (Utf8.encode (String.ofList doubled.write)))
        = .error (.document fault) := by
  intro ips net members v doubled z
  have hips : Attr.Renders ⟨"ips", "dhcp"⟩ ips :=
    ⟨_, _, _, rfl, .given rfl, .given rfl, [], (List.reverse_perm [_, _]).symm, nofun⟩
  have hnet : Net.Renders { physical := "net\"0", attrs := [⟨"ips", "dhcp"⟩] } net :=
    ⟨_, _, _, _, _, rfl, .given rfl, .absent rfl, .given rfl, .given ⟨_, rfl, .cons hips .nil⟩,
      [(some "mtu", .number false)], List.reverse_perm [_, _, _, _], by simp [Net.names]⟩
  have hz : z.Renders v :=
    ⟨_, _, _, _, _, rfl, .given rfl, .absent rfl, .absent rfl, .given ⟨_, rfl, .cons hnet .nil⟩,
      [(some "brand", .string none)], List.reverse_perm [_, _, _], by simp [names]⟩
  have hdocument : v.Document v.write :=
    document_write (by simp [Whole, lexemes, moreItems, moreMembers, v, members, net, ips])
  have hdoubling : doubled.Document doubled.write :=
    document_write (by simp [Whole, lexemes, moreItems, moreMembers, doubled, members, net, ips])
  have hdoubled : Zone.Doubled doubled :=
    .inl ⟨"nets", by decide, [(some "brand", .string none)], _, [(some "zonename", _)], _, [], rfl⟩
  exact ⟨hdocument, hz, (load_document hdocument).1 z hz, hdoubling, hdoubled,
    (load_document hdoubling).2 hdoubled⟩

end ZoneNet
