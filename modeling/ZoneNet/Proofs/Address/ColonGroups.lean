import ZoneNet.Address.IPv6
import ZoneNet.Proofs.Address.DottedQuad

/-!
# The grammar of IPv6 addresses

An address is spelled as eight groups with colons between, or as fewer of them on the two sides of
one `::`, which stands for the groups of zero that are left out. The last two groups of the text may
be a dotted IPv4 address.

* `groups?_eq_some_iff` — the groups on one side of `::` are read as they are spelled.
* `ofText?_eq_some_iff` — a text is read as an address just when it spells that address.
-/

namespace ZoneNet.IPv6

open Text

/-- Groups with colons between, at least one of them; where `dotted` allows it, an IPv4 address may
stand for the last two. -/
inductive Groups (dotted : Bool) : List Char → List UInt16 → Prop where
  | last {p : List Char} {g : UInt16} (hgroup : group? p = some g) : Groups dotted p [g]
  | quad (ip : IPv4) (hdotted : dotted = true) : Groups dotted ip.toText (ofIPv4 ip)
  | cons {p l : List Char} {g : UInt16} {gs : List UInt16} (hgroup : group? p = some g)
      (hrest : Groups dotted l gs) : Groups dotted (p ++ ':' :: l) (g :: gs)

/-- One side of `::`, on which there may be no groups. -/
def Side (dotted : Bool) (l : List Char) (gs : List UInt16) : Prop :=
  (l = [] ∧ gs = []) ∨ Groups dotted l gs

/-- The spellings of an address. -/
inductive Spells : List Char → IPv6 → Prop where
  | whole {l : List Char} {ip : IPv6} (hgroups : Groups true l ip.groups) : Spells l ip
  | double {a b : List Char} {gs hs : List UInt16} {ip : IPv6} (hleft : Side false a gs)
      (hright : Side true b hs) (hfew : gs.length + hs.length ≤ 7)
      (hip : ip.groups = gs ++ List.replicate (8 - gs.length - hs.length) 0 ++ hs) :
      Spells (a ++ ':' :: ':' :: b) ip

/-! ## Groups -/

theorem hex_of_mapM {l : List Char} {ds : List Nat} (h : l.mapM hexValue? = some ds) :
    ∀ c ∈ l, hexValue? c ≠ none := by
  induction l generalizing ds with
  | nil => simp
  | cons c l ih =>
    simp only [List.mapM_cons, Option.bind_eq_bind, Option.bind_eq_some_iff] at h
    obtain ⟨d, hd, ds', hds', -⟩ := h
    intro x hx
    rcases List.mem_cons.1 hx with rfl | hx
    · simp [hd]
    · exact ih hds' x hx

variable {p l : List Char} {g : UInt16} {gs : List UInt16} {dotted : Bool}

/-- A group is a text of hexadecimal digits that is not empty. -/
theorem hex_of_group? (h : group? p = some g) : p ≠ [] ∧ ∀ c ∈ p, hexValue? c ≠ none := by
  unfold group? at h
  split at h
  · cases h
  · next hshort =>
    obtain ⟨ds, hds, -⟩ := Option.map_eq_some_iff.1 h
    exact ⟨fun hp => hshort (Or.inl hp), hex_of_mapM hds⟩

theorem colon_not_mem_of_group? (h : group? p = some g) : ':' ∉ p := fun hm =>
  (hex_of_group? h).2 ':' hm (by decide)

/-- A dotted address is no group: it holds a dot. -/
theorem group?_toText (ip : IPv4) : group? ip.toText = none := by
  rcases h : group? ip.toText with _ | g
  · rfl
  · have hdot : '.' ∈ ip.toText := by simp [IPv4.toText, IPv4.octets, join]
    exact absurd (by decide) ((hex_of_group? h).2 '.' hdot)

theorem colon_not_mem_toText (ip : IPv4) : ':' ∉ ip.toText :=
  ip.not_mem_toText (by decide) (by decide)

/-! ## Groups with colons between -/

/-- Groups are spelled with a first character, and that is no colon. -/
theorem Groups.head (h : Groups dotted l gs) : ∃ c r, l = c :: r ∧ c ≠ ':' := by
  have hfirst {p : List Char} (hne : p ≠ []) (hcolon : ':' ∉ p) (r : List Char) :
      ∃ c r', p ++ r = c :: r' ∧ c ≠ ':' := by
    obtain ⟨c, p', rfl⟩ := List.exists_cons_of_ne_nil hne
    exact ⟨c, p' ++ r, rfl, fun hc => hcolon (hc ▸ List.mem_cons_self)⟩
  cases h with
  | last hgroup =>
    simpa using hfirst (hex_of_group? hgroup).1 (colon_not_mem_of_group? hgroup) []
  | quad ip =>
    have hne : ip.toText ≠ [] := by simp [IPv4.toText, IPv4.octets, join]
    simpa using hfirst hne (colon_not_mem_toText ip) []
  | cons hgroup => exact hfirst (hex_of_group? hgroup).1 (colon_not_mem_of_group? hgroup) _

theorem Groups.ne_nil (h : Groups dotted l gs) : l ≠ [] := by
  obtain ⟨c, r, rfl, -⟩ := h.head
  exact List.cons_ne_nil c r

/-- Pieces that are read as groups spell them. -/
theorem groups_of_groupsOfPieces? {ps : List (List Char)} (hne : ps ≠ [])
    (h : groupsOfPieces? dotted ps = some gs) : Groups dotted (join ':' ps) gs := by
  induction ps generalizing gs with
  | nil => exact absurd rfl hne
  | cons p ps ih =>
    cases ps with
    | nil =>
      show Groups dotted p gs
      rcases hg : group? p with _ | g
      · simp only [groupsOfPieces?, hg, Option.ite_none_right_eq_some, Option.map_eq_some_iff] at h
        obtain ⟨hdotted, ip, hip, rfl⟩ := h
        rw [IPv4.ofText?_eq_some_iff.1 hip]
        exact .quad ip hdotted
      · simp only [groupsOfPieces?, hg, Option.some.injEq] at h
        subst h
        exact .last hg
    | cons q ps =>
      simp only [groupsOfPieces?, Option.bind_eq_bind, Option.bind_eq_some_iff] at h
      obtain ⟨g, hg, gs', hgs', hgs⟩ := h
      cases hgs
      exact .cons hg (ih (List.cons_ne_nil q ps) hgs')

/-- Groups are read as they are spelled. -/
theorem Groups.groupsOfPieces?_eq (h : Groups dotted l gs) :
    groupsOfPieces? dotted (pieces ':' l) = some gs := by
  induction h with
  | last hgroup =>
    rw [pieces_of_not_mem (colon_not_mem_of_group? hgroup)]
    simp [groupsOfPieces?, hgroup]
  | quad ip hdotted =>
    rw [pieces_of_not_mem (colon_not_mem_toText ip)]
    simp [groupsOfPieces?, group?_toText, hdotted, IPv4.ofText?_toText]
  | @cons p l g gs hgroup _ ih =>
    rw [pieces_append, pieces_of_not_mem (colon_not_mem_of_group? hgroup)]
    obtain ⟨q, qs, hq⟩ := List.exists_cons_of_ne_nil (pieces_ne_nil ':' l)
    rw [hq] at ih ⊢
    simp [groupsOfPieces?, hgroup, ih]

/-- The groups on one side of `::` are read as they are spelled. -/
theorem groups?_eq_some_iff : groups? dotted l = some gs ↔ Side dotted l gs := by
  unfold groups? Side
  by_cases hl : l = []
  · subst hl
    have hnone : ¬Groups dotted [] gs := fun h => h.ne_nil rfl
    simp [hnone, eq_comm]
  · rw [if_neg hl]
    constructor
    · intro h
      right
      rw [← join_pieces ':' l]
      exact groups_of_groupsOfPieces? (pieces_ne_nil ':' l) h
    · rintro (⟨rfl, -⟩ | h)
      · exact absurd rfl hl
      · exact h.groupsOfPieces?_eq

/-! ## The double colon -/

theorem cutDouble_cons {c : Char} {r : List Char} (h : ¬(c = ':' ∧ r.head? = some ':')) :
    cutDouble (c :: r) = (cutDouble r).map fun q => (c :: q.1, q.2) := by
  refine cutDouble.eq_2 c r ?_
  rintro r' rfl rfl
  exact h ⟨rfl, rfl⟩

/-- A text without a colon has no part in a double one. -/
theorem cutDouble_append (h : ':' ∉ p) (r : List Char) :
    cutDouble (p ++ r) = (cutDouble r).map fun q => (p ++ q.1, q.2) := by
  induction p with
  | nil => simp
  | cons c p ih =>
    obtain ⟨hc, hp⟩ := List.ne_and_not_mem_of_not_mem_cons h
    rw [List.cons_append, cutDouble_cons (fun h => hc h.1.symm), ih hp, Option.map_map]
    rfl

/-- Nor have groups, whatever stands behind them. -/
theorem Groups.cutDouble_append (h : Groups dotted l gs) (r : List Char) :
    cutDouble (l ++ r) = (cutDouble r).map fun q => (l ++ q.1, q.2) := by
  induction h with
  | last hgroup => exact IPv6.cutDouble_append (colon_not_mem_of_group? hgroup) r
  | quad ip => exact IPv6.cutDouble_append (colon_not_mem_toText ip) r
  | cons hgroup hrest ih =>
    obtain ⟨c, l', rfl, hc⟩ := hrest.head
    rw [List.append_assoc, IPv6.cutDouble_append (colon_not_mem_of_group? hgroup), List.cons_append,
      cutDouble_cons (by simp [hc]), ih, Option.map_map, Option.map_map]
    simp [Function.comp_def]

theorem Side.cutDouble_eq {dotted : Bool} {a : List Char} (h : Side dotted a gs) (b : List Char) :
    cutDouble (a ++ ':' :: ':' :: b) = some (a, b) := by
  rcases h with ⟨rfl, -⟩ | h
  · rfl
  · rw [h.cutDouble_append]
    simp [cutDouble]

theorem Groups.cutDouble_eq (h : Groups dotted l gs) : cutDouble l = none := by
  have hcut := h.cutDouble_append []
  rwa [List.append_nil] at hcut

theorem append_of_cutDouble {a b : List Char} (h : cutDouble l = some (a, b)) :
    l = a ++ ':' :: ':' :: b := by
  induction l using cutDouble.induct generalizing a with
  | case1 r =>
    cases h
    rfl
  | case2 c r hsingle ih =>
    rw [cutDouble.eq_2 _ _ hsingle] at h
    obtain ⟨⟨a', b'⟩, hcut, hq⟩ := Option.map_eq_some_iff.1 h
    cases hq
    rw [ih hcut]
    rfl
  | case3 => cases h

/-! ## Addresses -/

theorem fill?_eq_some_iff {l r : List UInt16} {ip : IPv6} : fill? l r = some ip ↔
    l.length + r.length ≤ 7 ∧ ip.groups = l ++ List.replicate (8 - l.length - r.length) 0 ++ r := by
  unfold fill?
  split
  · next hfew =>
    simp only [Option.some.injEq, hfew, true_and]
    constructor
    · rintro rfl
      rfl
    · intro hgroups
      obtain ⟨groups, hlength⟩ := ip
      subst hgroups
      rfl
  · next hmany => simp [hmany]

/-- A text is read as an address just when it spells that address. -/
theorem ofText?_eq_some_iff {ip : IPv6} : ofText? l = some ip ↔ Spells l ip := by
  unfold ofText?
  constructor
  · intro h
    split at h
    · next a b hcut =>
      simp only [Option.bind_eq_bind, Option.bind_eq_some_iff, groups?_eq_some_iff,
        fill?_eq_some_iff] at h
      obtain ⟨gs, hleft, hs, hright, hfew, hip⟩ := h
      rw [append_of_cutDouble hcut]
      exact .double hleft hright hfew hip
    · obtain ⟨gs, hgs, h⟩ := Option.bind_eq_some_iff.1 h
      split at h
      · next hlength =>
        cases h
        rcases groups?_eq_some_iff.1 hgs with ⟨-, rfl⟩ | hgroups
        · cases hlength
        · exact .whole hgroups
      · cases h
  · intro h
    cases h with
    | whole hgroups =>
      rw [hgroups.cutDouble_eq]
      simp [groups?_eq_some_iff.2 (Or.inr hgroups), ip.length_eq]
    | double hleft hright hfew hip =>
      rw [hleft.cutDouble_eq]
      simp [groups?_eq_some_iff.2 hleft, groups?_eq_some_iff.2 hright,
        fill?_eq_some_iff.2 ⟨hfew, hip⟩]

/-! ## Characters -/

variable {c : Char}

/-- A decimal digit is a hexadecimal one. -/
theorem isDigit_eq_false (hhex : hexValue? c = none) : c.isDigit = false := by
  rcases hc : c.isDigit with _ | _
  · rfl
  · obtain ⟨hlow, hhigh⟩ := Decimal.toNat_of_isDigit hc
    have hrange : '0' ≤ c ∧ c ≤ '9' := ⟨hlow, hhigh⟩
    simp [hexValue?, hrange] at hhex

theorem Groups.not_mem (h : Groups dotted l gs) (hhex : hexValue? c = none) (hdot : c ≠ '.')
    (hcolon : c ≠ ':') : c ∉ l := by
  have hgroup {p : List Char} {g : UInt16} (h : group? p = some g) : c ∉ p := fun hm =>
    (hex_of_group? h).2 c hm hhex
  induction h with
  | last h => exact hgroup h
  | quad ip => exact ip.not_mem_toText (isDigit_eq_false hhex) hdot
  | cons h _ ih => simp [hgroup h, hcolon, ih]

/-- A spelling holds hexadecimal digits, dots and colons only. -/
theorem Spells.not_mem {ip : IPv6} (h : Spells l ip) (hhex : hexValue? c = none) (hdot : c ≠ '.')
    (hcolon : c ≠ ':') : c ∉ l := by
  have hside {dotted : Bool} {l : List Char} {gs : List UInt16} (h : Side dotted l gs) : c ∉ l := by
    rcases h with ⟨rfl, -⟩ | h
    · exact List.not_mem_nil
    · exact h.not_mem hhex hdot hcolon
  cases h with
  | whole h => exact h.not_mem hhex hdot hcolon
  | double hleft hright => simp [hside hleft, hside hright, hcolon]

end ZoneNet.IPv6
