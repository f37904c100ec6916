import ZoneNet.Address.Family
import ZoneNet.Address.Literal
import ZoneNet.Proofs.Address.DottedQuad

/-!
# A colon tells the family of a literal

Where a literal is placed is settled by looking for a colon anywhere in it; whether it is an address
is settled by reading it. For every literal that is an address the two are of one mind.

* `IPv6.colon_mem` — no text without a colon is read as an IPv6 address.
* `ofLiteral_eq_family` — the family that an accepted literal is taken for is that of its address.
-/

namespace ZoneNet

open Text

namespace IPv4

variable {l : List Char} {ip : IPv4}

theorem colon_not_mem (h : ofText? l = some ip) : ':' ∉ l := by
  rw [ofText?_eq_some_iff.1 h]
  exact not_mem_toText ip (by decide) (by decide)

end IPv4

/-! ## Texts of IPv6 addresses -/

namespace IPv6

theorem colon_mem_of_cutDouble {l : List Char} {p : List Char × List Char}
    (h : cutDouble l = some p) : ':' ∈ l := by
  induction l using cutDouble.induct generalizing p with
  | case1 r => exact List.mem_cons_self
  | case2 c r hsingle ih =>
    rw [cutDouble.eq_2 _ _ hsingle] at h
    obtain ⟨p', hp', -⟩ := Option.map_eq_some_iff.1 h
    exact List.mem_cons_of_mem c (ih hp')
  | case3 => cases h

/-- One piece of text is one group, or two if it is a dotted IPv4 address. -/
theorem length_groupsOfPieces?_single {dotted : Bool} {p : List Char} {gs : List UInt16}
    (h : groupsOfPieces? dotted [p] = some gs) : gs.length ≤ 2 := by
  unfold groupsOfPieces? at h
  split at h
  · cases h
    exact Nat.le_succ 1
  · split at h
    · obtain ⟨ip, -, rfl⟩ := Option.map_eq_some_iff.1 h
      exact Nat.le_refl 2
    · cases h

theorem length_groups?_of_not_mem {dotted : Bool} {l : List Char} {gs : List UInt16}
    (h : groups? dotted l = some gs) (hcolon : ':' ∉ l) : gs.length ≤ 2 := by
  unfold groups? at h
  split at h
  · cases h
    exact Nat.zero_le 2
  · rw [pieces_of_not_mem hcolon] at h
    exact length_groupsOfPieces?_single h

/-- Without a colon there are not enough groups. -/
theorem colon_mem {l : List Char} {ip : IPv6} (h : ofText? l = some ip) : ':' ∈ l := by
  unfold ofText? at h
  split at h
  · next hdouble => exact colon_mem_of_cutDouble hdouble
  · obtain ⟨gs, hgs, hip⟩ := Option.bind_eq_some_iff.1 h
    refine Decidable.byContradiction fun hcolon => ?_
    have hfew : gs.length ≤ 2 := length_groups?_of_not_mem hgs hcolon
    rw [dif_neg (by omega)] at hip
    cases hip

end IPv6

/-! ## Texts of addresses -/

namespace IP

def family : IP → Family
  | v4 _ => .v4
  | v6 _ => .v6

theorem ofText?_eq_v4_iff {l : List Char} {ip : IPv4} :
    ofText? l = some (.v4 ip) ↔ IPv4.ofText? l = some ip := by
  unfold ofText?
  rcases IPv4.ofText? l with _ | ip'
  · simp
  · simp

/-- No text is read as an address of both families. -/
theorem ofText?_eq_v6_iff {l : List Char} {ip : IPv6} :
    ofText? l = some (.v6 ip) ↔ IPv6.ofText? l = some ip := by
  unfold ofText?
  rcases h : IPv4.ofText? l with _ | ip'
  · simp
  · constructor
    · intro h'
      cases h'
    · intro h'
      exact absurd (IPv6.colon_mem h') (IPv4.colon_not_mem h)

theorem colon_mem_iff {l : List Char} {ip : IP} (h : ofText? l = some ip) :
    ':' ∈ l ↔ ip.family = .v6 := by
  cases ip with
  | v4 ip => simpa [family] using IPv4.colon_not_mem (ofText?_eq_v4_iff.1 h)
  | v6 ip => simpa [family] using IPv6.colon_mem (ofText?_eq_v6_iff.1 h)

end IP

/-! ## Literals -/

theorem Family.ofLiteral_eq_v6 {addr : String} : ofLiteral addr = v6 ↔ ':' ∈ addr.toList := by
  simp [ofLiteral]

theorem Family.eq_v4_of_ne_v6 {family : Family} (h : family ≠ v6) : family = v4 := by
  cases family
  · rfl
  · exact absurd rfl h

/-- The host part of a literal, which ends at the first slash. -/
def hostText (addr : String) : List Char := before '/' addr.toList

/-- A numeral holds digits, after at most one sign. -/
theorem Text.Decimal.not_mem_of_upTo? {max n : Nat} {l : List Char} (h : upTo? max l = some n)
    {c : Char} (hdigit : c.isDigit = false) (hplus : c ≠ '+') : c ∉ l := by
  have hread : ofText? l = some n := (Option.filter_eq_some_iff.1 h).1
  have hfree : ∀ ds : List Char, ds.all Char.isDigit = true → c ∉ ds := by
    intro ds hds hc
    rw [List.all_eq_true.1 hds c hc] at hdigit
    cases hdigit
  simp only [ofText?, Option.ite_none_right_eq_some] at hread
  obtain ⟨⟨-, hds⟩, -⟩ := hread
  split at hds
  · simp [hplus, hfree _ hds]
  · exact hfree l hds

/-- A text without the delimiter stays whole in front of another. -/
theorem Text.before_append {d : Char} {a : List Char} (h : d ∉ a) (b : List Char) :
    before d (a ++ b) = a ++ before d b := by
  have hall : ∀ c ∈ a, decide (c ≠ d) = true := by
    intro c hc
    rw [decide_eq_true_iff]
    rintro rfl
    exact h hc
  exact List.takeWhile_append_of_pos hall

theorem hostText_of_cut_none {addr : String} (h : cut '/' addr.toList = none) :
    hostText addr = addr.toList := by
  have hall := before_append (cut_eq_none_iff.1 h) []
  rwa [show before '/' [] = [] from rfl, List.append_nil] at hall

theorem hostText_of_cut_some {addr : String} {host bits : List Char}
    (h : cut '/' addr.toList = some (host, bits)) : hostText addr = host := by
  obtain ⟨htext, hslash⟩ := cut_eq_some_iff.1 h
  unfold hostText
  rw [htext, before_append hslash]
  simp [before]

/-- An accepted literal holds an address before its first slash, and no colon after it. -/
theorem exists_address_of_checkLiteral {addr : String} (h : checkLiteral addr = .ok ()) :
    ∃ ip, IP.ofText? (hostText addr) = some ip ∧ (':' ∈ addr.toList ↔ ':' ∈ hostText addr) := by
  unfold checkLiteral at h
  split at h
  · next hcut =>
    rcases hip : IP.ofText? addr.toList with _ | ip
    · rw [hip] at h
      cases h
    · rw [hostText_of_cut_none hcut]
      exact ⟨ip, hip, Iff.rfl⟩
  · next host bits hcut =>
    rcases hip : IP.ofText? host with _ | ip
    · rw [hip] at h
      cases h
    · rw [hip] at h
      dsimp only at h
      rcases hlength : prefixLength? ip bits with _ | n
      · rw [hlength] at h
        cases h
      · have hbits : ':' ∉ bits :=
          Decimal.not_mem_of_upTo? (Option.filter_eq_some_iff.1 hlength).1 (by decide) (by decide)
        rw [hostText_of_cut_some hcut, (cut_eq_some_iff.1 hcut).1]
        exact ⟨ip, hip, by simp [hbits]⟩

/-- The family that an accepted literal is taken for is the family of its address. -/
theorem ofLiteral_eq_family {addr : String} (h : checkLiteral addr = .ok ()) :
    ∃ ip, IP.ofText? (hostText addr) = some ip ∧ Family.ofLiteral addr = ip.family ∧
      (Family.ofLiteral addr = .v6 ↔ ∃ ip₆, IPv6.ofText? (hostText addr) = some ip₆) := by
  obtain ⟨ip, hip, hcolon⟩ := exists_address_of_checkLiteral h
  have hv6 : Family.ofLiteral addr = .v6 ↔ ip.family = .v6 := by
    rw [← IP.colon_mem_iff hip, ← hcolon]
    exact Family.ofLiteral_eq_v6
  refine ⟨ip, hip, ?_, hv6.trans ?_⟩
  · rcases hfamily : ip.family with _ | _
    · rw [hfamily] at hv6
      exact Family.eq_v4_of_ne_v6 (by simp [hv6])
    · exact hv6.2 hfamily
  · simp only [← IP.ofText?_eq_v6_iff, hip, Option.some.injEq]
    cases ip <;> simp [IP.family]

end ZoneNet
