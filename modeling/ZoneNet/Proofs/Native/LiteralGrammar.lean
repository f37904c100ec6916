import ZoneNet.Proofs.Address.ColonGroups
import ZoneNet.Proofs.Native.LiteralCommands

/-!
# The grammar of literals

A literal is an address of either family, alone or followed by a slash and the decimal digits of a
prefix length that the family admits. Objects take these texts, and one kind beside them: a literal
with a sign in front of its prefix length.

* `IP.ofText?_eq_some_iff` — a text is read as an address just when it spells that address.
* `checkLiteral_eq_ok_iff` — the check lets a text pass just when it is of one of the two kinds.
* `setAddress_grammar` — which texts an object takes, and what the object holds afterwards.
* `setAddress_grammar_plus` — a text with a sign is taken, and is no literal.
-/

namespace ZoneNet

open Text

/-! ## Addresses -/

/-- The spellings of an address of either family. -/
inductive IP.Spells : List Char → IP → Prop where
  | v4 (ip : IPv4) : Spells ip.toText (.v4 ip)
  | v6 {l : List Char} {ip : IPv6} (h : IPv6.Spells l ip) : Spells l (.v6 ip)

/-- A text is read as an address just when it spells that address. -/
theorem IP.ofText?_eq_some_iff {l : List Char} {ip : IP} : ofText? l = some ip ↔ Spells l ip := by
  cases ip with
  | v4 ip =>
    rw [ofText?_eq_v4_iff, IPv4.ofText?_eq_some_iff]
    constructor
    · rintro rfl
      exact .v4 ip
    · rintro ⟨⟩
      rfl
  | v6 ip =>
    rw [ofText?_eq_v6_iff, IPv6.ofText?_eq_some_iff]
    constructor
    · exact .v6
    · rintro ⟨⟩
      assumption

/-- A spelling holds neither a slash nor a sign, nor anything else but hexadecimal digits, dots and
colons. -/
theorem IP.Spells.not_mem {l : List Char} {ip : IP} {c : Char} (h : Spells l ip)
    (hc : hexValue? c = none ∧ c ≠ '.' ∧ c ≠ ':') : c ∉ l := by
  obtain ⟨hhex, hdot, hcolon⟩ := hc
  cases h with
  | v4 ip => exact ip.not_mem_toText (IPv6.isDigit_eq_false hhex) hdot
  | v6 h => exact h.not_mem hhex hdot hcolon

/-! ## Prefix lengths -/

/-- The spellings of a prefix length of an address: decimal digits, at least one of them, whose
value the family admits. -/
structure IsPrefixLength (ip : IP) (bits : List Char) : Prop where
  ne_nil : bits ≠ []
  digits : ∀ c ∈ bits, c.isDigit = true
  le : Decimal.value bits ≤ ip.maxPrefix

theorem IsPrefixLength.plus_not_mem {ip : IP} {bits : List Char} (h : IsPrefixLength ip bits) :
    '+' ∉ bits := fun hm => absurd (h.digits '+' hm) (by decide)

theorem IP.maxPrefix_le (ip : IP) : ip.maxPrefix ≤ 255 := by
  cases ip with
  | v4 => exact Nat.le_of_ble_eq_true rfl
  | v6 => exact Nat.le_of_ble_eq_true rfl

theorem Text.Decimal.ofText?_of_ne_plus {l : List Char} (h : ∀ r, l ≠ '+' :: r) :
    ofText? l = if l ≠ [] ∧ l.all Char.isDigit then some (value l) else none := by
  simp [ofText?]

/-- A numeral is digits, at least one of them, with at most one sign in front. -/
theorem Text.Decimal.ofText?_eq_some_iff {l : List Char} {n : Nat} : ofText? l = some n ↔
    ∃ ds, (l = ds ∨ l = '+' :: ds) ∧ ds ≠ [] ∧ (∀ c ∈ ds, c.isDigit = true) ∧ value ds = n := by
  have hread {ds : List Char} :
      (if ds ≠ [] ∧ ds.all Char.isDigit then some (value ds) else none) = some n ↔
        ds ≠ [] ∧ (∀ c ∈ ds, c.isDigit = true) ∧ value ds = n := by
    simp [and_assoc]
  by_cases hsign : ∃ r, l = '+' :: r
  · obtain ⟨r, rfl⟩ := hsign
    rw [show ofText? ('+' :: r) = some n ↔ _ from hread]
    constructor
    · intro h
      exact ⟨r, Or.inr rfl, h⟩
    · rintro ⟨ds, rfl | hds, h⟩
      -- the sign is no digit
      · exact absurd (h.2.1 '+' List.mem_cons_self) (by decide)
      · cases hds
        exact h
  · rw [ofText?_of_ne_plus (not_exists.1 hsign), hread]
    constructor
    · intro h
      exact ⟨l, Or.inl rfl, h⟩
    · rintro ⟨ds, rfl | hds, h⟩
      · exact h
      · exact absurd ⟨ds, hds⟩ hsign

/-- What is read as a prefix length is a prefix length, with at most one sign in front. -/
theorem exists_prefixLength?_iff {ip : IP} {text : List Char} :
    (∃ n, prefixLength? ip text = some n) ↔
      ∃ bits, (text = bits ∨ text = '+' :: bits) ∧ IsPrefixLength ip bits := by
  have hle : ip.maxPrefix ≤ 255 := ip.maxPrefix_le
  simp only [prefixLength?, Decimal.upTo?, Option.filter_eq_some_iff, Decimal.ofText?_eq_some_iff,
    decide_eq_true_iff]
  constructor
  · rintro ⟨n, ⟨⟨bits, htext, hne, hdigits, rfl⟩, -⟩, hmax⟩
    exact ⟨bits, htext, hne, hdigits, hmax⟩
  · rintro ⟨bits, htext, h⟩
    have hmax : Decimal.value bits ≤ ip.maxPrefix := h.le
    exact ⟨_, ⟨⟨bits, htext, h.ne_nil, h.digits, rfl⟩, by omega⟩, hmax⟩

/-! ## Literals -/

/-- An address alone, or an address, a slash and a prefix length. -/
inductive IsLiteral : List Char → Prop where
  | bare {l : List Char} {ip : IP} (h : IP.Spells l ip) : IsLiteral l
  | prefixed {host bits : List Char} {ip : IP} (hhost : IP.Spells host ip)
      (hbits : IsPrefixLength ip bits) : IsLiteral (host ++ '/' :: bits)

/-- A literal with a sign in front of its prefix length. -/
def IsSignedLiteral (l : List Char) : Prop :=
  ∃ host bits ip, IP.Spells host ip ∧ IsPrefixLength ip bits ∧ l = host ++ '/' :: '+' :: bits

/-- No literal holds a sign. -/
theorem IsLiteral.plus_not_mem {l : List Char} (h : IsLiteral l) : '+' ∉ l := by
  cases h with
  | bare h => exact h.not_mem (by decide)
  | prefixed hhost hbits =>
    have hsign : '+' ∉ _ := hhost.not_mem (by decide)
    simp [hsign, hbits.plus_not_mem]

/-- A text with an address before its first slash passes just when what stands behind is read as a
prefix length. -/
theorem checkLiteral_prefixed {addr : String} {host bits : List Char} {ip : IP}
    (hhost : IP.Spells host ip) (haddr : addr.toList = host ++ '/' :: bits) :
    checkLiteral addr = .ok () ↔ ∃ n, prefixLength? ip bits = some n := by
  unfold checkLiteral
  rw [cut_eq_some_iff.2 ⟨haddr, hhost.not_mem (by decide)⟩]
  simp only [IP.ofText?_eq_some_iff.2 hhost]
  rcases prefixLength? ip bits with _ | n <;> simp

/-- The check lets a text pass just when it is a literal, with or without a sign. -/
theorem checkLiteral_eq_ok_iff {addr : String} :
    checkLiteral addr = .ok () ↔ IsLiteral addr.toList ∨ IsSignedLiteral addr.toList := by
  constructor
  · intro h
    obtain ⟨ip, hip, -⟩ := exists_address_of_checkLiteral h
    rcases hcut : cut '/' addr.toList with _ | ⟨host, bits⟩
    · rw [hostText_of_cut_none hcut] at hip
      exact Or.inl (.bare (IP.ofText?_eq_some_iff.1 hip))
    · rw [hostText_of_cut_some hcut] at hip
      have hhost : IP.Spells host ip := IP.ofText?_eq_some_iff.1 hip
      have haddr : addr.toList = host ++ '/' :: bits := (cut_eq_some_iff.1 hcut).1
      rw [checkLiteral_prefixed hhost haddr, exists_prefixLength?_iff] at h
      rw [haddr]
      obtain ⟨bits, rfl | rfl, hbits⟩ := h
      · exact Or.inl (.prefixed hhost hbits)
      · exact Or.inr ⟨host, bits, ip, hhost, hbits, rfl⟩
  · rintro (h | ⟨host, bits, ip, hhost, hbits, haddr⟩)
    · generalize haddr : addr.toList = l at h
      cases h with
      | bare h =>
        have hslash : '/' ∉ addr.toList := haddr ▸ h.not_mem (by decide)
        have hcut : cut '/' addr.toList = none := cut_eq_none_iff.2 hslash
        unfold checkLiteral
        rw [hcut, haddr]
        simp [IP.ofText?_eq_some_iff.2 h]
      | prefixed hhost hbits =>
        exact (checkLiteral_prefixed hhost haddr).2
          (exists_prefixLength?_iff.2 ⟨_, Or.inl rfl, hbits⟩)
    · exact (checkLiteral_prefixed hhost haddr).2
        (exists_prefixLength?_iff.2 ⟨bits, Or.inr rfl, hbits⟩)

/-! ## Objects -/

namespace AddressTools

/-- What an object answers to a text depends on the check alone. -/
theorem setAddress_eq (obj : AddressObject) (addr : String) (w : World) :
    (checkLiteral addr = .ok () →
        setAddress obj addr w = (.ok { obj with address := some addr }, w)) ∧
      (checkLiteral addr ≠ .ok () →
        ∃ fault : LiteralFault,
          setAddress obj addr w = (.error (.rejected "set address" fault.message), w)) := by
  unfold setAddress
  rcases checkLiteral addr with fault | _
  · exact ⟨nofun, fun _ => ⟨fault, rfl⟩⟩
  · exact ⟨fun _ => rfl, fun h => absurd rfl h⟩

/-- For every text: the check, and with it an object, takes it just when it is a literal, with or
without a sign in front of its prefix length. An object that takes it holds exactly this text when
it is let go of; one that does not is let go of as it was. -/
theorem setAddress_grammar (t : AddressTools) (leases : LeaseAgent World) (timeout : UInt64)
    (iface addr : String) (obj : AddressObject) (w : World) (before : List ObjectEvent) :
    (checkLiteral addr = .ok () ↔ IsLiteral addr.toList ∨ IsSignedLiteral addr.toList) ∧
    ((∃ obj' w', setAddress obj addr w = (.ok obj', w')) ↔
      IsLiteral addr.toList ∨ IsSignedLiteral addr.toList) ∧
    (∀ obj' w', setAddress obj addr w = (.ok obj', w') →
      obj' = { obj with address := some addr }) ∧
    ∃ events held,
      ((t.assigner leases timeout).watched.fillObject iface addr obj (w, before)).2.2
        = before ++ events ++ [.release held] ∧
      (IsLiteral addr.toList ∨ IsSignedLiteral addr.toList →
        held = { obj with address := some addr }) ∧
      (¬(IsLiteral addr.toList ∨ IsSignedLiteral addr.toList) → held = obj) := by
  obtain ⟨htaken, hrefused⟩ := setAddress_eq obj addr w
  rw [← checkLiteral_eq_ok_iff]
  refine ⟨Iff.rfl, ?_⟩
  simp only [Assigner.fillObject, Assigner.watched, AddressManager.watched, assigner, addresses,
    kept]
  by_cases hcheck : checkLiteral addr = .ok ()
  · let filled : AddressObject := { obj with address := some addr }
    rw [htaken hcheck]
    refine ⟨by simp [hcheck], by simp +contextual, ?_⟩
    dsimp only
    refine ⟨[.set obj addr (.ok filled), .activate filled (t.activate filled w).1], filled, ?_,
      fun _ => rfl, fun h => absurd hcheck h⟩
    show _ = before ++ [_, .activate filled (t.activate filled w).1] ++ [_]
    rcases t.activate filled w with ⟨e | _, w'⟩ <;> simp [filled]
  · obtain ⟨fault, hset⟩ := hrefused hcheck
    rw [hset]
    refine ⟨by simp [hcheck], by simp, ?_⟩
    exact ⟨[.set obj addr (.error (.rejected "set address" fault.message))], obj, by simp,
      fun h => absurd h hcheck, fun _ => rfl⟩

/-- Zeros may lead a prefix length, so the object holds them. A second slash is refused, and the
object stays without a value. -/
theorem setAddress_grammar_zeros :
    let host : Host := {
      respond := fun _ _ => .error .notFound
      node := fun _ => none
      routeWrite := fun _ message => .ok message.length }
    let t : AddressTools := ⟨host, "ifconfig", "ipadm"⟩
    let a := t.assigner (LeaseTools.leases ⟨host, "dhcpagent", "ifconfig"⟩) 5
    let obj : AddressObject := .fresh ⟨"net0:1/addr1"⟩
    (IsLiteral "fd00::2/064".toList ∧ ∃ events,
      (a.watched.fillObject "net0:1" "fd00::2/064" obj ([], [])).2.2
        = events ++ [.release ⟨⟨"net0:1/addr1"⟩, some "fd00::2/064"⟩]) ∧
    ¬IsLiteral "10.0.0.2/24/8".toList ∧ ∃ events,
      (a.watched.fillObject "net0:1" "10.0.0.2/24/8" obj ([], [])).2.2
        = events ++ [.release obj] := by
  intro host t a obj
  obtain ⟨hchecked, -, -, events, held, hevents, hheld, -⟩ := setAddress_grammar t
    (LeaseTools.leases ⟨host, "dhcpagent", "ifconfig"⟩) 5 "net0:1" "fd00::2/064" obj [] []
  obtain ⟨hchecked', -, -, events', held', hevents', -, hheld'⟩ := setAddress_grammar t
    (LeaseTools.leases ⟨host, "dhcpagent", "ifconfig"⟩) 5 "net0:1" "10.0.0.2/24/8" obj [] []
  have htaken := hchecked.1 (by decide +kernel)
  have hrefused : ¬(IsLiteral "10.0.0.2/24/8".toList ∨ IsSignedLiteral "10.0.0.2/24/8".toList) :=
    fun h => absurd (hchecked'.2 h) (by decide +kernel)
  have hunsigned : ¬IsSignedLiteral "fd00::2/064".toList := by
    rintro ⟨hostPart, bits, ip, -, -, htext⟩
    have hsign : '+' ∈ "fd00::2/064".toList := by simp [htext]
    exact absurd hsign (by decide)
  refine ⟨⟨htaken.resolve_right hunsigned, events, ?_⟩, fun h => hrefused (Or.inl h), events', ?_⟩
  · rw [hevents, hheld htaken]
    rfl
  · rw [hevents', hheld' hrefused]
    rfl

/-- A prefix length with a sign is taken, though no literal holds a sign. -/
theorem setAddress_grammar_plus :
    (∃ obj' w', setAddress (.fresh ⟨"net0/addr1"⟩) "10.0.0.2/+24" [] = (.ok obj', w')) ∧
      ¬IsLiteral "10.0.0.2/+24".toList :=
  ⟨⟨_, _, rfl⟩, fun h => h.plus_not_mem (by decide)⟩

end AddressTools

end ZoneNet
