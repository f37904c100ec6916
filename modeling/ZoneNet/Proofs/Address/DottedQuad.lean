import ZoneNet.Address.IPv4
import ZoneNet.Proofs.Text.Spelling

/-!
# The grammar of IPv4 addresses

* `ofText?_eq_some_iff` — the texts that are read as addresses are the spellings of addresses: four
  octets in decimal without leading zeros, and nothing else.
-/

namespace ZoneNet.IPv4

open Text

theorem octet?_eq_some_iff {l : List Char} {o : UInt8} : octet? l = some o ↔ l = octetText o := by
  constructor
  · intro h
    unfold octet? at h
    split at h
    · next hl =>
      obtain ⟨hdigits, hne, _, hzero, hmax⟩ := hl
      have hvalue : o.toNat = Decimal.value l := by
        rw [← Option.some.inj h, UInt8.toNat_ofNat']
        exact Nat.mod_eq_of_lt (by omega)
      show l = Nat.toDigits 10 o.toNat
      rw [hvalue, Decimal.toDigits_value hne (fun c hc => List.all_eq_true.1 hdigits c hc) hzero]
    · exact absurd h (by simp)
  · rintro rfl
    exact octet?_octetText o

/-- A text is read as an address just when it is the spelling of that address. -/
theorem ofText?_eq_some_iff {l : List Char} {ip : IPv4} : ofText? l = some ip ↔ l = ip.toText := by
  constructor
  · intro h
    -- four pieces were read, and the text is those pieces joined
    have hjoin : join '.' (pieces '.' l) = l := join_pieces '.' l
    unfold ofText? at h
    split at h
    · next a b c d hp =>
      simp only [Option.pure_def, Option.bind_eq_bind, Option.bind_eq_some_iff,
        octet?_eq_some_iff] at h
      obtain ⟨x, rfl, y, rfl, z, rfl, w, rfl, hip⟩ := h
      rw [← hjoin, hp, ← Option.some.inj hip]
      rfl
    · exact absurd h (by simp)
  · rintro rfl
    exact ofText?_toText ip

/-- The spelling of an address holds digits and dots only. -/
theorem not_mem_toText (ip : IPv4) {c : Char} (hdigit : c.isDigit = false) (hdot : c ≠ '.') :
    c ∉ ip.toText := by
  have hoctet : ∀ o : UInt8, c ∉ octetText o := fun o => Decimal.not_mem_toDigits hdigit o.toNat
  simp [toText, octets, join, hoctet, hdot]

theorem parse?_eq_some_iff {s : String} {ip : IPv4} : parse? s = some ip ↔ s = toString ip := by
  show ofText? s.toList = some ip ↔ s = String.ofList ip.toText
  rw [ofText?_eq_some_iff]
  constructor
  · intro h
    rw [← h, String.ofList_toList]
  · rintro rfl
    exact String.toList_ofList

end ZoneNet.IPv4
