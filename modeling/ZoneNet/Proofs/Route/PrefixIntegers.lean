import ZoneNet.Proofs.Route.FeedGrammar
import ZoneNet.Proofs.Text.LenientIntegers

/-!
# The prefix length of a feed line

What stands for the prefix length in a line of the feed is read leniently, so it may be any text.
The integer that it begins with decides about the line, however long it is.

* `lenient_mem_iff` — no integer gets into the range of prefix lengths by being held.
* `parse_clamped` — what a text is read as, and which texts a line may have for its prefix length.
-/

namespace ZoneNet.FeedLine

open Text

/-- The line of two addresses and a flag, with any text for the prefix length. -/
def compose (gateway network : IPv4) (bits : List Char) (flag : String) : String :=
  toString gateway ++ "|" ++ toString network ++ "/" ++ String.ofList bits ++ "|" ++ flag

theorem toList_compose (gateway network : IPv4) (bits : List Char) (flag : String) :
    (compose gateway network bits flag).toList
      = gateway.toText ++ '|' :: (network.toText ++ '/' :: (bits ++ '|' :: flag.toList)) := by
  have hip : ∀ ip : IPv4, (toString ip).toList = ip.toText := fun ip => String.toList_ofList
  simp [compose, hip]

/-- A reading is a prefix length just when the integer itself is one, and then the two are equal. -/
theorem lenient_mem_iff (bits : List Char) :
    (0 ≤ Decimal.lenient bits ∧ Decimal.lenient bits ≤ 32 ↔
        0 ≤ Decimal.integer bits ∧ Decimal.integer bits ≤ 32) ∧
      (0 ≤ Decimal.integer bits ∧ Decimal.integer bits ≤ 32 →
        Decimal.lenient bits = Decimal.integer bits) := by
  rw [Decimal.lenient_eq]
  unfold Decimal.top
  omega

/-- A line with two addresses describes a route just when the integer in front of it is a prefix
length. -/
theorem parse_compose (gateway network : IPv4) {bits : List Char} (flag : String)
    (hbits : '|' ∉ bits) :
    parse (compose gateway network bits flag) =
      if 0 ≤ Decimal.integer bits ∧ Decimal.integer bits ≤ 32 then
        .ok ⟨.networkVia network (.ofNat (Decimal.integer bits).toNat) gateway, flag⟩
      else .error (.badBits (compose gateway network bits flag) (Decimal.lenient bits)) := by
  obtain ⟨hmem, heq⟩ := lenient_mem_iff bits
  have hfields := ofLine_of_toList (toList_compose gateway network bits flag) hbits
  show ofScan _ (Scan.ofLine _) = _
  rw [ofScan_ofLine, split, hfields]
  unfold LineFields.route
  simp only [IPv4.ofText?_toText, String.ofList_toList]
  by_cases h : 0 ≤ Decimal.integer bits ∧ Decimal.integer bits ≤ 32
  · rw [if_pos (hmem.2 h), if_pos h, heq h]
    rfl
  · rw [if_neg fun h' => h (hmem.1 h'), if_neg h]

/-- The integer that a text begins with is read up to 2^63 - 1 in either direction. Reading the text
by its bytes gives the same and never fails. A line with that text for its prefix length describes
a route just when the integer is a prefix length, and the error tells what was read otherwise. -/
theorem parse_clamped (bits : List Char) : ∃ z : Int,
    (∀ n, Decimal.Begins bits n ↔ n = z) ∧
      Decimal.lenient bits = max (-9223372036854775807) (min 9223372036854775807 z) ∧
      Decimal.readBytes? bits = some (Decimal.lenient bits) ∧
      ∀ gateway network flag, '|' ∉ bits →
        let line := compose gateway network bits flag
        ((∃ l, parse line = .ok l) ↔ 0 ≤ z ∧ z ≤ 32) ∧
          parse line =
            if 0 ≤ z ∧ z ≤ 32 then
              .ok ⟨⟨some (network, .ofNat z.toNat), gateway, none⟩, flag⟩
            else .error (.badBits line (Decimal.lenient bits)) := by
  refine ⟨Decimal.integer bits, fun n => Decimal.begins_iff, Decimal.lenient_eq bits,
    Decimal.readBytes?_eq bits, ?_⟩
  intro gateway network flag hbits line
  have hparse := parse_compose gateway network flag hbits
  refine ⟨?_, hparse⟩
  rw [hparse]
  split
  · next h => exact ⟨fun _ => h, fun _ => ⟨_, rfl⟩⟩
  · next h => exact ⟨nofun, fun h' => absurd h' h⟩

/-- The integer 2^64 + 32 is no prefix length, although its last 64 bits are. -/
theorem parse_clamped_wrapped :
    '|' ∉ "18446744073709551648".toList ∧
      parse "10.77.77.2|10.1.1.0/18446744073709551648|false"
        = .error (.badBits "10.77.77.2|10.1.1.0/18446744073709551648|false"
            9223372036854775807) := by
  obtain ⟨z, hbegins, hlenient, -, hparse⟩ := parse_clamped "18446744073709551648".toList
  have hz : z = 18446744073709551648 := by
    rw [← (hbegins _).1 (Decimal.begins_integer _)]
    decide
  subst hz
  have hbits : '|' ∉ "18446744073709551648".toList := by decide
  have hline : compose ⟨10, 77, 77, 2⟩ ⟨10, 1, 1, 0⟩ "18446744073709551648".toList "false"
      = "10.77.77.2|10.1.1.0/18446744073709551648|false" := by decide
  obtain ⟨-, h⟩ := hparse ⟨10, 77, 77, 2⟩ ⟨10, 1, 1, 0⟩ "false" hbits
  rw [hline, hlenient] at h
  exact ⟨hbits, h⟩

end ZoneNet.FeedLine
