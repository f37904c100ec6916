import ZoneNet.Address.Object
import ZoneNet.Proofs.Text.Spelling

/-!
# The names of address objects

A name is the interface that it was made for, a fixed word, and a number. The word ends in a letter,
so the number is told by the whole text, whatever the interface is called.

* `number_inj` — a name tells its number.
* `nodup_map_text_series` — names that are numbered in a row are different texts.
-/

namespace ZoneNet.ObjectName

open Text

theorem toList_make (iface : String) (n : UInt32) :
    (make iface n).text.toList
      = iface.toList ++ '/' :: ("addr".toList ++ Nat.toDigits 10 n.toNat) := by
  unfold make
  rw [String.toList_append, String.toList_append, Decimal.toList_toString, List.append_assoc]
  rfl

/-- The digits at the end of a name are its number: no digit stands right before them. -/
theorem number_inj {iface iface' : String} {m n : UInt32}
    (h : (make iface m).text = (make iface' n).text) : m = n := by
  have hform (iface : String) (n : UInt32) : (make iface n).text.toList
      = (iface.toList ++ "/add".toList) ++ 'r' :: Nat.toDigits 10 n.toNat := by
    rw [toList_make]
    simp
  have hlist := congrArg String.toList h
  rw [hform, hform] at hlist
  obtain ⟨-, hnumber⟩ := Decimal.append_cons_toDigits_inj (by decide) hlist
  exact UInt32.toNat_inj.1 hnumber

/-! ## Names in a row -/

/-- Names for interfaces in order, numbered from `n` on. -/
def series (n : UInt32) (ifaces : List String) : List ObjectName :=
  ifaces.mapIdx fun i iface => .make iface (n + UInt32.ofNat i)

theorem series_append (n : UInt32) (ifaces ifaces' : List String) :
    series n (ifaces ++ ifaces') = series n ifaces ++ series (n + UInt32.ofNat ifaces.length) ifaces' := by
  unfold series
  rw [List.mapIdx_append]
  congr 2
  funext i iface
  rw [UInt32.ofNat_add, UInt32.add_assoc, UInt32.add_comm (UInt32.ofNat i)]

/-- The texts of names that are fewer than the numbers there are. -/
theorem map_text_series {ifaces : List String} (h : ifaces.length ≤ UInt32.size) :
    (series 0 ifaces).map (·.text) = ifaces.mapIdx fun n iface => iface ++ "/addr" ++ toString n := by
  unfold series
  refine List.ext_getElem (by simp) ?_
  intro i hi _
  rw [List.length_map, List.length_mapIdx] at hi
  rw [List.getElem_map, List.getElem_mapIdx, List.getElem_mapIdx, UInt32.zero_add, make,
    UInt32.toNat_ofNat_of_lt' (by omega)]

/-- They are all different. -/
theorem nodup_map_text_series {ifaces : List String} (h : ifaces.length ≤ UInt32.size) :
    ((series 0 ifaces).map (·.text)).Nodup := by
  unfold series
  rw [List.Nodup, List.pairwise_iff_getElem]
  intro i j hi hj hij heq
  rw [List.length_map, List.length_mapIdx] at hi hj
  rw [List.getElem_map, List.getElem_map, List.getElem_mapIdx, List.getElem_mapIdx] at heq
  have hnumber := congrArg UInt32.toNat (number_inj heq)
  rw [UInt32.zero_add, UInt32.zero_add, UInt32.toNat_ofNat_of_lt' (by omega),
    UInt32.toNat_ofNat_of_lt' (by omega)] at hnumber
  omega

end ZoneNet.ObjectName
