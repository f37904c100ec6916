import ZoneNet.Route.Message

/-!
# What a route message carries

The fields of a message are read back at their offsets, the low byte of a number first. A mask tells
its length: its leading bits are ones and the rest zeros.

* `bit_netmask` — the bits of a mask.
* `carries_encode` — every field of a message holds what the message is about.
* `getElem?_encode` — the other bytes are those of every message.
* `layout` — when there is a message, what it carries, and when two messages are one.
-/

namespace ZoneNet

/-! ## Reading fields -/

/-- The bytes of a field, `size` of them from an offset on. -/
def fieldAt (bytes : List UInt8) (offset size : Nat) : List UInt8 :=
  (bytes.drop offset).take size

/-- The number that bytes denote, the low byte first. -/
def littleValue : List UInt8 → Nat
  | [] => 0
  | b :: bytes => b.toNat + 256 * littleValue bytes

/-- A bit of an address, counted from the most significant one of the first octet. -/
def addressBit (octets : List UInt8) (i : Nat) : Bool :=
  (octets.getD (i / 8) 0).toNat.testBit (7 - i % 8)

theorem littleValue_le16 (n : UInt16) : littleValue (le16 n) = n.toNat := by
  have hn : n.toNat < 65536 := n.toNat_lt
  simp only [le16, littleValue, UInt16.toNat_toUInt8, UInt16.toNat_shiftRight,
    Nat.shiftRight_eq_div_pow]
  simp
  omega

theorem littleValue_le32 (n : UInt32) : littleValue (le32 n) = n.toNat := by
  have hn : n.toNat < 4294967296 := n.toNat_lt
  simp only [le32, littleValue, UInt32.toNat_toUInt8, UInt32.toNat_shiftRight,
    Nat.shiftRight_eq_div_pow]
  simp
  omega

theorem le16_injective : Function.Injective le16 := by
  intro m n h
  have hvalue := congrArg littleValue h
  rw [littleValue_le16, littleValue_le16] at hvalue
  exact UInt16.toNat_inj.1 hvalue

theorem le32_injective : Function.Injective le32 := by
  intro m n h
  have hvalue := congrArg littleValue h
  rw [littleValue_le32, littleValue_le32] at hvalue
  exact UInt32.toNat_inj.1 hvalue

theorem IPv4.octets_injective : Function.Injective IPv4.octets := by
  rintro ⟨a, b, c, d⟩ ⟨a', b', c', d'⟩ h
  simpa [octets] using h

/-! ## Masks -/

/-- The octets of a number hold its bits in order. -/
theorem addressBit_ofBits (n : UInt32) {i : Nat} (hi : i < 32) :
    addressBit (IPv4.ofBits n).octets i = n.toNat.testBit (31 - i) := by
  have hoctet (k : UInt32) (hk : k < 32) {j : Nat} (hj : j < 8) :
      (n >>> k).toUInt8.toNat.testBit j = n.toNat.testBit (k.toNat + j) := by
    rw [UInt32.toNat_toUInt8, UInt32.toNat_shiftRight,
      Nat.mod_eq_of_lt (show k.toNat < 32 from UInt32.lt_iff_toNat_lt.1 hk),
      Nat.testBit_mod_two_pow, Nat.testBit_shiftRight, decide_eq_true hj, Bool.true_and]
  have hzero : (n >>> 0).toUInt8 = n.toUInt8 := by simp
  unfold addressBit IPv4.ofBits IPv4.octets
  obtain h | h | h | h : i / 8 = 0 ∨ i / 8 = 1 ∨ i / 8 = 2 ∨ i / 8 = 3 := by omega
  · rw [h]
    show (n >>> 24).toUInt8.toNat.testBit _ = _
    rw [hoctet 24 (by decide) (by omega)]
    congr 1
    show 24 + _ = _
    omega
  · rw [h]
    show (n >>> 16).toUInt8.toNat.testBit _ = _
    rw [hoctet 16 (by decide) (by omega)]
    congr 1
    show 16 + _ = _
    omega
  · rw [h]
    show (n >>> 8).toUInt8.toNat.testBit _ = _
    rw [hoctet 8 (by decide) (by omega)]
    congr 1
    show 8 + _ = _
    omega
  · rw [h]
    show n.toUInt8.toNat.testBit _ = _
    rw [← hzero, hoctet 0 (by decide) (by omega)]
    congr 1
    show 0 + _ = _
    omega

theorem netmask_eq_error_iff {bits : UInt8} {e : RouteError} :
    netmask bits = .error e ↔ 32 < bits ∧ e = .invalidPrefix bits := by
  unfold netmask
  by_cases h0 : bits = 0
  · subst h0
    simp
  by_cases h : bits ≤ 32
  · rw [if_neg h0, if_pos h]
    simp [UInt8.not_lt.2 h]
  · rw [if_neg h0, if_neg h]
    simpa [UInt8.not_le.1 h] using eq_comm

/-- The leading bits of a mask are ones, as many as its length, and all others are zeros. -/
theorem bit_netmask {bits : UInt8} {mask : IPv4} (h : netmask bits = .ok mask) {i : Nat}
    (hi : i < 32) : addressBit mask.octets i = decide (i < bits.toNat) := by
  unfold netmask at h
  split at h
  case isTrue h0 =>
    cases h
    rw [show IPv4.zero = IPv4.ofBits 0 from rfl, addressBit_ofBits 0 hi, h0]
    simp
  split at h
  case isTrue h0 hle =>
    cases h
    have hpos : 0 < bits.toNat := Nat.pos_of_ne_zero fun h => h0 (UInt8.toNat_inj.1 h)
    have hbits : bits.toNat ≤ 32 := UInt8.le_iff_toNat_le.1 hle
    have hshift : (32 - bits.toUInt32).toNat = 32 - bits.toNat := by
      rw [UInt32.toNat_sub_of_le _ _ (UInt32.le_iff_toNat_le.2 (by simpa using hbits))]
      simp
    rw [addressBit_ofBits _ hi, UInt32.toNat_shiftLeft, hshift,
      Nat.mod_eq_of_lt (show 32 - bits.toNat < 32 by omega),
      show (0xFFFFFFFF : UInt32).toNat = 2 ^ 32 - 1 from rfl, Nat.testBit_mod_two_pow,
      Nat.testBit_shiftLeft, Nat.testBit_two_pow_sub_one]
    simp only [ge_iff_le, ← Bool.decide_and, decide_eq_decide]
    omega
  case isFalse => cases h

/-- A mask tells its length. -/
theorem netmask_inj {bits bits' : UInt8} {mask : IPv4} (h : netmask bits = .ok mask)
    (h' : netmask bits' = .ok mask) : bits = bits' := by
  have hle {b : UInt8} (hb : netmask b = .ok mask) : b.toNat ≤ 32 := by
    refine Nat.le_of_not_lt fun hlong => ?_
    have herror := netmask_eq_error_iff.2 ⟨UInt8.lt_iff_toNat_lt.2 hlong, rfl⟩
    rw [hb] at herror
    cases herror
  -- where the shorter one ends, the bits differ
  have hnot {b b' : UInt8} (hb : netmask b = .ok mask) (hb' : netmask b' = .ok mask) :
      ¬b.toNat < b'.toNat := by
    intro hlt
    have hi : b.toNat < 32 := Nat.lt_of_lt_of_le hlt (hle hb')
    have hbit := bit_netmask hb hi
    rw [bit_netmask hb' hi] at hbit
    simp [hlt] at hbit
  exact UInt8.toNat_inj.1 (Nat.le_antisymm (Nat.not_lt.1 (hnot h' h)) (Nat.not_lt.1 (hnot h h')))

/-! ## What a message is about -/

/-- Where a route leads: without a destination to 0.0.0.0/0. -/
def RouteRequest.leadsTo (r : RouteRequest) : IPv4 × UInt8 := r.destination.getD (.zero, 0)

namespace RouteMessage

/-- The default route is a route to 0.0.0.0/0. -/
theorem ofRequest_eq (r : RouteRequest) (index : UInt16) (pid : Int32) :
    ofRequest r index pid
      = (netmask r.leadsTo.2).map fun mask => ⟨index, pid, r.leadsTo.1, r.gateway, mask⟩ := by
  unfold ofRequest RouteRequest.leadsTo
  rcases r.destination with _ | ⟨network, bits⟩
  · rfl
  · dsimp only [Option.getD_some]
    cases netmask bits with
    | ok mask => rfl
    | error e => rfl

theorem ofRequest_eq_error_iff {r : RouteRequest} {index : UInt16} {pid : Int32} {e : RouteError} :
    ofRequest r index pid = .error e ↔
      ∃ network bits, r.destination = some (network, bits) ∧ 32 < bits ∧ e = .invalidPrefix bits := by
  have hmap : ofRequest r index pid = .error e ↔ netmask r.leadsTo.2 = .error e := by
    rw [ofRequest_eq]
    cases netmask r.leadsTo.2 with
    | ok mask => simp [Except.map]
    | error e' => simp [Except.map]
  rw [hmap, netmask_eq_error_iff, RouteRequest.leadsTo]
  rcases r.destination with _ | ⟨network, bits⟩
  · simp
  · constructor
    · rintro ⟨hlong, rfl⟩
      exact ⟨network, bits, rfl, hlong, rfl⟩
    · rintro ⟨_, _, heq, hlong, rfl⟩
      cases heq
      exact ⟨hlong, rfl⟩

theorem ofRequest_eq_ok {r : RouteRequest} {index : UInt16} {pid : Int32} {m : RouteMessage}
    (h : ofRequest r index pid = .ok m) :
    m.index = index ∧ m.processId = pid ∧ m.destination = r.leadsTo.1 ∧ m.gateway = r.gateway ∧
      netmask r.leadsTo.2 = .ok m.mask := by
  rw [ofRequest_eq] at h
  cases hmask : netmask r.leadsTo.2 with
  | error e =>
    rw [hmask] at h
    cases h
  | ok mask =>
    rw [hmask] at h
    cases h
    exact ⟨rfl, rfl, rfl, rfl, rfl⟩

/-! ## The fields of a message -/

/-- Bytes with a field for each thing that a message is about. -/
structure Carries (bytes : List UInt8) (r : RouteRequest) (index : UInt16) (pid : Int32) : Prop where
  length : bytes.length = 124
  statedLength : littleValue (fieldAt bytes 0 2) = 124
  version : littleValue (fieldAt bytes 2 1) = 3
  kind : littleValue (fieldAt bytes 3 1) = 1
  index : littleValue (fieldAt bytes 4 2) = index.toNat
  /-- Up, gateway and static. -/
  flags : littleValue (fieldAt bytes 8 4) = 0x803
  /-- Destination, gateway and netmask are there. -/
  records : littleValue (fieldAt bytes 12 4) = 0x7
  /-- The process number has a sign. -/
  processId : (littleValue (fieldAt bytes 16 4) : Int).bmod UInt32.size = pid.toInt
  families : ∀ offset ∈ [76, 92, 108], littleValue (fieldAt bytes offset 2) = 2
  destination : fieldAt bytes 80 4 = r.leadsTo.1.octets
  gateway : fieldAt bytes 96 4 = r.gateway.octets
  mask : ∀ i < 32, addressBit (fieldAt bytes 112 4) i = decide (i < r.leadsTo.2.toNat)

theorem carries_encode {r : RouteRequest} {index : UInt16} {pid : Int32} {m : RouteMessage}
    (h : ofRequest r index pid = .ok m) : Carries m.encode r index pid := by
  obtain ⟨rfl, rfl, hdestination, hgateway, hmask⟩ := ofRequest_eq_ok h
  exact {
    length := length_encode m
    statedLength := rfl
    version := rfl
    kind := rfl
    index := littleValue_le16 m.index
    flags := rfl
    records := rfl
    processId := by
      rw [show fieldAt m.encode 16 4 = le32 m.processId.toUInt32 from rfl, littleValue_le32]
      exact (Int32.toInt_toBitVec m.processId).symm ▸ (BitVec.toInt_eq_toNat_bmod _).symm
    families := by
      intro offset hoffset
      simp only [List.mem_cons, List.not_mem_nil, or_false] at hoffset
      obtain rfl | rfl | rfl := hoffset
      · rfl
      · rfl
      · rfl
    destination := by rw [← hdestination]; rfl
    gateway := by rw [← hgateway]; rfl
    mask := fun i hi => bit_netmask hmask hi }

/-- The fields that differ between messages: index, process number and the three addresses, each
with its offset and its size. -/
def varyingFields : List (Nat × Nat) := [(4, 2), (16, 4), (80, 4), (96, 4), (112, 4)]

/-- The bytes before and behind a block of a fixed length do not depend on the block. -/
theorem getElem?_block {a v v' b b' : List UInt8} (hlength : v.length = v'.length) {i : Nat}
    (hout : ¬(a.length ≤ i ∧ i < a.length + v.length))
    (hrest : b[i - (a.length + v.length)]? = b'[i - (a.length + v.length)]?) :
    (a ++ (v ++ b))[i]? = (a ++ (v' ++ b'))[i]? := by
  by_cases hi : i < a.length
  · rw [List.getElem?_append_left hi, List.getElem?_append_left hi]
  · have hbehind : v.length ≤ i - a.length := by omega
    rw [List.getElem?_append_right (Nat.le_of_not_lt hi),
      List.getElem?_append_right (Nat.le_of_not_lt hi), List.getElem?_append_right hbehind,
      List.getElem?_append_right (hlength ▸ hbehind), ← hlength, Nat.sub_sub]
    exact hrest

/-- Every byte outside the fields that differ is the same in all messages. -/
theorem getElem?_encode (m m' : RouteMessage) {i : Nat}
    (h : ∀ f ∈ varyingFields, ¬(f.1 ≤ i ∧ i < f.1 + f.2)) : m.encode[i]? = m'.encode[i]? := by
  simp only [varyingFields, List.forall_mem_cons] at h
  obtain ⟨hindex, hpid, hdestination, hgateway, hmask, -⟩ := h
  have hblocks (x : RouteMessage) : x.encode
      = (le16 length ++ [version, add]) ++ (le16 x.index ++ ((zeros 2 ++ le32 0x803 ++ le32 0x7)
        ++ (le32 x.processId.toUInt32 ++ ((zeros 56 ++ le16 familyTag ++ zeros 2)
        ++ (x.destination.octets ++ ((zeros 8 ++ le16 familyTag ++ zeros 2)
        ++ (x.gateway.octets ++ ((zeros 8 ++ le16 familyTag ++ zeros 2)
        ++ (x.mask.octets ++ zeros 8))))))))) := rfl
  rw [hblocks m, hblocks m']
  refine getElem?_block (by rfl) ?_ (getElem?_block (by rfl) ?_ (getElem?_block (by rfl) ?_
    (getElem?_block (by rfl) ?_ (getElem?_block (by rfl) ?_ rfl))))
  all_goals
    simp only [List.length_append, zeros, List.length_replicate, le16, le32, IPv4.octets,
      List.length_cons, List.length_nil]
    omega

/-- Two messages are one just when they agree on what they are about. -/
theorem encode_eq_iff {r r' : RouteRequest} {index index' : UInt16} {pid pid' : Int32}
    {m m' : RouteMessage} (h : ofRequest r index pid = .ok m)
    (h' : ofRequest r' index' pid' = .ok m') :
    m.encode = m'.encode ↔
      index = index' ∧ pid = pid' ∧ r.gateway = r'.gateway ∧ r.leadsTo = r'.leadsTo := by
  obtain ⟨rfl, rfl, hdestination, hgateway, hmask⟩ := ofRequest_eq_ok h
  obtain ⟨rfl, rfl, hdestination', hgateway', hmask'⟩ := ofRequest_eq_ok h'
  constructor
  · intro heq
    have hfield (offset size : Nat) :
        fieldAt m.encode offset size = fieldAt m'.encode offset size := by rw [heq]
    have hindex : m.index = m'.index := le16_injective (hfield 4 2)
    have hpid : m.processId.toUInt32 = m'.processId.toUInt32 := le32_injective (hfield 16 4)
    have hnetwork : m.destination = m'.destination := IPv4.octets_injective (hfield 80 4)
    have hrouter : m.gateway = m'.gateway := IPv4.octets_injective (hfield 96 4)
    have hlength : m.mask = m'.mask := IPv4.octets_injective (hfield 112 4)
    refine ⟨hindex, Int32.toBitVec_inj.1 (congrArg UInt32.toBitVec hpid), ?_, Prod.ext ?_ ?_⟩
    · rw [← hgateway, ← hgateway', hrouter]
    · rw [← hdestination, ← hdestination', hnetwork]
    · exact netmask_inj hmask (hlength ▸ hmask')
  · rintro ⟨hindex, hpid, hrouter, hleads⟩
    rw [hleads, hmask', Except.ok.injEq] at hmask
    have hsame : m = m' := by
      cases m
      cases m'
      simp_all
    rw [hsame]

/-- The layout of messages. There is none only for a prefix of more than 32 bits. Every other
request gives 124 bytes that carry what the request says, and are for the rest those of every
message; so two messages are one just when they have one index, process number and gateway, and
lead to one network, the default route being one to 0.0.0.0/0. -/
theorem layout (r : RouteRequest) (index : UInt16) (pid : Int32) :
    (∀ e, ofRequest r index pid = .error e ↔
      ∃ network bits, r.destination = some (network, bits) ∧ 32 < bits ∧ e = .invalidPrefix bits) ∧
    ∀ m, ofRequest r index pid = .ok m → Carries m.encode r index pid ∧
      ∀ r' index' pid' m', ofRequest r' index' pid' = .ok m' →
        (∀ i, (∀ f ∈ varyingFields, ¬(f.1 ≤ i ∧ i < f.1 + f.2)) → m.encode[i]? = m'.encode[i]?) ∧
        (m.encode = m'.encode ↔
          index = index' ∧ pid = pid' ∧ r.gateway = r'.gateway ∧ r.leadsTo = r'.leadsTo) := by
  refine ⟨fun e => ofRequest_eq_error_iff, fun m hm => ⟨carries_encode hm, ?_⟩⟩
  intro r' index' pid' m' hm'
  exact ⟨fun i hi => getElem?_encode m m' hi, encode_eq_iff hm hm'⟩

/-- The default route and a route to 0.0.0.0/0, sent by a process with a negative number, are one
message; a mask of 31 bits makes another one. -/
theorem layout_default :
    let r : RouteRequest := .defaultVia ⟨10, 0, 0, 1⟩ "net0"
    let r₀ : RouteRequest := .networkVia .zero 0 ⟨10, 0, 0, 1⟩
    let r₃₁ : RouteRequest := .networkVia .zero 31 ⟨10, 0, 0, 1⟩
    ∃ m m₀ m₃₁, ofRequest r 2 (-7) = .ok m ∧ ofRequest r₀ 2 (-7) = .ok m₀ ∧
      ofRequest r₃₁ 2 (-7) = .ok m₃₁ ∧ Carries m.encode r 2 (-7) ∧ Carries m₃₁.encode r₃₁ 2 (-7) ∧
      m.encode = m₀.encode ∧ m.encode ≠ m₃₁.encode := by
  intro r r₀ r₃₁
  obtain ⟨-, hlayout⟩ := layout r 2 (-7)
  obtain ⟨-, hlayout₃₁⟩ := layout r₃₁ 2 (-7)
  obtain ⟨hcarries, hothers⟩ := hlayout _ rfl
  refine ⟨_, _, _, rfl, rfl, rfl, hcarries, (hlayout₃₁ _ rfl).1, ?_, ?_⟩
  · exact ((hothers r₀ 2 (-7) _ rfl).2).2 ⟨rfl, rfl, rfl, rfl⟩
  · intro heq
    have hleads := (((hothers r₃₁ 2 (-7) _ rfl).2).1 heq).2.2.2
    exact absurd (congrArg Prod.snd hleads) (by decide)

end RouteMessage

end ZoneNet
