import ZoneNet.Route.Error
import ZoneNet.Route.Request

/-!
# Route messages

An add-route message of the routing channel has a fixed layout of 124 bytes: a header of 76 bytes
and three address records of 16 bytes each.

| offset | size | field |
|---|---|---|
| 0 | 2 | length of the message |
| 2 | 1 | protocol version, 3 |
| 3 | 1 | kind of message, 1 for "add" |
| 4 | 2 | interface index, 0 when unbound |
| 6 | 2 | padding |
| 8 | 4 | flags: up, gateway, static |
| 12 | 4 | records present: destination, gateway, netmask |
| 16 | 4 | process number |
| 20 | 56 | sequence, error, use, inits and ten metrics, all zero |
| 76 | 16 | destination |
| 92 | 16 | gateway |
| 108 | 16 | netmask |

A record holds the family tag, two zeros, the four octets of an address and eight zeros.
Numbers are written with the least significant byte first, octets in the order of the address.

* `length_encode` — every message has 124 bytes.
-/

namespace ZoneNet

/-! ## Fields -/

/-- A number of 16 bits, the low byte first. -/
def le16 (n : UInt16) : List UInt8 := [n.toUInt8, (n >>> 8).toUInt8]

/-- A number of 32 bits, the low byte first. -/
def le32 (n : UInt32) : List UInt8 :=
  [n.toUInt8, (n >>> 8).toUInt8, (n >>> 16).toUInt8, (n >>> 24).toUInt8]

/-- A run of zero bytes. -/
def zeros (n : Nat) : List UInt8 := List.replicate n 0

/-! ## Netmasks -/

/-- The address whose first `bits` bits are ones and whose other bits are zeros. -/
def netmask (bits : UInt8) : Except RouteError IPv4 :=
  if bits = 0 then .ok .zero
  else if bits ≤ 32 then .ok (.ofBits (0xFFFFFFFF <<< (32 - bits.toUInt32)))
  else .error (.invalidPrefix bits)

/-- A message that is ready to be encoded. -/
structure RouteMessage where
  index : UInt16
  processId : Int32
  destination : IPv4
  gateway : IPv4
  mask : IPv4
  deriving DecidableEq, Repr

namespace RouteMessage

def length : UInt16 := 124
def version : UInt8 := 3
def add : UInt8 := 1
def flagUp : UInt32 := 0x1
def flagGateway : UInt32 := 0x2
def flagStatic : UInt32 := 0x800
def hasDestination : UInt32 := 0x1
def hasGateway : UInt32 := 0x2
def hasMask : UInt32 := 0x4
def familyTag : UInt16 := 2

/-- The message that adds a route. The default route leads to 0.0.0.0 with an empty mask. -/
def ofRequest (r : RouteRequest) (index : UInt16) (processId : Int32) :
    Except RouteError RouteMessage :=
  match r.destination with
  | none => .ok ⟨index, processId, .zero, r.gateway, .zero⟩
  | some (network, bits) =>
    match netmask bits with
    | .ok mask => .ok ⟨index, processId, network, r.gateway, mask⟩
    | .error e => .error e

/-- One address record. -/
def record (ip : IPv4) : List UInt8 := le16 familyTag ++ zeros 2 ++ ip.octets ++ zeros 8

/-- The bytes of a message. -/
def encode (m : RouteMessage) : List UInt8 :=
  le16 length ++ [version, add] ++ le16 m.index ++ zeros 2
    ++ le32 (flagUp ||| flagStatic ||| flagGateway)
    ++ le32 (hasDestination ||| hasGateway ||| hasMask)
    ++ le32 m.processId.toUInt32 ++ zeros 16 ++ zeros 40
    ++ record m.destination ++ record m.gateway ++ record m.mask

/-- Every message has the length that it states. -/
theorem length_encode (m : RouteMessage) : m.encode.length = length.toNat := rfl

end RouteMessage

end ZoneNet
