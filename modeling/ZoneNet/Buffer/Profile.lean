import ZoneNet.Buffer.KernelVersion
import ZoneNet.Facility.Operations

/-!
# Buffer limits

Programs expect socket buffer limits that go with the kernel release that they were built for. A
profile holds the three limits, and each transport is given all three.
-/

namespace ZoneNet

/-- A transport with buffer limits of its own. -/
inductive Protocol where
  | tcp
  | udp
  | sctp
  | rawIp
  deriving DecidableEq, Repr

namespace Protocol

/-- All transports in the order in which they are set. -/
def all : List Protocol := [tcp, udp, sctp, rawIp]

def name : Protocol → String
  | tcp => "tcp"
  | udp => "udp"
  | sctp => "sctp"
  | rawIp => "rawip"

/-- The name that the administration tool knows a transport by. -/
def moduleName : Protocol → String
  | tcp => "tcp"
  | udp => "udp"
  | sctp => "sctp"
  | rawIp => "icmp"

end Protocol

/-- A property that could not be set. -/
structure PropertyFailure where
  protocol : Protocol
  property : String
  value : UInt32
  cause : FacilityError
  deriving DecidableEq, Repr

/-- Sets properties of transports in the active configuration. -/
structure BufferProperties (σ : Type) where
  set : String → String → Protocol → σ → Outcome FacilityError Unit σ
  /-- Tells of a failure; the state may keep that or not. -/
  tell : PropertyFailure → σ → σ := fun _ s => s

/-- The limits that every transport is given. -/
structure BufferProfile where
  maxBuf : UInt32
  sendBuf : UInt32
  recvBuf : UInt32
  deriving DecidableEq, Repr

namespace BufferProfile

/-- The base size of the send and receive buffers. -/
def baseSize : UInt32 := 1024 * 1024

/-- The first release with the larger limit. -/
def cutover : KernelVersion := ⟨3, 4, 0⟩

/-- The limits that go with a release. -/
def ofVersion (v : KernelVersion) : BufferProfile where
  maxBuf := if v.before cutover then 4 * 1024 * 1024 else 6 * 1024 * 1024
  sendBuf := baseSize * 2
  recvBuf := baseSize * 2

/-- The settings for one transport. The largest limit goes first, so that the new sizes never
exceed the old limit. -/
def settings (p : BufferProfile) : List (String × UInt32) :=
  [("max_buf", p.maxBuf), ("send_buf", p.sendBuf), ("recv_buf", p.recvBuf)]

variable {σ : Type}

/-- Every setting for every transport, in order. -/
def plan (p : BufferProfile) (protocols : List Protocol) : List (Protocol × String × UInt32) :=
  protocols.flatMap fun protocol => p.settings.map fun s => (protocol, s)

/-- Tries every setting of a plan; a failure is told and does not stop the rest. -/
def setAll (props : BufferProperties σ) :
    List (Protocol × String × UInt32) → σ → List PropertyFailure × σ
  | [], s => ([], s)
  | (protocol, property, value) :: rest, s =>
    match props.set property (toString value.toNat) protocol s with
    | (.ok (), s) => setAll props rest s
    | (.error cause, s) =>
      let failure := ⟨protocol, property, value, cause⟩
      let (failures, s) := setAll props rest (props.tell failure s)
      (failure :: failures, s)

/-- Applies a profile to transports. -/
def apply (props : BufferProperties σ) (p : BufferProfile) (protocols : List Protocol) (s : σ) :
    List PropertyFailure × σ :=
  setAll props (p.plan protocols) s

end BufferProfile

end ZoneNet
