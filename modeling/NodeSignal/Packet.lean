import NodeSignal.BigEndian
import NodeSignal.CStrings
import NodeSignal.RingWindow

/-!
# Packets

The in-memory packet of the protocol and its constructor.  The body is an
array of one byte more than the longest body, so that it can always be read
as a C string.
-/

namespace NodeSignal

open CStrings

@[simp] def nsPacketBodyMax : ℕ := 512
@[simp] def nsPacketHeaderSize : ℕ := 14
@[simp] def nsUsernameMax : ℕ := 32
def nsProtocolVersion : UInt8 := 1

inductive NsPacketType where
  | join
  | text
  | leave
  | ack
  | error
  deriving DecidableEq

def NsPacketType.code : NsPacketType → UInt8
  | .join => 1
  | .text => 2
  | .leave => 3
  | .ack => 4
  | .error => 5

/-- The `switch` over a received type byte. -/
def NsPacketType.ofCode? (code : UInt8) : Option NsPacketType :=
  if code = 1 then some .join
  else if code = 2 then some .text
  else if code = 3 then some .leave
  else if code = 4 then some .ack
  else if code = 5 then some .error
  else none

@[simp] theorem NsPacketType.ofCode?_code (type : NsPacketType) :
    NsPacketType.ofCode? type.code = some type := by
  cases type <;> rfl

theorem NsPacketType.eq_code_of_ofCode? {code : UInt8}
    {type : NsPacketType}
    (htype : NsPacketType.ofCode? code = some type) : code = type.code := by
  unfold NsPacketType.ofCode? at htype
  split_ifs at htype <;> cases htype <;> assumption

theorem NsPacketType.ofCode?_isSome_iff (code : UInt8) :
    (NsPacketType.ofCode? code).isSome ↔ 1 ≤ code ∧ code ≤ 5 := by
  cases code with
  | ofBitVec bits =>
      revert bits
      decide

structure NsPacketHeader where
  version : UInt8
  type : UInt8
  senderId : UInt32
  timestamp : UInt32
  bodyLen : UInt32
  deriving DecidableEq

structure NsPacket where
  header : NsPacketHeader
  body : List UInt8
  body_length : body.length = nsPacketBodyMax + 1
  deriving DecidableEq

/-- The bytes of the body that the header announces. -/
def NsPacket.payload (packet : NsPacket) : List UInt8 :=
  packet.body.take packet.header.bodyLen.toNat

theorem NsPacket.payload_length {packet : NsPacket}
    (hlen : packet.header.bodyLen.toNat ≤ nsPacketBodyMax) :
    packet.payload.length = packet.header.bodyLen.toNat := by
  have hbody := packet.body_length
  simp only [payload, List.length_take, hbody]
  simp only [nsPacketBodyMax] at hlen ⊢
  omega

/-- The packet whose body array holds the given bytes and zeros after them,
as `memset`, `memcpy` and the final terminator leave it. -/
def NsPacket.filled (header : NsPacketHeader) (bytes : List UInt8)
    (hfits : bytes.length ≤ nsPacketBodyMax) : NsPacket where
  header := header
  body := padded (nsPacketBodyMax + 1) bytes
  body_length := padded_length (Nat.le_succ_of_le hfits)

/-- `ns_packet_set`; `none` stands for the return value -1, and a missing
body for a `NULL` argument. -/
def nsPacketSet (type : UInt8) (senderId timestamp : UInt32)
    (body : Option (List UInt8)) : Option NsPacket :=
  let bytes := text (body.getD [])
  if hfits : bytes.length ≤ nsPacketBodyMax then
    some (NsPacket.filled
      { version := nsProtocolVersion
        type := type
        senderId := senderId
        timestamp := timestamp
        bodyLen := UInt32.ofNat bytes.length } bytes hfits)
  else none

/-- A packet as `ns_packet_set` and `ns_recv_packet` leave it: current
version, a known type, and nothing but zeros behind the announced body. -/
structure NsPacket.Canonical (packet : NsPacket) : Prop where
  version : packet.header.version = nsProtocolVersion
  type : (NsPacketType.ofCode? packet.header.type).isSome
  bodyLen : packet.header.bodyLen.toNat ≤ nsPacketBodyMax
  body : packet.body = padded (nsPacketBodyMax + 1) packet.payload

theorem ofNat_toNat_of_le {length : ℕ} (hle : length ≤ nsPacketBodyMax) :
    (UInt32.ofNat length).toNat = length := by
  rw [UInt32.toNat_ofNat']
  apply Nat.mod_eq_of_lt
  simp only [nsPacketBodyMax] at hle
  omega

theorem NsPacket.filled_payload (header : NsPacketHeader)
    {bytes : List UInt8} (hfits : bytes.length ≤ nsPacketBodyMax)
    (hlen : header.bodyLen = UInt32.ofNat bytes.length) :
    (NsPacket.filled header bytes hfits).payload = bytes := by
  simp only [payload, filled, hlen, ofNat_toNat_of_le hfits]
  exact take_padded _ _

theorem nsPacketSet_eq_some {type : UInt8} {senderId timestamp : UInt32}
    {body : Option (List UInt8)} {packet : NsPacket}
    (hset : nsPacketSet type senderId timestamp body = some packet) :
    packet.header.version = nsProtocolVersion ∧
      packet.header.type = type ∧
      packet.header.senderId = senderId ∧
      packet.header.timestamp = timestamp ∧
      packet.header.bodyLen.toNat ≤ nsPacketBodyMax ∧
      packet.payload = text (body.getD []) ∧
      packet.body = padded (nsPacketBodyMax + 1) packet.payload := by
  unfold nsPacketSet at hset
  simp only at hset
  split at hset
  next hfits =>
    simp only [Option.some.injEq] at hset
    subst hset
    have hpayload := NsPacket.filled_payload
      { version := nsProtocolVersion
        type := type
        senderId := senderId
        timestamp := timestamp
        bodyLen := UInt32.ofNat (text (body.getD [])).length } hfits rfl
    refine ⟨rfl, rfl, rfl, rfl, ?_, hpayload, ?_⟩
    · simpa only [NsPacket.filled, ofNat_toNat_of_le hfits] using hfits
    · rw [hpayload]
      rfl
  next => simp at hset

theorem nsPacketSet_canonical {type : UInt8}
    {senderId timestamp : UInt32} {body : Option (List UInt8)}
    {packet : NsPacket} (htype : 1 ≤ type ∧ type ≤ 5)
    (hset : nsPacketSet type senderId timestamp body = some packet) :
    packet.Canonical := by
  obtain ⟨hversion, heq, -, -, hlen, -, hbody⟩ := nsPacketSet_eq_some hset
  refine ⟨hversion, ?_, hlen, hbody⟩
  rw [heq]
  exact (NsPacketType.ofCode?_isSome_iff type).mpr htype

theorem nsPacketSet_isSome (type : UInt8) (senderId timestamp : UInt32)
    {body : List UInt8} (hfits : (text body).length ≤ nsPacketBodyMax) :
    ∃ packet, nsPacketSet type senderId timestamp (some body) =
      some packet := by
  simp only [nsPacketSet, Option.getD_some, hfits, dite_true]
  exact ⟨_, rfl⟩

end NodeSignal
