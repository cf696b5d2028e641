import NodeSignal.SendBufBounds

/-!
# The three encoders of a packet

The header layout is written out in `ns_send_packet`,
`ns_server_enqueue_packet` and `ns_server_broadcast`.  All three put the same
bytes out for every packet, the last two through the ring buffer, and all
three refuse a packet that announces too long a body.
-/

namespace NodeSignal

open RingWindow

section Room

variable {w : World} {index : SlotIndex} {packet : NsPacket}

/-- The ring buffer of the slot admits the packet. -/
def World.HasRoom (w : World) (index : SlotIndex) (packet : NsPacket) :
    Prop :=
  (w.clients index).sendBuf.Admits
    (nsPacketHeaderSize + packet.header.bodyLen.toNat)

instance : Decidable (w.HasRoom index packet) :=
  inferInstanceAs (Decidable (NsSendBuf.Admits _ _))

theorem wireBuffer_val
    (hlen : packet.header.bodyLen.toNat ≤ nsPacketBodyMax) :
    (wireBuffer packet hlen).val = packet.wire :=
  assembleWire_eq_wire hlen

/-- With room the wire form is appended. -/
theorem World.HasRoom.enqueue (hroom : w.HasRoom index packet)
    (hlen : packet.header.bodyLen.toNat ≤ nsPacketBodyMax) :
    ∃ buf, nsClientEnqueueSend (w.clients index).sendBuf
        (wireBuffer packet hlen) = some buf ∧
      (w.clients index).sendBuf.Appends buf packet.wire := by
  have hsome : nsClientEnqueueSend (w.clients index).sendBuf
      (wireBuffer packet hlen) ≠ none := by
    rw [ne_eq, nsClientEnqueueSend_eq_none_iff, wireBuffer_val,
      NsPacket.wire_length hlen]
    exact fun hrefused => hrefused.2 hroom
  rcases Option.ne_none_iff_exists'.mp hsome with ⟨buf, hbuf⟩
  have happends := nsClientEnqueueSend_appends hbuf
  rw [wireBuffer_val] at happends
  exact ⟨buf, hbuf, happends⟩

/-- Without room the append is refused. -/
theorem World.enqueue_of_not_hasRoom (hfull : ¬ w.HasRoom index packet)
    (hlen : packet.header.bodyLen.toNat ≤ nsPacketBodyMax) :
    nsClientEnqueueSend (w.clients index).sendBuf
      (wireBuffer packet hlen) = none := by
  rw [nsClientEnqueueSend_eq_none_iff, wireBuffer_val,
    NsPacket.wire_length hlen]
  refine ⟨?_, hfull⟩
  simp only [nsPacketHeaderSize]
  omega

end Room

/-- All three functions put out the bytes: on the socket, whatever parts
`send()` takes, and behind what a send buffer with room holds already. -/
structure NsPacket.Encodes (packet : NsPacket) (bytes : List UInt8) :
    Prop where
  sent : ∀ socketFd (counts : List ℕ), nsSocketIsValid socketFd →
    (nsSendPacket socketFd packet (counts.map .took)).status = 0 ∧
      (nsSendPacket socketFd packet (counts.map .took)).sent = bytes
  enqueued : ∀ w index, World.HasRoom w index packet →
    ∃ after, nsServerEnqueuePacket w index packet = some after ∧
      (w.clients index).sendBuf.Appends (after.clients index).sendBuf bytes
  broadcast : ∀ w excludeIndex index,
    Recipient excludeIndex index (w.clients index) →
    World.HasRoom w index packet →
      (w.clients index).sendBuf.Appends
        ((nsServerBroadcast w packet excludeIndex).clients index).sendBuf
        bytes

/-- None of the three functions puts anything out. -/
structure NsPacket.Suppressed (packet : NsPacket) : Prop where
  sent : ∀ socketFd outcomes,
    (nsSendPacket socketFd packet outcomes).status = -1 ∧
      (nsSendPacket socketFd packet outcomes).sent = []
  enqueued : ∀ w index, nsServerEnqueuePacket w index packet = none
  broadcast : ∀ w excludeIndex, nsServerBroadcast w packet excludeIndex = w

section Encoding

variable {packet : NsPacket}

theorem NsPacket.encodes_wire
    (hlen : packet.header.bodyLen.toNat ≤ nsPacketBodyMax) :
    packet.Encodes packet.wire := by
  constructor
  · intro socketFd counts hsocket
    rcases nsSendPacket_took hsocket hlen counts with ⟨left, hsend⟩
    rw [hsend]
    exact ⟨rfl, rfl⟩
  · intro w index hroom
    rcases hroom.enqueue hlen with ⟨buf, hbuf, happends⟩
    refine ⟨w.appended index packet buf, ?_, ?_⟩
    · rw [nsServerEnqueuePacket_eq w index packet hlen, hbuf]
      rfl
    · rw [World.appended_clients, Function.update_self]
      exact happends
  · intro w excludeIndex index hrecipient hroom
    rcases hroom.enqueue hlen with ⟨buf, hbuf, happends⟩
    rw [nsServerBroadcast_clients packet hlen, broadcastClient,
      if_pos hrecipient]
    simp only [hbuf]
    exact happends

theorem NsPacket.suppressed_of_long
    (hlong : nsPacketBodyMax < packet.header.bodyLen.toNat) :
    packet.Suppressed := by
  constructor
  · intro socketFd outcomes
    unfold nsSendPacket
    split_ifs
    · exact ⟨rfl, rfl⟩
    · exact ⟨rfl, rfl⟩
  · intro w index
    rw [nsServerEnqueuePacket, dif_neg hlong.not_ge]
  · intro w excludeIndex
    rw [nsServerBroadcast_eq, broadcastBody, dif_neg hlong.not_ge]

end Encoding

/-- The three encoders put out the same `14 + body_len` bytes for every
packet within the limit, and nothing for any other packet. -/
theorem encoders_agree (packet : NsPacket) :
    (packet.header.bodyLen.toNat ≤ nsPacketBodyMax →
      packet.wire.length =
          nsPacketHeaderSize + packet.header.bodyLen.toNat ∧
        packet.Encodes packet.wire) ∧
      (nsPacketBodyMax < packet.header.bodyLen.toNat →
        packet.Suppressed) :=
  ⟨fun hlen => ⟨NsPacket.wire_length hlen, NsPacket.encodes_wire hlen⟩,
    NsPacket.suppressed_of_long⟩

end NodeSignal
