import NodeSignal.Server
import NodeSignal.SlotFold

/-!
# What a broadcast does

A broadcast visits every slot once and the slots do not affect each other,
although a full buffer makes the broadcast disconnect its owner in the middle
of the loop.  Its effect is therefore given slot by slot, and its
observations are those of the slots in order.
-/

namespace NodeSignal

open BigEndian RingWindow SlotFold

theorem blit_word_length {wire : List UInt8} {offset : ℕ}
    (hwire : wire.length = nsPacketHeaderSize + nsPacketBodyMax)
    (hoffset : offset ≤ nsPacketHeaderSize) (word : UInt32) :
    (blit wire offset (bytesOfWord word)).length =
      nsPacketHeaderSize + nsPacketBodyMax := by
  rw [blit_length, hwire]
  rw [hwire, bytesOfWord_length]
  simp only [nsPacketHeaderSize, nsPacketBodyMax] at hoffset ⊢
  omega

theorem wireHeader_length (packet : NsPacket) :
    (wireHeader packet).length = nsPacketHeaderSize + nsPacketBodyMax := by
  unfold wireHeader
  iterate 3 apply blit_word_length _ (by decide)
  rw [List.length_set, List.length_set, List.length_replicate]

theorem wireHeader_take (packet : NsPacket) :
    (wireHeader packet).take nsPacketHeaderSize =
      sendHeaderBuffer packet := rfl

/-- Both serializers of the server produce the wire form of the packet. -/
theorem assembleWire_eq_wire {packet : NsPacket}
    (hlen : packet.header.bodyLen.toNat ≤ nsPacketBodyMax) :
    assembleWire packet = packet.wire := by
  rw [← sendHeaderBuffer_append_payload, ← wireHeader_take]
  unfold assembleWire
  simp only
  split
  · have hpayload := NsPacket.payload_length hlen
    rw [NsPacket.payload] at hpayload ⊢
    have htake := take_blit (wireHeader packet)
      (packet.body.take packet.header.bodyLen.toNat)
      (show nsPacketHeaderSize ≤ (wireHeader packet).length by
        rw [wireHeader_length]
        exact Nat.le_add_right _ _)
    rw [hpayload] at htake
    exact htake
  · next hbody =>
      have hzero : packet.header.bodyLen.toNat = 0 := by omega
      rw [NsPacket.payload, hzero, List.take_zero, List.append_nil]

/-! ## The two things that happen to a recipient -/

section Elementary

variable (w : World) (index : SlotIndex) (packet : NsPacket)

def World.appended (buf : NsSendBuf) : World :=
  nsServerUpdatePollEvents
    ((w.setClient index { w.clients index with sendBuf := buf }).observe
      (.enqueued (w.connection index) packet)) index

def World.evicted : World :=
  releaseSlot
    ((w.observe (.overflowed (w.connection index) packet)).observe
      (.disconnected (w.connection index))) index

theorem nsServerEnqueuePacket_eq
    (hlen : packet.header.bodyLen.toNat ≤ nsPacketBodyMax) :
    nsServerEnqueuePacket w index packet =
      (nsClientEnqueueSend (w.clients index).sendBuf
        (wireBuffer packet hlen)).map (w.appended index packet) := by
  unfold nsServerEnqueuePacket enqueueWire
  simp only [hlen, dite_true]
  cases nsClientEnqueueSend (w.clients index).sendBuf
    (wireBuffer packet hlen) <;> rfl

theorem nsServerEnqueuePacket_eq_some {after : World}
    (henqueue : nsServerEnqueuePacket w index packet = some after) :
    ∃ buf, after = w.appended index packet buf := by
  by_cases hlen : packet.header.bodyLen.toNat ≤ nsPacketBodyMax
  · rw [nsServerEnqueuePacket_eq w index packet hlen,
      Option.map_eq_some_iff] at henqueue
    rcases henqueue with ⟨buf, -, hafter⟩
    exact ⟨buf, hafter.symm⟩
  · rw [nsServerEnqueuePacket, dif_neg hlen] at henqueue
    exact absurd henqueue (Option.some_ne_none after).symm

theorem nsServerDisconnectClient_false
    (hactive : (w.clients index).active) :
    nsServerDisconnectClient w index false =
      releaseSlot (w.observe (.disconnected (w.connection index)))
        index := by
  simp [nsServerDisconnectClient, disconnectBody, hactive]

theorem nsServerDisconnectClient_inactive (announceLeave : Bool)
    (hactive : (w.clients index).active = false) :
    nsServerDisconnectClient w index announceLeave = w := by
  simp [nsServerDisconnectClient, disconnectBody, hactive]

theorem releaseSlot_clients :
    (releaseSlot w index).clients =
      Function.update w.clients index .reset := rfl

theorem releaseSlot_trace :
    (releaseSlot w index).trace =
      w.trace ++ closingNotes (w.clients index) (w.connection index) := rfl

theorem World.appended_clients (buf : NsSendBuf) :
    (w.appended index packet buf).clients =
      Function.update w.clients index
        { w.clients index with sendBuf := buf } := rfl

theorem World.appended_trace (buf : NsSendBuf) :
    (w.appended index packet buf).trace =
      w.trace ++ [.enqueued (w.connection index) packet] := rfl

theorem World.appended_connection (buf : NsSendBuf) :
    (w.appended index packet buf).connection = w.connection := rfl

theorem World.evicted_clients :
    (w.evicted index packet).clients =
      Function.update w.clients index .reset := rfl

theorem World.evicted_trace :
    (w.evicted index packet).trace =
      w.trace ++ (.overflowed (w.connection index) packet ::
        .disconnected (w.connection index) ::
          closingNotes (w.clients index) (w.connection index)) := by
  rw [World.evicted, releaseSlot_trace]
  simp [World.observe]

theorem World.evicted_connection :
    (w.evicted index packet).connection = w.connection := rfl

end Elementary

/-! ## The broadcast slot by slot -/

def Recipient (excludeIndex : Option SlotIndex) (index : SlotIndex)
    (client : NsClient) : Prop :=
  client.active ∧ client.joined ∧ some index ≠ excludeIndex

instance (excludeIndex : Option SlotIndex) (index : SlotIndex)
    (client : NsClient) : Decidable (Recipient excludeIndex index client) :=
  inferInstanceAs (Decidable (_ ∧ _ ∧ _))

section Visits

variable (packet : NsPacket)
  (hlen : packet.header.bodyLen.toNat ≤ nsPacketBodyMax)
  (excludeIndex : Option SlotIndex)

theorem broadcastVisit_eq (w : World) (index : SlotIndex) :
    broadcastVisit nsServerDisconnectClient packet hlen excludeIndex w
        index =
      if Recipient excludeIndex index (w.clients index) then
        match nsClientEnqueueSend (w.clients index).sendBuf
            (wireBuffer packet hlen) with
        | some buf => w.appended index packet buf
        | none => w.evicted index packet
      else w := by
  unfold broadcastVisit enqueueWire
  simp only
  by_cases hrecipient : Recipient excludeIndex index (w.clients index)
  · obtain ⟨hactive, hjoined, hindex⟩ := id hrecipient
    rw [if_pos hrecipient, if_neg (by simp [hactive, hjoined, hindex])]
    cases nsClientEnqueueSend (w.clients index).sendBuf
        (wireBuffer packet hlen) with
    | none => exact nsServerDisconnectClient_false _ _ hactive
    | some buf => rfl
  · rw [if_neg hrecipient, if_pos]
    simp only [Recipient, not_and_or, ne_eq, not_not] at hrecipient
    rcases hrecipient with hactive | hjoined | hindex
    · simp [hactive]
    · simp [hjoined]
    · simp [hindex]

/-- What every visit preserves holds after the broadcast. -/
theorem nsServerBroadcast_induction {motive : World → Prop} {w : World}
    (hstart : motive (w.observe (.broadcast packet)))
    (happended : ∀ w index buf, motive w →
      Recipient excludeIndex index (w.clients index) →
      nsClientEnqueueSend (w.clients index).sendBuf
        (wireBuffer packet hlen) = some buf →
      motive (w.appended index packet buf))
    (hevicted : ∀ w index, motive w →
      Recipient excludeIndex index (w.clients index) →
      nsClientEnqueueSend (w.clients index).sendBuf
        (wireBuffer packet hlen) = none →
      motive (w.evicted index packet)) :
    motive (nsServerBroadcast w packet excludeIndex) := by
  rw [nsServerBroadcast_eq, broadcastBody, dif_pos hlen]
  apply List.foldlRecOn (motive := motive) _ _ hstart
  intro w hw index _
  rw [broadcastVisit_eq]
  split
  · next hrecipient =>
      split
      · next buf henqueue => exact happended w index buf hw hrecipient henqueue
      · next henqueue => exact hevicted w index hw hrecipient henqueue
  · exact hw

def broadcastClient (index : SlotIndex) (client : NsClient) : NsClient :=
  if Recipient excludeIndex index client then
    match nsClientEnqueueSend client.sendBuf (wireBuffer packet hlen) with
    | some buf => { client with sendBuf := buf }
    | none => .reset
  else client

theorem broadcastClient_excluded (index : SlotIndex)
    (client : NsClient) :
    broadcastClient packet hlen (some index) index client = client :=
  if_neg fun hrecipient => hrecipient.2.2 rfl

def broadcastNotes (index : SlotIndex) (client : NsClient)
    (connection : ℕ) : List Obs :=
  if Recipient excludeIndex index client then
    match nsClientEnqueueSend client.sendBuf (wireBuffer packet hlen) with
    | some _ => [.enqueued connection packet]
    | none =>
        .overflowed connection packet :: .disconnected connection ::
          closingNotes client connection
  else []

theorem broadcastVisit_local :
    Local (fun (w : World) index => (w.clients index, w.connection index))
      World.trace
      (broadcastVisit nsServerDisconnectClient packet hlen excludeIndex)
      (fun index slot =>
        (broadcastClient packet hlen excludeIndex index slot.1, slot.2))
      (fun index slot =>
        broadcastNotes packet hlen excludeIndex index slot.1 slot.2) := by
  constructor
  · intro w index
    rw [broadcastVisit_eq]
    unfold broadcastClient
    split
    · next hrecipient =>
        split
        · next buf henqueue =>
            simp only [henqueue, World.appended_clients,
              World.appended_connection, Function.update_self]
        · next henqueue =>
            simp only [henqueue, World.evicted_clients,
              World.evicted_connection, Function.update_self]
    · rfl
  · intro w index other hne
    rw [broadcastVisit_eq]
    split
    · split
      · simp only [World.appended_clients, World.appended_connection,
          Function.update_of_ne hne]
      · simp only [World.evicted_clients, World.evicted_connection,
          Function.update_of_ne hne]
    · rfl
  · intro w index
    rw [broadcastVisit_eq]
    unfold broadcastNotes
    split
    · next hrecipient =>
        split
        · next buf henqueue => simp only [henqueue, World.appended_trace]
        · next henqueue => simp only [henqueue, World.evicted_trace]
    · simp

/-- A broadcast acts on each slot as on the slot alone. -/
theorem nsServerBroadcast_clients (w : World) (index : SlotIndex) :
    (nsServerBroadcast w packet excludeIndex).clients index =
      broadcastClient packet hlen excludeIndex index (w.clients index) := by
  have hread := (broadcastVisit_local packet hlen excludeIndex).read_of_mem
    (List.nodup_finRange nsMaxClients) (List.mem_finRange index)
    (w.observe (.broadcast packet))
  rw [Prod.mk.injEq] at hread
  rw [nsServerBroadcast_eq, broadcastBody, dif_pos hlen]
  exact hread.1

def fanout (w : World) : List Obs :=
  (List.finRange nsMaxClients).flatMap fun index =>
    broadcastNotes packet hlen excludeIndex index (w.clients index)
      (w.connection index)

theorem nsServerBroadcast_trace (w : World) :
    (nsServerBroadcast w packet excludeIndex).trace =
      w.trace ++ .broadcast packet ::
        fanout packet hlen excludeIndex w := by
  have hlog := (broadcastVisit_local packet hlen excludeIndex).log_foldl
    (List.nodup_finRange nsMaxClients) (w.observe (.broadcast packet))
  rw [nsServerBroadcast_eq, broadcastBody, dif_pos hlen, hlog]
  simp only [World.observe, List.append_assoc, List.singleton_append]
  rfl

include hlen in
theorem nsServerBroadcast_frame (w : World) :
    let after := nsServerBroadcast w packet excludeIndex
    after.connection = w.connection ∧
      after.connections = w.connections ∧
      after.database = w.database := by
  apply nsServerBroadcast_induction packet hlen excludeIndex
    (motive := fun after => after.connection = w.connection ∧
      after.connections = w.connections ∧ after.database = w.database)
  · exact ⟨rfl, rfl, rfl⟩
  · intro v index buf hv _ _
    exact hv
  · intro v index hv _ _
    exact hv

end Visits

end NodeSignal
