import NodeSignal.Moves

/-!
# Clients that have not joined

A client that has not joined has nothing in its send buffer and no name: an
ERROR packet for such a client is the last thing that happens to it.  Hence
the ACK for its JOIN always finds room.
-/

namespace NodeSignal

open CStrings

structure Settled (w : World) : Prop where
  saved : w.database.saved = none
  unjoined : ∀ index, (w.clients index).joined = false →
    (w.clients index).sendBuf = .reset ∧
      (w.clients index).username = NsClient.reset.username
  active : ∀ index, (w.clients index).joined →
    (w.clients index).active
  valid : ∀ index, (w.clients index).active →
    nsSocketIsValid (w.clients index).socketFd

theorem settled_boot (tables : Tables) (listenSocket : NsSocket)
    (errno : Errno) (clock : Clock) :
    Settled (World.boot tables listenSocket errno clock) := by
  constructor
  · rfl
  · intro index _
    exact ⟨rfl, rfl⟩
  · intro index hjoined
    exact absurd hjoined Bool.false_ne_true
  · intro index hactive
    exact absurd hactive Bool.false_ne_true

section Changes

variable {w w' : World}

theorem Settled.congr (hsettled : Settled w)
    (hsaved : w'.database.saved = w.database.saved)
    (hclients : w'.clients = w.clients) : Settled w' := by
  constructor
  · rw [hsaved, hsettled.saved]
  · rw [hclients]
    exact hsettled.unjoined
  · rw [hclients]
    exact hsettled.active
  · rw [hclients]
    exact hsettled.valid

theorem Settled.update (hsettled : Settled w)
    (hsaved : w'.database.saved = w.database.saved)
    {index : SlotIndex} {client : NsClient}
    (hclients : w'.clients = Function.update w.clients index client)
    (hunjoined : client.joined = false →
      client.sendBuf = .reset ∧
        client.username = NsClient.reset.username)
    (hactive : client.joined → client.active)
    (hvalid : client.active → nsSocketIsValid client.socketFd) :
    Settled w' := by
  constructor
  · rw [hsaved, hsettled.saved]
  · intro other
    rw [hclients]
    by_cases hother : other = index
    · subst hother
      rw [Function.update_self]
      exact hunjoined
    · rw [Function.update_of_ne hother]
      exact hsettled.unjoined other
  · intro other
    rw [hclients]
    by_cases hother : other = index
    · subst hother
      rw [Function.update_self]
      exact hactive
    · rw [Function.update_of_ne hother]
      exact hsettled.active other
  · intro other
    rw [hclients]
    by_cases hother : other = index
    · subst hother
      rw [Function.update_self]
      exact hvalid
    · rw [Function.update_of_ne hother]
      exact hsettled.valid other

theorem Settled.reset (hsettled : Settled w)
    (hsaved : w'.database.saved = w.database.saved)
    {index : SlotIndex}
    (hclients : w'.clients = Function.update w.clients index .reset) :
    Settled w' :=
  hsettled.update hsaved hclients (fun _ => ⟨rfl, rfl⟩)
    (fun hjoined => absurd hjoined (by decide))
    (fun hactive => absurd hactive (by decide))

theorem Settled.appended (hsettled : Settled w) (index : SlotIndex)
    (hjoined : (w.clients index).joined) (packet : NsPacket)
    (buf : NsSendBuf) : Settled (w.appended index packet buf) := by
  apply hsettled.update (by rfl) (w.appended_clients index packet buf)
  · intro hunjoined
    exact absurd hjoined (by simpa using hunjoined)
  · intro _
    exact hsettled.active index hjoined
  · exact hsettled.valid index

theorem Settled.released (hsettled : Settled w) (index : SlotIndex) :
    Settled (releaseSlot w index) :=
  hsettled.reset rfl (releaseSlot_clients w index)

theorem Settled.broadcast (hsettled : Settled w) {packet : NsPacket}
    (hlen : packet.header.bodyLen.toNat ≤ nsPacketBodyMax)
    (excludeIndex : Option SlotIndex) :
    Settled (nsServerBroadcast w packet excludeIndex) := by
  apply nsServerBroadcast_induction packet hlen excludeIndex
  · exact hsettled.congr rfl rfl
  · intro v index buf hv hrecipient _
    exact hv.appended index hrecipient.2.1 packet buf
  · intro v index hv _ _
    have hobserved : Settled
        ((v.observe (.overflowed (v.connection index) packet)).observe
          (.disconnected (v.connection index))) :=
      hv.congr rfl rfl
    exact hobserved.released index

end Changes

/-! ## An ERROR packet in a buffer -/

theorem World.answered_cases (w : World) (index : SlotIndex)
    {packet : NsPacket}
    (hlen : packet.header.bodyLen.toNat ≤ nsPacketBodyMax) :
    (nsClientEnqueueSend (w.clients index).sendBuf
        (wireBuffer packet hlen) = none ∧
      w.answered index packet =
        w.observe (.rejected (w.connection index) packet)) ∨
    ∃ buf, nsClientEnqueueSend (w.clients index).sendBuf
        (wireBuffer packet hlen) = some buf ∧
      w.answered index packet =
        (w.observe (.rejected (w.connection index) packet)).appended index
          packet buf := by
  have hbuf : ((w.observe
      (.rejected (w.connection index) packet)).clients index).sendBuf =
        (w.clients index).sendBuf := rfl
  unfold World.answered
  rw [nsServerEnqueuePacket_eq _ _ _ hlen, hbuf]
  cases nsClientEnqueueSend (w.clients index).sendBuf
      (wireBuffer packet hlen) with
  | none => exact Or.inl ⟨rfl, rfl⟩
  | some buf => exact Or.inr ⟨buf, rfl, rfl⟩

theorem World.answered_frame (w : World) (index : SlotIndex)
    {packet : NsPacket}
    (hlen : packet.header.bodyLen.toNat ≤ nsPacketBodyMax) :
    let after := w.answered index packet
    after.database = w.database ∧ after.connection = w.connection ∧
      after.connections = w.connections ∧
      ∃ buf, after.clients = Function.update w.clients index
        { w.clients index with sendBuf := buf } := by
  rcases w.answered_cases index hlen with ⟨_, hafter⟩ | ⟨buf, _, hafter⟩
  · rw [hafter]
    refine ⟨rfl, rfl, rfl, (w.clients index).sendBuf, ?_⟩
    exact (Function.update_eq_self index w.clients).symm
  · rw [hafter]
    exact ⟨rfl, rfl, rfl, buf, rfl⟩

theorem World.answered_trace (w : World) (index : SlotIndex)
    {packet : NsPacket}
    (hlen : packet.header.bodyLen.toNat ≤ nsPacketBodyMax) :
    (w.answered index packet).trace =
        w.trace ++ [.rejected (w.connection index) packet] ∨
      (w.answered index packet).trace =
        w.trace ++ [.rejected (w.connection index) packet,
          .enqueued (w.connection index) packet] := by
  rcases w.answered_cases index hlen with ⟨_, hafter⟩ | ⟨buf, _, hafter⟩
  · exact Or.inl (by rw [hafter]; rfl)
  · right
    rw [hafter, World.appended_trace]
    simp [World.observe]

theorem World.dropped_clients (w : World) (index : SlotIndex) :
    (w.dropped index).clients =
      Function.update w.clients index .reset := rfl

theorem World.answered_dropped_clients (w : World) (index : SlotIndex)
    {packet : NsPacket}
    (hlen : packet.header.bodyLen.toNat ≤ nsPacketBodyMax) :
    ((w.answered index packet).dropped index).clients =
      Function.update w.clients index .reset := by
  rcases (w.answered_frame index hlen).2.2.2 with ⟨buf, hclients⟩
  rw [World.dropped_clients, hclients, Function.update_idem]

@[simp] theorem nsClientDrainSend_reset (outcomes : List SendOutcome) :
    nsClientDrainSend outcomes .reset = ⟨0, .reset, [], none⟩ := by
  cases outcomes <;> rfl

theorem turnDown_frame (w : World) (connection : ℕ)
    (socketFd : NsSocket) (outcomes : List SendOutcome) :
    let after := turnDown w connection socketFd outcomes
    after.clients = w.clients ∧ after.pollFds = w.pollFds ∧
      after.clientCount = w.clientCount ∧ after.clamps = w.clamps ∧
      after.database = w.database ∧ after.connection = w.connection ∧
      after.connections = w.connections := by
  unfold turnDown
  simp only
  split <;> exact ⟨rfl, rfl, rfl, rfl, rfl, rfl, rfl⟩

theorem turnDown_trace (w : World) (connection : ℕ)
    (socketFd : NsSocket) (outcomes : List SendOutcome) :
    ∃ bytes, (turnDown w connection socketFd outcomes).trace =
      w.trace ++ [.sent connection bytes, .closed connection socketFd] := by
  have hfits : (text (literal "The server is full right now.")).length ≤
      nsPacketBodyMax := by
    decide
  rcases nsPacketSet_isSome NsPacketType.error.code 0 (nsUnixTimeNow w)
    hfits with ⟨packet, hset⟩
  refine ⟨(nsSendPacket socketFd packet outcomes).sent, ?_⟩
  simp [turnDown, hset, World.observe, World.setErrno, World.tick]

theorem nsPacketSet_bodyLen {type : UInt8} {senderId timestamp : UInt32}
    {body : Option (List UInt8)} {packet : NsPacket}
    (hset : nsPacketSet type senderId timestamp body = some packet) :
    packet.header.bodyLen.toNat ≤ nsPacketBodyMax :=
  (nsPacketSet_eq_some hset).2.2.2.2.1

/-- Every move keeps the clients that have not joined settled. -/
theorem Move.settled {allow : World → NsSocket → Prop} {w w' : World}
    (hmove : Move allow w w') (hsettled : Settled w) : Settled w' := by
  cases hmove with
  | errno errno => exact hsettled.congr rfl rfl
  | clock clock => exact hsettled.congr rfl rfl
  | polled revents => exact hsettled.congr rfl rfl
  | dispatched index packet hactive => exact hsettled.congr rfl rfl
  | rebuked index packet hactive hjoined htype hlen =>
      rcases w.answered_frame index hlen with ⟨hdatabase, -, -, buf, hclients⟩
      apply hsettled.update (by rw [hdatabase]) hclients
      · intro hunjoined
        exact absurd hjoined (by simpa using hunjoined)
      · intro _
        exact hactive
      · exact hsettled.valid index
  | turnedAway index packet hactive hjoined htype hlen =>
      apply hsettled.reset _ (w.answered_dropped_clients index hlen)
      exact congrArg NsDatabase.saved (w.answered_frame index hlen).1
  | dropped index hactive =>
      have hobserved : Settled
          (w.observe (.disconnected (w.connection index))) :=
        hsettled.congr rfl rfl
      exact hobserved.released index
  | departed index timestamp notice hactive hjoined hnotice =>
      have hobserved : Settled
          (w.observe (.disconnected (w.connection index))) :=
        hsettled.congr rfl rfl
      exact (hobserved.broadcast (nsPacketSet_bodyLen hnotice)
        (some index)).released index
  | refused socketFd outcomes hvalid hallow =>
      have hframe := turnDown_frame (w.greeted socketFd) w.connections
        socketFd outcomes
      apply hsettled.congr _ hframe.1
      rw [hframe.2.2.2.2.1]
      rfl
  | occupied socketFd index hfree hvalid hallow =>
      apply hsettled.update (by rfl) (by rfl)
      · intro _
        exact ⟨rfl, rfl⟩
      · intro hjoined
        exact absurd hjoined (by simp [NsClient.reset])
      · intro _
        exact hvalid
  | drained index outcomes hactive =>
      apply hsettled.update (by rfl) (by rfl)
      · intro hunjoined
        rcases hsettled.unjoined index hunjoined with ⟨hbuf, hname⟩
        rw [hbuf, nsClientDrainSend_reset]
        exact ⟨rfl, hname⟩
      · intro _
        exact hactive
      · exact hsettled.valid index
  | registered database hgrow =>
      exact hsettled.congr (hgrow.saved.trans hsettled.saved.symm) rfl
  | joined index username userId timestamp timestamp' ack notice hlen buf
      hactive hjoined hunused huser hshort hack henqueue hnotice =>
      have hseated : Settled (w.seated index userId username) := by
        apply hsettled.update (by rfl) (by rfl)
        · intro hunjoined
          simp at hunjoined
        · intro _
          exact hactive
        · exact hsettled.valid index
      have hacknowledged := hseated.appended index
        (by simp [World.seated, World.observe, World.setClient]) ack buf
      exact hacknowledged.broadcast (nsPacketSet_bodyLen hnotice) none
  | texted index database row timestamp packet hactive hjoined hsaved =>
      have hstored : Settled { w with database := database } :=
        hsettled.congr hsaved rfl
      exact hstored.broadcast
        (nsPacketSet_bodyLen (by assumption)) none

theorem Moves.settled {allow : World → NsSocket → Prop} {w w' : World}
    (hmoves : Moves allow w w') (hsettled : Settled w) : Settled w' := by
  induction hmoves with
  | refl => exact hsettled
  | tail _ hmove ih => exact hmove.settled ih

/-! ## Properties of single clients -/

/-- What holds of a client at the start of its connection and survives the
changes that the moves make to it. -/
structure Lasting (good : NsClient → Prop) : Prop where
  reset : good .reset
  fresh : ∀ socketFd connectTime,
    good { NsClient.reset with
      socketFd := socketFd
      active := true
      connectTime := connectTime }
  buffered : ∀ client buf, good client →
    good { client with sendBuf := buf }
  seated : ∀ client userId username,
    (text username).length ≤ nsUsernameMax → good client →
    good { client with
      joined := true
      userId := userId
      username := username }

section Lasting

variable {good : NsClient → Prop} {w w' : World} {index : SlotIndex}

theorem forall_clients_update {client : NsClient}
    (hgood : ∀ index, good (w.clients index)) (hclient : good client)
    (hclients : w'.clients = Function.update w.clients index client) :
    ∀ index, good (w'.clients index) := by
  rw [hclients]
  exact (Function.forall_update_iff w.clients fun _ => good).mpr
    ⟨hclient, fun other _ => hgood other⟩

theorem Lasting.broadcast (hlasting : Lasting good)
    (hgood : ∀ index, good (w.clients index)) {packet : NsPacket}
    (hlen : packet.header.bodyLen.toNat ≤ nsPacketBodyMax)
    (excludeIndex : Option SlotIndex) :
    ∀ index,
      good ((nsServerBroadcast w packet excludeIndex).clients index) := by
  intro index
  rw [nsServerBroadcast_clients packet hlen]
  unfold broadcastClient
  split_ifs
  · split
    · exact hlasting.buffered _ _ (hgood index)
    · exact hlasting.reset
  · exact hgood index

/-- Every move keeps what lasts. -/
theorem Move.lasting {allow : World → NsSocket → Prop}
    (hmove : Move allow w w') (hlasting : Lasting good)
    (hgood : ∀ index, good (w.clients index)) :
    ∀ index, good (w'.clients index) := by
  cases hmove with
  | errno errno => exact hgood
  | clock clock => exact hgood
  | polled revents => exact hgood
  | dispatched index packet hactive => exact hgood
  | rebuked index packet hactive hjoined htype hlen =>
      rcases (w.answered_frame index hlen).2.2.2 with ⟨buf, hclients⟩
      exact forall_clients_update hgood
        (hlasting.buffered _ _ (hgood index)) hclients
  | turnedAway index packet hactive hjoined htype hlen =>
      exact forall_clients_update hgood hlasting.reset
        (w.answered_dropped_clients index hlen)
  | dropped index hactive =>
      exact forall_clients_update hgood hlasting.reset
        (w.dropped_clients index)
  | departed index timestamp notice hactive hjoined hnotice =>
      have hbroadcast := hlasting.broadcast
        (w := w.observe (.disconnected (w.connection index))) hgood
        (nsPacketSet_bodyLen hnotice) (some index)
      exact forall_clients_update hbroadcast hlasting.reset
        (releaseSlot_clients _ index)
  | refused socketFd outcomes hvalid hallow =>
      rw [(turnDown_frame (w.greeted socketFd) w.connections socketFd
        outcomes).1]
      exact hgood
  | occupied socketFd index hfree hvalid hallow =>
      exact forall_clients_update hgood (hlasting.fresh socketFd _)
        (occupySlot_clients (w.greeted socketFd) index w.connections
          socketFd)
  | drained index outcomes hactive =>
      exact forall_clients_update hgood
        (hlasting.buffered _ _ (hgood index))
        (w.flushed_clients index outcomes)
  | registered database hgrow => exact hgood
  | joined index username userId timestamp timestamp' ack notice hlen buf
      hactive hjoined hunused huser hshort hack henqueue hnotice =>
      have hseated := forall_clients_update hgood
        (hlasting.seated _ userId username hshort (hgood index))
        (w.seated_clients index userId username)
      have hacknowledged := forall_clients_update hseated
        (hlasting.buffered _ buf (hseated index))
        (World.appended_clients _ index ack buf)
      exact hlasting.broadcast hacknowledged (nsPacketSet_bodyLen hnotice)
        none
  | texted index database row timestamp packet hactive hjoined hsaved
      husers hseq hmessages hsender hbody hsentAt hpacket =>
      have hstored : ∀ other,
          good (({ w with database := database } : World).clients other) :=
        hgood
      exact hlasting.broadcast hstored (nsPacketSet_bodyLen hpacket) none

end Lasting

/-! ## The record and the connections only grow -/

theorem Move.trace_grows {allow : World → NsSocket → Prop} {w w' : World}
    (hmove : Move allow w w') : w.trace <+: w'.trace := by
  have hdropped : ∀ (v : World) (index : SlotIndex),
      v.trace <+: (v.dropped index).trace := by
    intro v index
    rw [World.dropped, releaseSlot_trace]
    exact (List.prefix_append _ _).trans (List.prefix_append _ _)
  have hbroadcast : ∀ (v : World) (packet : NsPacket)
      (excludeIndex : Option SlotIndex),
      packet.header.bodyLen.toNat ≤ nsPacketBodyMax →
        v.trace <+: (nsServerBroadcast v packet excludeIndex).trace := by
    intro v packet excludeIndex hlen
    rw [nsServerBroadcast_trace packet hlen]
    exact List.prefix_append _ _
  have hanswered : ∀ (index : SlotIndex) (packet : NsPacket),
      packet.header.bodyLen.toNat ≤ nsPacketBodyMax →
        w.trace <+: (w.answered index packet).trace := by
    intro index packet hlen
    rcases w.answered_trace index hlen with htrace | htrace
    · rw [htrace]
      exact List.prefix_append _ _
    · rw [htrace]
      exact List.prefix_append _ _
  cases hmove with
  | errno errno => exact List.prefix_rfl
  | clock clock => exact List.prefix_rfl
  | polled revents => exact List.prefix_rfl
  | dispatched index packet hactive => exact List.prefix_append _ _
  | rebuked index packet hactive hjoined htype hlen =>
      exact hanswered index packet hlen
  | turnedAway index packet hactive hjoined htype hlen =>
      exact (hanswered index packet hlen).trans (hdropped _ index)
  | dropped index hactive => exact hdropped w index
  | departed index timestamp notice hactive hjoined hnotice =>
      have hbefore : w.trace <+:
          (w.observe (.disconnected (w.connection index))).trace :=
        List.prefix_append _ _
      rw [World.departed, releaseSlot_trace]
      exact (hbefore.trans (hbroadcast _ notice _
        (nsPacketSet_bodyLen hnotice))).trans (List.prefix_append _ _)
  | refused socketFd outcomes hvalid hallow =>
      rcases turnDown_trace (w.greeted socketFd) w.connections socketFd
        outcomes with ⟨bytes, htrace⟩
      rw [htrace]
      exact (List.prefix_append _ _).trans (List.prefix_append _ _)
  | occupied socketFd index hfree hvalid hallow =>
      exact List.prefix_append _ _
  | drained index outcomes hactive => exact List.prefix_append _ _
  | registered database hgrow => exact List.prefix_rfl
  | joined index username userId timestamp timestamp' ack notice hlen buf
      hactive hjoined hunused huser hshort hack henqueue hnotice =>
      have hbefore : w.trace <+: ((w.seated index userId username).appended
          index ack buf).trace :=
        (List.prefix_append _ _).trans (List.prefix_append _ _)
      exact hbefore.trans
        (hbroadcast _ notice none (nsPacketSet_bodyLen hnotice))
  | texted index database row timestamp packet hactive hjoined hsaved
      husers hseq hmessages hsender hbody hsentAt hpacket =>
      exact hbroadcast { w with database := database } packet none
        (nsPacketSet_bodyLen hpacket)

theorem Moves.trace_grows {allow : World → NsSocket → Prop}
    {w w' : World} (hmoves : Moves allow w w') : w.trace <+: w'.trace := by
  induction hmoves with
  | refl => exact List.prefix_rfl
  | tail _ hmove ih => exact ih.trans hmove.trace_grows

theorem Move.connections_le {allow : World → NsSocket → Prop}
    {w w' : World} (hmove : Move allow w w') :
    w.connections ≤ w'.connections := by
  cases hmove with
  | errno errno => exact le_rfl
  | clock clock => exact le_rfl
  | polled revents => exact le_rfl
  | dispatched index packet hactive => exact le_rfl
  | rebuked index packet hactive hjoined htype hlen =>
      exact (w.answered_frame index hlen).2.2.1.ge
  | turnedAway index packet hactive hjoined htype hlen =>
      exact (w.answered_frame index hlen).2.2.1.ge
  | dropped index hactive => exact le_rfl
  | departed index timestamp notice hactive hjoined hnotice =>
      have hframe := nsServerBroadcast_frame notice
        (nsPacketSet_bodyLen hnotice) (some index)
        (w.observe (.disconnected (w.connection index)))
      have hconnections : (w.departed index notice).connections =
          (nsServerBroadcast (w.observe (.disconnected (w.connection index)))
            notice (some index)).connections := rfl
      rw [hconnections, hframe.2.1]
      exact le_rfl
  | refused socketFd outcomes hvalid hallow =>
      exact (Nat.le_succ _).trans (turnDown_frame (w.greeted socketFd)
        w.connections socketFd outcomes).2.2.2.2.2.2.ge
  | occupied socketFd index hfree hvalid hallow => exact Nat.le_succ _
  | drained index outcomes hactive => exact le_rfl
  | registered database hgrow => exact le_rfl
  | joined index username userId timestamp timestamp' ack notice hlen buf
      hactive hjoined hunused huser hshort hack henqueue hnotice =>
      rw [(nsServerBroadcast_frame notice (nsPacketSet_bodyLen hnotice)
        none _).2.1]
      exact le_rfl
  | texted index database row timestamp packet hactive hjoined hsaved
      husers hseq hmessages hsender hbody hsentAt hpacket =>
      rw [(nsServerBroadcast_frame packet (nsPacketSet_bodyLen hpacket)
        none _).2.1]

theorem Moves.connections_le {allow : World → NsSocket → Prop}
    {w w' : World} (hmoves : Moves allow w w') :
    w.connections ≤ w'.connections := by
  induction hmoves with
  | refl => exact le_rfl
  | tail _ hmove ih => exact ih.trans hmove.connections_le

end NodeSignal
