import NodeSignal.FramedRecord

/-!
# The stream to each client

The bytes that the kernel is given for a connection, followed by those that
wait in its send buffer, are the wire forms of the packets that were appended
for it, in order.  Whatever has arrived at the client therefore parses into
the first of these packets, however the transport splits the bytes.
-/

namespace NodeSignal

open CStrings Frames Runs

/-! ## What a failing send leaves behind -/

/-- `ns_send_all` hands over the buffer from its front, all of it if it
succeeds. -/
theorem nsSendAll_handed (outcomes : List SendOutcome)
    (buffer : List UInt8) :
    (nsSendAll outcomes buffer).sent <+: buffer ∧
      ((nsSendAll outcomes buffer).status = 0 →
        (nsSendAll outcomes buffer).sent = buffer) := by
  induction outcomes generalizing buffer with
  | nil => exact ⟨List.prefix_rfl, fun _ => rfl⟩
  | cons outcome rest ih =>
      unfold nsSendAll
      by_cases hempty : buffer = []
      · simp [hempty]
      · rw [if_neg hempty]
        cases outcome with
        | took count =>
            have hih := ih (buffer.drop (sendCount count buffer.length))
            have hwhole := List.take_append_drop
              (sendCount count buffer.length) buffer
            simp only
            constructor
            · have hparts := (List.prefix_append_right_inj
                (buffer.take (sendCount count buffer.length))).mpr hih.1
              rwa [hwhole] at hparts
            · intro hstatus
              rw [hih.2 hstatus, hwhole]
        | failed errno => simp

theorem nsSendPacket_handed (socketFd : NsSocket) (packet : NsPacket)
    (outcomes : List SendOutcome) :
    (nsSendPacket socketFd packet outcomes).sent <+: packet.wire ∧
      ((nsSendPacket socketFd packet outcomes).status = 0 →
        (nsSendPacket socketFd packet outcomes).sent = packet.wire) := by
  have hheader := nsSendAll_handed outcomes (sendHeaderBuffer packet)
  have hbody := nsSendAll_handed
    (nsSendAll outcomes (sendHeaderBuffer packet)).outcomes packet.payload
  rw [← sendHeaderBuffer_append_payload]
  unfold nsSendPacket
  split
  · simp
  split
  · simp
  simp only
  split
  · next hfailed =>
      exact ⟨hheader.1.trans (List.prefix_append _ _), by simp⟩
  · next hstatus =>
      have hsent := hheader.2 (not_not.mp hstatus)
      split
      · next hzero =>
          have hpayload : packet.payload = [] := by
            simp [NsPacket.payload, hzero]
          simp [hsent, hpayload]
      · simp only
        rw [hsent, List.prefix_append_right_inj,
          List.append_cancel_left_eq]
        exact hbody

/-! ## The invariant -/

/-- The connection was accepted by a full server. -/
def TurnedAway (connection : ℕ) (trace : List Obs) : Prop :=
  received connection trace = [] ∧ ∃ packet : NsPacket,
    packet.Canonical ∧ packet.header.type = NsPacketType.error.code ∧
      handedOver connection trace <+: packet.wire

structure Streamed (w : World) : Prop where
  numbered : ∀ index, (w.clients index).active →
    w.connection index < w.connections
  distinct : Distinct w
  sound : ∀ index, (w.clients index).sendBuf.Sound
  fresh : ∀ connection, w.connections ≤ connection →
    received connection w.trace = [] ∧ handedOver connection w.trace = []
  live : ∀ index, (w.clients index).active →
    wires (received (w.connection index) w.trace) =
      handedOver (w.connection index) w.trace ++
        (w.clients index).sendBuf.queued
  handed : ∀ connection,
    handedOver connection w.trace <+: wires (received connection w.trace) ∨
      TurnedAway connection w.trace

theorem NsSendBuf.reset_sound : NsSendBuf.reset.Sound :=
  Nat.zero_lt_succ _

theorem streamed_boot (tables : Tables) (listenSocket : NsSocket)
    (errno : Errno) (clock : Clock) :
    Streamed (World.boot tables listenSocket errno clock) where
  numbered := by
    intro index hactive
    exact absurd hactive (by simp [World.boot, nsServerInit, NsClient.reset])
  distinct := by
    intro index other hactive
    exact absurd hactive (by simp [World.boot, nsServerInit, NsClient.reset])
  sound := fun _ => NsSendBuf.reset_sound
  fresh := fun _ _ => ⟨rfl, rfl⟩
  live := by
    intro index hactive
    exact absurd hactive (by simp [World.boot, nsServerInit, NsClient.reset])
  handed := fun _ => Or.inl List.prefix_rfl

/-- The notes that are neither an append nor a transfer. -/
def Obs.Aside : Obs → Prop
  | .enqueued _ _ => False
  | .sent _ _ => False
  | _ => True

@[simp] theorem received_append (connection : ℕ)
    (before after : List Obs) :
    received connection (before ++ after) =
      received connection before ++ received connection after :=
  List.filterMap_append

theorem aside_received {notes : List Obs}
    (haside : ∀ obs ∈ notes, obs.Aside) (connection : ℕ) :
    received connection notes = [] := by
  refine List.filterMap_eq_nil_iff.mpr fun obs hobs => ?_
  have hobs' := haside obs hobs
  cases obs <;> simp_all [Obs.receipt, Obs.Aside]

theorem aside_handedOver {notes : List Obs}
    (haside : ∀ obs ∈ notes, obs.Aside) (connection : ℕ) :
    handedOver connection notes = [] := by
  refine List.flatMap_eq_nil_iff.mpr fun obs hobs => ?_
  have hobs' := haside obs hobs
  cases obs <;> simp_all [Obs.handed, Obs.Aside]

theorem aside_closingNotes (client : NsClient) (connection : ℕ) :
    ∀ obs ∈ closingNotes client connection, obs.Aside := by
  unfold closingNotes
  split_ifs
  · simp [Obs.Aside]
  · simp

section Changes

variable {w w' : World} {index : SlotIndex}

/-- What neither appends nor transfers, and keeps the buffers of the slots
that stay in use. -/
theorem Streamed.aside (hstreamed : Streamed w)
    (hadds : Adds Obs.Aside w w')
    (hconnection : w'.connection = w.connection)
    (hconnections : w'.connections = w.connections)
    (hclients : ∀ index, (w'.clients index).sendBuf.Sound ∧
      ((w'.clients index).active → (w.clients index).active ∧
        (w'.clients index).sendBuf = (w.clients index).sendBuf)) :
    Streamed w' := by
  rcases hadds with ⟨notes, htrace, hnotes⟩
  have hreceived : ∀ connection,
      received connection w'.trace = received connection w.trace := by
    intro connection
    rw [htrace, received_append, aside_received hnotes, List.append_nil]
  have hhanded : ∀ connection,
      handedOver connection w'.trace = handedOver connection w.trace := by
    intro connection
    rw [htrace, handedOver_append, aside_handedOver hnotes,
      List.append_nil]
  refine ⟨?_, ?_, fun index => (hclients index).1, ?_, ?_, ?_⟩
  · intro index hactive
    rw [hconnection, hconnections]
    exact hstreamed.numbered index ((hclients index).2 hactive).1
  · intro left right hleft hright heq
    rw [hconnection] at heq
    exact hstreamed.distinct left right ((hclients left).2 hleft).1
      ((hclients right).2 hright).1 heq
  · intro connection hfresh
    rw [hconnections] at hfresh
    rw [hreceived, hhanded]
    exact hstreamed.fresh connection hfresh
  · intro index hactive
    rcases (hclients index).2 hactive with ⟨hwas, hbuf⟩
    rw [hconnection, hreceived, hhanded, hbuf]
    exact hstreamed.live index hwas
  · intro connection
    unfold TurnedAway
    rw [hreceived, hhanded]
    exact hstreamed.handed connection

theorem Streamed.same (hstreamed : Streamed w)
    (hadds : Adds Obs.Aside w w')
    (hconnection : w'.connection = w.connection)
    (hconnections : w'.connections = w.connections)
    (hclients : w'.clients = w.clients) : Streamed w' := by
  refine hstreamed.aside hadds hconnection hconnections fun index => ?_
  rw [hclients]
  exact ⟨hstreamed.sound index, fun hactive => ⟨hactive, rfl⟩⟩

theorem Streamed.observe (hstreamed : Streamed w) (obs : Obs)
    (haside : obs.Aside) : Streamed (w.observe obs) :=
  hstreamed.same (adds_observe w haside) rfl rfl rfl

theorem Streamed.released (hstreamed : Streamed w) (index : SlotIndex) :
    Streamed (releaseSlot w index) := by
  refine hstreamed.aside
    ⟨_, releaseSlot_trace w index, aside_closingNotes _ _⟩ rfl rfl
    fun other => ?_
  rw [releaseSlot_clients]
  by_cases heq : other = index
  · rw [heq, Function.update_self]
    exact ⟨NsSendBuf.reset_sound, by simp [NsClient.reset]⟩
  · rw [Function.update_of_ne heq]
    exact ⟨hstreamed.sound other, fun hactive => ⟨hactive, rfl⟩⟩

theorem Streamed.dropped (hstreamed : Streamed w) (index : SlotIndex) :
    Streamed (w.dropped index) :=
  (hstreamed.observe (.disconnected (w.connection index))
    trivial).released index

/-- The packet goes to the end of the buffer and of the record. -/
theorem Streamed.appended (hstreamed : Streamed w)
    (hactive : (w.clients index).active) {packet : NsPacket}
    (hlen : packet.header.bodyLen.toNat ≤ nsPacketBodyMax)
    {buf : NsSendBuf}
    (henqueue : nsClientEnqueueSend (w.clients index).sendBuf
      (wireBuffer packet hlen) = some buf) :
    Streamed (w.appended index packet buf) := by
  rcases nsClientEnqueueSend_of_sound (hstreamed.sound index) henqueue with
    ⟨hqueued, hsound⟩
  have hwire : (wireBuffer packet hlen).val = packet.wire :=
    assembleWire_eq_wire hlen
  rw [hwire] at hqueued
  have hreceived : ∀ connection,
      received connection (w.appended index packet buf).trace =
        received connection w.trace ++
          if w.connection index = connection then [packet] else [] := by
    intro connection
    rw [World.appended_trace, received_append]
    by_cases hown : w.connection index = connection
    · simp [received, Obs.receipt, hown]
    · simp [received, Obs.receipt, hown]
  have hhanded : ∀ connection,
      handedOver connection (w.appended index packet buf).trace =
        handedOver connection w.trace := by
    intro connection
    rw [World.appended_trace, handedOver_append]
    simp [handedOver, Obs.handed]
  have hbound := hstreamed.numbered index hactive
  have hclient : ∀ other, ((w.appended index packet buf).clients
      other).active → (w.clients other).active := by
    intro other
    rw [World.appended_clients]
    by_cases heq : other = index
    · rw [heq, Function.update_self]
      exact id
    · rw [Function.update_of_ne heq]
      exact id
  refine ⟨fun other hother => hstreamed.numbered other (hclient other hother),
    ?_, ?_, ?_, ?_, ?_⟩
  · intro left right hleft hright heq
    exact hstreamed.distinct left right (hclient left hleft)
      (hclient right hright) heq
  · intro other
    rw [World.appended_clients]
    by_cases heq : other = index
    · rw [heq, Function.update_self]
      exact hsound
    · rw [Function.update_of_ne heq]
      exact hstreamed.sound other
  · intro connection hfresh
    have hother : w.connection index ≠ connection :=
      (lt_of_lt_of_le hbound hfresh).ne
    rw [hreceived, hhanded, if_neg hother, List.append_nil]
    exact hstreamed.fresh connection hfresh
  · intro other hother
    have hlive := hstreamed.live other (hclient other hother)
    rw [World.appended_connection, hreceived, hhanded, wires_append, hlive,
      World.appended_clients]
    by_cases heq : other = index
    · rw [heq, Function.update_self, if_pos rfl, wires_singleton,
        hqueued, List.append_assoc]
    · have hne : w.connection index ≠ w.connection other := by
        intro hsame
        exact heq (hstreamed.distinct index other hactive
          (hclient other hother) hsame).symm
      rw [Function.update_of_ne heq, if_neg hne, wires_nil,
        List.append_nil]
  · intro connection
    rw [hhanded]
    by_cases hown : w.connection index = connection
    · left
      rw [← hown, hreceived, wires_append, hstreamed.live index hactive,
        List.append_assoc]
      exact List.prefix_append _ _
    · have hsame : received connection
          (w.appended index packet buf).trace =
            received connection w.trace := by
        rw [hreceived, if_neg hown, List.append_nil]
      unfold TurnedAway
      rw [hsame, hhanded]
      exact hstreamed.handed connection

theorem Streamed.answered (hstreamed : Streamed w)
    (hactive : (w.clients index).active) {packet : NsPacket}
    (hlen : packet.header.bodyLen.toNat ≤ nsPacketBodyMax) :
    Streamed (w.answered index packet) := by
  have hobserved : Streamed
      (w.observe (.rejected (w.connection index) packet)) :=
    hstreamed.observe _ trivial
  rcases w.answered_cases index hlen with
    ⟨-, hafter⟩ | ⟨buf, henqueue, hafter⟩
  · rw [hafter]
    exact hobserved
  · rw [hafter]
    exact hobserved.appended hactive hlen henqueue

theorem Streamed.broadcast (hstreamed : Streamed w) {packet : NsPacket}
    (hlen : packet.header.bodyLen.toNat ≤ nsPacketBodyMax)
    (excludeIndex : Option SlotIndex) :
    Streamed (nsServerBroadcast w packet excludeIndex) := by
  apply nsServerBroadcast_induction packet hlen excludeIndex
    (motive := Streamed)
  · exact hstreamed.observe _ trivial
  · intro v other buf hv hrecipient henqueue
    exact hv.appended hrecipient.1 hlen henqueue
  · intro v other hv _ _
    exact ((hv.observe (.overflowed (v.connection other) packet)
      trivial).observe (.disconnected (v.connection other))
        trivial).released other

/-- A drain that does not overrun takes bytes from the front of the buffer
and appends them to those handed over. -/
theorem Streamed.flushed (hstreamed : Streamed w)
    (hactive : (w.clients index).active) {outcomes : List SendOutcome}
    (hfits : ¬ (w.clients index).sendBuf.Overruns outcomes) :
    Streamed (w.flushed index outcomes) := by
  have hqueued := nsClientDrainSend_of_not_overruns hfits
  have hreceived : ∀ connection,
      received connection (w.flushed index outcomes).trace =
        received connection w.trace := by
    intro connection
    exact (received_append connection w.trace _).trans (List.append_nil _)
  have hhanded : ∀ connection,
      handedOver connection (w.flushed index outcomes).trace =
        handedOver connection w.trace ++
          if w.connection index = connection then
            (nsClientDrainSend outcomes (w.clients index).sendBuf).sent
          else [] := by
    intro connection
    refine (handedOver_append connection w.trace _).trans ?_
    simp [handedOver, Obs.handed]
  have hclient : ∀ other, ((w.flushed index outcomes).clients
      other).active → (w.clients other).active := by
    intro other
    rw [World.flushed_clients]
    by_cases heq : other = index
    · rw [heq, Function.update_self]
      exact id
    · rw [Function.update_of_ne heq]
      exact id
  have hbound := hstreamed.numbered index hactive
  have hlive : ∀ other, ((w.flushed index outcomes).clients
      other).active →
      wires (received (w.connection other) w.trace) =
        handedOver (w.connection other) (w.flushed index outcomes).trace ++
          ((w.flushed index outcomes).clients other).sendBuf.queued := by
    intro other hother
    rw [hhanded, hstreamed.live other (hclient other hother),
      World.flushed_clients]
    by_cases heq : other = index
    · rw [heq, Function.update_self, if_pos rfl, hqueued,
        List.append_assoc]
    · have hne : w.connection index ≠ w.connection other := by
        intro hsame
        exact heq (hstreamed.distinct index other hactive
          (hclient other hother) hsame).symm
      rw [Function.update_of_ne heq, if_neg hne, List.append_nil]
  refine ⟨fun other hother => hstreamed.numbered other (hclient other hother),
    ?_, ?_, ?_, ?_, ?_⟩
  · intro left right hleft hright heq
    exact hstreamed.distinct left right (hclient left hleft)
      (hclient right hright) heq
  · intro other
    rw [World.flushed_clients]
    by_cases heq : other = index
    · rw [heq, Function.update_self]
      have hsound := hstreamed.sound index
      have hlength := congrArg List.length hqueued
      rw [List.length_append] at hlength
      unfold NsSendBuf.Sound at hsound ⊢
      simp only
      omega
    · rw [Function.update_of_ne heq]
      exact hstreamed.sound other
  · intro connection hfresh
    have hother : w.connection index ≠ connection :=
      (lt_of_lt_of_le hbound hfresh).ne
    rw [hreceived, hhanded, if_neg hother, List.append_nil]
    exact hstreamed.fresh connection hfresh
  · intro other hother
    rw [hreceived]
    exact hlive other hother
  · intro connection
    by_cases hown : w.connection index = connection
    · left
      have hstays : ((w.flushed index outcomes).clients index).active := by
        rw [World.flushed_clients, Function.update_self]
        exact hactive
      rw [hreceived, ← hown, hlive index hstays]
      exact List.prefix_append _ _
    · have hsame : handedOver connection
          (w.flushed index outcomes).trace =
            handedOver connection w.trace := by
        rw [hhanded, if_neg hown, List.append_nil]
      unfold TurnedAway
      rw [hreceived, hsame]
      exact hstreamed.handed connection

/-! ## Accepting -/

/-- The number of a new connection has not been used. -/
theorem Streamed.occupied (hstreamed : Streamed w) (socketFd : NsSocket)
    (index : SlotIndex) :
    Streamed (occupySlot (w.greeted socketFd) w.connections socketFd
      index) := by
  have hgreeted : ∀ connection,
      received connection (w.greeted socketFd).trace =
        received connection w.trace ∧
      handedOver connection (w.greeted socketFd).trace =
        handedOver connection w.trace := by
    intro connection
    constructor
    · exact (received_append connection w.trace _).trans
        (List.append_nil _)
    · refine (handedOver_append connection w.trace _).trans ?_
      simp [handedOver, Obs.handed]
  generalize hv : occupySlot (w.greeted socketFd) w.connections socketFd
    index = v
  have hclients := occupySlot_clients (w.greeted socketFd) index
    w.connections socketFd
  have htrace : v.trace = (w.greeted socketFd).trace := by rw [← hv]; rfl
  have hconnections : v.connections = w.connections + 1 := by
    rw [← hv]; rfl
  have hconnection : v.connection =
      Function.update w.connection index w.connections := by
    rw [← hv]; rfl
  rw [hv] at hclients
  have hnew : w.connections ≤ v.connections := by omega
  have hothers : ∀ other, other ≠ index → (v.clients other).active →
      (w.clients other).active ∧ v.connection other = w.connection other ∧
        (v.clients other).sendBuf = (w.clients other).sendBuf := by
    intro other hne hactive
    rw [hclients, Function.update_of_ne hne] at hactive
    rw [hclients, hconnection, Function.update_of_ne hne,
      Function.update_of_ne hne]
    exact ⟨hactive, rfl, rfl⟩
  have hown : v.connection index = w.connections := by
    rw [hconnection, Function.update_self]
  refine ⟨?_, ?_, ?_, ?_, ?_, ?_⟩
  · intro other hactive
    by_cases heq : other = index
    · rw [heq, hown, hconnections]
      exact Nat.lt_succ_self _
    · rcases hothers other heq hactive with ⟨hwas, hsame, -⟩
      rw [hsame]
      exact (hstreamed.numbered other hwas).trans_le hnew
  · intro left right hleft hright heq
    by_cases hl : left = index
    · by_cases hr : right = index
      · rw [hl, hr]
      · rcases hothers right hr hright with ⟨hwas, hsame, -⟩
        rw [hl, hown, hsame] at heq
        exact absurd heq (hstreamed.numbered right hwas).ne'
    · rcases hothers left hl hleft with ⟨hwas, hsame, -⟩
      by_cases hr : right = index
      · rw [hr, hown, hsame] at heq
        exact absurd heq (hstreamed.numbered left hwas).ne
      · rcases hothers right hr hright with ⟨hwas', hsame', -⟩
        rw [hsame, hsame'] at heq
        exact hstreamed.distinct left right hwas hwas' heq
  · intro other
    rw [hclients]
    by_cases heq : other = index
    · rw [heq, Function.update_self]
      exact NsSendBuf.reset_sound
    · rw [Function.update_of_ne heq]
      exact hstreamed.sound other
  · intro connection hfresh
    rw [htrace, (hgreeted connection).1, (hgreeted connection).2]
    exact hstreamed.fresh connection (hnew.trans hfresh)
  · intro other hactive
    rw [htrace, (hgreeted _).1, (hgreeted _).2]
    by_cases heq : other = index
    · rw [heq, hown, hclients, Function.update_self,
        (hstreamed.fresh _ le_rfl).1, (hstreamed.fresh _ le_rfl).2]
      rfl
    · rcases hothers other heq hactive with ⟨hwas, hsame, hbuf⟩
      rw [hsame, hbuf]
      exact hstreamed.live other hwas
  · intro connection
    unfold TurnedAway
    rw [htrace, (hgreeted connection).1, (hgreeted connection).2]
    exact hstreamed.handed connection

/-- What a refused newcomer is given is the beginning of the refusal. -/
theorem turnDown_handed (w : World) (connection : ℕ) (socketFd : NsSocket)
    (outcomes : List SendOutcome) :
    ∃ packet bytes, NsPacket.Canonical packet ∧
      packet.header.type = NsPacketType.error.code ∧
      bytes <+: packet.wire ∧
      (turnDown w connection socketFd outcomes).trace =
        w.trace ++ [.sent connection bytes, .closed connection socketFd] := by
  have hfits : (text (literal "The server is full right now.")).length ≤
      nsPacketBodyMax := by
    decide
  rcases nsPacketSet_isSome NsPacketType.error.code 0 (nsUnixTimeNow w)
    hfits with ⟨packet, hset⟩
  refine ⟨packet, (nsSendPacket socketFd packet outcomes).sent,
    nsPacketSet_canonical (by decide) hset, (nsPacketSet_eq_some hset).2.1,
    (nsSendPacket_handed socketFd packet outcomes).1, ?_⟩
  simp [turnDown, hset, World.observe, World.setErrno, World.tick]

theorem Streamed.refused (hstreamed : Streamed w) (socketFd : NsSocket)
    (outcomes : List SendOutcome) :
    Streamed (turnDown (w.greeted socketFd) w.connections socketFd
      outcomes) := by
  have hframe := turnDown_frame (w.greeted socketFd) w.connections socketFd
    outcomes
  rcases turnDown_handed (w.greeted socketFd) w.connections socketFd
    outcomes with ⟨packet, bytes, hcanonical, htype, hbytes, htrace⟩
  generalize turnDown (w.greeted socketFd) w.connections socketFd
    outcomes = v at *
  rcases hframe with ⟨hclients, -, -, -, -, hconnection, hconnections⟩
  have hconnections' : v.connections = w.connections + 1 := hconnections
  have hclients' : v.clients = w.clients := hclients
  have hconnection' : v.connection = w.connection := hconnection
  have htrace' : v.trace = w.trace ++
      [.accepted w.connections socketFd, .sent w.connections bytes,
        .closed w.connections socketFd] := by
    rw [htrace]
    simp [World.greeted, World.observe]
  have hreceived : ∀ connection,
      received connection v.trace = received connection w.trace := by
    intro connection
    rw [htrace', received_append]
    exact List.append_nil _
  have hhanded : ∀ connection, handedOver connection v.trace =
      handedOver connection w.trace ++
        if w.connections = connection then bytes else [] := by
    intro connection
    rw [htrace', handedOver_append]
    simp [handedOver, Obs.handed]
  have hnot : ∀ connection, connection < w.connections →
      handedOver connection v.trace = handedOver connection w.trace := by
    intro connection hlt
    rw [hhanded, if_neg hlt.ne', List.append_nil]
  refine ⟨?_, ?_, ?_, ?_, ?_, ?_⟩
  · intro index hactive
    rw [hclients'] at hactive
    rw [hconnection', hconnections']
    exact (hstreamed.numbered index hactive).trans (Nat.lt_succ_self _)
  · intro left right hleft hright heq
    rw [hclients'] at hleft hright
    rw [hconnection'] at heq
    exact hstreamed.distinct left right hleft hright heq
  · rw [hclients']
    exact hstreamed.sound
  · intro connection hfresh
    have hlater : w.connections < connection := by omega
    rw [hreceived, hhanded, if_neg hlater.ne, List.append_nil]
    exact hstreamed.fresh connection hlater.le
  · intro index hactive
    rw [hclients'] at hactive
    rw [hconnection', hclients', hreceived,
      hnot _ (hstreamed.numbered index hactive)]
    exact hstreamed.live index hactive
  · intro connection
    by_cases hown : w.connections = connection
    · right
      rcases hstreamed.fresh connection hown.le with ⟨hnone, hsilent⟩
      refine ⟨(hreceived connection).trans hnone, packet, hcanonical,
        htype, ?_⟩
      rw [hhanded, if_pos hown, hsilent]
      exact hbytes
    · have hsame : handedOver connection v.trace =
          handedOver connection w.trace := by
        rw [hhanded, if_neg hown, List.append_nil]
      unfold TurnedAway
      rw [hreceived, hsame]
      exact hstreamed.handed connection

/-! ## Runs -/

theorem NsSendBuf.overruns_hands {buf : NsSendBuf}
    {outcomes : List SendOutcome}
    (hsent : (nsClientDrainSend outcomes buf).sent = []) :
    ¬ buf.Overruns outcomes := by
  intro hover
  have hlength := nsClientDrainSend_of_overruns hover
  rw [hsent, List.length_nil] at hlength
  have hhead := buf.head_lt
  omega

/-- A move that hands nothing over, or refuses or seats a newcomer. -/
theorem Move.streamed {allow : World → NsSocket → Prop}
    (hmove : Move allow w w') (hstreamed : Streamed w)
    (hquiet : ∀ connection < w.connections,
      handedOver connection w'.trace = handedOver connection w.trace) :
    Streamed w' := by
  cases hmove with
  | errno errno => exact hstreamed.same (.of_same rfl) rfl rfl rfl
  | clock clock => exact hstreamed.same (.of_same rfl) rfl rfl rfl
  | polled revents => exact hstreamed.same (.of_same rfl) rfl rfl rfl
  | dispatched index packet hactive => exact hstreamed.observe _ trivial
  | rebuked index packet hactive hjoined htype hlen =>
      exact hstreamed.answered hactive hlen
  | turnedAway index packet hactive hjoined htype hlen =>
      exact (hstreamed.answered hactive hlen).dropped index
  | dropped index hactive => exact hstreamed.dropped index
  | departed index timestamp notice hactive hjoined hnotice =>
      exact ((hstreamed.observe (.disconnected (w.connection index))
        trivial).broadcast (nsPacketSet_bodyLen hnotice) _).released index
  | refused socketFd outcomes hvalid hallow =>
      exact hstreamed.refused socketFd outcomes
  | occupied socketFd index hfree hvalid hallow =>
      exact hstreamed.occupied socketFd index
  | drained index outcomes hactive =>
      have hsame := hquiet _ (hstreamed.numbered index hactive)
      have hnothing : (nsClientDrainSend outcomes
          (w.clients index).sendBuf).sent = [] := by
        have hsent : handedOver (w.connection index)
            (w.flushed index outcomes).trace =
              handedOver (w.connection index) w.trace ++
                (nsClientDrainSend outcomes
                  (w.clients index).sendBuf).sent := by
          refine (handedOver_append _ w.trace _).trans ?_
          simp [handedOver, Obs.handed]
        exact List.append_right_eq_self.mp (hsent.symm.trans hsame)
      exact (hstreamed.flushed hactive
        (NsSendBuf.overruns_hands hnothing)).same (.of_same rfl) rfl rfl rfl
  | registered database hgrow =>
      exact hstreamed.same (.of_same rfl) rfl rfl rfl
  | joined index username userId timestamp timestamp' ack notice hlen buf
      hactive hjoined hunused huser hshort hack henqueue hnotice =>
      have hseated : Streamed (w.seated index userId username) := by
        refine hstreamed.aside ⟨_, rfl, by simp [Obs.Aside]⟩ rfl rfl
          fun other => ?_
        rw [World.seated_clients]
        by_cases heq : other = index
        · rw [heq, Function.update_self]
          exact ⟨hstreamed.sound index, fun hactive => ⟨hactive, rfl⟩⟩
        · rw [Function.update_of_ne heq]
          exact ⟨hstreamed.sound other, fun hactive => ⟨hactive, rfl⟩⟩
      have hactive' : ((w.seated index userId username).clients
          index).active := by
        rw [World.seated_clients, Function.update_self]
        exact hactive
      have henqueue' : nsClientEnqueueSend
          ((w.seated index userId username).clients index).sendBuf
            (wireBuffer ack hlen) = some buf := by
        rw [World.seated_clients, Function.update_self]
        exact henqueue
      exact (hseated.appended hactive' hlen henqueue').broadcast
        (nsPacketSet_bodyLen hnotice) none
  | texted index database row timestamp packet hactive hjoined hsaved
      husers hseq hmessages hsender hbody hsentAt hpacket =>
      have hstored : Streamed { w with database := database } :=
        hstreamed.same (.of_same rfl) rfl rfl rfl
      exact hstored.broadcast (nsPacketSet_bodyLen hpacket) none

theorem handedOver_prefix (connection : ℕ) {before after : List Obs}
    (hbegins : before <+: after) :
    handedOver connection before <+: handedOver connection after := by
  rcases hbegins with ⟨later, rfl⟩
  rw [handedOver_append]
  exact List.prefix_append _ _

/-- Moves that hand nothing over, taken together. -/
theorem Moves.streamed {allow : World → NsSocket → Prop}
    (hmoves : Moves allow w w') (hstreamed : Streamed w)
    (hquiet : ∀ connection,
      handedOver connection w'.trace = handedOver connection w.trace) :
    Streamed w' := by
  induction hmoves with
  | refl => exact hstreamed
  | @tail v v' hmoves hmove ih =>
      have hmiddle : ∀ connection,
          handedOver connection v.trace =
            handedOver connection w.trace := by
        intro connection
        have hfirst := handedOver_prefix connection
          (Moves.trace_grows hmoves)
        have hlater := handedOver_prefix connection hmove.trace_grows
        rw [hquiet connection] at hlater
        exact (hfirst.eq_of_length_le hlater.length_le).symm
      refine hmove.streamed (ih hmiddle) fun connection _ => ?_
      rw [hquiet, hmiddle]

end Changes

/-- No drain of the run takes more than was queued. -/
def Event.Fits (w : World) : Event → Prop
  | .drain index outcomes =>
      (w.clients index).active →
        ¬ (w.clients index).sendBuf.Overruns outcomes
  | _ => True

theorem Streamed.accept {w : World} (hstreamed : Streamed w)
    (outcome : AcceptOutcome) : Streamed (nsServerAcceptClient w outcome) := by
  cases outcome with
  | failed errno => exact hstreamed.same (.of_same rfl) rfl rfl rfl
  | connection socketFd outcomes =>
      unfold nsServerAcceptClient
      simp only
      split
      · exact hstreamed
      · split
        · exact hstreamed.refused socketFd outcomes
        · next index hfree => exact hstreamed.occupied socketFd index

theorem Streamed.step {w : World} (hstreamed : Streamed w)
    (hsettled : Settled w) {event : Event} (hfits : event.Fits w) :
    Streamed (w.step event) := by
  have hquiet : ∀ v : World, Streamed v → ∀ after,
      Moves anySocket v after → Adds Obs.Framed v after →
        Streamed after := by
    intro v hv after hmoves hadds
    rcases hadds with ⟨notes, htrace, hnotes⟩
    refine hmoves.streamed hv fun connection => ?_
    rw [htrace, handedOver_append, handedOver_of_framed hnotes,
      List.append_nil]
  by_cases hhands : event.Hands
  · cases event with
    | drain index outcomes =>
        unfold World.step
        simp only
        split
        · next hactive =>
            have hflushed := hstreamed.flushed hactive (hfits hactive)
            unfold drainSlot
            simp only
            split
            · exact hquiet _ hflushed _ (moves_disconnect _ index _)
                (framed_nsServerDisconnectClient _ index _)
            · exact hflushed.same (.of_same rfl) rfl rfl rfl
        · exact hstreamed
    | accept outcome => exact hstreamed.accept outcome
    | _ => exact hhands.elim
  · exact hquiet w hstreamed _
      (step_moves hsettled (admitted_anySocket w event))
      (framed_step hsettled hhands)

/-- What holds of the connections in a run whose drains fit. -/
structure Wired (w : World) : Prop where
  settled : Settled w
  streamed : Streamed w
  canonical : CanonicalRecord w.trace

theorem wired_boot (tables : Tables) (listenSocket : NsSocket)
    (errno : Errno) (clock : Clock) :
    Wired (World.boot tables listenSocket errno clock) where
  settled := settled_boot tables listenSocket errno clock
  streamed := streamed_boot tables listenSocket errno clock
  canonical := by
    intro connection packet hmem
    exact absurd hmem (by simp [World.boot])

theorem Wired.step {w : World} (hwired : Wired w) {event : Event}
    (hfits : event.Fits w) : Wired (w.step event) where
  settled := Moves.settled
    (step_moves hwired.settled (admitted_anySocket w event)) hwired.settled
  streamed := hwired.streamed.step hwired.settled hfits
  canonical := hwired.canonical.step hwired.settled event

theorem wired_run (tables : Tables) (listenSocket : NsSocket)
    (errno : Errno) (clock : Clock) {events : List Event}
    (hfits : Along World.step (fun w event => event.Fits w)
      (World.boot tables listenSocket errno clock) events) :
    Wired (run World.step (World.boot tables listenSocket errno clock)
      events) :=
  run_invariant Wired (fun _ _ hwired hfit => hwired.step hfit)
    (wired_boot tables listenSocket errno clock) hfits

/-! ## Reading the stream -/

/-- Whatever parts the bytes arrive in, and however the stream ends, the
calls of `ns_recv_packet` return these packets and then no other. -/
def Reads (bytes : List UInt8) (packets : List NsPacket) : Prop :=
  ∀ socketFd, nsSocketIsValid socketFd → ∀ ending chunks,
    ∃ last, (∀ packet, last ≠ NsRecv.ok packet) ∧
      recvPackets socketFd (packets.length + 1) ⟨bytes, ending, chunks⟩ =
        packets.map .ok ++ [last]

theorem nsRecvPacket_not_ok {socketFd : NsSocket} (sock : RecvSocket)
    (hscan : ∀ packet, scan sock.pending ≠ .packet packet)
    (packet : NsPacket) :
    (nsRecvPacket socketFd sock).result ≠ .ok packet := by
  intro hok
  exact hscan packet (scan_of_nsRecvPacket_ok hok)

theorem reads_wires {packets : List NsPacket}
    (hcanonical : ∀ packet ∈ packets, packet.Canonical)
    {stump : List UInt8} (hstump : packetCode.decode stump = none) :
    Reads (wires packets ++ stump) packets := by
  intro socketFd hsocket ending chunks
  induction packets generalizing chunks with
  | nil =>
      have hscan := packetCode_decode_eq_none.mp hstump
      exact ⟨_, nsRecvPacket_not_ok ⟨stump, ending, chunks⟩ hscan, rfl⟩
  | cons packet rest ih =>
      rw [List.forall_mem_cons] at hcanonical
      have hsplit : wires (packet :: rest) ++ stump =
          packet.wire ++ (wires rest ++ stump) := by
        exact List.append_assoc _ _ _
      have hscan := scan_wire hcanonical.1 (wires rest ++ stump)
      have hlength := NsPacket.wire_length hcanonical.1.bodyLen
      rcases nsRecvPacket_of_packet hsocket
        ⟨packet.wire ++ (wires rest ++ stump), ending, chunks⟩ hscan with
        ⟨later, hrecv⟩
      rcases ih hcanonical.2 later with ⟨last, hlast, hrest⟩
      refine ⟨last, hlast, ?_⟩
      have hdrop : (packet.wire ++ (wires rest ++ stump)).drop
          packet.header.frameLength = wires rest ++ stump :=
        List.drop_left' hlength
      rw [hsplit, List.length_cons, recvPackets, hrecv]
      simp only
      rw [hdrop, hrest]
      rfl

/-- What is true of the stream to a client: the accounts are exact while the
connection lives, and what has been handed over is read as the first packets
that were appended, or as the refusal of a newcomer. -/
structure Delivering (w : World) (connection : ℕ) : Prop where
  accounts : ∀ index, (w.clients index).active →
    w.connection index = connection →
      wires (received connection w.trace) =
        handedOver connection w.trace ++ (w.clients index).sendBuf.queued
  reads : ∃ packets,
    Reads (handedOver connection w.trace) packets ∧
      (packets <+: received connection w.trace ∨
        received connection w.trace = [] ∧ ∃ refusal : NsPacket,
          refusal.header.type = NsPacketType.error.code ∧
            packets <+: [refusal])
  drained : ∀ index, (w.clients index).active →
    w.connection index = connection →
      nsClientSendBufPending (w.clients index).sendBuf = false →
        Reads (handedOver connection w.trace)
          (received connection w.trace)

theorem Wired.delivering {w : World} (hwired : Wired w) (connection : ℕ) :
    Delivering w connection where
  accounts := by
    rintro index hactive rfl
    exact hwired.streamed.live index hactive
  reads := by
    have hread : ∀ packets : List NsPacket,
        (∀ packet ∈ packets, packet.Canonical) →
        handedOver connection w.trace <+: wires packets →
        ∃ whole, Reads (handedOver connection w.trace) whole ∧
          whole <+: packets := by
      intro packets hcanonical hbegins
      rcases packetCode.exists_stump hcanonical hbegins with
        ⟨whole, stump, hwhole, hsplit, hstump⟩
      refine ⟨whole, ?_, hwhole⟩
      rw [hsplit]
      exact reads_wires
        (fun packet hmem => hcanonical packet (hwhole.subset hmem)) hstump
    rcases hwired.streamed.handed connection with
      hbegins | ⟨hnone, refusal, hcanonical, htype, hbegins⟩
    · rcases hread _ (hwired.canonical.received connection) hbegins with
        ⟨whole, hreads, hwhole⟩
      exact ⟨whole, hreads, Or.inl hwhole⟩
    · rw [← wires_singleton] at hbegins
      rcases hread [refusal] (by simpa using hcanonical) hbegins with
        ⟨whole, hreads, hwhole⟩
      exact ⟨whole, hreads, Or.inr ⟨hnone, refusal, htype, hwhole⟩⟩
  drained := by
    rintro index hactive rfl hdrained
    have hempty : (w.clients index).sendBuf.queued = [] := by
      rw [NsSendBuf.queued_eq_nil_iff]
      simpa [nsClientSendBufPending] using hdrained
    have hlive := hwired.streamed.live index hactive
    rw [hempty, List.append_nil] at hlive
    rw [← hlive]
    have hreads := reads_wires
      (hwired.canonical.received (w.connection index))
      packetCode.decode_nil
    rwa [List.append_nil] at hreads

theorem clients_read_what_was_appended (tables : Tables)
    (listenSocket : NsSocket) (errno : Errno) (clock : Clock)
    (events : List Event)
    (hfits : Along World.step (fun w event => event.Fits w)
      (World.boot tables listenSocket errno clock) events)
    (connection : ℕ) :
    Delivering (run World.step
      (World.boot tables listenSocket errno clock) events) connection :=
  (wired_run tables listenSocket errno clock hfits).delivering connection

instance (buf : NsSendBuf) (outcomes : List SendOutcome) :
    Decidable (buf.Overruns outcomes) :=
  inferInstanceAs (Decidable (_ ∧ _))

/-- A client joins, and the kernel takes its packets in two parts. -/
def drainEvents : List Event :=
  [.accept (.connection 4 []),
    .readable ⟨0, nsMaxClients_pos⟩ (joinRequest 97) fun _ => false,
    .drain ⟨0, nsMaxClients_pos⟩ [.took 20, .failed .eagain],
    .drain ⟨0, nsMaxClients_pos⟩ [.took 512]]

set_option maxRecDepth 100000 in
theorem clients_read_what_was_appended_example :
    Delivering (run World.step (World.boot .empty 3 .eagain fun _ => 0)
      drainEvents) 0 :=
  clients_read_what_was_appended .empty 3 .eagain (fun _ => 0) drainEvents
    ⟨trivial, trivial, fun _ => by decide +kernel,
      fun _ => by decide +kernel, trivial⟩ 0

end NodeSignal
