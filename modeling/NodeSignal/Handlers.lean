import NodeSignal.Settled
import NodeSignal.WireRoundTrip

/-!
# What the handlers do

The cases of each handler with what leads to them, and what it adds to the
record.  The branches of the source that would drop a client because a packet
could not be built or because its ACK found no room are shown to be
unreachable on the way.
-/

namespace NodeSignal

open CStrings RingWindow

/-! ## Texts that always fit -/

theorem snprintf_length_le (size : ℕ) (pieces : List (List UInt8)) :
    (snprintf size pieces).1.length ≤ size - 1 :=
  List.length_take_le _ _

theorem nsPacketSet_snprintf (type : UInt8) (senderId timestamp : UInt32)
    (pieces : List (List UInt8)) :
    ∃ packet, nsPacketSet type senderId timestamp
      (some (snprintf (nsPacketBodyMax + 1) pieces).1) = some packet :=
  nsPacketSet_isSome type senderId timestamp
    ((text_length_le _).trans (snprintf_length_le _ pieces))

theorem nsClientEnqueueSend_reset (data : WireBuffer) :
    ∃ buf, nsClientEnqueueSend .reset data = some buf := by
  rw [← Option.ne_none_iff_exists', ne_eq, nsClientEnqueueSend_eq_none_iff]
  have hsound : NsSendBuf.reset.Sound := Nat.zero_lt_succ _
  have hlen := data.property
  rw [hsound.admits_iff, NsSendBuf.queued_reset]
  simp only [nsPacketHeaderSize, nsPacketBodyMax, nsSendBufSize,
    List.length_nil] at hlen ⊢
  omega

/-- A slot that has had no name holds the announced body and zeros after a
JOIN. -/
theorem storeUsername_reset {packet : NsPacket}
    (hlen : packet.header.bodyLen.toNat ≤ nsUsernameMax) :
    storeUsername NsClient.reset.username packet =
      padded (nsUsernameMax + 1) packet.payload := by
  have hpayload := NsPacket.payload_length
    (hlen.trans (show nsUsernameMax ≤ nsPacketBodyMax by decide))
  have hslice : packet.body.take packet.header.bodyLen.toNat =
      packet.payload := rfl
  unfold storeUsername padded
  simp only [hslice]
  rw [← hpayload]
  rw [← hpayload] at hlen
  simp only [blit, List.take_zero, List.nil_append, NsClient.reset,
    List.drop_replicate, Nat.zero_add]
  rw [List.set_append_right _ _ le_rfl, Nat.sub_self,
    show nsUsernameMax + 1 - packet.payload.length =
      nsUsernameMax - packet.payload.length + 1 by omega,
    List.replicate_succ, List.set_cons_zero]

theorem NsPacket.Canonical.text_body {packet : NsPacket}
    (hcanonical : packet.Canonical) :
    text packet.body = text packet.payload := by
  rw [hcanonical.body, text_padded]

/-- The name of a slot after a JOIN is the body of the packet. -/
theorem text_storeUsername {packet : NsPacket}
    (hcanonical : packet.Canonical)
    (hlen : packet.header.bodyLen.toNat ≤ nsUsernameMax) :
    text (storeUsername NsClient.reset.username packet) =
      text packet.body := by
  rw [storeUsername_reset hlen, hcanonical.text_body, text_padded]

theorem text_username_length_le {packet : NsPacket}
    (hcanonical : packet.Canonical)
    (hlen : packet.header.bodyLen.toNat ≤ nsUsernameMax) :
    (text packet.body).length ≤ nsUsernameMax := by
  have hpayload := NsPacket.payload_length hcanonical.bodyLen
  rw [hcanonical.text_body]
  exact (text_length_le _).trans (hpayload.trans_le hlen)

/-- A received packet is the first one of the pending bytes. -/
theorem scan_of_nsRecvPacket_ok {socketFd : NsSocket}
    {sock : RecvSocket} {packet : NsPacket}
    (hok : (nsRecvPacket socketFd sock).result = .ok packet) :
    scan sock.pending = .packet packet := by
  cases hsocket : nsSocketIsValid socketFd with
  | false => simp [nsRecvPacket, hsocket] at hok
  | true =>
      cases hscan : scan sock.pending with
      | more =>
          rcases nsRecvPacket_of_more hsocket sock hscan with ⟨_, hrecv⟩
          rw [hrecv] at hok
          split at hok
          · split at hok <;> simp at hok
          · simp at hok
      | refused =>
          rcases nsRecvPacket_of_refused hsocket sock hscan with ⟨_, hrecv⟩
          simp [hrecv] at hok
      | packet shown =>
          rcases nsRecvPacket_of_packet hsocket sock hscan with ⟨_, hrecv⟩
          rw [hrecv] at hok
          exact congrArg Scan.packet (NsRecv.ok.inj hok)

theorem nsRecvPacket_ok_canonical {socketFd : NsSocket}
    {sock : RecvSocket} {packet : NsPacket}
    (hok : (nsRecvPacket socketFd sock).result = .ok packet) :
    packet.Canonical :=
  (wire_of_scan (scan_of_nsRecvPacket_ok hok)).1

section Handlers

variable {w : World} {index : SlotIndex}

/-! ## Disconnecting -/

theorem nsServerDisconnectClient_announced
    (hactive : (w.clients index).active)
    (hjoined : (w.clients index).joined) :
    ∃ notice,
      nsPacketSet NsPacketType.leave.code (w.clients index).userId
          (nsUnixTimeNow w) (some (leaveText (w.clients index).username)) =
        some notice ∧
      nsServerDisconnectClient w index true =
        World.departed { w with clock := w.clock.rest } index notice := by
  have htime : nsUnixTimeNow (w.observe
      (.disconnected (w.connection index))) = nsUnixTimeNow w := rfl
  rcases nsPacketSet_snprintf NsPacketType.leave.code
    (w.clients index).userId (nsUnixTimeNow w)
    [literal "* ", text (w.clients index).username,
      literal " left the chat"] with ⟨notice, hnotice⟩
  refine ⟨notice, hnotice, ?_⟩
  simp only [nsServerDisconnectClient, disconnectBody, hactive, hjoined,
    htime, leaveText, hnotice]
  rfl

/-- A disconnection drops the client, after a LEAVE notice if one is due. -/
theorem nsServerDisconnectClient_cases
    (hactive : (w.clients index).active) (announceLeave : Bool) :
    nsServerDisconnectClient w index announceLeave = w.dropped index ∨
      (w.clients index).joined ∧ ∃ notice,
        nsPacketSet NsPacketType.leave.code (w.clients index).userId
            (nsUnixTimeNow w) (some (leaveText (w.clients index).username)) =
          some notice ∧
        nsServerDisconnectClient w index announceLeave =
          World.departed { w with clock := w.clock.rest } index notice := by
  cases hannounce : announceLeave && (w.clients index).joined with
  | false =>
      left
      simp only [nsServerDisconnectClient, disconnectBody, hactive,
        hannounce]
      rfl
  | true =>
      right
      rw [Bool.and_eq_true] at hannounce
      rw [hannounce.1]
      exact ⟨hannounce.2,
        nsServerDisconnectClient_announced hactive hannounce.2⟩

/-! ## Rejecting -/

/-- A rejection builds its ERROR packet and appends it if there is room. -/
theorem nsServerSendError_eq {message : String}
    (hactive : (w.clients index).active)
    (hfits : (literal message).length ≤ nsPacketBodyMax) :
    ∃ packet, nsPacketSet NsPacketType.error.code 0 (nsUnixTimeNow w)
        (some (literal message)) = some packet ∧
      nsServerSendError w index message = w.tick.answered index packet := by
  rcases nsPacketSet_isSome NsPacketType.error.code 0 (nsUnixTimeNow w)
    ((text_length_le (literal message)).trans hfits) with ⟨packet, hset⟩
  refine ⟨packet, hset, ?_⟩
  simp only [nsServerSendError, hactive, hset]
  rfl

/-- Whatever the message, a rejection is at most an answer. -/
theorem nsServerSendError_cases (w : World) (index : SlotIndex)
    (message : String) :
    nsServerSendError w index message = w ∨
      nsServerSendError w index message = w.tick ∨
      ∃ packet, nsPacketSet NsPacketType.error.code 0 (nsUnixTimeNow w)
          (some (literal message)) = some packet ∧
        nsServerSendError w index message =
          w.tick.answered index packet := by
  unfold nsServerSendError
  split
  · exact Or.inl rfl
  split
  · exact Or.inr (Or.inl rfl)
  · next packet hset => exact Or.inr (Or.inr ⟨packet, hset, rfl⟩)

/-- The record shows the ERROR packet, and that it was appended if it
was. -/
theorem nsServerSendError_notes (w : World) (index : SlotIndex)
    (message : String) :
    ∃ notes, (nsServerSendError w index message).trace = w.trace ++ notes ∧
      ∀ obs ∈ notes, ∃ packet,
        packet.header.type = NsPacketType.error.code ∧
        packet.payload = text (literal message) ∧
        (obs = .rejected (w.connection index) packet ∨
          obs = .enqueued (w.connection index) packet) := by
  rcases nsServerSendError_cases w index message with
    heq | heq | ⟨packet, hset, heq⟩
  · exact ⟨[], by rw [heq, List.append_nil], by simp⟩
  · exact ⟨[], by rw [heq, List.append_nil]; rfl, by simp⟩
  · rcases nsPacketSet_eq_some hset with
      ⟨-, htype, -, -, -, hpayload, -⟩
    rw [heq]
    rcases w.tick.answered_trace index (nsPacketSet_bodyLen hset) with
      htrace | htrace
    · refine ⟨_, htrace, ?_⟩
      rw [List.forall_mem_singleton]
      exact ⟨packet, htype, hpayload, Or.inl rfl⟩
    · refine ⟨_, htrace, ?_⟩
      rw [List.forall_mem_cons, List.forall_mem_singleton]
      exact ⟨⟨packet, htype, hpayload, Or.inl rfl⟩,
        ⟨packet, htype, hpayload, Or.inr rfl⟩⟩

/-- Storage and the reading of the clock come before a rejection. -/
def Prepared (w before : World) : Prop :=
  ∃ database clock, before = { w with database := database, clock := clock }

theorem Prepared.clients {before : World} (hprepared : Prepared w before) :
    before.clients = w.clients := by
  rcases hprepared with ⟨database, clock, rfl⟩
  rfl

theorem Prepared.connection {before : World}
    (hprepared : Prepared w before) : before.connection = w.connection := by
  rcases hprepared with ⟨database, clock, rfl⟩
  rfl

theorem Prepared.trace {before : World} (hprepared : Prepared w before) :
    before.trace = w.trace := by
  rcases hprepared with ⟨database, clock, rfl⟩
  rfl

/-! ## JOIN -/

theorem nsServerUsernameInUse_eq_false {username : List UInt8}
    (hunused : nsServerUsernameInUse w username index = false)
    (other : SlotIndex) (hne : other ≠ index)
    (hactive : (w.clients other).active)
    (hjoined : (w.clients other).joined) :
    text (w.clients other).username ≠ text username := by
  have hother := List.any_eq_false.mp hunused other (List.mem_finRange _)
  simpa [hactive, hjoined, hne, sameText] using hother

theorem nsServerJoinValidate_eq_true {packet : NsPacket} :
    (nsServerJoinValidate w index packet).1 ↔
      (w.clients index).joined = false ∧
        packet.header.bodyLen.toNat ≠ 0 ∧
        packet.header.bodyLen.toNat ≤ nsUsernameMax ∧
        nsServerUsernameInUse w packet.body index = false := by
  unfold nsServerJoinValidate
  split_ifs with hjoined hlen hused
  · simp [hjoined]
  · rw [false_iff]
    rintro ⟨_, hnonempty, hshort, _⟩
    exact hlen.elim hnonempty hshort.not_gt
  · simp [hused]
  · rw [not_or, not_lt] at hlen
    rw [Bool.not_eq_true] at hjoined hused
    exact iff_of_true rfl ⟨hjoined, hlen.1, hlen.2, hused⟩

theorem nsServerJoinValidate_congr {v : World} {packet : NsPacket}
    (hclients : v.clients = w.clients) :
    (nsServerJoinValidate v index packet).1 =
      (nsServerJoinValidate w index packet).1 := by
  rw [Bool.eq_iff_iff, nsServerJoinValidate_eq_true,
    nsServerJoinValidate_eq_true]
  unfold nsServerUsernameInUse
  rw [hclients]

theorem nsServerJoinValidate_cases (w : World) (index : SlotIndex)
    (packet : NsPacket) :
    (∃ message, (literal message).length ≤ nsPacketBodyMax ∧
        nsServerJoinValidate w index packet =
          (false, nsServerSendError w index message)) ∨
      nsServerJoinValidate w index packet = (true, w) := by
  unfold nsServerJoinValidate
  split_ifs
  · exact Or.inl ⟨_, by decide, rfl⟩
  · exact Or.inl ⟨_, by decide, rfl⟩
  · exact Or.inl ⟨_, by decide, rfl⟩
  · exact Or.inr rfl

/-- After the database call of a JOIN. -/
def World.registered (w : World) (faults : SqliteFaults)
    (username : List UInt8) : World :=
  { w with
    database := (nsDbGetOrCreateUser w.database faults w.clock username).2.1
    clock := (nsDbGetOrCreateUser w.database faults w.clock username).2.2 }

inductive JoinHandled (w : World) (index : SlotIndex) (packet : NsPacket)
    (faults : SqliteFaults) : NsHandle × World → Prop
  | refused (message : String)
      (hrefused : nsServerJoinValidate w index packet =
        (false, nsServerSendError w index message))
      (hfits : (literal message).length ≤ nsPacketBodyMax) :
      JoinHandled w index packet faults
        (.disconnect, nsServerSendError w index message)
  | unregistered
      (hvalid : (nsServerJoinValidate w index packet).1)
      (hunknown : (nsDbGetOrCreateUser w.database faults w.clock
        packet.body).1 = none) :
      JoinHandled w index packet faults
        (.disconnect, nsServerSendError (w.registered faults packet.body)
          index "The server could not register that username.")
  | welcomed (userId : UInt32)
      (hvalid : (nsServerJoinValidate w index packet).1)
      (hknown : (nsDbGetOrCreateUser w.database faults w.clock
        packet.body).1 = some userId) :
      JoinHandled w index packet faults
        (welcomeClient (w.registered faults packet.body) index userId
          (storeUsername (w.clients index).username packet))

theorem nsServerHandleJoin_cases (w : World) (index : SlotIndex)
    (packet : NsPacket) (faults : SqliteFaults) :
    JoinHandled w index packet faults
      (nsServerHandleJoin w index packet faults) := by
  unfold nsServerHandleJoin
  rcases nsServerJoinValidate_cases w index packet with
    ⟨message, hfits, hrefused⟩ | hpassed
  · rw [hrefused]
    exact .refused message hrefused hfits
  · have hvalid : (nsServerJoinValidate w index packet).1 = true := by
      rw [hpassed]
    rw [hpassed]
    simp only [Bool.not_true, Bool.false_eq_true, if_false,
      nsServerJoinFinalize]
    cases hfound : (nsDbGetOrCreateUser w.database faults w.clock
        packet.body).1 with
    | none => exact .unregistered hvalid hfound
    | some userId => exact .welcomed userId hvalid hfound

/-- The ACK finds room in an empty buffer, and both packets can be built. -/
theorem welcomeClient_eq (hbuf : (w.clients index).sendBuf = .reset)
    (userId : UInt32) (username : List UInt8) :
    ∃ (timestamp timestamp' : UInt32) (ack notice : NsPacket)
      (hlen : ack.header.bodyLen.toNat ≤ nsPacketBodyMax)
      (buf : NsSendBuf),
      nsPacketSet NsPacketType.ack.code userId timestamp
          (some (statusText username)) = some ack ∧
        nsClientEnqueueSend .reset (wireBuffer ack hlen) = some buf ∧
        nsPacketSet NsPacketType.join.code userId timestamp'
          (some (joinText username)) = some notice ∧
        welcomeClient w index userId username =
          (.ok, nsServerBroadcast
            ((World.seated { w with clock := w.clock.rest.rest } index
              userId username).appended index ack buf) notice none) := by
  rcases nsPacketSet_snprintf NsPacketType.ack.code userId
    (nsUnixTimeNow (w.seated index userId username))
    [literal "Connected as ", text username] with ⟨ack, hack⟩
  have hlen := nsPacketSet_bodyLen hack
  rcases nsClientEnqueueSend_reset (wireBuffer ack hlen) with
    ⟨buf, henqueue⟩
  have hack' : nsServerEnqueuePacket (w.seated index userId username).tick
      index ack = some ((w.seated index userId username).tick.appended
        index ack buf) := by
    have hseated : ((w.seated index userId username).tick.clients
        index).sendBuf = .reset := by
      simpa [World.seated, World.tick, World.observe] using hbuf
    rw [nsServerEnqueuePacket_eq _ _ _ hlen, hseated, henqueue]
    rfl
  rcases nsPacketSet_snprintf NsPacketType.join.code userId
    (nsUnixTimeNow ((w.seated index userId username).tick.appended
      index ack buf))
    [literal "* ", text username, literal " joined the chat"] with
    ⟨notice, hnotice⟩
  refine ⟨_, _, ack, notice, hlen, buf, hack, henqueue, hnotice, ?_⟩
  unfold welcomeClient statusText joinText
  simp only [hack, hack', hnotice]
  rfl

/-! ## TEXT -/

theorem nsServerBuildDisplayText_eq_some {client : NsClient}
    {packet : NsPacket} {outSize : ℕ} {displayText : List UInt8}
    (hbuild : nsServerBuildDisplayText client packet outSize =
      some displayText) :
    displayText =
        text client.username ++ literal ": " ++ text packet.body ∧
      displayText.length < outSize := by
  unfold nsServerBuildDisplayText at hbuild
  simp only at hbuild
  split at hbuild
  · simp at hbuild
  · next hlen =>
      have hfits := not_le.mp hlen
      rw [Option.some.injEq, snprintf_of_fits hfits] at hbuild
      subst hbuild
      exact ⟨by simp, hfits⟩

/-- After the database call of a TEXT. -/
def World.stored (w : World) (index : SlotIndex) (faults : SqliteFaults)
    (body : List UInt8) : World :=
  { w.tick with
    database := (nsDbInsertMessage w.database faults (w.clients index).userId
      body (nsUnixTimeNow w)).2 }

inductive TextHandled (w : World) (index : SlotIndex) (packet : NsPacket)
    (faults : SqliteFaults) : NsHandle × World → Prop
  | unjoined (hjoined : (w.clients index).joined = false) :
      TextHandled w index packet faults
        (.disconnect, nsServerSendError w.tick index
          "Join the chat before sending messages.")
  | empty (hjoined : (w.clients index).joined)
      (hempty : packet.header.bodyLen.toNat = 0) :
      TextHandled w index packet faults
        (.ok, nsServerSendError w.tick index "Messages cannot be empty.")
  | long (hjoined : (w.clients index).joined)
      (hlen : packet.header.bodyLen.toNat ≠ 0)
      (hlong : nsServerBuildDisplayText (w.clients index) packet
        (nsPacketBodyMax + 1) = none) :
      TextHandled w index packet faults
        (.ok, nsServerSendError w.tick index
          "That message is too long once the username is added.")
  | unstored (displayText : List UInt8)
      (hjoined : (w.clients index).joined)
      (hlen : packet.header.bodyLen.toNat ≠ 0)
      (hdisplay : nsServerBuildDisplayText (w.clients index) packet
        (nsPacketBodyMax + 1) = some displayText)
      (hstored : (nsDbInsertMessage w.database faults
        (w.clients index).userId packet.body (nsUnixTimeNow w)).1 = false) :
      TextHandled w index packet faults
        (.disconnect, nsServerSendError (w.stored index faults packet.body)
          index "The server could not store that message.")
  | broadcast (displayText : List UInt8) (notice : NsPacket)
      (hjoined : (w.clients index).joined)
      (hlen : packet.header.bodyLen.toNat ≠ 0)
      (hdisplay : nsServerBuildDisplayText (w.clients index) packet
        (nsPacketBodyMax + 1) = some displayText)
      (hstored : (nsDbInsertMessage w.database faults
        (w.clients index).userId packet.body (nsUnixTimeNow w)).1)
      (hnotice : nsPacketSet NsPacketType.text.code
        (w.clients index).userId (nsUnixTimeNow w) (some displayText) =
          some notice) :
      TextHandled w index packet faults
        (.ok, nsServerBroadcast (w.stored index faults packet.body) notice
          none)

theorem nsServerHandleText_cases (w : World) (index : SlotIndex)
    (packet : NsPacket) (faults : SqliteFaults) :
    TextHandled w index packet faults
      (nsServerHandleText w index packet faults) := by
  have htick : w.tick.database = w.database := rfl
  unfold nsServerHandleText
  simp only [htick]
  cases hjoined : (w.clients index).joined with
  | false => exact .unjoined hjoined
  | true =>
  simp only [Bool.not_true, Bool.false_eq_true, if_false]
  by_cases hempty : packet.header.bodyLen.toNat = 0
  · rw [if_pos hempty]
    exact .empty hjoined hempty
  rw [if_neg hempty]
  cases hdisplay : nsServerBuildDisplayText (w.clients index) packet
      (nsPacketBodyMax + 1) with
  | none => exact .long hjoined hempty hdisplay
  | some displayText =>
  have hshort := (nsServerBuildDisplayText_eq_some hdisplay).2
  rcases nsPacketSet_isSome NsPacketType.text.code
    (w.clients index).userId (nsUnixTimeNow w)
    ((text_length_le displayText).trans (Nat.le_of_lt_succ hshort)) with
    ⟨notice, hnotice⟩
  simp only [hnotice]
  cases hstored : (nsDbInsertMessage w.database faults
      (w.clients index).userId packet.body (nsUnixTimeNow w)).1 with
  | false => exact .unstored displayText hjoined hempty hdisplay hstored
  | true =>
      exact .broadcast displayText notice hjoined hempty hdisplay hstored
        hnotice

/-! ## Accepting -/

/-- What `accept()` and a connection that is turned down add. -/
theorem nsServerAcceptClient_notes (w : World) (outcome : AcceptOutcome) :
    ∃ notes, (nsServerAcceptClient w outcome).trace = w.trace ++ notes ∧
      ∀ obs ∈ notes, ∃ connection socketFd,
        obs = .accepted connection socketFd ∨
          (∃ bytes, obs = .sent connection bytes) ∨
          obs = .closed connection socketFd := by
  cases outcome with
  | failed errno => exact ⟨[], (List.append_nil _).symm, by simp⟩
  | connection socketFd outcomes =>
      unfold nsServerAcceptClient
      dsimp only
      split
      · exact ⟨[], (List.append_nil _).symm, by simp⟩
      · split
        · rcases turnDown_trace (w.greeted socketFd) w.connections socketFd
            outcomes with ⟨bytes, htrace⟩
          refine ⟨[.accepted w.connections socketFd,
            .sent w.connections bytes, .closed w.connections socketFd],
            ?_, ?_⟩
          · change (turnDown (w.greeted socketFd) w.connections socketFd
              outcomes).trace = _
            rw [htrace]
            simp [World.greeted, World.observe]
          · simp
        · exact ⟨[.accepted w.connections socketFd], rfl, by simp⟩

end Handlers

end NodeSignal
