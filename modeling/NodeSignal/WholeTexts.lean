import NodeSignal.Rejections

/-!
# Texts are relayed whole, or not at all

A TEXT announces the length of its body, and the server reads the body as a
C string.  The two agree until the body contains a zero byte: such a message
is stored and shown only up to that byte, and may be empty, although the
handler rejects empty messages.
-/

namespace NodeSignal

open CStrings Runs

/-- The message is stored and broadcast as it was sent. -/
structure RelayedWhole (w after : World) (index : SlotIndex)
    (packet : NsPacket) : Prop where
  filled : packet.payload ≠ []
  stored : ∃ row, row.body = packet.payload ∧
    after.database.tables.messages = w.database.tables.messages ++ [row]
  shown : ∃ notice : NsPacket,
    notice.payload =
        text (w.clients index).username ++ literal ": " ++ packet.payload ∧
      broadcasts after.trace = broadcasts w.trace ++ [notice]

/-- The message is answered with an ERROR packet, and neither stored nor
broadcast. -/
structure TurnedDown (w after : World) (index : SlotIndex) : Prop where
  answer : ∃ answer : NsPacket,
    answer.header.type = NsPacketType.error.code ∧
      rejections after.trace =
        rejections w.trace ++ [(w.connection index, answer)]
  unstored : after.database.tables = w.database.tables
  unshown : broadcasts after.trace = broadcasts w.trace

/-- What the handler does with a TEXT of a joined client. -/
def RelaysWhole (w : World) (index : SlotIndex) (packet : NsPacket)
    (faults : SqliteFaults) : Prop :=
  let after := (nsServerHandleText w index packet faults).2
  RelayedWhole w after index packet ∨ TurnedDown w after index

/-- The message fits with the name in front, up to its first zero byte, and
the database takes it. -/
structure Storable (w : World) (index : SlotIndex) (packet : NsPacket)
    (faults : SqliteFaults) : Prop where
  fits : (text (w.clients index).username).length + 2 +
    (text packet.payload).length ≤ nsPacketBodyMax
  works : faults .insertMessage = false
  sender : ∃ user ∈ w.database.tables.users,
    user.id = (w.clients index).userId.toNat
  room : w.database.tables.messagesSeq < maxRowId

/-! ## The parts of the handler -/

section Handler

variable {w : World} {index : SlotIndex} {packet : NsPacket}
  {faults : SqliteFaults}

theorem nsServerBuildDisplayText_isSome_iff {client : NsClient} :
    (nsServerBuildDisplayText client packet
        (nsPacketBodyMax + 1)).isSome ↔
      (text client.username).length + 2 + (text packet.body).length ≤
        nsPacketBodyMax := by
  have hpieces : ([text client.username, literal ": ",
      text packet.body].flatten).length =
        (text client.username).length + 2 + (text packet.body).length := by
    simp [literal]
    omega
  unfold nsServerBuildDisplayText
  simp only [snprintf, hpieces]
  split
  · simp only [Option.isSome_none, Bool.false_eq_true, false_iff]
    omega
  · simp only [Option.isSome_some, true_iff]
    omega

/-- A rejection stores and broadcasts nothing. -/
theorem turnedDown_sendError {before : World} {message : String}
    (hactive : (w.clients index).active)
    (hprepared : Prepared w before)
    (htables : before.database.tables = w.database.tables)
    (hfits : (literal message).length ≤ nsPacketBodyMax) :
    TurnedDown w (nsServerSendError before index message) index := by
  have hactive' : (before.clients index).active := by
    rw [hprepared.clients]
    exact hactive
  rcases nsServerSendError_eq hactive' hfits with ⟨answer, hset, heq⟩
  have hlen := nsPacketSet_bodyLen hset
  rcases answered_record before.tick index hlen with
    ⟨queued, htrace, hqueued⟩
  have htrace' : (nsServerSendError before index message).trace =
      w.trace ++ .rejected (w.connection index) answer :: queued := by
    rw [heq, htrace, ← hprepared.connection, ← hprepared.trace]
    rfl
  refine ⟨⟨answer, (nsPacketSet_eq_some hset).2.1, ?_⟩, ?_, ?_⟩
  · rw [htrace', rejections_append]
    rcases hqueued with rfl | rfl <;> rfl
  · rw [heq, (before.tick.answered_frame index hlen).1]
    exact htables
  · rw [htrace', broadcasts_append, List.append_right_eq_self]
    rcases hqueued with rfl | rfl <;> rfl

/-- The message is stored and broadcast up to its first zero byte. -/
structure Relays (w after : World) (index : SlotIndex)
    (packet : NsPacket) : Prop where
  stored : ∃ row, row.body = text packet.payload ∧
    after.database.tables.messages = w.database.tables.messages ++ [row]
  shown : ∃ notice : NsPacket,
    notice.payload = text (w.clients index).username ++ literal ": " ++
        text packet.payload ∧
      broadcasts after.trace = broadcasts w.trace ++ [notice]

theorem relays_of_broadcast (hcanonical : packet.Canonical)
    {displayText : List UInt8} {notice : NsPacket}
    (hdisplay : nsServerBuildDisplayText (w.clients index) packet
      (nsPacketBodyMax + 1) = some displayText)
    (hstored : (nsDbInsertMessage w.database faults
      (w.clients index).userId packet.body (nsUnixTimeNow w)).1)
    (hnotice : nsPacketSet NsPacketType.text.code
      (w.clients index).userId (nsUnixTimeNow w) (some displayText) =
        some notice) :
    Relays w (nsServerBroadcast (w.stored index faults packet.body) notice
      none) index packet := by
  have hlen := nsPacketSet_bodyLen hnotice
  have hbody := hcanonical.text_body
  have htext := (nsServerBuildDisplayText_eq_some hdisplay).1
  rw [hbody] at htext
  constructor
  · rcases (nsDbInsertMessage_spec w.database faults
      (w.clients index).userId packet.body
      (nsUnixTimeNow w)).2.2.2.1 hstored with ⟨row, hmessages, -, hrow, -⟩
    refine ⟨row, hrow.trans hbody, ?_⟩
    rw [(nsServerBroadcast_frame notice hlen none _).2.2]
    exact hmessages
  · refine ⟨notice, ?_, broadcasts_nsServerBroadcast notice hlen none _⟩
    have hzero : 0 ∉ displayText := by
      rw [htext]
      simp only [List.mem_append, zero_notMem_text, or_false, false_or]
      decide
    rw [(nsPacketSet_eq_some hnotice).2.2.2.2.2.1, Option.getD_some,
      text_of_zero_notMem hzero, htext]

theorem Relays.whole_iff {after : World}
    (hrelays : Relays w after index packet)
    (hcanonical : packet.Canonical)
    (hlen : packet.header.bodyLen.toNat ≠ 0) :
    RelayedWhole w after index packet ∨ TurnedDown w after index ↔
      0 ∉ packet.payload := by
  rcases hrelays with
    ⟨⟨row, hrow, hmessages⟩, notice, hnotice, hbroadcasts⟩
  constructor
  · intro heither
    rcases heither with hwhole | hdown
    · rcases hwhole.stored with ⟨row', hrow', hmessages'⟩
      rw [hmessages, List.append_cancel_left_eq,
        List.singleton_inj] at hmessages'
      rw [← hrow', ← hmessages', hrow]
      exact zero_notMem_text _
    · have hunshown := hdown.unshown
      rw [hbroadcasts, List.append_right_eq_self] at hunshown
      exact absurd hunshown (List.cons_ne_nil _ _)
  · intro hzero
    have hwhole := text_of_zero_notMem hzero
    left
    refine ⟨?_, ⟨row, hrow.trans hwhole, hmessages⟩, notice, ?_,
      hbroadcasts⟩
    · intro hempty
      apply hlen
      rw [← NsPacket.payload_length hcanonical.bodyLen, hempty]
      rfl
    · rw [hnotice, hwhole]

/-- A message of a joined client is turned down for a reason, or it gets as
far as the database. -/
theorem nsServerHandleText_outcome (hactive : (w.clients index).active)
    (hjoined : (w.clients index).joined) (hcanonical : packet.Canonical)
    (faults : SqliteFaults) :
    let after := (nsServerHandleText w index packet faults).2
    (TurnedDown w after index ∧
        (packet.payload = [] ∨ ¬ Storable w index packet faults)) ∨
      Relays w after index packet ∧ Storable w index packet faults ∧
        packet.header.bodyLen.toNat ≠ 0 := by
  have hbody := hcanonical.text_body
  have hstores := nsDbInsertMessage_iff w.database faults
    (w.clients index).userId packet.body (nsUnixTimeNow w)
  have hticked : Prepared w w.tick := ⟨_, _, rfl⟩
  have hcases := nsServerHandleText_cases w index packet faults
  generalize nsServerHandleText w index packet faults = handled at *
  cases hcases with
  | unjoined hunjoined =>
      rw [hjoined] at hunjoined
      exact absurd hunjoined.symm Bool.false_ne_true
  | empty hjoined' hempty =>
      have hfits : (literal "Messages cannot be empty.").length ≤
          nsPacketBodyMax := by
        decide
      have hdown := turnedDown_sendError hactive hticked rfl hfits
      refine Or.inl ⟨hdown, Or.inl ?_⟩
      rw [NsPacket.payload, hempty, List.take_zero]
  | long hjoined' hlen hlong =>
      have hfits : (literal
          "That message is too long once the username is added.").length ≤
            nsPacketBodyMax := by
        decide
      have hdown := turnedDown_sendError hactive hticked rfl hfits
      refine Or.inl ⟨hdown, Or.inr fun hstorable => ?_⟩
      have hshort := hstorable.fits
      rw [← hbody, ← nsServerBuildDisplayText_isSome_iff, hlong] at hshort
      exact Bool.false_ne_true hshort
  | unstored displayText hjoined' hlen hdisplay hstored =>
      have htables := (nsDbInsertMessage_spec w.database faults
        (w.clients index).userId packet.body
        (nsUnixTimeNow w)).2.2.2.2 hstored
      have hfits : (literal
          "The server could not store that message.").length ≤
            nsPacketBodyMax := by
        decide
      have hasked : Prepared w (w.stored index faults packet.body) :=
        ⟨_, _, rfl⟩
      have hdown := turnedDown_sendError hactive hasked htables hfits
      refine Or.inl ⟨hdown, Or.inr fun hstorable => ?_⟩
      have hinserted := hstores.mpr
        ⟨hstorable.works, hstorable.sender, hstorable.room⟩
      rw [hstored] at hinserted
      exact Bool.false_ne_true hinserted
  | broadcast displayText notice hjoined' hlen hdisplay hstored hnotice =>
      have hrelays := relays_of_broadcast hcanonical hdisplay hstored
        hnotice
      rcases hstores.mp hstored with ⟨hworks, hsender, hroom⟩
      refine Or.inr ⟨hrelays, ⟨?_, hworks, hsender, hroom⟩, hlen⟩
      rw [← hbody, ← nsServerBuildDisplayText_isSome_iff, hdisplay]
      rfl

/-- In the state of a joined client exactly the messages with a zero byte
that get as far as the database are not relayed whole. -/
theorem relaysWhole_iff (hactive : (w.clients index).active)
    (hjoined : (w.clients index).joined) (hcanonical : packet.Canonical) :
    RelaysWhole w index packet faults ↔
      0 ∉ packet.payload ∨ ¬ Storable w index packet faults := by
  rcases nsServerHandleText_outcome hactive hjoined hcanonical faults with
    ⟨hdown, hreason⟩ | ⟨hrelays, hstorable, hlen⟩
  · apply iff_of_true (Or.inr hdown)
    apply hreason.imp_left
    intro hempty
    rw [hempty]
    exact List.not_mem_nil
  · rw [RelaysWhole, hrelays.whole_iff hcanonical hlen]
    simp only [hstorable, not_true_eq_false, or_false]

end Handler

/-- In every reachable state a TEXT of a joined client is relayed whole or
turned down, unless it has a zero byte and gets as far as the database. -/
theorem text_relayed_whole_iff (tables : Tables) (listenSocket : NsSocket)
    (errno : Errno) (clock : Clock) (events : List Event)
    (index : SlotIndex) (packet : NsPacket) (faults : SqliteFaults)
    (hjoined : ((run World.step
      (World.boot tables listenSocket errno clock) events).clients
        index).joined)
    (hcanonical : packet.Canonical) :
    RelaysWhole (run World.step
        (World.boot tables listenSocket errno clock) events) index packet
        faults ↔
      0 ∉ packet.payload ∨
        ¬ Storable (run World.step
          (World.boot tables listenSocket errno clock) events) index packet
          faults :=
  relaysWhole_iff
    ((settled_run tables listenSocket errno clock events).active index
      hjoined) hjoined hcanonical

/-- A TEXT packet whose body is a letter, a zero byte and a letter. -/
def splitText : NsPacket :=
  .filled ⟨1, 2, 0, 0, 3⟩ [97, 0, 98] (by decide)

set_option maxRecDepth 100000 in
theorem splitText_canonical : splitText.Canonical where
  version := rfl
  type := rfl
  bodyLen := by decide
  body := by decide +kernel

set_option maxRecDepth 100000 in
/-- The client "a" of the run has joined, and its message would be stored. -/
theorem splitText_storable :
    let w := run World.step (World.boot .empty 3 .eagain fun _ => 0)
      (chatEvents 97)
    (w.clients ⟨0, nsMaxClients_pos⟩).joined ∧
      Storable w ⟨0, nsMaxClients_pos⟩ splitText (fun _ => false) := by
  have hrun :
      let w := run World.step (World.boot .empty 3 .eagain fun _ => 0)
        (chatEvents 97)
      let client := w.clients ⟨0, nsMaxClients_pos⟩
      client.joined ∧ client.username = padded 33 [97] ∧
        (∃ user ∈ w.database.tables.users,
          user.id = client.userId.toNat) ∧
        w.database.tables.messagesSeq < maxRowId := by
    decide +kernel
  rcases hrun with ⟨hjoined, husername, hsender, hroom⟩
  refine ⟨hjoined, ?_, rfl, hsender, hroom⟩
  rw [husername]
  decide

/-- One more message of that client. -/
theorem text_relayed_whole_iff_example :
    RelaysWhole (run World.step (World.boot .empty 3 .eagain fun _ => 0)
        (chatEvents 97)) ⟨0, nsMaxClients_pos⟩ splitText
        (fun _ => false) ↔
      0 ∉ splitText.payload ∨
        ¬ Storable (run World.step
          (World.boot .empty 3 .eagain fun _ => 0) (chatEvents 97))
          ⟨0, nsMaxClients_pos⟩ splitText (fun _ => false) :=
  text_relayed_whole_iff .empty 3 .eagain (fun _ => 0) (chatEvents 97)
    ⟨0, nsMaxClients_pos⟩ splitText (fun _ => false) splitText_storable.1
    splitText_canonical

/-- Of a message with a zero byte in the middle only the first half is
stored and shown. -/
theorem text_not_always_relayed_whole :
    ¬ ∀ tables listenSocket errno clock events index packet faults,
      ((run World.step (World.boot tables listenSocket errno clock)
        events).clients index).joined → packet.Canonical →
      RelaysWhole (run World.step
        (World.boot tables listenSocket errno clock) events) index packet
        faults := by
  intro hall
  rcases splitText_storable with ⟨hjoined, hstorable⟩
  have hwhole := hall .empty 3 .eagain (fun _ => 0) (chatEvents 97)
    ⟨0, nsMaxClients_pos⟩ splitText (fun _ => false) hjoined
    splitText_canonical
  have hactive := (settled_run .empty 3 .eagain (fun _ => 0)
    (chatEvents 97)).active _ hjoined
  rw [relaysWhole_iff hactive hjoined splitText_canonical] at hwhole
  rcases hwhole with hzero | hunstorable
  · exact hzero (by decide)
  · exact hunstorable hstorable

end NodeSignal
