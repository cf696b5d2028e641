import NodeSignal.ChatLog
import NodeSignal.Identity

/-!
# The stored history is the chat that was broadcast

Every TEXT that is stored is broadcast, and the other way round, with the
same sender, the same time and the same words.  The sender is told by a
32-bit id, so the name in a broadcast is the name that the table has for the
stored id only as long as the ids fit.
-/

namespace NodeSignal

open CStrings Runs

def textBroadcasts (trace : List Obs) : List NsPacket :=
  (broadcasts trace).filter fun packet =>
    packet.header.type = NsPacketType.text.code

structure Agrees (tables : Tables) (row : MessageRow)
    (packet : NsPacket) : Prop where
  sender : packet.header.senderId.toNat = row.senderId
  timestamp : packet.header.timestamp.toNat = row.sentAt
  body : ∃ user ∈ tables.users, user.id = row.senderId ∧
    packet.payload = user.username ++ literal ": " ++ row.body

theorem Agrees.grow {tables tables' : Tables} {row : MessageRow}
    {packet : NsPacket} (hagrees : Agrees tables row packet)
    (husers : tables.users <+: tables'.users) :
    Agrees tables' row packet := by
  rcases hagrees.body with ⟨user, huser, hbody⟩
  exact ⟨hagrees.sender, hagrees.timestamp, user, husers.subset huser,
    hbody⟩

/-- What a move does to the stored messages and to the log. -/
inductive MoveRecords (w w' : World) : Prop
  | notices (packets : List NsPacket)
      (hmessages : w'.database.tables.messages =
        w.database.tables.messages)
      (hlog : broadcasts w'.trace = broadcasts w.trace ++ packets)
      (htype : ∀ packet ∈ packets,
        packet.header.type ≠ NsPacketType.text.code)
  | text (index : SlotIndex) (row : MessageRow) (timestamp : UInt32)
      (packet : NsPacket)
      (hjoined : (w.clients index).joined)
      (hmessages : w'.database.tables.messages =
        w.database.tables.messages ++ [row])
      (hlog : broadcasts w'.trace = broadcasts w.trace ++ [packet])
      (hsender : row.senderId = (w.clients index).userId.toNat)
      (hbody : 0 ∉ row.body)
      (hsentAt : row.sentAt = timestamp.toNat)
      (hpacket : nsPacketSet NsPacketType.text.code
        (w.clients index).userId timestamp
        (some (text (w.clients index).username ++ literal ": " ++
          row.body)) = some packet)

section Records

variable {allow : World → NsSocket → Prop} {w w' : World}

theorem broadcasts_release (w : World) (index : SlotIndex) :
    broadcasts (releaseSlot w index).trace = broadcasts w.trace := by
  rw [releaseSlot_trace, broadcasts_append, broadcasts_closingNotes,
    List.append_nil]

theorem broadcasts_answered (w : World) (index : SlotIndex)
    {packet : NsPacket}
    (hlen : packet.header.bodyLen.toNat ≤ nsPacketBodyMax) :
    broadcasts (w.answered index packet).trace = broadcasts w.trace := by
  rcases w.answered_trace index hlen with htrace | htrace
  · simp [htrace, Obs.announced]
  · simp [htrace, Obs.announced]

theorem Move.records (hmove : Move allow w w') : MoveRecords w w' := by
  have hsame : ∀ {v : World},
      v.database.tables.messages = w.database.tables.messages →
      broadcasts v.trace = broadcasts w.trace → MoveRecords w v := by
    intro v hmessages hlog
    exact .notices [] hmessages (by rw [hlog, List.append_nil]) (by simp)
  cases hmove with
  | errno errno => exact hsame rfl rfl
  | clock clock => exact hsame rfl rfl
  | polled revents => exact hsame rfl rfl
  | dispatched index packet hactive =>
      exact hsame rfl (by simp [World.observe, Obs.announced])
  | rebuked index packet hactive hjoined htype hlen =>
      exact hsame (by rw [(w.answered_frame index hlen).1])
        (broadcasts_answered w index hlen)
  | turnedAway index packet hactive hjoined htype hlen =>
      apply hsame
      · change (w.answered index packet).database.tables.messages = _
        rw [(w.answered_frame index hlen).1]
      · rw [World.dropped, broadcasts_release]
        simp [World.observe, Obs.announced, broadcasts_answered w index hlen]
  | dropped index hactive =>
      refine hsame ?_ ?_
      · rfl
      · rw [World.dropped, broadcasts_release]
        simp [World.observe, Obs.announced]
  | departed index timestamp notice hactive hjoined hnotice =>
      have hlen := nsPacketSet_bodyLen hnotice
      refine .notices [notice] ?_ ?_ ?_
      · change (nsServerBroadcast _ _ _).database.tables.messages = _
        rw [(nsServerBroadcast_frame notice hlen (some index) _).2.2]
        rfl
      · rw [World.departed, broadcasts_release,
          broadcasts_nsServerBroadcast notice hlen]
        simp [World.observe, Obs.announced]
      · simp [(nsPacketSet_eq_some hnotice).2.1, NsPacketType.code]
  | refused socketFd outcomes hvalid hallow =>
      rcases turnDown_trace (w.greeted socketFd) w.connections socketFd
        outcomes with ⟨bytes, htrace⟩
      apply hsame
      · rw [(turnDown_frame (w.greeted socketFd) w.connections socketFd
          outcomes).2.2.2.2.1]
        rfl
      · rw [htrace]
        simp [World.greeted, World.observe, Obs.announced]
  | occupied socketFd index hfree hvalid hallow =>
      refine hsame ?_ ?_
      · rfl
      · change broadcasts (w.trace ++ [_]) = _
        simp [Obs.announced]
  | drained index outcomes hactive =>
      refine hsame ?_ ?_
      · rfl
      · change broadcasts (w.trace ++ [_]) = _
        simp [Obs.announced]
  | registered database hgrow => exact hsame hgrow.messages rfl
  | joined index username userId timestamp timestamp' ack notice hlen buf
      hactive hjoined hunused huser hshort hack henqueue hnotice =>
      have hlen' := nsPacketSet_bodyLen hnotice
      refine .notices [notice] ?_ ?_ ?_
      · rw [(nsServerBroadcast_frame notice hlen' none _).2.2]
        rfl
      · rw [broadcasts_nsServerBroadcast notice hlen',
          World.appended_trace]
        simp [World.seated, World.observe, World.setClient, Obs.announced]
      · simp [(nsPacketSet_eq_some hnotice).2.1, NsPacketType.code]
  | texted index database row timestamp packet hactive hjoined hsaved
      husers hseq hmessages hsender hbody hsentAt hpacket =>
      have hlen := nsPacketSet_bodyLen hpacket
      refine .text index row timestamp packet hjoined ?_ ?_ hsender hbody
        hsentAt hpacket
      · rw [(nsServerBroadcast_frame packet hlen none _).2.2]
        exact hmessages
      · exact broadcasts_nsServerBroadcast packet hlen none _

end Records

/-- The stored messages since the given ones agree with the TEXT packets
that were broadcast. -/
def HistoryAgrees (before after : Tables) (trace : List Obs) : Prop :=
  ∃ rows, after.messages = before.messages ++ rows ∧
    List.Forall₂ (Agrees after) rows (textBroadcasts trace)

theorem textBroadcasts_of_notices {trace trace' : List Obs}
    {packets : List NsPacket}
    (hlog : broadcasts trace' = broadcasts trace ++ packets)
    (htype : ∀ packet ∈ packets,
      packet.header.type ≠ NsPacketType.text.code) :
    textBroadcasts trace' = textBroadcasts trace := by
  have hnone : packets.filter (fun packet =>
      packet.header.type = NsPacketType.text.code) = [] := by
    rw [List.filter_eq_nil_iff]
    intro packet hmem
    simpa using htype packet hmem
  rw [textBroadcasts, hlog, List.filter_append, hnone, List.append_nil]
  rfl

theorem agrees_of_identified {w : World} (hidentified : Identified w)
    (hids : w.database.tables.usersSeq < 2 ^ 32) {index : SlotIndex}
    (hjoined : (w.clients index).joined) {row : MessageRow}
    {timestamp : UInt32} {packet : NsPacket}
    (hsender : row.senderId = (w.clients index).userId.toNat)
    (hbody : 0 ∉ row.body) (hsentAt : row.sentAt = timestamp.toNat)
    (hpacket : nsPacketSet NsPacketType.text.code
      (w.clients index).userId timestamp
      (some (text (w.clients index).username ++ literal ": " ++
        row.body)) = some packet) : Agrees w.database.tables row packet := by
  rcases nsPacketSet_eq_some hpacket with
    ⟨-, -, hsenderId, htimestamp, -, hpayload, -⟩
  rcases (uniqueIdentities_of_identified hidentified hids).registered index
    hjoined with ⟨user, huser, hname, hid⟩
  have hzero : 0 ∉ text (w.clients index).username ++ literal ": " ++
      row.body := by
    simp only [List.mem_append, not_or]
    exact ⟨⟨zero_notMem_text _, by decide⟩, hbody⟩
  refine ⟨by rw [hsenderId, hsender], by rw [htimestamp, hsentAt], user,
    huser, hid.trans hsender.symm, ?_⟩
  rw [hpayload, Option.getD_some, text_of_zero_notMem hzero, hname]

/-- The messages stored so far agree with the broadcasts so far, while the
ids fit. -/
structure Recorded (before : Tables) (w : World) : Prop where
  identified : Identified w
  history : ∃ rows,
    w.database.tables.messages = before.messages ++ rows ∧
      (w.database.tables.usersSeq < 2 ^ 32 →
        List.Forall₂ (Agrees w.database.tables) rows
          (textBroadcasts w.trace))

theorem Move.recorded {allow : World → NsSocket → Prop} {w w' : World}
    (hmove : Move allow w w') (hsettled : Settled w) {before : Tables}
    (hrecorded : Recorded before w) : Recorded before w' := by
  rcases hmove.users with ⟨husers, hseq⟩
  refine ⟨hmove.identified hsettled hrecorded.identified, ?_⟩
  rcases hrecorded.history with ⟨rows, hrows, hagree⟩
  have hgrown : w'.database.tables.usersSeq < 2 ^ 32 →
      List.Forall₂ (Agrees w'.database.tables) rows
        (textBroadcasts w.trace) := by
    intro hids
    exact (hagree (lt_of_le_of_lt hseq hids)).imp
      fun row packet hagrees => hagrees.grow husers
  cases hmove.records with
  | notices packets hmessages hlog htype =>
      refine ⟨rows, hmessages.trans hrows, ?_⟩
      rw [textBroadcasts_of_notices hlog htype]
      exact hgrown
  | text index row timestamp packet hjoined hmessages hlog hsender hbody
      hsentAt hpacket =>
      have htext : textBroadcasts w'.trace =
          textBroadcasts w.trace ++ [packet] := by
        rw [textBroadcasts, hlog, List.filter_append]
        simp [textBroadcasts, (nsPacketSet_eq_some hpacket).2.1]
      refine ⟨rows ++ [row], ?_, ?_⟩
      · rw [hmessages, hrows, List.append_assoc]
      · intro hids
        have hlast := agrees_of_identified hrecorded.identified
          (lt_of_le_of_lt hseq hids) hjoined hsender hbody hsentAt hpacket
        rw [htext]
        exact List.rel_append (hgrown hids)
          (.cons (hlast.grow husers) .nil)

/-- The stored history is the chat that was broadcast, in every run that uses
up fewer than 2^32 row ids of `users`, and the packet for a stored message
can always be built. -/
theorem history_agrees (tables : Tables) (listenSocket : NsSocket)
    (errno : Errno) (clock : Clock) (events : List Event)
    (hids : (run World.step (World.boot tables listenSocket errno clock)
      events).database.tables.usersSeq < 2 ^ 32) :
    HistoryAgrees tables
        (run World.step (World.boot tables listenSocket errno clock)
          events).database.tables
        (run World.step (World.boot tables listenSocket errno clock)
          events).trace ∧
      ∀ client packet displayText senderId timestamp,
        nsServerBuildDisplayText client packet (nsPacketBodyMax + 1) =
          some displayText →
        nsPacketSet NsPacketType.text.code senderId timestamp
          (some displayText) ≠ none := by
  constructor
  · have hboot : Recorded tables
        (World.boot tables listenSocket errno clock) := by
      refine ⟨identified_boot tables listenSocket errno clock, [], ?_, ?_⟩
      · exact (List.append_nil _).symm
      · exact fun _ => .nil
    have hrecorded := run_boot_invariant
      (fun _ _ hsettled hinv hmove => Move.recorded hmove hsettled hinv)
      hboot events
    rcases hrecorded.history with ⟨rows, hrows, hagree⟩
    exact ⟨rows, hrows, hagree hids⟩
  · intro client packet displayText senderId timestamp hbuild
    have hlen := (nsServerBuildDisplayText_eq_some hbuild).2
    rcases nsPacketSet_isSome NsPacketType.text.code senderId timestamp
      ((text_length_le displayText).trans (Nat.le_of_lt_succ hlen)) with
      ⟨built, hbuilt⟩
    rw [hbuilt]
    exact Option.some_ne_none built

def textRequest (letter : UInt8) : RecvSocket where
  pending := [1, 2, 0, 0, 0, 0, 0, 0, 0, 0, 0, 0, 0, 1, letter]
  ending := .failed .eagain
  chunks := []

/-- One client joins under the given letter and says "x". -/
def chatEvents (letter : UInt8) : List Event :=
  [.accept (.connection 4 []),
    .readable ⟨0, nsMaxClients_pos⟩ (joinRequest letter) fun _ => false,
    .readable ⟨0, nsMaxClients_pos⟩ (textRequest 120) fun _ => false]

set_option maxRecDepth 100000 in
theorem history_agrees_example :
    HistoryAgrees .empty
        (run World.step (World.boot .empty 3 .eagain fun _ => 0)
          (chatEvents 97)).database.tables
        (run World.step (World.boot .empty 3 .eagain fun _ => 0)
          (chatEvents 97)).trace ∧
      ∀ client packet displayText senderId timestamp,
        nsServerBuildDisplayText client packet (nsPacketBodyMax + 1) =
          some displayText →
        nsPacketSet NsPacketType.text.code senderId timestamp
          (some displayText) ≠ none :=
  history_agrees .empty 3 .eagain (fun _ => 0) _ (by decide +kernel)

/-- The users "a" and "b", whose ids agree in their low 32 bits. -/
def crowdedTables : Tables where
  users := [⟨1, [97], 0⟩, ⟨2 ^ 32 + 1, [98], 0⟩]
  usersSeq := 2 ^ 32 + 1
  messages := []
  messagesSeq := 0
  users_id := by decide
  users_increasing := by decide
  users_unique := by decide
  messages_id := Tables.empty.messages_id
  messages_increasing := Tables.empty.messages_increasing
  messages_sender := by simp

def crowdedRun : World :=
  run World.step (World.boot crowdedTables 3 .eagain fun _ => 0)
    (chatEvents 98)

set_option maxRecDepth 100000 in
theorem crowdedRun_history :
    crowdedRun.database.tables.users = crowdedTables.users ∧
      crowdedRun.database.tables.messages = [⟨1, 1, [120], 0⟩] ∧
      (textBroadcasts crowdedRun.trace).map NsPacket.payload =
        [[98, 58, 32, 120]] := by
  decide +kernel

/-- Here the message of "b" is stored under the id of "a". -/
theorem history_not_always_agrees :
    ¬ ∀ tables listenSocket errno clock events,
      HistoryAgrees tables
        (run World.step (World.boot tables listenSocket errno clock)
          events).database.tables
        (run World.step (World.boot tables listenSocket errno clock)
          events).trace := by
  intro hall
  have hagrees := hall crowdedTables 3 .eagain (fun _ => 0) (chatEvents 98)
  rw [← crowdedRun] at hagrees
  rcases hagrees with ⟨rows, hrows, hagree⟩
  rcases crowdedRun_history with ⟨husers, hmessages, htexts⟩
  have hempty : crowdedTables.messages = [] := rfl
  rw [hmessages, hempty, List.nil_append] at hrows
  subst hrows
  generalize textBroadcasts crowdedRun.trace = texts at htexts hagree
  cases hagree with
  | cons hfirst hrest =>
      rcases hfirst.body with ⟨user, huser, hid, hpayload⟩
      cases hrest
      rw [List.map_singleton, List.cons.injEq, hpayload] at htexts
      rw [husers] at huser
      have hchecked : ∀ user ∈ crowdedTables.users, user.id = 1 →
          user.username ++ literal ": " ++ [120] ≠ [98, 58, 32, 120] := by
        decide
      exact hchecked user huser hid htexts.1

end NodeSignal
