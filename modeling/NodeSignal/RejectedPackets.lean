import NodeSignal.BroadcastSlots
import NodeSignal.Rejections

/-!
# A rejected packet touches nobody else

Whatever the reason for a rejection, no other slot, no other poll entry and
no table changes.  The client that sent the packet has at most an ERROR
packet added to its buffer, or it is disconnected without an announcement.
-/

namespace NodeSignal

open CStrings Runs

/-! ## The rejections of the handlers -/

/-- The packet is rejected and its sender is to be disconnected. -/
inductive Expelled (w : World) (index : SlotIndex) (packet : NsPacket)
    (faults : SqliteFaults) : Prop
  | joinRefused (htype : packet.header.type = NsPacketType.join.code)
      (hrefused : (nsServerJoinValidate w index packet).1 = false)
  | joinFailed (htype : packet.header.type = NsPacketType.join.code)
      (hvalid : (nsServerJoinValidate w index packet).1)
      (hfailed : (nsDbGetOrCreateUser w.database faults w.clock
        packet.body).1 = none)
  | textUnjoined (htype : packet.header.type = NsPacketType.text.code)
      (hjoined : (w.clients index).joined = false)
  | textFailed (htype : packet.header.type = NsPacketType.text.code)
      (hjoined : (w.clients index).joined)
      (hlen : packet.header.bodyLen.toNat ≠ 0)
      (hdisplay : (nsServerBuildDisplayText (w.clients index) packet
        (nsPacketBodyMax + 1)).isSome)
      (hfailed : (nsDbInsertMessage w.database faults
        (w.clients index).userId packet.body (nsUnixTimeNow w)).1 = false)
  | unsupported (htype : packet.header.type = NsPacketType.ack.code ∨
      packet.header.type = NsPacketType.error.code)

/-- The packet is a TEXT that is rejected for being empty or too long. -/
def Excused (w : World) (index : SlotIndex) (packet : NsPacket) : Prop :=
  packet.header.type = NsPacketType.text.code ∧
    ∃ message, Spared (w.clients index) packet message

/-! ## What may change -/

/-- Nothing outside of the slot changes. -/
structure Untouched (w after : World) (index : SlotIndex) : Prop where
  clients : ∀ other, other ≠ index →
    after.clients other = w.clients other
  pollFds : ∀ entry, entry ≠ pollIndex index →
    after.pollFds entry = w.pollFds entry
  tables : after.database.tables = w.database.tables

/-- The slot is free again, and one client fewer is counted. -/
structure SlotFreed (w after : World) (index : SlotIndex) : Prop where
  client : after.clients index = .reset
  pollFd : after.pollFds (pollIndex index) = ⟨-1, .none, .none⟩
  count : after.clientCount + 1 = w.clientCount

/-- At most one whole ERROR packet is appended to the buffer of the slot,
with the `POLLOUT` flag that goes with it. -/
structure SlotAnswered (w after : World) (index : SlotIndex) : Prop where
  slot : (after.clients index = w.clients index ∧
      after.pollFds (pollIndex index) = w.pollFds (pollIndex index)) ∨
    ∃ (packet : NsPacket) (buf : NsSendBuf),
      packet.header.type = NsPacketType.error.code ∧
      (w.clients index).sendBuf.Appends buf packet.wire ∧
      after.clients index = { w.clients index with sendBuf := buf } ∧
      after.pollFds (pollIndex index) =
        { w.pollFds (pollIndex index) with
          events :=
            { (w.pollFds (pollIndex index)).events with
              pollout := nsClientSendBufPending buf } }
  count : after.clientCount = w.clientCount

section Answers

variable {w after : World} {index : SlotIndex}

/-- An answer changes the buffer and the poll entry of its slot at most. -/
structure Answered (w after : World) (index : SlotIndex) : Prop where
  untouched : Untouched w after index
  slot : SlotAnswered w after index

theorem Answered.of_same (hclients : after.clients = w.clients)
    (hpollFds : after.pollFds = w.pollFds)
    (htables : after.database.tables = w.database.tables)
    (hcount : after.clientCount = w.clientCount) :
    Answered w after index := by
  constructor
  · constructor
    · intro other _
      rw [hclients]
    · intro entry _
      rw [hpollFds]
    · exact htables
  · exact ⟨Or.inl ⟨congrFun hclients _, congrFun hpollFds _⟩, hcount⟩

theorem answered_appended (hmirrored : Mirrored w)
    (hactive : (w.clients index).active) {packet : NsPacket}
    (htype : packet.header.type = NsPacketType.error.code)
    {buf : NsSendBuf}
    (happends : (w.clients index).sendBuf.Appends buf packet.wire) :
    Answered w (w.appended index packet buf) index := by
  have hevents := (hmirrored.busy index hactive).2
  constructor
  · constructor
    · intro other hne
      rw [World.appended_clients, Function.update_of_ne hne]
    · intro entry hne
      rw [World.appended_pollFds, Function.update_of_ne hne]
    · rfl
  · refine ⟨Or.inr ⟨packet, buf, htype, happends, ?_, ?_⟩, rfl⟩
    · rw [World.appended_clients, Function.update_self]
    · rw [World.appended_pollFds, Function.update_self, hevents]

theorem nsServerSendError_answered (hmirrored : Mirrored w)
    (hactive : (w.clients index).active) (message : String) :
    Answered w (nsServerSendError w index message) index := by
  rcases nsServerSendError_cases w index message with
    heq | heq | ⟨packet, hset, heq⟩
  · rw [heq]
    exact .of_same rfl rfl rfl rfl
  · rw [heq]
    exact .of_same rfl rfl rfl rfl
  · have hlen := nsPacketSet_bodyLen hset
    have htype := (nsPacketSet_eq_some hset).2.1
    have hnoted : Mirrored (w.tick.observe
        (.rejected (w.tick.connection index) packet)) :=
      hmirrored.congr rfl rfl rfl rfl
    rw [heq]
    rcases w.tick.answered_cases index hlen with ⟨-, hafter⟩ |
      ⟨buf, hbuf, hafter⟩
    · rw [hafter]
      exact .of_same rfl rfl rfl rfl
    · rw [hafter]
      have happends := nsClientEnqueueSend_appends hbuf
      rw [wireBuffer_val] at happends
      have hanswered := answered_appended hnoted hactive htype happends
      rcases hanswered with
        ⟨⟨hclients, hpollFds, htables⟩, hslot, hcount⟩
      exact ⟨⟨hclients, hpollFds, htables⟩, hslot, hcount⟩

theorem Mirrored.sendError (hmirrored : Mirrored w)
    (hactive : (w.clients index).active) (message : String) :
    Mirrored (nsServerSendError w index message) := by
  have hticked : Mirrored w.tick := hmirrored.congr rfl rfl rfl rfl
  rcases nsServerSendError_cases w index message with
    heq | heq | ⟨packet, hset, heq⟩
  · rwa [heq]
  · rwa [heq]
  · rw [heq]
    exact hticked.answered hactive (nsPacketSet_bodyLen hset)

theorem Answered.active (hanswered : Answered w after index) :
    (after.clients index).active = (w.clients index).active := by
  rcases hanswered.slot.slot with ⟨hsame, -⟩ |
    ⟨packet, buf, -, -, hclient, -⟩
  · rw [hsame]
  · rw [hclient]

/-- A client that is answered and then disconnected leaves nothing but a
free slot. -/
theorem expelled_effect (hmirrored : Mirrored w)
    (hactive : (w.clients index).active) (message : String) :
    let after := nsServerDisconnectClient
      (nsServerSendError w index message) index false
    Untouched w after index ∧ SlotFreed w after index := by
  have hanswered := nsServerSendError_answered hmirrored hactive message
  have hstill : ((nsServerSendError w index message).clients
      index).active := hanswered.active.trans hactive
  have hnoted := (hmirrored.sendError hactive message).observe
    (.disconnected ((nsServerSendError w index message).connection index))
  dsimp only
  rw [nsServerDisconnectClient_false _ _ hstill]
  refine ⟨⟨fun other hne => ?_, fun entry hne => ?_, ?_⟩, ?_, ?_, ?_⟩
  · rw [releaseSlot_clients, Function.update_of_ne hne]
    exact hanswered.untouched.clients other hne
  · exact (Function.update_of_ne hne _ _).trans
      (hanswered.untouched.pollFds entry hne)
  · exact hanswered.untouched.tables
  · rw [releaseSlot_clients, Function.update_self]
  · exact Function.update_self _ _ _
  · rw [(hnoted.clientCount_release hstill).1, sub_add_cancel]
    exact hanswered.slot.count

end Answers

/-! ## Every rejection is one of the two -/

section Dispatch

variable {w : World} {index : SlotIndex} {packet : NsPacket}
  {faults : SqliteFaults}

/-- A JOIN that is refused leads to an answer and a disconnection. -/
theorem dispatchPacket_refused
    (htype : packet.header.type = NsPacketType.join.code)
    (hrefused : (nsServerJoinValidate w index packet).1 = false)
    (faults : SqliteFaults) :
    ∃ message, dispatchPacket w index packet faults =
      nsServerDisconnectClient (nsServerSendError w index message) index
        false := by
  rcases nsServerJoinValidate_cases w index packet with
    ⟨message, -, heq⟩ | hpassed
  · refine ⟨message, ?_⟩
    simp [dispatchPacket, htype, nsServerHandleJoin, heq]
  · rw [hpassed] at hrefused
    exact absurd hrefused (Bool.false_ne_true ∘ Eq.symm)

/-- The rejected packet leads to an answer in a state with the same tables,
and to a disconnection. -/
theorem Expelled.dispatch (hexpelled : Expelled w index packet faults)
    (hdatabase : (nsDbGetOrCreateUser w.database faults w.clock
        packet.body).1 = none →
      (nsDbGetOrCreateUser w.database faults w.clock
        packet.body).2.1.tables = w.database.tables) :
    ∃ before message, Prepared w before ∧
      before.database.tables = w.database.tables ∧
      dispatchPacket w index packet faults =
        nsServerDisconnectClient (nsServerSendError before index message)
          index false := by
  cases hexpelled with
  | joinRefused htype hrefused =>
      rcases dispatchPacket_refused htype hrefused faults with
        ⟨message, heq⟩
      exact ⟨w, message, ⟨_, _, rfl⟩, rfl, heq⟩
  | joinFailed htype hvalid hfailed =>
      have hpassed : nsServerJoinValidate w index packet = (true, w) := by
        rcases nsServerJoinValidate_cases w index packet with
          ⟨message, -, heq⟩ | hpassed
        · rw [heq] at hvalid
          exact absurd hvalid Bool.false_ne_true
        · exact hpassed
      refine ⟨w.registered faults packet.body,
        "The server could not register that username.", ⟨_, _, rfl⟩,
        hdatabase hfailed, ?_⟩
      simp only [dispatchPacket, htype, NsPacketType.ofCode?_code,
        nsServerHandleJoin, hpassed, nsServerJoinFinalize, hfailed,
        Bool.not_true, Bool.false_eq_true, if_false, ne_eq, reduceCtorEq,
        not_false_eq_true, if_true]
      rfl
  | textUnjoined htype hjoined =>
      refine ⟨w.tick, "Join the chat before sending messages.",
        ⟨_, _, rfl⟩, rfl, ?_⟩
      simp [dispatchPacket, htype, nsServerHandleText, hjoined]
  | textFailed htype hjoined hlen hdisplay hfailed =>
      rcases Option.isSome_iff_exists.mp hdisplay with ⟨displayText, hsome⟩
      have htables := (nsDbInsertMessage_spec w.database faults
        (w.clients index).userId packet.body
        (nsUnixTimeNow w)).2.2.2.2 hfailed
      have htick : w.tick.database = w.database := rfl
      have hhandled : nsServerHandleText w index packet faults =
          (.disconnect, nsServerSendError (w.stored index faults
            packet.body) index "The server could not store that message.") := by
        simp only [nsServerHandleText, htick, hjoined, hlen, hsome, hfailed,
          Bool.not_true, Bool.false_eq_true, if_false, Bool.not_false,
          if_true]
        rfl
      refine ⟨w.stored index faults packet.body,
        "The server could not store that message.", ⟨_, _, rfl⟩, htables,
        ?_⟩
      simp only [dispatchPacket, htype, NsPacketType.ofCode?_code, hhandled,
        ne_eq, reduceCtorEq, not_false_eq_true, if_true]
  | unsupported htype =>
      refine ⟨w, "Unsupported packet type.", ⟨_, _, rfl⟩, rfl, ?_⟩
      rcases htype with htype | htype <;> simp [dispatchPacket, htype]

/-- The excused packet leads to an answer and nothing else. -/
theorem Excused.dispatch (hexcused : Excused w index packet) :
    ∃ message, dispatchPacket w index packet faults =
      nsServerSendError w.tick index message := by
  rcases hexcused with ⟨htype, message, hjoined, hreason⟩
  have hhandled : nsServerHandleText w index packet faults =
      (.ok, nsServerSendError w.tick index message) := by
    rcases hreason with ⟨hempty, rfl⟩ | ⟨hsome, hlong, rfl⟩
    · simp only [nsServerHandleText, hjoined, hempty, Bool.not_true,
        Bool.false_eq_true, if_false, if_true]
    · simp only [nsServerHandleText, hjoined, hsome, hlong, Bool.not_true,
        Bool.false_eq_true, if_false]
  refine ⟨message, ?_⟩
  simp only [dispatchPacket, htype, NsPacketType.ofCode?_code, hhandled,
    ne_eq, not_true_eq_false, if_false]

theorem nsServerHandleJoin_accepts (hsettled : Settled w)
    (hactive : (w.clients index).active) (hcanonical : packet.Canonical)
    (htype : packet.header.type = NsPacketType.join.code)
    (hexpelled : ¬ Expelled w index packet faults) :
    (nsServerHandleJoin w index packet faults).1 = .ok ∧
      rejections (nsServerHandleJoin w index packet faults).2.trace =
        rejections w.trace := by
  have hok : (nsServerHandleJoin w index packet faults).1 = .ok := by
    have hcases := nsServerHandleJoin_cases w index packet faults
    generalize nsServerHandleJoin w index packet faults = handled at *
    cases hcases with
    | refused message hrefused hfits =>
        exact absurd (.joinRefused htype (by rw [hrefused])) hexpelled
    | unregistered hvalid hunknown =>
        exact absurd (.joinFailed htype hvalid hunknown) hexpelled
    | welcomed userId hvalid hknown =>
        have hjoined := (nsServerJoinValidate_eq_true.mp hvalid).1
        have hbuf : ((w.registered faults packet.body).clients
            index).sendBuf = .reset := (hsettled.unjoined index hjoined).1
        rcases welcomeClient_eq hbuf userId
          (storeUsername (w.clients index).username packet) with
          ⟨_, _, _, _, _, _, _, _, _, hwelcome⟩
        rw [hwelcome]
  refine ⟨hok, ?_⟩
  have hhandled : Handled anySocket w index (fun _ => False)
      (nsServerHandleJoin w index packet faults) :=
    nsServerHandleJoin_handled hsettled hactive hcanonical faults
  generalize nsServerHandleJoin w index packet faults = handled at *
  cases hhandled with
  | kept after hmoves hsilent => exact hsilent
  | rebuked before message hmoves hprepared hjoined hspared hfits =>
      exact hspared.elim
  | rejected before message hmoves hprepared hspared hfits => cases hok

theorem nsServerHandleText_accepts
    (htype : packet.header.type = NsPacketType.text.code)
    (hexcused : ¬ Excused w index packet)
    (hexpelled : ¬ Expelled w index packet faults) :
    (nsServerHandleText w index packet faults).1 = .ok ∧
      rejections (nsServerHandleText w index packet faults).2.trace =
        rejections w.trace := by
  have hcases := nsServerHandleText_cases w index packet faults
  generalize nsServerHandleText w index packet faults = handled at *
  cases hcases with
  | unjoined hjoined => exact absurd (.textUnjoined htype hjoined) hexpelled
  | empty hjoined hempty =>
      exact absurd ⟨htype, _, hjoined, Or.inl ⟨hempty, rfl⟩⟩ hexcused
  | long hjoined hlen hlong =>
      exact absurd ⟨htype, _, hjoined, Or.inr ⟨hlen, hlong, rfl⟩⟩ hexcused
  | unstored displayText hjoined hlen hdisplay hstored =>
      exact absurd (.textFailed htype hjoined hlen
        (Option.isSome_of_eq_some hdisplay) hstored) hexpelled
  | broadcast displayText notice hjoined hlen hdisplay hstored hnotice =>
      exact ⟨rfl, rejections_nsServerBroadcast notice
        (nsPacketSet_bodyLen hnotice) none _⟩

/-- A packet that is not rejected is not answered with an ERROR packet. -/
theorem dispatchPacket_accepts (hsettled : Settled w)
    (hactive : (w.clients index).active) (hcanonical : packet.Canonical)
    (hexcused : ¬ Excused w index packet)
    (hexpelled : ¬ Expelled w index packet faults) :
    rejections (dispatchPacket w index packet faults).trace =
      rejections w.trace := by
  rcases Option.isSome_iff_exists.mp hcanonical.type with ⟨type, htype⟩
  have hcode := NsPacketType.eq_code_of_ofCode? htype
  simp only [dispatchPacket, htype]
  cases type with
  | join =>
      rcases nsServerHandleJoin_accepts hsettled hactive hcanonical hcode
        hexpelled with ⟨hok, hsilent⟩
      dsimp only
      rw [if_neg (not_not.mpr hok)]
      exact hsilent
  | text =>
      rcases nsServerHandleText_accepts hcode hexcused hexpelled with
        ⟨hok, hsilent⟩
      dsimp only
      rw [if_neg (not_not.mpr hok)]
      exact hsilent
  | leave => exact rejections_nsServerDisconnectClient w index true
  | ack => exact absurd (.unsupported (Or.inl hcode)) hexpelled
  | error => exact absurd (.unsupported (Or.inr hcode)) hexpelled

theorem Expelled.congr {v : World} (hclients : v.clients = w.clients)
    (hdatabase : v.database = w.database) (hclock : v.clock = w.clock)
    (hexpelled : Expelled w index packet faults) :
    Expelled v index packet faults := by
  have hvalidate : (nsServerJoinValidate v index packet).1 =
      (nsServerJoinValidate w index packet).1 :=
    nsServerJoinValidate_congr hclients
  have hnow : nsUnixTimeNow v = nsUnixTimeNow w := by
    rw [nsUnixTimeNow, nsUnixTimeNow, hclock]
  cases hexpelled with
  | joinRefused htype hrefused =>
      exact .joinRefused htype (hvalidate.trans hrefused)
  | joinFailed htype hvalid hfailed =>
      rw [← hdatabase, ← hclock] at hfailed
      exact .joinFailed htype (hvalidate.trans hvalid) hfailed
  | textUnjoined htype hjoined =>
      rw [← hclients] at hjoined
      exact .textUnjoined htype hjoined
  | textFailed htype hjoined hlen hdisplay hfailed =>
      rw [← hclients] at hjoined hdisplay hfailed
      rw [← hdatabase, ← hnow] at hfailed
      exact .textFailed htype hjoined hlen hdisplay hfailed
  | unsupported htype => exact .unsupported htype

/-- Receiving the packet does not change the grounds for its rejection. -/
theorem expelled_dispatching (sock : RecvSocket) :
    Expelled (w.dispatching index sock packet) index packet faults ↔
      Expelled w index packet faults := by
  constructor
  · intro hexpelled
    refine Expelled.congr ?_ ?_ ?_ hexpelled <;> rfl
  · intro hexpelled
    refine Expelled.congr ?_ ?_ ?_ hexpelled <;> rfl

end Dispatch

/-! ## Reading the packet -/

section Readable

variable {w : World} {index : SlotIndex} {packet : NsPacket}
  {faults : SqliteFaults} {sock : RecvSocket}

theorem Prepared.mirrored {before : World} (hprepared : Prepared w before)
    (hmirrored : Mirrored w) : Mirrored before := by
  rcases hprepared with ⟨database, clock, rfl⟩
  exact hmirrored.congr rfl rfl rfl rfl

theorem Excused.readable (hmirrored : Mirrored w)
    (hactive : (w.clients index).active)
    (hread : (nsRecvPacket (w.clients index).socketFd sock).result =
      .ok packet)
    (hexcused : Excused w index packet) :
    let after := (nsServerHandleClientReadable w index sock faults).1
    Untouched w after index ∧ SlotAnswered w after index := by
  have hexcused' : Excused (w.dispatching index sock packet) index packet :=
    hexcused
  have hdispatch : ∃ message, dispatchPacket
      (w.dispatching index sock packet) index packet faults =
        nsServerSendError (w.dispatching index sock packet).tick index
          message :=
    hexcused'.dispatch
  rcases hdispatch with ⟨message, heq⟩
  have hanswered := nsServerSendError_answered
    (w := (w.dispatching index sock packet).tick)
    (hmirrored.congr rfl rfl rfl rfl) hactive message
  dsimp only
  rw [nsServerHandleClientReadable_ok hread faults, heq]
  rcases hanswered with ⟨⟨hclients, hpollFds, htables⟩, hslot, hcount⟩
  exact ⟨⟨hclients, hpollFds, htables⟩, hslot, hcount⟩

theorem Expelled.readable (hmirrored : Mirrored w)
    (hactive : (w.clients index).active)
    (hread : (nsRecvPacket (w.clients index).socketFd sock).result =
      .ok packet)
    (hdatabase : (nsDbGetOrCreateUser w.database faults w.clock
        packet.body).1 = none →
      (nsDbGetOrCreateUser w.database faults w.clock
        packet.body).2.1.tables = w.database.tables)
    (hexpelled : Expelled w index packet faults) :
    let after := (nsServerHandleClientReadable w index sock faults).1
    Untouched w after index ∧ SlotFreed w after index := by
  have hexpelled' := (expelled_dispatching sock).mpr hexpelled
  rcases hexpelled'.dispatch hdatabase with
    ⟨before, message, hprepared, htables, heq⟩
  have hmirrored' : Mirrored before :=
    hprepared.mirrored (hmirrored.congr rfl rfl rfl rfl)
  have hsame : before.clients = w.clients ∧ before.pollFds = w.pollFds ∧
      before.clientCount = w.clientCount := by
    rcases hprepared with ⟨database, clock, rfl⟩
    exact ⟨rfl, rfl, rfl⟩
  have hactive' : (before.clients index).active := by
    rw [hsame.1]
    exact hactive
  have heffect := expelled_effect hmirrored' hactive' message
  dsimp only at heffect ⊢
  rw [nsServerHandleClientReadable_ok hread faults, heq]
  rcases heffect with ⟨huntouched, hfreed⟩
  have htables' : before.database.tables = w.database.tables := htables
  refine ⟨⟨?_, ?_, ?_⟩, hfreed.client, hfreed.pollFd, ?_⟩
  · rw [← hsame.1]
    exact huntouched.clients
  · rw [← hsame.2.1]
    exact huntouched.pollFds
  · exact huntouched.tables.trans htables'
  · rw [← hsame.2.2]
    exact hfreed.count

end Readable

/-- In every reachable state a packet that is rejected leaves everything
but its own slot unchanged, and the slot is either answered or freed.  No
other packet is answered with an ERROR. -/
theorem rejected_packet_isolated (tables : Tables) (listenSocket : NsSocket)
    (errno : Errno) (clock : Clock) (events : List Event)
    (index : SlotIndex) (sock : RecvSocket) (packet : NsPacket)
    (faults : SqliteFaults) :
    let w := run World.step (World.boot tables listenSocket errno clock)
      events
    let after := (nsServerHandleClientReadable w index sock faults).1
    let registration := nsDbGetOrCreateUser w.database faults w.clock
      packet.body
    (w.clients index).active →
    (nsRecvPacket (w.clients index).socketFd sock).result = .ok packet →
    (registration.1 = none →
      registration.2.1.tables = w.database.tables) →
      (Excused w index packet →
        Untouched w after index ∧ SlotAnswered w after index) ∧
      (Expelled w index packet faults →
        Untouched w after index ∧ SlotFreed w after index) ∧
      (¬ Excused w index packet → ¬ Expelled w index packet faults →
        rejections after.trace = rejections w.trace) := by
  intro w after registration hactive hread hdatabase
  have hmirrored : Mirrored w :=
    mirrored_run tables listenSocket errno clock events
  have hsettled : Settled w :=
    settled_run tables listenSocket errno clock events
  refine ⟨Excused.readable hmirrored hactive hread,
    Expelled.readable hmirrored hactive hread hdatabase, ?_⟩
  intro hexcused hexpelled
  have haccepts := dispatchPacket_accepts
    (w := w.dispatching index sock packet) (hsettled.congr rfl rfl) hactive
    (nsRecvPacket_ok_canonical hread) hexcused
    ((not_congr (expelled_dispatching sock)).mpr hexpelled)
  rw [show after = _ from nsServerHandleClientReadable_ok hread faults, haccepts,
    (expels_dispatching w index sock packet).trace, rejections_append]
  exact List.append_nil _

/-- One user says "x" and another one joins. -/
def gatheredEvents : List Event :=
  chatEvents 97 ++ [.accept (.connection 5 []),
    .readable ⟨1, one_lt_nsMaxClients⟩ (joinRequest 98) fun _ => false]

def gatheredRun : World :=
  run World.step (World.boot .empty 3 .eagain fun _ => 0) gatheredEvents

set_option maxRecDepth 100000 in
theorem gatheredRun_state :
    (gatheredRun.clients ⟨0, nsMaxClients_pos⟩).joined ∧
      gatheredRun.database.tables.users =
        [⟨1, [97], 0⟩, ⟨2, [98], 0⟩] ∧
      gatheredRun.database.tables.messages = [⟨1, 1, [120], 0⟩] := by
  decide +kernel

set_option maxRecDepth 100000 in
/-- The second user sends JOIN again. -/
theorem rejected_packet_isolated_example :
    ((gatheredRun.clients ⟨0, nsMaxClients_pos⟩).joined ∧
      gatheredRun.database.tables.users =
        [⟨1, [97], 0⟩, ⟨2, [98], 0⟩] ∧
      gatheredRun.database.tables.messages = [⟨1, 1, [120], 0⟩]) ∧
      Untouched gatheredRun
        (nsServerHandleClientReadable gatheredRun ⟨1, by decide⟩
          (joinRequest 98) fun _ => false).1 ⟨1, by decide⟩ ∧
      SlotFreed gatheredRun
        (nsServerHandleClientReadable gatheredRun ⟨1, by decide⟩
          (joinRequest 98) fun _ => false).1 ⟨1, by decide⟩ :=
  ⟨gatheredRun_state,
    (rejected_packet_isolated .empty 3 .eagain (fun _ => 0)
      gatheredEvents ⟨1, by decide⟩ (joinRequest 98) (joinPacket 98)
      (fun _ => false) (by decide +kernel) (by decide +kernel)
      fun hnone => absurd hnone (by decide +kernel)).2.1
        (.joinRefused rfl (by decide +kernel))⟩

end NodeSignal
