import NodeSignal.ChatSegments

/-!
# Connections that have not joined

A connection that has not joined holds no name, no id and no bytes to send,
and it is not kept longer than the timeout allows.  So nothing stands in the
way of a JOIN that passes its checks: the ACK and the JOIN notice both find
room in the empty buffer.
-/

namespace NodeSignal

open CStrings Runs SlotFold

/-! ## Nothing is held before the JOIN -/

structure NsClient.Inert (client : NsClient) : Prop where
  head : client.sendBuf.head = 0
  tail : client.sendBuf.tail = 0
  userId : client.userId = 0
  username : text client.username = []

def Unnumbered (w : World) : Prop :=
  ∀ index, (w.clients index).joined = false → (w.clients index).userId = 0

theorem lasting_unnumbered :
    Lasting fun client => client.joined = false → client.userId = 0 where
  reset _ := rfl
  fresh _ _ _ := rfl
  buffered _ _ hgood := hgood
  seated _ _ _ _ _ hjoined := absurd hjoined (by simp)

theorem unnumbered_run (tables : Tables) (listenSocket : NsSocket)
    (errno : Errno) (clock : Clock) (events : List Event) :
    Unnumbered (run World.step (World.boot tables listenSocket errno clock)
      events) :=
  lasting_run lasting_unnumbered tables listenSocket errno clock events

theorem inert_of_unjoined {w : World} (hsettled : Settled w)
    (hunnumbered : Unnumbered w) {index : SlotIndex}
    (hjoined : (w.clients index).joined = false) :
    (w.clients index).Inert := by
  rcases hsettled.unjoined index hjoined with ⟨hbuf, hname⟩
  constructor
  · rw [hbuf]
    rfl
  · rw [hbuf]
    rfl
  · exact hunnumbered index hjoined
  · rw [hname]
    exact text_replicate_zero _

/-! ## The sweep -/

/-- A client that `ns_server_reap_auth_timeouts` disconnects. -/
structure Expired (now : ℤ) (client : NsClient) : Prop where
  active : client.active
  unjoined : client.joined = false
  late : now - client.connectTime ≥ nsAuthTimeoutSecs

instance (now : ℤ) (client : NsClient) : Decidable (Expired now client) :=
  decidable_of_iff
    (client.active ∧ client.joined = false ∧
      now - client.connectTime ≥ nsAuthTimeoutSecs)
    ⟨fun h => ⟨h.1, h.2.1, h.2.2⟩, fun h => ⟨h.active, h.unjoined, h.late⟩⟩

section Sweep

variable (w : World) (index : SlotIndex)

/-- The part of the state that belongs to one slot. -/
def World.slot : NsClient × PollFd :=
  (w.clients index, w.pollFds (pollIndex index))

theorem World.answered_dropped_slot {packet : NsPacket}
    (hlen : packet.header.bodyLen.toNat ≤ nsPacketBodyMax)
    (other : SlotIndex) :
    ((w.answered index packet).dropped index).slot other =
      if other = index then (.reset, .unused) else w.slot other := by
  have hclients := w.answered_dropped_clients index hlen
  have hpollFds : ∃ pollFd, (w.answered index packet).pollFds =
      Function.update w.pollFds (pollIndex index) pollFd := by
    rcases w.answered_cases index hlen with ⟨_, hafter⟩ | ⟨buf, _, hafter⟩
    · rw [hafter]
      exact ⟨_, (Function.update_eq_self _ _).symm⟩
    · rw [hafter]
      exact ⟨_, rfl⟩
  rcases hpollFds with ⟨pollFd, hpollFds⟩
  have hdropped : ((w.answered index packet).dropped index).pollFds =
      Function.update w.pollFds (pollIndex index) .unused := by
    change Function.update (w.answered index packet).pollFds _ _ = _
    rw [hpollFds, Function.update_idem]
  rw [World.slot, hclients, hdropped]
  split_ifs with hother
  · rw [hother, Function.update_self, Function.update_self]
  · rw [Function.update_of_ne hother,
      Function.update_of_ne (by simpa using hother)]
    rfl

theorem reapVisit_slot (now : ℤ) (other : SlotIndex) :
    (reapVisit now w index).slot other =
      if other = index ∧ Expired now (w.clients index)
      then (.reset, .unused) else w.slot other := by
  by_cases hexpired : Expired now (w.clients index)
  · have hfits : (literal "Authentication timeout.").length ≤
        nsPacketBodyMax := by decide
    rcases nsServerSendError_eq hexpired.active hfits with
      ⟨packet, hset, heq⟩
    have hlen := nsPacketSet_bodyLen hset
    have hafter : ((w.tick.answered index packet).clients index).active := by
      rcases (w.tick.answered_frame index hlen).2.2.2 with ⟨buf, hclients⟩
      rw [hclients, Function.update_self]
      exact hexpired.active
    have hvisit : reapVisit now w index =
        (w.tick.answered index packet).dropped index := by
      unfold reapVisit
      simp only [hexpired.active, hexpired.unjoined, hexpired.late, heq,
        nsServerDisconnectClient_false _ _ hafter]
      rfl
    rw [hvisit, World.answered_dropped_slot _ _ hlen]
    simp only [hexpired, and_true]
    rfl
  · have hvisit : reapVisit now w index = w := by
      unfold reapVisit
      simp only
      split
      · rfl
      · next hidle =>
          simp only [Bool.or_eq_true, Bool.not_eq_true', not_or,
            Bool.not_eq_false, Bool.not_eq_true] at hidle
          exact if_neg fun hlate =>
            hexpired ⟨hidle.1, hidle.2, hlate⟩
    rw [hvisit, if_neg fun h => hexpired h.2]

theorem reapVisit_local (now : ℤ) :
    Local World.slot (fun _ => ([] : List Obs)) (reapVisit now)
      (fun _ slot =>
        if Expired now slot.1 then (.reset, .unused) else slot)
      (fun _ _ => []) := by
  constructor
  · intro v index
    rw [reapVisit_slot]
    simp only [true_and]
    rfl
  · intro v index other hne
    rw [reapVisit_slot, if_neg fun h => hne h.1]
  · exact fun _ _ => rfl

/-- The sweep resets the slots of the clients that are late and no other. -/
theorem sweep_slot :
    (w.step .sweep).slot index =
      if Expired (w.clock 0) (w.clients index) then (.reset, .unused)
      else w.slot index := by
  have hread := (reapVisit_local (w.clock 0)).read_of_mem
    (List.nodup_finRange nsMaxClients) (List.mem_finRange index) w.tick
  have hstep : w.step .sweep = nsServerReapAuthTimeouts w := rfl
  rw [hstep, nsServerReapAuthTimeouts, hread]
  rfl

theorem sweep_timely
    (hactive : ((w.step .sweep).clients index).active)
    (hjoined : ((w.step .sweep).clients index).joined = false) :
    w.clock 0 - ((w.step .sweep).clients index).connectTime <
      nsAuthTimeoutSecs := by
  have hslot := sweep_slot w index
  simp only [World.slot] at hslot
  split_ifs at hslot with hexpired
  · rw [(Prod.mk.inj hslot).1] at hactive
    exact absurd hactive Bool.false_ne_true
  · rw [(Prod.mk.inj hslot).1] at hactive hjoined ⊢
    exact not_le.mp fun hlate => hexpired ⟨hactive, hjoined, hlate⟩

theorem sweep_joined (hjoined : (w.clients index).joined) :
    (w.step .sweep).slot index = w.slot index := by
  rw [sweep_slot, if_neg]
  intro hexpired
  exact absurd (hexpired.unjoined.symm.trans hjoined) Bool.false_ne_true

end Sweep

/-! ## A JOIN that passes its checks -/

theorem queued_wire {buf next : NsSendBuf} (hsound : buf.Sound)
    {packet : NsPacket}
    (hlen : packet.header.bodyLen.toNat ≤ nsPacketBodyMax)
    (henqueue : nsClientEnqueueSend buf (wireBuffer packet hlen) =
      some next) :
    next.queued = buf.queued ++ packet.wire ∧ next.Sound := by
  rw [← assembleWire_eq_wire hlen]
  exact nsClientEnqueueSend_of_sound hsound henqueue

/-- The client that has just joined: its buffer holds its ACK and its JOIN
notice. -/
structure Welcomed (client : NsClient) (assigned : UInt32)
    (name : List UInt8) : Prop where
  active : client.active
  joined : client.joined
  userId : client.userId = assigned
  username : text client.username = name
  queued : ∃ ack notice, IsAck ack assigned name ∧
    IsJoinNotice notice assigned name ∧
      client.sendBuf.queued = ack.wire ++ notice.wire

section Join

variable {w : World} {index : SlotIndex}

theorem welcomeClient_welcomed (hactive : (w.clients index).active)
    (hbuf : (w.clients index).sendBuf = .reset) (userId : UInt32)
    {username : List UInt8}
    (hshort : (text username).length ≤ nsUsernameMax) :
    ∃ after, welcomeClient w index userId username = (.ok, after) ∧
      Welcomed (after.clients index) userId (text username) := by
  rcases welcomeClient_eq hbuf userId username with
    ⟨_, _, ack, notice, hlen, buf, hack, henqueue, hnotice, hwelcome⟩
  refine ⟨_, hwelcome, ?_⟩
  have hlen' := nsPacketSet_bodyLen hnotice
  have hseated : ((World.seated { w with clock := w.clock.rest.rest } index
      userId username).appended index ack buf).clients index =
        { w.clients index with
          joined := true
          userId := userId
          username := username
          sendBuf := buf } := by
    rw [World.appended_clients, World.seated_clients, Function.update_self,
      Function.update_self]
  rcases nsClientEnqueueSend_second henqueue (wireBuffer notice hlen') with
    ⟨next, hnext⟩
  have hreset : NsSendBuf.reset.Sound := Nat.zero_lt_succ _
  rcases queued_wire hreset hlen henqueue with ⟨hfirst, hsound⟩
  have hsecond := (queued_wire hsound hlen' hnext).1
  rw [hfirst, NsSendBuf.queued_reset, List.nil_append] at hsecond
  rw [nsServerBroadcast_clients notice hlen', hseated, broadcastClient,
    if_pos ⟨hactive, rfl, Option.some_ne_none index⟩, hnext]
  exact ⟨hactive, rfl, rfl, rfl, ack, notice,
    isAck_of_nsPacketSet hshort hack,
    isJoinNotice_of_nsPacketSet hshort hnotice, hsecond⟩

/-- A JOIN that passes its checks and is registered succeeds. -/
theorem nsServerJoinFinalize_ok
    (hbuf : (w.clients index).sendBuf = .reset)
    (hname : (w.clients index).username = NsClient.reset.username)
    (hactive : (w.clients index).active) {packet : NsPacket}
    (hvalid : (nsServerJoinValidate w index packet).1)
    {faults : SqliteFaults} {userId : UInt32} {database : NsDatabase}
    {clock : Clock}
    (hregistered : nsDbGetOrCreateUser w.database faults w.clock
      packet.body = (some userId, database, clock)) :
    ∃ after, nsServerJoinFinalize w index packet faults = (.ok, after) ∧
      Welcomed (after.clients index) userId (text packet.payload) := by
  have hlen : packet.header.bodyLen.toNat ≤ nsUsernameMax :=
    (nsServerJoinValidate_eq_true.mp hvalid).2.2.1
  have husername : text (storeUsername (w.clients index).username packet) =
      text packet.payload := by
    rw [hname, storeUsername_reset hlen, text_padded]
  have hshort : (text (storeUsername (w.clients index).username
      packet)).length ≤ nsUsernameMax := by
    rw [husername]
    exact (text_length_le _).trans ((List.length_take_le _ _).trans hlen)
  rcases welcomeClient_welcomed
    (w := { w with database := database, clock := clock }) hactive hbuf
    userId hshort with ⟨after, hwelcome, hwelcomed⟩
  refine ⟨after, ?_, husername ▸ hwelcomed⟩
  unfold nsServerJoinFinalize
  simp only [hregistered]
  exact hwelcome

end Join

/-- In every reachable state the connections that have not joined hold
nothing, the sweep leaves none of them that is late and no joined slot
changed, and a JOIN that passes its checks and is registered succeeds in any
state with the same slots. -/
theorem unjoined_inert_and_joinable (tables : Tables)
    (listenSocket : NsSocket) (errno : Errno) (clock : Clock)
    (events : List Event) :
    let w := run World.step (World.boot tables listenSocket errno clock)
      events
    (∀ index, (w.clients index).active →
      (w.clients index).joined = false → (w.clients index).Inert) ∧
    (∀ index, ((w.step .sweep).clients index).active →
      ((w.step .sweep).clients index).joined = false →
        w.clock 0 - ((w.step .sweep).clients index).connectTime <
          nsAuthTimeoutSecs) ∧
    (∀ index, (w.clients index).joined →
      (w.step .sweep).slot index = w.slot index) ∧
    ∀ (v : World) index packet faults userId database clock',
      v.clients = w.clients →
      (v.clients index).active → (v.clients index).joined = false →
      (nsServerJoinValidate v index packet).1 →
      nsDbGetOrCreateUser v.database faults v.clock packet.body =
        (some userId, database, clock') →
      ∃ after,
        nsServerJoinFinalize v index packet faults = (.ok, after) ∧
          Welcomed (after.clients index) userId (text packet.payload) := by
  intro w
  have hsettled : Settled w :=
    settled_run tables listenSocket errno clock events
  have hunnumbered : Unnumbered w :=
    unnumbered_run tables listenSocket errno clock events
  refine ⟨?_, sweep_timely w, sweep_joined w, ?_⟩
  · intro index _ hjoined
    exact inert_of_unjoined hsettled hunnumbered hjoined
  · intro v index packet faults userId database clock' hclients hactive
      hjoined hvalid hregistered
    have hunjoined := hsettled.unjoined index (hclients ▸ hjoined)
    rw [← hclients] at hunjoined
    exact nsServerJoinFinalize_ok hunjoined.1 hunjoined.2 hactive hvalid
      hregistered

end NodeSignal
