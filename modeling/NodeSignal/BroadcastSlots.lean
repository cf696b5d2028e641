import NodeSignal.Encoders
import NodeSignal.Identity
import NodeSignal.SlotTable

/-!
# A broadcast isolates its receivers

What a broadcast does to a slot is decided by the packet and the slot alone:
the wire bytes are appended, or the buffer refuses them and the slot is
reset, or the slot is not a recipient and stays as it is.  The client count
falls by the number of slots that were reset.
-/

namespace NodeSignal

open RingWindow Runs SlotFold

/-! ## The poll entries slot by slot -/

/-- What a broadcast makes of the poll entry of a slot. -/
def broadcastPollFd (packet : NsPacket)
    (hlen : packet.header.bodyLen.toNat ≤ nsPacketBodyMax)
    (excludeIndex : Option SlotIndex) (index : SlotIndex)
    (client : NsClient) (pollFd : PollFd) : PollFd :=
  if Recipient excludeIndex index client then
    match nsClientEnqueueSend client.sendBuf (wireBuffer packet hlen) with
    | some buf =>
        { pollFd with
          events :=
            { PollFlags.onlyPollin with
              pollout := nsClientSendBufPending buf } }
    | none => .unused
  else pollFd

section Entries

variable (packet : NsPacket)
  (hlen : packet.header.bodyLen.toNat ≤ nsPacketBodyMax)
  (excludeIndex : Option SlotIndex)

theorem World.appended_pollFds (w : World) (index : SlotIndex)
    (buf : NsSendBuf) :
    (w.appended index packet buf).pollFds =
      Function.update w.pollFds (pollIndex index)
        { w.pollFds (pollIndex index) with
          events :=
            { PollFlags.onlyPollin with
              pollout := nsClientSendBufPending buf } } := by
  simp [World.appended, nsServerUpdatePollEvents, World.setPollFd,
    World.observe, World.setClient]

theorem World.evicted_pollFds (w : World) (index : SlotIndex) :
    (w.evicted index packet).pollFds =
      Function.update w.pollFds (pollIndex index) .unused := rfl

theorem broadcastVisit_entries :
    Local (fun (w : World) index =>
        (w.clients index, w.pollFds (pollIndex index)))
      (fun _ => ([] : List Obs))
      (broadcastVisit nsServerDisconnectClient packet hlen excludeIndex)
      (fun index slot =>
        (broadcastClient packet hlen excludeIndex index slot.1,
          broadcastPollFd packet hlen excludeIndex index slot.1 slot.2))
      (fun _ _ => []) := by
  constructor
  · intro w index
    rw [broadcastVisit_eq]
    unfold broadcastClient broadcastPollFd
    split
    · split
      · next buf henqueue =>
          simp only [henqueue, World.appended_clients,
            World.appended_pollFds, Function.update_self]
      · next henqueue =>
          simp only [henqueue, World.evicted_clients,
            World.evicted_pollFds, Function.update_self]
    · rfl
  · intro w index other hne
    have hentry : pollIndex other ≠ pollIndex index := by simpa using hne
    rw [broadcastVisit_eq]
    split
    · split
      · simp only [World.appended_clients, World.appended_pollFds,
          Function.update_of_ne hne, Function.update_of_ne hentry]
      · simp only [World.evicted_clients, World.evicted_pollFds,
          Function.update_of_ne hne, Function.update_of_ne hentry]
    · rfl
  · intro w index
    rfl

/-- A broadcast acts on each poll entry as on its slot alone. -/
theorem nsServerBroadcast_pollFds (w : World) (index : SlotIndex) :
    (nsServerBroadcast w packet excludeIndex).pollFds (pollIndex index) =
      broadcastPollFd packet hlen excludeIndex index (w.clients index)
        (w.pollFds (pollIndex index)) := by
  have hread :=
    (broadcastVisit_entries packet hlen excludeIndex).read_of_mem
      (List.nodup_finRange nsMaxClients) (List.mem_finRange index)
      (w.observe (.broadcast packet))
  rw [Prod.mk.injEq] at hread
  rw [nsServerBroadcast_eq, broadcastBody, dif_pos hlen]
  exact hread.2

include hlen in
theorem nsServerBroadcast_listen (w : World) :
    (nsServerBroadcast w packet excludeIndex).pollFds listenIndex =
      w.pollFds listenIndex := by
  have hne : ∀ index, listenIndex ≠ pollIndex index :=
    fun index => (pollIndex_ne_listenIndex index).symm
  apply nsServerBroadcast_induction packet hlen excludeIndex
    (motive := fun after => after.pollFds listenIndex =
      w.pollFds listenIndex)
  · rfl
  · intro v index buf hv _ _
    rw [World.appended_pollFds, Function.update_of_ne (hne index), hv]
  · intro v index hv _ _
    rw [World.evicted_pollFds, Function.update_of_ne (hne index), hv]

end Entries

/-! ## Receivers that are reset -/

/-- The recipients whose buffers refuse the packet. -/
def refusing (w : World) (packet : NsPacket)
    (excludeIndex : Option SlotIndex) : Finset SlotIndex :=
  Finset.univ.filter fun index =>
    Recipient excludeIndex index (w.clients index) ∧
      ¬ (w.clients index).sendBuf.Admits
        (nsPacketHeaderSize + packet.header.bodyLen.toNat)

theorem mem_refusing {w : World} {packet : NsPacket}
    {excludeIndex : Option SlotIndex} {index : SlotIndex} :
    index ∈ refusing w packet excludeIndex ↔
      Recipient excludeIndex index (w.clients index) ∧
        ¬ w.HasRoom index packet := by
  rw [refusing, Finset.mem_filter]
  exact and_iff_right (Finset.mem_univ _)

/-- What a broadcast does to the slots, the poll entries, the sockets and
the client count. -/
structure Isolated (w : World) (packet : NsPacket)
    (excludeIndex : Option SlotIndex) (after : World) : Prop where
  appended : ∀ index, Recipient excludeIndex index (w.clients index) →
    w.HasRoom index packet →
      ∃ buf, (w.clients index).sendBuf.Appends buf packet.wire ∧
        after.clients index = { w.clients index with sendBuf := buf } ∧
        after.pollFds (pollIndex index) =
          { w.pollFds (pollIndex index) with
            events :=
              { PollFlags.onlyPollin with
                pollout := nsClientSendBufPending buf } }
  reset : ∀ index ∈ refusing w packet excludeIndex,
    after.clients index = .reset ∧
      after.pollFds (pollIndex index) = ⟨-1, .none, .none⟩
  others : ∀ index, ¬ Recipient excludeIndex index (w.clients index) →
    after.clients index = w.clients index ∧
      after.pollFds (pollIndex index) = w.pollFds (pollIndex index)
  listen : after.pollFds listenIndex = w.pollFds listenIndex
  closed : ∀ connection socketFd,
    .closed connection socketFd ∈ after.trace.drop w.trace.length ↔
      ∃ index ∈ refusing w packet excludeIndex,
        w.connection index = connection ∧
          (w.clients index).socketFd = socketFd
  count : after.clientCount =
    w.clientCount - (refusing w packet excludeIndex).card

section Slots

variable {w : World} {packet : NsPacket} {excludeIndex : Option SlotIndex}
  {index : SlotIndex}

/-- An active slot stays active unless its buffer refuses. -/
theorem activeSlots_broadcast
    (hlen : packet.header.bodyLen.toNat ≤ nsPacketBodyMax) :
    activeSlots (nsServerBroadcast w packet excludeIndex) =
      activeSlots w \ refusing w packet excludeIndex := by
  apply Finset.ext
  intro index
  rw [Finset.mem_sdiff, mem_activeSlots, mem_activeSlots, mem_refusing,
    nsServerBroadcast_clients packet hlen, broadcastClient]
  by_cases hrecipient : Recipient excludeIndex index (w.clients index)
  · rw [if_pos hrecipient, and_iff_right hrecipient]
    by_cases hroom : w.HasRoom index packet
    · rcases hroom.enqueue hlen with ⟨buf, hbuf, -⟩
      simp only [hbuf, hroom, not_true_eq_false, not_false_eq_true,
        and_true]
    · rw [World.enqueue_of_not_hasRoom hroom hlen]
      simp [hroom, NsClient.reset]
  · rw [if_neg hrecipient]
    exact (and_iff_left fun hrefused => hrecipient hrefused.1).symm

theorem clientCount_broadcast (hmirrored : Mirrored w)
    (hlen : packet.header.bodyLen.toNat ≤ nsPacketBodyMax) :
    (nsServerBroadcast w packet excludeIndex).clientCount =
      w.clientCount - (refusing w packet excludeIndex).card := by
  have hsubset : refusing w packet excludeIndex ⊆ activeSlots w := by
    intro index hrefusing
    exact mem_activeSlots.mpr (mem_refusing.mp hrefusing).1.1
  have hcard := Finset.card_sdiff_add_card_eq_card hsubset
  rw [(hmirrored.broadcast hlen excludeIndex).count, hmirrored.count,
    activeSlots_broadcast hlen]
  omega

/-- The sockets that are closed are those of the slots that are reset. -/
theorem closed_mem_broadcast (hsettled : Settled w)
    (hlen : packet.header.bodyLen.toNat ≤ nsPacketBodyMax)
    (connection : ℕ) (socketFd : NsSocket) :
    .closed connection socketFd ∈
        (nsServerBroadcast w packet excludeIndex).trace.drop
          w.trace.length ↔
      ∃ index ∈ refusing w packet excludeIndex,
        w.connection index = connection ∧
          (w.clients index).socketFd = socketFd := by
  rw [nsServerBroadcast_trace packet hlen, List.drop_left, fanout,
    List.mem_cons, List.mem_flatMap]
  have hslot : ∀ index, .closed connection socketFd ∈
      broadcastNotes packet hlen excludeIndex index (w.clients index)
        (w.connection index) ↔
        index ∈ refusing w packet excludeIndex ∧
          w.connection index = connection ∧
            (w.clients index).socketFd = socketFd := by
    intro index
    rw [mem_refusing, broadcastNotes]
    by_cases hrecipient : Recipient excludeIndex index (w.clients index)
    · rw [if_pos hrecipient, and_iff_right hrecipient]
      by_cases hroom : w.HasRoom index packet
      · rcases hroom.enqueue hlen with ⟨buf, hbuf, -⟩
        simp [hbuf, hroom]
      · have hvalid := hsettled.valid index hrecipient.1
        rw [World.enqueue_of_not_hasRoom hroom hlen]
        simp [hroom, closingNotes, hvalid, eq_comm]
    · rw [if_neg hrecipient]
      simp [hrecipient]
  simp only [reduceCtorEq, false_or, List.mem_finRange, true_and, hslot]

theorem broadcast_isolated (hsettled : Settled w)
    (hmirrored : Mirrored w)
    (hlen : packet.header.bodyLen.toNat ≤ nsPacketBodyMax)
    (excludeIndex : Option SlotIndex) :
    Isolated w packet excludeIndex
      (nsServerBroadcast w packet excludeIndex) := by
  have hclients := nsServerBroadcast_clients packet hlen excludeIndex w
  have hpollFds := nsServerBroadcast_pollFds packet hlen excludeIndex w
  constructor
  · intro index hrecipient hroom
    rcases hroom.enqueue hlen with ⟨buf, hbuf, happends⟩
    refine ⟨buf, happends, ?_, ?_⟩
    · rw [hclients, broadcastClient, if_pos hrecipient]
      simp only [hbuf]
    · rw [hpollFds, broadcastPollFd, if_pos hrecipient]
      simp only [hbuf]
  · intro index hrefusing
    rcases mem_refusing.mp hrefusing with ⟨hrecipient, hfull⟩
    have hnone := World.enqueue_of_not_hasRoom hfull hlen
    refine ⟨?_, ?_⟩
    · rw [hclients, broadcastClient, if_pos hrecipient, hnone]
    · rw [hpollFds, broadcastPollFd, if_pos hrecipient, hnone]
      rfl
  · intro index hother
    refine ⟨?_, ?_⟩
    · rw [hclients, broadcastClient, if_neg hother]
    · rw [hpollFds, broadcastPollFd, if_neg hother]
  · exact nsServerBroadcast_listen packet hlen excludeIndex w
  · exact closed_mem_broadcast hsettled hlen
  · exact clientCount_broadcast hmirrored hlen

end Slots

theorem mirrored_run (tables : Tables) (listenSocket : NsSocket)
    (errno : Errno) (clock : Clock) (events : List Event) :
    Mirrored (run World.step (World.boot tables listenSocket errno clock)
      events) :=
  run_boot_invariant
    (fun _ _ _ hmirrored hmove => hmove.mirrored hmirrored)
    (mirrored_boot tables listenSocket errno clock) events

/-- In every reachable state a broadcast treats each slot by itself: the
outcome is given slot by slot, and any state with the same content in a slot
gives the same outcome there. -/
theorem broadcast_isolates_receivers (tables : Tables)
    (listenSocket : NsSocket) (errno : Errno) (clock : Clock)
    (events : List Event) (packet : NsPacket)
    (hlen : packet.header.bodyLen.toNat ≤ nsPacketBodyMax)
    (excludeIndex : Option SlotIndex) :
    let w := run World.step (World.boot tables listenSocket errno clock)
      events
    Isolated w packet excludeIndex
        (nsServerBroadcast w packet excludeIndex) ∧
      ∀ (w' : World) (index : SlotIndex),
        w'.clients index = w.clients index →
        w'.pollFds (pollIndex index) = w.pollFds (pollIndex index) →
          (nsServerBroadcast w' packet excludeIndex).clients index =
              (nsServerBroadcast w packet excludeIndex).clients index ∧
            (nsServerBroadcast w' packet excludeIndex).pollFds
                (pollIndex index) =
              (nsServerBroadcast w packet excludeIndex).pollFds
                (pollIndex index) := by
  intro w
  refine ⟨?_, fun w' index hclient hpollFd => ?_⟩
  · exact broadcast_isolated
      (settled_run tables listenSocket errno clock events)
      (mirrored_run tables listenSocket errno clock events) hlen
      excludeIndex
  · simp only [nsServerBroadcast_clients packet hlen,
      nsServerBroadcast_pollFds packet hlen, hclient, hpollFd]
    exact ⟨trivial, trivial⟩

/-- A text of 500 bytes. -/
def longTextRequest : RecvSocket where
  pending := [1, 2, 0, 0, 0, 0, 0, 0, 0, 0, 0, 0, 1, 244] ++
    List.replicate 500 120
  ending := .failed .eagain
  chunks := []

/-- Three users join and the third posts three long texts, which the kernel
takes for the first and the third user while the second one reads nothing. -/
def crowdEvents : List Event :=
  [.accept (.connection 4 []), .accept (.connection 5 []),
    .accept (.connection 6 []),
    .readable ⟨0, nsMaxClients_pos⟩ (joinRequest 97) fun _ => false,
    .readable ⟨1, one_lt_nsMaxClients⟩ (joinRequest 98) fun _ => false,
    .readable ⟨2, two_lt_nsMaxClients⟩ (joinRequest 99) fun _ => false,
    .readable ⟨2, two_lt_nsMaxClients⟩ longTextRequest fun _ => false,
    .readable ⟨2, two_lt_nsMaxClients⟩ longTextRequest fun _ => false,
    .readable ⟨2, two_lt_nsMaxClients⟩ longTextRequest fun _ => false,
    .drain ⟨0, nsMaxClients_pos⟩ [.took 2048],
    .drain ⟨2, two_lt_nsMaxClients⟩ [.took 2048]]

def crowdRun : World :=
  run World.step (World.boot .empty 3 .eagain fun _ => 0) crowdEvents

def longNotice : NsPacket :=
  .filled ⟨nsProtocolVersion, NsPacketType.text.code, 3, 0, 503⟩
    ([99, 58, 32] ++ List.replicate 500 120) (by
      rw [List.length_append, List.length_replicate]
      decide)

set_option maxRecDepth 100000 in
/-- Of the first two users, who are both to receive the packet, only the
first one's buffer admits it. -/
theorem crowdRun_slots :
    (Recipient (some ⟨2, by decide⟩) ⟨0, nsMaxClients_pos⟩
          (crowdRun.clients ⟨0, nsMaxClients_pos⟩) ∧
        crowdRun.HasRoom ⟨0, nsMaxClients_pos⟩ longNotice) ∧
      (Recipient (some ⟨2, by decide⟩) ⟨1, by decide⟩
          (crowdRun.clients ⟨1, by decide⟩) ∧
        ¬ crowdRun.HasRoom ⟨1, by decide⟩ longNotice) ∧
      (crowdRun.clients ⟨2, by decide⟩).active ∧
      (crowdRun.clients ⟨2, by decide⟩).joined := by
  decide +kernel

theorem broadcast_isolates_receivers_example :
    ((Recipient (some ⟨2, by decide⟩) ⟨0, nsMaxClients_pos⟩
          (crowdRun.clients ⟨0, nsMaxClients_pos⟩) ∧
        crowdRun.HasRoom ⟨0, nsMaxClients_pos⟩ longNotice) ∧
      (Recipient (some ⟨2, by decide⟩) ⟨1, by decide⟩
          (crowdRun.clients ⟨1, by decide⟩) ∧
        ¬ crowdRun.HasRoom ⟨1, by decide⟩ longNotice) ∧
      (crowdRun.clients ⟨2, by decide⟩).active ∧
      (crowdRun.clients ⟨2, by decide⟩).joined) ∧
      Isolated crowdRun longNotice (some ⟨2, by decide⟩)
        (nsServerBroadcast crowdRun longNotice (some ⟨2, by decide⟩)) :=
  ⟨crowdRun_slots,
    (broadcast_isolates_receivers .empty 3 .eagain (fun _ => 0) crowdEvents
      longNotice (by decide) (some ⟨2, by decide⟩)).1⟩

end NodeSignal
