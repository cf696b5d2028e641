import NodeSignal.ServerMoves

/-!
# The slot table, the poll array and the sockets stay in step

The poll array mirrors the slot table, the client count is the number of
active slots, and the sockets of the active slots are the accepted ones that
were not closed.  The last part relies on `accept()` never returning a
descriptor that is still open.
-/

namespace NodeSignal

open Runs

def activeSlots (w : World) : Finset SlotIndex :=
  Finset.univ.filter fun index => (w.clients index).active

theorem mem_activeSlots {w : World} {index : SlotIndex} :
    index ∈ activeSlots w ↔ (w.clients index).active := by
  rw [activeSlots, Finset.mem_filter]
  exact and_iff_right (Finset.mem_univ _)

theorem activeSlots_congr {w w' : World}
    (hsame : ∀ index, (w'.clients index).active = (w.clients index).active) :
    activeSlots w' = activeSlots w := by
  apply Finset.ext
  intro index
  rw [mem_activeSlots, mem_activeSlots, hsame]

/-- The poll array and the client count mirror the slot table. -/
structure Mirrored (w : World) : Prop where
  idle : ∀ index, (w.clients index).active = false →
    w.clients index = .reset ∧ w.pollFds (pollIndex index) = .unused
  busy : ∀ index, (w.clients index).active →
    (w.pollFds (pollIndex index)).fd = (w.clients index).socketFd ∧
      (w.pollFds (pollIndex index)).events =
        { PollFlags.onlyPollin with
          pollout := nsClientSendBufPending (w.clients index).sendBuf }
  count : w.clientCount = (activeSlots w).card
  unclamped : w.clamps = 0

section Mirror

variable {w w' : World} {index : SlotIndex}

theorem Mirrored.congr (hmirrored : Mirrored w)
    (hclients : w'.clients = w.clients)
    (hpollFds : w'.pollFds = w.pollFds)
    (hcount : w'.clientCount = w.clientCount)
    (hclamps : w'.clamps = w.clamps) : Mirrored w' := by
  constructor
  · rw [hclients, hpollFds]
    exact hmirrored.idle
  · rw [hclients, hpollFds]
    exact hmirrored.busy
  · rw [hcount, hmirrored.count, activeSlots_congr]
    intro index
    rw [hclients]
  · rw [hclamps, hmirrored.unclamped]

theorem Mirrored.observe (hmirrored : Mirrored w) (obs : Obs) :
    Mirrored (w.observe obs) :=
  hmirrored.congr rfl rfl rfl rfl

/-- A change of an active slot that keeps its socket, with the poll entry
brought up to date. -/
theorem Mirrored.update (hmirrored : Mirrored w)
    (hactive : (w.clients index).active) {client : NsClient}
    (hclients : w'.clients = Function.update w.clients index client)
    (hstill : client.active)
    (hsocket : client.socketFd = (w.clients index).socketFd)
    (hpollFds : w'.pollFds = Function.update w.pollFds (pollIndex index)
      { w.pollFds (pollIndex index) with
        events :=
          { PollFlags.onlyPollin with
            pollout := nsClientSendBufPending client.sendBuf } })
    (hcount : w'.clientCount = w.clientCount)
    (hclamps : w'.clamps = w.clamps) : Mirrored w' := by
  have hsame : ∀ other,
      (w'.clients other).active = (w.clients other).active := by
    intro other
    rw [hclients]
    by_cases hother : other = index
    · subst hother
      rw [Function.update_self, hstill, hactive]
    · rw [Function.update_of_ne hother]
  constructor
  · intro other hidle
    rw [hsame] at hidle
    have hother : other ≠ index := by
      rintro rfl
      simp [hactive] at hidle
    rw [hclients, hpollFds, Function.update_of_ne hother,
      Function.update_of_ne (by simpa using hother)]
    exact hmirrored.idle other hidle
  · intro other hbusy
    rw [hsame] at hbusy
    by_cases hother : other = index
    · subst hother
      rw [hclients, hpollFds, Function.update_self, Function.update_self]
      exact ⟨(hmirrored.busy other hbusy).1.trans hsocket.symm, rfl⟩
    · rw [hclients, hpollFds, Function.update_of_ne hother,
        Function.update_of_ne (by simpa using hother)]
      exact hmirrored.busy other hbusy
  · rw [hcount, hmirrored.count, activeSlots_congr hsame]
  · rw [hclamps, hmirrored.unclamped]

theorem Mirrored.appended (hmirrored : Mirrored w)
    (hactive : (w.clients index).active) (packet : NsPacket)
    (buf : NsSendBuf) : Mirrored (w.appended index packet buf) := by
  apply hmirrored.update hactive (w.appended_clients index packet buf)
    hactive rfl _ rfl rfl
  simp [World.appended, nsServerUpdatePollEvents, World.setPollFd,
    World.observe, World.setClient]

theorem activeSlots_release (w : World) (index : SlotIndex) :
    activeSlots (releaseSlot w index) = (activeSlots w).erase index := by
  apply Finset.ext
  intro other
  rw [Finset.mem_erase, mem_activeSlots, mem_activeSlots,
    releaseSlot_clients]
  by_cases hother : other = index
  · subst hother
    simp [NsClient.reset]
  · rw [Function.update_of_ne hother]
    exact (and_iff_right hother).symm

/-- The count is never clamped. -/
theorem Mirrored.clientCount_release (hmirrored : Mirrored w)
    (hactive : (w.clients index).active) :
    (releaseSlot w index).clientCount = w.clientCount - 1 ∧
      (releaseSlot w index).clamps = w.clamps := by
  have hmem : index ∈ activeSlots w := mem_activeSlots.mpr hactive
  have hpositive : 0 < (activeSlots w).card := Finset.card_pos.mpr ⟨_, hmem⟩
  have hnonneg : ¬ w.clientCount - 1 < 0 := by
    rw [hmirrored.count]
    omega
  simp only [releaseSlot]
  rw [if_neg hnonneg, if_neg hnonneg]
  exact ⟨rfl, rfl⟩

theorem Mirrored.release (hmirrored : Mirrored w)
    (hactive : (w.clients index).active) :
    Mirrored (releaseSlot w index) := by
  have hmem : index ∈ activeSlots w := mem_activeSlots.mpr hactive
  have hpositive : 0 < (activeSlots w).card := Finset.card_pos.mpr ⟨_, hmem⟩
  rcases hmirrored.clientCount_release hactive with ⟨hcount, hclamps⟩
  constructor
  · intro other hidle
    by_cases hother : other = index
    · subst hother
      exact ⟨Function.update_self _ _ _, Function.update_self _ _ _⟩
    · simp only [releaseSlot, World.setPollFd, World.setClient,
        Function.update_of_ne hother, Function.update_of_ne
          (show pollIndex other ≠ pollIndex index by simpa using hother)]
        at hidle ⊢
      exact hmirrored.idle other hidle
  · intro other hbusy
    by_cases hother : other = index
    · subst hother
      simp [releaseSlot_clients, NsClient.reset] at hbusy
    · simp only [releaseSlot, World.setPollFd, World.setClient,
        Function.update_of_ne hother, Function.update_of_ne
          (show pollIndex other ≠ pollIndex index by simpa using hother)]
        at hbusy ⊢
      exact hmirrored.busy other hbusy
  · rw [hcount, activeSlots_release, Finset.card_erase_of_mem hmem,
      hmirrored.count]
    omega
  · rw [hclamps, hmirrored.unclamped]

theorem Mirrored.broadcast (hmirrored : Mirrored w) {packet : NsPacket}
    (hlen : packet.header.bodyLen.toNat ≤ nsPacketBodyMax)
    (excludeIndex : Option SlotIndex) :
    Mirrored (nsServerBroadcast w packet excludeIndex) := by
  apply nsServerBroadcast_induction packet hlen excludeIndex
  · exact hmirrored.observe _
  · intro v other buf hv hrecipient _
    exact hv.appended hrecipient.1 packet buf
  · intro v other hv hrecipient _
    exact ((hv.observe _).observe _).release hrecipient.1

theorem Mirrored.answered (hmirrored : Mirrored w)
    (hactive : (w.clients index).active) {packet : NsPacket}
    (hlen : packet.header.bodyLen.toNat ≤ nsPacketBodyMax) :
    Mirrored (w.answered index packet) := by
  rcases w.answered_cases index hlen with ⟨_, hafter⟩ | ⟨buf, _, hafter⟩
  · rw [hafter]
    exact hmirrored.observe _
  · rw [hafter]
    exact (hmirrored.observe _).appended hactive packet buf

theorem Mirrored.occupied (hmirrored : Mirrored w)
    (hfree : (w.clients index).active = false) (connection : ℕ)
    (socketFd : NsSocket) :
    Mirrored (occupySlot w connection socketFd index) := by
  have hother : ∀ other, other ≠ index →
      (occupySlot w connection socketFd index).clients other =
          w.clients other ∧
        (occupySlot w connection socketFd index).pollFds
            (pollIndex other) =
          w.pollFds (pollIndex other) := by
    intro other hne
    exact ⟨Function.update_of_ne hne _ _,
      Function.update_of_ne (by simpa using hne) _ _⟩
  have hown : (occupySlot w connection socketFd index).clients index =
      { NsClient.reset with
        socketFd := socketFd
        active := true
        connectTime := w.clock 0 } := Function.update_self _ _ _
  have hpoll : (occupySlot w connection socketFd index).pollFds
      (pollIndex index) = ⟨socketFd, .onlyPollin, .none⟩ :=
    Function.update_self _ _ _
  have hslots : activeSlots (occupySlot w connection socketFd index) =
      insert index (activeSlots w) := by
    apply Finset.ext
    intro other
    rw [Finset.mem_insert, mem_activeSlots, mem_activeSlots]
    by_cases hne : other = index
    · subst hne
      simp [hown]
    · rw [(hother other hne).1]
      simp [hne]
  constructor
  · intro other hidle
    have hne : other ≠ index := by
      rintro rfl
      simp [hown] at hidle
    rw [(hother other hne).1] at hidle ⊢
    rw [(hother other hne).2]
    exact hmirrored.idle other hidle
  · intro other hbusy
    by_cases hne : other = index
    · subst hne
      rw [hown, hpoll]
      exact ⟨rfl, rfl⟩
    · rw [(hother other hne).1] at hbusy ⊢
      rw [(hother other hne).2]
      exact hmirrored.busy other hbusy
  · have hnew : index ∉ activeSlots w := by
      rw [mem_activeSlots, hfree]
      exact Bool.false_ne_true
    rw [hslots, Finset.card_insert_of_notMem hnew]
    change w.clientCount + 1 = _
    rw [hmirrored.count]
    rfl
  · exact hmirrored.unclamped

theorem Move.mirrored {allow : World → NsSocket → Prop}
    (hmove : Move allow w w') (hmirrored : Mirrored w) : Mirrored w' := by
  cases hmove with
  | errno errno => exact hmirrored.congr rfl rfl rfl rfl
  | clock clock => exact hmirrored.congr rfl rfl rfl rfl
  | polled revents =>
      constructor
      · intro index hidle
        rcases hmirrored.idle index hidle with ⟨hreset, hunused⟩
        refine ⟨hreset, ?_⟩
        simp only [pollRevents, hunused]
        rfl
      · exact hmirrored.busy
      · exact hmirrored.count
      · exact hmirrored.unclamped
  | dispatched index packet hactive => exact hmirrored.observe _
  | rebuked index packet hactive hjoined htype hlen =>
      exact hmirrored.answered hactive hlen
  | turnedAway index packet hactive hjoined htype hlen =>
      have hanswered := hmirrored.answered hactive hlen
      apply (hanswered.observe _).release
      rcases (w.answered_frame index hlen).2.2.2 with ⟨buf, hclients⟩
      change ((w.answered index packet).clients index).active
      rw [hclients, Function.update_self]
      exact hactive
  | dropped index hactive => exact (hmirrored.observe _).release hactive
  | departed index timestamp notice hactive hjoined hnotice =>
      have hlen := nsPacketSet_bodyLen hnotice
      apply ((hmirrored.observe _).broadcast hlen (some index)).release
      rw [nsServerBroadcast_clients notice hlen,
        broadcastClient_excluded]
      exact hactive
  | refused socketFd outcomes hvalid hallow =>
      rcases turnDown_frame (w.greeted socketFd) w.connections socketFd
        outcomes with ⟨hclients, hpollFds, hcount, hclamps, -⟩
      exact hmirrored.congr hclients hpollFds hcount hclamps
  | occupied socketFd index hfree hvalid hallow =>
      have hgreeted : Mirrored (w.greeted socketFd) :=
        hmirrored.congr rfl rfl rfl rfl
      exact hgreeted.occupied hfree w.connections socketFd
  | drained index outcomes hactive =>
      have hclients : (nsServerUpdatePollEvents
          (w.flushed index outcomes) index).clients =
          Function.update w.clients index
            { w.clients index with
              sendBuf := (nsClientDrainSend outcomes
                (w.clients index).sendBuf).buf } := rfl
      apply hmirrored.update hactive hclients hactive rfl _ rfl rfl
      simp [nsServerUpdatePollEvents, World.flushed, World.setErrno,
        World.setPollFd, World.observe, World.setClient]
  | registered database hgrow => exact hmirrored.congr rfl rfl rfl rfl
  | joined index username userId timestamp timestamp' ack notice hlen buf
      hactive hjoined hunused huser hshort hack henqueue hnotice =>
      have hseated : Mirrored (w.seated index userId username) := by
        have hclients := w.seated_clients index userId username
        apply hmirrored.update hactive hclients hactive rfl _ rfl rfl
        rw [← (hmirrored.busy index hactive).2]
        exact (Function.update_eq_self _ _).symm
      exact (hseated.appended (by simp [World.seated, World.observe,
        hactive]) ack buf).broadcast (nsPacketSet_bodyLen hnotice) none
  | texted index database row timestamp packet hactive hjoined hsaved
      husers hseq hmessages hsender hbody hsentAt hpacket =>
      have hstored : Mirrored { w with database := database } :=
        hmirrored.congr rfl rfl rfl rfl
      exact hstored.broadcast (nsPacketSet_bodyLen hpacket) none

end Mirror

/-! ## Ownership of the sockets -/

def Holds (w : World) (connection : ℕ) (socketFd : NsSocket) : Prop :=
  ∃ index, (w.clients index).active ∧ w.connection index = connection ∧
    (w.clients index).socketFd = socketFd

/-- The active slots hold the accepted sockets that were not closed. -/
structure Owned (w : World) : Prop where
  valid : ∀ index, (w.clients index).active →
    nsSocketIsValid (w.clients index).socketFd
  distinct : ∀ left right, (w.clients left).active →
    (w.clients right).active →
    (w.clients left).socketFd = (w.clients right).socketFd → left = right
  holds : ∀ connection socketFd, Holds w connection socketFd ↔
    .accepted connection socketFd ∈ w.trace ∧
      .closed connection socketFd ∉ w.trace
  numbered : ∀ connection socketFd,
    .accepted connection socketFd ∈ w.trace → connection < w.connections
  closed : ∀ connection socketFd,
    .closed connection socketFd ∈ w.trace →
      .accepted connection socketFd ∈ w.trace
  once : ∀ connection socketFd,
    w.trace.count (.closed connection socketFd) ≤ 1

def Unopened (w : World) (socketFd : NsSocket) : Prop :=
  socketFd ≠ w.listenSocket ∧
    ∀ index, (w.clients index).active →
      (w.clients index).socketFd ≠ socketFd

/-- The observations about the opening and the closing of sockets. -/
def Obs.concernsSocket : Obs → Bool
  | .accepted _ _ => true
  | .closed _ _ => true
  | _ => false

section Ownership

variable {w w' : World} {index : SlotIndex}

theorem Owned.congr (howned : Owned w)
    (hslots : ∀ index, (w'.clients index).active =
        (w.clients index).active ∧
      (w'.clients index).socketFd = (w.clients index).socketFd)
    (hconnection : w'.connection = w.connection)
    (hconnections : w'.connections = w.connections) {notes : List Obs}
    (htrace : w'.trace = w.trace ++ notes)
    (hnotes : ∀ obs ∈ notes, obs.concernsSocket = false) : Owned w' := by
  have hmem : ∀ obs, obs.concernsSocket → (obs ∈ w'.trace ↔ obs ∈ w.trace) := by
    intro obs hconcerns
    rw [htrace, List.mem_append]
    constructor
    · intro hin
      rcases hin with hold | hnew
      · exact hold
      · simp [hnotes obs hnew] at hconcerns
    · exact Or.inl
  have hholds : ∀ connection socketFd,
      Holds w' connection socketFd ↔ Holds w connection socketFd := by
    intro connection socketFd
    simp only [Holds, hslots, hconnection]
  constructor
  · intro index
    rw [(hslots index).1, (hslots index).2]
    exact howned.valid index
  · intro left right
    rw [(hslots left).1, (hslots left).2, (hslots right).1,
      (hslots right).2]
    exact howned.distinct left right
  · intro connection socketFd
    rw [hholds, howned.holds, hmem _ rfl, hmem _ rfl]
  · intro connection socketFd
    rw [hmem _ rfl, hconnections]
    exact howned.numbered connection socketFd
  · intro connection socketFd
    rw [hmem _ rfl, hmem _ rfl]
    exact howned.closed connection socketFd
  · intro connection socketFd
    have hnone : notes.count (.closed connection socketFd) = 0 := by
      rw [List.count_eq_zero]
      intro hin
      simpa [Obs.concernsSocket] using hnotes _ hin
    rw [htrace, List.count_append, hnone]
    exact howned.once connection socketFd

theorem Owned.observe (howned : Owned w) {obs : Obs}
    (hobs : obs.concernsSocket = false) : Owned (w.observe obs) := by
  have htrace : (w.observe obs).trace = w.trace ++ [obs] := rfl
  refine howned.congr ?_ ?_ ?_ htrace ?_
  · exact fun _ => ⟨rfl, rfl⟩
  · rfl
  · rfl
  · intro note hnote
    rw [List.mem_singleton.mp hnote]
    exact hobs

theorem Owned.update (howned : Owned w) {client : NsClient}
    (hclients : w'.clients = Function.update w.clients index client)
    (hactive : client.active = (w.clients index).active)
    (hsocket : client.socketFd = (w.clients index).socketFd)
    (hconnection : w'.connection = w.connection)
    (hconnections : w'.connections = w.connections) {notes : List Obs}
    (htrace : w'.trace = w.trace ++ notes)
    (hnotes : ∀ obs ∈ notes, obs.concernsSocket = false) : Owned w' := by
  apply howned.congr _ hconnection hconnections htrace hnotes
  intro other
  rw [hclients]
  by_cases hother : other = index
  · subst hother
    rw [Function.update_self]
    exact ⟨hactive, hsocket⟩
  · rw [Function.update_of_ne hother]
    exact ⟨rfl, rfl⟩

theorem Owned.appended (howned : Owned w) (packet : NsPacket)
    (buf : NsSendBuf) : Owned (w.appended index packet buf) := by
  apply howned.update (w.appended_clients index packet buf) rfl rfl rfl
    rfl (w.appended_trace index packet buf)
  intro obs hobs
  rw [List.mem_singleton.mp hobs]
  rfl

theorem releaseSlot_kept {other : SlotIndex}
    (hactive : ((releaseSlot w index).clients other).active) :
    other ≠ index ∧
      (releaseSlot w index).clients other = w.clients other := by
  have hne : other ≠ index := by
    rintro rfl
    rw [releaseSlot_clients, Function.update_self] at hactive
    exact Bool.false_ne_true hactive
  exact ⟨hne, Function.update_of_ne hne _ _⟩

/-- The slot that is released loses its socket and no other slot does. -/
theorem Owned.holds_release (howned : Owned w)
    (hactive : (w.clients index).active) (connection : ℕ)
    (socketFd : NsSocket) :
    Holds (releaseSlot w index) connection socketFd ↔
      Holds w connection socketFd ∧
        ¬ (connection = w.connection index ∧
          socketFd = (w.clients index).socketFd) := by
  constructor
  · intro hholds
    rcases hholds with ⟨other, hother, hconnection, hsocket⟩
    rcases releaseSlot_kept hother with ⟨hne, hkept⟩
    rw [hkept] at hother hsocket
    refine ⟨⟨other, hother, hconnection, hsocket⟩, ?_⟩
    rintro ⟨-, hsame⟩
    exact hne (howned.distinct other index hother hactive
      (hsocket.trans hsame))
  · intro hholds
    rcases hholds with ⟨⟨other, hother, hconnection, hsocket⟩, hdifferent⟩
    have hne : other ≠ index := by
      rintro rfl
      exact hdifferent ⟨hconnection.symm, hsocket.symm⟩
    have hkept : (releaseSlot w index).clients other = w.clients other :=
      Function.update_of_ne hne _ _
    refine ⟨other, ?_, hconnection, ?_⟩
    · rw [hkept]
      exact hother
    · rw [hkept]
      exact hsocket

theorem Owned.release (howned : Owned w)
    (hactive : (w.clients index).active) : Owned (releaseSlot w index) := by
  have htrace : (releaseSlot w index).trace = w.trace ++
      [.closed (w.connection index) (w.clients index).socketFd] := by
    rw [releaseSlot_trace, closingNotes, if_pos (howned.valid index hactive)]
  have hheld := (howned.holds (w.connection index)
    (w.clients index).socketFd).mp ⟨index, hactive, rfl, rfl⟩
  constructor
  · intro other hother
    have hkept := (releaseSlot_kept hother).2
    rw [hkept] at hother ⊢
    exact howned.valid other hother
  · intro left right hleft hright
    have hleftKept := (releaseSlot_kept hleft).2
    have hrightKept := (releaseSlot_kept hright).2
    rw [hleftKept] at hleft ⊢
    rw [hrightKept] at hright ⊢
    exact howned.distinct left right hleft hright
  · intro connection socketFd
    rw [howned.holds_release hactive, howned.holds, htrace]
    simp [and_assoc]
  · intro connection socketFd
    rw [htrace]
    simp only [List.mem_append, List.mem_singleton, reduceCtorEq, or_false]
    exact howned.numbered connection socketFd
  · intro connection socketFd
    rw [htrace]
    simp only [List.mem_append, List.mem_singleton, reduceCtorEq, or_false,
      Obs.closed.injEq]
    intro hclosed
    rcases hclosed with hold | ⟨rfl, rfl⟩
    · exact howned.closed connection socketFd hold
    · exact hheld.1
  · intro connection socketFd
    rw [htrace, List.count_append]
    by_cases hsame : Obs.closed connection socketFd =
        .closed (w.connection index) (w.clients index).socketFd
    · rw [hsame, List.count_eq_zero.mpr hheld.2]
      simp
    · rw [List.count_singleton, if_neg (by simpa using Ne.symm hsame)]
      exact howned.once connection socketFd

theorem Owned.broadcast (howned : Owned w) {packet : NsPacket}
    (hlen : packet.header.bodyLen.toNat ≤ nsPacketBodyMax)
    (excludeIndex : Option SlotIndex) :
    Owned (nsServerBroadcast w packet excludeIndex) := by
  apply nsServerBroadcast_induction packet hlen excludeIndex
  · exact howned.observe rfl
  · intro v other buf hv _ _
    exact hv.appended packet buf
  · intro v other hv hrecipient _
    exact ((hv.observe rfl).observe rfl).release hrecipient.1

theorem Owned.answered (howned : Owned w) {packet : NsPacket}
    (hlen : packet.header.bodyLen.toNat ≤ nsPacketBodyMax) :
    Owned (w.answered index packet) := by
  rcases w.answered_cases index hlen with ⟨_, hafter⟩ | ⟨buf, _, hafter⟩
  · rw [hafter]
    exact howned.observe rfl
  · rw [hafter]
    exact (howned.observe rfl).appended packet buf

theorem Owned.unseen (howned : Owned w) (socketFd : NsSocket) :
    .accepted w.connections socketFd ∉ w.trace ∧
      .closed w.connections socketFd ∉ w.trace := by
  have haccepted : .accepted w.connections socketFd ∉ w.trace :=
    fun hin => lt_irrefl _ (howned.numbered _ _ hin)
  exact ⟨haccepted, fun hin => haccepted (howned.closed _ _ hin)⟩

theorem Owned.numbered_greeted (howned : Owned w) {connection : ℕ}
    {fd socketFd : NsSocket}
    (haccepted : .accepted connection fd ∈ w.trace ∨
      connection = w.connections ∧ fd = socketFd) :
    connection < w.connections + 1 := by
  rcases haccepted with hold | ⟨rfl, -⟩
  · exact Nat.lt_succ_of_lt (howned.numbered connection fd hold)
  · exact Nat.lt_succ_self _

section Occupied

variable (w : World) (index : SlotIndex) (socketFd : NsSocket)

def World.seatedSocket : World :=
  occupySlot (w.greeted socketFd) w.connections socketFd index

theorem World.seatedSocket_own :
    (w.seatedSocket index socketFd).clients index =
        { NsClient.reset with
          socketFd := socketFd
          active := true
          connectTime := w.clock 0 } ∧
      (w.seatedSocket index socketFd).connection index = w.connections :=
  ⟨Function.update_self _ _ _, Function.update_self _ _ _⟩

theorem World.seatedSocket_other {other : SlotIndex} (hne : other ≠ index) :
    (w.seatedSocket index socketFd).clients other = w.clients other ∧
      (w.seatedSocket index socketFd).connection other =
        w.connection other :=
  ⟨Function.update_of_ne hne _ _, Function.update_of_ne hne _ _⟩

theorem World.holds_seatedSocket
    (hfree : (w.clients index).active = false) (connection : ℕ)
    (fd : NsSocket) :
    Holds (w.seatedSocket index socketFd) connection fd ↔
      Holds w connection fd ∨
        connection = w.connections ∧ fd = socketFd := by
  have hown := w.seatedSocket_own index socketFd
  constructor
  · intro hholds
    rcases hholds with ⟨other, hactive, hnumber, hsocket⟩
    by_cases hne : other = index
    · subst hne
      rw [hown.1] at hsocket
      exact Or.inr ⟨hnumber.symm.trans hown.2, hsocket.symm⟩
    · have hother := w.seatedSocket_other index socketFd hne
      rw [hother.1] at hactive hsocket
      exact Or.inl ⟨other, hactive, hother.2.symm.trans hnumber, hsocket⟩
  · intro hholds
    rcases hholds with ⟨other, hactive, hnumber, hsocket⟩ | ⟨rfl, rfl⟩
    · have hne : other ≠ index := by
        rintro rfl
        simp [hfree] at hactive
      have hother := w.seatedSocket_other index socketFd hne
      refine ⟨other, ?_, hother.2.trans hnumber, ?_⟩
      · rw [hother.1]
        exact hactive
      · rw [hother.1]
        exact hsocket
    · exact ⟨index, by rw [hown.1], hown.2, by rw [hown.1]⟩

end Occupied

theorem Owned.occupied (howned : Owned w)
    (hfree : (w.clients index).active = false) {socketFd : NsSocket}
    (hvalid : nsSocketIsValid socketFd) (hunopened : Unopened w socketFd) :
    Owned (w.seatedSocket index socketFd) := by
  have hunclosed := (howned.unseen socketFd).2
  have hown := (w.seatedSocket_own index socketFd).1
  have hother := fun other (hne : other ≠ index) =>
    (w.seatedSocket_other index socketFd hne).1
  have htrace : (w.seatedSocket index socketFd).trace =
      w.trace ++ [.accepted w.connections socketFd] := rfl
  constructor
  · intro other hactive
    by_cases hne : other = index
    · subst hne
      rw [hown]
      exact hvalid
    · rw [hother other hne] at hactive ⊢
      exact howned.valid other hactive
  · intro left right hleft hright hsocket
    by_cases hl : left = index
    · by_cases hr : right = index
      · rw [hl, hr]
      · rw [hl, hown, hother right hr] at hsocket
        rw [hother right hr] at hright
        exact absurd hsocket.symm (hunopened.2 right hright)
    · rw [hother left hl] at hleft hsocket
      by_cases hr : right = index
      · rw [hr, hown] at hsocket
        exact absurd hsocket (hunopened.2 left hleft)
      · rw [hother right hr] at hright hsocket
        exact howned.distinct left right hleft hright hsocket
  · intro connection fd
    rw [w.holds_seatedSocket index socketFd hfree, howned.holds, htrace]
    simp only [List.mem_append, List.mem_singleton, reduceCtorEq, or_false,
      Obs.accepted.injEq]
    constructor
    · intro hholds
      rcases hholds with hold | ⟨rfl, rfl⟩
      · exact ⟨Or.inl hold.1, hold.2⟩
      · exact ⟨Or.inr ⟨rfl, rfl⟩, hunclosed⟩
    · intro hopen
      rcases hopen with ⟨hold | hnew, hopen⟩
      · exact Or.inl ⟨hold, hopen⟩
      · exact Or.inr hnew
  · intro connection fd
    rw [htrace]
    simp only [List.mem_append, List.mem_singleton, Obs.accepted.injEq]
    exact fun haccepted => howned.numbered_greeted haccepted
  · intro connection fd
    rw [htrace]
    simp only [List.mem_append, List.mem_singleton, reduceCtorEq, or_false]
    exact fun hclosed => Or.inl (howned.closed connection fd hclosed)
  · intro connection fd
    rw [htrace, List.count_append]
    simpa using howned.once connection fd

theorem Owned.refused (howned : Owned w) (socketFd : NsSocket)
    (outcomes : List SendOutcome) :
    Owned (turnDown (w.greeted socketFd) w.connections socketFd
      outcomes) := by
  rcases howned.unseen socketFd with ⟨-, hunclosed⟩
  rcases turnDown_frame (w.greeted socketFd) w.connections socketFd
    outcomes with ⟨hclients, -, -, -, -, hconnection, hconnections⟩
  rcases turnDown_trace (w.greeted socketFd) w.connections socketFd
    outcomes with ⟨bytes, htrace⟩
  have hgreeted : (w.greeted socketFd).trace =
      w.trace ++ [.accepted w.connections socketFd] := rfl
  rw [hgreeted, List.append_assoc] at htrace
  constructor
  · rw [hclients]
    exact howned.valid
  · rw [hclients]
    exact howned.distinct
  · intro connection fd
    have hbefore := howned.holds connection fd
    have hholds : Holds (turnDown (w.greeted socketFd) w.connections
        socketFd outcomes) connection fd ↔ Holds w connection fd := by
      unfold Holds
      rw [hclients, hconnection]
      rfl
    rw [hholds, hbefore, htrace]
    simp only [List.mem_append, List.mem_cons, List.not_mem_nil,
      reduceCtorEq, or_false, false_or, not_or, Obs.accepted.injEq,
      Obs.closed.injEq]
    constructor
    · intro hopen
      refine ⟨Or.inl hopen.1, hopen.2, ?_⟩
      rintro ⟨rfl, rfl⟩
      exact lt_irrefl _ (howned.numbered _ _ hopen.1)
    · intro hopen
      exact ⟨hopen.1.resolve_right hopen.2.2, hopen.2.1⟩
  · intro connection fd
    rw [htrace, hconnections]
    simp only [List.mem_append, List.mem_cons, List.not_mem_nil,
      reduceCtorEq, or_false, Obs.accepted.injEq]
    exact fun haccepted => howned.numbered_greeted haccepted
  · intro connection fd
    rw [htrace]
    simp only [List.mem_append, List.mem_cons, List.not_mem_nil,
      reduceCtorEq, or_false, false_or, Obs.accepted.injEq,
      Obs.closed.injEq]
    intro hclosed
    rcases hclosed with hold | hnew
    · exact Or.inl (howned.closed connection fd hold)
    · exact Or.inr hnew
  · intro connection fd
    rw [htrace, List.count_append]
    by_cases hsame : Obs.closed connection fd =
        .closed w.connections socketFd
    · rw [hsame, List.count_eq_zero.mpr hunclosed]
      simp
    · have hnone : [Obs.accepted w.connections socketFd,
          .sent w.connections bytes,
          .closed w.connections socketFd].count (.closed connection fd) =
            0 := by
        rw [List.count_eq_zero]
        simpa using hsame
      exact (congrArg _ hnone).trans_le (howned.once connection fd)

theorem Move.owned (hmove : Move Unopened w w') (howned : Owned w) :
    Owned w' := by
  have hsame : ∀ {v : World}, v.clients = w.clients →
      v.connection = w.connection → v.connections = w.connections →
      v.trace = w.trace → Owned v := by
    intro v hclients hconnection hconnections htrace
    have hnotes : v.trace = w.trace ++ [] := by
      rw [htrace, List.append_nil]
    refine howned.congr ?_ hconnection hconnections hnotes (by simp)
    rw [hclients]
    exact fun _ => ⟨rfl, rfl⟩
  cases hmove with
  | errno errno => exact hsame rfl rfl rfl rfl
  | clock clock => exact hsame rfl rfl rfl rfl
  | polled revents => exact hsame rfl rfl rfl rfl
  | dispatched index packet hactive => exact howned.observe rfl
  | rebuked index packet hactive hjoined htype hlen =>
      exact howned.answered hlen
  | turnedAway index packet hactive hjoined htype hlen =>
      have hanswered : Owned (w.answered index packet) :=
        howned.answered hlen
      apply (hanswered.observe rfl).release
      rcases (w.answered_frame index hlen).2.2.2 with ⟨buf, hclients⟩
      change ((w.answered index packet).clients index).active
      rw [hclients, Function.update_self]
      exact hactive
  | dropped index hactive => exact (howned.observe rfl).release hactive
  | departed index timestamp notice hactive hjoined hnotice =>
      have hlen := nsPacketSet_bodyLen hnotice
      apply ((howned.observe rfl).broadcast hlen (some index)).release
      rw [nsServerBroadcast_clients notice hlen,
        broadcastClient_excluded]
      exact hactive
  | refused socketFd outcomes hvalid hallow =>
      exact howned.refused socketFd outcomes
  | occupied socketFd index hfree hvalid hallow =>
      exact howned.occupied hfree hvalid hallow
  | drained index outcomes hactive =>
      have hclients : (nsServerUpdatePollEvents
          (w.flushed index outcomes) index).clients =
          Function.update w.clients index
            { w.clients index with
              sendBuf := (nsClientDrainSend outcomes
                (w.clients index).sendBuf).buf } := rfl
      have htrace : (nsServerUpdatePollEvents
          (w.flushed index outcomes) index).trace =
          w.trace ++ [.sent (w.connection index) (nsClientDrainSend
            outcomes (w.clients index).sendBuf).sent] := rfl
      refine howned.update hclients rfl rfl rfl rfl htrace ?_
      intro obs hobs
      rw [List.mem_singleton.mp hobs]
      rfl
  | registered database hgrow => exact hsame rfl rfl rfl rfl
  | joined index username userId timestamp timestamp' ack notice hlen buf
      hactive hjoined hunused huser hshort hack henqueue hnotice =>
      have hclients := w.seated_clients index userId username
      have htrace : (w.seated index userId username).trace =
          w.trace ++ [.joined (w.connection index) userId
            (CStrings.text username)] := rfl
      have hseated : Owned (w.seated index userId username) := by
        refine howned.update hclients rfl rfl rfl rfl htrace ?_
        intro obs hobs
        rw [List.mem_singleton.mp hobs]
        rfl
      exact (hseated.appended ack buf).broadcast
        (nsPacketSet_bodyLen hnotice) none
  | texted index database row timestamp packet hactive hjoined hsaved
      husers hseq hmessages hsender hbody hsentAt hpacket =>
      have hstored : Owned { w with database := database } :=
        hsame rfl rfl rfl rfl
      exact hstored.broadcast (nsPacketSet_bodyLen hpacket) none

end Ownership

/-! ## Every reachable state -/

structure InStep (w : World) : Prop where
  inactive : ∀ index, (w.clients index).active = false →
    w.clients index = .reset ∧ w.pollFds (pollIndex index) = ⟨-1, .none, .none⟩
  active : ∀ index, (w.clients index).active →
    (w.pollFds (pollIndex index)).fd = (w.clients index).socketFd ∧
      (w.pollFds (pollIndex index)).events =
        { PollFlags.onlyPollin with
          pollout := decide ((w.clients index).sendBuf.head ≠
            (w.clients index).sendBuf.tail) }
  joined : ∀ index, (w.clients index).joined → (w.clients index).active
  count : w.clientCount = (activeSlots w).card
  unclamped : w.clamps = 0
  distinct : ∀ left right, (w.clients left).active →
    (w.clients right).active →
    (w.clients left).socketFd = (w.clients right).socketFd → left = right
  sockets : ∀ connection socketFd, Holds w connection socketFd ↔
    .accepted connection socketFd ∈ w.trace ∧
      .closed connection socketFd ∉ w.trace
  closed : ∀ connection socketFd,
    .closed connection socketFd ∈ w.trace →
      .accepted connection socketFd ∈ w.trace
  closedOnce : ∀ connection socketFd,
    w.trace.count (.closed connection socketFd) ≤ 1

theorem nsClientSendBufPending_eq (buf : NsSendBuf) :
    nsClientSendBufPending buf = decide (buf.head ≠ buf.tail) := by
  by_cases hempty : buf.head = buf.tail <;>
    simp [nsClientSendBufPending, hempty]

theorem mirrored_boot (tables : Tables) (listenSocket : NsSocket)
    (errno : Errno) (clock : Clock) :
    Mirrored (World.boot tables listenSocket errno clock) := by
  constructor
  · intro index _
    refine ⟨rfl, ?_⟩
    simp [World.boot, nsServerInit, pollIndex_ne_listenIndex]
  · intro index hactive
    exact absurd hactive Bool.false_ne_true
  · have hempty : activeSlots (World.boot tables listenSocket errno clock) =
        ∅ := by
      apply Finset.eq_empty_of_forall_notMem
      intro index hmem
      exact Bool.false_ne_true (mem_activeSlots.mp hmem)
    rw [hempty]
    rfl
  · rfl

theorem owned_boot (tables : Tables) (listenSocket : NsSocket)
    (errno : Errno) (clock : Clock) :
    Owned (World.boot tables listenSocket errno clock) := by
  constructor
  · exact fun _ hactive => absurd hactive Bool.false_ne_true
  · exact fun _ _ hactive => absurd hactive Bool.false_ne_true
  · intro connection socketFd
    constructor
    · rintro ⟨_, hactive, -⟩
      exact absurd hactive Bool.false_ne_true
    · rintro ⟨haccepted, -⟩
      simp [World.boot] at haccepted
  · simp [World.boot]
  · simp [World.boot]
  · simp [World.boot]

/-- The slot table, the poll array, the client count and the sockets stay in
step in every run in which `accept()` returns only descriptors that are not
open. -/
theorem slotTable_inStep (tables : Tables) (listenSocket : NsSocket)
    (errno : Errno) (clock : Clock) (events : List Event)
    (hunopened : Along World.step
      (fun w event => event.Admitted Unopened w)
      (World.boot tables listenSocket errno clock) events) :
    InStep (run World.step (World.boot tables listenSocket errno clock)
      events) := by
  have hboot := settled_boot tables listenSocket errno clock
  have hmoves := run_moves hboot hunopened
  have hsettled := Moves.settled hmoves hboot
  have hmirrored := Moves.invariant
    (fun _ _ _ hinv hmove => Move.mirrored hmove hinv) hmoves hboot
    (mirrored_boot tables listenSocket errno clock)
  have howned := Moves.invariant
    (fun _ _ _ hinv hmove => Move.owned hmove hinv) hmoves hboot
    (owned_boot tables listenSocket errno clock)
  constructor
  · exact hmirrored.idle
  · intro index hactive
    rcases hmirrored.busy index hactive with ⟨hfd, hevents⟩
    rw [hfd, hevents, nsClientSendBufPending_eq]
    exact ⟨rfl, rfl⟩
  · exact hsettled.active
  · exact hmirrored.count
  · exact hmirrored.unclamped
  · exact howned.distinct
  · exact howned.holds
  · exact howned.closed
  · exact howned.once

theorem slotTable_inStep_example :
    InStep (run World.step
      (World.boot .empty 3 .eagain fun _ => 0)
      [.accept (.connection 4 []), .pollError ⟨0, nsMaxClients_pos⟩,
        .accept (.connection 4 [])]) :=
  slotTable_inStep .empty 3 .eagain (fun _ => 0) _
    ⟨fun _ => ⟨by decide, fun _ hactive => absurd hactive
      Bool.false_ne_true⟩, trivial, fun _ => ⟨by decide +kernel,
        by decide +kernel⟩, trivial⟩

end NodeSignal
