import NodeSignal.ServerMoves
import NodeSignal.Sessions

/-!
# All clients see one order of chat events

Between two events every connection is in one of three phases: it waits, it
follows the log, or its session is over.  A move is described by what it adds
to the record, and by what this means for the slot of each connection.
-/

namespace NodeSignal

open CStrings Runs SlotFold

/-! ## What a broadcast adds for one connection -/

section Fanout

variable {packet : NsPacket}
  (hlen : packet.header.bodyLen.toNat ≤ nsPacketBodyMax)
  (excludeIndex : Option SlotIndex)

theorem noJoin_closingNotes (connection : ℕ) (client : NsClient)
    (connection' : ℕ) :
    NoJoin connection (closingNotes client connection') := by
  unfold closingNotes
  split_ifs <;> simp [Obs.joins]

theorem noLeave_closingNotes (connection : ℕ) (client : NsClient)
    (connection' : ℕ) :
    NoLeave connection (closingNotes client connection') := by
  unfold closingNotes
  split_ifs <;> simp [Obs.leaves]

theorem noJoin_broadcastNotes (connection : ℕ) (index : SlotIndex)
    (client : NsClient) (connection' : ℕ) :
    NoJoin connection (broadcastNotes packet hlen excludeIndex index client
      connection') := by
  unfold broadcastNotes
  split_ifs
  · split <;> simp [Obs.joins, noJoin_closingNotes]
  · simp

theorem noJoin_fanout (connection : ℕ) (w : World) :
    NoJoin connection (fanout packet hlen excludeIndex w) := by
  intro obs hobs
  rcases List.mem_flatMap.mp hobs with ⟨index, -, hin⟩
  exact noJoin_broadcastNotes hlen excludeIndex connection index _ _ obs hin

theorem chat_eviction (connection connection' : ℕ) (client : NsClient) :
    chat connection (.overflowed connection' packet ::
      .disconnected connection' :: closingNotes client connection') = [] := by
  have hsplit := chat_append connection
    [.overflowed connection' packet, .disconnected connection']
    (closingNotes client connection')
  rw [chat_closingNotes, List.append_nil] at hsplit
  exact hsplit

/-- The notes of a slot concern its own connection only. -/
theorem broadcastNotes_other {connection : ℕ} {index : SlotIndex}
    {client : NsClient} {connection' : ℕ}
    (hother : Recipient excludeIndex index client →
      connection' ≠ connection) :
    chat connection (broadcastNotes packet hlen excludeIndex index client
        connection') = [] ∧
      NoLeave connection (broadcastNotes packet hlen excludeIndex index
        client connection') := by
  unfold broadcastNotes
  split_ifs with hrecipient
  · have hne := hother hrecipient
    split
    · simp [chat, received, Obs.receipt, Obs.leaves, hne]
    · refine ⟨chat_eviction connection connection' client, ?_⟩
      simp [Obs.leaves, hne, noLeave_closingNotes]
  · simp

theorem fanout_other {connection : ℕ} {w : World}
    (hother : ∀ index, Recipient excludeIndex index (w.clients index) →
      w.connection index ≠ connection) :
    chat connection (fanout packet hlen excludeIndex w) = [] ∧
      NoLeave connection (fanout packet hlen excludeIndex w) := by
  constructor
  · rw [fanout, chat_flatMap, List.flatMap_eq_nil_iff]
    intro index _
    exact (broadcastNotes_other hlen excludeIndex (hother index)).1
  · intro obs hobs
    rcases List.mem_flatMap.mp hobs with ⟨index, -, hin⟩
    exact (broadcastNotes_other hlen excludeIndex (hother index)).2 obs hin

variable {w : World} {index : SlotIndex}
  (hdistinct : ∀ left right, (w.clients left).active →
    (w.clients right).active →
      w.connection left = w.connection right → left = right)
  (hrecipient : Recipient excludeIndex index (w.clients index))

include hdistinct hrecipient in
theorem fanout_recipient :
    chat (w.connection index) (fanout packet hlen excludeIndex w) =
      chat (w.connection index) (broadcastNotes packet hlen excludeIndex
        index (w.clients index) (w.connection index)) := by
  rw [fanout, chat_flatMap]
  apply flatMap_eq_of_unique (List.nodup_finRange nsMaxClients)
    (List.mem_finRange index)
  intro other _ hne
  apply (broadcastNotes_other hlen excludeIndex _).1
  intro hother hsame
  exact hne (hdistinct other index hother.1 hrecipient.1 hsame)

include hdistinct hrecipient in
theorem fanout_enqueued {buf : NsSendBuf}
    (henqueue : nsClientEnqueueSend (w.clients index).sendBuf
      (wireBuffer packet hlen) = some buf)
    (htype : packet.header.type ≠ NsPacketType.error.code) :
    chat (w.connection index) (fanout packet hlen excludeIndex w) =
        [packet] ∧
      NoLeave (w.connection index) (fanout packet hlen excludeIndex w) := by
  have hnotes : broadcastNotes packet hlen excludeIndex index
      (w.clients index) (w.connection index) =
        [.enqueued (w.connection index) packet] := by
    rw [broadcastNotes, if_pos hrecipient, henqueue]
  constructor
  · rw [fanout_recipient hlen excludeIndex hdistinct hrecipient, hnotes]
    simp [chat, received, Obs.receipt, htype]
  · intro obs hobs
    rcases List.mem_flatMap.mp hobs with ⟨other, -, hin⟩
    by_cases hother : other = index
    · subst hother
      rw [hnotes, List.mem_singleton] at hin
      rw [hin]
      rfl
    · apply (broadcastNotes_other hlen excludeIndex _).2 obs hin
      intro hrecipient' hsame
      exact hother (hdistinct other index hrecipient'.1 hrecipient.1 hsame)

include hdistinct hrecipient in
theorem fanout_overflowed
    (henqueue : nsClientEnqueueSend (w.clients index).sendBuf
      (wireBuffer packet hlen) = none) :
    chat (w.connection index) (fanout packet hlen excludeIndex w) = [] ∧
      SessionEnd (w.connection index)
        (.broadcast packet :: fanout packet hlen excludeIndex w) := by
  have hnotes : broadcastNotes packet hlen excludeIndex index
      (w.clients index) (w.connection index) =
        .overflowed (w.connection index) packet ::
          .disconnected (w.connection index) ::
            closingNotes (w.clients index) (w.connection index) := by
    rw [broadcastNotes, if_pos hrecipient, henqueue]
  constructor
  · rw [fanout_recipient hlen excludeIndex hdistinct hrecipient, hnotes]
    exact chat_eviction _ _ _
  · rcases List.append_of_mem (List.mem_finRange index) with
      ⟨earlier, later, hslots⟩
    have hsplit : fanout packet hlen excludeIndex w =
        earlier.flatMap (fun slot => broadcastNotes packet hlen excludeIndex
          slot (w.clients slot) (w.connection slot)) ++
        (.overflowed (w.connection index) packet ::
          .disconnected (w.connection index) ::
            (closingNotes (w.clients index) (w.connection index) ++
              later.flatMap fun slot => broadcastNotes packet hlen
                excludeIndex slot (w.clients slot) (w.connection slot))) := by
      rw [fanout, hslots, List.flatMap_append, List.flatMap_cons, hnotes]
      rfl
    have hsilent := broadcasts_fanout packet hlen excludeIndex w
    rw [hsplit, broadcasts_append, List.append_eq_nil_iff] at hsilent
    rw [hsplit]
    exact .overflowed packet _ _ hsilent.1

end Fanout

/-! ## What a move means for one connection -/

/-- Notes that do not concern the connection. -/
structure Quiet (connection : ℕ) (notes : List Obs) : Prop where
  chat : chat connection notes = []
  log : broadcasts notes = []
  join : NoJoin connection notes
  leave : NoLeave connection notes

theorem quiet_nil (connection : ℕ) : Quiet connection [] :=
  ⟨rfl, rfl, noJoin_nil connection, noLeave_nil connection⟩

theorem quiet_closingNotes (connection : ℕ) (client : NsClient)
    (connection' : ℕ) :
    Quiet connection (closingNotes client connection') :=
  ⟨chat_closingNotes client connection connection',
    broadcasts_closingNotes client connection',
    noJoin_closingNotes connection client connection',
    noLeave_closingNotes connection client connection'⟩

theorem Quiet.append {connection : ℕ} {before after : List Obs}
    (hbefore : Quiet connection before) (hafter : Quiet connection after) :
    Quiet connection (before ++ after) := by
  constructor
  · rw [chat_append, hbefore.chat, hafter.chat, List.append_nil]
  · rw [broadcasts_append, hbefore.log, hafter.log, List.append_nil]
  · exact noJoin_append.mpr ⟨hbefore.join, hafter.join⟩
  · exact noLeave_append.mpr ⟨hbefore.leave, hafter.leave⟩

structure SameSeat (client client' : NsClient) : Prop where
  active : client'.active = client.active
  joined : client'.joined = client.joined
  userId : client'.userId = client.userId
  username : client'.username = client.username

theorem SameSeat.refl (client : NsClient) : SameSeat client client :=
  ⟨rfl, rfl, rfl, rfl⟩

theorem sameSeat_update (clients : SlotIndex → NsClient)
    (index other : SlotIndex) (buf : NsSendBuf) :
    SameSeat (clients other)
      (Function.update clients index
        { clients index with sendBuf := buf } other) := by
  by_cases hother : other = index
  · subst hother
    rw [Function.update_self]
    exact ⟨rfl, rfl, rfl, rfl⟩
  · rw [Function.update_of_ne hother]
    exact .refl _

inductive SlotProgress (connection : ℕ) (client client' : NsClient)
    (notes : List Obs) : Prop
  | waits (hseat : SameSeat client client')
      (hjoined : client.joined = false)
      (hchat : chat connection notes = [])
      (hjoin : NoJoin connection notes)
      (hleave : NoLeave connection notes)
  | follows (hseat : SameSeat client client')
      (hjoined : client.joined)
      (hchat : chat connection notes = broadcasts notes)
      (hjoin : NoJoin connection notes)
      (hleave : NoLeave connection notes)
  | enters (ack notice : NsPacket) (life : List Obs)
      (hjoined : client.joined = false)
      (hjoined' : client'.joined)
      (hactive' : client'.active)
      (hnotes : notes = .joined connection client'.userId
        (text client'.username) :: life)
      (hack : IsAck ack client'.userId (text client'.username))
      (hnotice : IsJoinNotice notice client'.userId
        (text client'.username))
      (hchat : chat connection life = [ack, notice])
      (hlog : broadcasts life = [notice])
      (hjoin : NoJoin connection life)
      (hleave : NoLeave connection life)
  | ends (more rest : List Obs)
      (hinactive : client'.active = false)
      (hnotes : notes = more ++ rest)
      (hmore : broadcasts more = [])
      (hleave : NoLeave connection more)
      (hend : SessionEnd connection rest)
      (hchat : chat connection notes = [])
      (hjoin : NoJoin connection notes)

structure Progress (w w' : World) (notes : List Obs) : Prop where
  trace : w'.trace = w.trace ++ notes
  connection : w'.connection = w.connection
  connections : w'.connections = w.connections
  inactive : ∀ index, (w.clients index).active = false →
    (w'.clients index).active = false
  slots : ∀ index, (w.clients index).active →
    SlotProgress (w.connection index) (w.clients index)
      (w'.clients index) notes
  others : ∀ connection,
    (∀ index, (w.clients index).active →
      w.connection index ≠ connection) →
    chat connection notes = [] ∧ NoJoin connection notes ∧
      NoLeave connection notes

/-- Every connection is in the phase that its slot says. -/
structure ChatOrder (w : World) : Prop where
  numbered : ∀ index, (w.clients index).active →
    w.connection index < w.connections
  distinct : ∀ left right, (w.clients left).active →
    (w.clients right).active →
      w.connection left = w.connection right → left = right
  fresh : ∀ connection, w.connections ≤ connection →
    Waiting connection w.trace
  waiting : ∀ index, (w.clients index).active →
    (w.clients index).joined = false →
      Waiting (w.connection index) w.trace
  chatting : ∀ index, (w.clients index).active →
    (w.clients index).joined →
      Chatting (w.connection index) (w.clients index).userId
        (text (w.clients index).username) w.trace
  ended : ∀ connection, connection < w.connections →
    (∀ index, (w.clients index).active →
      w.connection index ≠ connection) →
    Over connection w.trace

theorem chatOrder_boot (tables : Tables) (listenSocket : NsSocket)
    (errno : Errno) (clock : Clock) :
    ChatOrder (World.boot tables listenSocket errno clock) := by
  constructor
  · intro index hactive
    exact absurd hactive Bool.false_ne_true
  · intro left right hactive
    exact absurd hactive Bool.false_ne_true
  · intro connection _
    exact ⟨rfl, noJoin_nil connection, noLeave_nil connection⟩
  · intro index hactive
    exact absurd hactive Bool.false_ne_true
  · intro index hactive
    exact absurd hactive Bool.false_ne_true
  · intro connection hlt
    exact absurd hlt (Nat.not_lt_zero connection)

section Progress

variable {w w' : World} {notes : List Obs}

theorem Progress.active (hprogress : Progress w w' notes)
    {index : SlotIndex} (hactive : (w'.clients index).active) :
    (w.clients index).active := by
  cases hbefore : (w.clients index).active with
  | true => rfl
  | false =>
      rw [hprogress.inactive index hbefore] at hactive
      exact absurd hactive Bool.false_ne_true

theorem ChatOrder.progress (horder : ChatOrder w)
    (hprogress : Progress w w' notes) : ChatOrder w' := by
  constructor
  · intro index hactive
    rw [hprogress.connection, hprogress.connections]
    exact horder.numbered index (hprogress.active hactive)
  · intro left right hleft hright
    rw [hprogress.connection]
    exact horder.distinct left right (hprogress.active hleft)
      (hprogress.active hright)
  · intro connection hfresh
    rw [hprogress.connections] at hfresh
    have hunheld : ∀ index, (w.clients index).active →
        w.connection index ≠ connection := by
      intro index hactive
      exact ((horder.numbered index hactive).trans_le hfresh).ne
    rcases hprogress.others connection hunheld with ⟨hchat, hjoin, hleave⟩
    rw [hprogress.trace]
    exact (horder.fresh connection hfresh).append hchat hjoin hleave
  · intro index hactive hjoined
    have hbefore := hprogress.active hactive
    rw [hprogress.connection, hprogress.trace]
    cases hprogress.slots index hbefore with
    | waits hseat hunjoined hchat hjoin hleave =>
        exact (horder.waiting index hbefore hunjoined).append hchat hjoin
          hleave
    | follows hseat hjoined' => simp [hseat.joined, hjoined'] at hjoined
    | enters ack notice life hunjoined hjoined' =>
        simp [hjoined'] at hjoined
    | ends more rest hinactive => simp [hinactive] at hactive
  · intro index hactive hjoined
    have hbefore := hprogress.active hactive
    rw [hprogress.connection, hprogress.trace]
    cases hprogress.slots index hbefore with
    | waits hseat hunjoined => simp [hseat.joined, hunjoined] at hjoined
    | follows hseat hjoined' hchat hjoin hleave =>
        rw [hseat.userId, hseat.username]
        exact (horder.chatting index hbefore hjoined').append hchat hjoin
          hleave
    | enters ack notice life hunjoined hjoined' hactive' hnotes hack
        hnotice hchat hlog hjoin hleave =>
        rw [hnotes]
        apply (horder.waiting index hbefore hunjoined).chatting hack _
          hnotice hlog hjoin hleave
        rw [hchat, hlog]
    | ends more rest hinactive => simp [hinactive] at hactive
  · intro connection hlt hunheld
    rw [hprogress.connections] at hlt
    rw [hprogress.connection] at hunheld
    rw [hprogress.trace]
    by_cases hheld : ∃ index, (w.clients index).active ∧
        w.connection index = connection
    · rcases hheld with ⟨index, hactive, rfl⟩
      have hgone : (w'.clients index).active = false := by
        rw [← Bool.not_eq_true]
        exact fun hstill => hunheld index hstill rfl
      cases hprogress.slots index hactive with
      | waits hseat => simp [hseat.active, hactive] at hgone
      | follows hseat => simp [hseat.active, hactive] at hgone
      | enters ack notice life hunjoined hjoined' hactive' =>
          simp [hactive'] at hgone
      | ends more rest _ hnotes hmore hleave hend hchat hjoin =>
          cases hjoined : (w.clients index).joined with
          | false =>
              exact (horder.waiting index hactive hjoined).over hchat hjoin
          | true =>
              subst hnotes
              exact (horder.chatting index hactive hjoined).over hmore
                hleave hend hchat hjoin
    · have hunheld' : ∀ index, (w.clients index).active →
          w.connection index ≠ connection :=
        fun index hactive hsame => hheld ⟨index, hactive, hsame⟩
      rcases hprogress.others connection hunheld' with ⟨hchat, hjoin, -⟩
      exact (horder.ended connection hlt hunheld').append hchat hjoin

end Progress

end NodeSignal
