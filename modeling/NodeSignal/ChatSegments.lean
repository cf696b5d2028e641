import NodeSignal.ChatOrder

/-!
# Every client receives a segment of the log

The moves keep every connection in the phase that its slot says.  A move
that broadcasts is the same for all recipients, whatever comes before and
after the broadcast, so only the client that joins or leaves needs a look of
its own.
-/

namespace NodeSignal

open CStrings Runs SlotFold

section Moves

variable {w w' : World}

theorem SlotProgress.quiet {connection : ℕ} {client client' : NsClient}
    {notes : List Obs} (hseat : SameSeat client client')
    (hquiet : Quiet connection notes) :
    SlotProgress connection client client' notes := by
  cases hjoined : client.joined with
  | false =>
      exact .waits hseat hjoined hquiet.chat hquiet.join hquiet.leave
  | true =>
      refine .follows hseat hjoined ?_ hquiet.join hquiet.leave
      rw [hquiet.chat, hquiet.log]

theorem ChatOrder.quiet (horder : ChatOrder w) (notes : List Obs)
    (hquiet : ∀ connection, Quiet connection notes)
    (htrace : w'.trace = w.trace ++ notes)
    (hconnection : w'.connection = w.connection)
    (hconnections : w'.connections = w.connections)
    (hseat : ∀ index, SameSeat (w.clients index) (w'.clients index)) :
    ChatOrder w' := by
  apply horder.progress ⟨htrace, hconnection, hconnections, ?_, ?_, ?_⟩
  · intro index hactive
    rw [(hseat index).active, hactive]
  · intro index _
    exact .quiet (hseat index) (hquiet _)
  · intro connection _
    exact ⟨(hquiet connection).chat, (hquiet connection).join,
      (hquiet connection).leave⟩

theorem ChatOrder.refused (horder : ChatOrder w)
    (hclients : w'.clients = w.clients)
    (hconnection : w'.connection = w.connection)
    (hconnections : w'.connections = w.connections + 1)
    (htrace : w'.trace = w.trace) : ChatOrder w' := by
  constructor
  · intro index hactive
    rw [hclients] at hactive
    rw [hconnection, hconnections]
    exact (horder.numbered index hactive).trans (Nat.lt_succ_self _)
  · rw [hclients, hconnection]
    exact horder.distinct
  · intro connection hfresh
    rw [hconnections] at hfresh
    rw [htrace]
    exact horder.fresh connection (Nat.le_of_succ_le hfresh)
  · rw [hclients, hconnection, htrace]
    exact horder.waiting
  · rw [hclients, hconnection, htrace]
    exact horder.chatting
  · intro connection hlt hunheld
    rw [hclients, hconnection] at hunheld
    rw [hconnections] at hlt
    rw [htrace]
    rcases Nat.lt_succ_iff_lt_or_eq.mp hlt with hold | rfl
    · exact horder.ended connection hold hunheld
    · have hwaiting := horder.fresh w.connections le_rfl
      exact .silent hwaiting.nothing hwaiting.join

theorem ChatOrder.occupied (horder : ChatOrder w) {index : SlotIndex}
    {client : NsClient} (hfree : (w.clients index).active = false)
    (hactive : client.active) (hunjoined : client.joined = false)
    (hclients : w'.clients = Function.update w.clients index client)
    (hconnection : w'.connection =
      Function.update w.connection index w.connections)
    (hconnections : w'.connections = w.connections + 1)
    (htrace : w'.trace = w.trace) : ChatOrder w' := by
  have hother : ∀ other, other ≠ index →
      w'.clients other = w.clients other ∧
        w'.connection other = w.connection other := by
    intro other hne
    rw [hclients, hconnection]
    exact ⟨Function.update_of_ne hne _ _, Function.update_of_ne hne _ _⟩
  have hown : w'.clients index = client ∧
      w'.connection index = w.connections := by
    rw [hclients, hconnection]
    exact ⟨Function.update_self _ _ _, Function.update_self _ _ _⟩
  have hold : ∀ other, other ≠ index → (w'.clients other).active →
      w'.connection other < w.connections := by
    intro other hne hactive
    rw [(hother other hne).1] at hactive
    rw [(hother other hne).2]
    exact horder.numbered other hactive
  constructor
  · intro other hactive
    rw [hconnections]
    by_cases hne : other = index
    · rw [hne, hown.2]
      exact Nat.lt_succ_self _
    · exact (hold other hne hactive).trans (Nat.lt_succ_self _)
  · intro left right hleft hright hsame
    by_cases hleft' : left = index
    · by_cases hright' : right = index
      · rw [hleft', hright']
      · have hlt := hold right hright' hright
        rw [← hsame, hleft', hown.2] at hlt
        exact absurd hlt (lt_irrefl _)
    · by_cases hright' : right = index
      · have hlt := hold left hleft' hleft
        rw [hsame, hright', hown.2] at hlt
        exact absurd hlt (lt_irrefl _)
      · rw [(hother left hleft').1] at hleft
        rw [(hother right hright').1] at hright
        rw [(hother left hleft').2, (hother right hright').2] at hsame
        exact horder.distinct left right hleft hright hsame
  · intro connection hfresh
    rw [hconnections] at hfresh
    rw [htrace]
    exact horder.fresh connection (Nat.le_of_succ_le hfresh)
  · intro other hactive hjoined
    rw [htrace]
    by_cases hne : other = index
    · rw [hne, hown.2]
      exact horder.fresh w.connections le_rfl
    · rw [(hother other hne).1] at hactive hjoined
      rw [(hother other hne).2]
      exact horder.waiting other hactive hjoined
  · intro other hactive hjoined
    rw [htrace]
    by_cases hne : other = index
    · rw [hne, hown.1, hunjoined] at hjoined
      exact absurd hjoined Bool.false_ne_true
    · rw [(hother other hne).1] at hactive hjoined ⊢
      rw [(hother other hne).2]
      exact horder.chatting other hactive hjoined
  · intro connection hlt hunheld
    rw [hconnections] at hlt
    rw [htrace]
    have hne : connection ≠ w.connections := by
      intro heq
      apply hunheld index _ (hown.2.trans heq.symm)
      rw [hown.1, hactive]
    apply horder.ended connection (by omega)
    intro other hother'
    have hne' : other ≠ index := by
      intro heq
      rw [heq, hfree] at hother'
      exact absurd hother' Bool.false_ne_true
    rw [← (hother other hne').1] at hother'
    rw [← (hother other hne').2]
    exact hunheld other hother'

theorem ChatOrder.released (horder : ChatOrder w) {index : SlotIndex}
    (hactive : (w.clients index).active) {more : List Obs}
    (hmore : ∀ connection, Quiet connection more)
    (hclients : w'.clients = Function.update w.clients index .reset)
    (hconnection : w'.connection = w.connection)
    (hconnections : w'.connections = w.connections) {client : NsClient}
    (htrace : w'.trace = w.trace ++ (more ++
      .disconnected (w.connection index) ::
        closingNotes client (w.connection index))) : ChatOrder w' := by
  have hown : ∀ connection, chat connection (more ++
      .disconnected (w.connection index) ::
        closingNotes client (w.connection index)) = [] ∧
      NoJoin connection (more ++ .disconnected (w.connection index) ::
        closingNotes client (w.connection index)) := by
    intro connection
    rw [chat_append, chat_cons, chat_closingNotes, (hmore connection).chat]
    refine ⟨rfl, noJoin_append.mpr ⟨(hmore connection).join, ?_⟩⟩
    exact noJoin_cons.mpr ⟨rfl, noJoin_closingNotes _ _ _⟩
  have hquiet : ∀ connection, w.connection index ≠ connection →
      Quiet connection (more ++ .disconnected (w.connection index) ::
        closingNotes client (w.connection index)) := by
    intro connection hne
    refine ⟨(hown connection).1, ?_, (hown connection).2, ?_⟩
    · rw [broadcasts_append, (hmore connection).log, broadcasts_cons,
        broadcasts_closingNotes]
      rfl
    · refine noLeave_append.mpr ⟨(hmore connection).leave, ?_⟩
      refine noLeave_cons.mpr ⟨?_, noLeave_closingNotes _ _ _⟩
      simp [Obs.leaves, hne]
  apply horder.progress ⟨htrace, hconnection, hconnections, ?_, ?_, ?_⟩
  · intro other hinactive
    rw [hclients]
    by_cases hother : other = index
    · rw [hother, Function.update_self]
      rfl
    · rw [Function.update_of_ne hother, hinactive]
  · intro other hother
    rw [hclients]
    by_cases hne : other = index
    · subst hne
      rw [Function.update_self]
      exact .ends more _ rfl rfl (hmore 0).log (hmore _).leave
        (.disconnected _) (hown _).1 (hown _).2
    · rw [Function.update_of_ne hne]
      apply SlotProgress.quiet (.refl _) (hquiet _ _)
      intro hsame
      exact hne (horder.distinct index other hactive hother hsame).symm
  · intro connection hunheld
    have hothers := hquiet connection (hunheld index hactive)
    exact ⟨hothers.chat, hothers.join, hothers.leave⟩

end Moves

/-! ## Moves that broadcast -/

section Broadcasting

variable {packet : NsPacket}
  (hlen : packet.header.bodyLen.toNat ≤ nsPacketBodyMax)
  (excludeIndex : Option SlotIndex)

def broadcastingNotes (before after : List Obs) (w : World) : List Obs :=
  before ++ .broadcast packet ::
    (fanout packet hlen excludeIndex w ++ after)

section Around

variable {connection : ℕ} {before after : List Obs} (w : World)

theorem chat_broadcasting (hbefore : chat connection before = [])
    (hafter : chat connection after = []) :
    chat connection
        (broadcastingNotes hlen excludeIndex before after w) =
      chat connection (fanout packet hlen excludeIndex w) := by
  rw [broadcastingNotes, chat_append, chat_cons, chat_append, hbefore,
    hafter, List.append_nil]
  have hnote : chat connection [.broadcast packet] = [] := rfl
  rw [hnote, List.nil_append, List.nil_append]

theorem broadcasts_broadcasting (hbefore : broadcasts before = [])
    (hafter : broadcasts after = []) :
    broadcasts (broadcastingNotes hlen excludeIndex before after w) =
      [packet] := by
  rw [broadcastingNotes, broadcasts_append, broadcasts_cons,
    broadcasts_append, hbefore, hafter, broadcasts_fanout]
  rfl

theorem noJoin_broadcasting (hbefore : NoJoin connection before)
    (hafter : NoJoin connection after) :
    NoJoin connection
      (broadcastingNotes hlen excludeIndex before after w) := by
  simp [broadcastingNotes, hbefore, hafter, Obs.joins, noJoin_fanout]

theorem noLeave_broadcasting (hbefore : NoLeave connection before)
    (hafter : NoLeave connection after)
    (hfanout : NoLeave connection (fanout packet hlen excludeIndex w)) :
    NoLeave connection
      (broadcastingNotes hlen excludeIndex before after w) := by
  simp [broadcastingNotes, hbefore, hafter, Obs.leaves, hfanout]

theorem others_broadcasting (hbefore : Quiet connection before)
    (hafter : Quiet connection after)
    (hother : ∀ index, Recipient excludeIndex index (w.clients index) →
      w.connection index ≠ connection) :
    chat connection (broadcastingNotes hlen excludeIndex before after w) = [] ∧
      NoJoin connection
        (broadcastingNotes hlen excludeIndex before after w) ∧
      NoLeave connection
        (broadcastingNotes hlen excludeIndex before after w) := by
  have hfanout := fanout_other hlen excludeIndex hother
  refine ⟨?_, noJoin_broadcasting hlen excludeIndex w hbefore.join
    hafter.join, noLeave_broadcasting hlen excludeIndex w hbefore.leave
    hafter.leave hfanout.2⟩
  rw [chat_broadcasting hlen excludeIndex w hbefore.chat hafter.chat,
    hfanout.1]

end Around

theorem slotProgress_broadcasting {w : World} {index : SlotIndex}
    {before after : List Obs}
    (hdistinct : ∀ left right, (w.clients left).active →
      (w.clients right).active →
        w.connection left = w.connection right → left = right)
    (hactive : (w.clients index).active)
    (hincluded : some index ≠ excludeIndex)
    (htype : packet.header.type ≠ NsPacketType.error.code)
    (hbefore : Quiet (w.connection index) before)
    (hafter : Quiet (w.connection index) after) :
    SlotProgress (w.connection index) (w.clients index)
      (broadcastClient packet hlen excludeIndex index (w.clients index))
      (broadcastingNotes hlen excludeIndex before after w) := by
  have hjoin := noJoin_broadcasting hlen excludeIndex w hbefore.join
    hafter.join
  cases hjoined : (w.clients index).joined with
  | false =>
      have hskipped : ¬ Recipient excludeIndex index (w.clients index) := by
        intro hrecipient
        exact absurd hrecipient.2.1 (by simp [hjoined])
      have hothers := others_broadcasting hlen excludeIndex w hbefore hafter
        (by
          intro other hother hsame
          rw [hdistinct other index hother.1 hactive hsame] at hother
          exact hskipped hother)
      rw [broadcastClient, if_neg hskipped]
      exact .waits (.refl _) hjoined hothers.1 hothers.2.1 hothers.2.2
  | true =>
      have hrecipient : Recipient excludeIndex index (w.clients index) :=
        ⟨hactive, hjoined, hincluded⟩
      rw [broadcastClient, if_pos hrecipient]
      cases henqueue : nsClientEnqueueSend (w.clients index).sendBuf
          (wireBuffer packet hlen) with
      | some buf =>
          have hfanout := fanout_enqueued hlen excludeIndex hdistinct
            hrecipient henqueue htype
          refine SlotProgress.follows ?_ hjoined ?_ hjoin
            (noLeave_broadcasting hlen excludeIndex w hbefore.leave
              hafter.leave hfanout.2)
          · exact ⟨rfl, rfl, rfl, rfl⟩
          rw [chat_broadcasting hlen excludeIndex w hbefore.chat hafter.chat,
            broadcasts_broadcasting hlen excludeIndex w hbefore.log
              hafter.log, hfanout.1]
      | none =>
          have hfanout := fanout_overflowed hlen excludeIndex hdistinct
            hrecipient henqueue
          refine SlotProgress.ends before _ rfl rfl hbefore.log
            hbefore.leave (hfanout.2.append after) ?_ hjoin
          have hsilent := chat_broadcasting hlen excludeIndex w hbefore.chat
            hafter.chat
          exact hsilent.trans hfanout.1

theorem broadcastClient_inactive {index : SlotIndex} {client : NsClient}
    (hinactive : client.active = false) :
    broadcastClient packet hlen excludeIndex index client = client := by
  apply if_neg
  intro hrecipient
  exact absurd hrecipient.1 (by simp [hinactive])

/-- A broadcast keeps the order if the slots it does not reach make
progress of their own. -/
theorem ChatOrder.broadcasting {w w' : World} (horder : ChatOrder w)
    (v : World) (before after : List Obs)
    (htype : packet.header.type ≠ NsPacketType.error.code)
    (hactive : ∀ index,
      (v.clients index).active = (w.clients index).active)
    (hconnection : v.connection = w.connection)
    (htrace : w'.trace =
      w.trace ++ broadcastingNotes hlen excludeIndex before after v)
    (hconnection' : w'.connection = w.connection)
    (hconnections' : w'.connections = w.connections)
    (hinactive : ∀ index, (w.clients index).active = false →
      (w'.clients index).active = false)
    (hslots : ∀ index, (w.clients index).active →
      SlotProgress (w.connection index) (w.clients index)
          (w'.clients index)
          (broadcastingNotes hlen excludeIndex before after v) ∨
        v.clients index = w.clients index ∧
          w'.clients index = broadcastClient packet hlen excludeIndex index
            (w.clients index) ∧
          some index ≠ excludeIndex ∧
          Quiet (w.connection index) before ∧
          Quiet (w.connection index) after)
    (hothers : ∀ connection,
      (∀ index, (w.clients index).active →
        w.connection index ≠ connection) →
      Quiet connection before ∧ Quiet connection after) :
    ChatOrder w' := by
  have hdistinct : ∀ left right, (v.clients left).active →
      (v.clients right).active →
        v.connection left = v.connection right → left = right := by
    intro left right hleft hright hsame
    rw [hactive] at hleft hright
    rw [hconnection] at hsame
    exact horder.distinct left right hleft hright hsame
  apply horder.progress
    ⟨htrace, hconnection', hconnections', hinactive, ?_, ?_⟩
  · intro index hindex
    rcases hslots index hindex with hown | ⟨hbefore, hafter, hincluded,
      hquiet, hquiet'⟩
    · exact hown
    · rw [hafter, ← hbefore, ← hconnection]
      rw [← hconnection] at hquiet hquiet'
      exact slotProgress_broadcasting hlen excludeIndex hdistinct
        (by rw [hactive, hindex]) hincluded htype hquiet hquiet'
  · intro connection hunheld
    rcases hothers connection hunheld with ⟨hbefore, hafter⟩
    apply others_broadcasting hlen excludeIndex v hbefore hafter
    intro index hrecipient
    rw [hconnection]
    apply hunheld index
    rw [← hactive]
    exact hrecipient.1

end Broadcasting

/-! ## The packets of a JOIN -/

/-- What is written around a short name reaches the payload in full. -/
theorem payload_around {type : UInt8} {userId timestamp : UInt32}
    {username before after : List UInt8} {packet : NsPacket}
    (hshort : (text username).length ≤ nsUsernameMax)
    (hroom : before.length + nsUsernameMax + after.length ≤ nsPacketBodyMax)
    (hbefore : 0 ∉ before) (hafter : 0 ∉ after)
    (hset : nsPacketSet type userId timestamp
      (some (snprintf (nsPacketBodyMax + 1)
        [before, text username, after]).1) = some packet) :
    packet.payload = before ++ text username ++ after := by
  rcases nsPacketSet_eq_some hset with ⟨-, -, -, -, -, hpayload, -⟩
  have hflat : [before, text username, after].flatten =
      before ++ text username ++ after := by
    simp
  have hfits : [before, text username, after].flatten.length <
      nsPacketBodyMax + 1 := by
    rw [hflat, List.length_append, List.length_append]
    omega
  have hzero : 0 ∉ before ++ text username ++ after := by
    rw [List.mem_append, List.mem_append, not_or, not_or]
    exact ⟨⟨hbefore, zero_notMem_text _⟩, hafter⟩
  rw [hpayload, Option.getD_some, snprintf_of_fits hfits, hflat,
    text_of_zero_notMem hzero]

theorem isAck_of_nsPacketSet {username : List UInt8}
    {userId timestamp : UInt32} {ack : NsPacket}
    (hshort : (text username).length ≤ nsUsernameMax)
    (hack : nsPacketSet NsPacketType.ack.code userId timestamp
      (some (statusText username)) = some ack) :
    IsAck ack userId (text username) := by
  rcases nsPacketSet_eq_some hack with ⟨-, htype, hsender, -⟩
  -- the format has nothing after the name
  have hstatus : statusText username = (snprintf (nsPacketBodyMax + 1)
      [literal "Connected as ", text username, []]).1 := by
    simp [statusText, snprintf]
  rw [hstatus] at hack
  have hpayload := payload_around hshort (by decide) (by decide) (by decide)
    hack
  exact ⟨htype, hsender, by rw [hpayload, List.append_nil]⟩

theorem isJoinNotice_of_nsPacketSet {username : List UInt8}
    {userId timestamp : UInt32} {notice : NsPacket}
    (hshort : (text username).length ≤ nsUsernameMax)
    (hnotice : nsPacketSet NsPacketType.join.code userId timestamp
      (some (joinText username)) = some notice) :
    IsJoinNotice notice userId (text username) := by
  rcases nsPacketSet_eq_some hnotice with ⟨-, htype, hsender, -⟩
  exact ⟨htype, hsender,
    payload_around hshort (by decide) (by decide) (by decide) hnotice⟩

theorem nsClientEnqueueSend_second {first : WireBuffer}
    {buf : NsSendBuf}
    (hfirst : nsClientEnqueueSend .reset first = some buf)
    (second : WireBuffer) :
    ∃ next, nsClientEnqueueSend buf second = some next := by
  rw [← Option.ne_none_iff_exists', ne_eq, nsClientEnqueueSend_eq_none_iff]
  have hreset : NsSendBuf.reset.Sound := Nat.zero_lt_succ _
  rcases nsClientEnqueueSend_of_sound hreset hfirst with ⟨hqueued, hsound⟩
  have hlen := first.property
  have hlen' := second.property
  rw [hsound.admits_iff, hqueued, NsSendBuf.queued_reset, List.nil_append]
  simp only [nsPacketHeaderSize, nsPacketBodyMax, nsSendBufSize] at *
  omega

/-! ## Every move keeps the order -/

section Moves

variable {w : World} {index : SlotIndex}

theorem ChatOrder.texted (horder : ChatOrder w) (database : NsDatabase)
    {timestamp senderId : UInt32} {body : List UInt8} {packet : NsPacket}
    (hpacket : nsPacketSet NsPacketType.text.code senderId timestamp
      (some body) = some packet) :
    ChatOrder
      (nsServerBroadcast { w with database := database } packet none) := by
  have hlen := nsPacketSet_bodyLen hpacket
  have htype : packet.header.type ≠ NsPacketType.error.code := by
    rw [(nsPacketSet_eq_some hpacket).2.1]
    decide
  have hframe := nsServerBroadcast_frame packet hlen none
    { w with database := database }
  have hclients := nsServerBroadcast_clients packet hlen none
    { w with database := database }
  apply horder.broadcasting hlen none { w with database := database } [] []
    htype (fun _ => rfl) rfl _ hframe.1 hframe.2.1
  · intro other hinactive
    rw [hclients, broadcastClient_inactive hlen none hinactive, hinactive]
  · intro other hactive
    right
    exact ⟨rfl, hclients other, Option.some_ne_none other, quiet_nil _,
      quiet_nil _⟩
  · intro connection _
    exact ⟨quiet_nil _, quiet_nil _⟩
  · rw [nsServerBroadcast_trace packet hlen, broadcastingNotes,
      List.append_nil]
    rfl

theorem quiet_disconnected {connection connection' : ℕ}
    (hne : connection' ≠ connection) :
    Quiet connection [.disconnected connection'] := by
  refine ⟨rfl, rfl, by simp [Obs.joins], ?_⟩
  simp [Obs.leaves, hne]

theorem ChatOrder.connection_ne (horder : ChatOrder w) {other : SlotIndex}
    (hactive : (w.clients index).active) (hother : (w.clients other).active)
    (hne : other ≠ index) : w.connection index ≠ w.connection other :=
  fun hsame => hne (horder.distinct other index hother hactive hsame.symm)

theorem ChatOrder.departed (horder : ChatOrder w)
    (hactive : (w.clients index).active)
    {timestamp senderId : UInt32} {body : List UInt8} {notice : NsPacket}
    (hnotice : nsPacketSet NsPacketType.leave.code senderId timestamp
      (some body) = some notice) : ChatOrder (w.departed index notice) := by
  have hlen := nsPacketSet_bodyLen hnotice
  have htype : notice.header.type ≠ NsPacketType.error.code := by
    rw [(nsPacketSet_eq_some hnotice).2.1]
    decide
  have hclients := nsServerBroadcast_clients notice hlen (some index)
    (w.observe (.disconnected (w.connection index)))
  have hframe := nsServerBroadcast_frame notice hlen (some index)
    (w.observe (.disconnected (w.connection index)))
  have hown : (w.departed index notice).clients index = .reset := by
    rw [World.departed, releaseSlot_clients, Function.update_self]
  have hother : ∀ other, other ≠ index →
      (w.departed index notice).clients other =
        broadcastClient notice hlen (some index) other
          (w.clients other) := by
    intro other hne
    rw [World.departed, releaseSlot_clients, Function.update_of_ne hne]
    exact hclients other
  have htrace : (w.departed index notice).trace =
      w.trace ++ broadcastingNotes hlen (some index)
        [.disconnected (w.connection index)]
        (closingNotes (w.clients index) (w.connection index))
        (w.observe (.disconnected (w.connection index))) := by
    rw [World.departed, releaseSlot_trace, hclients,
      nsServerBroadcast_trace notice hlen, broadcastClient_excluded,
      hframe.1, broadcastingNotes]
    simp [World.observe]
  apply horder.broadcasting hlen (some index)
    (w.observe (.disconnected (w.connection index)))
    [.disconnected (w.connection index)] _ htype (fun _ => rfl) rfl htrace
    hframe.1 hframe.2.1
  · intro other hinactive
    by_cases heq : other = index
    · rw [heq, hown]
      rfl
    · rw [hother other heq, broadcastClient_inactive hlen _ hinactive,
        hinactive]
  · intro other hactive'
    by_cases heq : other = index
    · left
      subst heq
      have hsilent : chat (w.connection other)
          (fanout notice hlen (some other)
            (w.observe (.disconnected (w.connection other)))) = [] := by
        apply (fanout_other hlen (some other) _).1
        intro third hthird hsame
        exact hthird.2.2 (congrArg some (horder.distinct third other
          hthird.1 hactive hsame))
      rw [hown]
      refine .ends [] _ rfl rfl rfl (noLeave_nil _) (.disconnected _) ?_ ?_
      · rw [chat_broadcasting hlen (some other) _ rfl
          (chat_closingNotes _ _ _), hsilent]
      · exact noJoin_broadcasting hlen (some other) _ (by simp [Obs.joins])
          (noJoin_closingNotes _ _ _)
    · right
      exact ⟨rfl, hother other heq, fun hsame =>
        heq (Option.some.inj hsame), quiet_disconnected
          (horder.connection_ne hactive hactive' heq), quiet_closingNotes _ _ _⟩
  · intro connection hunheld
    exact ⟨quiet_disconnected (hunheld index hactive),
      quiet_closingNotes _ _ _⟩

theorem quiet_seated {connection connection' : ℕ}
    (hne : connection' ≠ connection) (userId : UInt32)
    (name : List UInt8) (ack : NsPacket) :
    Quiet connection
      [.joined connection' userId name, .enqueued connection' ack] := by
  refine ⟨?_, rfl, by simp [Obs.joins, hne], by simp [Obs.leaves]⟩
  simp [chat, received, Obs.receipt, hne]

/-- The state in which the JOIN notice is broadcast. -/
theorem seated_appended (w : World) (index : SlotIndex) (userId : UInt32)
    (username : List UInt8) (ack : NsPacket) (buf : NsSendBuf) :
    let v := (w.seated index userId username).appended index ack buf
    v.clients = Function.update w.clients index
        { w.clients index with
          joined := true
          userId := userId
          username := username
          sendBuf := buf } ∧
      v.connection = w.connection ∧ v.connections = w.connections ∧
      v.trace = w.trace ++
        [.joined (w.connection index) userId (text username),
          .enqueued (w.connection index) ack] := by
  refine ⟨?_, rfl, rfl, ?_⟩
  · rw [World.appended_clients, World.seated_clients,
      Function.update_self, Function.update_idem]
  · rw [World.appended_trace]
    simp [World.seated, World.observe, World.setClient]

/-- The newcomer gets the ACK and the JOIN notice, in this order. -/
theorem slotProgress_enters {v : World} {username : List UInt8}
    {userId : UInt32} {ack notice : NsPacket} {buf : NsSendBuf}
    (hdistinct : ∀ left right, (v.clients left).active →
      (v.clients right).active →
        v.connection left = v.connection right → left = right)
    (hactive : (w.clients index).active)
    (hjoined : (w.clients index).joined = false)
    (hclient : v.clients index =
      { w.clients index with
        joined := true
        userId := userId
        username := username
        sendBuf := buf })
    (hisAck : IsAck ack userId (text username))
    (hisNotice : IsJoinNotice notice userId (text username))
    {hlen : ack.header.bodyLen.toNat ≤ nsPacketBodyMax}
    (henqueue : nsClientEnqueueSend .reset (wireBuffer ack hlen) = some buf)
    (hlen' : notice.header.bodyLen.toNat ≤ nsPacketBodyMax) :
    SlotProgress (v.connection index) (w.clients index)
      ((nsServerBroadcast v notice none).clients index)
      (broadcastingNotes hlen' none
        [.joined (v.connection index) userId (text username),
          .enqueued (v.connection index) ack] [] v) := by
  have htype : notice.header.type ≠ NsPacketType.error.code := by
    rw [hisNotice.type]
    decide
  have hacktype : ack.header.type ≠ NsPacketType.error.code := by
    rw [hisAck.type]
    decide
  have hrecipient : Recipient none index (v.clients index) := by
    rw [hclient]
    exact ⟨hactive, rfl, Option.some_ne_none index⟩
  have hvbuf : (v.clients index).sendBuf = buf := by
    rw [hclient]
  rcases nsClientEnqueueSend_second henqueue (wireBuffer notice hlen') with
    ⟨next, hnext⟩
  rw [← hvbuf] at hnext
  have hfanout := fanout_enqueued hlen' none hdistinct hrecipient hnext
    htype
  have hafter : (nsServerBroadcast v notice none).clients index =
      { w.clients index with
        joined := true
        userId := userId
        username := username
        sendBuf := next } := by
    rw [nsServerBroadcast_clients notice hlen', broadcastClient,
      if_pos hrecipient, hnext, hclient]
  rw [hafter]
  refine .enters ack notice
    (.enqueued (v.connection index) ack :: .broadcast notice ::
      fanout notice hlen' none v) hjoined rfl hactive ?_ hisAck hisNotice
    ?_ ?_ ?_ ?_
  · rw [broadcastingNotes, List.append_nil]
    rfl
  · rw [chat_cons, chat_cons _ (.broadcast notice), hfanout.1]
    simp [chat, received, Obs.receipt, hacktype]
  · rw [broadcasts_cons, broadcasts_cons, broadcasts_fanout]
    rfl
  · simp [Obs.joins, noJoin_fanout]
  · simp [Obs.leaves, hfanout.2]

theorem ChatOrder.joined (horder : ChatOrder w) {username : List UInt8}
    {userId timestamp timestamp' : UInt32} {ack notice : NsPacket}
    {buf : NsSendBuf} (hactive : (w.clients index).active)
    (hjoined : (w.clients index).joined = false)
    (hbuf : (w.clients index).sendBuf = .reset)
    (hshort : (text username).length ≤ nsUsernameMax)
    (hack : nsPacketSet NsPacketType.ack.code userId timestamp
      (some (statusText username)) = some ack)
    (hlen : ack.header.bodyLen.toNat ≤ nsPacketBodyMax)
    (henqueue : nsClientEnqueueSend (w.clients index).sendBuf
      (wireBuffer ack hlen) = some buf)
    (hnotice : nsPacketSet NsPacketType.join.code userId timestamp'
      (some (joinText username)) = some notice) :
    ChatOrder
      (nsServerBroadcast
        ((w.seated index userId username).appended index ack buf)
        notice none) := by
  have hisAck := isAck_of_nsPacketSet hshort hack
  have hisNotice := isJoinNotice_of_nsPacketSet hshort hnotice
  have hlen' := nsPacketSet_bodyLen hnotice
  have htype : notice.header.type ≠ NsPacketType.error.code := by
    rw [hisNotice.type]
    decide
  have hseated := seated_appended w index userId username ack buf
  generalize (w.seated index userId username).appended index ack buf = v
    at hseated ⊢
  rcases hseated with ⟨hvclients, hvconnection, hvconnections, hvtrace⟩
  have hvown := congrFun hvclients index
  rw [Function.update_self] at hvown
  have hvactive : ∀ other,
      (v.clients other).active = (w.clients other).active := by
    intro other
    rw [hvclients]
    by_cases hother : other = index
    · rw [hother, Function.update_self]
    · rw [Function.update_of_ne hother]
  have hvdistinct : ∀ left right, (v.clients left).active →
      (v.clients right).active →
        v.connection left = v.connection right → left = right := by
    intro left right hleft hright
    rw [hvactive] at hleft hright
    rw [hvconnection]
    exact horder.distinct left right hleft hright
  have hframe := nsServerBroadcast_frame notice hlen' none v
  have hclients := nsServerBroadcast_clients notice hlen' none v
  apply horder.broadcasting hlen' none v
    [.joined (w.connection index) userId (text username),
      .enqueued (w.connection index) ack] [] htype hvactive hvconnection _
    (hframe.1.trans hvconnection) (hframe.2.1.trans hvconnections)
  · intro other hinactive
    rw [← hvactive] at hinactive
    rw [hclients, broadcastClient_inactive hlen' none hinactive, hinactive]
  · intro other hother
    by_cases heq : other = index
    · left
      subst heq
      rw [hbuf] at henqueue
      have henters := slotProgress_enters hvdistinct hactive hjoined hvown
        hisAck hisNotice henqueue hlen'
      rw [hvconnection] at henters
      exact henters
    · right
      have hvother : v.clients other = w.clients other := by
        rw [hvclients, Function.update_of_ne heq]
      refine ⟨hvother, ?_, Option.some_ne_none other,
        quiet_seated (horder.connection_ne hactive hother heq) _ _ _,
        quiet_nil _⟩
      rw [hclients, hvother]
  · intro connection hunheld
    exact ⟨quiet_seated (hunheld index hactive) _ _ _, quiet_nil _⟩
  · rw [nsServerBroadcast_trace notice hlen', hvtrace, broadcastingNotes,
      List.append_nil, List.append_assoc]

theorem answered_notes (w : World) (index : SlotIndex) {packet : NsPacket}
    (hlen : packet.header.bodyLen.toNat ≤ nsPacketBodyMax)
    (htype : packet.header.type = NsPacketType.error.code) :
    ∃ notes, (w.answered index packet).trace = w.trace ++ notes ∧
      ∀ connection, Quiet connection notes := by
  have hquiet : ∀ connection, Quiet connection
      [.rejected (w.connection index) packet] :=
    fun _ => ⟨rfl, rfl, by simp [Obs.joins], by simp [Obs.leaves]⟩
  have hquiet' : ∀ connection, Quiet connection
      [.enqueued (w.connection index) packet] := by
    intro connection
    refine ⟨?_, rfl, by simp [Obs.joins], by simp [Obs.leaves]⟩
    simp only [chat, received, List.filter_eq_nil_iff,
      List.mem_filterMap, List.mem_singleton]
    intro other hother
    rcases hother with ⟨obs, rfl, hreceipt⟩
    simp only [Obs.receipt, Option.ite_none_right_eq_some,
      Option.some.injEq] at hreceipt
    simp [← hreceipt.2, htype]
  rcases w.answered_trace index hlen with htrace | htrace
  · exact ⟨_, htrace, hquiet⟩
  · exact ⟨_, htrace, fun connection =>
      (hquiet connection).append (hquiet' connection)⟩

theorem Move.chatOrder {allow : World → NsSocket → Prop} {w w' : World}
    (hmove : Move allow w w') (hsettled : Settled w)
    (horder : ChatOrder w) : ChatOrder w' := by
  cases hmove with
  | errno errno =>
      exact horder.quiet [] quiet_nil (List.append_nil _).symm rfl rfl
        fun _ => .refl _
  | clock clock =>
      exact horder.quiet [] quiet_nil (List.append_nil _).symm rfl rfl
        fun _ => .refl _
  | polled revents =>
      exact horder.quiet [] quiet_nil (List.append_nil _).symm rfl rfl
        fun _ => .refl _
  | dispatched index packet hactive =>
      refine horder.quiet _ ?_ rfl rfl rfl fun _ => .refl _
      intro connection
      exact ⟨rfl, rfl, by simp [Obs.joins], by simp [Obs.leaves]⟩
  | rebuked index packet hactive hjoined htype hlen =>
      rcases w.answered_frame index hlen with
        ⟨-, hconnection, hconnections, buf, hclients⟩
      have hseat : ∀ other, SameSeat (w.clients other)
          ((w.answered index packet).clients other) := by
        intro other
        rw [hclients]
        exact sameSeat_update w.clients index other buf
      rcases answered_notes w index hlen htype with ⟨notes, htrace, hquiet⟩
      exact horder.quiet notes hquiet htrace hconnection hconnections hseat
  | turnedAway index packet hactive hjoined htype hlen =>
      rcases w.answered_frame index hlen with
        ⟨-, hconnection, hconnections, -⟩
      rcases answered_notes w index hlen htype with ⟨notes, htrace, hquiet⟩
      apply horder.released hactive hquiet
        (w.answered_dropped_clients index hlen) hconnection hconnections
      rw [World.dropped, releaseSlot_trace]
      simp only [World.observe, hconnection, htrace, List.append_assoc]
      rfl
  | dropped index hactive =>
      apply horder.released hactive quiet_nil (w.dropped_clients index) rfl
        rfl
      rw [World.dropped, releaseSlot_trace]
      simp only [World.observe, List.append_assoc]
      rfl
  | departed index timestamp notice hactive hjoined hnotice =>
      exact horder.departed hactive hnotice
  | refused socketFd outcomes hvalid hallow =>
      rcases turnDown_trace (w.greeted socketFd) w.connections socketFd
        outcomes with ⟨bytes, htrace⟩
      have hframe := turnDown_frame (w.greeted socketFd) w.connections
        socketFd outcomes
      generalize turnDown (w.greeted socketFd) w.connections socketFd
        outcomes = w' at *
      have hnoted : ChatOrder { w with trace := w'.trace } := by
        refine horder.quiet _ ?_ (htrace.trans (List.append_assoc _ _ _)) rfl
          rfl fun _ => .refl _
        intro connection
        exact ⟨rfl, rfl, by simp [Obs.joins], by simp [Obs.leaves]⟩
      exact hnoted.refused hframe.1 hframe.2.2.2.2.2.1
        hframe.2.2.2.2.2.2 rfl
  | occupied socketFd index hfree hvalid hallow =>
      have hnoted : ChatOrder (w.observe
          (.accepted w.connections socketFd)) := by
        refine horder.quiet _ ?_ rfl rfl rfl fun _ => .refl _
        intro connection
        exact ⟨rfl, rfl, by simp [Obs.joins], by simp [Obs.leaves]⟩
      exact hnoted.occupied hfree rfl rfl
        (occupySlot_clients (w.greeted socketFd) index w.connections
          socketFd) rfl rfl rfl
  | drained index outcomes hactive =>
      refine horder.quiet [.sent (w.connection index) _] ?_ rfl rfl
        rfl ?_
      · intro connection
        exact ⟨rfl, rfl, by simp [Obs.joins], by simp [Obs.leaves]⟩
      · intro other
        exact sameSeat_update w.clients index other _
  | registered database hgrow =>
      exact horder.quiet [] quiet_nil (List.append_nil _).symm rfl rfl
        fun _ => .refl _
  | joined index username userId timestamp timestamp' ack notice hlen buf
      hactive hjoined hunused huser hshort hack henqueue hnotice =>
      exact horder.joined hactive hjoined
        (hsettled.unjoined index hjoined).1 hshort hack hlen henqueue
        hnotice
  | texted index database row timestamp packet hactive hjoined hsaved
      husers hseq hmessages hsender hbody hsentAt hpacket =>
      exact horder.texted database hpacket

end Moves

/-! ## Runs -/

theorem ChatOrder.phase {w : World} (horder : ChatOrder w)
    (connection : ℕ) :
    Waiting connection w.trace ∨
      (∃ index, (w.clients index).active ∧
        w.connection index = connection ∧
        Chatting connection (w.clients index).userId
          (text (w.clients index).username) w.trace) ∨
      Over connection w.trace := by
  by_cases hheld : ∃ index, (w.clients index).active ∧
      w.connection index = connection
  · rcases hheld with ⟨index, hactive, rfl⟩
    cases hjoined : (w.clients index).joined with
    | false => exact Or.inl (horder.waiting index hactive hjoined)
    | true =>
        exact Or.inr (Or.inl ⟨index, hactive, rfl,
          horder.chatting index hactive hjoined⟩)
  · rcases Nat.lt_or_ge connection w.connections with hlt | hge
    · exact Or.inr (Or.inr (horder.ended connection hlt
        fun index hactive hsame => hheld ⟨index, hactive, hsame⟩))
    · exact Or.inl (horder.fresh connection hge)

theorem not_mem_of_noJoin {connection : ℕ} {userId : UInt32}
    {name : List UInt8} {trace : List Obs}
    (hnone : NoJoin connection trace) :
    Obs.joined connection userId name ∉ trace := by
  intro hmem
  have hjoins := hnone _ hmem
  simp [Obs.joins] at hjoins

theorem Segment.joined_mem {connection : ℕ} {userId : UInt32}
    {name : List UInt8} {trace before life rest : List Obs}
    (hsegment : Segment connection userId name trace before life rest) :
    Obs.joined connection userId name ∈ trace := by
  rw [hsegment.split]
  exact List.mem_append_right _ List.mem_cons_self

theorem Segment.unique {connection : ℕ} {userId userId' : UInt32}
    {name name' : List UInt8} {trace before life rest : List Obs}
    (hsegment : Segment connection userId name trace before life rest)
    (hmem : Obs.joined connection userId' name' ∈ trace) :
    userId' = userId ∧ name' = name := by
  have hothers : Obs.joined connection userId' name' ∉
      before ++ (life ++ rest) := not_mem_of_noJoin hsegment.joinsOnce
  rw [hsegment.split, List.mem_append, List.mem_cons] at hmem
  rw [List.mem_append, not_or] at hothers
  rcases hmem with hbefore | hjoined | hafter
  · exact absurd hbefore hothers.1
  · simpa using hjoined
  · exact absurd hafter hothers.2

theorem chatOrder_run (tables : Tables) (listenSocket : NsSocket)
    (errno : Errno) (clock : Clock) (events : List Event) :
    ChatOrder (run World.step (World.boot tables listenSocket errno clock)
      events) :=
  run_boot_invariant
    (fun _ _ hsettled hinv hmove => Move.chatOrder hmove hsettled hinv)
    (chatOrder_boot tables listenSocket errno clock) events

/-- In every run, whoever joined received the ACK and then the log from the
own JOIN notice on, up to now or up to the end of the session; whoever did
not join received nothing. -/
theorem clients_see_one_order (tables : Tables) (listenSocket : NsSocket)
    (errno : Errno) (clock : Clock) (events : List Event) :
    let w := run World.step (World.boot tables listenSocket errno clock)
      events
    (∀ connection userId name,
      .joined connection userId name ∈ w.trace →
      ∃ before life rest,
        Segment connection userId name w.trace before life rest ∧
        (rest = [] ∧ (∃ index, (w.clients index).active ∧
            w.connection index = connection) ∨
          SessionEnd connection rest)) ∧
      ∀ connection, NoJoin connection w.trace →
        chat connection w.trace = [] := by
  intro w
  have horder : ChatOrder w :=
    chatOrder_run tables listenSocket errno clock events
  constructor
  · intro connection userId name hmem
    rcases horder.phase connection with hwaiting |
      ⟨index, hactive, hsame, before, life, hsegment⟩ | hover
    · exact absurd hmem (not_mem_of_noJoin hwaiting.join)
    · rcases hsegment.unique hmem with ⟨rfl, rfl⟩
      exact ⟨before, life, [], hsegment,
        Or.inl ⟨rfl, index, hactive, hsame⟩⟩
    · cases hover with
      | silent hchat hjoin => exact absurd hmem (not_mem_of_noJoin hjoin)
      | ended userId' name' before life rest hsegment hend =>
          rcases hsegment.unique hmem with ⟨rfl, rfl⟩
          exact ⟨before, life, rest, hsegment, Or.inr hend⟩
  · intro connection hnone
    rcases horder.phase connection with hwaiting |
      ⟨index, hactive, hsame, before, life, hsegment⟩ | hover
    · exact hwaiting.nothing
    · exact absurd hsegment.joined_mem (not_mem_of_noJoin hnone)
    · cases hover with
      | silent hchat hjoin => exact hchat
      | ended userId name before life rest hsegment hend =>
          exact absurd hsegment.joined_mem (not_mem_of_noJoin hnone)

end NodeSignal
