import NodeSignal.ChatSegments
import NodeSignal.Notices

/-!
# Departures are announced

What one event adds to the record is a turn of the ledger, unless a client
that has joined leaves silently.  It does so when it sends a packet for which
it is rejected, when its message cannot be stored, and when its buffer
refuses a broadcast.
-/

namespace NodeSignal

open CStrings Runs

/-! ## Broadcasts that everybody accepts -/

/-- The text of the broadcast finds room in the buffer of every recipient. -/
def Roomy (w : World) (excludeIndex : Option SlotIndex)
    (body : List UInt8) : Prop :=
  ∀ other, Recipient excludeIndex other (w.clients other) →
    (w.clients other).sendBuf.Admits
      (nsPacketHeaderSize + (text body).length)

theorem enqueue_iff_admits {type : UInt8} {senderId timestamp : UInt32}
    {body : List UInt8} {packet : NsPacket}
    (hset : nsPacketSet type senderId timestamp (some body) = some packet)
    (buf : NsSendBuf) :
    (∃ next, nsClientEnqueueSend buf
        (wireBuffer packet (nsPacketSet_bodyLen hset)) = some next) ↔
      buf.Admits (nsPacketHeaderSize + (text body).length) := by
  have hlen := nsPacketSet_bodyLen hset
  have hlength : (wireBuffer packet hlen).val.length =
      nsPacketHeaderSize + (text body).length := by
    change (assembleWire packet).length = _
    rw [assembleWire_eq_wire hlen, nsPacketSet_wire_length hset]
  rw [← Option.ne_none_iff_exists', ne_eq, nsClientEnqueueSend_eq_none_iff,
    hlength, not_and_or, not_not, not_not]
  simp only [nsPacketHeaderSize]
  exact or_iff_right (by omega)

def audience (w : World) (excludeIndex : Option SlotIndex) :
    List SlotIndex :=
  (List.finRange nsMaxClients).filter fun index =>
    Recipient excludeIndex index (w.clients index)

theorem flatMap_ite_singleton {α β : Type*} (chosen : α → Prop)
    [DecidablePred chosen] (note : α → β) (items : List α) :
    (items.flatMap fun item => if chosen item then [note item] else []) =
      (items.filter fun item => chosen item).map note := by
  induction items with
  | nil => rfl
  | cons first rest ih =>
      rw [List.flatMap_cons, ih]
      by_cases hfirst : chosen first <;> simp [hfirst]

theorem fanout_accepted {packet : NsPacket}
    (hlen : packet.header.bodyLen.toNat ≤ nsPacketBodyMax)
    {excludeIndex : Option SlotIndex} {w : World}
    (hall : ∀ other, Recipient excludeIndex other (w.clients other) →
      ∃ next, nsClientEnqueueSend (w.clients other).sendBuf
        (wireBuffer packet hlen) = some next) :
    fanout packet hlen excludeIndex w =
      (audience w excludeIndex).map fun index =>
        .enqueued (w.connection index) packet := by
  rw [audience, ← flatMap_ite_singleton, fanout]
  congr 1
  funext index
  unfold broadcastNotes
  split_ifs with hrecipient
  · rcases hall index hrecipient with ⟨next, henqueue⟩
    rw [henqueue]
  · rfl

theorem calm_map_enqueued (w : World) (indices : List SlotIndex)
    (packet : NsPacket) :
    Calm (indices.map fun index => .enqueued (w.connection index) packet) := by
  intro obs hobs
  rcases List.mem_map.mp hobs with ⟨index, -, rfl⟩
  trivial

theorem calm_fanout {packet : NsPacket}
    (hlen : packet.header.bodyLen.toNat ≤ nsPacketBodyMax)
    {excludeIndex : Option SlotIndex} {w : World}
    (hall : ∀ other, Recipient excludeIndex other (w.clients other) →
      ∃ next, nsClientEnqueueSend (w.clients other).sendBuf
        (wireBuffer packet hlen) = some next) :
    Calm (fanout packet hlen excludeIndex w) := by
  rw [fanout_accepted hlen hall]
  exact calm_map_enqueued w _ packet

section Present

variable {w : World}

/-- Those who are present hold a slot. -/
theorem ChatOrder.present_iff (horder : ChatOrder w)
    (hsettled : Settled w) (connection : ℕ) :
    Present connection w.trace ↔
      ∃ index, (w.clients index).joined ∧
        w.connection index = connection := by
  constructor
  · rintro ⟨⟨userId, name, hjoined⟩, hstill⟩
    rcases horder.phase connection with hwaiting |
      ⟨index, hactive, hsame, -⟩ | hover
    · exact absurd hjoined (not_mem_of_noJoin hwaiting.join)
    · refine ⟨index, ?_, hsame⟩
      by_contra hunjoined
      rw [Bool.not_eq_true] at hunjoined
      have hwaiting := horder.waiting index hactive hunjoined
      rw [hsame] at hwaiting
      exact absurd hjoined (not_mem_of_noJoin hwaiting.join)
    · cases hover with
      | silent hchat hjoin => exact absurd hjoined (not_mem_of_noJoin hjoin)
      | ended _ _ before life rest hsegment hend =>
          rw [hsegment.split] at hstill
          cases hend <;> simp at hstill
  · rintro ⟨index, hjoined, rfl⟩
    rcases horder.chatting index (hsettled.active index hjoined) hjoined with
      ⟨before, life, hsegment⟩
    refine ⟨⟨_, _, hsegment.joined_mem⟩, ?_⟩
    intro hgone
    rw [hsegment.split, List.append_nil] at hgone
    have halive := hsegment.alive
    rw [List.mem_append, List.mem_cons] at hgone
    rcases hgone with hgone | hgone | hgone
    · have hleave := halive _ (List.mem_append_left _ hgone)
      simp [Obs.leaves] at hleave
    · exact absurd hgone (by simp)
    · have hleave := halive _ (List.mem_append_right _ hgone)
      simp [Obs.leaves] at hleave

theorem ChatOrder.never_joined (horder : ChatOrder w) {index : SlotIndex}
    (hactive : (w.clients index).active)
    (hjoined : (w.clients index).joined = false) (userId : UInt32)
    (name : List UInt8) :
    .joined (w.connection index) userId name ∉ w.trace :=
  not_mem_of_noJoin (horder.waiting index hactive hjoined).join

theorem isLeaveNotice_of_nsPacketSet {username : List UInt8}
    {userId timestamp : UInt32} {notice : NsPacket}
    (hshort : (text username).length ≤ nsUsernameMax)
    (hnotice : nsPacketSet NsPacketType.leave.code userId timestamp
      (some (leaveText username)) = some notice) :
    IsLeaveNotice notice userId (text username) := by
  rcases nsPacketSet_eq_some hnotice with ⟨-, htype, hsender, -⟩
  exact ⟨htype, hsender,
    payload_around hshort (by decide) (by decide) (by decide) hnotice⟩

/-- A LEAVE notice that everybody accepts is offered to those present. -/
theorem ChatOrder.announced (horder : ChatOrder w) (hsettled : Settled w)
    {index : SlotIndex} (hjoined : (w.clients index).joined)
    (hshort : (text (w.clients index).username).length ≤ nsUsernameMax)
    {timestamp : UInt32} {notice : NsPacket}
    (hnotice : nsPacketSet NsPacketType.leave.code
      (w.clients index).userId timestamp
      (some (leaveText (w.clients index).username)) = some notice) :
    Announced w.trace (w.connection index) (w.clients index).userId
      (text (w.clients index).username) notice
      ((audience w (some index)).map fun other =>
        .enqueued (w.connection other) notice) := by
  have hoffered : ((audience w (some index)).map fun other =>
      Obs.enqueued (w.connection other) notice).filterMap
        (Obs.offered notice) =
      (audience w (some index)).map w.connection := by
    rw [List.filterMap_map, ← List.filterMap_eq_map]
    congr 1
    funext other
    simp [Obs.offered]
  have hrecipient : ∀ other, other ∈ audience w (some index) →
      Recipient (some index) other (w.clients other) := by
    intro other hother
    simpa [audience] using hother
  refine ⟨isLeaveNotice_of_nsPacketSet hshort hnotice, ?_, ?_, ?_⟩
  · rw [broadcasts, List.filterMap_map]
    exact List.filterMap_eq_nil_iff.mpr fun _ _ => rfl
  · rw [hoffered]
    apply List.Nodup.map_on
    · intro left hleft right hright hsame
      exact horder.distinct left right (hrecipient left hleft).1
        (hrecipient right hright).1 hsame
    · exact (List.nodup_finRange _).filter _
  · intro connection
    rw [hoffered, List.mem_map, horder.present_iff hsettled]
    constructor
    · rintro ⟨other, hother, rfl⟩
      rcases hrecipient other hother with ⟨hactive, hjoined', hne⟩
      refine ⟨?_, other, hjoined', rfl⟩
      intro hsame
      rw [horder.distinct other index hactive
        (hsettled.active index hjoined) hsame] at hne
      exact hne rfl
    · rintro ⟨hne, other, hjoined', rfl⟩
      refine ⟨other, ?_, rfl⟩
      have hother : some other ≠ some index := by
        intro hsame
        rw [Option.some.inj hsame] at hne
        exact hne rfl
      simpa [audience, Recipient, hjoined', hsettled.active other hjoined']
        using hother

end Present

/-! ## The condition -/

/-- The LEAVE notice of the client, if it has joined, finds room. -/
def Farewell (w : World) (index : SlotIndex) : Prop :=
  (w.clients index).joined →
    Roomy w (some index) (leaveText (w.clients index).username)

/-- The packet is not one for which a client that has joined is silently
disconnected, and what is broadcast because of it finds room. -/
def HeardPacket (w : World) (index : SlotIndex) (packet : NsPacket)
    (faults : SqliteFaults) : Prop :=
  match NsPacketType.ofCode? packet.header.type with
  | some .join =>
      (w.clients index).joined = false ∧
        ((nsServerJoinValidate w index packet).1 →
          (nsDbGetOrCreateUser w.database faults w.clock
            packet.body).1.isSome →
          Roomy w (some index)
            (joinText (storeUsername (w.clients index).username packet)))
  | some .text =>
      (w.clients index).joined → packet.header.bodyLen.toNat ≠ 0 →
        ∀ displayText,
          nsServerBuildDisplayText (w.clients index) packet
            (nsPacketBodyMax + 1) = some displayText →
          (nsDbInsertMessage w.database faults (w.clients index).userId
            packet.body (nsUnixTimeNow w)).1 ∧
          Roomy w none displayText
  | some .leave => Farewell w index
  | _ => (w.clients index).joined = false

/-- The event makes nobody who has joined leave silently. -/
def Heard (w : World) : Event → Prop
  | .readable index sock faults =>
      let report := nsRecvPacket (w.clients index).socketFd sock
      (w.clients index).active →
        match report.result with
        | .ok packet => HeardPacket w index packet faults
        | .closed => Farewell w index
        | .error =>
            (w.setErrno report.reported).errno.wouldBlock = false →
              Farewell w index
  | .drain index outcomes =>
      (w.clients index).active →
        (nsClientDrainSend outcomes (w.clients index).sendBuf).status ≠ 0 →
          Farewell w index
  | .pollError index => Farewell w index
  | _ => True

/-! ## What an event adds to the ledger -/

def Turns (w after : World) : Prop :=
  ∃ notes, after.trace = w.trace ++ notes ∧ Turn w.trace notes

section Turning

variable {w : World} {index : SlotIndex}

theorem Turns.quiet {after : World} {notes : List Obs}
    (htrace : after.trace = w.trace ++ notes)
    (hquiet : ∀ obs ∈ notes, obs.Calm ∨ ∃ connection,
      obs = .disconnected connection ∧
        ∀ userId name, .joined connection userId name ∉ w.trace) :
    Turns w after :=
  ⟨notes, htrace, .quiet notes hquiet⟩

theorem Turns.calm {after : World} {notes : List Obs}
    (htrace : after.trace = w.trace ++ notes) (hcalm : Calm notes) :
    Turns w after :=
  .quiet htrace fun obs hobs => Or.inl (hcalm obs hobs)

theorem Turns.same {after : World} (htrace : after.trace = w.trace) :
    Turns w after :=
  .calm (htrace.trans (List.append_nil _).symm) calm_nil

/-- Calm notes may come before a turn. -/
theorem Turn.after_calm {trace first notes : List Obs}
    (hfirst : Calm first) (hturn : Turn (trace ++ first) notes) :
    Turn trace (first ++ notes) := by
  cases hturn with
  | quiet _ hquiet =>
      apply Turn.quiet
      intro obs hobs
      rcases List.mem_append.mp hobs with hobs | hobs
      · exact Or.inl (hfirst obs hobs)
      · rcases hquiet obs hobs with hcalm | ⟨connection, hgone, hnever⟩
        · exact Or.inl hcalm
        · refine Or.inr ⟨connection, hgone, fun userId name hjoined => ?_⟩
          exact hnever userId name (List.mem_append_left _ hjoined)
  | starts connection userId name notice early middle rest hearly hmiddle
      hrest hnotice hnew =>
      rw [← List.append_assoc]
      apply Turn.starts connection userId name notice _ middle rest
        (hfirst.append hearly) hmiddle hrest hnotice
      exact fun hgone => hnew (List.mem_append_left _ hgone)
  | ends connection userId name notice early offers rest hearly hoffers
      hrest hjoined hunique hannounced =>
      have hjoined' : .joined connection userId name ∈ trace := by
        rcases List.mem_append.mp hjoined with hjoined | hjoined
        · exact hjoined
        · exact absurd hjoined (hfirst.not_joined _ _ _)
      rw [← List.append_assoc]
      apply Turn.ends connection userId name notice _ offers rest
        (hfirst.append hearly) hoffers hrest hjoined'
      · exact fun userId' name' hother =>
          hunique userId' name' (List.mem_append_left _ hother)
      · refine ⟨hannounced.told, hannounced.once, hannounced.distinct, ?_⟩
        intro other
        rw [hannounced.audience other]
        simp [Present, hfirst.not_joined, hfirst.not_disconnected]

theorem Turns.after_calm {v after : World} {first : List Obs}
    (htrace : v.trace = w.trace ++ first) (hfirst : Calm first)
    (hturns : Turns v after) : Turns w after := by
  rcases hturns with ⟨notes, hafter, hturn⟩
  rw [htrace] at hafter hturn
  exact ⟨first ++ notes, by rw [hafter, List.append_assoc],
    hturn.after_calm hfirst⟩

theorem calm_closingNotes (client : NsClient) (connection : ℕ) :
    Calm (closingNotes client connection) := by
  unfold closingNotes
  split_ifs
  · intro obs hobs
    rw [List.mem_singleton.mp hobs]
    trivial
  · exact calm_nil

theorem calm_nsServerSendError (w : World) (index : SlotIndex)
    (message : String) :
    ∃ notes, (nsServerSendError w index message).trace = w.trace ++ notes ∧
      Calm notes := by
  rcases nsServerSendError_notes w index message with
    ⟨notes, htrace, hnotes⟩
  refine ⟨notes, htrace, fun obs hobs => ?_⟩
  rcases hnotes obs hobs with ⟨packet, -, -, rfl | rfl⟩
  · trivial
  · trivial

theorem Turns.sendError (w : World) (index : SlotIndex)
    (message : String) : Turns w (nsServerSendError w index message) := by
  rcases calm_nsServerSendError w index message with
    ⟨notes, htrace, hcalm⟩
  exact .calm htrace hcalm

/-! ## Regular states -/

/-- What is known of every reachable state. -/
structure Regular (w : World) : Prop where
  settled : Settled w
  order : ChatOrder w
  short : ∀ index,
    (text (w.clients index).username).length ≤ nsUsernameMax

theorem lasting_short : Lasting fun client =>
    (text client.username).length ≤ nsUsernameMax := by
  have hreset : (text NsClient.reset.username).length ≤ nsUsernameMax := by
    decide
  exact ⟨hreset, fun _ _ => hreset, fun _ _ hgood => hgood,
    fun _ _ _ hshort _ => hshort⟩

theorem Regular.moves {w' : World} (hregular : Regular w)
    (hmoves : Moves anySocket w w') : Regular w' := by
  induction hmoves with
  | refl => exact hregular
  | tail _ hmove ih =>
      exact ⟨hmove.settled ih.settled,
        hmove.chatOrder ih.settled ih.order,
        hmove.lasting lasting_short ih.short⟩

theorem regular_boot (tables : Tables) (listenSocket : NsSocket)
    (errno : Errno) (clock : Clock) :
    Regular (World.boot tables listenSocket errno clock) :=
  ⟨settled_boot _ _ _ _, chatOrder_boot _ _ _ _,
    fun _ => lasting_short.reset⟩

theorem regular_run (tables : Tables) (listenSocket : NsSocket)
    (errno : Errno) (clock : Clock) (events : List Event) :
    Regular (run World.step (World.boot tables listenSocket errno clock)
      events) :=
  (regular_boot tables listenSocket errno clock).moves
    (run_moves (settled_boot tables listenSocket errno clock)
      (along_of_forall admitted_anySocket _ events))

/-! ## Disconnecting -/

/-- A client that has not joined may be disconnected in any way. -/
theorem Regular.dropped (hregular : Regular w)
    (hactive : (w.clients index).active)
    (hjoined : (w.clients index).joined = false) {v : World}
    {first : List Obs} (hfirst : Calm first)
    (htrace : v.trace = w.trace ++ first)
    (hconnection : v.connection = w.connection) :
    Turns w (v.dropped index) := by
  have hafter : (v.dropped index).trace =
      w.trace ++ (first ++ .disconnected (w.connection index) ::
        closingNotes (v.clients index) (w.connection index)) := by
    rw [World.dropped, releaseSlot_trace]
    simp [World.observe, htrace, hconnection]
  apply Turns.quiet hafter
  intro obs hobs
  rcases List.mem_append.mp hobs with hobs | hobs
  · exact Or.inl (hfirst obs hobs)
  · rcases List.mem_cons.mp hobs with rfl | hobs
    · exact Or.inr ⟨_, rfl, hregular.order.never_joined hactive hjoined⟩
    · exact Or.inl (calm_closingNotes _ _ obs hobs)

theorem World.departed_trace (w : World) (index : SlotIndex)
    {notice : NsPacket}
    (hlen : notice.header.bodyLen.toNat ≤ nsPacketBodyMax) :
    ∃ client connection, (w.departed index notice).trace =
      w.trace ++ (.disconnected (w.connection index) ::
        .broadcast notice :: (fanout notice hlen (some index) w ++
          closingNotes client connection)) := by
  rw [World.departed, releaseSlot_trace, nsServerBroadcast_trace notice hlen]
  generalize nsServerBroadcast _ notice _ = after
  refine ⟨after.clients index, after.connection index, ?_⟩
  simp only [World.observe, List.append_assoc, List.cons_append,
    List.nil_append]
  rfl

theorem Regular.departed (hregular : Regular w)
    (hjoined : (w.clients index).joined) (hfarewell : Farewell w index)
    {timestamp : UInt32} {notice : NsPacket}
    (hnotice : nsPacketSet NsPacketType.leave.code
      (w.clients index).userId timestamp
      (some (leaveText (w.clients index).username)) = some notice) :
    Turns w (w.departed index notice) := by
  have hlen := nsPacketSet_bodyLen hnotice
  have hfan := fanout_accepted hlen fun other hrecipient =>
    (enqueue_iff_admits hnotice _).mpr (hfarewell hjoined other hrecipient)
  rcases w.departed_trace index hlen with ⟨client, connection, htrace⟩
  rw [hfan] at htrace
  rcases hregular.order.chatting index
    (hregular.settled.active index hjoined) hjoined with
    ⟨before, life, hsegment⟩
  exact ⟨_, htrace, .ends _ _ _ notice [] _ _ calm_nil
    (calm_map_enqueued w _ notice) (calm_closingNotes client connection)
    hsegment.joined_mem
    (fun _ _ hother => hsegment.unique hother)
    (hregular.order.announced hregular.settled hjoined
      (hregular.short index) hnotice)⟩

/-- A disconnection is announced if it has to be. -/
theorem Regular.disconnect (hregular : Regular w) {announceLeave : Bool}
    (hannounce : (w.clients index).joined → announceLeave)
    (hfarewell : Farewell w index) :
    Turns w (nsServerDisconnectClient w index announceLeave) := by
  cases hactive : (w.clients index).active with
  | false =>
      rw [nsServerDisconnectClient_inactive _ _ _ hactive]
      exact .same rfl
  | true =>
      cases hjoined : (w.clients index).joined with
      | false =>
          rcases nsServerDisconnectClient_cases hactive announceLeave with
            heq | ⟨hjoined', -⟩
          · rw [heq]
            exact hregular.dropped hactive hjoined calm_nil
              (List.append_nil _).symm rfl
          · rw [hjoined] at hjoined'
            exact absurd hjoined' Bool.false_ne_true
      | true =>
          rw [hannounce hjoined]
          rcases nsServerDisconnectClient_announced hactive hjoined with
            ⟨notice, hnotice, heq⟩
          have hticked : Regular { w with clock := w.clock.rest } :=
            hregular.moves (.single (.clock w w.clock.rest))
          rw [heq]
          exact hticked.departed hjoined hfarewell hnotice

theorem nsServerSendError_frame (w : World) (index : SlotIndex)
    (message : String) (other : SlotIndex) :
    ((nsServerSendError w index message).clients other).active =
        (w.clients other).active ∧
      (nsServerSendError w index message).connection = w.connection := by
  rcases nsServerSendError_cases w index message with
    heq | heq | ⟨packet, hset, heq⟩
  · rw [heq]
    exact ⟨rfl, rfl⟩
  · rw [heq]
    exact ⟨rfl, rfl⟩
  · rcases w.tick.answered_frame index (nsPacketSet_bodyLen hset) with
      ⟨-, hconnection, -, buf, hclients⟩
    rw [heq, hclients, hconnection]
    by_cases hother : other = index
    · subst hother
      rw [Function.update_self]
      exact ⟨rfl, rfl⟩
    · rw [Function.update_of_ne hother]
      exact ⟨rfl, rfl⟩

/-- A client that has not joined is disconnected after a rejection. -/
theorem Regular.reject (hregular : Regular w)
    (hactive : (w.clients index).active)
    (hjoined : (w.clients index).joined = false) {before : World}
    (hprepared : Prepared w before) (message : String) :
    Turns w (nsServerDisconnectClient
      (nsServerSendError before index message) index false) := by
  have hframe := nsServerSendError_frame before index message index
  rcases calm_nsServerSendError before index message with
    ⟨notes, hnotes, hcalm⟩
  have hactive' : ((nsServerSendError before index message).clients
      index).active := by
    rw [hframe.1, hprepared.clients]
    exact hactive
  rw [nsServerDisconnectClient_false _ _ hactive']
  exact hregular.dropped hactive hjoined hcalm
    (by rw [hnotes, hprepared.trace]) (hframe.2.trans hprepared.connection)

/-! ## Handlers -/

/-- A handler that rejects the client has it disconnected before it joined,
and any other handler makes a turn. -/
def HandlerTurns (w : World) (index : SlotIndex)
    (handled : NsHandle × World) : Prop :=
  handled.1 = .ok ∧ Turns w handled.2 ∨
    handled.1 = .disconnect ∧
      (w.clients index).joined = false ∧
      ∃ before message, Prepared w before ∧
        handled.2 = nsServerSendError before index message

theorem HandlerTurns.rejected {before : World}
    (hjoined : (w.clients index).joined = false)
    (hprepared : Prepared w before) (message : String) :
    HandlerTurns w index
      (.disconnect, nsServerSendError before index message) :=
  Or.inr ⟨rfl, hjoined, before, message, hprepared, rfl⟩

theorem HandlerTurns.concluded {handled : NsHandle × World}
    (hhandled : HandlerTurns w index handled) (hregular : Regular w)
    (hactive : (w.clients index).active) :
    Turns w
      (if handled.1 ≠ .ok then
        nsServerDisconnectClient handled.2 index false
      else handled.2) := by
  rcases hhandled with ⟨hok, hturns⟩ |
    ⟨hrejected, hjoined, before, message, hprepared, heq⟩
  · rw [if_neg (not_not.mpr hok)]
    exact hturns
  · rw [hrejected, if_pos (by decide), heq]
    exact hregular.reject hactive hjoined hprepared message

/-- The JOIN notice finds room in the buffer of the newcomer, and in the
others if they have room. -/
theorem Regular.welcome (hregular : Regular w)
    (hactive : (w.clients index).active)
    (hjoined : (w.clients index).joined = false) (userId : UInt32)
    {username : List UInt8}
    (hshort : (text username).length ≤ nsUsernameMax)
    (hroomy : Roomy w (some index) (joinText username)) :
    HandlerTurns w index (welcomeClient w index userId username) := by
  rcases welcomeClient_eq (hregular.settled.unjoined index hjoined).1 userId
    username with
    ⟨_, _, ack, notice, hlen, buf, hack, henqueue, hnotice, hwelcome⟩
  rw [hwelcome]
  refine Or.inl ⟨rfl, ?_⟩
  have hlen' := nsPacketSet_bodyLen hnotice
  have hseated := seated_appended { w with clock := w.clock.rest.rest }
    index userId username ack buf
  dsimp only at hseated
  generalize (World.seated { w with clock := w.clock.rest.rest } index
    userId username).appended index ack buf = v at hseated ⊢
  rcases hseated with ⟨hclients, -, -, htrace⟩
  have hall : ∀ other, Recipient none other (v.clients other) →
      ∃ next, nsClientEnqueueSend (v.clients other).sendBuf
        (wireBuffer notice hlen') = some next := by
    intro other hrecipient
    by_cases hother : other = index
    · subst hother
      rw [hclients, Function.update_self]
      exact nsClientEnqueueSend_second henqueue (wireBuffer notice hlen')
    · rw [hclients, Function.update_of_ne hother] at hrecipient ⊢
      apply (enqueue_iff_admits hnotice _).mpr
      exact hroomy other ⟨hrecipient.1, hrecipient.2.1, by simpa using hother⟩
  have hafter : (nsServerBroadcast v notice none).trace = w.trace ++
      ([] ++ .joined (w.connection index) userId (text username) ::
        ([.enqueued (w.connection index) ack] ++ .broadcast notice ::
          (audience v none).map fun other =>
            .enqueued (v.connection other) notice)) := by
    rw [nsServerBroadcast_trace notice hlen', fanout_accepted hlen' hall,
      htrace]
    simp
  have hnew := (hregular.order.waiting index hactive hjoined).leave
  refine ⟨_, hafter, .starts _ _ _ notice [] _ _ calm_nil ?_
    (calm_map_enqueued v _ notice)
    (isJoinNotice_of_nsPacketSet hshort hnotice) ?_⟩
  · simp [Calm, Obs.Calm]
  · intro hgone
    have hleave := hnew _ hgone
    simp [Obs.leaves] at hleave

theorem HandlerTurns.of_prepared {handled : NsHandle × World}
    {database : NsDatabase} {clock : Clock}
    (hhandled : HandlerTurns
      { w with database := database, clock := clock } index handled) :
    HandlerTurns w index handled := by
  rcases hhandled with hok |
    ⟨hrejected, hjoined, _, message, ⟨database', clock', rfl⟩, heq⟩
  · exact Or.inl hok
  · exact Or.inr ⟨hrejected, hjoined, _, message, ⟨database', clock', rfl⟩,
      heq⟩

theorem Regular.handleJoin (hregular : Regular w)
    (hactive : (w.clients index).active)
    (hjoined : (w.clients index).joined = false) {packet : NsPacket}
    (hcanonical : packet.Canonical) (faults : SqliteFaults)
    (hroomy : (nsServerJoinValidate w index packet).1 →
      (nsDbGetOrCreateUser w.database faults w.clock packet.body).1.isSome →
      Roomy w (some index)
        (joinText (storeUsername (w.clients index).username packet))) :
    HandlerTurns w index (nsServerHandleJoin w index packet faults) := by
  have hcases := nsServerHandleJoin_cases w index packet faults
  generalize nsServerHandleJoin w index packet faults = handled at *
  cases hcases with
  | refused message hrefused hfits =>
      exact .rejected hjoined ⟨_, _, rfl⟩ message
  | unregistered hvalid hunknown => exact .rejected hjoined ⟨_, _, rfl⟩ _
  | welcomed userId hvalid hknown =>
      have hregistered : Regular (w.registered faults packet.body) :=
        hregular.moves (moves_registered hregular.settled faults packet.body)
      have hlen := (nsServerJoinValidate_eq_true.mp hvalid).2.2.1
      have husername := text_storeUsername hcanonical hlen
      rw [← (hregular.settled.unjoined index hjoined).2] at husername
      have hshort : (text (storeUsername (w.clients index).username
          packet)).length ≤ nsUsernameMax := by
        rw [husername]
        exact text_username_length_le hcanonical hlen
      exact (hregistered.welcome hactive hjoined userId hshort
        (hroomy hvalid (by rw [hknown]; rfl))).of_prepared

theorem Regular.handleText (packet : NsPacket) (faults : SqliteFaults)
    (hheard : (w.clients index).joined → packet.header.bodyLen.toNat ≠ 0 →
      ∀ displayText,
        nsServerBuildDisplayText (w.clients index) packet
          (nsPacketBodyMax + 1) = some displayText →
        (nsDbInsertMessage w.database faults (w.clients index).userId
          packet.body (nsUnixTimeNow w)).1 ∧
        Roomy w none displayText) :
    HandlerTurns w index (nsServerHandleText w index packet faults) := by
  have hanswer : ∀ message,
      Turns w (nsServerSendError w.tick index message) :=
    fun message => Turns.sendError w.tick index message
  have hcases := nsServerHandleText_cases w index packet faults
  generalize nsServerHandleText w index packet faults = handled at *
  cases hcases with
  | unjoined hjoined => exact .rejected hjoined ⟨_, _, rfl⟩ _
  | empty hjoined hempty =>
      refine Or.inl ⟨rfl, ?_⟩
      dsimp only
      exact hanswer _
  | long hjoined hlen hlong =>
      refine Or.inl ⟨rfl, ?_⟩
      dsimp only
      exact hanswer _
  | unstored displayText hjoined hlen hdisplay hstored =>
      have hinserted := (hheard hjoined hlen displayText hdisplay).1
      rw [hstored] at hinserted
      exact absurd hinserted Bool.false_ne_true
  | broadcast displayText notice hjoined hlen hdisplay hstored hnotice =>
      have hroomy := (hheard hjoined hlen displayText hdisplay).2
      have hlen' := nsPacketSet_bodyLen hnotice
      refine Or.inl ⟨rfl, .calm (nsServerBroadcast_trace notice hlen' none
        (w.stored index faults packet.body)) ?_⟩
      intro obs hobs
      rcases List.mem_cons.mp hobs with rfl | hobs
      · have htype := (nsPacketSet_eq_some hnotice).2.1
        simp [Obs.Calm, htype, NsPacketType.code]
      · exact calm_fanout hlen' (fun other hrecipient =>
          (enqueue_iff_admits hnotice _).mpr
            (hroomy other hrecipient)) obs hobs

theorem Regular.dispatch (hregular : Regular w)
    (hactive : (w.clients index).active) {packet : NsPacket}
    (hcanonical : packet.Canonical) (faults : SqliteFaults)
    (hheard : HeardPacket w index packet faults) :
    Turns w (dispatchPacket w index packet faults) := by
  unfold HeardPacket at hheard
  unfold dispatchPacket
  cases htype : NsPacketType.ofCode? packet.header.type with
  | none =>
      simp only [htype] at hheard ⊢
      exact hregular.reject hactive hheard ⟨_, _, rfl⟩ _
  | some type =>
      cases type with
      | join =>
          simp only [htype] at hheard ⊢
          exact (hregular.handleJoin hactive hheard.1 hcanonical faults
            hheard.2).concluded hregular hactive
      | text =>
          simp only [htype] at hheard ⊢
          exact (Regular.handleText packet faults hheard).concluded hregular
            hactive
      | leave =>
          simp only [htype] at hheard ⊢
          exact hregular.disconnect (fun _ => rfl) hheard
      | ack | error =>
          simp only [htype] at hheard ⊢
          exact hregular.reject hactive hheard ⟨_, _, rfl⟩ _

/-! ## Events -/

theorem heardPacket_observed (w : World) (index : SlotIndex)
    (packet : NsPacket) (faults : SqliteFaults) (reported : Option Errno)
    (obs : Obs) :
    HeardPacket ((w.setErrno reported).observe obs) index packet faults ↔
      HeardPacket w index packet faults := by
  generalize hv : (w.setErrno reported).observe obs = v
  have hclients : v.clients = w.clients := by rw [← hv]; rfl
  have hdatabase : v.database = w.database := by rw [← hv]; rfl
  have hclock : v.clock = w.clock := by rw [← hv]; rfl
  have hvalid : (nsServerJoinValidate v index packet).1 =
      (nsServerJoinValidate w index packet).1 :=
    nsServerJoinValidate_congr hclients
  unfold HeardPacket
  simp only [Farewell, Roomy, nsUnixTimeNow, hvalid, hclients, hdatabase,
    hclock]

/-- What was sent makes no difference for those who hear the notice. -/
theorem farewell_flushed (w : World) (index : SlotIndex)
    (outcomes : List SendOutcome) :
    Farewell (nsServerUpdatePollEvents (w.flushed index outcomes) index)
        index ↔
      Farewell w index := by
  have hclients : (nsServerUpdatePollEvents (w.flushed index outcomes)
      index).clients = Function.update w.clients index
        { w.clients index with
          sendBuf := (nsClientDrainSend outcomes
            (w.clients index).sendBuf).buf } :=
    w.flushed_clients index outcomes
  unfold Farewell Roomy
  simp only [hclients, Function.update_self]
  apply imp_congr_right
  intro _
  apply forall_congr'
  intro other
  by_cases hother : other = index
  · subst hother
    simp [Recipient]
  · rw [Function.update_of_ne hother]

theorem Regular.readable (hregular : Regular w)
    (hactive : (w.clients index).active) {sock : RecvSocket}
    {faults : SqliteFaults} (hheard : Heard w (.readable index sock faults)) :
    Turns w (nsServerHandleClientReadable w index sock faults).1 := by
  have hread := hheard hactive
  have herrno : ∀ reported, Regular (w.setErrno reported) := fun reported =>
    hregular.moves (.single (.errno w (reported.getD w.errno)))
  unfold nsServerHandleClientReadable
  simp only
  cases hresult : (nsRecvPacket (w.clients index).socketFd sock).result with
  | closed =>
      simp only [hresult] at hread ⊢
      exact (herrno _).disconnect (fun hjoined => hjoined) hread
  | error =>
      simp only [hresult] at hread ⊢
      split
      · exact .same rfl
      · next hblock =>
          exact (herrno _).disconnect (fun hjoined => hjoined)
            (hread (by simpa using hblock))
  | ok packet =>
      simp only [hresult] at hread ⊢
      have hdispatched : Regular ((w.setErrno (nsRecvPacket
          (w.clients index).socketFd sock).reported).observe
            (.dispatched (w.connection index) packet)) :=
        (herrno _).moves (.single (.dispatched _ index packet hactive))
      have hcalm : Calm [.dispatched (w.connection index) packet] := by
        simp [Calm, Obs.Calm]
      exact .after_calm rfl hcalm (hdispatched.dispatch hactive
        (nsRecvPacket_ok_canonical hresult) faults
        ((heardPacket_observed w index packet faults _ _).mpr hread))

theorem Regular.drain (hregular : Regular w)
    (hactive : (w.clients index).active) {outcomes : List SendOutcome}
    (hheard : Heard w (.drain index outcomes)) :
    Turns w (drainSlot w index outcomes).1 := by
  have hcalm : Calm [.sent (w.connection index) (nsClientDrainSend outcomes
      (w.clients index).sendBuf).sent] := by
    simp [Calm, Obs.Calm]
  have hdrained : Regular
      (nsServerUpdatePollEvents (w.flushed index outcomes) index) :=
    hregular.moves (.single (.drained w index outcomes hactive))
  rcases drainSlot_cases hactive outcomes with ⟨hfailed, heq⟩ | ⟨-, heq⟩
  · have hfarewell := (farewell_flushed w index outcomes).mpr
      (hheard hactive hfailed)
    rw [heq]
    exact .after_calm rfl hcalm
      (hdrained.disconnect (fun hjoined => hjoined) hfarewell)
  · rw [heq]
    exact .calm rfl hcalm

theorem Turns.books {after : World} (hturns : Turns w after)
    (hbooks : Books w.trace) : Books after.trace := by
  rcases hturns with ⟨notes, htrace, hturn⟩
  rw [htrace]
  exact hbooks.turn hturn

theorem Turns.accept (w : World) (outcome : AcceptOutcome) :
    Turns w (nsServerAcceptClient w outcome) := by
  rcases nsServerAcceptClient_notes w outcome with ⟨notes, htrace, hnotes⟩
  refine .calm htrace fun obs hobs => ?_
  rcases hnotes obs hobs with
    ⟨connection, socketFd, rfl | ⟨bytes, rfl⟩ | rfl⟩
  · trivial
  · trivial
  · trivial

theorem Regular.sweep_books (hregular : Regular w)
    (hbooks : Books w.trace) :
    Books (nsServerReapAuthTimeouts w).trace := by
  have hticked : Regular w.tick :=
    hregular.moves (.single (.clock w w.clock.rest))
  have hfold : Regular (nsServerReapAuthTimeouts w) ∧
      Books (nsServerReapAuthTimeouts w).trace := by
    unfold nsServerReapAuthTimeouts
    apply List.foldlRecOn (motive := fun v : World =>
      Regular v ∧ Books v.trace) _ _ ⟨hticked, hbooks⟩
    rintro v ⟨hv, hvbooks⟩ other _
    unfold reapVisit
    simp only
    split
    · exact ⟨hv, hvbooks⟩
    · next hidle =>
        simp only [Bool.or_eq_true, Bool.not_eq_true', not_or,
          Bool.not_eq_false, Bool.not_eq_true] at hidle
        split
        · exact ⟨hv.moves (moves_reject hidle.1 (by decide)),
            (hv.reject hidle.1 hidle.2 ⟨_, _, rfl⟩ _).books hvbooks⟩
        · exact ⟨hv, hvbooks⟩
  exact hfold.2

theorem Regular.step_books (hregular : Regular w) {event : Event}
    (hheard : Heard w event) (hbooks : Books w.trace) :
    Books (w.step event).trace := by
  cases event with
  | poll revents => exact hbooks
  | sweep => exact hregular.sweep_books hbooks
  | accept outcome => exact (Turns.accept w outcome).books hbooks
  | drain index outcomes =>
      simp only [World.step]
      split
      · next hactive => exact (hregular.drain hactive hheard).books hbooks
      · exact hbooks
  | readable index sock faults =>
      simp only [World.step]
      split
      · next hactive => exact (hregular.readable hactive hheard).books hbooks
      · exact hbooks
  | pollError index =>
      exact (hregular.disconnect (fun hjoined => hjoined) hheard).books hbooks

end Turning

end NodeSignal
