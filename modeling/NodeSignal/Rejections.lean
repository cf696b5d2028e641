import NodeSignal.ChatSegments
import NodeSignal.History

/-!
# What becomes of a rejection

`ns_server_send_error` puts an ERROR packet into the send buffer of the
client.  Most handlers then disconnect the client, which resets the buffer
before anything of it was sent.  The packet survives exactly in the two
rejections that keep the connection, if the buffer has room.
-/

namespace NodeSignal

open CStrings Runs

/-! ## The fate of an ERROR packet -/

def Obs.handed (connection : ℕ) : Obs → List UInt8
  | .sent sender bytes => if sender = connection then bytes else []
  | _ => []

/-- The bytes given to `send()` on the connection. -/
def handedOver (connection : ℕ) (notes : List Obs) : List UInt8 :=
  notes.flatMap (Obs.handed connection)

@[simp] theorem handedOver_cons (connection : ℕ) (obs : Obs)
    (rest : List Obs) :
    handedOver connection (obs :: rest) =
      obs.handed connection ++ handedOver connection rest :=
  List.flatMap_cons

@[simp] theorem handedOver_append (connection : ℕ)
    (before after : List Obs) :
    handedOver connection (before ++ after) =
      handedOver connection before ++ handedOver connection after :=
  List.flatMap_append

/-- What happened before the connection was closed. -/
def untilClosed (connection : ℕ) (notes : List Obs) : List Obs :=
  notes.takeWhile fun
    | .closed closing _ => closing ≠ connection
    | _ => true

/-- After the rejection the packet was given to `send()` before the socket
was closed, or it was queued and waits in the buffer of the open
connection. -/
def Delivered (after : World) (connection : ℕ) (packet : NsPacket)
    (notes : List Obs) : Prop :=
  ∃ earlier later, notes = earlier ++ .rejected connection packet :: later ∧
    (packet.wire <:+: handedOver connection (untilClosed connection later) ∨
      .enqueued connection packet ∈ later ∧
        ∃ index, (after.clients index).active ∧
          after.connection index = connection ∧
          packet.wire <:+ (after.clients index).sendBuf.queued)

/-- What an event adds to the record. -/
def World.stepNotes (w : World) (event : Event) : List Obs :=
  (w.step event).trace.drop w.trace.length

/-- The event makes the server reject a TEXT for being empty or too long,
and the buffer of the client admits the ERROR packet. -/
def Spares (w : World) (connection : ℕ) : Event → Prop
  | .readable index sock _ =>
      w.connection index = connection ∧
        ∃ packet message, scan sock.pending = .packet packet ∧
          packet.header.type = NsPacketType.text.code ∧
          Spared (w.clients index) packet message ∧
          (w.clients index).sendBuf.Admits
            (nsPacketHeaderSize + (literal message).length)
  | _ => False

section Notes

variable {connection : ℕ} {notes : List Obs}

theorem handedOver_untilClosed (hunsent : handedOver connection notes = []) :
    handedOver connection (untilClosed connection notes) = [] := by
  rw [handedOver, List.flatMap_eq_nil_iff] at hunsent ⊢
  intro obs hobs
  exact hunsent obs (List.takeWhile_subset _ hobs)

theorem unsent_of_split {earlier later : List Obs} {obs : Obs}
    (hunsent : handedOver connection (earlier ++ obs :: later) = []) :
    handedOver connection later = [] := by
  rw [handedOver_append, handedOver_cons, List.append_eq_nil_iff,
    List.append_eq_nil_iff] at hunsent
  exact hunsent.2.2

theorem wire_not_handed (packet : NsPacket)
    (hunsent : handedOver connection notes = []) :
    ¬ packet.wire <:+: handedOver connection
      (untilClosed connection notes) := by
  rw [handedOver_untilClosed hunsent, List.infix_nil]
  exact List.cons_ne_nil _ _

end Notes

/-! ## Rejections that end the connection -/

/-- The connections that are rejected on the way are not open afterwards,
and nothing is sent. -/
structure Expels (w after : World) (notes : List Obs) : Prop where
  trace : after.trace = w.trace ++ notes
  connection : after.connection = w.connection
  shrinks : ∀ index, (after.clients index).active →
    (w.clients index).active
  unsent : ∀ connection, handedOver connection notes = []
  gone : ∀ connection packet, .rejected connection packet ∈ notes →
    ∀ index, (after.clients index).active →
      after.connection index ≠ connection

def Distinct (w : World) : Prop :=
  ∀ left right, (w.clients left).active → (w.clients right).active →
    w.connection left = w.connection right → left = right

section Expels

variable {w middle after : World} {notes notes' : List Obs}

theorem Expels.refl (w : World) : Expels w w [] := by
  constructor
  · exact (List.append_nil _).symm
  · rfl
  · exact fun _ hactive => hactive
  · exact fun _ => rfl
  · intro connection packet hmem
    exact absurd hmem List.not_mem_nil

theorem Expels.trans (hfirst : Expels w middle notes)
    (hsecond : Expels middle after notes') :
    Expels w after (notes ++ notes') := by
  constructor
  · rw [hsecond.trace, hfirst.trace, List.append_assoc]
  · rw [hsecond.connection, hfirst.connection]
  · exact fun index hactive =>
      hfirst.shrinks index (hsecond.shrinks index hactive)
  · intro connection
    rw [handedOver_append, hfirst.unsent, hsecond.unsent, List.append_nil]
  · intro connection packet hmem index hactive
    rcases List.mem_append.mp hmem with hleft | hright
    · rw [hsecond.connection]
      exact hfirst.gone connection packet hleft index
        (hsecond.shrinks index hactive)
    · exact hsecond.gone connection packet hright index hactive

theorem Expels.distinct (hexpels : Expels w after notes)
    (hdistinct : Distinct w) : Distinct after := by
  intro left right hleft hright hsame
  rw [hexpels.connection] at hsame
  exact hdistinct left right (hexpels.shrinks left hleft)
    (hexpels.shrinks right hright) hsame

theorem Expels.not_delivered (hexpels : Expels w after notes)
    {connection : ℕ} {packet : NsPacket}
    (hmem : .rejected connection packet ∈ notes) :
    ¬ Delivered after connection packet notes := by
  intro hdelivered
  rcases hdelivered with ⟨earlier, later, hsplit, hsent | hqueued⟩
  · apply wire_not_handed packet _ hsent
    have hunsent := hexpels.unsent connection
    rw [hsplit] at hunsent
    exact unsent_of_split hunsent
  · rcases hqueued.2 with ⟨index, hactive, hsame, -⟩
    exact hexpels.gone connection packet hmem index hactive hsame

theorem unsent_closingNotes (connection : ℕ) (client : NsClient)
    (connection' : ℕ) :
    handedOver connection (closingNotes client connection') = [] := by
  unfold closingNotes
  split_ifs <;> rfl

/-- What a rejection adds to the record. -/
theorem answered_record (w : World) (index : SlotIndex) {packet : NsPacket}
    (hlen : packet.header.bodyLen.toNat ≤ nsPacketBodyMax) :
    ∃ queued, (w.answered index packet).trace =
        w.trace ++ .rejected (w.connection index) packet :: queued ∧
      (queued = [] ∨
        queued = [.enqueued (w.connection index) packet]) := by
  rcases w.answered_trace index hlen with htrace | htrace
  · exact ⟨[], htrace, Or.inl rfl⟩
  · exact ⟨_, htrace, Or.inr rfl⟩

/-- A client that is rejected and disconnected. -/
theorem expels_reject (hdistinct : Distinct w) {index : SlotIndex}
    (hactive : (w.clients index).active) {message : String}
    (hfits : (literal message).length ≤ nsPacketBodyMax) :
    ∃ notes, Expels w
      (nsServerDisconnectClient (nsServerSendError w index message) index
        false) notes := by
  rcases nsServerSendError_eq hactive hfits with ⟨packet, hset, heq⟩
  have hlen := nsPacketSet_bodyLen hset
  have hframe := w.tick.answered_frame index hlen
  have hafter : ((w.tick.answered index packet).clients index).active := by
    rcases hframe.2.2.2 with ⟨buf, hclients⟩
    rw [hclients, Function.update_self]
    exact hactive
  rw [heq, nsServerDisconnectClient_false _ _ hafter]
  change ∃ notes, Expels w ((w.tick.answered index packet).dropped index)
    notes
  have hclients := w.tick.answered_dropped_clients index hlen
  have hconnection : ((w.tick.answered index packet).dropped
      index).connection = w.connection := hframe.2.1
  have hshrinks : ∀ other, (((w.tick.answered index packet).dropped
      index).clients other).active →
        other ≠ index ∧ (w.clients other).active := by
    intro other hother
    rw [hclients] at hother
    by_cases hne : other = index
    · rw [hne, Function.update_self] at hother
      exact absurd hother Bool.false_ne_true
    · rw [Function.update_of_ne hne] at hother
      exact ⟨hne, hother⟩
  have hgone : ∀ other, (((w.tick.answered index packet).dropped
      index).clients other).active →
        w.connection other ≠ w.connection index := by
    intro other hother hsame
    rcases hshrinks other hother with ⟨hne, hactive'⟩
    exact hne (hdistinct other index hactive' hactive hsame)
  rcases answered_record w.tick index hlen with ⟨queued, htrace, hqueued⟩
  refine ⟨.rejected (w.connection index) packet :: (queued ++
    .disconnected (w.connection index) :: closingNotes
      ((w.tick.answered index packet).clients index)
      (w.connection index)), ?_, hconnection, fun other hother =>
        (hshrinks other hother).2, ?_, ?_⟩
  · rw [World.dropped, releaseSlot_trace]
    simp only [World.observe, htrace, hframe.2.1, List.append_assoc]
    rfl
  · intro connection
    rcases hqueued with rfl | rfl
    · exact unsent_closingNotes _ _ _
    · exact unsent_closingNotes _ _ _
  · intro connection packet' hmem other hother
    have hsame : connection = w.connection index := by
      rw [← mem_rejections] at hmem
      rcases hqueued with rfl | rfl
      · simp [Obs.rejection, rejections_closingNotes] at hmem
        exact hmem.1
      · simp [Obs.rejection, rejections_closingNotes] at hmem
        exact hmem.1
    rw [hconnection, hsame]
    exact hgone other hother

/-- What happens besides is not recorded. -/
theorem expels_prepared {before : World} (hprepared : Prepared w before) :
    Expels w before [] := by
  rcases hprepared with ⟨database, clock, rfl⟩
  have hsame := Expels.refl w
  exact ⟨hsame.trace, rfl, hsame.shrinks, hsame.unsent, hsame.gone⟩

theorem expels_reapVisit (hdistinct : Distinct w) (now : ℤ)
    (index : SlotIndex) : ∃ notes, Expels w (reapVisit now w index) notes := by
  unfold reapVisit
  simp only
  split
  · exact ⟨[], .refl w⟩
  · next hidle =>
      split
      · apply expels_reject hdistinct _ (by decide)
        simp only [Bool.or_eq_true, Bool.not_eq_true', not_or,
          Bool.not_eq_false] at hidle
        exact hidle.1
      · exact ⟨[], .refl w⟩

theorem expels_reap (hdistinct : Distinct w) :
    ∃ notes, Expels w (nsServerReapAuthTimeouts w) notes := by
  have hfold : ∀ (indices : List SlotIndex) (v : World), Distinct v →
      ∃ notes, Expels v (indices.foldl (reapVisit (w.clock 0)) v) notes := by
    intro indices
    induction indices with
    | nil => exact fun v _ => ⟨[], .refl v⟩
    | cons first rest ih =>
        intro v hv
        rcases expels_reapVisit hv (w.clock 0) first with ⟨notes, hfirst⟩
        rcases ih _ (hfirst.distinct hv) with ⟨notes', hrest⟩
        exact ⟨notes ++ notes', hfirst.trans hrest⟩
  have htick : Expels w w.tick [] := expels_prepared ⟨_, _, rfl⟩
  rcases hfold (List.finRange nsMaxClients) w.tick
    (htick.distinct hdistinct) with ⟨notes, hrest⟩
  exact ⟨notes, htick.trans hrest⟩

end Expels

/-! ## The rejections of one event -/

theorem rejections_nsServerDisconnectClient (w : World)
    (index : SlotIndex) (announceLeave : Bool) :
    rejections (nsServerDisconnectClient w index announceLeave).trace =
      rejections w.trace := by
  cases hactive : (w.clients index).active with
  | false => rw [nsServerDisconnectClient_inactive _ _ _ hactive]
  | true =>
      rcases nsServerDisconnectClient_cases hactive announceLeave with
        heq | ⟨hjoined, notice, hnotice, heq⟩
      · rw [heq, World.dropped, rejections_release]
        simp [World.observe, Obs.rejection]
      · rw [heq, World.departed, rejections_release,
          rejections_nsServerBroadcast notice (nsPacketSet_bodyLen hnotice)]
        simp [World.observe, Obs.rejection]

/-- What an event does about rejections: it makes none, or all of them end
their connections, or it makes the one that keeps the connection. -/
inductive StepRejects (w : World) (event : Event) : Prop
  | silent (hsilent : rejections (w.step event).trace = rejections w.trace)
  | expels (notes : List Obs) (hexpels : Expels w (w.step event) notes)
      (hspares : ∀ connection, ¬ Spares w connection event)
  | spared (index : SlotIndex) (sock : RecvSocket) (faults : SqliteFaults)
      (packet : NsPacket) (message : String) (before : World)
      (hevent : event = .readable index sock faults)
      (hactive : (w.clients index).active)
      (hscan : scan sock.pending = .packet packet)
      (htype : packet.header.type = NsPacketType.text.code)
      (hspared : Spared (w.clients index) packet message)
      (hbefore : ∃ errno, Prepared
        ({ w with errno := errno }.observe
          (.dispatched (w.connection index) packet)) before)
      (hstep : w.step event = nsServerSendError before index message)

section Step

variable {w : World}

theorem rejections_nsServerAcceptClient (outcome : AcceptOutcome) :
    rejections (nsServerAcceptClient w outcome).trace =
      rejections w.trace := by
  rcases nsServerAcceptClient_notes w outcome with ⟨notes, htrace, hnotes⟩
  have hnone : rejections notes = [] := by
    apply List.filterMap_eq_nil_iff.mpr
    intro obs hobs
    rcases hnotes obs hobs with
      ⟨connection, socketFd, rfl | ⟨bytes, rfl⟩ | rfl⟩ <;> rfl
  rw [htrace, rejections_append, hnone, List.append_nil]

theorem rejections_drainSlot (index : SlotIndex)
    (outcomes : List SendOutcome) :
    rejections (drainSlot w index outcomes).1.trace =
      rejections w.trace := by
  have hflushed : rejections (w.flushed index outcomes).trace =
      rejections w.trace := by
    change rejections (w.trace ++ [_]) = _
    simp [Obs.rejection]
  unfold drainSlot
  simp only
  split
  · rw [rejections_nsServerDisconnectClient, hflushed]
  · exact hflushed

/-- The state in which a received packet is dispatched. -/
def World.dispatching (w : World) (index : SlotIndex) (sock : RecvSocket)
    (packet : NsPacket) : World :=
  (w.setErrno (nsRecvPacket (w.clients index).socketFd sock).reported).observe
    (.dispatched (w.connection index) packet)

theorem nsServerHandleClientReadable_ok {index : SlotIndex}
    {sock : RecvSocket} {packet : NsPacket}
    (hread : (nsRecvPacket (w.clients index).socketFd sock).result =
      .ok packet) (faults : SqliteFaults) :
    (nsServerHandleClientReadable w index sock faults).1 =
      dispatchPacket (w.dispatching index sock packet) index packet
        faults := by
  rw [nsServerHandleClientReadable, hread]
  rfl

theorem expels_dispatching (w : World) (index : SlotIndex)
    (sock : RecvSocket) (packet : NsPacket) :
    Expels w (w.dispatching index sock packet)
      [.dispatched (w.connection index) packet] := by
  constructor
  · rfl
  · rfl
  · exact fun _ hactive => hactive
  · exact fun _ => rfl
  · intro connection packet' hmem
    simp at hmem

/-- What a handler and the disconnection after it do about rejections. -/
theorem Handled.rejects {allow : World → NsSocket → Prop}
    {index : SlotIndex} {spared : String → Prop}
    {handled : NsHandle × World} (hdistinct : Distinct w)
    (hactive : (w.clients index).active)
    (hhandled : Handled allow w index spared handled) :
    let after :=
      if handled.1 ≠ .ok then
        nsServerDisconnectClient handled.2 index false
      else handled.2
    rejections after.trace = rejections w.trace ∨
      (∃ notes, Expels w after notes ∧ ∀ message, ¬ spared message) ∨
      ∃ message before, spared message ∧ Prepared w before ∧
        after = nsServerSendError before index message := by
  cases hhandled with
  | kept after hmoves hsilent => exact Or.inl hsilent
  | rebuked before message hmoves hprepared hjoined hspared hfits =>
      exact Or.inr (Or.inr ⟨message, before, hspared, hprepared, rfl⟩)
  | rejected before message hmoves hprepared hspared hfits =>
      have hbefore := expels_prepared hprepared
      rcases hprepared with ⟨database, clock, rfl⟩
      rcases expels_reject (hbefore.distinct hdistinct) hactive hfits with
        ⟨notes, hnotes⟩
      exact Or.inr (Or.inl ⟨[] ++ notes, hbefore.trans hnotes, hspared⟩)

/-- What the dispatch of a packet does about rejections. -/
theorem dispatchPacket_rejects (hsettled : Settled w)
    (hdistinct : Distinct w) {index : SlotIndex}
    (hactive : (w.clients index).active) {packet : NsPacket}
    (hcanonical : packet.Canonical) (faults : SqliteFaults) :
    let after := dispatchPacket w index packet faults
    rejections after.trace = rejections w.trace ∨
      (∃ notes, Expels w after notes ∧
        ∀ message, packet.header.type = NsPacketType.text.code →
          ¬ Spared (w.clients index) packet message) ∨
      ∃ message before, packet.header.type = NsPacketType.text.code ∧
        Spared (w.clients index) packet message ∧ Prepared w before ∧
        after = nsServerSendError before index message := by
  simp only [dispatchPacket]
  split
  · next hjoin =>
      have hhandled : Handled anySocket w index (fun _ => False)
          (nsServerHandleJoin w index packet faults) :=
        nsServerHandleJoin_handled hsettled hactive hcanonical faults
      rcases hhandled.rejects hdistinct hactive with hsilent |
        ⟨notes, hexpels, -⟩ | ⟨message, before, hnever, -⟩
      · exact Or.inl hsilent
      · refine Or.inr (Or.inl ⟨notes, hexpels, ?_⟩)
        intro message htext
        simp [htext] at hjoin
      · exact hnever.elim
  · next htext =>
      have hcode := NsPacketType.eq_code_of_ofCode? htext
      have hhandled : Handled anySocket w index
          (Spared (w.clients index) packet)
          (nsServerHandleText w index packet faults) :=
        nsServerHandleText_handled hsettled hactive packet faults
      rcases hhandled.rejects hdistinct hactive with hsilent |
        ⟨notes, hexpels, hnone⟩ | ⟨message, before, hspared, hprepared, heq⟩
      · exact Or.inl hsilent
      · exact Or.inr (Or.inl ⟨notes, hexpels, fun message _ =>
          hnone message⟩)
      · exact Or.inr (Or.inr ⟨message, before, hcode, hspared, hprepared,
          heq⟩)
  · exact Or.inl (rejections_nsServerDisconnectClient w index true)
  · next _ hother _ =>
      have hfits : (literal "Unsupported packet type.").length ≤
          nsPacketBodyMax := by
        decide
      rcases expels_reject hdistinct hactive hfits with ⟨notes, hexpels⟩
      refine Or.inr (Or.inl ⟨notes, hexpels, ?_⟩)
      intro message htext
      simp [htext] at hother

theorem nsServerHandleClientReadable_rejects (hsettled : Settled w)
    (hdistinct : Distinct w) {index : SlotIndex}
    (hactive : (w.clients index).active) (sock : RecvSocket)
    (faults : SqliteFaults) :
    StepRejects w (.readable index sock faults) := by
  have hstep : w.step (.readable index sock faults) =
      (nsServerHandleClientReadable w index sock faults).1 :=
    if_pos hactive
  cases hresult : (nsRecvPacket (w.clients index).socketFd sock).result with
  | closed =>
      apply StepRejects.silent
      rw [hstep, nsServerHandleClientReadable, hresult]
      exact rejections_nsServerDisconnectClient _ index _
  | error =>
      apply StepRejects.silent
      rw [hstep, nsServerHandleClientReadable, hresult]
      dsimp only
      split
      · rfl
      · exact rejections_nsServerDisconnectClient _ index _
  | ok packet =>
      have hscan := scan_of_nsRecvPacket_ok hresult
      have hexpels := expels_dispatching w index sock packet
      have hsettled' : Settled (w.dispatching index sock packet) :=
        hsettled.congr rfl rfl
      rw [nsServerHandleClientReadable_ok hresult] at hstep
      rcases dispatchPacket_rejects hsettled' (hexpels.distinct hdistinct)
        hactive (nsRecvPacket_ok_canonical hresult) faults with hsilent |
          ⟨notes, hnotes, hnone⟩ |
          ⟨message, before, htype, hspared, hprepared, heq⟩
      · apply StepRejects.silent
        rw [hstep, hsilent, hexpels.trace, rejections_append]
        simp [Obs.rejection]
      · apply StepRejects.expels _ (hstep ▸ hexpels.trans hnotes)
        intro connection hspares
        rcases hspares with
          ⟨-, packet', message, hscan', htype, hspared, -⟩
        rw [hscan, Scan.packet.injEq] at hscan'
        subst hscan'
        exact hnone message htype hspared
      · exact .spared index sock faults packet message before rfl hactive
          hscan htype hspared ⟨_, hprepared⟩ (hstep.trans heq)

theorem step_rejects (hsettled : Settled w) (hdistinct : Distinct w)
    (event : Event) : StepRejects w event := by
  cases event with
  | poll revents => exact .silent rfl
  | sweep =>
      rcases expels_reap hdistinct with ⟨notes, hexpels⟩
      exact .expels notes hexpels fun _ => id
  | accept outcome => exact .silent (rejections_nsServerAcceptClient outcome)
  | drain index outcomes =>
      apply StepRejects.silent
      change rejections (if _ then _ else _ : World).trace = _
      split
      · exact rejections_drainSlot index outcomes
      · rfl
  | readable index sock faults =>
      by_cases hactive : (w.clients index).active
      · exact nsServerHandleClientReadable_rejects hsettled hdistinct
          hactive sock faults
      · apply StepRejects.silent
        have hstep : w.step (.readable index sock faults) = w :=
          if_neg hactive
        rw [hstep]
  | pollError index =>
      exact .silent (rejections_nsServerDisconnectClient w index _)

theorem World.stepNotes_eq {event : Event} {notes : List Obs}
    (htrace : (w.step event).trace = w.trace ++ notes) :
    w.stepNotes event = notes := by
  rw [World.stepNotes, htrace, List.drop_left]

theorem step_trace (hsettled : Settled w) (event : Event) :
    (w.step event).trace = w.trace ++ w.stepNotes event := by
  rcases (step_moves hsettled (admitted_anySocket w event)).trace_grows
    with ⟨notes, htrace⟩
  rw [World.stepNotes_eq htrace.symm, htrace]

theorem Spared.fits {client : NsClient} {packet : NsPacket}
    {message : String} (hspared : Spared client packet message) :
    text (literal message) = literal message ∧
      (literal message).length ≤ nsPacketBodyMax := by
  rcases hspared.2 with ⟨-, rfl⟩ | ⟨-, -, rfl⟩
  · exact ⟨by decide, by decide⟩
  · exact ⟨by decide, by decide⟩

theorem Spared.unique {client : NsClient} {packet : NsPacket}
    {left right : String} (hleft : Spared client packet left)
    (hright : Spared client packet right) : left = right := by
  rcases hleft.2 with ⟨hempty, rfl⟩ | ⟨hfilled, -, rfl⟩
  · rcases hright.2 with ⟨-, rfl⟩ | ⟨hfilled, -⟩
    · rfl
    · exact absurd hempty hfilled
  · rcases hright.2 with ⟨hempty, -⟩ | ⟨-, -, rfl⟩
    · exact absurd hempty hfilled
    · rfl

/-- The ERROR packet of a rejection that keeps the connection arrives if
and only if the buffer admits it. -/
theorem delivered_answered_iff {index : SlotIndex}
    (hactive : (w.clients index).active) {packet : NsPacket}
    (request : NsPacket)
    (hlen : packet.header.bodyLen.toNat ≤ nsPacketBodyMax)
    {notes : List Obs}
    (hnotes : (w.answered index packet).trace = w.trace ++ notes) :
    Delivered (w.answered index packet) (w.connection index) packet
        (.dispatched (w.connection index) request :: notes) ↔
      (w.clients index).sendBuf.Admits packet.wire.length := by
  have hwire : (wireBuffer packet hlen).val = packet.wire :=
    assembleWire_eq_wire hlen
  rcases w.answered_cases index hlen with ⟨hnone, hafter⟩ |
    ⟨buf, hsome, hafter⟩
  · have hfull := (nsClientEnqueueSend_eq_none_iff.mp hnone).2
    rw [hwire] at hfull
    apply iff_of_false _ hfull
    rw [hafter] at hnotes
    have hlist : notes = [.rejected (w.connection index) packet] :=
      (List.append_cancel_left hnotes).symm
    intro hdelivered
    rcases hdelivered with ⟨earlier, later, hsplit, hsent | hqueued⟩
    · apply wire_not_handed packet _ hsent
      apply unsent_of_split
      rw [← hsplit, hlist]
      rfl
    · have hmem : Obs.enqueued (w.connection index) packet ∈
          earlier ++ .rejected (w.connection index) packet :: later :=
        List.mem_append_right _ (List.mem_cons_of_mem _ hqueued.1)
      rw [← hsplit, hlist] at hmem
      simp at hmem
  · have hroom : (w.clients index).sendBuf.Admits packet.wire.length := by
      by_contra hfull
      have hnone : nsClientEnqueueSend (w.clients index).sendBuf
          (wireBuffer packet hlen) = none := by
        rw [nsClientEnqueueSend_eq_none_iff, hwire]
        exact ⟨by simp [NsPacket.wire], hfull⟩
      rw [hnone] at hsome
      exact absurd hsome.symm (Option.some_ne_none buf)
    apply iff_of_true _ hroom
    have hlist : notes = [.rejected (w.connection index) packet,
        .enqueued (w.connection index) packet] := by
      rw [hafter, World.appended_trace] at hnotes
      have hcancel : w.trace ++ [.rejected (w.connection index) packet,
          .enqueued (w.connection index) packet] = w.trace ++ notes := by
        rw [← hnotes]
        simp [World.observe]
      exact (List.append_cancel_left hcancel).symm
    refine ⟨[.dispatched (w.connection index) request],
      [.enqueued (w.connection index) packet], ?_, Or.inr ⟨?_, index, ?_⟩⟩
    · rw [hlist]
      rfl
    · exact List.mem_singleton_self _
    · rw [hafter, World.appended_clients, Function.update_self, ← hwire]
      exact ⟨hactive, rfl, nsClientEnqueueSend_suffix hsome⟩

/-- The core of the matter, from a state in which every connection has a
slot of its own. -/
theorem delivered_iff_spares (hsettled : Settled w)
    (hdistinct : Distinct w) {event : Event} {connection : ℕ}
    {packet : NsPacket}
    (hrejected : .rejected connection packet ∈ w.stepNotes event) :
    Delivered (w.step event) connection packet (w.stepNotes event) ↔
      Spares w connection event := by
  cases step_rejects hsettled hdistinct event with
  | silent hsilent =>
      rw [step_trace hsettled event, rejections_append,
        List.append_right_eq_self] at hsilent
      rw [← mem_rejections, hsilent] at hrejected
      exact absurd hrejected List.not_mem_nil
  | expels notes hexpels hspares =>
      rw [World.stepNotes_eq hexpels.trace] at hrejected ⊢
      exact iff_of_false (hexpels.not_delivered hrejected)
        (hspares connection)
  | spared index sock faults request message before hevent hactive hscan
      htype hspared hbefore hstep =>
      rcases hbefore with ⟨errno, database, clock, hbefore⟩
      have hactive' : (before.clients index).active := by
        rw [hbefore]
        exact hactive
      rcases nsServerSendError_eq hactive' hspared.fits.2 with
        ⟨answer, hset, heq⟩
      have hlen := nsPacketSet_bodyLen hset
      have hlength : answer.wire.length =
          nsPacketHeaderSize + (literal message).length := by
        rw [nsPacketSet_wire_length hset, hspared.fits.1]
      rcases answered_record before.tick index hlen with
        ⟨queued, htrace, hqueued⟩
      have hnotes : w.stepNotes event =
          .dispatched (w.connection index) request ::
            .rejected (w.connection index) answer :: queued := by
        apply World.stepNotes_eq
        rw [hstep, heq, htrace, hbefore]
        simp [World.tick, World.observe]
      have hsame : (connection, packet) = (w.connection index, answer) := by
        rw [hnotes, ← mem_rejections] at hrejected
        rcases hqueued with rfl | rfl
        · simpa [Obs.rejection] using hrejected
        · simpa [Obs.rejection] using hrejected
      rw [Prod.mk.injEq] at hsame
      have hconnection : before.tick.connection = w.connection := by
        rw [hbefore]
        rfl
      have hclients : before.tick.clients = w.clients := by
        rw [hbefore]
        rfl
      have hdelivered := delivered_answered_iff (w := before.tick) hactive'
        request hlen htrace
      rw [hconnection, hclients, hlength] at hdelivered
      rw [hnotes, hstep, heq, hsame.1, hsame.2, hdelivered, hevent]
      constructor
      · intro hadmits
        exact ⟨rfl, request, message, hscan, htype, hspared, hadmits⟩
      · intro hspares
        rcases hspares with
          ⟨-, request', message', hscan', -, hspared', hadmits⟩
        rw [hscan, Scan.packet.injEq] at hscan'
        subst hscan'
        rw [hspared.unique hspared']
        exact hadmits

end Step

/-! ## Runs -/

/-- In every state that the server reaches, a rejection arrives if and only
if it answers an empty or too long TEXT and finds room. -/
theorem rejection_delivered_iff (tables : Tables)
    (listenSocket : NsSocket) (errno : Errno) (clock : Clock)
    (events : List Event) (event : Event) (connection : ℕ)
    (packet : NsPacket)
    (hrejected : .rejected connection packet ∈
      (run World.step (World.boot tables listenSocket errno clock)
        events).stepNotes event) :
    Delivered
        ((run World.step (World.boot tables listenSocket errno clock)
          events).step event) connection packet
        ((run World.step (World.boot tables listenSocket errno clock)
          events).stepNotes event) ↔
      Spares (run World.step (World.boot tables listenSocket errno clock)
        events) connection event :=
  delivered_iff_spares
    (settled_run tables listenSocket errno clock events)
    (chatOrder_run tables listenSocket errno clock events).distinct
    hrejected

/-- A TEXT packet without a body. -/
def emptyTextRequest : RecvSocket where
  pending := [1, 2, 0, 0, 0, 0, 0, 0, 0, 0, 0, 0, 0, 0]
  ending := .failed .eagain
  chunks := []

/-- The answer to it. -/
def emptyTextAnswer : NsPacket :=
  NsPacket.filled
    { version := nsProtocolVersion
      type := NsPacketType.error.code
      senderId := 0
      timestamp := 0
      bodyLen := 25 } (literal "Messages cannot be empty.") (by decide)

set_option maxRecDepth 100000 in
theorem rejection_delivered_iff_example :
    Delivered
        ((run World.step (World.boot .empty 3 .eagain fun _ => 0)
          (chatEvents 97)).step
            (.readable ⟨0, nsMaxClients_pos⟩ emptyTextRequest fun _ => false))
        0 emptyTextAnswer
        ((run World.step (World.boot .empty 3 .eagain fun _ => 0)
          (chatEvents 97)).stepNotes
            (.readable ⟨0, nsMaxClients_pos⟩ emptyTextRequest fun _ => false)) ↔
      Spares (run World.step (World.boot .empty 3 .eagain fun _ => 0)
        (chatEvents 97)) 0
          (.readable ⟨0, nsMaxClients_pos⟩ emptyTextRequest fun _ => false) :=
  rejection_delivered_iff .empty 3 .eagain (fun _ => 0) _ _ _ _
    (by decide +kernel)

/-- A client that has connected and not joined. -/
def strangerRun : World :=
  run World.step (World.boot .empty 3 .eagain fun _ => 0)
    [.accept (.connection 4 [])]

set_option maxRecDepth 100000 in
theorem strangerRun_rejected :
    (strangerRun.clients ⟨0, nsMaxClients_pos⟩).joined = false ∧
      (rejections (strangerRun.stepNotes
        (.readable ⟨0, nsMaxClients_pos⟩ (textRequest 120) fun _ => false))).map
          Prod.fst = [0] := by
  decide +kernel

/-- A TEXT of a client that has not joined: the answer is discarded. -/
theorem rejection_not_always_delivered :
    ¬ ∀ tables listenSocket errno clock events event connection packet,
      .rejected connection packet ∈
        (run World.step (World.boot tables listenSocket errno clock)
          events).stepNotes event →
      Delivered
        ((run World.step (World.boot tables listenSocket errno clock)
          events).step event) connection packet
        ((run World.step (World.boot tables listenSocket errno clock)
          events).stepNotes event) := by
  intro hall
  have hdelivered := hall .empty 3 .eagain (fun _ => 0)
    [.accept (.connection 4 [])]
    (.readable ⟨0, nsMaxClients_pos⟩ (textRequest 120) fun _ => false) 0
  rw [← strangerRun] at hdelivered
  rcases strangerRun_rejected with ⟨hunjoined, hconnections⟩
  have hmem : (0 : ℕ) ∈ (rejections (strangerRun.stepNotes
      (.readable ⟨0, nsMaxClients_pos⟩ (textRequest 120) fun _ => false))).map
        Prod.fst := by
    rw [hconnections]
    exact List.mem_singleton_self 0
  rcases List.mem_map.mp hmem with ⟨⟨connection, packet⟩, hpair, rfl⟩
  rw [mem_rejections] at hpair
  have hspares := (delivered_iff_spares
    (settled_run .empty 3 .eagain (fun _ => 0) _)
    (chatOrder_run .empty 3 .eagain (fun _ => 0) _).distinct hpair).mp
      (hdelivered packet hpair)
  rcases hspares with ⟨-, request, message, -, -, hspared, -⟩
  rw [strangerRun, hspared.1] at hunjoined
  exact absurd hunjoined.symm Bool.false_ne_true

end NodeSignal
