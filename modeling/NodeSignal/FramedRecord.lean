import NodeSignal.Network
import NodeSignal.Rejections
import NodeSignal.Frames

/-!
# The packets of the record

Every packet that the server appends to a send buffer is one that
`ns_recv_packet` accepts in its whole, and no bytes are handed over to the
kernel except by the drains and by the refusal of a newcomer.
-/

namespace NodeSignal

open CStrings Frames Runs

/-- Packets as words of a byte stream. -/
def packetCode : Code UInt8 NsPacket where
  Valid := NsPacket.Canonical
  encode := NsPacket.wire
  decode := fun stream =>
    match scan stream with
    | .packet packet => some packet
    | _ => none
  decode_encode := by
    intro packet rest hcanonical
    simp only [scan_wire hcanonical rest]
  encode_decode := by
    intro stream packet hdecode
    split at hdecode
    · next shown hscan =>
        rw [Option.some.injEq] at hdecode
        subst hdecode
        rcases wire_of_scan hscan with ⟨hcanonical, hwire, -⟩
        rw [hwire]
        exact ⟨hcanonical, List.take_prefix _ _⟩
    · exact absurd hdecode (by simp)
  encode_ne_nil := by
    intro packet
    exact List.cons_ne_nil _ _

/-- The packets one behind the other, as they are written. -/
def wires (packets : List NsPacket) : List UInt8 :=
  packetCode.stream packets

@[simp] theorem wires_nil : wires [] = [] := rfl

@[simp] theorem wires_append (before after : List NsPacket) :
    wires (before ++ after) = wires before ++ wires after :=
  packetCode.stream_append before after

theorem wires_singleton (packet : NsPacket) :
    wires [packet] = packet.wire :=
  List.append_nil _

theorem packetCode_decode_eq_none {stream : List UInt8} :
    packetCode.decode stream = none ↔
      ∀ packet, scan stream ≠ .packet packet := by
  unfold packetCode
  simp only
  split
  · next packet hscan => simp [hscan]
  · next hnone => simpa using hnone

/-- The notes of everything but a drain and an accept. -/
def Obs.Framed : Obs → Prop
  | .enqueued _ packet => packet.Canonical
  | .sent _ _ => False
  | _ => True

/-- What is noted when no packet is read and no message is passed on. -/
def Obs.Plain : Obs → Prop
  | .dispatched _ _ => False
  | .broadcast packet => packet.header.type ≠ NsPacketType.text.code
  | .enqueued _ packet => packet.Canonical
  | .sent _ _ => False
  | _ => True

theorem Obs.Plain.framed {obs : Obs} (hplain : obs.Plain) : obs.Framed := by
  cases obs <;> first | exact hplain | trivial

theorem plain_closingNotes (client : NsClient) (connection : ℕ) :
    ∀ obs ∈ closingNotes client connection, obs.Plain := by
  unfold closingNotes
  split_ifs
  · simp [Obs.Plain]
  · simp

/-- What comes of a packet that was read: perhaps it is passed on. -/
inductive PacketOutcome (w : World) (index : SlotIndex) (packet : NsPacket)
    (after : World) : Prop
  | passedOn (notice : NsPacket) (notes : List Obs)
      (hjoined : (w.clients index).joined)
      (htext : packet.header.type = NsPacketType.text.code)
      (hfilled : packet.header.bodyLen.toNat ≠ 0)
      (hcanonical : notice.Canonical)
      (htype : notice.header.type = NsPacketType.text.code)
      (hsender : notice.header.senderId = (w.clients index).userId)
      (hpayload : notice.payload =
        text (w.clients index).username ++ literal ": " ++
          text packet.body)
      (htrace : after.trace = w.trace ++ .broadcast notice :: notes)
      (hnotes : ∀ obs ∈ notes, obs.Plain)
  | kept (hadds : Adds Obs.Plain w after)

section Plain

variable {w v after : World} {index : SlotIndex} {packet : NsPacket}

theorem plain_releaseSlot (w : World) (index : SlotIndex) :
    Adds Obs.Plain w (releaseSlot w index) :=
  ⟨_, releaseSlot_trace w index, plain_closingNotes _ _⟩

theorem plain_appended (w : World) (index : SlotIndex) (buf : NsSendBuf)
    (hcanonical : packet.Canonical) :
    Adds Obs.Plain w (w.appended index packet buf) :=
  ⟨_, World.appended_trace w index packet buf,
    List.forall_mem_singleton.mpr hcanonical⟩

/-- What follows on a broadcast. -/
theorem plain_nsServerBroadcast (w : World)
    (hcanonical : packet.Canonical) (excludeIndex : Option SlotIndex) :
    Adds Obs.Plain (w.observe (.broadcast packet))
      (nsServerBroadcast w packet excludeIndex) := by
  apply nsServerBroadcast_induction packet hcanonical.bodyLen excludeIndex
    (motive := fun after =>
      Adds Obs.Plain (w.observe (.broadcast packet)) after)
  · exact .of_same rfl
  · intro v other buf hv _ _
    exact hv.trans (plain_appended v other buf hcanonical)
  · intro v other hv _ _
    refine hv.trans ⟨_, World.evicted_trace v other packet, ?_⟩
    simp only [List.mem_cons, forall_eq_or_imp]
    exact ⟨trivial, trivial, plain_closingNotes _ _⟩

theorem plain_notice (w : World) (hcanonical : packet.Canonical)
    (htype : packet.header.type ≠ NsPacketType.text.code)
    (excludeIndex : Option SlotIndex) :
    Adds Obs.Plain w (nsServerBroadcast w packet excludeIndex) :=
  (adds_observe w htype).trans
    (plain_nsServerBroadcast w hcanonical excludeIndex)

theorem plain_nsServerDisconnectClient (w : World) (index : SlotIndex)
    (announceLeave : Bool) :
    Adds Obs.Plain w (nsServerDisconnectClient w index announceLeave) := by
  cases hactive : (w.clients index).active with
  | false =>
      rw [nsServerDisconnectClient_inactive _ _ _ hactive]
      exact .of_same rfl
  | true =>
      rcases nsServerDisconnectClient_cases hactive announceLeave with
        heq | ⟨_, notice, hnotice, heq⟩
      · rw [heq]
        exact (adds_observe w trivial).trans (plain_releaseSlot _ index)
      · have hcanonical := nsPacketSet_canonical (by decide) hnotice
        have htype : notice.header.type ≠ NsPacketType.text.code := by
          rw [(nsPacketSet_eq_some hnotice).2.1]
          decide
        have hobserved : Adds Obs.Plain w
            (({ w with clock := w.clock.rest } : World).observe
              (.disconnected (w.connection index))) :=
          ⟨[.disconnected (w.connection index)], rfl, by
            simp [Obs.Plain]⟩
        rw [heq]
        exact (hobserved.trans (plain_notice _ hcanonical htype _)).trans
          (plain_releaseSlot _ index)

theorem plain_nsServerSendError (w : World) (index : SlotIndex)
    (message : String) :
    Adds Obs.Plain w (nsServerSendError w index message) := by
  rcases nsServerSendError_cases w index message with
    heq | heq | ⟨answer, hset, heq⟩
  · rw [heq]
    exact .of_same rfl
  · rw [heq]
    exact .of_same rfl
  · have hcanonical := nsPacketSet_canonical (by decide) hset
    rw [heq]
    rcases w.tick.answered_trace index (nsPacketSet_bodyLen hset) with
      htrace | htrace
    · exact ⟨_, htrace, by simp [Obs.Plain]⟩
    · exact ⟨_, htrace, by simpa [Obs.Plain] using hcanonical⟩

theorem plain_rejection {before : World} (hprepared : Prepared w before)
    (message : String) :
    Adds Obs.Plain w (nsServerSendError before index message) :=
  (Adds.of_same hprepared.trace).trans
    (plain_nsServerSendError before index message)

theorem plain_welcomeClient (hbuf : (w.clients index).sendBuf = .reset)
    (userId : UInt32) (username : List UInt8) :
    Adds Obs.Plain w (welcomeClient w index userId username).2 := by
  rcases welcomeClient_eq hbuf userId username with
    ⟨timestamp, timestamp', ack, notice, hlen, buf, hack, -, hnotice, heq⟩
  have hseated : Adds Obs.Plain w (World.seated
      { w with clock := w.clock.rest.rest } index userId username) :=
    ⟨[.joined (w.connection index) userId (text username)], rfl, by
      simp [Obs.Plain]⟩
  have htype : notice.header.type ≠ NsPacketType.text.code := by
    rw [(nsPacketSet_eq_some hnotice).2.1]
    decide
  rw [heq]
  exact (hseated.trans (plain_appended _ index buf
    (nsPacketSet_canonical (by decide) hack))).trans
      (plain_notice _ (nsPacketSet_canonical (by decide) hnotice) htype
        none)

theorem plain_handleJoin (hsettled : Settled w) (packet : NsPacket)
    (faults : SqliteFaults) :
    Adds Obs.Plain w (nsServerHandleJoin w index packet faults).2 := by
  have hcases := nsServerHandleJoin_cases w index packet faults
  generalize nsServerHandleJoin w index packet faults = handled at *
  cases hcases with
  | refused message hrefused hfits =>
      exact plain_nsServerSendError w index message
  | unregistered hvalid hunknown =>
      dsimp only
      exact plain_rejection ⟨_, _, rfl⟩ _
  | welcomed userId hvalid hknown =>
      have hjoined := (nsServerJoinValidate_eq_true.mp hvalid).1
      have hregistered : Adds Obs.Plain w
          (w.registered faults packet.body) := .of_same rfl
      have hbuf : ((w.registered faults packet.body).clients
          index).sendBuf = .reset := (hsettled.unjoined index hjoined).1
      exact hregistered.trans (plain_welcomeClient hbuf userId _)

theorem PacketOutcome.followed (houtcome : PacketOutcome w index packet v)
    (hadds : Adds Obs.Plain v after) : PacketOutcome w index packet after := by
  cases houtcome with
  | passedOn notice notes hjoined htext hfilled hcanonical htype hsender
      hpayload htrace hnotes =>
      rcases hadds with ⟨more, hmore, hplain⟩
      refine .passedOn notice (notes ++ more) hjoined htext hfilled
        hcanonical htype hsender hpayload ?_ ?_
      · rw [hmore, htrace, List.append_assoc]
        rfl
      · exact List.forall_mem_append.mpr ⟨hnotes, hplain⟩
  | kept hkept => exact .kept (hkept.trans hadds)

theorem outcome_handleText (w : World) (index : SlotIndex)
    (htext : packet.header.type = NsPacketType.text.code)
    (faults : SqliteFaults) :
    PacketOutcome w index packet
      (nsServerHandleText w index packet faults).2 := by
  have hcases := nsServerHandleText_cases w index packet faults
  generalize nsServerHandleText w index packet faults = handled at *
  cases hcases with
  | unjoined hjoined =>
      dsimp only
      exact .kept (plain_rejection ⟨_, _, rfl⟩ _)
  | empty hjoined hempty =>
      dsimp only
      exact .kept (plain_rejection ⟨_, _, rfl⟩ _)
  | long hjoined hlen hlong =>
      dsimp only
      exact .kept (plain_rejection ⟨_, _, rfl⟩ _)
  | unstored displayText hjoined hlen hdisplay hstored =>
      dsimp only
      exact .kept (plain_rejection ⟨_, _, rfl⟩ _)
  | broadcast displayText notice hjoined hlen hdisplay hstored hnotice =>
      have hcanonical := nsPacketSet_canonical (by decide) hnotice
      have hset := nsPacketSet_eq_some hnotice
      have hshown := nsServerBuildDisplayText_eq_some hdisplay
      rcases plain_nsServerBroadcast (w.stored index faults packet.body)
        hcanonical none with ⟨notes, htrace, hnotes⟩
      refine .passedOn notice notes hjoined htext hlen hcanonical hset.2.1
        hset.2.2.1 ?_ ?_ hnotes
      · rw [hset.2.2.2.2.2.1, Option.getD_some, hshown.1]
        apply text_of_zero_notMem
        simp only [List.mem_append, not_or]
        exact ⟨⟨zero_notMem_text _, by decide⟩, zero_notMem_text _⟩
      · rw [htrace]
        simp [World.observe, World.stored, World.tick]

theorem PacketOutcome.concluded {handled : NsHandle × World}
    (houtcome : PacketOutcome w index packet handled.2) :
    PacketOutcome w index packet
      (if handled.1 ≠ .ok then
        nsServerDisconnectClient handled.2 index false
      else handled.2) := by
  split
  · exact houtcome.followed (plain_nsServerDisconnectClient _ index false)
  · exact houtcome

theorem outcome_dispatchPacket (hsettled : Settled w)
    (packet : NsPacket) (faults : SqliteFaults) :
    PacketOutcome w index packet (dispatchPacket w index packet faults) := by
  unfold dispatchPacket
  split
  · exact (PacketOutcome.kept
      (plain_handleJoin hsettled packet faults)).concluded
  · next htext =>
      exact (outcome_handleText w index
        (NsPacketType.eq_code_of_ofCode? htext) faults).concluded
  · exact .kept (plain_nsServerDisconnectClient w index true)
  · exact .kept ((plain_nsServerSendError w index _).trans
      (plain_nsServerDisconnectClient _ index false))

theorem plain_reap (w : World) :
    Adds Obs.Plain w (nsServerReapAuthTimeouts w) := by
  have hticked : Adds Obs.Plain w w.tick := .of_same rfl
  unfold nsServerReapAuthTimeouts
  apply List.foldlRecOn (motive := fun v : World => Adds Obs.Plain w v) _ _
    hticked
  intro v hv index _
  refine hv.trans ?_
  unfold reapVisit
  simp only
  split
  · exact .of_same rfl
  split
  · exact (plain_nsServerSendError v index _).trans
      (plain_nsServerDisconnectClient _ index false)
  · exact .of_same rfl

theorem plain_drainSlot (w : World) (index : SlotIndex)
    (outcomes : List SendOutcome) :
    Adds Obs.Plain (w.flushed index outcomes)
      (drainSlot w index outcomes).1 := by
  unfold drainSlot
  simp only
  split
  · exact plain_nsServerDisconnectClient _ index _
  · exact .of_same rfl

end Plain

/-- The events that hand bytes over to the kernel. -/
def Event.Hands : Event → Prop
  | .drain _ _ => True
  | .accept _ => True
  | _ => False

/-- What the other events record. -/
inductive StepOutcome (w : World) (event : Event) : Prop
  | reads (index : SlotIndex) (packet : NsPacket) (v : World)
      (hactive : (w.clients index).active)
      (hreading : w.reading event = some (w.connection index, packet))
      (hclients : v.clients = w.clients)
      (hconnection : v.connection = w.connection)
      (htrace : v.trace =
        w.trace ++ [.dispatched (w.connection index) packet])
      (houtcome : PacketOutcome v index packet (w.step event))
  | plain (hreading : w.reading event = none)
      (hadds : Adds Obs.Plain w (w.step event))

theorem stepOutcome_readable {w : World} (hsettled : Settled w)
    {index : SlotIndex} (hactive : (w.clients index).active)
    (sock : RecvSocket) (faults : SqliteFaults) :
    StepOutcome w (.readable index sock faults) := by
  have hstep : w.step (.readable index sock faults) =
      (nsServerHandleClientReadable w index sock faults).1 := if_pos hactive
  have herrno : ∀ reported, Adds Obs.Plain w (w.setErrno reported) :=
    fun _ => .of_same rfl
  cases hresult : (nsRecvPacket (w.clients index).socketFd sock).result with
  | closed =>
      refine .plain (by simp [World.reading, hactive, hresult]) ?_
      rw [hstep]
      unfold nsServerHandleClientReadable
      simp only [hresult]
      exact (herrno _).trans (plain_nsServerDisconnectClient _ index _)
  | error =>
      refine .plain (by simp [World.reading, hactive, hresult]) ?_
      rw [hstep]
      unfold nsServerHandleClientReadable
      simp only [hresult]
      split
      · exact herrno _
      · exact (herrno _).trans (plain_nsServerDisconnectClient _ index _)
  | ok packet =>
      have hsettled' : Settled (w.dispatching index sock packet) :=
        hsettled.congr rfl rfl
      refine .reads index packet (w.dispatching index sock packet) hactive
        (by simp [World.reading, hactive, hresult]) rfl rfl rfl ?_
      rw [hstep, nsServerHandleClientReadable_ok hresult]
      exact outcome_dispatchPacket hsettled' packet faults

theorem stepOutcome {w : World} (hsettled : Settled w) {event : Event}
    (hkeeps : ¬ event.Hands) : StepOutcome w event := by
  cases event with
  | poll revents => exact .plain rfl (.of_same rfl)
  | sweep => exact .plain rfl (plain_reap w)
  | accept outcome => exact absurd trivial hkeeps
  | drain index outcomes => exact absurd trivial hkeeps
  | readable index sock faults =>
      cases hactive : (w.clients index).active with
      | true => exact stepOutcome_readable hsettled hactive sock faults
      | false =>
          have hstep : w.step (.readable index sock faults) = w := by
            simp [World.step, hactive]
          refine .plain (by simp [World.reading, hactive]) ?_
          exact .of_same (by rw [hstep])
  | pollError index =>
      exact .plain rfl (plain_nsServerDisconnectClient w index _)

theorem framed_step {w : World} (hsettled : Settled w) {event : Event}
    (hkeeps : ¬ event.Hands) : Adds Obs.Framed w (w.step event) := by
  cases stepOutcome hsettled hkeeps with
  | reads index packet v hactive hreading hclients hconnection htrace
      houtcome =>
      have hdispatched : Adds Obs.Framed w v :=
        ⟨_, htrace, List.forall_mem_singleton.mpr trivial⟩
      refine hdispatched.trans ?_
      cases houtcome with
      | passedOn notice notes _ _ _ _ _ _ _ hafter hnotes =>
          refine ⟨_, hafter, List.forall_mem_cons.mpr ⟨trivial, ?_⟩⟩
          exact fun obs hobs => (hnotes obs hobs).framed
      | kept hadds => exact hadds.mono fun _ => Obs.Plain.framed
  | plain hreading hadds => exact hadds.mono fun _ => Obs.Plain.framed

theorem framed_drainSlot (w : World) (index : SlotIndex)
    (outcomes : List SendOutcome) :
    Adds Obs.Framed (w.flushed index outcomes)
      (drainSlot w index outcomes).1 :=
  (plain_drainSlot w index outcomes).mono fun _ => Obs.Plain.framed

theorem framed_nsServerDisconnectClient (w : World) (index : SlotIndex)
    (announceLeave : Bool) :
    Adds Obs.Framed w (nsServerDisconnectClient w index announceLeave) :=
  (plain_nsServerDisconnectClient w index announceLeave).mono
    fun _ => Obs.Plain.framed

theorem handedOver_of_framed {notes : List Obs}
    (hframed : ∀ obs ∈ notes, obs.Framed) (connection : ℕ) :
    handedOver connection notes = [] := by
  refine List.flatMap_eq_nil_iff.mpr fun obs hobs => ?_
  have hobs' := hframed obs hobs
  cases obs <;> simp_all [Obs.handed, Obs.Framed]

/-- The packets in the record are canonical. -/
def CanonicalRecord (trace : List Obs) : Prop :=
  ∀ connection packet, .enqueued connection packet ∈ trace →
    packet.Canonical

theorem CanonicalRecord.received {trace : List Obs}
    (hrecord : CanonicalRecord trace) (connection : ℕ) :
    ∀ packet ∈ received connection trace, packet.Canonical := by
  intro packet hmem
  exact hrecord connection packet (enqueued_of_mem_received hmem)

theorem CanonicalRecord.adds {w after : World} {note : Obs → Prop}
    (hrecord : CanonicalRecord w.trace) (hadds : Adds note w after)
    (hnote : ∀ connection packet, note (.enqueued connection packet) →
      packet.Canonical) : CanonicalRecord after.trace := by
  rcases hadds with ⟨notes, htrace, hnotes⟩
  intro connection packet hmem
  rw [htrace, List.mem_append] at hmem
  cases hmem with
  | inl hbefore => exact hrecord connection packet hbefore
  | inr hnow => exact hnote connection packet (hnotes _ hnow)

theorem CanonicalRecord.step {w : World} (hrecord : CanonicalRecord w.trace)
    (hsettled : Settled w) (event : Event) :
    CanonicalRecord (w.step event).trace := by
  by_cases hhands : event.Hands
  · cases event with
    | drain index outcomes =>
        unfold World.step
        simp only
        split
        · have hflushed : Adds (fun obs => ∃ connection bytes,
              obs = .sent connection bytes) w
              (w.flushed index outcomes) :=
            ⟨_, rfl, by simp⟩
          exact (hrecord.adds hflushed (by simp)).adds
            (framed_drainSlot w index outcomes) fun _ _ => id
        · exact hrecord
    | accept outcome =>
        rcases nsServerAcceptClient_notes w outcome with
          ⟨notes, htrace, hnotes⟩
        exact hrecord.adds ⟨notes, htrace, hnotes⟩ (by simp)
    | _ => exact hhands.elim
  · exact hrecord.adds (framed_step hsettled hhands) fun _ _ => id

end NodeSignal
