import NodeSignal.ChatSegments

/-!
# What a request adds to the record

A packet that is read goes to its handler, which seats the sender, answers
with an ERROR packet, or does neither.  Nothing else that the server does
seats anybody or hands out an ACK.
-/

namespace NodeSignal

open CStrings

/-- The record grows by such notes only. -/
def Adds (note : Obs → Prop) (w after : World) : Prop :=
  ∃ notes, after.trace = w.trace ++ notes ∧ ∀ obs ∈ notes, note obs

/-- The note is not about the request of a client. -/
def Obs.Routine : Obs → Prop
  | .dispatched _ _ => False
  | .rejected _ _ => False
  | .joined _ _ _ => False
  | .enqueued _ packet => packet.header.type ≠ NsPacketType.ack.code
  | _ => True

/-- The packet is of a kind that the server expects from the client. -/
def Placed (joined : Bool) (packet : NsPacket) : Prop :=
  match NsPacketType.ofCode? packet.header.type with
  | some .join => joined = false
  | some .text => joined
  | some .leave => True
  | _ => False

/-- The messages for packets of another kind. -/
def misplacements : List (List UInt8) :=
  [literal "This connection already joined the chat.",
    literal "Join the chat before sending messages.",
    literal "Unsupported packet type."]

/-- What the handler of the packet adds. -/
inductive Answer (connection : ℕ) (joined : Bool) (packet : NsPacket) :
    List Obs → Prop
  | routine (notes : List Obs) (hnotes : ∀ obs ∈ notes, obs.Routine) :
      Answer connection joined packet notes
  | seats (userId : UInt32) (notes : List Obs)
      (htype : packet.header.type = NsPacketType.join.code)
      (hnotes : ∀ obs ∈ notes, obs.Routine ∨ ∃ ack,
        obs = .enqueued connection ack ∧ ack.header.senderId = userId) :
      Answer connection joined packet
        (.joined connection userId (text packet.body) :: notes)
  | rejects (message : List UInt8) (notes : List Obs)
      (hplaced : Placed joined packet → message ∉ misplacements)
      (hnotes : ∀ obs ∈ notes, obs.Routine ∨ ∃ answer,
        obs = .rejected connection answer ∧ answer.payload = message) :
      Answer connection joined packet notes

def Answers (w : World) (index : SlotIndex) (packet : NsPacket)
    (after : World) : Prop :=
  ∃ notes, after.trace = w.trace ++ notes ∧
    Answer (w.connection index) (w.clients index).joined packet notes

section Adding

variable {note : Obs → Prop} {w v after : World} {index : SlotIndex}

theorem Adds.of_same (htrace : after.trace = w.trace) :
    Adds note w after :=
  ⟨[], by rw [htrace, List.append_nil], by simp⟩

theorem Adds.trans (hfirst : Adds note w v) (hsecond : Adds note v after) :
    Adds note w after := by
  rcases hfirst with ⟨notes, htrace, hnotes⟩
  rcases hsecond with ⟨more, hmore, hmore'⟩
  refine ⟨notes ++ more, by rw [hmore, htrace, List.append_assoc], ?_⟩
  exact List.forall_mem_append.mpr ⟨hnotes, hmore'⟩

theorem Adds.mono {note' : Obs → Prop} (hadds : Adds note w after)
    (himp : ∀ obs, note obs → note' obs) : Adds note' w after := by
  rcases hadds with ⟨notes, htrace, hnotes⟩
  exact ⟨notes, htrace, fun obs hobs => himp obs (hnotes obs hobs)⟩

theorem adds_observe (w : World) {obs : Obs} (hobs : note obs) :
    Adds note w (w.observe obs) :=
  ⟨[obs], rfl, by simpa using hobs⟩

theorem routine_closingNotes (client : NsClient) (connection : ℕ) :
    ∀ obs ∈ closingNotes client connection, obs.Routine := by
  unfold closingNotes
  split_ifs
  · simp [Obs.Routine]
  · simp

theorem adds_releaseSlot (w : World) (index : SlotIndex) :
    Adds Obs.Routine w (releaseSlot w index) :=
  ⟨_, releaseSlot_trace w index, routine_closingNotes _ _⟩

/-- A broadcast of anything but an ACK is routine. -/
theorem adds_nsServerBroadcast (w : World) {packet : NsPacket}
    (hlen : packet.header.bodyLen.toNat ≤ nsPacketBodyMax)
    (htype : packet.header.type ≠ NsPacketType.ack.code)
    (excludeIndex : Option SlotIndex) :
    Adds Obs.Routine w (nsServerBroadcast w packet excludeIndex) := by
  apply nsServerBroadcast_induction packet hlen excludeIndex
    (motive := fun after => Adds Obs.Routine w after)
  · exact adds_observe w trivial
  · intro v other buf hv _ _
    refine hv.trans ⟨_, World.appended_trace v other packet buf, ?_⟩
    simpa [Obs.Routine] using htype
  · intro v other hv _ _
    refine hv.trans ⟨_, World.evicted_trace v other packet, ?_⟩
    simp only [List.mem_cons, forall_eq_or_imp]
    exact ⟨trivial, trivial, routine_closingNotes _ _⟩

theorem adds_nsServerDisconnectClient (w : World) (index : SlotIndex)
    (announceLeave : Bool) :
    Adds Obs.Routine w (nsServerDisconnectClient w index announceLeave) := by
  cases hactive : (w.clients index).active with
  | false =>
      rw [nsServerDisconnectClient_inactive _ _ _ hactive]
      exact .of_same rfl
  | true =>
      rcases nsServerDisconnectClient_cases hactive announceLeave with
        heq | ⟨_, notice, hnotice, heq⟩
      · rw [heq]
        exact (adds_observe w trivial).trans (adds_releaseSlot _ index)
      · have htype : notice.header.type ≠ NsPacketType.ack.code := by
          rw [(nsPacketSet_eq_some hnotice).2.1]
          decide
        have hobserved : Adds Obs.Routine w
            (({ w with clock := w.clock.rest } : World).observe
              (.disconnected (w.connection index))) :=
          ⟨[.disconnected (w.connection index)], rfl, by
            simp [Obs.Routine]⟩
        rw [heq]
        exact (hobserved.trans (adds_nsServerBroadcast _
          (nsPacketSet_bodyLen hnotice) htype _)).trans
            (adds_releaseSlot _ index)

theorem adds_nsServerSendError (w : World) (index : SlotIndex)
    (message : String) :
    Adds (fun obs => obs.Routine ∨ ∃ answer,
      obs = .rejected (w.connection index) answer ∧
        answer.payload = text (literal message)) w
      (nsServerSendError w index message) := by
  rcases nsServerSendError_notes w index message with
    ⟨notes, htrace, hnotes⟩
  refine ⟨notes, htrace, fun obs hobs => ?_⟩
  rcases hnotes obs hobs with ⟨packet, htype, hpayload, rfl | rfl⟩
  · exact Or.inr ⟨packet, rfl, hpayload⟩
  · have hother : packet.header.type ≠ NsPacketType.ack.code := by
      rw [htype]
      decide
    exact Or.inl hother

/-! ## Handlers -/

variable {packet : NsPacket}

theorem Answers.of_routine (hadds : Adds Obs.Routine w after) :
    Answers w index packet after := by
  rcases hadds with ⟨notes, htrace, hnotes⟩
  exact ⟨notes, htrace, .routine notes hnotes⟩

/-- Routine notes may follow. -/
theorem Answers.followed (hanswers : Answers w index packet v)
    (hadds : Adds Obs.Routine v after) : Answers w index packet after := by
  rcases hanswers with ⟨notes, htrace, hanswer⟩
  rcases hadds with ⟨more, hmore, hroutine⟩
  refine ⟨notes ++ more, by rw [hmore, htrace, List.append_assoc], ?_⟩
  cases hanswer with
  | routine _ hnotes =>
      exact .routine _ (List.forall_mem_append.mpr ⟨hnotes, hroutine⟩)
  | seats userId notes htype hnotes =>
      exact .seats userId (notes ++ more) htype (List.forall_mem_append.mpr
        ⟨hnotes, fun obs hobs => Or.inl (hroutine obs hobs)⟩)
  | rejects message _ hplaced hnotes =>
      exact .rejects message _ hplaced (List.forall_mem_append.mpr
        ⟨hnotes, fun obs hobs => Or.inl (hroutine obs hobs)⟩)

theorem answers_sendError {before : World} (hprepared : Prepared w before)
    (message : String)
    (hplaced : Placed (w.clients index).joined packet →
      text (literal message) ∉ misplacements) :
    Answers w index packet (nsServerSendError before index message) := by
  rcases hprepared with ⟨database, clock, rfl⟩
  rcases adds_nsServerSendError
    { w with database := database, clock := clock } index message with
    ⟨notes, htrace, hnotes⟩
  exact ⟨notes, htrace, .rejects _ notes hplaced hnotes⟩

theorem answers_welcomeClient (hbuf : (w.clients index).sendBuf = .reset)
    (userId : UInt32) {username : List UInt8}
    (htype : packet.header.type = NsPacketType.join.code)
    (husername : text username = text packet.body) :
    Answers w index packet (welcomeClient w index userId username).2 := by
  rcases welcomeClient_eq hbuf userId username with
    ⟨_, _, ack, notice, _, buf, hack, -, hnotice, hwelcome⟩
  rw [hwelcome]
  dsimp only
  generalize hv : (World.seated { w with clock := w.clock.rest.rest } index
    userId username).appended index ack buf = v
  have htrace : v.trace = w.trace ++
      [.joined (w.connection index) userId (text packet.body),
        .enqueued (w.connection index) ack] := by
    rw [← hv, World.appended_trace, ← husername]
    simp [World.seated, World.observe, World.setClient]
  have hseated : Answers w index packet v := by
    refine ⟨_, htrace, .seats userId _ htype ?_⟩
    exact List.forall_mem_singleton.mpr
      (Or.inr ⟨ack, rfl, (nsPacketSet_eq_some hack).2.2.1⟩)
  have htype' : notice.header.type ≠ NsPacketType.ack.code := by
    rw [(nsPacketSet_eq_some hnotice).2.1]
    decide
  exact hseated.followed
    (adds_nsServerBroadcast v (nsPacketSet_bodyLen hnotice) htype' none)

/-- The messages of `ns_server_join_validate`. -/
theorem nsServerJoinValidate_placed {message : String}
    (htype : packet.header.type = NsPacketType.join.code)
    (hrefused : nsServerJoinValidate w index packet =
      (false, nsServerSendError w index message)) :
    ∃ message', (Placed (w.clients index).joined packet →
        text (literal message') ∉ misplacements) ∧
      nsServerSendError w index message =
        nsServerSendError w index message' := by
  unfold nsServerJoinValidate at hrefused
  split_ifs at hrefused with hjoined hlen hused
  · refine ⟨_, ?_, (Prod.mk.inj hrefused).2.symm⟩
    simp [Placed, htype, hjoined]
  · exact ⟨_, fun _ => by decide, (Prod.mk.inj hrefused).2.symm⟩
  · exact ⟨_, fun _ => by decide, (Prod.mk.inj hrefused).2.symm⟩
  · exact absurd (Prod.mk.inj hrefused).1.symm Bool.false_ne_true

theorem answers_handleJoin (hsettled : Settled w)
    (hcanonical : packet.Canonical)
    (htype : packet.header.type = NsPacketType.join.code)
    (faults : SqliteFaults) :
    Answers w index packet
      (nsServerHandleJoin w index packet faults).2 := by
  have hcases := nsServerHandleJoin_cases w index packet faults
  generalize nsServerHandleJoin w index packet faults = handled at *
  cases hcases with
  | refused message hrefused hfits =>
      rcases nsServerJoinValidate_placed htype hrefused with
        ⟨message', hplaced, hsame⟩
      dsimp only
      rw [hsame]
      exact answers_sendError ⟨_, _, rfl⟩ message' hplaced
  | unregistered hvalid hunknown =>
      dsimp only
      exact answers_sendError ⟨_, _, rfl⟩ _ fun _ => by decide
  | welcomed userId hvalid hknown =>
      rcases nsServerJoinValidate_eq_true.mp hvalid with
        ⟨hjoined, -, hlen, -⟩
      have hunjoined := hsettled.unjoined index hjoined
      have husername := text_storeUsername hcanonical hlen
      rw [← hunjoined.2] at husername
      exact answers_welcomeClient (w := w.registered faults packet.body)
        hunjoined.1 userId htype husername

theorem answers_handleText
    (htype : packet.header.type = NsPacketType.text.code)
    (faults : SqliteFaults) :
    Answers w index packet
      (nsServerHandleText w index packet faults).2 := by
  have hcases := nsServerHandleText_cases w index packet faults
  generalize nsServerHandleText w index packet faults = handled at *
  cases hcases with
  | unjoined hjoined =>
      dsimp only
      refine answers_sendError ⟨_, _, rfl⟩ _ ?_
      simp [Placed, htype, hjoined]
  | empty hjoined hempty =>
      dsimp only
      exact answers_sendError ⟨_, _, rfl⟩ _ fun _ => by decide
  | long hjoined hlen hlong =>
      dsimp only
      exact answers_sendError ⟨_, _, rfl⟩ _ fun _ => by decide
  | unstored displayText hjoined hlen hdisplay hstored =>
      dsimp only
      exact answers_sendError ⟨_, _, rfl⟩ _ fun _ => by decide
  | broadcast displayText notice hjoined hlen hdisplay hstored hnotice =>
      have htype' : notice.header.type ≠ NsPacketType.ack.code := by
        rw [(nsPacketSet_eq_some hnotice).2.1]
        decide
      exact .of_routine (adds_nsServerBroadcast
        (w.stored index faults packet.body) (nsPacketSet_bodyLen hnotice)
        htype' none)

theorem Answers.concluded {handled : NsHandle × World}
    (hanswers : Answers w index packet handled.2) :
    Answers w index packet
      (if handled.1 ≠ .ok then
        nsServerDisconnectClient handled.2 index false
      else handled.2) := by
  split
  · exact hanswers.followed (adds_nsServerDisconnectClient _ index false)
  · exact hanswers

theorem answers_dispatchPacket (hsettled : Settled w)
    (hcanonical : packet.Canonical) (faults : SqliteFaults) :
    Answers w index packet (dispatchPacket w index packet faults) := by
  unfold dispatchPacket
  split
  · next htype =>
      exact (answers_handleJoin hsettled hcanonical
        (NsPacketType.eq_code_of_ofCode? htype) faults).concluded
  · next htype =>
      exact (answers_handleText
        (NsPacketType.eq_code_of_ofCode? htype) faults).concluded
  · exact .of_routine (adds_nsServerDisconnectClient w index true)
  · next hjoin htext hleave =>
      have hanswers : Answers w index packet
          (nsServerSendError w index "Unsupported packet type.") := by
        refine answers_sendError ⟨w.database, w.clock, rfl⟩ _ ?_
        unfold Placed
        split
        · next htype => exact absurd htype hjoin
        · next htype => exact absurd htype htext
        · next htype => exact absurd htype hleave
        · exact False.elim
      exact hanswers.followed (adds_nsServerDisconnectClient _ index false)

end Adding

/-! ## Events -/

/-- The packet that the event makes the server read, and where from. -/
def World.reading (w : World) : Event → Option (ℕ × NsPacket)
  | .readable index sock _ =>
      if (w.clients index).active then
        match (nsRecvPacket (w.clients index).socketFd sock).result with
        | .ok packet => some (w.connection index, packet)
        | _ => none
      else none
  | _ => none

/-- What is added when no packet is read. -/
def Obs.Idle (obs : Obs) : Prop :=
  obs.Routine ∨ ∃ connection answer, obs = .rejected connection answer ∧
    answer.payload = text (literal "Authentication timeout.")

inductive StepAnswers (w : World) (event : Event) : Prop
  | reads (index : SlotIndex) (packet : NsPacket) (notes : List Obs)
      (hactive : (w.clients index).active)
      (hreading : w.reading event = some (w.connection index, packet))
      (htrace : (w.step event).trace = w.trace ++
        .dispatched (w.connection index) packet :: notes)
      (hanswer : Answer (w.connection index) (w.clients index).joined
        packet notes)
  | idle (hreading : w.reading event = none)
      (hadds : Adds Obs.Idle w (w.step event))

section Events

variable {w : World} {index : SlotIndex}

theorem Adds.idle {after : World} (hadds : Adds Obs.Routine w after) :
    Adds Obs.Idle w after :=
  hadds.mono fun _ => Or.inl

theorem stepAnswers_readable (hsettled : Settled w) (index : SlotIndex)
    (sock : RecvSocket) (faults : SqliteFaults) :
    StepAnswers w (.readable index sock faults) := by
  cases hactive : (w.clients index).active with
  | false =>
      have hreading : w.reading (.readable index sock faults) = none := by
        simp [World.reading, hactive]
      have hstep : w.step (.readable index sock faults) = w := by
        simp [World.step, hactive]
      exact .idle hreading (.of_same (by rw [hstep]))
  | true =>
      have hstep : w.step (.readable index sock faults) =
          (nsServerHandleClientReadable w index sock faults).1 :=
        if_pos hactive
      have herrno : ∀ reported, Adds Obs.Idle w (w.setErrno reported) :=
        fun _ => .of_same rfl
      unfold nsServerHandleClientReadable at hstep
      simp only at hstep
      cases hresult : (nsRecvPacket (w.clients index).socketFd
          sock).result with
      | closed =>
          simp only [hresult] at hstep
          apply StepAnswers.idle (by simp [World.reading, hresult])
          rw [hstep]
          exact (herrno _).trans
            (adds_nsServerDisconnectClient _ index _).idle
      | error =>
          simp only [hresult] at hstep
          apply StepAnswers.idle (by simp [World.reading, hresult])
          rw [hstep]
          split
          · exact herrno _
          · exact (herrno _).trans
              (adds_nsServerDisconnectClient _ index _).idle
      | ok packet =>
          simp only [hresult] at hstep
          generalize hv : (w.setErrno (nsRecvPacket
            (w.clients index).socketFd sock).reported).observe
              (.dispatched (w.connection index) packet) = v
          have hdispatch : w.step (.readable index sock faults) =
              dispatchPacket v index packet faults := by
            rw [hstep, ← hv]
            rfl
          have hclients : v.clients = w.clients := by rw [← hv]; rfl
          have hconnection : v.connection = w.connection := by
            rw [← hv]; rfl
          have hvtrace : v.trace = w.trace ++
              [.dispatched (w.connection index) packet] := by
            rw [← hv]; rfl
          have hv' : Settled v := hsettled.congr (by rw [← hv]; rfl) hclients
          rcases answers_dispatchPacket hv'
            (nsRecvPacket_ok_canonical hresult) faults with
            ⟨notes, hnotes, hanswer⟩
          rw [hclients, hconnection] at hanswer
          apply StepAnswers.reads index packet notes hactive
            (by simp [World.reading, hactive, hresult]) _ hanswer
          rw [hdispatch, hnotes, hvtrace, List.append_assoc]
          rfl

theorem adds_reapVisit (w : World) (now : ℤ) (index : SlotIndex) :
    Adds Obs.Idle w (reapVisit now w index) := by
  unfold reapVisit
  simp only
  split
  · exact .of_same rfl
  split
  · have hanswered := adds_nsServerSendError w index
      "Authentication timeout."
    refine (hanswered.mono ?_).trans
      (adds_nsServerDisconnectClient _ index false).idle
    rintro obs (hroutine | ⟨answer, hobs, hpayload⟩)
    · exact Or.inl hroutine
    · exact Or.inr ⟨_, answer, hobs, hpayload⟩
  · exact .of_same rfl

theorem adds_nsServerReapAuthTimeouts (w : World) :
    Adds Obs.Idle w (nsServerReapAuthTimeouts w) := by
  have hticked : Adds Obs.Idle w w.tick := .of_same rfl
  unfold nsServerReapAuthTimeouts
  apply List.foldlRecOn (motive := fun v : World => Adds Obs.Idle w v) _ _
    hticked
  intro v hv index _
  exact hv.trans (adds_reapVisit v _ index)

theorem adds_nsServerAcceptClient (w : World) (outcome : AcceptOutcome) :
    Adds Obs.Idle w (nsServerAcceptClient w outcome) := by
  cases outcome with
  | failed errno => exact .of_same rfl
  | connection socketFd outcomes =>
      unfold nsServerAcceptClient
      simp only
      split
      · exact .of_same rfl
      · have hgreeted : Adds Obs.Idle w (w.greeted socketFd) :=
          ⟨[.accepted w.connections socketFd], rfl, by
            simp [Obs.Idle, Obs.Routine]⟩
        split
        · rcases turnDown_trace (w.greeted socketFd) w.connections socketFd
            outcomes with ⟨bytes, htrace⟩
          exact hgreeted.trans ⟨_, htrace, by simp [Obs.Idle, Obs.Routine]⟩
        · exact hgreeted.trans (.of_same rfl)

theorem stepAnswers (hsettled : Settled w) (event : Event) :
    StepAnswers w event := by
  cases event with
  | poll revents => exact .idle rfl (.of_same rfl)
  | sweep => exact .idle rfl (adds_nsServerReapAuthTimeouts w)
  | accept outcome => exact .idle rfl (adds_nsServerAcceptClient w outcome)
  | drain index outcomes =>
      apply StepAnswers.idle rfl
      have hflushed : Adds Obs.Idle w (w.flushed index outcomes) :=
        ⟨_, rfl, by simp [Obs.Idle, Obs.Routine]⟩
      unfold World.step drainSlot
      simp only
      split
      · split
        · exact hflushed.trans
            (adds_nsServerDisconnectClient _ index _).idle
        · exact hflushed.trans (.of_same rfl)
      · exact .of_same rfl
  | readable index sock faults =>
      exact stepAnswers_readable hsettled index sock faults
  | pollError index =>
      exact .idle rfl (adds_nsServerDisconnectClient w index _).idle

/-- The notes that an answer consists of. -/
inductive AnswerNote (connection : ℕ) (joined : Bool) (packet : NsPacket)
    (notes : List Obs) (obs : Obs) : Prop
  | routine (hroutine : obs.Routine)
  | seat (userId : UInt32) (rest : List Obs)
      (htype : packet.header.type = NsPacketType.join.code)
      (hobs : obs = .joined connection userId (text packet.body))
      (hnotes : notes = obs :: rest)
  | ack (ack : NsPacket) (name : List UInt8)
      (hobs : obs = .enqueued connection ack)
      (hjoined : .joined connection ack.header.senderId name ∈ notes)
  | rejection (answer : NsPacket)
      (hobs : obs = .rejected connection answer)
      (hplaced : Placed joined packet → answer.payload ∉ misplacements)

section AnswerNotes

variable {connection connection' : ℕ} {seated : Bool} {packet : NsPacket}
  {notes : List Obs}

theorem Answer.note (hanswer : Answer connection seated packet notes)
    {obs : Obs} (hmem : obs ∈ notes) :
    AnswerNote connection seated packet notes obs := by
  cases hanswer with
  | routine _ hnotes => exact .routine (hnotes _ hmem)
  | seats userId rest htype hnotes =>
      rcases List.mem_cons.mp hmem with rfl | hmem
      · exact .seat userId rest htype rfl rfl
      · rcases hnotes _ hmem with hroutine | ⟨ack, hobs, rfl⟩
        · exact .routine hroutine
        · exact .ack ack _ hobs List.mem_cons_self
  | rejects message _ hplaced hnotes =>
      rcases hnotes _ hmem with hroutine | ⟨answer, hobs, rfl⟩
      · exact .routine hroutine
      · exact .rejection answer hobs hplaced

theorem Answer.dispatched (hanswer : Answer connection seated packet notes)
    (connection' : ℕ) (packet' : NsPacket) :
    .dispatched connection' packet' ∉ notes := by
  intro hmem
  cases hanswer.note hmem with
  | routine hroutine => exact hroutine
  | seat _ _ _ hobs => simp at hobs
  | ack _ _ hobs => simp at hobs
  | rejection _ hobs => simp at hobs

/-- A client that joins is the first thing to be noted. -/
theorem Answer.joined (hanswer : Answer connection seated packet notes)
    {userId : UInt32} {name : List UInt8}
    (hmem : .joined connection' userId name ∈ notes) :
    connection' = connection ∧
      packet.header.type = NsPacketType.join.code ∧
      name = text packet.body ∧
      ∃ rest, notes = .joined connection' userId name :: rest := by
  cases hanswer.note hmem with
  | routine hroutine => exact hroutine.elim
  | seat _ rest htype hobs hnotes =>
      rcases Obs.joined.inj hobs with ⟨rfl, -, rfl⟩
      exact ⟨rfl, htype, rfl, rest, hnotes⟩
  | ack _ _ hobs => simp at hobs
  | rejection _ hobs => simp at hobs

theorem Answer.acked (hanswer : Answer connection seated packet notes)
    {ack : NsPacket} (hack : ack.header.type = NsPacketType.ack.code)
    (hmem : .enqueued connection' ack ∈ notes) :
    ∃ name, .joined connection' ack.header.senderId name ∈ notes := by
  cases hanswer.note hmem with
  | routine hroutine => exact absurd hack hroutine
  | seat _ _ _ hobs => simp at hobs
  | ack _ name hobs hjoined =>
      rcases Obs.enqueued.inj hobs with ⟨rfl, rfl⟩
      exact ⟨name, hjoined⟩
  | rejection _ hobs => simp at hobs

theorem Answer.rejected (hanswer : Answer connection seated packet notes)
    {answer : NsPacket} (hmem : .rejected connection' answer ∈ notes) :
    connection' = connection ∧
      (Placed seated packet → answer.payload ∉ misplacements) := by
  cases hanswer.note hmem with
  | routine hroutine => exact hroutine.elim
  | seat _ _ _ hobs => simp at hobs
  | ack _ _ hobs => simp at hobs
  | rejection _ hobs hplaced =>
      rcases Obs.rejected.inj hobs with ⟨rfl, rfl⟩
      exact ⟨rfl, hplaced⟩

end AnswerNotes

theorem idle_rejected {connection : ℕ} {answer : NsPacket}
    (hidle : (Obs.rejected connection answer).Idle) :
    answer.payload ∉ misplacements := by
  rcases hidle with hroutine | ⟨_, answer', hobs, hpayload⟩
  · exact hroutine.elim
  · rw [(Obs.rejected.inj hobs).2, hpayload]
    decide

/-! ## What the record vouches for -/

/-- Who got an ACK has joined under its id, and who has joined did so with
a JOIN packet. -/
structure Vouched (w : World) : Prop where
  numbered : ∀ connection packet,
    .dispatched connection packet ∈ w.trace → connection < w.connections
  acks : ∀ connection ack, .enqueued connection ack ∈ w.trace →
    ack.header.type = NsPacketType.ack.code →
      ∃ name, .joined connection ack.header.senderId name ∈ w.trace
  joins : ∀ connection userId name,
    .joined connection userId name ∈ w.trace →
      ∃ packet, .dispatched connection packet ∈ w.trace ∧
        packet.header.type = NsPacketType.join.code ∧
        name = text packet.body
  rejections : ∀ connection answer,
    .rejected connection answer ∈ w.trace →
      connection < w.connections ∨ answer.payload ∉ misplacements

theorem vouched_boot (tables : Tables) (listenSocket : NsSocket)
    (errno : Errno) (clock : Clock) :
    Vouched (World.boot tables listenSocket errno clock) := by
  constructor <;> simp [World.boot]

/-- New observations that vouch for themselves can be added. -/
theorem Vouched.extend (hvouched : Vouched w) {w' : World}
    {notes : List Obs} (hle : w.connections ≤ w'.connections)
    (htrace : w'.trace = w.trace ++ notes)
    (hnumbered : ∀ connection packet,
      .dispatched connection packet ∈ notes → connection < w'.connections)
    (hacks : ∀ connection ack, .enqueued connection ack ∈ notes →
      ack.header.type = NsPacketType.ack.code →
        ∃ name, .joined connection ack.header.senderId name ∈ notes)
    (hjoins : ∀ connection userId name,
      .joined connection userId name ∈ notes →
        ∃ packet, .dispatched connection packet ∈ notes ∧
          packet.header.type = NsPacketType.join.code ∧
          name = text packet.body)
    (hrejections : ∀ connection answer,
      .rejected connection answer ∈ notes →
        connection < w'.connections ∨ answer.payload ∉ misplacements) :
    Vouched w' := by
  constructor
  · intro connection packet hmem
    rw [htrace, List.mem_append] at hmem
    rcases hmem with hmem | hmem
    · exact (hvouched.numbered _ _ hmem).trans_le hle
    · exact hnumbered connection packet hmem
  · intro connection ack hmem hack
    rw [htrace] at hmem ⊢
    rcases List.mem_append.mp hmem with hmem | hmem
    · rcases hvouched.acks connection ack hmem hack with ⟨name, hjoined⟩
      exact ⟨name, List.mem_append_left _ hjoined⟩
    · rcases hacks connection ack hmem hack with ⟨name, hjoined⟩
      exact ⟨name, List.mem_append_right _ hjoined⟩
  · intro connection userId name hmem
    rw [htrace] at hmem ⊢
    rcases List.mem_append.mp hmem with hmem | hmem
    · rcases hvouched.joins connection userId name hmem with
        ⟨packet, hpacket, hjoin⟩
      exact ⟨packet, List.mem_append_left _ hpacket, hjoin⟩
    · rcases hjoins connection userId name hmem with
        ⟨packet, hpacket, hjoin⟩
      exact ⟨packet, List.mem_append_right _ hpacket, hjoin⟩
  · intro connection answer hmem
    rw [htrace, List.mem_append] at hmem
    rcases hmem with hmem | hmem
    · exact (hvouched.rejections _ _ hmem).imp_left
        fun hlt => hlt.trans_le hle
    · exact hrejections connection answer hmem

theorem Vouched.step (hvouched : Vouched w) (hsettled : Settled w)
    (horder : ChatOrder w) (event : Event) : Vouched (w.step event) := by
  have hle := (step_moves hsettled
    (admitted_anySocket w event)).connections_le
  cases stepAnswers hsettled event with
  | reads index packet notes hactive hreading htrace hanswer =>
      have hnumbered := (horder.numbered index hactive).trans_le hle
      apply hvouched.extend hle htrace
      · intro connection packet' hmem
        rcases List.mem_cons.mp hmem with hobs | hmem
        · rw [(Obs.dispatched.inj hobs).1]
          exact hnumbered
        · exact absurd hmem (hanswer.dispatched _ _)
      · intro connection ack hmem hack
        rcases List.mem_cons.mp hmem with hobs | hmem
        · simp at hobs
        · rcases hanswer.acked hack hmem with ⟨name, hjoined⟩
          exact ⟨name, List.mem_cons_of_mem _ hjoined⟩
      · intro connection userId name hmem
        rcases List.mem_cons.mp hmem with hobs | hmem
        · simp at hobs
        · rcases hanswer.joined hmem with ⟨rfl, htype, hname, -⟩
          exact ⟨packet, List.mem_cons_self, htype, hname⟩
      · intro connection answer hmem
        rcases List.mem_cons.mp hmem with hobs | hmem
        · simp at hobs
        · rw [(hanswer.rejected hmem).1]
          exact Or.inl hnumbered
  | idle hreading hadds =>
      rcases hadds with ⟨notes, htrace, hnotes⟩
      apply hvouched.extend hle htrace
      · intro connection packet hmem
        simpa [Obs.Idle, Obs.Routine] using hnotes _ hmem
      · intro connection ack hmem hack
        simpa [Obs.Idle, Obs.Routine, hack] using hnotes _ hmem
      · intro connection userId name hmem
        simpa [Obs.Idle, Obs.Routine] using hnotes _ hmem
      · exact fun connection answer hmem =>
          Or.inr (idle_rejected (hnotes _ hmem))

end Events

end NodeSignal
