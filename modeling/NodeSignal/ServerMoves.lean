import NodeSignal.ChatLog
import NodeSignal.Handlers
import NodeSignal.Runs

/-!
# Events are sequences of moves

Each handler of the server is taken apart into moves, one of its cases at a
time.
-/

namespace NodeSignal

open CStrings RingWindow Relation Runs

section Handlers

variable {allow : World → NsSocket → Prop} {w : World} {index : SlotIndex}

theorem Moves.clock (w : World) (clock : Clock) :
    Moves allow w { w with clock := clock } :=
  .single (.clock w clock)

/-! ## Disconnecting -/

theorem moves_disconnect (w : World) (index : SlotIndex)
    (announceLeave : Bool) :
    Moves allow w (nsServerDisconnectClient w index announceLeave) := by
  cases hactive : (w.clients index).active with
  | false =>
      rw [nsServerDisconnectClient_inactive _ _ _ hactive]
  | true =>
      rcases nsServerDisconnectClient_cases hactive announceLeave with
        heq | ⟨hjoined, notice, hnotice, heq⟩
      · rw [heq]
        exact .single (.dropped w index hactive)
      · rw [heq]
        exact (Moves.clock w _).tail
          (.departed _ index _ notice hactive hjoined hnotice)

/-! ## Rejecting -/

theorem moves_rebuke (message : String)
    (hactive : (w.clients index).active)
    (hjoined : (w.clients index).joined)
    (hfits : (literal message).length ≤ nsPacketBodyMax) :
    Moves allow w (nsServerSendError w index message) := by
  rcases nsServerSendError_eq hactive hfits with ⟨packet, hset, heq⟩
  rw [heq]
  exact (Moves.clock w w.clock.rest).tail
    (.rebuked w.tick index packet hactive hjoined
      (nsPacketSet_eq_some hset).2.1 (nsPacketSet_bodyLen hset))

theorem moves_reject {message : String}
    (hactive : (w.clients index).active)
    (hfits : (literal message).length ≤ nsPacketBodyMax) :
    Moves allow w
      (nsServerDisconnectClient (nsServerSendError w index message) index
        false) := by
  cases hjoined : (w.clients index).joined with
  | true =>
      exact (moves_rebuke message hactive hjoined hfits).trans
        (moves_disconnect _ index false)
  | false =>
      rcases nsServerSendError_eq hactive hfits with ⟨packet, hset, heq⟩
      have hlen := nsPacketSet_bodyLen hset
      have hafter : ((w.tick.answered index packet).clients index).active := by
        rcases (w.tick.answered_frame index hlen).2.2.2 with ⟨buf, hclients⟩
        rw [hclients, Function.update_self]
        exact hactive
      rw [heq, nsServerDisconnectClient_false _ _ hafter]
      exact (Moves.clock w w.clock.rest).tail
        (.turnedAway w.tick index packet hactive hjoined
          (nsPacketSet_eq_some hset).2.1 hlen)

/-- What a handler does: it keeps the connection, with or without an ERROR
packet, or it rejects the client and has it disconnected.  The parameter
tells the messages after which the connection is kept. -/
inductive Handled (allow : World → NsSocket → Prop) (w : World)
    (index : SlotIndex) (spared : String → Prop) : NsHandle × World → Prop
  | kept (after : World) (hmoves : Moves allow w after)
      (hsilent : rejections after.trace = rejections w.trace) :
      Handled allow w index spared (.ok, after)
  | rebuked (before : World) (message : String)
      (hmoves : Moves allow w before) (hprepared : Prepared w before)
      (hjoined : (w.clients index).joined) (hspared : spared message)
      (hfits : (literal message).length ≤ nsPacketBodyMax) :
      Handled allow w index spared
        (.ok, nsServerSendError before index message)
  | rejected (before : World) (message : String)
      (hmoves : Moves allow w before) (hprepared : Prepared w before)
      (hspared : ∀ other, ¬ spared other)
      (hfits : (literal message).length ≤ nsPacketBodyMax) :
      Handled allow w index spared
        (.disconnect, nsServerSendError before index message)

theorem Handled.moves {spared : String → Prop}
    {handled : NsHandle × World}
    (hactive : (w.clients index).active)
    (hhandled : Handled allow w index spared handled) :
    Moves allow w
      (if handled.1 ≠ .ok then
        nsServerDisconnectClient handled.2 index false
      else handled.2) := by
  cases hhandled with
  | kept after hmoves hsilent => exact hmoves
  | rebuked before message hmoves hprepared hjoined hspared hfits =>
      rcases hprepared with ⟨database, clock, rfl⟩
      exact hmoves.trans (moves_rebuke message hactive hjoined hfits)
  | rejected before message hmoves hprepared hspared hfits =>
      rcases hprepared with ⟨database, clock, rfl⟩
      exact hmoves.trans (moves_reject hactive hfits)

/-! ## JOIN -/

theorem welcomeClient_moves (hsettled : Settled w)
    (hactive : (w.clients index).active)
    (hjoined : (w.clients index).joined = false)
    (username : List UInt8) (userId : UInt32)
    (hunused : ∀ other, other ≠ index → (w.clients other).active →
      (w.clients other).joined →
        text (w.clients other).username ≠ text username)
    (huser : ∃ row ∈ w.database.tables.users,
      row.username = text username ∧ userId = UInt32.ofNat row.id)
    (hshort : (text username).length ≤ nsUsernameMax) :
    ∃ after, Moves allow w after ∧
      rejections after.trace = rejections w.trace ∧
      welcomeClient w index userId username = (.ok, after) := by
  have hbuf := (hsettled.unjoined index hjoined).1
  rcases welcomeClient_eq hbuf userId username with
    ⟨_, _, ack, notice, hlen, buf, hack, henqueue, hnotice, hwelcome⟩
  have hclock : Moves allow w { w with clock := w.clock.rest.rest } :=
    Moves.clock w _
  refine ⟨_, hclock.tail (.joined _ index username userId _ _ ack notice
    hlen buf hactive hjoined hunused huser hshort hack ?_ hnotice), ?_,
    hwelcome⟩
  · change nsClientEnqueueSend (w.clients index).sendBuf _ = _
    rw [hbuf]
    exact henqueue
  · rw [rejections_nsServerBroadcast notice (nsPacketSet_bodyLen hnotice),
      World.appended_trace, rejections_append]
    simp [World.seated, World.observe, World.setClient, Obs.rejection]

theorem moves_registered (hsettled : Settled w) (faults : SqliteFaults)
    (username : List UInt8) :
    Moves allow w (w.registered faults username) := by
  have hspec := nsDbGetOrCreateUser_spec hsettled.saved faults w.clock
    username
  exact (ReflTransGen.single (.registered w _ hspec.1)).tail
    (.clock { w with database := _ } _)

theorem nsServerHandleJoin_handled (hsettled : Settled w)
    (hactive : (w.clients index).active) {packet : NsPacket}
    (hcanonical : packet.Canonical) (faults : SqliteFaults) :
    Handled allow w index (fun _ => False)
      (nsServerHandleJoin w index packet faults) := by
  have hregistered : Moves allow w (w.registered faults packet.body) :=
    moves_registered hsettled faults packet.body
  have hcases := nsServerHandleJoin_cases w index packet faults
  generalize nsServerHandleJoin w index packet faults = handled at *
  cases hcases with
  | refused message hrefused hfits =>
      exact .rejected w message .refl ⟨_, _, rfl⟩ (fun _ => id) hfits
  | unregistered hvalid hunknown =>
      exact .rejected _ _ hregistered ⟨_, _, rfl⟩ (fun _ => id) (by decide)
  | welcomed userId hvalid hknown =>
      rcases nsServerJoinValidate_eq_true.mp hvalid with
        ⟨hjoined, -, hlen, hunused⟩
      have husername := text_storeUsername hcanonical hlen
      rw [← (hsettled.unjoined index hjoined).2] at husername
      have huser := (nsDbGetOrCreateUser_spec hsettled.saved faults w.clock
        packet.body).2 userId hknown
      rcases welcomeClient_moves (hregistered.settled hsettled) hactive
        hjoined (storeUsername (w.clients index).username packet) userId
        (by
          rw [husername]
          exact nsServerUsernameInUse_eq_false hunused)
        (by
          rw [husername]
          exact huser)
        (by
          rw [husername]
          exact text_username_length_le hcanonical hlen) with
        ⟨after, hafter, hsilent, hwelcome⟩
      rw [hwelcome]
      exact .kept after (hregistered.trans hafter) hsilent

/-! ## TEXT -/

/-- The messages after which the client stays connected: its TEXT was empty,
or too long with the name in front. -/
def Spared (client : NsClient) (packet : NsPacket) (message : String) :
    Prop :=
  client.joined ∧
    (packet.header.bodyLen.toNat = 0 ∧
        message = "Messages cannot be empty." ∨
      packet.header.bodyLen.toNat ≠ 0 ∧
        nsServerBuildDisplayText client packet (nsPacketBodyMax + 1) =
          none ∧
        message = "That message is too long once the username is added.")

theorem nsServerHandleText_handled (hsettled : Settled w)
    (hactive : (w.clients index).active) (packet : NsPacket)
    (faults : SqliteFaults) :
    Handled allow w index (Spared (w.clients index) packet)
      (nsServerHandleText w index packet faults) := by
  have hclock : Moves allow w w.tick := Moves.clock w _
  have hprepared : Prepared w w.tick := ⟨_, _, rfl⟩
  rcases nsDbInsertMessage_spec w.database faults
    (w.clients index).userId packet.body (nsUnixTimeNow w) with
    ⟨hsaved, husers, hseq, hinserted, hfailed⟩
  have hcases := nsServerHandleText_cases w index packet faults
  generalize nsServerHandleText w index packet faults = handled at *
  cases hcases with
  | unjoined hjoined =>
      refine .rejected w.tick _ hclock hprepared ?_ (by decide)
      intro message hspared
      exact Bool.false_ne_true (hjoined.symm.trans hspared.1)
  | empty hjoined hempty =>
      exact .rebuked w.tick _ hclock hprepared hjoined
        ⟨hjoined, Or.inl ⟨hempty, rfl⟩⟩ (by decide)
  | long hjoined hlen hlong =>
      exact .rebuked w.tick _ hclock hprepared hjoined
        ⟨hjoined, Or.inr ⟨hlen, hlong, rfl⟩⟩ (by decide)
  | unstored displayText hjoined hlen hdisplay hstored =>
      have hgrow : w.tick.database.UsersGrow
          (w.stored index faults packet.body).database := by
        have htables := hfailed hstored
        exact ⟨by rw [World.stored, htables]; exact List.prefix_rfl,
          by rw [World.stored, htables]; rfl, hseq.ge,
          hsaved.trans hsettled.saved⟩
      refine .rejected _ _ (hclock.tail (.registered w.tick _ hgrow))
        ⟨_, w.clock.rest, rfl⟩ ?_ (by decide)
      intro message hspared
      rcases hspared.2 with hempty | hlong
      · exact hlen hempty.1
      · exact Option.some_ne_none _ (hdisplay.symm.trans hlong.2.1)
  | broadcast displayText notice hjoined hlen hdisplay hstored hnotice =>
      rcases hinserted hstored with ⟨row, hmessages, hsender, hbody, hsentAt⟩
      have htext := (nsServerBuildDisplayText_eq_some hdisplay).1
      have hzero : 0 ∉ row.body := by
        rw [hbody]
        exact zero_notMem_text _
      rw [htext, ← hbody] at hnotice
      exact .kept _ (hclock.tail (.texted w.tick index _ row _ notice
        hactive hjoined hsaved husers hseq hmessages hsender hzero hsentAt
        hnotice))
        (rejections_nsServerBroadcast notice (nsPacketSet_bodyLen hnotice)
          none _)

/-! ## Events -/

theorem dispatchPacket_moves (hsettled : Settled w)
    (hactive : (w.clients index).active) {packet : NsPacket}
    (hcanonical : packet.Canonical) (faults : SqliteFaults) :
    Moves allow w (dispatchPacket w index packet faults) := by
  unfold dispatchPacket
  split
  · exact (nsServerHandleJoin_handled hsettled hactive hcanonical
      faults).moves hactive
  · exact (nsServerHandleText_handled hsettled hactive packet
      faults).moves hactive
  · exact moves_disconnect w index true
  · exact moves_reject hactive (by decide)

theorem nsServerHandleClientReadable_moves (hsettled : Settled w)
    (hactive : (w.clients index).active) (sock : RecvSocket)
    (faults : SqliteFaults) :
    Moves allow w
      (nsServerHandleClientReadable w index sock faults).1 := by
  have herrno : ∀ errno, Moves allow w { w with errno := errno } :=
    fun errno => .single (.errno w errno)
  unfold nsServerHandleClientReadable
  simp only
  split
  · exact (herrno _).trans (moves_disconnect _ _ _)
  · split
    · exact herrno _
    · exact (herrno _).trans (moves_disconnect _ _ _)
  · next packet hok =>
      have hdispatched : Moves allow w _ := (herrno _).tail
        (.dispatched (w.setErrno (nsRecvPacket (w.clients index).socketFd
          sock).reported) index packet hactive)
      exact hdispatched.trans (dispatchPacket_moves
        (hdispatched.settled hsettled) hactive
        (nsRecvPacket_ok_canonical hok) faults)

theorem foldl_moves {ι : Type*} {visit : World → ι → World}
    (hvisit : ∀ w index, Settled w → Moves allow w (visit w index))
    (hsettled : Settled w) (indices : List ι) :
    Moves allow w (indices.foldl visit w) := by
  induction indices generalizing w with
  | nil => exact .refl
  | cons first rest ih =>
      have hfirst := hvisit w first hsettled
      exact hfirst.trans (ih (hfirst.settled hsettled))

theorem nsServerReapAuthTimeouts_moves (hsettled : Settled w) :
    Moves allow w (nsServerReapAuthTimeouts w) := by
  have hclock : Moves allow w w.tick := Moves.clock w _
  apply hclock.trans
  apply foldl_moves _ (hclock.settled hsettled)
  intro v index hv
  unfold reapVisit
  simp only
  split
  · exact .refl
  · next hidle =>
      split
      · apply moves_reject _ (by decide)
        simp only [Bool.or_eq_true, Bool.not_eq_true', not_or,
          Bool.not_eq_false] at hidle
        exact hidle.1
      · exact .refl

/-- What the server accepts is subject to the restriction. -/
def Event.Admitted (allow : World → NsSocket → Prop) (w : World) :
    Event → Prop
  | .accept (.connection socketFd _) =>
      nsSocketIsValid socketFd → allow w socketFd
  | _ => True

theorem nsServerAcceptClient_moves {outcome : AcceptOutcome}
    (hallow : (Event.accept outcome).Admitted allow w) :
    Moves allow w (nsServerAcceptClient w outcome) := by
  cases outcome with
  | failed errno => exact .single (.errno w errno)
  | connection socketFd outcomes =>
      unfold nsServerAcceptClient
      dsimp only
      cases hvalid : nsSocketIsValid socketFd with
      | false => exact .refl
      | true =>
          simp only [Bool.not_true, Bool.false_eq_true, if_false]
          split
          · exact .single (.refused w socketFd outcomes hvalid
              (hallow hvalid))
          · next index hfree =>
              exact .single (.occupied w socketFd index
                (nsServerFindFreeSlot_eq_some hfree) hvalid
                (hallow hvalid))

/-! ## Draining -/

theorem broadcastVisit_setPollFd {packet : NsPacket}
    (hlen : packet.header.bodyLen.toNat ≤ nsPacketBodyMax) (w : World)
    (index other : SlotIndex) (pollFd : PollFd) :
    broadcastVisit nsServerDisconnectClient packet hlen (some index)
        (w.setPollFd index pollFd) other =
      (broadcastVisit nsServerDisconnectClient packet hlen (some index) w
        other).setPollFd index pollFd := by
  rw [broadcastVisit_eq, broadcastVisit_eq]
  have hclients : (w.setPollFd index pollFd).clients = w.clients := rfl
  rw [hclients]
  split
  · next hrecipient =>
      have hne : pollIndex other ≠ pollIndex index := by
        intro heq
        exact hrecipient.2.2 (congrArg some (pollIndex_inj.mp heq))
      split
      · simp only [World.appended, nsServerUpdatePollEvents,
          World.setPollFd, World.setClient, World.observe,
          Function.update_of_ne hne, Function.update_comm hne]
      · simp only [World.evicted, releaseSlot, World.setPollFd,
          World.setClient, World.observe, Function.update_comm hne]
        rfl
  · rfl

/-- A broadcast neither reads nor writes the poll entry of the slot it
leaves out. -/
theorem nsServerBroadcast_setPollFd {packet : NsPacket}
    (hlen : packet.header.bodyLen.toNat ≤ nsPacketBodyMax) (w : World)
    (index : SlotIndex) (pollFd : PollFd) :
    nsServerBroadcast (w.setPollFd index pollFd) packet (some index) =
      (nsServerBroadcast w packet (some index)).setPollFd index pollFd := by
  have hfold : ∀ (indices : List SlotIndex) (v : World),
      indices.foldl (broadcastVisit nsServerDisconnectClient packet hlen
          (some index)) (v.setPollFd index pollFd) =
        (indices.foldl (broadcastVisit nsServerDisconnectClient packet hlen
          (some index)) v).setPollFd index pollFd := by
    intro indices
    induction indices with
    | nil => exact fun _ => rfl
    | cons first rest ih =>
        intro v
        rw [List.foldl_cons, List.foldl_cons, broadcastVisit_setPollFd, ih]
  rw [nsServerBroadcast_eq, broadcastBody, broadcastBody, dif_pos hlen,
    dif_pos hlen]
  exact hfold _ (w.observe (.broadcast packet))

theorem releaseSlot_setPollFd (w : World) (index : SlotIndex)
    (pollFd : PollFd) :
    releaseSlot (w.setPollFd index pollFd) index = releaseSlot w index := by
  simp only [releaseSlot, World.setPollFd, World.setClient,
    Function.update_idem]
  rfl

theorem nsServerDisconnectClient_setPollFd
    (hactive : (w.clients index).active) (pollFd : PollFd)
    (announceLeave : Bool) :
    nsServerDisconnectClient (w.setPollFd index pollFd) index
        announceLeave =
      nsServerDisconnectClient w index announceLeave := by
  have hclients : (w.setPollFd index pollFd).clients = w.clients := rfl
  simp only [nsServerDisconnectClient, disconnectBody, hclients, hactive,
    Bool.not_true, Bool.false_eq_true, if_false]
  split_ifs
  · have htime : nsUnixTimeNow ((w.setPollFd index pollFd).observe
          (.disconnected ((w.setPollFd index pollFd).connection index))) =
        nsUnixTimeNow (w.observe (.disconnected (w.connection index))) := rfl
    rw [htime]
    split
    · next notice hnotice =>
        have hlen := nsPacketSet_bodyLen hnotice
        exact (congrArg (releaseSlot · index) (nsServerBroadcast_setPollFd
          hlen (w.observe (.disconnected (w.connection index))).tick index
          pollFd)).trans (releaseSlot_setPollFd _ index pollFd)
    · exact releaseSlot_setPollFd
        (w.observe (.disconnected (w.connection index))).tick index pollFd
  · exact releaseSlot_setPollFd
      (w.observe (.disconnected (w.connection index))) index pollFd

/-- A failed drain disconnects the client as if its poll entry had been
updated first. -/
theorem drainSlot_cases (hactive : (w.clients index).active)
    (outcomes : List SendOutcome) :
    let drained := nsServerUpdatePollEvents (w.flushed index outcomes) index
    ((nsClientDrainSend outcomes (w.clients index).sendBuf).status ≠ 0 ∧
        (drainSlot w index outcomes).1 =
          nsServerDisconnectClient drained index
            (drained.clients index).joined) ∨
      (nsClientDrainSend outcomes (w.clients index).sendBuf).status = 0 ∧
        (drainSlot w index outcomes).1 = drained := by
  have hself : (w.flushed index outcomes).clients index =
      { w.clients index with
        sendBuf := (nsClientDrainSend outcomes
          (w.clients index).sendBuf).buf } := by
    rw [World.flushed_clients, Function.update_self]
  have hflushed : ((w.flushed index outcomes).clients index).active := by
    rw [hself]
    exact hactive
  have hjoined : ((nsServerUpdatePollEvents (w.flushed index outcomes)
      index).clients index).joined = (w.clients index).joined := by
    change ((w.flushed index outcomes).clients index).joined = _
    rw [hself]
  dsimp only
  rw [hjoined]
  unfold drainSlot
  simp only
  split_ifs with hfailed
  · left
    refine ⟨hfailed, ?_⟩
    rw [nsServerUpdatePollEvents,
      nsServerDisconnectClient_setPollFd hflushed]
  · exact Or.inr ⟨not_not.mp hfailed, rfl⟩

theorem drainSlot_moves (hactive : (w.clients index).active)
    (outcomes : List SendOutcome) :
    Moves allow w (drainSlot w index outcomes).1 := by
  have hdrained : Moves allow w
      (nsServerUpdatePollEvents (w.flushed index outcomes) index) :=
    .single (.drained w index outcomes hactive)
  rcases drainSlot_cases hactive outcomes with ⟨-, heq⟩ | ⟨-, heq⟩
  · rw [heq]
    exact hdrained.trans (moves_disconnect _ index _)
  · rw [heq]
    exact hdrained

theorem step_moves (hsettled : Settled w) {event : Event}
    (hallow : event.Admitted allow w) : Moves allow w (w.step event) := by
  cases event with
  | poll revents => exact .single (.polled w revents)
  | sweep => exact nsServerReapAuthTimeouts_moves hsettled
  | accept outcome => exact nsServerAcceptClient_moves hallow
  | drain index outcomes =>
      by_cases hactive : (w.clients index).active
      · have hstep : w.step (.drain index outcomes) =
            (drainSlot w index outcomes).1 := if_pos hactive
        rw [hstep]
        exact drainSlot_moves hactive outcomes
      · have hstep : w.step (.drain index outcomes) = w := if_neg hactive
        rw [hstep]
  | readable index sock faults =>
      by_cases hactive : (w.clients index).active
      · have hstep : w.step (.readable index sock faults) =
            (nsServerHandleClientReadable w index sock faults).1 :=
          if_pos hactive
        rw [hstep]
        exact nsServerHandleClientReadable_moves hsettled hactive sock
          faults
      · have hstep : w.step (.readable index sock faults) = w :=
          if_neg hactive
        rw [hstep]
  | pollError index => exact moves_disconnect w index _

end Handlers

/-! ## Runs -/

section Runs

variable {allow : World → NsSocket → Prop}

theorem Moves.invariant {inv : World → Prop}
    (hkeep : ∀ v v', Settled v → inv v → Move allow v v' → inv v')
    {w w' : World} (hmoves : Moves allow w w') (hsettled : Settled w)
    (hinv : inv w) : inv w' := by
  induction hmoves with
  | refl => exact hinv
  | tail hbefore hmove ih =>
      exact hkeep _ _ (Moves.settled hbefore hsettled) ih hmove

theorem run_moves {w : World} (hsettled : Settled w)
    {events : List Event}
    (halong : Along World.step (fun v event => event.Admitted allow v) w
      events) :
    Moves allow w (run World.step w events) := by
  apply And.left
  apply run_invariant (fun v => Moves allow w v ∧ Settled v) _
    ⟨.refl, hsettled⟩ halong
  rintro v event ⟨hmoves, hv⟩ hallowed
  have hstep := step_moves hv hallowed
  exact ⟨hmoves.trans hstep, hstep.settled hv⟩

def anySocket (_ : World) (_ : NsSocket) : Prop := True

theorem admitted_anySocket (w : World) (event : Event) :
    event.Admitted anySocket w := by
  unfold Event.Admitted
  split <;> simp [anySocket]

/-- What every move preserves holds in every state that the server
reaches. -/
theorem run_boot_invariant {inv : World → Prop}
    (hkeep : ∀ v v', Settled v → inv v → Move anySocket v v' → inv v')
    {tables : Tables} {listenSocket : NsSocket} {errno : Errno}
    {clock : Clock}
    (hboot : inv (World.boot tables listenSocket errno clock))
    (events : List Event) :
    inv (run World.step (World.boot tables listenSocket errno clock)
      events) := by
  have hsettled := settled_boot tables listenSocket errno clock
  exact Moves.invariant hkeep
    (run_moves hsettled (along_of_forall admitted_anySocket _ events))
    hsettled hboot

theorem settled_run (tables : Tables) (listenSocket : NsSocket)
    (errno : Errno) (clock : Clock) (events : List Event) :
    Settled (run World.step (World.boot tables listenSocket errno clock)
      events) :=
  run_boot_invariant (fun _ _ _ hinv hmove => Move.settled hmove hinv)
    (settled_boot tables listenSocket errno clock) events

theorem lasting_run {good : NsClient → Prop} (hlasting : Lasting good)
    (tables : Tables) (listenSocket : NsSocket) (errno : Errno)
    (clock : Clock) (events : List Event) :
    ∀ index, good ((run World.step
      (World.boot tables listenSocket errno clock) events).clients index) :=
  run_boot_invariant
    (fun _ _ _ hinv hmove => Move.lasting hmove hlasting hinv)
    (fun _ => hlasting.reset) events

end Runs

end NodeSignal
