import NodeSignal.BrokenPipes
import NodeSignal.Departures
import NodeSignal.Identity

/-!
# Which runs announce every departure

A step outside the condition disconnects somebody who had joined and
broadcasts nothing afterwards, or kills the process while others are there to
be told.  Together with the turns of the ledger this characterizes the runs
that announce every departure.
-/

namespace NodeSignal

open CStrings Runs

/-- Somebody who had joined was disconnected, and no notice follows. -/
def Silent (trace : List Obs) : Prop :=
  ∃ before connection userId name after,
    trace = before ++ .disconnected connection :: after ∧
      .joined connection userId name ∈ before ∧ broadcasts after = []

theorem Silent.not_accounted {trace : List Obs} (hsilent : Silent trace) :
    ¬ Accounted trace := by
  rintro ⟨hannounced, -⟩
  rcases hsilent with
    ⟨before, connection, userId, name, after, hsplit, hjoined, hafter⟩
  rcases hannounced before connection after userId name hsplit hjoined with
    ⟨notice, offers, rest, rfl, -⟩
  simp [Obs.announced] at hafter

section Silencing

variable {w : World} {index : SlotIndex}

theorem Regular.joined_mem (hregular : Regular w)
    (hjoined : (w.clients index).joined) :
    ∃ userId name, .joined (w.connection index) userId name ∈ w.trace := by
  rcases hregular.order.chatting index
    (hregular.settled.active index hjoined) hjoined with
    ⟨before, life, hsegment⟩
  exact ⟨_, _, hsegment.joined_mem⟩

theorem Regular.silent (hregular : Regular w)
    (hjoined : (w.clients index).joined) {trace : List Obs}
    (first last : List Obs)
    (htrace : trace = w.trace ++ (first ++
      .disconnected (w.connection index) :: last))
    (hlast : broadcasts last = []) : Silent trace := by
  rcases hregular.joined_mem hjoined with ⟨userId, name, hmem⟩
  refine ⟨w.trace ++ first, _, userId, name, last, ?_,
    List.mem_append_left _ hmem, hlast⟩
  rw [htrace, List.append_assoc]

/-- The slot is released without a notice. -/
theorem Regular.silent_dropped (hregular : Regular w)
    (hjoined : (w.clients index).joined) {v : World} {first : List Obs}
    (htrace : v.trace = w.trace ++ first)
    (hconnection : v.connection = w.connection) :
    Silent (v.dropped index).trace := by
  apply hregular.silent hjoined first
    (closingNotes (v.clients index) (w.connection index))
  · rw [World.dropped, releaseSlot_trace]
    simp [World.observe, htrace, hconnection]
  · exact broadcasts_closingNotes _ _

/-- A client that has joined is disconnected after a rejection. -/
theorem Regular.silent_reject (hregular : Regular w)
    (hjoined : (w.clients index).joined) {before : World}
    (hprepared : Prepared w before) (message : String) :
    Silent (nsServerDisconnectClient
      (nsServerSendError before index message) index false).trace := by
  have hactive := hregular.settled.active index hjoined
  have hframe := nsServerSendError_frame before index message index
  rcases calm_nsServerSendError before index message with
    ⟨notes, hnotes, -⟩
  have hactive' : ((nsServerSendError before index message).clients
      index).active := by
    rw [hframe.1, hprepared.clients]
    exact hactive
  rw [nsServerDisconnectClient_false _ _ hactive']
  exact hregular.silent_dropped hjoined (by rw [hnotes, hprepared.trace])
    (hframe.2.trans hprepared.connection)

/-! ## Broadcasts that somebody refuses -/

theorem fanout_refused {packet : NsPacket}
    (hlen : packet.header.bodyLen.toNat ≤ nsPacketBodyMax)
    {excludeIndex : Option SlotIndex} {other : SlotIndex}
    (hrecipient : Recipient excludeIndex other (w.clients other))
    (henqueue : nsClientEnqueueSend (w.clients other).sendBuf
      (wireBuffer packet hlen) = none) :
    ∃ before after, fanout packet hlen excludeIndex w =
        before ++ .disconnected (w.connection other) :: after ∧
      broadcasts after = [] := by
  have hnotes : broadcastNotes packet hlen excludeIndex other
      (w.clients other) (w.connection other) =
        .overflowed (w.connection other) packet ::
          .disconnected (w.connection other) ::
            closingNotes (w.clients other) (w.connection other) := by
    rw [broadcastNotes, if_pos hrecipient, henqueue]
  rcases List.append_of_mem (List.mem_finRange other) with
    ⟨earlier, later, hslots⟩
  have hsplit : fanout packet hlen excludeIndex w =
      (earlier.flatMap (fun slot => broadcastNotes packet hlen excludeIndex
        slot (w.clients slot) (w.connection slot)) ++
          [.overflowed (w.connection other) packet]) ++
        .disconnected (w.connection other) ::
          (closingNotes (w.clients other) (w.connection other) ++
            later.flatMap fun slot => broadcastNotes packet hlen
              excludeIndex slot (w.clients slot) (w.connection slot)) := by
    rw [fanout, hslots, List.flatMap_append, List.flatMap_cons, hnotes]
    simp
  have hquiet := broadcasts_fanout packet hlen excludeIndex w
  rw [hsplit, broadcasts_append, List.append_eq_nil_iff] at hquiet
  exact ⟨_, _, hsplit, hquiet.2⟩

theorem not_roomy {excludeIndex : Option SlotIndex} {body : List UInt8}
    (hcrowded : ¬ Roomy w excludeIndex body) :
    ∃ other, Recipient excludeIndex other (w.clients other) ∧
      ¬ (w.clients other).sendBuf.Admits
        (nsPacketHeaderSize + (text body).length) := by
  simpa only [Roomy, not_forall, exists_prop] using hcrowded

/-- A recipient without room is disconnected by the broadcast. -/
theorem Regular.silent_fanout (hregular : Regular w) {v : World}
    {excludeIndex : Option SlotIndex} {type : UInt8}
    {senderId timestamp : UInt32} {body : List UInt8} {packet : NsPacket}
    (hset : nsPacketSet type senderId timestamp (some body) = some packet)
    {other : SlotIndex} (hjoined : (w.clients other).joined)
    (hrecipient : Recipient excludeIndex other (v.clients other))
    (hbuf : (v.clients other).sendBuf = (w.clients other).sendBuf)
    (hcrowded : ¬ (w.clients other).sendBuf.Admits
      (nsPacketHeaderSize + (text body).length))
    (hconnection : v.connection = w.connection)
    {trace : List Obs} (first last : List Obs)
    (htrace : trace = w.trace ++ (first ++
      (fanout packet (nsPacketSet_bodyLen hset) excludeIndex v ++ last)))
    (hlast : broadcasts last = []) : Silent trace := by
  have henqueue : nsClientEnqueueSend (v.clients other).sendBuf
      (wireBuffer packet (nsPacketSet_bodyLen hset)) = none := by
    rw [← enqueue_iff_admits hset, ← hbuf, not_exists] at hcrowded
    exact Option.eq_none_iff_forall_ne_some.mpr hcrowded
  rcases fanout_refused (nsPacketSet_bodyLen hset) hrecipient henqueue with
    ⟨before, after, hfanout, hafter⟩
  rw [hfanout, hconnection] at htrace
  apply hregular.silent hjoined (first ++ before) (after ++ last)
  · rw [htrace]
    simp
  · rw [broadcasts_append, hafter, hlast]
    rfl

theorem Regular.silent_farewell (hregular : Regular w)
    {announceLeave : Bool}
    (hannounce : (w.clients index).joined → announceLeave)
    (hcrowded : ¬ Farewell w index) :
    Silent (nsServerDisconnectClient w index announceLeave).trace := by
  rw [Farewell, Classical.not_imp] at hcrowded
  rcases hcrowded with ⟨hjoined, hcrowded⟩
  rcases not_roomy hcrowded with ⟨other, hrecipient, hrefused⟩
  rw [hannounce hjoined]
  rcases nsServerDisconnectClient_announced
    (hregular.settled.active index hjoined) hjoined with
    ⟨notice, hnotice, heq⟩
  rcases World.departed_trace { w with clock := w.clock.rest } index
    (nsPacketSet_bodyLen hnotice) with ⟨client, connection, htrace⟩
  rw [heq]
  apply hregular.silent_fanout (v := { w with clock := w.clock.rest })
    hnotice hrecipient.2.1 hrecipient rfl hrefused rfl
    [.disconnected (w.connection index), .broadcast notice]
    (closingNotes client connection)
  · rw [htrace]
    simp
  · exact broadcasts_closingNotes _ _

/-! ## Handlers -/

/-- The handler, or the disconnection that it asks for, is silent. -/
def HandlerSilences (w : World) (index : SlotIndex)
    (handled : NsHandle × World) : Prop :=
  handled.1 = .ok ∧ Silent handled.2.trace ∨
    handled.1 = .disconnect ∧
      (w.clients index).joined ∧
      ∃ before message, Prepared w before ∧
        handled.2 = nsServerSendError before index message

theorem HandlerSilences.rejected {before : World}
    (hjoined : (w.clients index).joined) (hprepared : Prepared w before)
    (message : String) :
    HandlerSilences w index
      (.disconnect, nsServerSendError before index message) :=
  Or.inr ⟨rfl, hjoined, before, message, hprepared, rfl⟩

theorem HandlerSilences.concluded {handled : NsHandle × World}
    (hhandled : HandlerSilences w index handled) (hregular : Regular w) :
    Silent
      (if handled.1 ≠ .ok then
        nsServerDisconnectClient handled.2 index false
      else handled.2).trace := by
  rcases hhandled with ⟨hok, hsilent⟩ |
    ⟨hrejected, hjoined, before, message, hprepared, heq⟩
  · rw [if_neg (not_not.mpr hok)]
    exact hsilent
  · rw [hrejected, if_pos (by decide), heq]
    exact hregular.silent_reject hjoined hprepared message

theorem Regular.silent_welcome (hregular : Regular w)
    (hjoined : (w.clients index).joined = false) (userId : UInt32)
    {username : List UInt8}
    (hcrowded : ¬ Roomy w (some index) (joinText username)) :
    (welcomeClient w index userId username).1 = .ok ∧
      Silent (welcomeClient w index userId username).2.trace := by
  rcases welcomeClient_eq (hregular.settled.unjoined index hjoined).1 userId
    username with ⟨_, _, ack, notice, _, buf, -, -, hnotice, hwelcome⟩
  rcases not_roomy hcrowded with ⟨other, hrecipient, hrefused⟩
  have hother : other ≠ index := by
    rintro rfl
    exact hrecipient.2.2 rfl
  rw [hwelcome]
  refine ⟨rfl, ?_⟩
  have hseated := seated_appended { w with clock := w.clock.rest.rest }
    index userId username ack buf
  dsimp only at hseated
  generalize (World.seated { w with clock := w.clock.rest.rest } index
    userId username).appended index ack buf = v at hseated ⊢
  rcases hseated with ⟨hseat, hconnection, -, htrace⟩
  have hclients : v.clients other = w.clients other := by
    rw [hseat, Function.update_of_ne hother]
  have hrecipient' : Recipient none other (v.clients other) := by
    rw [hclients]
    exact ⟨hrecipient.1, hrecipient.2.1, by simp⟩
  apply hregular.silent_fanout hnotice hrecipient.2.1 hrecipient'
    (by rw [hclients]) hrefused hconnection
    [.joined (w.connection index) userId (text username),
      .enqueued (w.connection index) ack, .broadcast notice] []
  · rw [nsServerBroadcast_trace notice (nsPacketSet_bodyLen hnotice),
      htrace]
    simp
  · rfl

theorem Regular.silent_join (hregular : Regular w) (packet : NsPacket)
    (faults : SqliteFaults)
    (hcrowded : ¬ ((w.clients index).joined = false ∧
      ((nsServerJoinValidate w index packet).1 →
        (nsDbGetOrCreateUser w.database faults w.clock
          packet.body).1.isSome →
        Roomy w (some index)
          (joinText (storeUsername (w.clients index).username packet))))) :
    HandlerSilences w index (nsServerHandleJoin w index packet faults) := by
  have hcases := nsServerHandleJoin_cases w index packet faults
  generalize nsServerHandleJoin w index packet faults = handled at *
  cases hcases with
  | refused message hrefused hfits =>
      have hjoined : (w.clients index).joined := by
        rw [hrefused] at hcrowded
        simpa using hcrowded
      exact .rejected hjoined ⟨_, _, rfl⟩ message
  | unregistered hvalid hunknown =>
      have hjoined := (nsServerJoinValidate_eq_true.mp hvalid).1
      rw [hunknown] at hcrowded
      exact absurd ⟨hjoined, fun _ hknown => absurd hknown (by simp)⟩
        hcrowded
  | welcomed userId hvalid hknown =>
      have hjoined := (nsServerJoinValidate_eq_true.mp hvalid).1
      have hregistered : Regular (w.registered faults packet.body) :=
        hregular.moves (moves_registered hregular.settled faults packet.body)
      exact Or.inl (hregistered.silent_welcome hjoined userId
        fun hroomy => hcrowded ⟨hjoined, fun _ _ => hroomy⟩)

theorem Regular.silent_text (hregular : Regular w) (packet : NsPacket)
    (faults : SqliteFaults)
    (hcrowded : ¬ ((w.clients index).joined →
      packet.header.bodyLen.toNat ≠ 0 → ∀ displayText,
        nsServerBuildDisplayText (w.clients index) packet
          (nsPacketBodyMax + 1) = some displayText →
        (nsDbInsertMessage w.database faults (w.clients index).userId
          packet.body (nsUnixTimeNow w)).1 ∧
        Roomy w none displayText)) :
    HandlerSilences w index (nsServerHandleText w index packet faults) := by
  simp only [Classical.not_imp, not_forall] at hcrowded
  rcases hcrowded with ⟨hjoined, hlen, displayText, hdisplay, hcrowded⟩
  have hcases := nsServerHandleText_cases w index packet faults
  generalize nsServerHandleText w index packet faults = handled at *
  cases hcases with
  | unjoined hunjoined =>
      exact absurd (hunjoined.symm.trans hjoined) Bool.false_ne_true
  | empty _ hempty => exact absurd hempty hlen
  | long _ _ hlong =>
      exact absurd (hdisplay.symm.trans hlong) (Option.some_ne_none _)
  | unstored _ _ _ _ hstored => exact .rejected hjoined ⟨_, _, rfl⟩ _
  | broadcast shown notice _ _ hshown hstored hnotice =>
      have hsame : shown = displayText :=
        Option.some.inj (hshown.symm.trans hdisplay)
      subst hsame
      rcases not_roomy (fun hroomy => hcrowded ⟨hstored, hroomy⟩) with
        ⟨other, hrecipient, hrefused⟩
      refine Or.inl ⟨rfl, ?_⟩
      apply hregular.silent_fanout (v := w.stored index faults packet.body)
        hnotice hrecipient.2.1 hrecipient rfl hrefused rfl
        [.broadcast notice] []
      · rw [nsServerBroadcast_trace notice (nsPacketSet_bodyLen hnotice)]
        simp [World.stored, World.tick]
      · rfl

theorem Regular.silent_dispatch (hregular : Regular w) (packet : NsPacket)
    (faults : SqliteFaults)
    (hunheard : ¬ HeardPacket w index packet faults) :
    Silent (dispatchPacket w index packet faults).trace := by
  unfold HeardPacket at hunheard
  unfold dispatchPacket
  cases htype : NsPacketType.ofCode? packet.header.type with
  | none =>
      simp only [htype, Bool.not_eq_false] at hunheard ⊢
      exact hregular.silent_reject hunheard ⟨_, _, rfl⟩ _
  | some type =>
      cases type with
      | join =>
          simp only [htype] at hunheard ⊢
          exact (hregular.silent_join packet faults hunheard).concluded
            hregular
      | text =>
          simp only [htype] at hunheard ⊢
          exact (hregular.silent_text packet faults hunheard).concluded
            hregular
      | leave =>
          simp only [htype] at hunheard ⊢
          exact hregular.silent_farewell (fun _ => rfl) hunheard
      | ack | error =>
          simp only [htype, Bool.not_eq_false] at hunheard ⊢
          exact hregular.silent_reject hunheard ⟨_, _, rfl⟩ _

/-! ## Events -/

theorem Regular.silent_readable (hregular : Regular w) {sock : RecvSocket}
    {faults : SqliteFaults}
    (hunheard : ¬ Heard w (.readable index sock faults)) :
    Silent (nsServerHandleClientReadable w index sock faults).1.trace := by
  have herrno : ∀ reported, Regular (w.setErrno reported) := fun reported =>
    hregular.moves (.single (.errno w (reported.getD w.errno)))
  simp only [Heard, Classical.not_imp] at hunheard
  rcases hunheard with ⟨hactive, hunheard⟩
  unfold nsServerHandleClientReadable
  simp only
  cases hresult : (nsRecvPacket (w.clients index).socketFd sock).result with
  | closed =>
      simp only [hresult] at hunheard ⊢
      exact (herrno _).silent_farewell (fun hjoined => hjoined) hunheard
  | error =>
      simp only [hresult, Classical.not_imp] at hunheard ⊢
      rw [if_neg (by rw [hunheard.1]; exact Bool.false_ne_true)]
      exact (herrno _).silent_farewell (fun hjoined => hjoined) hunheard.2
  | ok packet =>
      simp only [hresult] at hunheard ⊢
      have hdispatched : Regular ((w.setErrno (nsRecvPacket
          (w.clients index).socketFd sock).reported).observe
            (.dispatched (w.connection index) packet)) :=
        (herrno _).moves (.single (.dispatched _ index packet hactive))
      apply hdispatched.silent_dispatch packet faults
      rwa [heardPacket_observed]

theorem Regular.silent_drain (hregular : Regular w)
    {outcomes : List SendOutcome}
    (hunheard : ¬ Heard w (.drain index outcomes)) :
    Silent (drainSlot w index outcomes).1.trace := by
  simp only [Heard, Classical.not_imp] at hunheard
  rcases hunheard with ⟨hactive, hfailed, hunheard⟩
  have hdrained : Regular
      (nsServerUpdatePollEvents (w.flushed index outcomes) index) :=
    hregular.moves (.single (.drained w index outcomes hactive))
  rcases drainSlot_cases hactive outcomes with ⟨-, heq⟩ | ⟨hsent, -⟩
  · rw [heq]
    exact hdrained.silent_farewell (fun hjoined => hjoined)
      (by rwa [farewell_flushed])
  · exact absurd hsent hfailed

/-- A step outside the condition is silent. -/
theorem Regular.silent_step (hregular : Regular w) {event : Event}
    (hunheard : ¬ Heard w event) : Silent (w.step event).trace := by
  cases event with
  | poll revents => exact absurd trivial hunheard
  | sweep => exact absurd trivial hunheard
  | accept outcome => exact absurd trivial hunheard
  | drain index outcomes =>
      have hactive : (w.clients index).active := by
        by_contra hinactive
        exact hunheard fun hactive => absurd hactive hinactive
      have hstep : w.step (.drain index outcomes) =
          (drainSlot w index outcomes).1 := if_pos hactive
      rw [hstep]
      exact hregular.silent_drain hunheard
  | readable index sock faults =>
      have hactive : (w.clients index).active := by
        by_contra hinactive
        exact hunheard fun hactive => absurd hactive hinactive
      have hstep : w.step (.readable index sock faults) =
          (nsServerHandleClientReadable w index sock faults).1 :=
        if_pos hactive
      rw [hstep]
      exact hregular.silent_readable hunheard
  | pollError index =>
      exact hregular.silent_farewell (fun hjoined => hjoined) hunheard

/-- A user who joined and sends JOIN again leaves silently. -/
theorem Regular.silent_rejoin (hregular : Regular w)
    (hjoined : (w.clients index).joined) {sock : RecvSocket}
    {packet : NsPacket}
    (hresult : (nsRecvPacket (w.clients index).socketFd sock).result =
      .ok packet)
    (htype : NsPacketType.ofCode? packet.header.type = some .join)
    (faults : SqliteFaults) :
    Silent (w.step (.readable index sock faults)).trace := by
  apply hregular.silent_step
  intro hheard
  have hread := hheard (hregular.settled.active index hjoined)
  simp only [hresult, HeardPacket, htype] at hread
  rw [hread.1] at hjoined
  exact Bool.false_ne_true hjoined

end Silencing

/-! ## Runs of the process -/

/-- At most one client has joined. -/
def Lonely (w : World) : Prop :=
  ∀ left right, (w.clients left).joined → (w.clients right).joined →
    left = right

/-- Every departure so far is announced.  When the process is killed all
sessions end and no notice goes out, so that nobody may be left who was to
hear of another one. -/
def Process.Announces : Process → Prop
  | .running w => Accounted w.trace
  | .killed w => Accounted w.trace ∧ ∀ connection other,
      Present connection w.trace → Present other w.trace →
        connection = other

/-- The event makes nobody who has joined leave unheard by somebody else. -/
def Process.Hears : Process → Event → Prop
  | .running w, event => if w.breaks event then Lonely w else Heard w event
  | .killed _, _ => True

/-- What is known of the process as long as everybody is heard. -/
def Process.Kept : Process → Prop
  | .running w => Regular w ∧ Books w.trace
  | .killed w => (Regular w ∧ Books w.trace) ∧ Lonely w

section Processes

variable {w : World} {process : Process} {event : Event}

theorem Regular.lonely_iff (hregular : Regular w) :
    Lonely w ↔ ∀ connection other, Present connection w.trace →
      Present other w.trace → connection = other := by
  simp only [hregular.order.present_iff hregular.settled]
  constructor
  · rintro hlonely _ _ ⟨left, hleft, rfl⟩ ⟨right, hright, rfl⟩
    rw [hlonely left right hleft hright]
  · intro hsame left right hleft hright
    exact hregular.order.distinct left right
      (hregular.settled.active left hleft)
      (hregular.settled.active right hright)
      (hsame _ _ ⟨left, hleft, rfl⟩ ⟨right, hright, rfl⟩)

theorem Process.Kept.announces (hkept : process.Kept) :
    process.Announces := by
  cases process with
  | running w => exact hkept.2.accounted
  | killed w =>
      exact ⟨hkept.1.2.accounted, hkept.1.1.lonely_iff.mp hkept.2⟩

theorem Process.Kept.step (hkept : process.Kept)
    (hhears : process.Hears event) : (process.step event).Kept := by
  cases process with
  | killed w => exact hkept
  | running w =>
      simp only [Process.Hears] at hhears
      simp only [Process.step]
      split_ifs at hhears ⊢
      · exact ⟨hkept, hhears⟩
      · exact ⟨hkept.1.moves
          (step_moves hkept.1.settled (admitted_anySocket w event)),
          hkept.1.step_books hhears hkept.2⟩

theorem Process.Kept.unheard (hkept : process.Kept)
    (hunheard : ¬ process.Hears event) :
    ¬ (process.step event).Announces := by
  cases process with
  | killed w => exact absurd trivial hunheard
  | running w =>
      simp only [Process.Hears] at hunheard
      simp only [Process.step]
      split_ifs at hunheard ⊢
      · exact fun hannounces =>
          hunheard (hkept.1.lonely_iff.mpr hannounces.2)
      · exact (hkept.1.silent_step hunheard).not_accounted

theorem Regular.rejoin_unheard (hregular : Regular w) {index : SlotIndex}
    (hjoined : (w.clients index).joined) {sock : RecvSocket}
    {packet : NsPacket}
    (hresult : (nsRecvPacket (w.clients index).socketFd sock).result =
      .ok packet)
    (htype : NsPacketType.ofCode? packet.header.type = some .join)
    (faults : SqliteFaults) :
    ¬ (Process.running
      (w.step (.readable index sock faults))).Announces :=
  (hregular.silent_rejoin hjoined hresult htype faults).not_accounted

end Processes

/-- Every departure is announced, in every state of a run, exactly if no
step makes somebody who has joined leave silently, and no broken pipe kills
the process while two or more have joined. -/
theorem departures_announced_iff (tables : Tables)
    (listenSocket : NsSocket) (errno : Errno) (clock : Clock)
    (events : List Event) :
    Throughout Process.step Process.Announces
        (.running (World.boot tables listenSocket errno clock)) events ↔
      Along Process.step Process.Hears
        (.running (World.boot tables listenSocket errno clock)) events := by
  have hgood : ∀ process : Process, process.Kept → process.Announces :=
    fun _ hkept => hkept.announces
  apply throughout_iff_along hgood
  · exact fun _ _ hkept hhears => hkept.step hhears
  · exact fun _ _ hkept hunheard => hkept.unheard hunheard
  · exact ⟨regular_boot tables listenSocket errno clock, books_nil⟩

/-- One run that leaves somebody unheard is enough. -/
theorem not_always_announces {tables : Tables} {listenSocket : NsSocket}
    {errno : Errno} {clock : Clock} {events : List Event} {w : World}
    (hrun : run Process.step
      (.running (World.boot tables listenSocket errno clock)) events =
        .running w) (hunheard : ¬ (Process.running w).Announces) :
    ¬ ∀ tables listenSocket errno clock events,
      (run Process.step (.running (World.boot tables listenSocket errno clock))
        events).Announces := by
  intro hall
  have hannounces := hall tables listenSocket errno clock events
  rw [hrun] at hannounces
  exact hunheard hannounces

/-- Two users join, and the second sends JOIN again. -/
def rejoinEvents : List Event :=
  [.accept (.connection 4 []), .accept (.connection 5 []),
    .readable ⟨0, nsMaxClients_pos⟩ (joinRequest 97) fun _ => false,
    .readable ⟨1, one_lt_nsMaxClients⟩ (joinRequest 98) fun _ => false]

def rejoinRun : World :=
  run World.step (World.boot .empty 3 .eagain fun _ => 0) rejoinEvents

set_option maxRecDepth 100000 in
theorem rejoinRun_joined :
    (rejoinRun.clients ⟨1, by decide⟩).joined ∧
      (rejoinRun.clients ⟨1, by decide⟩).socketFd = 5 := by
  decide +kernel

theorem joinRequest_received :
    (nsRecvPacket 5 (joinRequest 98)).result = .ok (joinPacket 98) := by
  decide +kernel

set_option maxRecDepth 100000 in
theorem rejoinRun_again :
    run Process.step (.running (World.boot .empty 3 .eagain fun _ => 0))
      (rejoinEvents ++
        [.readable ⟨1, by decide⟩ (joinRequest 98) fun _ => false]) =
      .running (rejoinRun.step
        (.readable ⟨1, by decide⟩ (joinRequest 98) fun _ => false)) := by
  rw [run_append, run_unbroken (by decide +kernel), ← rejoinRun]
  rfl

/-- The first user is not told that the second one is gone. -/
theorem departures_not_always_announced :
    ¬ ∀ tables listenSocket errno clock events,
      (run Process.step (.running (World.boot tables listenSocket errno clock))
        events).Announces := by
  have hregular : Regular rejoinRun :=
    regular_run .empty 3 .eagain (fun _ => 0) rejoinEvents
  rcases rejoinRun_joined with ⟨hjoined, hsocket⟩
  have hresult := joinRequest_received
  rw [← hsocket] at hresult
  exact not_always_announces rejoinRun_again
    (hregular.rejoin_unheard hjoined hresult rfl _)

end NodeSignal
