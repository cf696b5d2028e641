import NodeSignal.LateEvents
import NodeSignal.Scripts
import NodeSignal.Transport

/-!
# What a client writes and reads

The packets that a client sends can be received whole.  A socket on which a
send has failed is not used for sending again, and a receiver thread that has
left its loop does not receive again, so that neither of the two streams of a
socket goes on behind a packet that was cut.
-/

namespace NodeSignal

open CStrings RingWindow

/-- `ns_send_all` fails with bytes left. -/
theorem nsSendAll_failed {outcomes : List SendOutcome}
    {buffer : List UInt8} (hstatus : (nsSendAll outcomes buffer).status ≠ 0) :
    (nsSendAll outcomes buffer).sent.length < buffer.length := by
  induction outcomes generalizing buffer with
  | nil => exact absurd rfl hstatus
  | cons outcome rest ih =>
      unfold nsSendAll at hstatus ⊢
      by_cases hempty : buffer = []
      · rw [if_pos hempty] at hstatus
        exact absurd rfl hstatus
      · have hpos := List.length_pos_of_ne_nil hempty
        rw [if_neg hempty] at hstatus ⊢
        cases outcome with
        | took count =>
            have hih := ih hstatus
            have hle := sendCount_le count buffer.length
            simp only [List.length_append, List.length_take,
              List.length_drop] at hih ⊢
            omega
        | failed errno => simpa using hpos

/-- `ns_send_packet` fails in the middle of the packet. -/
theorem nsSendPacket_failed {socketFd : NsSocket} {packet : NsPacket}
    {outcomes : List SendOutcome}
    (hstatus : (nsSendPacket socketFd packet outcomes).status ≠ 0) :
    (nsSendPacket socketFd packet outcomes).sent.length <
      packet.wire.length := by
  have hwire : packet.wire.length =
      nsPacketHeaderSize + packet.payload.length := by
    rw [← sendHeaderBuffer_append_payload, List.length_append,
      sendHeaderBuffer_length]
  have hpos : 0 < nsPacketHeaderSize := by decide
  unfold nsSendPacket at hstatus ⊢
  split at hstatus
  · next hsocket =>
      rw [if_pos hsocket, List.length_nil, hwire]
      omega
  · next hsocket =>
      rw [if_neg hsocket]
      split at hstatus
      · next hlong =>
          rw [if_pos hlong, List.length_nil, hwire]
          omega
      · next hlong =>
          rw [if_neg hlong]
          simp only at hstatus ⊢
          split at hstatus
          · next hheader =>
              have hshort := nsSendAll_failed hheader
              rw [if_pos hheader]
              rw [sendHeaderBuffer_length] at hshort
              simp only
              omega
          · next hheader =>
              rw [if_neg hheader]
              split at hstatus
              · exact absurd rfl hstatus
              · next hbody =>
                  rw [if_neg hbody]
                  have hshort := nsSendAll_failed hstatus
                  have hsent := (nsSendAll_handed outcomes
                    (sendHeaderBuffer packet)).2 (not_not.mp hheader)
                  simp only [List.length_append, hsent,
                    sendHeaderBuffer_length]
                  omega

/-! ## Sending -/

/-- The packet that the main thread is about to send. -/
def MainThread.packet : MainThread → Option NsPacket
  | .storing _ _ packet => some packet
  | .sendingJoin _ packet => some packet
  | .sending _ packet => some packet
  | _ => none

def NsClientApp.Packed (app : NsClientApp) : Prop :=
  ∀ packet, app.main.packet = some packet → packet.Canonical

/-- The main thread will not send on the socket any more. -/
structure NsClientApp.Mute (app : NsClientApp) (socket : ℕ) : Prop where
  known : socket < app.sockets
  target : app.main.target ≠ some socket
  sending : ∀ packet, app.main ≠ .sending socket packet
  leaving : ∀ notifyServer wasJoined userId resume,
    app.main = .leaving (some socket) notifyServer wasJoined userId resume →
      notifyServer = false
  stored : app.socketFd = some socket →
    ∃ resume, app.main = .taking false resume

section Sending

variable {app : NsClientApp} {socket : ℕ}

open NsClientApp

theorem packed_boot : NsClientApp.boot.Packed := by
  intro packet hpacket
  simp [NsClientApp.boot, MainThread.packet] at hpacket

theorem NsClientApp.Packed.of_none {app : NsClientApp}
    (hnone : app.main.packet = none) : app.Packed := by
  intro packet hpacket
  exact absurd (hnone.symm.trans hpacket) (by simp)

theorem NsClientApp.Packed.of_same {app' : NsClientApp}
    (hpacked : app.Packed) (hmain : app'.main = app.main) :
    app'.Packed := by
  unfold Packed
  rw [hmain]
  exact hpacked

@[simp] theorem resume_packet (app : NsClientApp) (resume : Resume) :
    (app.resume resume).main.packet = none := by
  cases resume <;> rfl

theorem unlinkReceiverThread_packet (app : NsClientApp) (resume : Resume) :
    (app.unlinkReceiverThread resume).main.packet = none := by
  unfold unlinkReceiverThread
  split
  · exact resume_packet app resume
  · simp only
    split
    · rfl
    · exact resume_packet _ resume

theorem NsClientApp.Packed.continueCallback (hpacked : app.Packed)
    (sendOk : Bool) : (app.continueCallback sendOk).Packed := by
  unfold NsClientApp.continueCallback
  split
  · exact hpacked
  · next socket login packet hmain =>
      intro packet' hpacket'
      apply hpacked packet'
      rw [hmain]
      exact hpacket'
  · split
    · exact .of_none rfl
    · exact .of_none rfl
  · exact .of_none rfl
  · split
    · exact .of_none rfl
    · exact .of_none rfl
  · exact .of_none rfl
  · exact .of_none rfl
  · exact .of_none rfl
  · exact .of_none (unlinkReceiverThread_packet app _)
  · split
    · exact .of_none (resume_packet app _)
    · exact hpacked

theorem receiveLoop_main (app : NsClientApp) (thread : ℕ)
    (received : Option NsPacket) :
    (app.receiveLoop thread received).main = app.main := by
  unfold receiveLoop
  split
  · rfl
  · split <;> rfl
  · split <;> rfl
  · simp only
    split <;> rfl
  all_goals rfl

theorem NsClientApp.Packed.step (hpacked : app.Packed)
    (action : ClientAction) : (app.step action).Packed := by
  apply NsClientApp.step_cases (motive := NsClientApp.Packed) app action
  · exact hpacked
  · intro login failure now hmain _
    unfold onConnectClicked
    split
    · exact hpacked
    · exact hpacked
    · simp only
      split
      · exact hpacked
      · next packet hset =>
          intro packet' hpacket'
          rw [← Option.some.inj hpacket']
          exact nsPacketSet_canonical (by decide) hset
  · intro message now hmain
    unfold onSendClicked
    split
    · exact hpacked
    · split
      · split
        · exact hpacked
        · next packet hset =>
            intro packet' hpacket'
            rw [← Option.some.inj hpacket']
            exact nsPacketSet_canonical (by decide) hset
      · exact hpacked
  · exact fun _ => .of_none rfl
  · intro hmain
    unfold dispatchUiEvent
    split
    · exact hpacked
    · simp only
      split
      · exact hpacked
      · exact hpacked
      · exact .of_none rfl
      · exact hpacked
  · exact fun sendOk _ => hpacked.continueCallback sendOk
  · exact fun thread received _ =>
      hpacked.of_same (receiveLoop_main app thread received)

/-- What a client sends can be received whole. -/
theorem NsClientApp.Packed.outgoing (hpacked : app.Packed) {now : UInt32}
    {action : ClientAction} {packet : NsPacket}
    (houtgoing : app.outgoing now action = some (socket, packet)) :
    packet.Canonical := by
  unfold NsClientApp.outgoing at houtgoing
  split at houtgoing
  · split at houtgoing
    · next socket' packet' hmain =>
        injection houtgoing with heq
        injection heq with _ heq
        subst heq
        exact hpacked packet' (by rw [hmain]; rfl)
    · next socket' packet' hmain =>
        injection houtgoing with heq
        injection heq with _ heq
        subst heq
        exact hpacked packet' (by rw [hmain]; rfl)
    · next hmain =>
        rw [Option.map_eq_some_iff] at houtgoing
        rcases houtgoing with ⟨leave, hleave, heq⟩
        injection heq with _ heq
        subst heq
        unfold leavePacketIfNeeded at hleave
        split at hleave
        · exact absurd hleave (by simp)
        · exact nsPacketSet_canonical (by decide) hleave
    · exact absurd houtgoing (by simp)
  · exact absurd houtgoing (by simp)

/-! ## Silence after a failed send -/

theorem NsClientApp.Mute.goOn (hmute : app.Mute socket)
    {app' : NsClientApp} (hsockets : app.sockets ≤ app'.sockets)
    (hsocketFd : app'.socketFd = some socket → app.socketFd = some socket)
    (hbusy : ∀ resume, app.main ≠ .taking false resume)
    (htarget : app'.main.target ≠ some socket)
    (hsending : ∀ packet, app'.main ≠ .sending socket packet)
    (hleaving : ∀ socket' notifyServer wasJoined userId resume,
      app'.main ≠ .leaving socket' notifyServer wasJoined userId resume) :
    app'.Mute socket where
  known := hmute.known.trans_le hsockets
  target := htarget
  sending := hsending
  leaving := by
    intro notifyServer wasJoined userId resume hmain
    exact absurd hmain (hleaving _ _ _ _ _)
  stored := by
    intro hstored
    rcases hmute.stored (hsocketFd hstored) with ⟨resume, hmain⟩
    exact absurd hmain (hbusy resume)

/-- The main thread is in no state that knows a socket. -/
theorem NsClientApp.Mute.ends (hmute : app.Mute socket)
    {app' : NsClientApp} (hsockets : app'.sockets = app.sockets)
    (hsocketFd : app'.socketFd = app.socketFd)
    (hbusy : ∀ resume, app.main ≠ .taking false resume)
    (hmain : app'.main = .idle ∨ (∃ resume, app'.main = .unlinking resume) ∨
      (∃ socket' resume, app'.main = .closing socket' resume) ∨
      ∃ thread resume, app'.main = .joining thread resume) :
    app'.Mute socket := by
  apply hmute.goOn hsockets.ge (by rw [hsocketFd]; exact id) hbusy
  all_goals
    rcases hmain with hmain | ⟨_, hmain⟩ | ⟨_, _, hmain⟩ | ⟨_, _, hmain⟩ <;>
      simp [hmain, MainThread.target]

theorem resume_idle (app : NsClientApp) (resume : Resume) :
    (app.resume resume).main = .idle ∧
      (app.resume resume).sockets = app.sockets ∧
      (app.resume resume).socketFd = app.socketFd := by
  cases resume <;> exact ⟨rfl, rfl, rfl⟩

theorem NsClientApp.Mute.unlinks (hmute : app.Mute socket)
    (resume : Resume) (hbusy : ∀ resume, app.main ≠ .taking false resume) :
    (app.unlinkReceiverThread resume).Mute socket := by
  unfold unlinkReceiverThread
  split
  · rcases resume_idle app resume with ⟨hidle, hsockets, hsocketFd⟩
    exact hmute.ends hsockets hsocketFd hbusy (Or.inl hidle)
  · simp only
    split
    · exact hmute.ends rfl rfl hbusy
        (Or.inr (Or.inr (Or.inr ⟨_, _, rfl⟩)))
    · rcases resume_idle { app with
        receiverThread := none
        receiverThreadActive := false } resume with
        ⟨hidle, hsockets, hsocketFd⟩
      exact hmute.ends hsockets hsocketFd hbusy (Or.inl hidle)

theorem NsClientApp.Mute.continueCallback (hmute : app.Mute socket)
    (sendOk : Bool) : (app.continueCallback sendOk).Mute socket := by
  have htarget := hmute.target
  have hstored := hmute.stored
  unfold NsClientApp.continueCallback
  split
  · exact hmute
  · next own login packet hmain =>
      have hne : own ≠ socket := by
        rintro rfl
        exact htarget (by rw [hmain]; rfl)
      refine ⟨hmute.known, ?_, ?_, ?_, ?_⟩
      · simpa [MainThread.target] using hne
      · simp
      · simp
      · intro hown
        exact absurd (Option.some.inj hown) hne
  · next own packet hmain =>
      split
      · refine hmute.goOn le_rfl id (by simp [hmain]) ?_ (by simp) (by simp)
        rw [hmain] at htarget
        exact htarget
      · refine ⟨hmute.known, ?_, ?_, ?_, fun _ => ⟨_, rfl⟩⟩
        · simp [MainThread.target]
        · simp
        · simp
  · next own hmain =>
      exact hmute.ends rfl rfl (by simp [hmain]) (Or.inl rfl)
  · next own packet hmain =>
      split
      · exact hmute.ends rfl rfl (by simp [hmain]) (Or.inl rfl)
      · refine ⟨hmute.known, ?_, ?_, ?_, fun _ => ⟨_, rfl⟩⟩
        · simp [MainThread.target]
        · simp
        · simp
  · next notifyServer resume hmain =>
      refine ⟨hmute.known, ?_, ?_, ?_, ?_⟩
      · simp [MainThread.target]
      · simp
      · intro notifyServer' wasJoined userId resume' heq
        injection heq with hsocket hnotify
        rcases hstored hsocket with ⟨_, htaking⟩
        rw [hmain] at htaking
        injection htaking with hfalse
        rw [← hnotify, hfalse]
      · exact fun hnone => absurd hnone (by simp [takeSocket])
  · next hmain =>
      exact hmute.ends rfl rfl (by simp [hmain])
        (Or.inr (Or.inr (Or.inl ⟨_, _, rfl⟩)))
  · next hmain =>
      exact hmute.ends rfl rfl (by simp [hmain]) (Or.inr (Or.inl ⟨_, rfl⟩))
  · next resume hmain => exact hmute.unlinks resume (by simp [hmain])
  · next thread resume hmain =>
      split
      · rcases resume_idle app resume with ⟨hidle, hsockets, hsocketFd⟩
        exact hmute.ends hsockets hsocketFd (by simp [hmain])
          (Or.inl hidle)
      · exact hmute

theorem receiveLoop_sockets (app : NsClientApp) (thread : ℕ)
    (received : Option NsPacket) :
    (app.receiveLoop thread received).sockets = app.sockets ∧
      ((app.receiveLoop thread received).socketFd = none ∨
        (app.receiveLoop thread received).socketFd = app.socketFd) := by
  unfold receiveLoop
  split
  · exact ⟨rfl, Or.inr rfl⟩
  · split <;> exact ⟨rfl, Or.inr rfl⟩
  · split <;> exact ⟨rfl, Or.inr rfl⟩
  · simp only
    split <;> exact ⟨rfl, Or.inr rfl⟩
  · exact ⟨rfl, Or.inr rfl⟩
  · exact ⟨rfl, Or.inr rfl⟩
  · exact ⟨rfl, Or.inl rfl⟩
  · exact ⟨rfl, Or.inr rfl⟩
  · exact ⟨rfl, Or.inr rfl⟩
  · exact ⟨rfl, Or.inr rfl⟩

theorem NsClientApp.Mute.receives (hmute : app.Mute socket) (thread : ℕ)
    (received : Option NsPacket) :
    (app.receiveLoop thread received).Mute socket := by
  have hmain := receiveLoop_main app thread received
  rcases receiveLoop_sockets app thread received with ⟨hsockets, hsocketFd⟩
  refine ⟨hsockets ▸ hmute.known, ?_, ?_, ?_, ?_⟩
  · rw [hmain]
    exact hmute.target
  · rw [hmain]
    exact hmute.sending
  · rw [hmain]
    exact hmute.leaving
  · intro hstored
    rw [hmain]
    rcases hsocketFd with hnone | hsame
    · exact absurd (hnone.symm.trans hstored) (by simp)
    · exact hmute.stored (hsame.symm.trans hstored)

theorem NsClientApp.Mute.step (hmute : app.Mute socket)
    (action : ClientAction) : (app.step action).Mute socket := by
  apply NsClientApp.step_cases (motive := fun app => app.Mute socket) app
    action
  · exact hmute
  · intro login failure now hmain _
    have hbusy : ∀ resume, app.main ≠ .taking false resume := by
      simp [hmain]
    unfold onConnectClicked
    split
    · exact hmute.ends rfl rfl hbusy (Or.inl hmain)
    · exact hmute.ends rfl rfl hbusy (Or.inl hmain)
    · simp only
      split
      · exact hmute.goOn (Nat.le_succ _) id hbusy
          (by simp [closeSocket, setStatus, hmain, MainThread.target])
          (by simp [closeSocket, setStatus, hmain])
          (by simp [closeSocket, setStatus, hmain])
      · refine hmute.goOn (Nat.le_succ _) id hbusy ?_ (by simp) (by simp)
        simpa [MainThread.target] using hmute.known.ne'
  · intro message now hmain
    have hbusy : ∀ resume, app.main ≠ .taking false resume := by
      simp [hmain]
    unfold onSendClicked
    split
    · exact hmute
    · split
      · next own hsocket hjoined =>
          split
          · exact hmute.ends rfl rfl hbusy (Or.inl hmain)
          · refine hmute.goOn le_rfl id hbusy (by simp [MainThread.target])
              ?_ (by simp)
            rintro packet heq
            injection heq with hown
            subst hown
            rcases hmute.stored hsocket with ⟨resume, htaking⟩
            exact hbusy resume htaking
      · exact hmute.ends rfl rfl hbusy (Or.inl hmain)
  · intro hmain
    exact hmute.goOn le_rfl id (by simp [hmain]) (by simp [MainThread.target])
      (by simp) (by simp)
  · intro hmain
    have hbusy : ∀ resume, app.main ≠ .taking false resume := by
      simp [hmain]
    unfold dispatchUiEvent
    split
    · exact hmute
    · simp only
      split
      · exact hmute.ends rfl rfl hbusy (Or.inl hmain)
      · exact hmute.ends rfl rfl hbusy (Or.inl hmain)
      · exact hmute.ends rfl rfl hbusy (Or.inr (Or.inl ⟨_, rfl⟩))
      · exact hmute.ends rfl rfl hbusy (Or.inl hmain)
  · exact fun sendOk _ => hmute.continueCallback sendOk
  · exact fun thread received _ => hmute.receives thread received

/-- Nothing is sent on a socket that is mute. -/
theorem NsClientApp.Mute.outgoing (hmute : app.Mute socket) (now : UInt32)
    (action : ClientAction) (packet : NsPacket) :
    app.outgoing now action ≠ some (socket, packet) := by
  intro houtgoing
  unfold NsClientApp.outgoing at houtgoing
  split at houtgoing
  · split at houtgoing
    · next own packet' hmain =>
        injection houtgoing with heq
        injection heq with hown
        apply hmute.target
        rw [hmain, hown]
        rfl
    · next own packet' hmain =>
        injection houtgoing with heq
        injection heq with hown
        rw [hown] at hmain
        exact hmute.sending packet' hmain
    · next own notifyServer wasJoined userId resume hmain =>
        rw [Option.map_eq_some_iff] at houtgoing
        rcases houtgoing with ⟨leave, hleave, heq⟩
        injection heq with hown
        rw [hown] at hmain
        have hnotify := (leavePacketIfNeeded_eq_some hleave).1
        rw [hmute.leaving _ _ _ _ hmain] at hnotify
        exact Bool.false_ne_true hnotify
    · exact absurd houtgoing (by simp)
  · exact absurd houtgoing (by simp)

/-- A failed send leaves the socket mute. -/
theorem Station.Mannered.mute {station : Station}
    (hmannered : station.Mannered) {now : UInt32} {packet : NsPacket}
    (houtgoing : station.app.outgoing now (.proceed true) =
      some (socket, packet)) :
    (station.app.step (.proceed false)).Mute socket := by
  have howned := hmannered.owned
  unfold NsClientApp.outgoing at houtgoing
  simp only at houtgoing
  unfold NsClientApp.step NsClientApp.continueCallback
  simp only
  split at houtgoing
  · next own packet' hmain =>
      injection houtgoing with heq
      injection heq with hown
      subst hown
      have hknown := (howned.target own (by rw [hmain]; rfl)).1
      simp only [hmain]
      refine ⟨hknown, ?_, ?_, ?_, fun _ => ⟨_, rfl⟩⟩
      · simp [MainThread.target]
      · simp
      · simp
  · next own packet' hmain =>
      injection houtgoing with heq
      injection heq with hown
      subst hown
      have hpoised := hmannered.poised
      rw [hmain] at hpoised
      have hknown : own < station.app.sockets := by
        by_contra hfresh
        rcases hmannered.fresh own (not_lt.mp hfresh) with ⟨hsilent, -⟩
        rcases hpoised with ⟨-, -, name, hspeaking⟩
        exact hspeaking.ne_nil hsilent
      simp only [hmain]
      refine ⟨hknown, ?_, ?_, ?_, fun _ => ⟨_, rfl⟩⟩
      · simp [MainThread.target]
      · simp
      · simp
  · next own notifyServer wasJoined userId resume hmain =>
      rw [Option.map_eq_some_iff] at houtgoing
      rcases houtgoing with ⟨leave, hleave, heq⟩
      injection heq with hown
      subst hown
      have htoken : own ∈ station.app.tokens := by
        simp [NsClientApp.tokens, MainThread.held, hmain]
      have hknown : own < station.app.sockets := by
        by_contra hfresh
        exact (howned.fresh own (not_lt.mp hfresh)).2 htoken
      have hheld : station.app.socketFd ≠ some own := by
        intro hstored
        have hnodup := howned.nodup
        simp [NsClientApp.tokens, MainThread.held, hmain, hstored]
          at hnodup
      simp only [hmain]
      refine ⟨hknown, ?_, ?_, ?_, fun hstored => absurd hstored hheld⟩
      · simp [MainThread.target]
      · simp
      · simp
  · exact absurd houtgoing (by simp)

end Sending

/-! ## Receiving -/

/-- The thread has left its loop. -/
def ReceiverThread.Done (state : ReceiverThread) : Prop :=
  state = .taking ∨ state.Past

section Receiving

variable {app : NsClientApp} {thread : ℕ}

open NsClientApp

theorem unlinkReceiverThread_threads (app : NsClientApp)
    (resume : Resume) :
    (app.unlinkReceiverThread resume).threads = app.threads := by
  unfold unlinkReceiverThread
  split
  · exact NsClientApp.resume_threads resume
  · simp only
    split
    · rfl
    · exact NsClientApp.resume_threads resume

/-- Inside a callback, no thread changes but the one that is started. -/
theorem continueCallback_threads (app : NsClientApp) (sendOk : Bool) :
    (app.continueCallback sendOk).threads = app.threads ∨
      ∃ socket, app.main = .starting socket ∧
        (app.continueCallback sendOk).threads =
          Function.update app.threads socket .starting := by
  unfold NsClientApp.continueCallback
  split
  · exact Or.inl rfl
  · exact Or.inl rfl
  · split <;> exact Or.inl rfl
  · next socket hmain => exact Or.inr ⟨socket, hmain, rfl⟩
  · split <;> exact Or.inl rfl
  · exact Or.inl rfl
  · exact Or.inl rfl
  · exact Or.inl rfl
  · exact Or.inl (unlinkReceiverThread_threads app _)
  · split
    · exact Or.inl (NsClientApp.resume_threads _)
    · exact Or.inl rfl

/-- A thread that is done is not taken up again. -/
theorem NsClientApp.Owned.done_step (howned : app.Owned)
    (hdone : (app.threads thread).Done) (action : ClientAction) :
    ((app.step action).threads thread).Done := by
  apply NsClientApp.step_cases
    (motive := fun app' => (app'.threads thread).Done) app action
  · exact hdone
  · intro login failure now _ _
    unfold NsClientApp.onConnectClicked
    split
    · exact hdone
    · exact hdone
    · simp only
      split <;> exact hdone
  · intro message now _
    unfold NsClientApp.onSendClicked
    split
    · exact hdone
    · split
      · split <;> exact hdone
      · exact hdone
  · exact fun _ => hdone
  · intro _
    unfold NsClientApp.dispatchUiEvent
    split
    · exact hdone
    · simp only
      split <;> exact hdone
  · intro sendOk _
    rcases continueCallback_threads app sendOk with
      hsame | ⟨socket, hmain, hthreads⟩
    · rw [hsame]
      exact hdone
    · have habsent := (howned.target socket (by rw [hmain]; rfl)).2
      have hne : thread ≠ socket := by
        rintro rfl
        rw [habsent] at hdone
        simp [ReceiverThread.Done, ReceiverThread.Past] at hdone
      rw [hthreads, Function.update_of_ne hne]
      exact hdone
  · intro own received _
    by_cases hown : thread = own
    · subst hown
      unfold NsClientApp.receiveLoop
      split <;> rename_i hstate
      all_goals
        rw [hstate] at hdone
        simp_all [ReceiverThread.Done, ReceiverThread.Past, setThread,
          takeSocket, closeSocket, queueUiEvent]
    · have hsame : (app.receiveLoop own received).threads thread =
          app.threads thread := by
        unfold NsClientApp.receiveLoop
        split
        · rfl
        · split <;> exact Function.update_of_ne hown _ _
        · split <;> exact Function.update_of_ne hown _ _
        · simp only
          split <;> exact Function.update_of_ne hown _ _
        all_goals
          first
            | exact Function.update_of_ne hown _ _
            | rfl
      rw [hsame]
      exact hdone

/-- A call of `ns_recv_packet` that returns no packet is the last of its
thread. -/
theorem receiveLoop_none {socket : ℕ}
    (hstate : app.threads thread = .receiving socket) :
    ((app.receiveLoop thread none).threads thread).Done := by
  unfold receiveLoop
  rw [hstate]
  simp [setThread, ReceiverThread.Done]

end Receiving

end NodeSignal
