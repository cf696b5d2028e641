import NodeSignal.SocketOwners

/-!
# Disconnect events that come late

A disconnect event does not say which connection it is about.  If it is
still queued when the receiver thread of a later connection starts, the main
thread ends up waiting for that thread.
-/

namespace NodeSignal

open CStrings Runs

/-- What the main thread will do once it has unlinked the thread. -/
def MainThread.resuming : MainThread → Option Resume
  | .taking _ resume => some resume
  | .leaving _ _ _ _ resume => some resume
  | .closing _ resume => some resume
  | .unlinking resume => some resume
  | _ => none

/-- The disconnect event of the given thread is being handled. -/
def MainThread.Handles (main : MainThread) (origin : ℕ) : Prop :=
  match main with
  | .unlinking (.disconnected _ own) => own = origin
  | .joining _ (.disconnected _ own) => own = origin
  | _ => False

/-- The thread that is waited for on behalf of a disconnect event is the one
that queued it, and no later connection is stored meanwhile. -/
structure OwnEvents (app : NsClientApp) : Prop where
  joins : ∀ thread text origin,
    app.main = .joining thread (.disconnected text origin) →
      thread = origin
  stored : ∀ origin socket, app.main.Handles origin →
    app.socketFd = some socket → socket = origin

/-- A receiver thread is started only when no disconnect event is queued. -/
def Cleared (app : NsClientApp) : ClientAction → Prop
  | .proceed _ => ∀ socket, app.main = .starting socket →
      ∀ event ∈ app.events, event.type ≠ .disconnected
  | _ => True

/-- What a thread still has to post, and where the queued events come
from. -/
structure Sourced (app : NsClientApp) : Prop where
  posted : ∀ thread socket events,
    app.threads thread = .posting socket events →
      ∀ event ∈ events, event.type ≠ .disconnected ∧
        event.origin = thread
  known : ∀ event ∈ app.events, app.threads event.origin ≠ .absent

structure Prompt (app : NsClientApp) : Prop where
  owned : app.Owned
  sourced : Sourced app
  recorded : ∀ event ∈ app.events, event.type = .disconnected →
    app.receiverThreadActive = true →
      app.receiverThread = some event.origin
  resuming : ∀ text origin,
    app.main.resuming = some (.disconnected text origin) →
      app.receiverThreadActive = true →
        app.receiverThread = some origin
  joining : ∀ thread text origin,
    app.main = .joining thread (.disconnected text origin) →
      thread = origin

theorem sourced_boot : Sourced .boot := by
  constructor <;> simp [NsClientApp.boot]

theorem prompt_boot : Prompt .boot := by
  refine ⟨sockets_owned_boot, sourced_boot, ?_, ?_, ?_⟩ <;>
    simp [NsClientApp.boot, MainThread.resuming]

theorem packetEvents_type {thread : ℕ} {packet : NsPacket}
    {event : NsUiEvent}
    (hevent : event ∈ NsClientApp.packetEvents thread packet) :
    event.type ≠ .disconnected ∧ event.origin = thread := by
  unfold NsClientApp.packetEvents at hevent
  dsimp only at hevent
  split at hevent <;>
    simp only [List.mem_cons, List.not_mem_nil, or_false] at hevent
  · simp [hevent]
  · rcases hevent with hevent | hevent <;> simp [hevent]
  · simp [hevent]
  · simp [hevent]

section Steps

variable {app app' : NsClientApp}

/-! ## Sources -/

theorem Sourced.congr (hsourced : Sourced app)
    (hevents : ∀ event ∈ app'.events, event ∈ app.events)
    (hthreads : app'.threads = app.threads) : Sourced app' := by
  constructor
  · rw [hthreads]
    exact hsourced.posted
  · rw [hthreads]
    exact fun event hevent => hsourced.known event (hevents event hevent)

theorem Sourced.setThread (hsourced : Sourced app) {thread : ℕ}
    {state : ReceiverThread} (hstate : state ≠ .absent)
    (hposting : ∀ socket events, state = .posting socket events →
      ∀ event ∈ events, event.type ≠ .disconnected ∧
        event.origin = thread)
    (hevents : ∀ event ∈ app'.events,
      event ∈ app.events ∨ event.origin = thread)
    (hthreads : app'.threads = Function.update app.threads thread state) :
    Sourced app' := by
  constructor
  · intro other socket events
    rw [hthreads]
    by_cases hsame : other = thread
    · subst hsame
      rw [Function.update_self]
      exact hposting socket events
    · rw [Function.update_of_ne hsame]
      exact hsourced.posted other socket events
  · intro event hevent
    rw [hthreads]
    by_cases hsame : event.origin = thread
    · rw [hsame, Function.update_self]
      exact hstate
    · rw [Function.update_of_ne hsame]
      exact hsourced.known event ((hevents event hevent).resolve_right hsame)

theorem Sourced.receiveLoop (hsourced : Sourced app) (thread : ℕ)
    (received : Option NsPacket) :
    Sourced (app.receiveLoop thread received) := by
  have hown : ∀ {state : ReceiverThread}, state ≠ .absent →
      (∀ socket events, state ≠ .posting socket events) →
      Sourced (app.setThread thread state) := by
    intro state hstate hnot
    exact hsourced.setThread hstate
      (fun socket events h => absurd h (hnot socket events))
      (fun _ => Or.inl) rfl
  unfold NsClientApp.receiveLoop
  cases hstate : app.threads thread with
  | absent => exact hsourced
  | finished => exact hsourced
  | starting =>
      cases hsocket : app.socketFd with
      | none => exact hown (by simp) (by simp)
      | some socket => exact hown (by simp) (by simp)
  | receiving socket =>
      cases received with
      | none => exact hown (by simp) (by simp)
      | some packet => exact hown (by simp) (by simp)
  | handling socket packet =>
      have hevents : ∀ own events,
          ReceiverThread.posting socket
              (NsClientApp.packetEvents thread packet) =
            .posting own events →
          ∀ event ∈ events, event.type ≠ .disconnected ∧
            event.origin = thread := by
        rintro own events heq event hevent
        rw [ReceiverThread.posting.injEq] at heq
        exact packetEvents_type (heq.2 ▸ hevent)
      dsimp only
      split_ifs <;>
        exact hsourced.setThread (by simp) hevents (fun _ => Or.inl) rfl
  | posting socket events =>
      have hposted := hsourced.posted thread socket events hstate
      cases events with
      | nil => exact hown (by simp) (by simp)
      | cons event rest =>
          apply hsourced.setThread (by simp) _ _ rfl
          · rintro own events heq other hother
            rw [ReceiverThread.posting.injEq] at heq
            exact hposted other
              (List.mem_cons_of_mem _ (heq.2 ▸ hother))
          · intro other hother
            rcases List.mem_append.mp hother with hold | hnew
            · exact Or.inl hold
            · rw [List.mem_singleton.mp hnew]
              exact Or.inr (hposted event List.mem_cons_self).2
  | taking =>
      refine hsourced.setThread ?_ ?_ (fun _ => Or.inl) rfl <;> simp
  | closing socket =>
      refine hsourced.setThread ?_ ?_ (fun _ => Or.inl) rfl <;> simp
  | queueing =>
      apply hsourced.setThread (by simp) (by simp) _ rfl
      intro event hevent
      rcases List.mem_append.mp hevent with hold | hnew
      · exact Or.inl hold
      · rw [List.mem_singleton.mp hnew]
        exact Or.inr rfl

@[simp] theorem NsClientApp.resume_events (resume : Resume) :
    (app.resume resume).events = app.events := by
  cases resume <;> rfl

@[simp] theorem NsClientApp.resume_threads (resume : Resume) :
    (app.resume resume).threads = app.threads := by
  cases resume <;> rfl

@[simp] theorem NsClientApp.resume_main (resume : Resume) :
    (app.resume resume).main = .idle := by
  cases resume <;> rfl

@[simp] theorem NsClientApp.resume_receiverThreadActive
    (resume : Resume) :
    (app.resume resume).receiverThreadActive =
      app.receiverThreadActive := by
  cases resume <;> rfl

@[simp] theorem NsClientApp.unlinkReceiverThread_events
    (resume : Resume) :
    (app.unlinkReceiverThread resume).events = app.events := by
  unfold unlinkReceiverThread
  split_ifs
  · simp
  · split <;> simp

@[simp] theorem NsClientApp.unlinkReceiverThread_threads
    (resume : Resume) :
    (app.unlinkReceiverThread resume).threads = app.threads := by
  unfold unlinkReceiverThread
  split_ifs
  · simp
  · split <;> simp

/-- What a callback of the user leaves alone when it starts. -/
structure Begun (app app' : NsClientApp) : Prop where
  events : app'.events = app.events
  threads : app'.threads = app.threads
  active : app'.receiverThreadActive = app.receiverThreadActive
  receiver : app'.receiverThread = app.receiverThread
  main : app'.main = app.main ∨ app'.main.resuming = none ∧
    ∀ thread resume, app'.main ≠ .joining thread resume

theorem begun_onSendClicked (app : NsClientApp) (message : List UInt8)
    (now : UInt32) : Begun app (app.onSendClicked message now) := by
  unfold NsClientApp.onSendClicked
  split_ifs
  · exact ⟨rfl, rfl, rfl, rfl, Or.inl rfl⟩
  · split
    · split
      · exact ⟨rfl, rfl, rfl, rfl, Or.inl rfl⟩
      · exact ⟨rfl, rfl, rfl, rfl, Or.inr ⟨rfl, by simp⟩⟩
    · exact ⟨rfl, rfl, rfl, rfl, Or.inl rfl⟩

theorem begun_onConnectClicked (app : NsClientApp) (login : LoginForm)
    (failure : Option (List UInt8)) (now : UInt32) :
    Begun app (app.onConnectClicked login failure now) := by
  unfold NsClientApp.onConnectClicked
  split
  · exact ⟨rfl, rfl, rfl, rfl, Or.inl rfl⟩
  · exact ⟨rfl, rfl, rfl, rfl, Or.inl rfl⟩
  · dsimp only
    split
    · exact ⟨rfl, rfl, rfl, rfl, Or.inl rfl⟩
    · exact ⟨rfl, rfl, rfl, rfl, Or.inr ⟨rfl, by simp⟩⟩

theorem Sourced.begun (hsourced : Sourced app) (hbegun : Begun app app') :
    Sourced app' :=
  hsourced.congr (fun _ h => hbegun.events ▸ h) hbegun.threads

theorem Sourced.continueCallback (hsourced : Sourced app)
    (sendOk : Bool) : Sourced (app.continueCallback sendOk) := by
  have hsame : ∀ {app' : NsClientApp}, app'.events = app.events →
      app'.threads = app.threads → Sourced app' := by
    intro app' hevents hthreads
    exact hsourced.congr (fun event h => hevents ▸ h) hthreads
  unfold NsClientApp.continueCallback
  cases hmain : app.main with
  | starting socket =>
      exact hsourced.setThread (by simp) (by simp) (fun _ => Or.inl) rfl
  | unlinking resume => exact hsame (by simp) (by simp)
  | joining thread resume =>
      dsimp only
      split_ifs
      · exact hsame (by simp) (by simp)
      · exact hsourced
  | sendingJoin socket packet =>
      dsimp only
      split_ifs <;> exact hsame rfl rfl
  | sending socket packet =>
      dsimp only
      split_ifs <;> exact hsame rfl rfl
  | _ => exact hsame rfl rfl

theorem Sourced.dispatchUiEvent (hsourced : Sourced app) :
    Sourced app.dispatchUiEvent := by
  unfold NsClientApp.dispatchUiEvent
  split
  · exact hsourced
  · next event rest hevents =>
      have hrest : ∀ other ∈ rest, other ∈ app.events := by
        rw [hevents]
        exact fun other => List.mem_cons_of_mem event
      dsimp only
      split <;> exact hsourced.congr hrest rfl

theorem Sourced.step (hsourced : Sourced app) (action : ClientAction) :
    Sourced (app.step action) := by
  apply NsClientApp.step_cases app action hsourced
  · intro login failure now _ _
    exact hsourced.begun (begun_onConnectClicked app login failure now)
  · intro message now _
    exact hsourced.begun (begun_onSendClicked app message now)
  · exact fun _ => hsourced.congr (fun _ => id) rfl
  · exact fun _ => hsourced.dispatchUiEvent
  · exact fun sendOk _ => hsourced.continueCallback sendOk
  · exact fun thread received _ => hsourced.receiveLoop thread received

/-! ## Prompt events -/

/-- A step that leaves the record of the receiver thread alone. -/
theorem Prompt.goOn (hprompt : Prompt app) (howned : app'.Owned)
    (hsourced : Sourced app')
    (hactive : app'.receiverThreadActive = app.receiverThreadActive)
    (hreceiver : app'.receiverThread = app.receiverThread)
    (hevents : ∀ event ∈ app'.events, event.type = .disconnected →
      event ∈ app.events ∨
        (app.threads event.origin).Running)
    (hresuming : ∀ text origin,
      app'.main.resuming = some (.disconnected text origin) →
        app.main.resuming = some (.disconnected text origin) ∨
          ∃ event ∈ app.events, event.type = .disconnected ∧
            event.origin = origin)
    (hjoining : ∀ thread text origin,
      app'.main = .joining thread (.disconnected text origin) →
        app.main = .joining thread (.disconnected text origin)) :
    Prompt app' := by
  refine ⟨howned, hsourced, ?_, ?_, ?_⟩
  · rw [hactive, hreceiver]
    intro event hevent htype hrecord
    rcases hevents event hevent htype with hold | hrunning
    · exact hprompt.recorded event hold htype hrecord
    · rcases hprompt.owned.running _ hrunning with ⟨_, hsame⟩ |
        ⟨resume, hmain⟩
      · exact hsame
      · have hidle := hprompt.owned.joining _ _ hmain
        exact absurd (hidle.symm.trans hrecord) Bool.false_ne_true
  · rw [hactive, hreceiver]
    intro text origin hmain hrecord
    rcases hresuming text origin hmain with hold | ⟨event, hevent, htype,
      rfl⟩
    · exact hprompt.resuming text origin hold hrecord
    · exact hprompt.recorded event hevent htype hrecord
  · exact fun thread text origin h =>
      hprompt.joining thread text origin (hjoining thread text origin h)

theorem Prompt.begun (hprompt : Prompt app) (hbegun : Begun app app')
    (howned : app'.Owned) : Prompt app' := by
  apply hprompt.goOn howned (hprompt.sourced.begun hbegun) hbegun.active
    hbegun.receiver
  · exact fun _ h _ => Or.inl (hbegun.events ▸ h)
  · intro text origin h
    rcases hbegun.main with hsame | ⟨hnone, _⟩
    · exact Or.inl (hsame ▸ h)
    · exact absurd (hnone.symm.trans h) (Option.some_ne_none _).symm
  · intro thread text origin h
    rcases hbegun.main with hsame | ⟨_, hnot⟩
    · exact hsame ▸ h
    · exact absurd h (hnot thread _)

/-- Of the disconnect events only the one of a running thread can be new. -/
theorem receiveLoop_frame (app : NsClientApp) (thread : ℕ)
    (received : Option NsPacket) (hsourced : Sourced app) :
    (app.receiveLoop thread received).receiverThreadActive =
        app.receiverThreadActive ∧
      (app.receiveLoop thread received).receiverThread =
        app.receiverThread ∧
      (app.receiveLoop thread received).main = app.main ∧
      ∀ event ∈ (app.receiveLoop thread received).events,
        event.type = .disconnected →
          event ∈ app.events ∨ (app.threads event.origin).Running := by
  unfold NsClientApp.receiveLoop
  cases hstate : app.threads thread with
  | handling socket packet =>
      dsimp only
      split_ifs <;> exact ⟨rfl, rfl, rfl, fun _ h _ => Or.inl h⟩
  | starting =>
      cases hsocket : app.socketFd <;>
        exact ⟨rfl, rfl, rfl, fun _ h _ => Or.inl h⟩
  | receiving socket =>
      cases received <;> exact ⟨rfl, rfl, rfl, fun _ h _ => Or.inl h⟩
  | posting socket events =>
      cases events with
      | nil => exact ⟨rfl, rfl, rfl, fun _ h _ => Or.inl h⟩
      | cons first rest =>
          refine ⟨rfl, rfl, rfl, ?_⟩
          intro event hevent htype
          rcases List.mem_append.mp hevent with hold | hnew
          · exact Or.inl hold
          · rw [List.mem_singleton.mp hnew] at htype
            exact absurd htype (hsourced.posted thread socket _ hstate
              first List.mem_cons_self).1
  | queueing =>
      refine ⟨rfl, rfl, rfl, ?_⟩
      intro event hevent _
      rcases List.mem_append.mp hevent with hold | hnew
      · exact Or.inl hold
      · right
        rw [List.mem_singleton.mp hnew]
        simp [hstate, ReceiverThread.Running]
  | _ => exact ⟨rfl, rfl, rfl, fun _ h _ => Or.inl h⟩

theorem Prompt.unlinks (hprompt : Prompt app) {resume : Resume}
    (hmain : app.main = .unlinking resume) :
    Prompt (app.unlinkReceiverThread resume) := by
  have howned := hprompt.owned.unlinks hmain
  have hsourced : Sourced (app.unlinkReceiverThread resume) :=
    hprompt.sourced.congr (by simp) (by simp)
  have hresuming := hprompt.resuming
  rw [hmain] at hresuming
  have hafter : (app.unlinkReceiverThread resume).receiverThreadActive =
        false ∧
      ((app.unlinkReceiverThread resume).main = .idle ∨
        ∃ thread, app.receiverThreadActive = true ∧
          app.receiverThread = some thread ∧
          (app.unlinkReceiverThread resume).main =
            .joining thread resume) := by
    unfold NsClientApp.unlinkReceiverThread
    split_ifs with hactive
    · simpa using hactive
    · rw [Bool.not_eq_true', Bool.not_eq_false] at hactive
      split
      · next thread hreceiver =>
          exact ⟨rfl, Or.inr ⟨thread, hactive, hreceiver, rfl⟩⟩
      · simp
  refine ⟨howned, hsourced, ?_, ?_, ?_⟩
  · intro event _ _ hrecord
    exact absurd (hafter.1.symm.trans hrecord) Bool.false_ne_true
  · intro text origin _ hrecord
    exact absurd (hafter.1.symm.trans hrecord) Bool.false_ne_true
  · intro thread text origin hjoining
    rcases hafter.2 with hidle | ⟨own, hactive, hreceiver, hown⟩
    · simp [hidle] at hjoining
    · rw [hown, MainThread.joining.injEq] at hjoining
      rcases hjoining with ⟨rfl, rfl⟩
      have hsame := hresuming text origin rfl hactive
      exact Option.some.inj (hreceiver.symm.trans hsame)

theorem Prompt.continueCallback (hprompt : Prompt app) (sendOk : Bool)
    (hcleared : Cleared app (.proceed sendOk)) :
    Prompt (app.continueCallback sendOk) := by
  have howned := hprompt.owned.continueCallback sendOk
  have hsourced := hprompt.sourced.continueCallback sendOk
  unfold NsClientApp.continueCallback at howned hsourced ⊢
  cases hmain : app.main with
  | idle => exact hprompt
  | starting socket =>
      rw [hmain] at howned hsourced
      refine ⟨howned, hsourced, ?_, ?_, ?_⟩
      · intro event hevent htype
        exact absurd htype (hcleared socket hmain event hevent)
      · simp [MainThread.resuming]
      · simp
  | unlinking resume => exact hprompt.unlinks hmain
  | joining thread resume =>
      rw [hmain] at howned hsourced
      dsimp only at howned hsourced ⊢
      split_ifs at howned hsourced ⊢ with hfinished
      · have hactive := hprompt.owned.joining thread resume hmain
        refine ⟨howned, hsourced, ?_, ?_, ?_⟩
        · simp [hactive]
        · simp [hactive]
        · simp
      · exact hprompt
  | sendingJoin socket packet =>
      rw [hmain] at howned hsourced
      dsimp only at howned hsourced ⊢
      split_ifs at howned hsourced ⊢ <;>
        exact hprompt.goOn howned hsourced rfl rfl (fun _ h _ => Or.inl h)
          (by simp [MainThread.resuming]) (by simp)
  | sending socket packet =>
      rw [hmain] at howned hsourced
      dsimp only at howned hsourced ⊢
      split_ifs at howned hsourced ⊢ <;>
        exact hprompt.goOn howned hsourced rfl rfl (fun _ h _ => Or.inl h)
          (by simp [MainThread.resuming]) (by simp)
  | _ =>
      rw [hmain] at howned hsourced
      exact hprompt.goOn howned hsourced rfl rfl (fun _ h _ => Or.inl h)
        (by simp +contextual [hmain, MainThread.resuming]) (by simp)

theorem Prompt.dispatchUiEvent (hprompt : Prompt app)
    (howned : app.dispatchUiEvent.Owned)
    (hsourced : Sourced app.dispatchUiEvent) :
    Prompt app.dispatchUiEvent := by
  unfold NsClientApp.dispatchUiEvent at howned hsourced ⊢
  cases hevents : app.events with
  | nil => exact hprompt
  | cons event rest =>
      rw [hevents] at howned hsourced
      have hrest : ∀ other ∈ rest, other.type = .disconnected →
          other ∈ app.events ∨ (app.threads other.origin).Running := by
        intro other hother _
        rw [hevents]
        exact Or.inl (List.mem_cons_of_mem _ hother)
      cases htype : event.type with
      | disconnected =>
          simp only [htype] at howned hsourced ⊢
          apply hprompt.goOn howned hsourced rfl rfl hrest
          · intro text origin hresuming
            simp only [MainThread.resuming, Option.some.injEq,
              Resume.disconnected.injEq] at hresuming
            refine Or.inr ⟨event, ?_, htype, hresuming.2⟩
            rw [hevents]
            exact List.mem_cons_self
          · simp
      | _ =>
          simp only [htype] at howned hsourced ⊢
          exact hprompt.goOn howned hsourced rfl rfl hrest
            (fun _ _ h => Or.inl h) (fun _ _ _ => id)

theorem Prompt.receiveLoop (hprompt : Prompt app) (thread : ℕ)
    (received : Option NsPacket) :
    Prompt (app.receiveLoop thread received) := by
  rcases receiveLoop_frame app thread received hprompt.sourced with
    ⟨hactive, hreceiver, hmain, hevents⟩
  apply hprompt.goOn (hprompt.owned.receiveLoop thread received)
    (hprompt.sourced.receiveLoop thread received) hactive hreceiver hevents
  · intro text origin h
    rw [← hmain]
    exact Or.inl h
  · intro own text origin h
    rw [← hmain]
    exact h

theorem Prompt.step (hprompt : Prompt app) {action : ClientAction}
    (hcleared : Cleared app action) : Prompt (app.step action) := by
  apply NsClientApp.step_cases app action hprompt
  · intro login failure now hmain hlogin
    exact hprompt.begun (begun_onConnectClicked app login failure now)
      (hprompt.owned.onConnectClicked hmain hlogin login failure now)
  · intro message now hmain
    exact hprompt.begun (begun_onSendClicked app message now)
      (hprompt.owned.onSendClicked hmain message now)
  · intro hmain
    exact hprompt.goOn (hprompt.owned.closeRequest hmain)
      (hprompt.sourced.congr (fun _ => id) rfl) rfl rfl
      (fun _ h _ => Or.inl h) (by simp [MainThread.resuming]) (by simp)
  · exact fun hmain => hprompt.dispatchUiEvent
      (hprompt.owned.dispatchUiEvent hmain) hprompt.sourced.dispatchUiEvent
  · rintro sendOk rfl
    exact hprompt.continueCallback sendOk hcleared
  · exact fun thread received _ => hprompt.receiveLoop thread received

theorem Prompt.ownEvents (hprompt : Prompt app) : OwnEvents app := by
  refine ⟨hprompt.joining, ?_⟩
  intro origin socket hhandles hsocket
  have hnot : ¬ app.main.Launches socket := by
    intro hlaunches
    unfold MainThread.Handles at hhandles
    unfold MainThread.Launches at hlaunches
    split at hhandles <;> simp_all
  have hattached :=
    ((hprompt.owned.stored socket hsocket).resolve_left hnot).1
  cases hmain : app.main with
  | unlinking resume =>
      cases resume with
      | disconnected text own =>
          rw [hmain] at hhandles
          have hsame : own = origin := hhandles
          subst hsame
          rcases hattached with ⟨hactive, hreceiver⟩ | ⟨resume, hjoining⟩
          · have hrecord := hprompt.resuming text own (by
              rw [hmain]
              rfl) hactive
            exact Option.some.inj (hreceiver.symm.trans hrecord)
          · simp [hmain] at hjoining
      | _ => simp [hmain, MainThread.Handles] at hhandles
  | joining thread resume =>
      cases resume with
      | disconnected text own =>
          have hthread := hprompt.joining thread text own hmain
          have hidle := hprompt.owned.joining thread _ hmain
          rw [hmain] at hhandles
          have hsame : own = origin := hhandles
          rcases hattached with ⟨hactive, _⟩ | ⟨resume, hjoining⟩
          · exact absurd (hidle.symm.trans hactive) Bool.false_ne_true
          · rw [hmain, MainThread.joining.injEq] at hjoining
            rw [← hjoining.1, hthread, hsame]
      | _ => simp [hmain, MainThread.Handles] at hhandles
  | _ => simp [hmain, MainThread.Handles] at hhandles

end Steps

/-- A queued disconnect event of another thread reaches the thread on
record once the events before it have been dispatched. -/
theorem exists_late_event {thread : ℕ} {events : List NsUiEvent}
    (hqueued : ∃ event ∈ events, event.type = .disconnected)
    (hothers : ∀ event ∈ events, event.origin ≠ thread)
    {app : NsClientApp} (hmain : app.main = .idle)
    (hactive : app.receiverThreadActive = true)
    (hreceiver : app.receiverThread = some thread)
    (hevents : app.events = events) :
    ∃ more, ¬ OwnEvents (run NsClientApp.step app more) := by
  induction events generalizing app with
  | nil => simp at hqueued
  | cons event rest ih =>
      have hdispatch : app.step .dispatch = app.dispatchUiEvent :=
        if_pos hmain
      by_cases htype : event.type = .disconnected
      · refine ⟨[.dispatch, .proceed true], fun hown => ?_⟩
        have hafter : (run NsClientApp.step app
            [.dispatch, .proceed true]).main =
              .joining thread (.disconnected event.text event.origin) := by
          rw [run_cons, hdispatch, run_cons, run_nil]
          simp [NsClientApp.dispatchUiEvent, hevents, htype,
            NsClientApp.step, NsClientApp.continueCallback,
            NsClientApp.unlinkReceiverThread, hactive, hreceiver]
        exact hothers event List.mem_cons_self
          (hown.joins _ _ _ hafter).symm
      · have hrest : ∃ other ∈ rest, other.type = .disconnected := by
          rcases hqueued with ⟨other, hother, hothertype⟩
          rcases List.mem_cons.mp hother with rfl | hin
          · exact absurd hothertype htype
          · exact ⟨other, hin, hothertype⟩
        have hfields : app.dispatchUiEvent.main = .idle ∧
            app.dispatchUiEvent.receiverThreadActive = true ∧
            app.dispatchUiEvent.receiverThread = some thread ∧
            app.dispatchUiEvent.events = rest := by
          unfold NsClientApp.dispatchUiEvent
          simp only [hevents]
          split
          · exact ⟨hmain, hactive, hreceiver, rfl⟩
          · exact ⟨hmain, hactive, hreceiver, rfl⟩
          · next hdisconnected => exact absurd hdisconnected htype
          · exact ⟨hmain, hactive, hreceiver, rfl⟩
        rcases hfields with ⟨hmain', hactive', hreceiver', hevents'⟩
        have hothers' : ∀ other ∈ rest, other.origin ≠ thread :=
          fun other hother =>
            hothers other (List.mem_cons_of_mem event hother)
        rcases ih hrest hothers' hmain' hactive' hreceiver' hevents' with
          ⟨more, hlate⟩
        refine ⟨.dispatch :: more, ?_⟩
        rw [run_cons, hdispatch]
        exact hlate

theorem exists_late_event_of_not_cleared {app : NsClientApp}
    (howned : app.Owned) (hsourced : Sourced app) {action : ClientAction}
    (hnot : ¬ Cleared app action) :
    ∃ more, ¬ OwnEvents (run NsClientApp.step (app.step action) more) := by
  cases action with
  | proceed sendOk =>
      simp only [Cleared, not_forall, not_not] at hnot
      rcases hnot with ⟨socket, hmain, event, hevent, htype⟩
      have habsent := (howned.target socket (by rw [hmain]; rfl)).2
      have hfields : (app.step (.proceed sendOk)).main = .idle ∧
          (app.step (.proceed sendOk)).receiverThreadActive = true ∧
          (app.step (.proceed sendOk)).receiverThread = some socket ∧
          (app.step (.proceed sendOk)).events = app.events := by
        simp [NsClientApp.step, NsClientApp.continueCallback, hmain,
          NsClientApp.setThread]
      rcases hfields with ⟨hidle, hactive, hreceiver, hevents⟩
      have hothers : ∀ other ∈ app.events, other.origin ≠ socket := by
        rintro other hother rfl
        exact hsourced.known other hother habsent
      exact exists_late_event ⟨event, hevent, htype⟩ hothers hidle hactive
        hreceiver hevents
  | _ => exact absurd trivial hnot

theorem sourced_run (actions : List ClientAction) :
    Sourced (run NsClientApp.step .boot actions) :=
  have halong : Along NsClientApp.step (fun _ _ => True) .boot actions :=
    along_of_forall (fun _ _ => trivial) _ actions
  run_invariant Sourced (fun _ action hsourced _ => hsourced.step action)
    sourced_boot halong

/-- In every run in which receiver threads are started only while no
disconnect event is queued, a disconnect event is handled as one of its own
connection.  Any other start of a thread can be followed by callbacks after
which one is not. -/
theorem late_events_of_cleared (actions : List ClientAction) :
    (Along NsClientApp.step Cleared .boot actions →
      Throughout NsClientApp.step OwnEvents .boot actions) ∧
    ∀ action,
      ¬ Cleared (run NsClientApp.step .boot actions) action →
        ∃ more, ¬ OwnEvents
          (run NsClientApp.step .boot (actions ++ action :: more)) := by
  constructor
  · intro hcleared
    rw [throughout_iff_initial]
    rintro before ⟨rest, rfl⟩
    have hprompt : Prompt (run NsClientApp.step .boot before) :=
      run_invariant Prompt
        (fun _ _ hprompt hcleared => hprompt.step hcleared) prompt_boot
        (along_append.mp hcleared).1
    exact hprompt.ownEvents
  · intro action hnot
    simp only [run_append, run_cons]
    exact exists_late_event_of_not_cleared (owned_run actions)
      (sourced_run actions) hnot

/-! ## An event that comes late -/

def ackForA : NsPacket :=
  .filled ⟨nsProtocolVersion, NsPacketType.ack.code, 1, 0, 14⟩
    (literal "Connected as a") (by decide)

def loginOfA : LoginForm := ⟨literal "h", literal "1", literal "a"⟩

/-- The user connects, a message cannot be sent, and the user connects again
before the first connection's disconnect event is dispatched. -/
def lateActions : List ClientAction :=
  [.connectClicked loginOfA none 0, .proceed true, .proceed true,
    .proceed true,
    .receive 0 none, .receive 0 (some ackForA), .receive 0 none,
    .receive 0 none, .receive 0 none, .dispatch,
    .sendClicked (literal "x") 0, .proceed false, .proceed true,
    .proceed true, .proceed true, .proceed true,
    .receive 0 none, .receive 0 none, .receive 0 none, .receive 0 none,
    .proceed true,
    .connectClicked loginOfA none 0, .proceed true, .proceed true,
    .proceed true, .dispatch, .proceed true]

theorem lateActions_joining :
    (run NsClientApp.step .boot lateActions).main =
      .joining 1
        (.disconnected (literal "Disconnected from server.") 0) := by
  decide +kernel

/-- The main thread waits for the thread of the second connection. -/
theorem late_events_not_always_own :
    ¬ ∀ actions, Throughout NsClientApp.step OwnEvents .boot actions := by
  intro hall
  have hown := (throughout_iff_initial _ _).mp (hall lateActions)
    lateActions List.prefix_rfl
  exact absurd (hown.joins _ _ _ lateActions_joining) (by decide)

end NodeSignal
