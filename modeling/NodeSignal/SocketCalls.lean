import NodeSignal.LateEvents

/-!
# The socket calls of the client

Every `send()`, `recv()`, `shutdown()` and `close()` of the client is a step
of its own here.  `ns_send_packet` and `ns_recv_packet` may make any number
of calls, of which the last belongs to the step that sends or receives the
packet.  Both threads work on copies of the stored socket, and whoever takes
it closes it while the other may still have its copy.
-/

namespace NodeSignal

open CStrings Runs

inductive SocketCall where
  | send
  | recv
  | shutdown
  | close
  deriving DecidableEq

/-- The client and the sockets passed to `ns_socket_shutdown`. -/
structure ClientSockets where
  app : NsClientApp
  shutDown : List ℕ

def ClientSockets.boot : ClientSockets := ⟨.boot, []⟩

/-- A call in the middle of a packet, or the next step of the client, which
takes two for a socket that is shut down and closed. -/
inductive CallAction where
  | sendPart
  | receivePart (thread : ℕ)
  | perform (action : ClientAction)

/-- The copy that the main thread sends a JOIN or a TEXT on. -/
def MainThread.copy : MainThread → Option ℕ
  | .sendingJoin socket _ => some socket
  | .sending socket _ => some socket
  | _ => none

/-- The copy of a thread in the loop of `ns_client_receive_loop`. -/
def ReceiverThread.copy : ReceiverThread → Option ℕ
  | .receiving socket => some socket
  | .handling socket _ => some socket
  | .posting socket _ => some socket
  | _ => none

namespace ClientSockets

variable (state : ClientSockets)

/-- `ns_socket_shutdown` and then `ns_socket_close`. -/
def closingCall (socket : ℕ) : SocketCall × ℕ :=
  (if socket ∈ state.shutDown then .close else .shutdown, socket)

/-- The next call of the main thread inside a callback. -/
def mainCall : Option (SocketCall × ℕ) :=
  match state.app.main with
  | .sendingJoin socket _ => some (.send, socket)
  | .sending socket _ => some (.send, socket)
  | .leaving (some socket) true true _ _ => some (.send, socket)
  | .closing (some socket) _ => some (state.closingCall socket)
  | _ => none

def threadCall (thread : ℕ) : Option (SocketCall × ℕ) :=
  match state.app.threads thread with
  | .receiving socket => some (.recv, socket)
  | .closing (some socket) => some (state.closingCall socket)
  | _ => none

/-- The call of `ns_client_build_join_packet`. -/
def connectCall (login : LoginForm) (failure : Option (List UInt8))
    (now : UInt32) : Option (SocketCall × ℕ) :=
  if state.app.main = .idle ∧ state.app.loginSensitive ∧
      NsClientApp.validateLogin login = none ∧ failure = none ∧
      nsPacketSet NsPacketType.join.code 0 now (some login.username) =
        none then
    some (.close, state.app.sockets)
  else none

/-- The socket call that a step makes. -/
def call : CallAction → Option (SocketCall × ℕ)
  | .sendPart => state.mainCall.filter fun call => call.1 = .send
  | .receivePart thread =>
      (state.threadCall thread).filter fun call => call.1 = .recv
  | .perform (.connectClicked login failure now) =>
      state.connectCall login failure now
  | .perform (.proceed _) => state.mainCall
  | .perform (.receive thread _) => state.threadCall thread
  | .perform _ => none

def step : CallAction → ClientSockets
  | .perform action =>
      match state.call (.perform action) with
      | some (.shutdown, socket) =>
          { state with shutDown := state.shutDown ++ [socket] }
      | _ => { state with app := state.app.step action }
  | _ => state

end ClientSockets

/-! ## Uses and closes -/

/-- A thread will still send or receive on its copy of the socket. -/
def NsClientApp.InUse (app : NsClientApp) (socket : ℕ) : Prop :=
  app.main.copy = some socket ∨
    ∃ thread, (app.threads thread).copy = some socket

/-- What is sent on, received on or shut down has not been closed. -/
def UsesOpen (state : ClientSockets) (action : CallAction) : Prop :=
  ∀ call socket, state.call action = some (call, socket) →
    call ≠ .close → socket ∉ state.app.closed

/-- What is closed is not in use. -/
def ClosesUnused (state : ClientSockets) (action : CallAction) : Prop :=
  ∀ socket, state.call action = some (.close, socket) →
    ¬ state.app.InUse socket

/-- A step that closes nothing; copies are made of the stored socket and of
the one that the main thread is about to store. -/
structure Sparing (app app' : NsClientApp) : Prop where
  closed : app'.closed = app.closed
  inUse : ∀ socket, app'.InUse socket →
    app.InUse socket ∨ app.socketFd = some socket ∨
      app.main.held = some socket

structure Closing (app app' : NsClientApp) (socket : ℕ) : Prop where
  closed : app'.closed = app.closed ++ [socket]
  inUse : ∀ other, app'.InUse other ↔ app.InUse other

section Steps

variable {app app' : NsClientApp}

theorem Sparing.refl (app : NsClientApp) : Sparing app app :=
  ⟨rfl, fun _ => Or.inl⟩

theorem Sparing.of_copies (hclosed : app'.closed = app.closed)
    (hmain : ∀ socket, app'.main.copy = some socket →
      app.main.copy = some socket ∨ app.socketFd = some socket ∨
        app.main.held = some socket)
    (hthreads : ∀ thread socket,
      (app'.threads thread).copy = some socket →
        (app.threads thread).copy = some socket ∨
          app.socketFd = some socket) : Sparing app app' := by
  refine ⟨hclosed, ?_⟩
  rintro socket (hcopy | ⟨thread, hcopy⟩)
  · exact (hmain socket hcopy).imp_left Or.inl
  · rcases hthreads thread socket hcopy with hold | hstored
    · exact Or.inl (Or.inr ⟨thread, hold⟩)
    · exact Or.inr (Or.inl hstored)

theorem Sparing.of_main (hclosed : app'.closed = app.closed)
    (hthreads : app'.threads = app.threads)
    (hmain : ∀ socket, app'.main.copy = some socket →
      app.main.copy = some socket ∨ app.socketFd = some socket ∨
        app.main.held = some socket) : Sparing app app' := by
  apply of_copies hclosed hmain
  rw [hthreads]
  exact fun _ _ => Or.inl

theorem Sparing.of_thread {thread : ℕ} {state : ReceiverThread}
    (hclosed : app'.closed = app.closed) (hmain : app'.main = app.main)
    (hthreads : app'.threads = Function.update app.threads thread state)
    (hcopy : ∀ socket, state.copy = some socket →
      (app.threads thread).copy = some socket ∨
        app.socketFd = some socket) : Sparing app app' := by
  apply of_copies hclosed
  · rw [hmain]
    exact fun _ => Or.inl
  · intro other socket
    rw [hthreads]
    by_cases hsame : other = thread
    · subst hsame
      rw [Function.update_self]
      exact hcopy socket
    · rw [Function.update_of_ne hsame]
      exact Or.inl

/-- A callback starts only if it may. -/
theorem Sparing.guarded {condition : Prop} [Decidable condition]
    (hspares : Sparing app app') :
    Sparing app (if condition then app' else app) := by
  split_ifs
  · exact hspares
  · exact .refl app

theorem Closing.of_copies {socket : ℕ}
    (hclosed : app'.closed = app.closed ++ [socket])
    (hmain : app'.main.copy = app.main.copy)
    (hthreads : ∀ thread,
      (app'.threads thread).copy = (app.threads thread).copy) :
    Closing app app' socket := by
  refine ⟨hclosed, fun other => ?_⟩
  simp only [NsClientApp.InUse, hmain, hthreads]

/-! ## What a step does to the copies -/

theorem sparing_onSendClicked (app : NsClientApp) (message : List UInt8)
    (now : UInt32) : Sparing app (app.onSendClicked message now) := by
  unfold NsClientApp.onSendClicked
  split_ifs
  · exact .refl app
  · split
    · next socket hsocket hjoined =>
        split
        · exact .of_main rfl rfl fun _ => Or.inl
        · refine .of_main rfl rfl fun own hown => ?_
          exact Or.inr (Or.inl (hsocket.trans hown))
    · exact .of_main rfl rfl fun _ => Or.inl

theorem sparing_dispatchUiEvent (app : NsClientApp) :
    Sparing app app.dispatchUiEvent := by
  unfold NsClientApp.dispatchUiEvent
  split
  · exact .refl app
  · dsimp only
    split
    · exact .of_main rfl rfl fun _ => Or.inl
    · exact .of_main rfl rfl fun _ => Or.inl
    · exact .of_main rfl rfl (by simp [MainThread.copy])
    · exact .of_main rfl rfl fun _ => Or.inl

theorem sparing_resume {app' : NsClientApp}
    (hclosed : app'.closed = app.closed)
    (hthreads : app'.threads = app.threads) (resume : Resume) :
    Sparing app (app'.resume resume) := by
  cases resume <;>
    exact .of_main hclosed hthreads (by
      simp [NsClientApp.resume, MainThread.copy])

theorem sparing_unlinkReceiverThread (app : NsClientApp)
    (resume : Resume) : Sparing app (app.unlinkReceiverThread resume) := by
  unfold NsClientApp.unlinkReceiverThread
  split_ifs
  · exact sparing_resume rfl rfl resume
  · dsimp only
    split
    · exact .of_main rfl rfl (by simp [MainThread.copy])
    · apply sparing_resume <;> rfl

/-- Of the steps inside a callback only the one that closes the socket taken
is not sparing. -/
theorem sparing_continueCallback (app : NsClientApp) (sendOk : Bool)
    (hnot : ∀ socket resume, app.main ≠ .closing (some socket) resume) :
    Sparing app (app.continueCallback sendOk) := by
  unfold NsClientApp.continueCallback
  cases hmain : app.main with
  | idle => exact .refl app
  | storing socket login packet =>
      refine .of_main rfl rfl fun own hown => ?_
      right
      right
      rw [hmain]
      exact hown
  | sendingJoin socket packet =>
      dsimp only
      split_ifs <;> exact .of_main rfl rfl (by simp [MainThread.copy])
  | starting socket =>
      apply Sparing.of_copies
      · rfl
      · simp [MainThread.copy]
      · intro thread own hown
        left
        by_cases hsame : thread = socket
        · simp [NsClientApp.setThread, hsame, ReceiverThread.copy] at hown
        · simpa [NsClientApp.setThread, hsame] using hown
  | sending socket packet =>
      dsimp only
      split_ifs <;> exact .of_main rfl rfl (by simp [MainThread.copy])
  | taking notifyServer resume =>
      exact .of_main rfl rfl (by simp [MainThread.copy])
  | leaving socket notifyServer wasJoined userId resume =>
      exact .of_main rfl rfl (by simp [MainThread.copy])
  | closing socket resume =>
      cases socket with
      | none =>
          apply Sparing.of_main
          · simp [NsClientApp.closeSocket]
          · rfl
          · simp [MainThread.copy]
      | some socket => exact absurd hmain (hnot socket resume)
  | unlinking resume => exact sparing_unlinkReceiverThread app resume
  | joining thread resume =>
      dsimp only
      split_ifs
      · exact sparing_resume rfl rfl resume
      · exact .refl app

theorem sparing_receiveLoop (app : NsClientApp) (thread : ℕ)
    (received : Option NsPacket)
    (hnot : ∀ socket, app.threads thread ≠ .closing (some socket)) :
    Sparing app (app.receiveLoop thread received) := by
  have hsame : ∀ {state : ReceiverThread},
      (∀ socket, state.copy = some socket →
        (app.threads thread).copy = some socket ∨
          app.socketFd = some socket) →
      Sparing app (app.setThread thread state) :=
    fun hcopy => .of_thread rfl rfl rfl hcopy
  unfold NsClientApp.receiveLoop
  cases hstate : app.threads thread with
  | absent => exact .refl app
  | finished => exact .refl app
  | starting =>
      cases hsocket : app.socketFd with
      | none => exact hsame (by simp [ReceiverThread.copy])
      | some socket =>
          exact hsame fun own hown => Or.inr (hsocket.trans hown)
  | receiving socket =>
      cases received with
      | none => exact hsame (by simp [ReceiverThread.copy])
      | some packet =>
          refine hsame fun own hown => Or.inl ?_
          rw [hstate]
          exact hown
  | handling socket packet =>
      have hcopy : ∀ own, (ReceiverThread.posting socket
          (NsClientApp.packetEvents thread packet)).copy = some own →
            (app.threads thread).copy = some own ∨
              app.socketFd = some own := by
        rw [hstate]
        exact fun own => Or.inl
      dsimp only
      split_ifs <;> exact .of_thread rfl rfl rfl hcopy
  | posting socket events =>
      cases events with
      | nil =>
          refine hsame fun own hown => Or.inl ?_
          rw [hstate]
          exact hown
      | cons event rest =>
          refine .of_thread rfl rfl rfl fun own hown => Or.inl ?_
          rw [hstate]
          exact hown
  | taking => exact .of_thread rfl rfl rfl (by simp [ReceiverThread.copy])
  | closing socket =>
      cases socket with
      | none =>
          apply Sparing.of_thread
          · simp [NsClientApp.closeSocket, NsClientApp.setThread]
          · rfl
          · rfl
          · simp [ReceiverThread.copy]
      | some socket => exact absurd hstate (hnot socket)
  | queueing =>
      exact .of_thread rfl rfl rfl (by simp [ReceiverThread.copy])

end Steps

section Calls

variable {state : ClientSockets}

open ClientSockets

/-- A step of the client is one of the coarser model, or none. -/
theorem ClientSockets.step_app (state : ClientSockets)
    (action : CallAction) :
    (state.step action).app = state.app ∨
      ∃ action', (state.step action).app = state.app.step action' := by
  cases action with
  | sendPart => exact Or.inl rfl
  | receivePart thread => exact Or.inl rfl
  | perform action =>
      unfold step
      dsimp only
      split
      · exact Or.inl rfl
      · exact Or.inr ⟨action, rfl⟩

/-- The runs are those of the coarser model. -/
theorem ClientSockets.exists_run_app (state : ClientSockets)
    (actions : List CallAction) :
    ∃ actions', (run step state actions).app =
      run NsClientApp.step state.app actions' := by
  induction actions generalizing state with
  | nil => exact ⟨[], rfl⟩
  | cons action rest ih =>
      rcases ih (state.step action) with ⟨later, hlater⟩
      rcases state.step_app action with hsame | ⟨action', happ⟩
      · exact ⟨later, by rw [run_cons, hlater, hsame]⟩
      · exact ⟨action' :: later, by rw [run_cons, hlater, happ, run_cons]⟩

theorem ClientSockets.step_perform {action : ClientAction}
    (hnot : ∀ socket,
      state.call (.perform action) ≠ some (.shutdown, socket)) :
    (state.step (.perform action)).app = state.app.step action := by
  unfold step
  dsimp only
  split
  · next hcall => exact absurd hcall (hnot _)
  · rfl

theorem ClientSockets.mainCall_closing {socket : ℕ}
    (hcall : state.mainCall = some (.close, socket)) :
    ∃ resume, state.app.main = .closing (some socket) resume := by
  unfold mainCall at hcall
  split at hcall
  · simp at hcall
  · simp at hcall
  · simp at hcall
  · next own resume hmain =>
      have hsame : own = socket :=
        congrArg Prod.snd (Option.some.inj hcall)
      exact ⟨resume, hsame ▸ hmain⟩
  · simp at hcall

theorem ClientSockets.threadCall_closing {thread socket : ℕ}
    (hcall : state.threadCall thread = some (.close, socket)) :
    state.app.threads thread = .closing (some socket) := by
  unfold threadCall at hcall
  split at hcall
  · simp at hcall
  · next own hstate =>
      have hsame : own = socket :=
        congrArg Prod.snd (Option.some.inj hcall)
      exact hsame ▸ hstate
  · simp at hcall

/-- The step closes the socket of its `close()` call, or it makes no such
call and closes nothing. -/
def ClientSockets.Effect (state : ClientSockets)
    (call : Option (SocketCall × ℕ)) (after : NsClientApp) : Prop :=
  (∃ socket, call = some (.close, socket) ∧
    Closing state.app after socket) ∨
  (∀ socket, call ≠ some (.close, socket)) ∧ Sparing state.app after

/-- Once the socket is shut down, the next call closes it. -/
theorem ClientSockets.Effect.of_closing
    {call : Option (SocketCall × ℕ)} {after : NsClientApp} {socket : ℕ}
    (hcall : call = some (state.closingCall socket))
    (hnot : ∀ other, call ≠ some (.shutdown, other))
    (hcloses : Closing state.app after socket) :
    state.Effect call after := by
  refine Or.inl ⟨socket, ?_, hcloses⟩
  have hshut : socket ∈ state.shutDown := by
    by_contra hopen
    apply hnot socket
    rw [hcall, closingCall, if_neg hopen]
  rw [hcall, closingCall, if_pos hshut]

theorem ClientSockets.connect_effect (login : LoginForm)
    (failure : Option (List UInt8)) (now : UInt32) :
    state.Effect (state.connectCall login failure now)
      (state.app.step (.connectClicked login failure now)) := by
  by_cases henabled : state.app.main = .idle ∧ state.app.loginSensitive
  · rw [NsClientApp.step, if_pos henabled]
    unfold NsClientApp.onConnectClicked
    rcases henabled with ⟨hmain, hlogin⟩
    split
    · next message _ hvalid =>
        exact Or.inr ⟨by simp [connectCall, hvalid],
          .of_main rfl rfl fun _ => Or.inl⟩
    · exact Or.inr ⟨by simp [connectCall],
        .of_main rfl rfl fun _ => Or.inl⟩
    · next hvalid =>
        dsimp only
        split
        · next hset =>
            refine Or.inl ⟨state.app.sockets, ?_, ?_⟩
            · simp [connectCall, hmain, hlogin, hvalid, hset]
            · exact .of_copies rfl rfl fun _ => rfl
        · next packet hset =>
            exact Or.inr ⟨by simp [connectCall, hset],
              .of_main rfl rfl (by simp [MainThread.copy])⟩
  · rw [NsClientApp.step, if_neg henabled]
    refine Or.inr ⟨fun socket hcall => henabled ?_, .refl _⟩
    simp only [connectCall, Option.ite_none_right_eq_some] at hcall
    exact ⟨hcall.1.1, hcall.1.2.1⟩

theorem ClientSockets.proceed_effect (sendOk : Bool)
    (hnot : ∀ socket, state.mainCall ≠ some (.shutdown, socket)) :
    state.Effect state.mainCall (state.app.continueCallback sendOk) := by
  by_cases hcloses : ∃ socket resume,
      state.app.main = .closing (some socket) resume
  · rcases hcloses with ⟨socket, resume, hmain⟩
    have hcall : state.mainCall = some (state.closingCall socket) := by
      simp only [mainCall, hmain]
    apply Effect.of_closing hcall hnot
    simp only [NsClientApp.continueCallback, hmain]
    apply Closing.of_copies
    · rfl
    · rw [hmain]
      rfl
    · exact fun _ => rfl
  · push Not at hcloses
    refine Or.inr ⟨fun socket hcall => ?_,
      sparing_continueCallback _ _ hcloses⟩
    rcases mainCall_closing hcall with ⟨resume, hmain⟩
    exact hcloses socket resume hmain

theorem ClientSockets.receive_effect (thread : ℕ)
    (received : Option NsPacket)
    (hnot : ∀ socket, state.threadCall thread ≠ some (.shutdown, socket)) :
    state.Effect (state.threadCall thread)
      (state.app.receiveLoop thread received) := by
  by_cases hcloses : ∃ socket,
      state.app.threads thread = .closing (some socket)
  · rcases hcloses with ⟨socket, hstate⟩
    have hcall : state.threadCall thread =
        some (state.closingCall socket) := by
      simp only [threadCall, hstate]
    apply Effect.of_closing hcall hnot
    simp only [NsClientApp.receiveLoop, hstate]
    apply Closing.of_copies
    · rfl
    · rfl
    · intro other
      by_cases hsame : other = thread
      · simp [NsClientApp.setThread, hsame, hstate, ReceiverThread.copy]
      · simp [NsClientApp.setThread, NsClientApp.closeSocket, hsame]
  · push Not at hcloses
    refine Or.inr ⟨fun socket hcall => ?_,
      sparing_receiveLoop _ _ _ hcloses⟩
    exact hcloses socket (threadCall_closing hcall)

theorem ClientSockets.step_effect (state : ClientSockets)
    (action : CallAction) :
    state.Effect (state.call action) (state.step action).app := by
  have hnone : ∀ {after : NsClientApp}, Sparing state.app after →
      state.Effect none after := fun hspares => Or.inr ⟨by simp, hspares⟩
  cases action with
  | sendPart =>
      exact Or.inr ⟨by simp [call, Option.filter_eq_some_iff], .refl _⟩
  | receivePart thread =>
      exact Or.inr ⟨by simp [call, Option.filter_eq_some_iff], .refl _⟩
  | perform action =>
      by_cases hshutdown : ∃ socket,
          state.call (.perform action) = some (.shutdown, socket)
      · rcases hshutdown with ⟨socket, hcall⟩
        simp only [step, hcall]
        exact Or.inr ⟨by simp, .refl _⟩
      · push Not at hshutdown
        rw [step_perform hshutdown]
        cases action with
        | connectClicked login failure now =>
            exact connect_effect login failure now
        | sendClicked message now =>
            exact hnone (sparing_onSendClicked _ message now).guarded
        | closeRequest =>
            have hspares : Sparing state.app
                { state.app with main := .taking true .closeRequest } :=
              .of_main rfl rfl (by simp [MainThread.copy])
            exact hnone hspares.guarded
        | dispatch =>
            exact hnone (sparing_dispatchUiEvent _).guarded
        | proceed sendOk => exact proceed_effect sendOk hshutdown
        | receive thread received =>
            exact receive_effect thread received hshutdown

/-! ## Open sockets -/

/-- The socket that is stored and the one that the main thread has taken are
open. -/
theorem NsClientApp.Owned.kept_open {app : NsClientApp}
    (howned : app.Owned) {socket : ℕ}
    (hkept : app.socketFd = some socket ∨ app.main.held = some socket) :
    socket ∉ app.closed := by
  have hdisjoint := (List.nodup_append.mp howned.nodup).2.2
  intro hclosed
  refine hdisjoint socket ?_ socket hclosed rfl
  simpa using hkept

theorem NsClientApp.Owned.closing_open {app : NsClientApp}
    (howned : app.Owned) {thread socket : ℕ}
    (hclosing : app.threads thread = .closing (some socket)) :
    socket ∉ app.closed :=
  fun hclosed => howned.apart thread socket hclosing
    (List.mem_append_right _ hclosed)

/-- The sockets in use are open. -/
structure ClientSockets.Safe (state : ClientSockets) : Prop where
  owned : state.app.Owned
  inUse : ∀ socket, state.app.InUse socket → socket ∉ state.app.closed

theorem ClientSockets.safe_boot : boot.Safe := by
  refine ⟨sockets_owned_boot, ?_⟩
  simp [boot, NsClientApp.boot]

theorem ClientSockets.Safe.step (hsafe : state.Safe) {action : CallAction}
    (hunused : ClosesUnused state action) : (state.step action).Safe := by
  constructor
  · rcases state.step_app action with hsame | ⟨action', happ⟩
    · rw [hsame]
      exact hsafe.owned
    · rw [happ]
      exact hsafe.owned.step action'
  · intro socket hinUse
    rcases state.step_effect action with ⟨closed, hcall, hcloses⟩ | ⟨-, hspares⟩
    · have hbefore := (hcloses.inUse socket).mp hinUse
      rw [hcloses.closed, List.mem_append, List.mem_singleton, not_or]
      refine ⟨hsafe.inUse socket hbefore, ?_⟩
      rintro rfl
      exact hunused socket hcall hbefore
    · rw [hspares.closed]
      rcases hspares.inUse socket hinUse with hbefore | hkept
      · exact hsafe.inUse socket hbefore
      · exact hsafe.owned.kept_open hkept

theorem ClientSockets.Safe.mainCall_open (hsafe : state.Safe)
    {call : SocketCall} {socket : ℕ}
    (hcall : state.mainCall = some (call, socket)) :
    socket ∉ state.app.closed := by
  unfold mainCall at hcall
  split at hcall
  · next own packet hmain =>
      cases hcall
      exact hsafe.inUse socket (Or.inl (by rw [hmain]; rfl))
  · next own packet hmain =>
      cases hcall
      exact hsafe.inUse socket (Or.inl (by rw [hmain]; rfl))
  · next own userId resume hmain =>
      cases hcall
      exact hsafe.owned.kept_open (Or.inr (by rw [hmain]; rfl))
  · next own resume hmain =>
      cases hcall
      exact hsafe.owned.kept_open (Or.inr (by rw [hmain]; rfl))
  · exact absurd hcall (by simp)

theorem ClientSockets.Safe.threadCall_open (hsafe : state.Safe)
    {thread : ℕ} {call : SocketCall} {socket : ℕ}
    (hcall : state.threadCall thread = some (call, socket)) :
    socket ∉ state.app.closed := by
  unfold threadCall at hcall
  split at hcall
  · next own hstate =>
      cases hcall
      exact hsafe.inUse socket (Or.inr ⟨thread, by rw [hstate]; rfl⟩)
  · next own hstate =>
      cases hcall
      exact hsafe.owned.closing_open hstate
  · exact absurd hcall (by simp)

theorem ClientSockets.Safe.usesOpen (hsafe : state.Safe)
    (action : CallAction) : UsesOpen state action := by
  intro call socket hcall hnotClose
  cases action with
  | sendPart =>
      exact hsafe.mainCall_open (Option.filter_eq_some_iff.mp hcall).1
  | receivePart thread =>
      exact hsafe.threadCall_open (Option.filter_eq_some_iff.mp hcall).1
  | perform action =>
      cases action with
      | proceed sendOk => exact hsafe.mainCall_open hcall
      | receive thread received => exact hsafe.threadCall_open hcall
      | connectClicked login failure now =>
          simp only [ClientSockets.call, connectCall,
            Option.ite_none_right_eq_some] at hcall
          cases hcall.2
          exact absurd rfl hnotClose
      | sendClicked message now => simp [ClientSockets.call] at hcall
      | closeRequest => simp [ClientSockets.call] at hcall
      | dispatch => simp [ClientSockets.call] at hcall

/-! ## Closed sockets in use -/

theorem ClientSockets.step_receive {thread : ℕ}
    (hcall : state.threadCall thread = none) :
    (state.step (.perform (.receive thread none))).app =
      state.app.receiveLoop thread none :=
  step_perform fun socket => by simp [call, hcall]

theorem exists_use_of_step (action : CallAction)
    (hlater : ∃ more, ¬ Along ClientSockets.step UsesOpen
      (state.step action) more) :
    ∃ more, ¬ Along ClientSockets.step UsesOpen state more := by
  rcases hlater with ⟨more, hmore⟩
  exact ⟨action :: more, fun halong => hmore halong.2⟩

theorem exists_recv_of_receiving {socket thread : ℕ}
    (hclosed : socket ∈ state.app.closed)
    (hstate : state.app.threads thread = .receiving socket) :
    ∃ more, ¬ Along ClientSockets.step UsesOpen state more := by
  have hcall : state.threadCall thread = some (.recv, socket) := by
    simp only [threadCall, hstate]
  refine ⟨[.perform (.receive thread none)], fun halong => ?_⟩
  exact halong.1 .recv socket hcall (by decide) hclosed

/-- What is left of the loop body leads to the next `recv()`. -/
theorem exists_recv_of_posting {socket thread : ℕ}
    {events : List NsUiEvent} {state : ClientSockets}
    (hclosed : socket ∈ state.app.closed)
    (hstate : state.app.threads thread = .posting socket events) :
    ∃ more, ¬ Along ClientSockets.step UsesOpen state more := by
  have hcall : state.threadCall thread = none := by
    simp only [threadCall, hstate]
  have hmoves := step_receive hcall
  apply exists_use_of_step (.perform (.receive thread none))
  induction events generalizing state with
  | nil =>
      simp only [NsClientApp.receiveLoop, hstate] at hmoves
      have hnext : (state.step
          (.perform (.receive thread none))).app.threads thread =
            .receiving socket := by
        rw [hmoves]
        exact Function.update_self ..
      apply exists_recv_of_receiving _ hnext
      rw [hmoves]
      exact hclosed
  | cons event rest ih =>
      simp only [NsClientApp.receiveLoop, hstate] at hmoves
      have hnext : (state.step
          (.perform (.receive thread none))).app.threads thread =
            .posting socket rest := by
        rw [hmoves]
        exact Function.update_self ..
      have hcall' : (state.step
          (.perform (.receive thread none))).threadCall thread = none := by
        simp only [threadCall, hnext]
      apply exists_use_of_step (.perform (.receive thread none))
      apply ih _ hnext hcall' (step_receive hcall')
      rw [hmoves]
      exact hclosed

theorem exists_recv_of_handling {socket thread : ℕ} {packet : NsPacket}
    (hclosed : socket ∈ state.app.closed)
    (hstate : state.app.threads thread = .handling socket packet) :
    ∃ more, ¬ Along ClientSockets.step UsesOpen state more := by
  have hcall : state.threadCall thread = none := by
    simp only [threadCall, hstate]
  have hmoves := step_receive hcall
  simp only [NsClientApp.receiveLoop, hstate] at hmoves
  have hnext : (state.step
      (.perform (.receive thread none))).app.threads thread =
        .posting socket (NsClientApp.packetEvents thread packet) := by
    rw [hmoves]
    exact Function.update_self ..
  apply exists_use_of_step (.perform (.receive thread none))
  apply exists_recv_of_posting _ hnext
  rw [hmoves]
  split_ifs <;> exact hclosed

theorem ClientSockets.mainCall_of_copy {socket : ℕ}
    (hcopy : state.app.main.copy = some socket) :
    state.mainCall = some (.send, socket) := by
  unfold MainThread.copy at hcopy
  unfold mainCall
  split at hcopy
  · next own packet hmain =>
      cases hcopy
      simp only [hmain]
  · next own packet hmain =>
      cases hcopy
      simp only [hmain]
  · simp at hcopy

/-- A closed socket that is still in use will be used. -/
theorem exists_use_of_inUse {socket : ℕ}
    (hclosed : socket ∈ state.app.closed)
    (hinUse : state.app.InUse socket) :
    ∃ more, ¬ Along ClientSockets.step UsesOpen state more := by
  rcases hinUse with hcopy | ⟨thread, hcopy⟩
  · refine ⟨[.perform (.proceed false)], fun halong => ?_⟩
    exact halong.1 .send socket (mainCall_of_copy hcopy) (by decide) hclosed
  · cases hstate : state.app.threads thread with
    | receiving own =>
        rw [hstate] at hcopy
        have hsame : own = socket := Option.some.inj hcopy
        exact exists_recv_of_receiving hclosed (hsame ▸ hstate)
    | handling own packet =>
        rw [hstate] at hcopy
        have hsame : own = socket := Option.some.inj hcopy
        exact exists_recv_of_handling hclosed (hsame ▸ hstate)
    | posting own events =>
        rw [hstate] at hcopy
        have hsame : own = socket := Option.some.inj hcopy
        exact exists_recv_of_posting hclosed (hsame ▸ hstate)
    | _ => simp [hstate, ReceiverThread.copy] at hcopy

theorem exists_use_of_not_unused {action : CallAction}
    (hused : ¬ ClosesUnused state action) :
    ∃ more, ¬ Along ClientSockets.step UsesOpen (state.step action)
      more := by
  simp only [ClosesUnused, not_forall, not_not] at hused
  rcases hused with ⟨socket, hcall, hinUse⟩
  rcases state.step_effect action with ⟨own, hown, hcloses⟩ | ⟨hnone, -⟩
  · have hsame : (SocketCall.close, own) = (.close, socket) :=
      Option.some.inj (hown.symm.trans hcall)
    cases hsame
    apply exists_use_of_inUse
    · rw [hcloses.closed]
      exact List.mem_append_right _ (List.mem_singleton_self _)
    · exact (hcloses.inUse _).mpr hinUse
  · exact absurd hcall (hnone socket)

end Calls

/-- In every run in which no socket is closed while a thread is still sending
or receiving on its copy, all calls are on open sockets.  Any other `close()`
can be followed by a call on the closed socket. -/
theorem client_uses_open_sockets (actions : List CallAction) :
    (Along ClientSockets.step ClosesUnused .boot actions →
      Along ClientSockets.step UsesOpen .boot actions) ∧
    ∀ action,
      ¬ ClosesUnused (run ClientSockets.step .boot actions) action →
        ∃ more, ¬ Along ClientSockets.step UsesOpen .boot
          (actions ++ action :: more) := by
  constructor
  · exact along_of_invariant ClientSockets.Safe
      (fun _ _ hsafe hunused => hsafe.step hunused)
      (fun _ action hsafe _ => hsafe.usesOpen action)
      ClientSockets.safe_boot
  · intro action hused
    rcases exists_use_of_not_unused hused with ⟨more, hmore⟩
    refine ⟨more, fun halong => hmore ?_⟩
    exact (along_append.mp halong).2.2

/-- The user connects and closes the window before the receiver thread calls
`recv()` for the first time. -/
def closedEarly : List CallAction :=
  [.perform (.connectClicked loginOfA none 0), .perform (.proceed true),
    .sendPart, .perform (.proceed true), .perform (.proceed true),
    .perform (.receive 0 none),
    .perform .closeRequest, .perform (.proceed true),
    .perform (.proceed true), .perform (.proceed true),
    .perform (.proceed true)]

theorem closedEarly_receiving :
    (run ClientSockets.step .boot closedEarly).call
        (.perform (.receive 0 none)) = some (.recv, 0) ∧
      0 ∈ (run ClientSockets.step .boot closedEarly).app.closed := by
  decide +kernel

/-- The receiver thread reads from the socket that the main thread has
closed. -/
theorem client_not_always_uses_open_sockets :
    ¬ ∀ actions, Along ClientSockets.step UsesOpen .boot actions := by
  intro hall
  have hlast := (along_append.mp
    (hall (closedEarly ++ [.perform (.receive 0 none)]))).2.1
  exact hlast .recv 0 closedEarly_receiving.1 (by decide)
    closedEarly_receiving.2

end NodeSignal
