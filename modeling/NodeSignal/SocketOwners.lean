import NodeSignal.Client
import NodeSignal.Runs

/-!
# Who owns a client's socket

At any time at most one receiver thread runs, and the main thread knows it:
either the thread is the one on record, or the main thread is waiting for
it.  The stored socket is that of this thread, so whoever takes a socket
takes it from nobody else.
-/

namespace NodeSignal

open Runs

def ReceiverThread.Running (state : ReceiverThread) : Prop :=
  state ≠ .absent ∧ state ≠ .finished

/-- The thread has been through `ns_client_take_socket`. -/
def ReceiverThread.Past : ReceiverThread → Prop
  | .closing _ => True
  | .queueing => True
  | .finished => True
  | _ => False

/-- The descriptor that the thread has a copy of. -/
def ReceiverThread.socket : ReceiverThread → Option ℕ
  | .receiving socket => some socket
  | .handling socket _ => some socket
  | .posting socket _ => some socket
  | .closing socket => socket
  | _ => none

/-- The descriptor that the main thread holds for itself. -/
def MainThread.held : MainThread → Option ℕ
  | .storing socket _ _ => some socket
  | .leaving socket _ _ _ _ => socket
  | .closing socket _ => socket
  | _ => none

/-- The main thread has stored a socket and started no thread yet. -/
def MainThread.Launches (main : MainThread) (socket : ℕ) : Prop :=
  match main with
  | .sendingJoin own _ => own = socket
  | .starting own => own = socket
  | .taking _ .connectFailed => True
  | _ => False

/-- The socket for which a thread is about to be started. -/
def MainThread.target : MainThread → Option ℕ
  | .storing socket _ _ => some socket
  | .sendingJoin socket _ => some socket
  | .starting socket => some socket
  | _ => none

namespace NsClientApp

variable (app : NsClientApp)

/-- The thread is on record, or the main thread waits for it. -/
def Attached (thread : ℕ) : Prop :=
  app.receiverThreadActive = true ∧ app.receiverThread = some thread ∨
    ∃ resume, app.main = .joining thread resume

/-- The sockets that are stored, held by the main thread or closed. -/
def tokens : List ℕ :=
  app.socketFd.toList ++ app.main.held.toList ++ app.closed

structure Owned : Prop where
  quiet : app.loginSensitive = true →
    app.socketFd = none ∧ app.receiverThreadActive = false
  storing : ∀ socket login packet,
    app.main = .storing socket login packet →
      app.socketFd = none ∧ app.receiverThreadActive = false
  launching : ∀ socket, app.main.Launches socket →
    app.receiverThreadActive = false ∧ app.loginSensitive = false
  target : ∀ socket, app.main.target = some socket →
    socket < app.sockets ∧ app.threads socket = .absent
  joining : ∀ thread resume, app.main = .joining thread resume →
    app.receiverThreadActive = false
  running : ∀ thread, (app.threads thread).Running →
    app.Attached thread
  stored : ∀ socket, app.socketFd = some socket →
    app.main.Launches socket ∨
      app.Attached socket ∧ ¬ (app.threads socket).Past
  own : ∀ thread socket,
    (app.threads thread).socket = some socket → socket = thread
  fresh : ∀ socket, app.sockets ≤ socket →
    app.threads socket = .absent ∧ socket ∉ app.tokens
  nodup : app.tokens.Nodup
  apart : ∀ thread socket, app.threads thread = .closing (some socket) →
    socket ∉ app.tokens

end NsClientApp

theorem sockets_owned_boot : NsClientApp.boot.Owned := by
  constructor <;>
    simp [NsClientApp.boot, MainThread.Launches, ReceiverThread.Running,
      ReceiverThread.socket, NsClientApp.tokens, MainThread.held,
      MainThread.target]

section Threads

variable {app : NsClientApp} {thread : ℕ}

open NsClientApp

theorem NsClientApp.Owned.attached_unique (howned : app.Owned)
    {left right : ℕ} (hleft : app.Attached left)
    (hright : app.Attached right) : left = right := by
  have := howned.joining
  unfold Attached at *
  grind

theorem NsClientApp.not_attached
    (hactive : app.receiverThreadActive = false)
    (hjoining : ∀ thread resume, app.main ≠ .joining thread resume)
    (thread : ℕ) : ¬ app.Attached thread := by
  rintro (⟨hrecord, -⟩ | ⟨resume, hmain⟩)
  · exact Bool.false_ne_true (hactive.symm.trans hrecord)
  · exact hjoining thread resume hmain

/-- While a thread is about to be started, none runs. -/
theorem NsClientApp.Owned.launching_idle (howned : app.Owned) {socket : ℕ}
    (hlaunches : app.main.Launches socket) (thread : ℕ) :
    ¬ app.Attached thread := by
  apply not_attached (howned.launching socket hlaunches).1
  intro thread' resume hmain
  simp [MainThread.Launches, hmain] at hlaunches

theorem NsClientApp.Attached.recorded (hattached : app.Attached thread)
    (hjoining : ∀ thread resume, app.main ≠ .joining thread resume) :
    app.receiverThreadActive = true ∧
      app.receiverThread = some thread := by
  rcases hattached with hrecord | ⟨resume, hmain⟩
  · exact hrecord
  · exact absurd hmain (hjoining thread resume)

theorem NsClientApp.Attached.keep (hattached : app.Attached thread)
    (hjoining : ∀ thread resume, app.main ≠ .joining thread resume)
    {app' : NsClientApp}
    (hactive : app'.receiverThreadActive = app.receiverThreadActive)
    (hreceiver : app'.receiverThread = app.receiverThread) :
    app'.Attached thread := by
  left
  rw [hactive, hreceiver]
  exact hattached.recorded hjoining

/-- A running thread finds no socket but its own. -/
theorem NsClientApp.Owned.stored_running (howned : app.Owned)
    (hrunning : (app.threads thread).Running) {socket : ℕ}
    (hstored : app.socketFd = some socket) : socket = thread := by
  have hattached := howned.running thread hrunning
  rcases howned.stored socket hstored with hlaunches | ⟨hattached', _⟩
  · exact absurd hattached (howned.launching_idle hlaunches thread)
  · exact howned.attached_unique hattached' hattached

/-- Once a running thread has taken its socket, none is stored. -/
theorem NsClientApp.Owned.stored_past (howned : app.Owned)
    (hrunning : (app.threads thread).Running)
    (hpast : (app.threads thread).Past) : app.socketFd = none := by
  cases hsocket : app.socketFd with
  | none => rfl
  | some socket =>
      have hsame := howned.stored_running hrunning hsocket
      subst hsame
      rcases howned.stored socket hsocket with hlaunches | ⟨_, hnotPast⟩
      · exact absurd (howned.running socket hrunning)
          (howned.launching_idle hlaunches socket)
      · exact absurd hpast hnotPast

/-- A thread with a copy of a socket runs, and the socket is its own. -/
theorem NsClientApp.Owned.copies (howned : app.Owned) {socket : ℕ}
    (hsocket : (app.threads thread).socket = some socket) :
    (app.threads thread).Running ∧ socket = thread := by
  refine ⟨⟨?_, ?_⟩, howned.own thread socket hsocket⟩
  · intro habsent
    simp [habsent, ReceiverThread.socket] at hsocket
  · intro hfinished
    simp [hfinished, ReceiverThread.socket] at hsocket

theorem NsClientApp.Owned.known (howned : app.Owned)
    (hrunning : (app.threads thread).Running) : thread < app.sockets := by
  by_contra hlarge
  exact hrunning.1 (howned.fresh thread (not_lt.mp hlarge)).1

/-! What holds of the threads once one of them has moved. -/

section Update

variable {state : ReceiverThread} {threads : ℕ → ReceiverThread}

theorem NsClientApp.Owned.target_update (howned : app.Owned)
    (hrunning : (app.threads thread).Running)
    (hthreads : threads = Function.update app.threads thread state)
    (socket : ℕ) (htarget : app.main.target = some socket) :
    socket < app.sockets ∧ threads socket = .absent := by
  rcases howned.target socket htarget with ⟨hknown, habsent⟩
  refine ⟨hknown, ?_⟩
  have hne : socket ≠ thread := by
    rintro rfl
    exact hrunning.1 habsent
  rw [hthreads, Function.update_of_ne hne]
  exact habsent

theorem NsClientApp.Owned.running_update (howned : app.Owned)
    (hrunning : (app.threads thread).Running)
    (hthreads : threads = Function.update app.threads thread state)
    (other : ℕ) (hother : (threads other).Running) :
    app.Attached other := by
  by_cases hsame : other = thread
  · rw [hsame]
    exact howned.running thread hrunning
  · rw [hthreads, Function.update_of_ne hsame] at hother
    exact howned.running other hother

theorem NsClientApp.Owned.own_update (howned : app.Owned)
    (hown : ∀ socket, state.socket = some socket → socket = thread)
    (hthreads : threads = Function.update app.threads thread state)
    (other socket : ℕ) (hsocket : (threads other).socket = some socket) :
    socket = other := by
  by_cases hsame : other = thread
  · rw [hsame, hthreads, Function.update_self] at hsocket
    rw [hsame]
    exact hown socket hsocket
  · rw [hthreads, Function.update_of_ne hsame] at hsocket
    exact howned.own other socket hsocket

theorem NsClientApp.Owned.absent_update (howned : app.Owned)
    (hknown : thread < app.sockets)
    (hthreads : threads = Function.update app.threads thread state)
    {socket : ℕ} (hfresh : app.sockets ≤ socket) :
    threads socket = .absent := by
  rw [hthreads, Function.update_of_ne (hknown.trans_le hfresh).ne']
  exact (howned.fresh socket hfresh).1

theorem closing_update
    (hstate : ∀ socket, state ≠ .closing (some socket))
    (hthreads : threads = Function.update app.threads thread state)
    {other socket : ℕ} (hclosing : threads other = .closing (some socket)) :
    other ≠ thread ∧ app.threads other = .closing (some socket) := by
  by_cases hsame : other = thread
  · rw [hsame, hthreads, Function.update_self] at hclosing
    exact absurd hclosing (hstate socket)
  · rw [hthreads, Function.update_of_ne hsame] at hclosing
    exact ⟨hsame, hclosing⟩

end Update

/-- A running thread may go on as long as it takes nothing. -/
theorem NsClientApp.Owned.advance (howned : app.Owned)
    (hrunning : (app.threads thread).Running) {state : ReceiverThread}
    (hown : ∀ socket, state.socket = some socket → socket = thread)
    (hpast : ¬ state.Past) {app' : NsClientApp}
    (hsocketFd : app'.socketFd = app.socketFd)
    (hactive : app'.receiverThreadActive = app.receiverThreadActive)
    (hreceiver : app'.receiverThread = app.receiverThread)
    (hlogin : app'.loginSensitive = app.loginSensitive)
    (hmain : app'.main = app.main)
    (hthreads : app'.threads = Function.update app.threads thread state)
    (hsockets : app'.sockets = app.sockets)
    (hclosed : app'.closed = app.closed) : app'.Owned := by
  have htokens : app'.tokens = app.tokens := by
    simp only [tokens, hsocketFd, hmain, hclosed]
  have hattached : app'.Attached = app.Attached := by
    funext other
    simp only [Attached, hactive, hreceiver, hmain]
  constructor
  · rw [hlogin, hsocketFd, hactive]
    exact howned.quiet
  · rw [hmain, hsocketFd, hactive]
    exact howned.storing
  · rw [hmain, hactive, hlogin]
    exact howned.launching
  · rw [hmain, hsockets]
    exact howned.target_update hrunning hthreads
  · rw [hmain, hactive]
    exact howned.joining
  · rw [hattached]
    exact howned.running_update hrunning hthreads
  · intro socket hsocket
    rw [hsocketFd] at hsocket
    rw [hmain, hattached, hthreads]
    have hsame := howned.stored_running hrunning hsocket
    subst hsame
    rw [Function.update_self]
    exact (howned.stored socket hsocket).imp_right fun h => ⟨h.1, hpast⟩
  · exact howned.own_update hown hthreads
  · intro socket hfresh
    rw [hsockets] at hfresh
    rw [htokens]
    exact ⟨howned.absent_update (howned.known hrunning) hthreads hfresh,
      (howned.fresh socket hfresh).2⟩
  · rw [htokens]
    exact howned.nodup
  · have hstate : ∀ socket, state ≠ .closing (some socket) := by
      rintro socket rfl
      exact hpast trivial
    intro other socket hclosing
    rw [htokens]
    exact howned.apart other socket
      (closing_update hstate hthreads hclosing).2

/-- What a thread takes is its own socket or nothing. -/
theorem NsClientApp.Owned.takes (howned : app.Owned)
    (htaking : app.threads thread = .taking) :
    (app.takeSocket.setThread thread (.closing app.socketFd)).Owned := by
  have hrunning : (app.threads thread).Running := by
    simp [htaking, ReceiverThread.Running]
  have hsplit : app.tokens = app.socketFd.toList ++
      (app.takeSocket.setThread thread (.closing app.socketFd)).tokens := by
    simp [tokens, takeSocket, setThread]
  have hnodup := howned.nodup
  rw [hsplit, List.nodup_append] at hnodup
  constructor
  · exact fun hlogin => ⟨rfl, (howned.quiet hlogin).2⟩
  · exact fun socket login packet hmain =>
      ⟨rfl, (howned.storing socket login packet hmain).2⟩
  · exact howned.launching
  · exact howned.target_update hrunning rfl
  · exact howned.joining
  · exact howned.running_update hrunning rfl
  · intro socket hsocket
    exact absurd hsocket (Option.some_ne_none socket).symm
  · have hown : ∀ socket, (ReceiverThread.closing app.socketFd).socket =
        some socket → socket = thread :=
      fun socket hsocket => howned.stored_running hrunning hsocket
    exact howned.own_update hown rfl
  · intro socket hfresh
    have hold := (howned.fresh socket hfresh).2
    rw [hsplit, List.mem_append, not_or] at hold
    exact ⟨howned.absent_update (howned.known hrunning) rfl hfresh, hold.2⟩
  · exact hnodup.2.1
  · intro other socket hclosing
    by_cases hsame : other = thread
    · subst hsame
      simp only [setThread, takeSocket, Function.update_self,
        ReceiverThread.closing.injEq] at hclosing
      intro hmem
      exact hnodup.2.2 socket (by simp [hclosing]) socket hmem rfl
    · simp only [setThread, takeSocket, Function.update_of_ne hsame]
        at hclosing
      have hold := howned.apart other socket hclosing
      rw [hsplit, List.mem_append, not_or] at hold
      exact hold.2

theorem NsClientApp.Owned.closes (howned : app.Owned)
    {socket : Option ℕ} (hclosing : app.threads thread = .closing socket) :
    ((app.closeSocket socket).setThread thread .queueing).Owned := by
  have hrunning : (app.threads thread).Running := by
    simp [hclosing, ReceiverThread.Running]
  have hstored := howned.stored_past hrunning (by
    rw [hclosing]
    trivial)
  have hown : ∀ own, socket = some own → own = thread := by
    intro own hsome
    apply howned.own thread own
    rw [hclosing]
    exact hsome
  have hsplit : ((app.closeSocket socket).setThread thread
      .queueing).tokens = app.tokens ++ socket.toList := by
    simp [tokens, closeSocket, setThread]
  constructor
  · exact howned.quiet
  · exact howned.storing
  · exact howned.launching
  · exact howned.target_update hrunning rfl
  · exact howned.joining
  · exact howned.running_update hrunning rfl
  · intro own hown'
    exact absurd (hstored.symm.trans hown') (Option.some_ne_none own).symm
  · exact howned.own_update (by simp [ReceiverThread.socket]) rfl
  · intro own hfresh
    have hknown := howned.known hrunning
    rw [hsplit, List.mem_append, not_or]
    refine ⟨howned.absent_update hknown rfl hfresh,
      (howned.fresh own hfresh).2, ?_⟩
    intro hmem
    exact (hknown.trans_le hfresh).ne' (hown own (by simpa using hmem))
  · rw [hsplit, List.nodup_append]
    refine ⟨howned.nodup, by cases socket <;> simp, ?_⟩
    rintro own hmem _ hown' rfl
    have hsome : socket = some own := by simpa using hown'
    exact howned.apart thread own (hclosing.trans (by rw [hsome])) hmem
  · intro other own hclosing'
    have hold : other ≠ thread ∧
        app.threads other = .closing (some own) :=
      closing_update (by simp) rfl hclosing'
    have hother : own = other := by
      apply howned.own other own
      rw [hold.2]
      rfl
    rw [hsplit, List.mem_append, not_or]
    refine ⟨howned.apart other own hold.2, ?_⟩
    intro hmem
    exact hold.1 (hother.symm.trans (hown own (by simpa using hmem)))

theorem NsClientApp.Owned.finishes (howned : app.Owned)
    (hqueueing : app.threads thread = .queueing) (event : NsUiEvent) :
    ((app.queueUiEvent event).setThread thread .finished).Owned := by
  have hrunning : (app.threads thread).Running := by
    simp [hqueueing, ReceiverThread.Running]
  have hstored := howned.stored_past hrunning (by
    rw [hqueueing]
    trivial)
  constructor
  · exact howned.quiet
  · exact howned.storing
  · exact howned.launching
  · exact howned.target_update hrunning rfl
  · exact howned.joining
  · exact howned.running_update hrunning rfl
  · intro own hown
    exact absurd (hstored.symm.trans hown) (Option.some_ne_none own).symm
  · exact howned.own_update (by simp [ReceiverThread.socket]) rfl
  · intro own hfresh
    exact ⟨howned.absent_update (howned.known hrunning) rfl hfresh,
      (howned.fresh own hfresh).2⟩
  · exact howned.nodup
  · intro other own hclosing
    exact howned.apart other own (closing_update (by simp) rfl hclosing).2

theorem NsClientApp.Owned.receiveLoop (howned : app.Owned) (thread : ℕ)
    (received : Option NsPacket) :
    (app.receiveLoop thread received).Owned := by
  have hadvance : ∀ {state : ReceiverThread},
      (app.threads thread).Running →
      (∀ socket, state.socket = some socket → socket = thread) →
      ¬ state.Past → (app.setThread thread state).Owned := by
    intro state hrunning hown hpast
    exact howned.advance hrunning hown hpast rfl rfl rfl rfl rfl rfl rfl rfl
  unfold NsClientApp.receiveLoop
  cases hstate : app.threads thread with
  | absent => exact howned
  | finished => exact howned
  | taking => exact howned.takes hstate
  | closing socket => exact howned.closes hstate
  | queueing => exact howned.finishes hstate _
  | starting =>
      have hrunning : (app.threads thread).Running := by
        simp [hstate, ReceiverThread.Running]
      cases hsocket : app.socketFd with
      | none => exact hadvance hrunning (by simp [ReceiverThread.socket]) id
      | some socket =>
          have hsame := howned.stored_running hrunning hsocket
          exact hadvance hrunning
            (by simpa [ReceiverThread.socket] using hsame) id
  | receiving socket =>
      rcases howned.copies (by rw [hstate]; rfl) with ⟨hrunning, hsame⟩
      cases received with
      | none => exact hadvance hrunning (by simp [ReceiverThread.socket]) id
      | some packet =>
          exact hadvance hrunning
            (by simpa [ReceiverThread.socket] using hsame) id
  | handling socket packet =>
      rcases howned.copies (by rw [hstate]; rfl) with ⟨hrunning, hsame⟩
      have hown : ∀ own, (ReceiverThread.posting socket
          (packetEvents thread packet)).socket = some own →
            own = thread := by
        simpa [ReceiverThread.socket] using hsame
      dsimp only
      split_ifs
      · exact howned.advance hrunning hown id rfl rfl rfl rfl rfl rfl rfl
          rfl
      · exact hadvance hrunning hown id
  | posting socket events =>
      rcases howned.copies (by rw [hstate]; rfl) with ⟨hrunning, hsame⟩
      cases events with
      | nil =>
          exact hadvance hrunning
            (by simpa [ReceiverThread.socket] using hsame) id
      | cons event rest =>
          have hown : ∀ own, (ReceiverThread.posting socket rest).socket =
              some own → own = thread := by
            simpa [ReceiverThread.socket] using hsame
          exact howned.advance hrunning hown id rfl rfl rfl rfl rfl rfl rfl
            rfl

end Threads

/-! ## The main thread -/

section Main

variable {app : NsClientApp}

open NsClientApp

/-- A step of the main thread that neither takes nor stores. -/
theorem NsClientApp.Owned.goOn (howned : app.Owned) {app' : NsClientApp}
    (hsocketFd : app'.socketFd = app.socketFd)
    (hactive : app'.receiverThreadActive = app.receiverThreadActive)
    (hreceiver : app'.receiverThread = app.receiverThread)
    (hthreads : app'.threads = app.threads)
    (hsockets : app'.sockets = app.sockets)
    (hclosed : app'.closed = app.closed)
    (hlogin : app'.loginSensitive = true → app.loginSensitive = true)
    (hheld : app'.main.held = app.main.held)
    (hstoring : ∀ socket login packet,
      app'.main ≠ .storing socket login packet)
    (hjoining : ∀ thread resume, app.main ≠ .joining thread resume)
    (hjoining' : ∀ thread resume, app'.main ≠ .joining thread resume)
    (hidle : ∀ socket, app'.main.Launches socket →
      app.receiverThreadActive = false ∧ app'.loginSensitive = false)
    (htarget : ∀ socket, app'.main.target = some socket →
      app.main.target = some socket)
    (hlaunches : ∀ socket, app.main.Launches socket →
      app.socketFd = some socket → app'.main.Launches socket) :
    app'.Owned := by
  have htokens : app'.tokens = app.tokens := by
    simp only [tokens, hsocketFd, hheld, hclosed]
  have hattached : ∀ thread, app.Attached thread → app'.Attached thread :=
    fun thread hold => hold.keep hjoining hactive hreceiver
  constructor
  · rw [hsocketFd, hactive]
    exact fun h => howned.quiet (hlogin h)
  · exact fun socket login packet h => absurd h (hstoring socket login packet)
  · rw [hactive]
    exact hidle
  · rw [hsockets, hthreads]
    exact fun socket h => howned.target socket (htarget socket h)
  · exact fun thread resume h => absurd h (hjoining' thread resume)
  · rw [hthreads]
    exact fun thread hrunning =>
      hattached thread (howned.running thread hrunning)
  · intro socket hsocket
    rw [hsocketFd] at hsocket
    rw [hthreads]
    rcases howned.stored socket hsocket with hold | ⟨hattached', hpast⟩
    · exact Or.inl (hlaunches socket hold hsocket)
    · exact Or.inr ⟨hattached socket hattached', hpast⟩
  · rw [hthreads]
    exact howned.own
  · rw [hthreads, hsockets, htokens]
    exact howned.fresh
  · rw [htokens]
    exact howned.nodup
  · rw [hthreads, htokens]
    exact howned.apart

/-- A callback may end where nothing is stored and no thread runs. -/
theorem NsClientApp.Owned.resumes (howned : app.Owned)
    (hsocketFd : app.socketFd = none)
    (hthreads : ∀ thread, ¬ (app.threads thread).Running)
    (hheld : app.main.held = none) {app' : NsClientApp}
    (hsocketFd' : app'.socketFd = app.socketFd)
    (hactive : app'.receiverThreadActive = false)
    (hthreads' : app'.threads = app.threads)
    (hsockets : app'.sockets = app.sockets)
    (hclosed : app'.closed = app.closed) (hidle : app'.main = .idle) :
    app'.Owned := by
  have hnone : app'.socketFd = none := hsocketFd'.trans hsocketFd
  have htokens : app'.tokens = app.tokens := by
    simp only [tokens, hnone, hsocketFd, hidle, hheld, hclosed]
    rfl
  constructor
  · exact fun _ => ⟨hnone, hactive⟩
  · simp [hidle]
  · simp [hidle, MainThread.Launches]
  · simp [hidle, MainThread.target]
  · simp [hidle]
  · rw [hthreads']
    exact fun thread hrunning => absurd hrunning (hthreads thread)
  · simp [hnone]
  · rw [hthreads']
    exact howned.own
  · rw [hthreads', hsockets, htokens]
    exact howned.fresh
  · rw [htokens]
    exact howned.nodup
  · rw [hthreads', htokens]
    exact howned.apart

theorem NsClientApp.Owned.resume (howned : app.Owned)
    (hsocketFd : app.socketFd = none)
    (hthreads : ∀ thread, ¬ (app.threads thread).Running)
    (hheld : app.main.held = none) {app' : NsClientApp}
    (hsocketFd' : app'.socketFd = app.socketFd)
    (hactive : app'.receiverThreadActive = false)
    (hthreads' : app'.threads = app.threads)
    (hsockets : app'.sockets = app.sockets)
    (hclosed : app'.closed = app.closed) (resume : Resume) :
    (app'.resume resume).Owned := by
  cases resume <;>
    exact howned.resumes hsocketFd hthreads hheld hsocketFd' hactive
      hthreads' hsockets hclosed rfl

/-- While no thread is about to be started, what is stored is the socket of
a thread that has not taken it. -/
theorem NsClientApp.Owned.stored_attached (howned : app.Owned)
    {socket : ℕ} (hsocket : app.socketFd = some socket)
    (hlaunches : ¬ app.main.Launches socket) :
    app.Attached socket ∧ ¬ (app.threads socket).Past :=
  (howned.stored socket hsocket).resolve_left hlaunches

/-- The main thread waits for the thread that it has unlinked. -/
theorem NsClientApp.Owned.awaits (howned : app.Owned) {resume : Resume}
    (hmain : app.main = .unlinking resume) {thread : ℕ}
    (hthread : app.Attached thread) :
    ({ app with
      receiverThread := none
      receiverThreadActive := false
      main := .joining thread resume } : NsClientApp).Owned := by
  have hsame : ∀ other, app.Attached other →
      ({ app with
          receiverThread := none
          receiverThreadActive := false
          main := .joining thread resume } :
        NsClientApp).Attached other := by
    intro other hother
    rw [howned.attached_unique hother hthread]
    exact Or.inr ⟨resume, rfl⟩
  have htokens : ({ app with
          receiverThread := none
          receiverThreadActive := false
          main := .joining thread resume } :
        NsClientApp).tokens = app.tokens := by
    simp only [tokens, hmain]
    rfl
  constructor
  · exact fun hlogin => ⟨(howned.quiet hlogin).1, rfl⟩
  · simp
  · simp [MainThread.Launches]
  · simp [MainThread.target]
  · exact fun _ _ _ => rfl
  · exact fun other hrunning => hsame other (howned.running other hrunning)
  · intro socket hsocket
    have hlaunches : ¬ app.main.Launches socket := by
      simp [hmain, MainThread.Launches]
    exact Or.inr ((howned.stored_attached hsocket hlaunches).imp_left
      (hsame socket))
  · exact howned.own
  · rw [htokens]
    exact howned.fresh
  · rw [htokens]
    exact howned.nodup
  · rw [htokens]
    exact howned.apart

theorem NsClientApp.Owned.unlinks (howned : app.Owned) {resume : Resume}
    (hmain : app.main = .unlinking resume) :
    (app.unlinkReceiverThread resume).Owned := by
  have hheld : app.main.held = none := by
    rw [hmain]
    rfl
  by_cases hrecord : ∃ thread, app.Attached thread
  · rcases hrecord with ⟨thread, hthread⟩
    rcases hthread.recorded (by simp [hmain]) with ⟨hactive, hreceiver⟩
    have hunlink : app.unlinkReceiverThread resume =
        { app with
          receiverThread := none
          receiverThreadActive := false
          main := .joining thread resume } := by
      simp [unlinkReceiverThread, hactive, hreceiver]
    rw [hunlink]
    exact howned.awaits hmain hthread
  · have hnobody := not_exists.mp hrecord
    have hnone : app.socketFd = none := by
      cases hsocket : app.socketFd with
      | none => rfl
      | some socket =>
          have hlaunches : ¬ app.main.Launches socket := by
            simp [hmain, MainThread.Launches]
          exact absurd (howned.stored_attached hsocket hlaunches).1
            (hnobody socket)
    have hidle : ∀ thread, ¬ (app.threads thread).Running :=
      fun thread hrunning => hnobody _ (howned.running thread hrunning)
    unfold unlinkReceiverThread
    split_ifs with hactive
    · rw [Bool.not_eq_true'] at hactive
      exact howned.resume hnone hidle hheld rfl hactive rfl rfl rfl resume
    · rw [Bool.not_eq_true', Bool.not_eq_false] at hactive
      dsimp only
      split
      · next thread hreceiver =>
          exact absurd (Or.inl ⟨hactive, hreceiver⟩) (hnobody thread)
      · apply howned.resume hnone hidle hheld <;> rfl

/-- The thread that was waited for has taken its socket. -/
theorem NsClientApp.Owned.joins (howned : app.Owned) {thread : ℕ}
    {resume : Resume} (hmain : app.main = .joining thread resume)
    (hfinished : app.threads thread = .finished) :
    (app.resume resume).Owned := by
  have hactive := howned.joining thread resume hmain
  have hattached : ∀ other, app.Attached other → other = thread := by
    rintro other (⟨hrecord, _⟩ | ⟨resume', hjoining⟩)
    · simp [hactive] at hrecord
    · rw [hmain, MainThread.joining.injEq] at hjoining
      exact hjoining.1.symm
  apply howned.resume _ _ _ rfl hactive rfl rfl rfl
  · cases hsocket : app.socketFd with
    | none => rfl
    | some socket =>
        rcases howned.stored socket hsocket with hlaunches | ⟨hother, hpast⟩
        · simp [hmain, MainThread.Launches] at hlaunches
        · rw [hattached socket hother, hfinished] at hpast
          exact absurd trivial hpast
  · intro other hrunning
    have hother := hattached other (howned.running other hrunning)
    rw [hother, hfinished] at hrunning
    exact hrunning.2 rfl
  · rw [hmain]
    rfl

theorem NsClientApp.Owned.stores (howned : app.Owned) {socket : ℕ}
    {login : LoginForm} {packet : NsPacket}
    (hmain : app.main = .storing socket login packet)
    {app' : NsClientApp} (hsocketFd : app'.socketFd = some socket)
    (hactive : app'.receiverThreadActive = app.receiverThreadActive)
    (hthreads : app'.threads = app.threads)
    (hsockets : app'.sockets = app.sockets)
    (hclosed : app'.closed = app.closed)
    (hlogin : app'.loginSensitive = false)
    (hmain' : app'.main = .sendingJoin socket packet) : app'.Owned := by
  rcases howned.storing socket login packet hmain with ⟨hnone, hidle⟩
  have htokens : app'.tokens = app.tokens := by
    simp [tokens, hsocketFd, hmain', hmain, hnone, hclosed, MainThread.held]
  have hnobody := not_attached hidle (by simp [hmain])
  constructor
  · simp [hlogin]
  · simp [hmain']
  · exact fun _ _ => ⟨hactive.trans hidle, hlogin⟩
  · intro own hown
    rw [hmain'] at hown
    rw [hsockets, hthreads]
    exact howned.target own (by rw [hmain]; exact hown)
  · simp [hmain']
  · rw [hthreads]
    exact fun thread hrunning =>
      absurd (howned.running thread hrunning) (hnobody thread)
  · intro own hown
    left
    rw [hmain']
    exact Option.some.inj (hsocketFd.symm.trans hown)
  · rw [hthreads]
    exact howned.own
  · rw [hthreads, hsockets, htokens]
    exact howned.fresh
  · rw [htokens]
    exact howned.nodup
  · rw [hthreads, htokens]
    exact howned.apart

theorem NsClientApp.Owned.starts (howned : app.Owned) {socket : ℕ}
    (hmain : app.main = .starting socket) :
    ({ app.setThread socket .starting with
      receiverThreadActive := true
      receiverThread := some socket
      main := .idle } : NsClientApp).Owned := by
  have hlaunches : app.main.Launches socket := by
    rw [hmain]
    exact rfl
  have hlogin := (howned.launching socket hlaunches).2
  have hknown := (howned.target socket (by rw [hmain]; rfl)).1
  have hnobody := howned.launching_idle hlaunches
  have hstill : ∀ thread, ¬ (app.threads thread).Running :=
    fun thread hrunning => hnobody thread (howned.running thread hrunning)
  have htokens : ({ app.setThread socket .starting with
      receiverThreadActive := true
      receiverThread := some socket
      main := .idle } : NsClientApp).tokens = app.tokens := by
    simp [tokens, setThread, hmain, MainThread.held]
  constructor
  · exact fun h => absurd (hlogin.symm.trans h) Bool.false_ne_true
  · simp
  · simp [MainThread.Launches]
  · simp [MainThread.target]
  · simp
  · intro other hrunning
    left
    by_cases hsame : other = socket
    · exact ⟨rfl, by rw [hsame]⟩
    · simp only [setThread, Function.update_of_ne hsame] at hrunning
      exact absurd hrunning (hstill other)
  · intro own hown
    right
    have hsame : own = socket := by
      have hold := (howned.stored own hown).resolve_right
        fun h => hnobody own h.1
      rw [hmain] at hold
      exact hold.symm
    subst hsame
    refine ⟨Or.inl ⟨rfl, rfl⟩, ?_⟩
    simp only [setThread, Function.update_self]
    exact id
  · exact howned.own_update (by simp [ReceiverThread.socket]) rfl
  · intro own hfresh
    rw [htokens]
    exact ⟨howned.absent_update hknown rfl hfresh,
      (howned.fresh own hfresh).2⟩
  · rw [htokens]
    exact howned.nodup
  · intro other own hclosing
    rw [htokens]
    exact howned.apart other own (closing_update (by simp) rfl hclosing).2

/-- What the main thread takes goes from the shared field into its hands,
and from there to the closed ones. -/
theorem NsClientApp.Owned.passes (howned : app.Owned) {app' : NsClientApp}
    (htokens : app'.tokens.Perm app.tokens)
    (hsocketFd : ∀ socket, app'.socketFd = some socket →
      app.socketFd = some socket ∧ ¬ app.main.Launches socket)
    (hactive : app'.receiverThreadActive = app.receiverThreadActive)
    (hreceiver : app'.receiverThread = app.receiverThread)
    (hlogin : app'.loginSensitive = app.loginSensitive)
    (hthreads : app'.threads = app.threads)
    (hsockets : app'.sockets = app.sockets)
    (hstoring : ∀ socket login packet,
      app'.main ≠ .storing socket login packet)
    (hlaunches : ∀ socket, ¬ app'.main.Launches socket)
    (htarget : app'.main.target = none)
    (hjoining : ∀ thread resume, app.main ≠ .joining thread resume)
    (hjoining' : ∀ thread resume, app'.main ≠ .joining thread resume) :
    app'.Owned := by
  have hattached : ∀ thread, app.Attached thread → app'.Attached thread :=
    fun thread hold => hold.keep hjoining hactive hreceiver
  constructor
  · rw [hlogin, hactive]
    intro h
    refine ⟨Option.eq_none_iff_forall_ne_some.mpr ?_, (howned.quiet h).2⟩
    intro socket hsocket
    have hold := (hsocketFd socket hsocket).1
    exact absurd ((howned.quiet h).1.symm.trans hold)
      (Option.some_ne_none socket).symm
  · exact fun socket login packet h => absurd h (hstoring socket login packet)
  · exact fun socket h => absurd h (hlaunches socket)
  · simp [htarget]
  · exact fun thread resume h => absurd h (hjoining' thread resume)
  · rw [hthreads]
    exact fun thread hrunning =>
      hattached thread (howned.running thread hrunning)
  · intro socket hsocket
    rcases hsocketFd socket hsocket with ⟨hold, hnot⟩
    rw [hthreads]
    exact Or.inr (((howned.stored socket hold).resolve_left hnot).imp_left
      (hattached socket))
  · rw [hthreads]
    exact howned.own
  · intro socket hfresh
    rw [hsockets] at hfresh
    rw [hthreads, htokens.mem_iff]
    exact howned.fresh socket hfresh
  · exact htokens.nodup_iff.mpr howned.nodup
  · intro thread socket hclosing
    rw [hthreads] at hclosing
    rw [htokens.mem_iff]
    exact howned.apart thread socket hclosing

theorem NsClientApp.Owned.connects (howned : app.Owned)
    (hmain : app.main = .idle) (hlogin : app.loginSensitive = true)
    {app' : NsClientApp}
    (htokens : app'.tokens.Perm (app.sockets :: app.tokens))
    (hsocketFd : app'.socketFd = app.socketFd)
    (hactive : app'.receiverThreadActive = app.receiverThreadActive)
    (hthreads : app'.threads = app.threads)
    (hsockets : app'.sockets = app.sockets + 1)
    (hmain' : app'.main = .idle ∨
      ∃ login packet, app'.main = .storing app.sockets login packet) :
    app'.Owned := by
  rcases howned.quiet hlogin with ⟨hnone, hidle⟩
  have hstill : ∀ thread, ¬ (app.threads thread).Running :=
    fun thread hrunning => not_attached hidle (by simp [hmain]) thread
      (howned.running thread hrunning)
  have hmem : ∀ socket, socket ∈ app'.tokens ↔
      socket = app.sockets ∨ socket ∈ app.tokens := by
    intro socket
    rw [htokens.mem_iff, List.mem_cons]
  constructor
  · exact fun _ => ⟨hsocketFd.trans hnone, hactive.trans hidle⟩
  · exact fun _ _ _ _ => ⟨hsocketFd.trans hnone, hactive.trans hidle⟩
  · rcases hmain' with h | ⟨login, packet, h⟩ <;>
      simp [h, MainThread.Launches]
  · intro socket htarget
    rcases hmain' with h | ⟨login, packet, h⟩
    · simp [h, MainThread.target] at htarget
    · rw [h] at htarget
      have hsame : app.sockets = socket := Option.some.inj htarget
      rw [hsockets, hthreads, ← hsame]
      exact ⟨Nat.lt_succ_self _, (howned.fresh _ le_rfl).1⟩
  · rcases hmain' with h | ⟨login, packet, h⟩ <;> simp [h]
  · rw [hthreads]
    exact fun thread hrunning => absurd hrunning (hstill thread)
  · simp [hsocketFd, hnone]
  · rw [hthreads]
    exact howned.own
  · intro socket hfresh
    rw [hsockets] at hfresh
    have hold := howned.fresh socket (Nat.le_of_succ_le hfresh)
    rw [hthreads, hmem, not_or]
    exact ⟨hold.1, (Nat.lt_of_succ_le hfresh).ne', hold.2⟩
  · rw [htokens.nodup_iff, List.nodup_cons]
    exact ⟨(howned.fresh _ le_rfl).2, howned.nodup⟩
  · intro thread socket hclosing
    rw [hthreads] at hclosing
    apply absurd _ (hstill thread)
    simp [hclosing, ReceiverThread.Running]

theorem NsClientApp.Owned.setStatus (howned : app.Owned)
    (hmain : app.main = .idle) (text : List UInt8) :
    (app.setStatus text).Owned := by
  apply howned.goOn <;>
    simp [NsClientApp.setStatus, hmain, MainThread.Launches]

theorem NsClientApp.Owned.onConnectClicked (howned : app.Owned)
    (hmain : app.main = .idle) (hlogin : app.loginSensitive = true)
    (login : LoginForm) (failure : Option (List UInt8)) (now : UInt32) :
    (app.onConnectClicked login failure now).Owned := by
  have hstatus := howned.setStatus hmain
  unfold NsClientApp.onConnectClicked
  split
  · exact hstatus _
  · exact hstatus _
  · dsimp only
    split
    · refine howned.connects hmain hlogin ?_ rfl rfl rfl rfl (Or.inl hmain)
      simp [tokens, NsClientApp.setStatus, closeSocket, hmain, MainThread.held,
        (howned.quiet hlogin).1]
    · refine howned.connects hmain hlogin ?_ rfl rfl rfl rfl
        (Or.inr ⟨_, _, rfl⟩)
      simp [tokens, hmain, (howned.quiet hlogin).1, MainThread.held]

theorem NsClientApp.Owned.onSendClicked (howned : app.Owned)
    (hmain : app.main = .idle) (message : List UInt8) (now : UInt32) :
    (app.onSendClicked message now).Owned := by
  have hstatus := howned.setStatus hmain
  unfold NsClientApp.onSendClicked
  split_ifs
  · exact howned
  split
  · split
    · exact hstatus _
    · apply howned.goOn <;>
        simp [hmain, MainThread.held, MainThread.Launches,
          MainThread.target]
  · exact hstatus _

theorem NsClientApp.Owned.dispatchUiEvent (howned : app.Owned)
    (hmain : app.main = .idle) : app.dispatchUiEvent.Owned := by
  unfold NsClientApp.dispatchUiEvent
  split
  · exact howned
  · dsimp only
    split <;> apply howned.goOn <;>
      simp [NsClientApp.setStatus, appendLine, hmain, MainThread.held,
        MainThread.Launches, MainThread.target]

theorem NsClientApp.Owned.continueCallback (howned : app.Owned)
    (sendOk : Bool) : (app.continueCallback sendOk).Owned := by
  unfold NsClientApp.continueCallback
  cases hmain : app.main with
  | idle => exact howned
  | storing socket login packet =>
      exact howned.stores hmain rfl rfl rfl rfl rfl rfl rfl
  | sendingJoin socket packet =>
      have hlaunches := howned.launching socket (by
        rw [hmain]
        exact rfl)
      dsimp only
      split_ifs <;> apply howned.goOn <;>
        simp [NsClientApp.setStatus, hmain, MainThread.held,
          MainThread.Launches, MainThread.target, hlaunches]
  | starting socket => exact howned.starts hmain
  | sending socket packet =>
      dsimp only
      split_ifs <;> apply howned.goOn <;>
        simp [NsClientApp.setStatus, hmain, MainThread.held,
          MainThread.Launches, MainThread.target]
  | taking notifyServer resume =>
      apply howned.passes <;>
        simp [takeSocket, tokens, hmain, MainThread.held,
          MainThread.Launches, MainThread.target]
  | leaving socket notifyServer wasJoined userId resume =>
      apply howned.goOn <;>
        simp [hmain, MainThread.held, MainThread.Launches,
          MainThread.target]
  | closing socket resume =>
      have hswap : (app.socketFd.toList ++ (app.closed ++
          socket.toList)).Perm (app.socketFd.toList ++ (socket.toList ++
            app.closed)) := List.perm_append_comm.append_left _
      apply howned.passes <;>
        simp [closeSocket, tokens, hmain, hswap, MainThread.held,
          MainThread.Launches, MainThread.target]
  | unlinking resume => exact howned.unlinks hmain
  | joining thread resume =>
      dsimp only
      split_ifs with hfinished
      · exact howned.joins hmain hfinished
      · exact howned

theorem NsClientApp.Owned.closeRequest (howned : app.Owned)
    (hmain : app.main = .idle) :
    ({ app with main := .taking true .closeRequest } :
      NsClientApp).Owned := by
  apply howned.goOn <;>
    simp [hmain, MainThread.held, MainThread.Launches, MainThread.target]

theorem NsClientApp.Owned.step (howned : app.Owned)
    (action : ClientAction) : (app.step action).Owned := by
  apply step_cases app action howned
  · intro login failure now hmain hlogin
    exact howned.onConnectClicked hmain hlogin login failure now
  · intro message now hmain
    exact howned.onSendClicked hmain message now
  · exact howned.closeRequest
  · exact howned.dispatchUiEvent
  · exact fun sendOk _ => howned.continueCallback sendOk
  · exact fun thread received _ => howned.receiveLoop thread received

end Main

/-! ## One owner -/

/-- What the threads are about to do to a socket they may do: the main
thread stores one where none is stored, a receiver thread takes and closes
its own, and an ACK is entered while no other connection is stored. -/
structure OneOwner (app : NsClientApp) : Prop where
  closedOnce : ∀ socket, app.closed.count socket ≤ 1
  stores : ∀ socket login packet,
    app.main = .storing socket login packet → app.socketFd = none
  takes : ∀ thread socket, app.threads thread = .taking →
    app.socketFd = some socket → socket = thread
  closes : ∀ thread socket, app.threads thread = .closing (some socket) →
    socket = thread
  receives : ∀ thread socket, app.threads thread = .receiving socket →
    socket = thread
  acknowledges : ∀ thread own packet,
    app.threads thread = .handling own packet →
      own = thread ∧
        ∀ socket, app.socketFd = some socket → socket = thread

theorem NsClientApp.Owned.oneOwner {app : NsClientApp}
    (howned : app.Owned) : OneOwner app := by
  constructor
  · have hnodup : app.closed.Nodup :=
      howned.nodup.sublist (List.sublist_append_right _ _)
    exact List.nodup_iff_count_le_one.mp hnodup
  · exact fun socket login packet hmain =>
      (howned.storing socket login packet hmain).1
  · intro thread socket htaking hsocket
    apply howned.stored_running _ hsocket
    simp [htaking, ReceiverThread.Running]
  · intro thread socket hclosing
    apply howned.own thread socket
    rw [hclosing]
    rfl
  · intro thread socket hreceiving
    apply howned.own thread socket
    rw [hreceiving]
    rfl
  · intro thread own packet hhandling
    constructor
    · apply howned.own thread own
      rw [hhandling]
      rfl
    · intro socket hsocket
      apply howned.stored_running _ hsocket
      simp [hhandling, ReceiverThread.Running]

theorem owned_run (actions : List ClientAction) :
    (run NsClientApp.step .boot actions).Owned :=
  have halong : Along NsClientApp.step (fun _ _ => True) .boot actions :=
    along_of_forall (fun _ _ => trivial) _ actions
  run_invariant NsClientApp.Owned
    (fun _ action howned _ => howned.step action) sockets_owned_boot halong

/-- Every socket of the client has one owner, however the main thread and
the receiver threads interleave. -/
theorem client_sockets_one_owner (actions : List ClientAction) :
    OneOwner (run NsClientApp.step .boot actions) :=
  (owned_run actions).oneOwner

end NodeSignal
