import NodeSignal.Settling
import NodeSignal.Transcripts
import Mathlib.Algebra.BigOperators.Group.Finset.Basic
import Mathlib.Data.Nat.Pairing

/-!
# The client comes to rest

Once the user does nothing more and every open connection has ended, so that
each `ns_recv_packet` returns without a packet, every callback returns, every
receiver thread ends and every queued event is dispatched, in whatever order
they are scheduled: no two of them wait for each other.  What remains is the
login page, with all sockets closed.  A thread whose connection stays open
waits in `recv()`, and so does a callback that joins it.
-/

namespace NodeSignal

open CStrings Runs Settling

/-! ## The work that is left -/

/-- What a callback still has to do, and the events it may still have to
wait for. -/
def MainThread.work : MainThread → ℕ
  | .idle => 0
  | .joining _ _ => 1
  | .unlinking _ => 2
  | .closing _ _ => 3
  | .leaving _ _ _ _ _ => 4
  | .taking _ _ => 5
  | .sending _ _ => 6
  | .starting _ => 9
  | .sendingJoin _ _ => 10
  | .storing _ _ _ => 11

def ReceiverThread.work : ReceiverThread → ℕ
  | .absent => 0
  | .finished => 0
  | .queueing => 4
  | .closing _ => 5
  | .taking => 6
  | .receiving _ => 7
  | .starting => 8
  | .posting _ events => 8 + 4 * events.length
  | .handling _ packet =>
      9 + 4 * (NsClientApp.packetEvents 0 packet).length

namespace NsClientApp

def threadWork (app : NsClientApp) : ℕ :=
  ∑ thread ∈ Finset.range app.sockets, (app.threads thread).work

def work (app : NsClientApp) : ℕ :=
  app.main.work + 3 * app.events.length + app.threadWork

end NsClientApp

/-- What happens once nobody clicks and every connection has ended: each
`ns_recv_packet` returns, closed or with an error. -/
def ClientAction.Closing : ClientAction → Prop
  | .proceed _ => True
  | .dispatch => True
  | .receive _ none => True
  | _ => False

/-- The step is due: it takes some of the work. -/
def NsClientApp.Due (app : NsClientApp) : ClientAction → Prop
  | .proceed _ => app.main ≠ .idle ∧ ∀ thread resume,
      app.main = .joining thread resume → app.threads thread = .finished
  | .dispatch => app.main = .idle ∧ app.events ≠ []
  | .receive thread _ => (app.threads thread).Running
  | _ => False

section Work

variable {app : NsClientApp}

open NsClientApp

/-- The number of events does not depend on the thread that queues them. -/
theorem packetEvents_length (thread : ℕ) (packet : NsPacket) :
    (packetEvents thread packet).length =
      (packetEvents 0 packet).length := by
  unfold packetEvents
  simp only
  split <;> rfl

/-- A thread that goes on changes the work by its own. -/
theorem threadWork_update {app' : NsClientApp} {thread : ℕ}
    {state : ReceiverThread} (hknown : thread < app.sockets)
    (hsockets : app'.sockets = app.sockets)
    (hthreads : app'.threads = Function.update app.threads thread state) :
    app'.threadWork + (app.threads thread).work =
      app.threadWork + state.work := by
  have hmem : thread ∈ Finset.range app.sockets :=
    Finset.mem_range.mpr hknown
  have hrest : ∑ other ∈ (Finset.range app.sockets).erase thread,
        (app'.threads other).work =
      ∑ other ∈ (Finset.range app.sockets).erase thread,
        (app.threads other).work := by
    apply Finset.sum_congr rfl
    intro other hother
    rw [hthreads, Function.update_of_ne (Finset.ne_of_mem_erase hother)]
  have hthen := Finset.sum_erase_add (Finset.range app.sockets)
    (fun other => (app'.threads other).work) hmem
  have hnow := Finset.sum_erase_add (Finset.range app.sockets)
    (fun other => (app.threads other).work) hmem
  have hself : (app'.threads thread).work = state.work := by
    rw [hthreads, Function.update_self]
  unfold threadWork
  rw [hsockets]
  omega

/-- A thread that runs takes from the work of its own. -/
theorem receiveLoop_lowers {thread : ℕ} (hknown : thread < app.sockets)
    (hrunning : (app.threads thread).Running) :
    (app.receiveLoop thread none).work < app.work := by
  have hlower : ∀ (app' : NsClientApp) (state : ReceiverThread),
      app'.sockets = app.sockets →
      app'.threads = Function.update app.threads thread state →
      app'.main = app.main →
      3 * app'.events.length + state.work <
        3 * app.events.length + (app.threads thread).work →
      app'.work < app.work := by
    intro app' state hsockets hthreads hmain hless
    have hsum := threadWork_update hknown hsockets hthreads
    unfold work
    rw [hmain]
    omega
  unfold receiveLoop
  cases hstate : app.threads thread with
  | absent => exact absurd hstate hrunning.1
  | finished => exact absurd hstate hrunning.2
  | starting =>
      cases app.socketFd <;>
        exact hlower _ _ rfl rfl rfl (by simp [hstate, setThread,
          ReceiverThread.work])
  | receiving socket =>
      exact hlower _ _ rfl rfl rfl (by simp [hstate, setThread,
        ReceiverThread.work])
  | handling socket packet =>
      have hlength := packetEvents_length thread packet
      simp only
      split <;>
        refine hlower _ _ rfl rfl rfl ?_ <;>
        simp only [hstate, setThread, acknowledge, ReceiverThread.work] <;>
        omega
  | posting socket events =>
      cases events with
      | nil =>
          exact hlower _ _ rfl rfl rfl (by simp [hstate, setThread,
            ReceiverThread.work])
      | cons event rest =>
          refine hlower _ _ rfl rfl rfl ?_
          simp only [hstate, setThread, queueUiEvent, ReceiverThread.work,
            List.length_append, List.length_cons, List.length_nil]
          omega
  | taking =>
      exact hlower _ _ rfl rfl rfl (by simp [hstate, setThread,
        takeSocket, ReceiverThread.work])
  | closing socket =>
      exact hlower _ _ rfl rfl rfl (by simp [hstate, setThread,
        closeSocket, ReceiverThread.work])
  | queueing =>
      refine hlower _ _ rfl rfl rfl ?_
      simp only [hstate, setThread, queueUiEvent, ReceiverThread.work,
        List.length_append, List.length_cons, List.length_nil]
      omega

theorem receiveLoop_waits {thread : ℕ}
    (hresting : ¬ (app.threads thread).Running)
    (received : Option NsPacket) :
    app.receiveLoop thread received = app := by
  unfold receiveLoop
  cases hstate : app.threads thread with
  | absent => rfl
  | finished => rfl
  | _ => exact absurd (by simp [hstate, ReceiverThread.Running]) hresting

theorem dispatchUiEvent_lowers (hmain : app.main = .idle)
    (hevents : app.events ≠ []) : app.dispatchUiEvent.work < app.work := by
  obtain ⟨event, rest, hcons⟩ := List.exists_cons_of_ne_nil hevents
  unfold dispatchUiEvent work threadWork
  rw [hcons]
  simp only
  split <;>
    simp only [NsClientApp.appendLine, NsClientApp.setStatus, hmain,
      MainThread.work, List.length_cons] <;>
    omega

/-- Where a callback ends, nothing of its work is left. -/
theorem resume_work (app : NsClientApp) (resume : Resume) :
    (app.resume resume).work + app.main.work = app.work := by
  cases resume <;>
    simp only [NsClientApp.resume, work, threadWork, MainThread.work] <;>
    omega

theorem unlinkReceiverThread_lowers {resume : Resume}
    (hmain : app.main = .unlinking resume) :
    (app.unlinkReceiverThread resume).work < app.work := by
  have hwork : app.main.work = 2 := by
    rw [hmain]
    rfl
  have hlower : ∀ app' : NsClientApp, app'.main = app.main →
      app'.work = app.work → (app'.resume resume).work < app.work := by
    intro app' hsame hequal
    have hresume := resume_work app' resume
    rw [hsame] at hresume
    omega
  unfold unlinkReceiverThread
  split
  · exact hlower app rfl rfl
  · simp only
    split
    · simp only [work, threadWork, hmain, MainThread.work]
      omega
    · exact hlower _ rfl rfl

theorem continueCallback_lowers (howned : app.Owned) (sendOk : Bool)
    (hdue : app.Due (.proceed sendOk)) :
    (app.continueCallback sendOk).work < app.work := by
  have hlower : ∀ app' : NsClientApp, app'.sockets = app.sockets →
      app'.threads = app.threads → app'.events = app.events →
      app'.main.work < app.main.work → app'.work < app.work := by
    intro app' hsockets hthreads hevents hless
    unfold work threadWork
    rw [hsockets, hthreads, hevents]
    omega
  unfold continueCallback
  cases hmain : app.main with
  | idle => exact absurd hmain hdue.1
  | storing socket login packet =>
      exact hlower _ rfl rfl rfl (by simp [hmain, MainThread.work])
  | sendingJoin socket packet =>
      simp only
      split <;>
        exact hlower _ rfl rfl rfl (by simp [hmain, MainThread.work])
  | starting socket =>
      obtain ⟨hknown, habsent⟩ :=
        howned.target socket (by rw [hmain]; rfl)
      have hsum : ({ app.setThread socket .starting with
            receiverThreadActive := true
            receiverThread := some socket
            main := .idle } : NsClientApp).threadWork +
          (app.threads socket).work =
          app.threadWork + ReceiverThread.starting.work :=
        threadWork_update hknown rfl rfl
      simp only [habsent, ReceiverThread.work] at hsum
      simp only [work, hmain, MainThread.work, setThread] at hsum ⊢
      omega
  | sending socket packet =>
      simp only
      split <;>
        exact hlower _ rfl rfl rfl (by simp [hmain, MainThread.work])
  | taking notifyServer resume =>
      exact hlower _ rfl rfl rfl (by simp [hmain, MainThread.work])
  | leaving socket notifyServer wasJoined userId resume =>
      exact hlower _ rfl rfl rfl (by simp [hmain, MainThread.work])
  | closing socket resume =>
      exact hlower _ rfl rfl rfl (by simp [hmain, MainThread.work])
  | unlinking resume => exact unlinkReceiverThread_lowers hmain
  | joining thread resume =>
      have hresume := resume_work app resume
      simp only [hdue.2 thread resume hmain, if_true]
      rw [hmain, MainThread.work] at hresume
      omega

theorem continueCallback_waits (sendOk : Bool)
    (hwaits : ¬ app.Due (.proceed sendOk)) :
    app.continueCallback sendOk = app := by
  unfold continueCallback
  cases hmain : app.main with
  | idle => rfl
  | joining thread resume =>
      simp only
      split
      · next hfinished =>
          refine absurd ⟨by simp [hmain], ?_⟩ hwaits
          intro thread' resume' hjoining
          rw [hmain, MainThread.joining.injEq] at hjoining
          rw [← hjoining.1]
          exact hfinished
      · rfl
  | _ => exact absurd ⟨by simp [hmain], by simp [hmain]⟩ hwaits

/-- A step of the closing client is due and takes some of its work, or it
changes nothing. -/
theorem closing_step (howned : app.Owned) {action : ClientAction}
    (hclosing : action.Closing) :
    app.Due action ∧ (app.step action).work < app.work ∨
      ¬ app.Due action ∧ app.step action = app := by
  by_cases hdue : app.Due action
  · refine Or.inl ⟨hdue, ?_⟩
    cases action with
    | proceed sendOk => exact continueCallback_lowers howned sendOk hdue
    | dispatch =>
        rw [step, if_pos hdue.1]
        exact dispatchUiEvent_lowers hdue.1 hdue.2
    | receive thread received =>
        cases received with
        | none => exact receiveLoop_lowers (howned.known hdue) hdue
        | some packet => exact hclosing.elim
    | _ => exact hclosing.elim
  · refine Or.inr ⟨hdue, ?_⟩
    cases action with
    | proceed sendOk => exact continueCallback_waits sendOk hdue
    | dispatch =>
        rw [step]
        split
        · next hmain =>
            have hempty : app.events = [] :=
              not_not.mp fun hevents => hdue ⟨hmain, hevents⟩
            unfold dispatchUiEvent
            rw [hempty]
        · rfl
    | receive thread received => exact receiveLoop_waits hdue received
    | _ => exact hclosing.elim

end Work

/-! ## What holds until then -/

/-- What is left to do once `ns_client_join_receiver_thread` returns. -/
def MainThread.outcome : MainThread → Option Resume
  | .joining _ resume => some resume
  | main => main.resuming

/-- The callback of the connect button runs, and the login controls are
not sensitive. -/
def MainThread.Connects : MainThread → Prop
  | .storing _ _ _ => True
  | .sendingJoin _ _ => True
  | .starting _ => True
  | main => main.outcome = some .connectFailed

/-- The thread runs and has not been through `ns_client_take_socket`. -/
def ReceiverThread.Live (state : ReceiverThread) : Prop :=
  state.Running ∧ ¬ state.Past

namespace NsClientApp

structure OnLoginPage (app : NsClientApp) : Prop where
  chatPage : app.chatPage = false
  sendSensitive : app.sendSensitive = false
  sidebar : app.sidebar = none

/-- Whoever will bring the login page back: a receiver thread, its last
event, the callback that handles it, or nobody, where it is there. -/
inductive Winding (app : NsClientApp) : Prop
  | running (thread : ℕ) (hrunning : (app.threads thread).Running)
  | queued (event : NsUiEvent)
      (hlast : app.events.getLast? = some event)
      (htype : event.type = .disconnected)
  | resetting (text : List UInt8) (origin : ℕ) (hevents : app.events = [])
      (houtcome : app.main.outcome = some (.disconnected text origin))
  | calm (hevents : app.events = []) (hpage : app.OnLoginPage)
      (hlogin : app.loginSensitive = true ∨ app.main.Connects)

structure Tidy (app : NsClientApp) : Prop where
  attended : ∀ thread, app.Attached thread →
    app.threads thread ≠ .absent
  kept : ∀ socket, socket < app.sockets →
    socket ∈ app.tokens ∨ app.threads socket = .closing (some socket)
  joined : app.joined = true → ∃ thread, (app.threads thread).Live
  winding : app.Winding

end NsClientApp

theorem tidy_boot : NsClientApp.boot.Tidy := by
  constructor
  · rintro thread (⟨hactive, -⟩ | ⟨resume, hmain⟩)
    · exact absurd hactive Bool.false_ne_true
    · exact absurd hmain (by simp [NsClientApp.boot])
  · exact fun socket hsocket => absurd hsocket (Nat.not_lt_zero socket)
  · exact fun hjoined => absurd hjoined Bool.false_ne_true
  · exact .calm rfl ⟨rfl, rfl, rfl⟩ (Or.inl rfl)

section Receiving

variable {app : NsClientApp} {thread : ℕ}

open NsClientApp

theorem NsClientApp.Winding.receives (hwinding : app.Winding)
    (thread : ℕ) (received : Option NsPacket) :
    (app.receiveLoop thread received).Winding := by
  have hsettles : ∀ (app' : NsClientApp) (state : ReceiverThread),
      state.Running →
      app'.threads = Function.update app.threads thread state →
      app'.Winding := by
    intro app' state hstate hthreads
    refine .running thread ?_
    rw [hthreads, Function.update_self]
    exact hstate
  unfold receiveLoop
  cases app.threads thread with
  | absent => exact hwinding
  | finished => exact hwinding
  | starting =>
      cases app.socketFd <;>
        exact hsettles _ _ (by simp [ReceiverThread.Running]) rfl
  | receiving socket =>
      cases received <;>
        exact hsettles _ _ (by simp [ReceiverThread.Running]) rfl
  | handling socket packet =>
      simp only
      split <;> exact hsettles _ _ (by simp [ReceiverThread.Running]) rfl
  | posting socket events =>
      cases events <;>
        exact hsettles _ _ (by simp [ReceiverThread.Running]) rfl
  | taking => exact hsettles _ _ (by simp [ReceiverThread.Running]) rfl
  | closing socket =>
      exact hsettles _ _ (by simp [ReceiverThread.Running]) rfl
  | queueing =>
      exact .queued _ (List.getLast?_append_of_ne_nil _ (by simp)) rfl

/-- A thread moves on and gives up nothing but its own socket. -/
theorem NsClientApp.Tidy.moves (htidy : app.Tidy) {app' : NsClientApp}
    {state : ReceiverThread} (hstate : state ≠ .absent)
    (hthreads : app'.threads = Function.update app.threads thread state)
    (hmain : app'.main = app.main)
    (hactive : app'.receiverThreadActive = app.receiverThreadActive)
    (hreceiver : app'.receiverThread = app.receiverThread)
    (hsockets : app'.sockets = app.sockets)
    (htokens : ∀ socket, socket ∈ app.tokens → socket ∈ app'.tokens ∨
      socket = thread ∧ state = .closing (some socket))
    (hcloses : ∀ socket, app.threads thread = .closing (some socket) →
      socket ∈ app'.tokens)
    (hjoined : app'.joined = true → state.Live ∨
      app.joined = true ∧ ¬ (app.threads thread).Live)
    (hwinding : app'.Winding) : app'.Tidy := by
  constructor
  · intro other hattached
    rw [hthreads]
    by_cases hsame : other = thread
    · rw [hsame, Function.update_self]
      exact hstate
    · rw [Function.update_of_ne hsame]
      refine htidy.attended other ?_
      rw [Attached, hmain, hactive, hreceiver] at hattached
      exact hattached
  · intro socket hsocket
    rw [hsockets] at hsocket
    rcases htidy.kept socket hsocket with htoken | hclosing
    · refine (htokens socket htoken).imp_right fun hown => ?_
      rw [hthreads, hown.1, Function.update_self, ← hown.1]
      exact hown.2
    · by_cases hsame : socket = thread
      · rw [hsame] at hclosing ⊢
        exact Or.inl (hcloses thread hclosing)
      · rw [hthreads, Function.update_of_ne hsame]
        exact Or.inr hclosing
  · intro hnow
    rcases hjoined hnow with hlive | ⟨hbefore, hpast⟩
    · refine ⟨thread, ?_⟩
      rw [hthreads, Function.update_self]
      exact hlive
    · obtain ⟨other, hlive⟩ := htidy.joined hbefore
      have hne : other ≠ thread := by
        rintro rfl
        exact hpast hlive
      refine ⟨other, ?_⟩
      rw [hthreads, Function.update_of_ne hne]
      exact hlive
  · exact hwinding

theorem NsClientApp.Tidy.receives (htidy : app.Tidy)
    (howned : app.Owned) (thread : ℕ) (received : Option NsPacket) :
    (app.receiveLoop thread received).Tidy := by
  have hwinding := htidy.winding.receives thread received
  have hlives : ∀ (app' : NsClientApp) (state : ReceiverThread),
      state.Live →
      app'.threads = Function.update app.threads thread state →
      app'.main = app.main →
      app'.receiverThreadActive = app.receiverThreadActive →
      app'.receiverThread = app.receiverThread →
      app'.sockets = app.sockets → app'.tokens = app.tokens →
      (∀ socket, app.threads thread ≠ .closing (some socket)) →
      app'.Winding → app'.Tidy := by
    intro app' state hlive hthreads hmain hactive hreceiver hsockets
      htokens hopen hthen
    refine htidy.moves hlive.1.1 hthreads hmain hactive hreceiver hsockets
      ?_ (fun socket hclosing => absurd hclosing (hopen socket))
      (fun _ => Or.inl hlive) hthen
    rw [htokens]
    exact fun socket htoken => Or.inl htoken
  unfold receiveLoop at hwinding ⊢
  cases hstate : app.threads thread with
  | absent => exact htidy
  | finished => exact htidy
  | starting =>
      rw [hstate] at hwinding
      cases hsocket : app.socketFd <;>
        simp only [hsocket] at hwinding ⊢ <;>
        exact hlives _ _
          (by simp [ReceiverThread.Live, ReceiverThread.Running,
            ReceiverThread.Past])
          rfl rfl rfl rfl rfl rfl (by simp [hstate]) hwinding
  | receiving socket =>
      rw [hstate] at hwinding
      cases received <;>
        exact hlives _ _
          (by simp [ReceiverThread.Live, ReceiverThread.Running,
            ReceiverThread.Past])
          rfl rfl rfl rfl rfl rfl (by simp [hstate]) hwinding
  | handling socket packet =>
      simp only [hstate] at hwinding ⊢
      split at hwinding <;> rename_i htype <;>
        simp only [htype, if_true, if_false] <;>
        exact hlives _ _
          (by simp [ReceiverThread.Live, ReceiverThread.Running,
            ReceiverThread.Past])
          rfl rfl rfl rfl rfl rfl (by simp [hstate]) hwinding
  | posting socket events =>
      rw [hstate] at hwinding
      cases events <;>
        exact hlives _ _
          (by simp [ReceiverThread.Live, ReceiverThread.Running,
            ReceiverThread.Past])
          rfl rfl rfl rfl rfl rfl (by simp [hstate]) hwinding
  | taking =>
      rw [hstate] at hwinding
      refine htidy.moves (by simp) rfl rfl rfl rfl rfl ?_ (by simp [hstate])
        (fun hjoined => absurd hjoined Bool.false_ne_true) hwinding
      intro socket htoken
      have hrunning : (app.threads thread).Running := by
        simp [hstate, ReceiverThread.Running]
      simp only [tokens, List.mem_append, Option.mem_toList] at htoken
      rcases htoken with (hstored | hheld) | hclosed
      · refine Or.inr ⟨howned.stored_running hrunning hstored, ?_⟩
        rw [hstored]
      · exact Or.inl (by simp [tokens, takeSocket, setThread, hheld])
      · exact Or.inl (by simp [tokens, takeSocket, setThread, hclosed])
  | closing socket =>
      rw [hstate] at hwinding
      refine htidy.moves (by simp) rfl rfl rfl rfl rfl ?_ ?_ ?_ hwinding
      · intro own htoken
        left
        simp only [tokens, closeSocket, setThread, List.mem_append]
          at htoken ⊢
        tauto
      · intro own hclosing
        rw [hstate, ReceiverThread.closing.injEq] at hclosing
        simp [tokens, closeSocket, setThread, hclosing]
      · intro hjoined
        exact Or.inr ⟨hjoined, by
          simp [hstate, ReceiverThread.Live, ReceiverThread.Past]⟩
  | queueing =>
      rw [hstate] at hwinding
      refine htidy.moves (by simp) rfl rfl rfl rfl rfl
        (fun own htoken => Or.inl htoken) (by simp [hstate]) ?_ hwinding
      intro hjoined
      exact Or.inr ⟨hjoined, by
        simp [hstate, ReceiverThread.Live, ReceiverThread.Past]⟩

end Receiving

section Proceeding

variable {app : NsClientApp}

open NsClientApp

/-- The main thread goes on, and the login page is not lost. -/
theorem NsClientApp.Winding.goes (hwinding : app.Winding)
    {app' : NsClientApp} (hthreads : app'.threads = app.threads)
    (hevents : app'.events = app.events)
    (hreset : ∀ text origin,
      app.main.outcome = some (.disconnected text origin) →
        app'.main.outcome = some (.disconnected text origin) ∨
          app'.OnLoginPage ∧ app'.loginSensitive = true)
    (hcalm : app.OnLoginPage →
      app.loginSensitive = true ∨ app.main.Connects →
        app'.OnLoginPage ∧
          (app'.loginSensitive = true ∨ app'.main.Connects)) :
    app'.Winding := by
  cases hwinding with
  | running thread hrunning =>
      exact .running thread (by rw [hthreads]; exact hrunning)
  | queued event hlast htype =>
      exact .queued event (by rw [hevents]; exact hlast) htype
  | resetting text origin hempty houtcome =>
      rcases hreset text origin houtcome with hsame | ⟨hpage, hlogin⟩
      · exact .resetting text origin (hevents.trans hempty) hsame
      · exact .calm (hevents.trans hempty) hpage (Or.inl hlogin)
  | calm hempty hpage hlogin =>
      obtain ⟨hpage', hlogin'⟩ := hcalm hpage hlogin
      exact .calm (hevents.trans hempty) hpage' hlogin'

/-- The main thread goes on and loses no socket. -/
theorem NsClientApp.Tidy.goes (htidy : app.Tidy) {app' : NsClientApp}
    (hattached : ∀ thread, app'.Attached thread → app.Attached thread)
    (hthreads : app'.threads = app.threads)
    (hsockets : app'.sockets = app.sockets)
    (htokens : ∀ socket, socket ∈ app.tokens → socket ∈ app'.tokens)
    (hjoined : app'.joined = true → app.joined = true)
    (hwinding : app'.Winding) : app'.Tidy := by
  constructor
  · rw [hthreads]
    exact fun thread hnow => htidy.attended thread (hattached thread hnow)
  · rw [hthreads, hsockets]
    exact fun socket hsocket =>
      (htidy.kept socket hsocket).imp_left (htokens socket)
  · rw [hthreads]
    exact fun hnow => htidy.joined (hjoined hnow)
  · exact hwinding

/-- A callback ends and leaves the login page as it should be. -/
theorem NsClientApp.Winding.resumes (hwinding : app.Winding)
    {resume : Resume} (houtcome : app.main.outcome = some resume)
    {app' : NsClientApp} (hthreads : app'.threads = app.threads)
    (hevents : app'.events = app.events)
    (hchatPage : app'.chatPage = app.chatPage)
    (hsendSensitive : app'.sendSensitive = app.sendSensitive)
    (hsidebar : app'.sidebar = app.sidebar)
    (hlogin : app'.loginSensitive = app.loginSensitive) :
    (app'.resume resume).Winding := by
  apply hwinding.goes ((resume_threads resume).trans hthreads)
    ((resume_events resume).trans hevents)
  · intro text origin hdisconnected
    rw [houtcome, Option.some.injEq] at hdisconnected
    subst hdisconnected
    exact Or.inr ⟨⟨rfl, rfl, rfl⟩, rfl⟩
  · intro hpage hbefore
    have hsensitive : app.loginSensitive = true ∨
        resume = .connectFailed := by
      refine hbefore.imp_right fun hconnects => ?_
      cases hmain : app.main <;>
        simp_all [MainThread.Connects, MainThread.outcome,
          MainThread.resuming]
    obtain ⟨hchat, hsend, hside⟩ := hpage
    cases resume with
    | connectFailed =>
        exact ⟨⟨hchatPage.trans hchat, hsendSensitive.trans hsend,
          hsidebar.trans hside⟩, Or.inl rfl⟩
    | sendFailed =>
        exact ⟨⟨rfl, rfl, hsidebar.trans hside⟩, Or.inl rfl⟩
    | closeRequest =>
        exact ⟨⟨hchatPage.trans hchat, hsendSensitive.trans hsend,
          hsidebar.trans hside⟩,
          Or.inl (hlogin.trans (hsensitive.resolve_right (by simp)))⟩
    | disconnected text origin =>
        exact ⟨⟨rfl, rfl, rfl⟩, Or.inl rfl⟩

theorem NsClientApp.Tidy.resumes (htidy : app.Tidy) {resume : Resume}
    (houtcome : app.main.outcome = some resume)
    (hheld : app.main.held = none) {app' : NsClientApp}
    (hthreads : app'.threads = app.threads)
    (hevents : app'.events = app.events)
    (hchatPage : app'.chatPage = app.chatPage)
    (hsendSensitive : app'.sendSensitive = app.sendSensitive)
    (hsidebar : app'.sidebar = app.sidebar)
    (hlogin : app'.loginSensitive = app.loginSensitive)
    (hactive : app'.receiverThreadActive = false)
    (hsockets : app'.sockets = app.sockets)
    (hsocketFd : app'.socketFd = app.socketFd)
    (hclosed : app'.closed = app.closed)
    (hjoined : app'.joined = app.joined) :
    (app'.resume resume).Tidy := by
  apply htidy.goes _ ((resume_threads resume).trans hthreads)
  · cases resume <;> exact hsockets
  · have hidle : MainThread.idle.held = none := rfl
    have htokens : (app'.resume resume).tokens = app.tokens := by
      cases resume <;>
        simp [tokens, NsClientApp.resume, hsocketFd, hclosed, hheld, hidle]
    rw [htokens]
    exact fun _ htoken => htoken
  · intro hnow
    cases resume <;> exact hjoined.symm.trans hnow
  · exact htidy.winding.resumes houtcome hthreads hevents hchatPage
      hsendSensitive hsidebar hlogin
  · rintro thread (⟨hnow, -⟩ | ⟨resume', hjoining⟩)
    · rw [resume_receiverThreadActive, hactive] at hnow
      exact absurd hnow Bool.false_ne_true
    · rw [resume_main] at hjoining
      exact absurd hjoining (by simp)

/-- Outside `ns_client_join_receiver_thread` the threads on record stay. -/
theorem attached_of_record {app' : NsClientApp}
    (hactive : app'.receiverThreadActive = app.receiverThreadActive)
    (hreceiver : app'.receiverThread = app.receiverThread)
    (hjoining : ∀ thread resume, app'.main ≠ .joining thread resume)
    (thread : ℕ) (hattached : app'.Attached thread) :
    app.Attached thread := by
  rcases hattached with ⟨hrecord, hthread⟩ | ⟨resume, hmain⟩
  · exact Or.inl ⟨hactive.symm.trans hrecord, hreceiver.symm.trans hthread⟩
  · exact absurd hmain (hjoining thread resume)

theorem NsClientApp.Tidy.unlinks (htidy : app.Tidy) {resume : Resume}
    (hmain : app.main = .unlinking resume) :
    (app.unlinkReceiverThread resume).Tidy := by
  have houtcome : app.main.outcome = some resume := by
    rw [hmain]
    rfl
  have hheld : app.main.held = none := by
    rw [hmain]
    rfl
  unfold unlinkReceiverThread
  split
  · next hactive =>
      exact htidy.resumes houtcome hheld rfl rfl rfl rfl rfl rfl
        (by simpa using hactive) rfl rfl rfl rfl
  · next hactive =>
      have hrecord : app.receiverThreadActive = true := by
        simpa using hactive
      simp only
      split
      · next thread hreceiver =>
          refine htidy.goes ?_ rfl rfl ?_ (fun hnow => hnow) ?_
          · rintro other (⟨hnow, -⟩ | ⟨resume', hjoining⟩)
            · exact absurd hnow Bool.false_ne_true
            · rw [MainThread.joining.injEq] at hjoining
              rw [← hjoining.1]
              exact Or.inl ⟨hrecord, hreceiver⟩
          · have hjoining : (MainThread.joining thread resume).held =
                none := rfl
            simp [tokens, hheld, hjoining]
          · refine htidy.winding.goes rfl rfl ?_ ?_
            · intro text origin hbefore
              rw [houtcome] at hbefore
              exact Or.inl hbefore
            · intro hpage hbefore
              refine ⟨⟨hpage.1, hpage.2, hpage.3⟩,
                hbefore.imp_right fun hconnects => ?_⟩
              rw [hmain] at hconnects
              exact hconnects
      · exact htidy.resumes houtcome hheld rfl rfl rfl rfl rfl rfl rfl rfl
          rfl rfl rfl

/-- A step of a callback that leaves the page alone. -/
theorem NsClientApp.Tidy.passes (htidy : app.Tidy) {app' : NsClientApp}
    (hactive : app'.receiverThreadActive = app.receiverThreadActive)
    (hreceiver : app'.receiverThread = app.receiverThread)
    (hjoining : ∀ thread resume, app'.main ≠ .joining thread resume)
    (hthreads : app'.threads = app.threads)
    (hevents : app'.events = app.events)
    (hchatPage : app'.chatPage = app.chatPage)
    (hsend : app'.sendSensitive = app.sendSensitive ∨
      app'.sendSensitive = false)
    (hsidebar : app'.sidebar = app.sidebar)
    (hlogin : app.loginSensitive = true ∨ app.main.Connects →
      app'.loginSensitive = true ∨ app'.main.Connects)
    (houtcome : ∀ text origin,
      app.main.outcome = some (.disconnected text origin) →
        app'.main.outcome = some (.disconnected text origin))
    (hsockets : app'.sockets = app.sockets)
    (htokens : ∀ socket, socket ∈ app.tokens → socket ∈ app'.tokens)
    (hjoined : app'.joined = true → app.joined = true) : app'.Tidy := by
  apply htidy.goes (attached_of_record hactive hreceiver hjoining) hthreads
    hsockets htokens hjoined
  apply htidy.winding.goes hthreads hevents
  · exact fun text origin hbefore => Or.inl (houtcome text origin hbefore)
  · intro hpage hbefore
    refine ⟨⟨hchatPage.trans hpage.1, ?_, hsidebar.trans hpage.3⟩,
      hlogin hbefore⟩
    rcases hsend with hsame | hoff
    · exact hsame.trans hpage.2
    · exact hoff

theorem NsClientApp.Tidy.starts (htidy : app.Tidy) (howned : app.Owned)
    {socket : ℕ} (hmain : app.main = .starting socket) :
    ({ app.setThread socket .starting with
      receiverThreadActive := true
      receiverThread := some socket
      main := .idle } : NsClientApp).Tidy := by
  have habsent := (howned.target socket (by rw [hmain]; rfl)).2
  constructor
  · rintro thread (⟨-, hthread⟩ | ⟨resume, hjoining⟩)
    · rw [Option.some.injEq] at hthread
      simp [setThread, ← hthread]
    · exact absurd hjoining (by simp)
  · intro own hknown
    refine (htidy.kept own hknown).imp ?_ ?_
    · simp [tokens, setThread, hmain, MainThread.held]
    · intro hclosing
      have hne : own ≠ socket := by
        rintro rfl
        exact ReceiverThread.noConfusion (habsent.symm.trans hclosing)
      simpa [setThread, Function.update_of_ne hne] using hclosing
  · exact fun _ => ⟨socket, by simp [setThread, ReceiverThread.Live,
      ReceiverThread.Running, ReceiverThread.Past]⟩
  · exact .running socket (by simp [setThread, ReceiverThread.Running])

theorem NsClientApp.Tidy.proceeds (htidy : app.Tidy) (howned : app.Owned)
    (sendOk : Bool) : (app.continueCallback sendOk).Tidy := by
  unfold continueCallback
  cases hmain : app.main with
  | idle => exact htidy
  | storing socket login packet =>
      have hnone := (howned.storing socket login packet hmain).1
      apply htidy.passes <;>
        simp [storeConnection, hmain, tokens, hnone, MainThread.held,
          MainThread.Connects, MainThread.outcome, MainThread.resuming]
  | sendingJoin socket packet =>
      simp only
      split <;> apply htidy.passes <;>
        simp [NsClientApp.setStatus, hmain, tokens, MainThread.held,
          MainThread.Connects, MainThread.outcome, MainThread.resuming]
  | starting socket => exact htidy.starts howned hmain
  | sending socket packet =>
      simp only
      split <;> apply htidy.passes <;>
        simp +contextual [NsClientApp.setStatus, hmain, tokens,
          MainThread.held, MainThread.Connects, MainThread.outcome,
          MainThread.resuming]
  | taking notifyServer resume =>
      apply htidy.passes <;>
        simp [takeSocket, hmain, tokens, MainThread.held,
          MainThread.Connects, MainThread.outcome, MainThread.resuming]
  | leaving socket notifyServer wasJoined userId resume =>
      apply htidy.passes <;>
        simp [hmain, tokens, MainThread.held, MainThread.Connects,
          MainThread.outcome, MainThread.resuming]
  | closing socket resume =>
      apply htidy.passes <;>
        simp [closeSocket, hmain, tokens, MainThread.held,
          MainThread.Connects, MainThread.outcome, MainThread.resuming]
      tauto
  | unlinking resume => exact htidy.unlinks hmain
  | joining thread resume =>
      simp only
      split
      · exact htidy.resumes (by rw [hmain]; rfl) (by rw [hmain]; rfl) rfl
          rfl rfl rfl rfl rfl (howned.joining thread resume hmain) rfl rfl
          rfl rfl
      · exact htidy

/-- The last event of all brings the login page back. -/
theorem NsClientApp.Winding.pops (hwinding : app.Winding)
    {event : NsUiEvent} {rest : List NsUiEvent}
    (hcons : app.events = event :: rest) {app' : NsClientApp}
    (hthreads : app'.threads = app.threads) (hevents : app'.events = rest)
    (hreset : event.type = .disconnected → ∃ text origin,
      app'.main.outcome = some (.disconnected text origin)) :
    app'.Winding := by
  cases hwinding with
  | running thread hrunning =>
      exact .running thread (by rw [hthreads]; exact hrunning)
  | queued last hlast htype =>
      rw [hcons] at hlast
      cases rest with
      | nil =>
          have hsame : event = last := by simpa using hlast
          rw [← hsame] at htype
          obtain ⟨text, origin, houtcome⟩ := hreset htype
          exact .resetting text origin hevents houtcome
      | cons next others =>
          rw [List.getLast?_cons_cons] at hlast
          exact .queued last (by rw [hevents]; exact hlast) htype
  | resetting _ _ hempty _ =>
      exact absurd (hcons.symm.trans hempty) (List.cons_ne_nil event rest)
  | calm hempty _ _ =>
      exact absurd (hcons.symm.trans hempty) (List.cons_ne_nil event rest)

theorem NsClientApp.Tidy.dispatches (htidy : app.Tidy)
    (hmain : app.main = .idle) : app.dispatchUiEvent.Tidy := by
  unfold dispatchUiEvent
  cases hcons : app.events with
  | nil => exact htidy
  | cons event rest =>
      simp only
      have hdispatches : ∀ app' : NsClientApp,
          app'.receiverThreadActive = app.receiverThreadActive →
          app'.receiverThread = app.receiverThread →
          (∀ thread resume, app'.main ≠ .joining thread resume) →
          app'.threads = app.threads → app'.events = rest →
          app'.sockets = app.sockets → app'.tokens = app.tokens →
          app'.joined = app.joined →
          (event.type = .disconnected → ∃ text origin,
            app'.main.outcome = some (.disconnected text origin)) →
          app'.Tidy := by
        intro app' hactive hreceiver hjoining hthreads hevents hsockets
          htokens hjoined hreset
        refine htidy.goes
          (attached_of_record hactive hreceiver hjoining) hthreads hsockets
          ?_ (fun hnow => hjoined.symm.trans hnow)
          (htidy.winding.pops hcons hthreads hevents hreset)
        rw [htokens]
        exact fun socket htoken => htoken
      have hidle : ∀ thread resume, app.main ≠ .joining thread resume := by
        simp [hmain]
      cases htype : event.type with
      | appendLine =>
          exact hdispatches _ rfl rfl hidle rfl rfl rfl rfl rfl
            (by simp [htype])
      | connected =>
          exact hdispatches _ rfl rfl hidle rfl rfl rfl rfl rfl
            (by simp [htype])
      | disconnected =>
          refine hdispatches _ rfl rfl (by simp) rfl rfl rfl ?_ rfl
            fun _ => ⟨event.text, event.origin, rfl⟩
          simp [tokens, hmain, MainThread.held]
      | status =>
          exact hdispatches _ rfl rfl hidle rfl rfl rfl rfl rfl
            (by simp [htype])

theorem NsClientApp.Tidy.setStatus (htidy : app.Tidy)
    (hmain : app.main = .idle) (text : List UInt8) :
    (app.setStatus text).Tidy := by
  apply htidy.passes <;>
    simp [NsClientApp.setStatus, hmain, tokens]

theorem NsClientApp.Tidy.sends (htidy : app.Tidy)
    (hmain : app.main = .idle) (message : List UInt8) (now : UInt32) :
    (app.onSendClicked message now).Tidy := by
  unfold onSendClicked
  split
  · exact htidy
  · split
    · split
      · exact htidy.setStatus hmain _
      · apply htidy.passes <;>
          simp [hmain, tokens, MainThread.held, MainThread.Connects,
            MainThread.outcome, MainThread.resuming]
    · exact htidy.setStatus hmain _

theorem NsClientApp.Tidy.closeRequests (htidy : app.Tidy)
    (hmain : app.main = .idle) :
    ({ app with main := .taking true .closeRequest } :
      NsClientApp).Tidy := by
  apply htidy.passes <;>
    simp [hmain, tokens, MainThread.held, MainThread.Connects,
      MainThread.outcome, MainThread.resuming]

theorem NsClientApp.Tidy.connects (htidy : app.Tidy)
    (hmain : app.main = .idle) (login : LoginForm)
    (failure : Option (List UInt8)) (now : UInt32) :
    (app.onConnectClicked login failure now).Tidy := by
  have hopens : ∀ app' : NsClientApp,
      app'.receiverThreadActive = app.receiverThreadActive →
      app'.receiverThread = app.receiverThread →
      (∀ thread resume, app'.main ≠ .joining thread resume) →
      app'.threads = app.threads →
      app'.sockets = app.sockets + 1 →
      (∀ socket, socket ∈ app.tokens → socket ∈ app'.tokens) →
      app.sockets ∈ app'.tokens → app'.joined = app.joined →
      app'.Winding → app'.Tidy := by
    intro app' hactive hreceiver hjoining hthreads hsockets htokens hnew
      hjoined hwinding
    constructor
    · rw [hthreads]
      exact fun thread hattached => htidy.attended thread
        (attached_of_record hactive hreceiver hjoining thread hattached)
    · intro socket hknown
      rw [hsockets] at hknown
      rcases Nat.lt_succ_iff_lt_or_eq.mp hknown with hold | hsame
      · rw [hthreads]
        exact (htidy.kept socket hold).imp_left (htokens socket)
      · rw [hsame]
        exact Or.inl hnew
    · rw [hjoined, hthreads]
      exact htidy.joined
    · exact hwinding
  unfold onConnectClicked
  split
  · exact htidy.setStatus hmain _
  · exact htidy.setStatus hmain _
  · simp only
    split
    · refine hopens _ rfl rfl (by simp [NsClientApp.setStatus, closeSocket,
        hmain]) rfl rfl ?_ ?_ rfl ?_
      · simp only [tokens, NsClientApp.setStatus, closeSocket,
          List.mem_append]
        tauto
      · simp [tokens, NsClientApp.setStatus, closeSocket]
      · refine htidy.winding.goes rfl rfl
          (fun text origin hbefore => Or.inl hbefore) ?_
        exact fun hpage hbefore =>
          ⟨⟨hpage.1, hpage.2, hpage.3⟩, hbefore⟩
    · refine hopens _ rfl rfl (by simp) rfl rfl ?_ ?_ rfl ?_
      · simp only [tokens, hmain, MainThread.held, List.mem_append,
          Option.toList_none, List.not_mem_nil, or_false]
        tauto
      · simp [tokens, MainThread.held]
      · refine htidy.winding.goes rfl rfl ?_ ?_
        · simp [hmain, MainThread.outcome, MainThread.resuming]
        · exact fun hpage _ =>
            ⟨⟨hpage.1, hpage.2, hpage.3⟩, Or.inr trivial⟩

end Proceeding

theorem NsClientApp.Tidy.step {app : NsClientApp} (htidy : app.Tidy)
    (howned : app.Owned) (action : ClientAction) :
    (app.step action).Tidy := by
  apply NsClientApp.step_cases app action htidy
  · exact fun login failure now hmain _ =>
      htidy.connects hmain login failure now
  · exact fun message now hmain => htidy.sends hmain message now
  · exact htidy.closeRequests
  · exact htidy.dispatches
  · exact fun sendOk _ => htidy.proceeds howned sendOk
  · exact fun thread received _ => htidy.receives howned thread received

/-! ## Rest -/

/-- Nothing is left to do: the login page is there, no thread runs, and
every socket has been closed once. -/
structure NsClientApp.Rested (app : NsClientApp) : Prop where
  idle : app.main = .idle
  events : app.events = []
  threads : ∀ thread, ¬ (app.threads thread).Running
  socketFd : app.socketFd = none
  joined : app.joined = false
  closed : app.closed.Perm (List.range app.sockets)
  page : app.OnLoginPage
  loginSensitive : app.loginSensitive = true

/-- The same party moves, whatever the kernel answers. -/
def ClientAction.Stands : ClientAction → ClientAction → Prop
  | .proceed _, .proceed _ => True
  | .dispatch, .dispatch => True
  | .receive thread _, .receive thread' _ => thread = thread'
  | _, _ => False

section Rest

variable {app : NsClientApp}

open NsClientApp

theorem settles_closing : Settles NsClientApp.step ClientAction.Closing
    (fun app => app.Owned ∧ app.Tidy) work where
  keeps := fun app action hinv _ =>
    ⟨hinv.1.step action, hinv.2.step hinv.1 action⟩
  lowers := by
    intro app action hinv hclosing heffect
    rcases closing_step hinv.1 hclosing with ⟨-, hless⟩ | ⟨-, hsame⟩
    · exact hless
    · exact absurd hsame heffect

theorem not_due_of_same (howned : app.Owned) {action : ClientAction}
    (hclosing : action.Closing) (hsame : app.step action = app) :
    ¬ app.Due action := by
  rcases closing_step howned hclosing with ⟨-, hless⟩ | ⟨hwaits, -⟩
  · rw [hsame] at hless
    exact absurd hless (lt_irrefl _)
  · exact hwaits

theorem due_stands {action action' : ClientAction}
    (hclosing : action.Closing) (hclosing' : action'.Closing)
    (hstands : action'.Stands action) (hdue : app.Due action) :
    app.Due action' := by
  match action, action', hclosing, hclosing' with
  | .proceed _, .proceed _, _, _ => exact hdue
  | .dispatch, .dispatch, _, _ => exact hdue
  | .receive thread none, .receive thread' none, _, _ =>
      have hthread : thread' = thread := hstands
      rw [hthread]
      exact hdue

/-- Where no step is due, no party waits for another one. -/
theorem rested_of_stuck (howned : app.Owned) (htidy : app.Tidy)
    (hstuck : Stuck NsClientApp.step ClientAction.Closing app) :
    app.Rested := by
  have hwaits : ∀ action : ClientAction, action.Closing →
      ¬ app.Due action := fun action hclosing =>
    not_due_of_same howned hclosing (hstuck action hclosing)
  have hthreads : ∀ thread, ¬ (app.threads thread).Running :=
    fun thread => hwaits (.receive thread none) trivial
  have hfinished : ∀ thread, app.Attached thread →
      app.threads thread = .finished := by
    intro thread hattached
    by_contra hrunning
    exact hthreads thread ⟨htidy.attended thread hattached, hrunning⟩
  have hidle : app.main = .idle := by
    by_contra hbusy
    refine hwaits (.proceed true) trivial ⟨hbusy, ?_⟩
    exact fun thread resume hjoining =>
      hfinished thread (Or.inr ⟨resume, hjoining⟩)
  have hevents : app.events = [] := by
    by_contra hqueued
    exact hwaits .dispatch trivial ⟨hidle, hqueued⟩
  have hsocketFd : app.socketFd = none := by
    cases hsocket : app.socketFd with
    | none => rfl
    | some socket =>
        have hlaunches : ¬ app.main.Launches socket := by
          simp [hidle, MainThread.Launches]
        obtain ⟨hattached, hpast⟩ :=
          howned.stored_attached hsocket hlaunches
        rw [hfinished socket hattached] at hpast
        exact absurd trivial hpast
  have htokens : app.tokens = app.closed := by
    simp [tokens, hsocketFd, hidle, MainThread.held]
  have hcalm : app.OnLoginPage ∧ app.loginSensitive = true := by
    cases htidy.winding with
    | running thread hrunning => exact absurd hrunning (hthreads thread)
    | queued event hlast _ =>
        rw [hevents] at hlast
        exact absurd hlast (by simp)
    | resetting text origin _ houtcome =>
        rw [hidle] at houtcome
        exact absurd houtcome (by simp [MainThread.outcome,
          MainThread.resuming])
    | calm _ hpage hlogin =>
        refine ⟨hpage, hlogin.resolve_right ?_⟩
        simp [hidle, MainThread.Connects, MainThread.outcome,
          MainThread.resuming]
  refine ⟨hidle, hevents, hthreads, hsocketFd, ?_, ?_, hcalm.1, hcalm.2⟩
  · by_contra hjoined
    obtain ⟨thread, hlive⟩ := htidy.joined (by simpa using hjoined)
    exact hthreads thread hlive.1
  · have hnodup := howned.nodup
    rw [htokens] at hnodup
    refine (List.perm_ext_iff_of_nodup hnodup List.nodup_range).mpr ?_
    intro socket
    rw [List.mem_range, ← htokens]
    constructor
    · intro htoken
      by_contra hlarge
      exact (howned.fresh socket (not_lt.mp hlarge)).2 htoken
    · intro hknown
      refine (htidy.kept socket hknown).resolve_right fun hclosing => ?_
      exact hthreads socket (by simp [hclosing, ReceiverThread.Running])

end Rest

/-- Once nobody clicks and every connection has ended, the client comes to
rest in every fair schedule, and in no schedule does it take more steps than
it has work. -/
theorem client_comes_to_rest (actions : List ClientAction)
    (schedule : ℕ → ClientAction)
    (hclosing : ∀ time, (schedule time).Closing)
    (hfair : Fair ClientAction.Stands ClientAction.Closing schedule) :
    (∃ settled, ∀ time, settled ≤ time →
      (after NsClientApp.step (run NsClientApp.step .boot actions) schedule
        time).Rested) ∧
      ∀ closing, Along NsClientApp.step
          (Effective NsClientApp.step ClientAction.Closing)
          (run NsClientApp.step .boot actions) closing →
        closing.length ≤ (run NsClientApp.step .boot actions).work := by
  have halong : Along NsClientApp.step (fun _ _ => True) .boot actions :=
    along_of_forall (fun _ _ => trivial) _ actions
  have hinv := run_invariant
    (fun app : NsClientApp => app.Owned ∧ app.Tidy)
    (fun app action hinv _ =>
      ⟨hinv.1.step action, hinv.2.step hinv.1 action⟩)
    ⟨sockets_owned_boot, tidy_boot⟩ halong
  constructor
  · obtain ⟨settled, hstuck, hconstant⟩ :=
      settles_closing.stuck_of_fair hinv hclosing hfair (by
        intro app action action' hinv hallowed hallowed' hstands hsame
        rcases closing_step hinv.1 hallowed with ⟨hdue, -⟩ | ⟨-, hstays⟩
        · exact absurd (due_stands hallowed hallowed' hstands hdue)
            (not_due_of_same hinv.1 hallowed' hsame)
        · exact hstays)
    have hafter := settles_closing.after_inv hinv hclosing settled
    refine ⟨settled, fun time hlater => ?_⟩
    rw [hconstant time hlater]
    exact rested_of_stuck hafter.1 hafter.2 hstuck
  · intro closing heffective
    exact le_of_add_le_left
      (settles_closing.length_le hinv heffective)

/-- The parties in turn, each again and again. -/
def inTurn (time : ℕ) : ClientAction :=
  match time.unpair.1 with
  | 0 => .proceed true
  | 1 => .dispatch
  | thread + 2 => .receive thread none

theorem inTurn_closing (time : ℕ) : (inTurn time).Closing := by
  unfold inTurn
  split <;> trivial

theorem inTurn_fair :
    Fair ClientAction.Stands ClientAction.Closing inTurn := by
  intro action hclosing after
  match action, hclosing with
  | .proceed _, _ =>
      refine ⟨Nat.pair 0 after, Nat.right_le_pair 0 after, ?_⟩
      simp [inTurn, ClientAction.Stands]
  | .dispatch, _ =>
      refine ⟨Nat.pair 1 after, Nat.right_le_pair 1 after, ?_⟩
      simp [inTurn, ClientAction.Stands]
  | .receive thread none, _ =>
      refine ⟨Nat.pair (thread + 2) after,
        Nat.right_le_pair (thread + 2) after, ?_⟩
      simp [inTurn, ClientAction.Stands]

theorem client_comes_to_rest_example :
    ∃ settled, ∀ time, settled ≤ time →
      (after NsClientApp.step
        (run NsClientApp.step .boot
          [.connectClicked ⟨literal "::1", literal "5000", literal "ann"⟩
            none 0, .proceed true, .proceed true, .proceed true])
        inTurn time).Rested :=
  (client_comes_to_rest _ inTurn inTurn_closing inTurn_fair).1

end NodeSignal
