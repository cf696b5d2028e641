import NodeSignal.ClientStreams
import NodeSignal.LateEvents

/-!
# What the transcript shows

Packets become events of a receiver thread, events are queued for the main
loop, and the main loop renders them one after the other.  Nothing is lost,
repeated or reordered on the way, over any number of connections: what is
shown, what is queued and what is still to be queued make up the
conversations with the servers, in order.
-/

namespace NodeSignal

open CStrings NsClientApp Runs

/-- What an event adds to the transcript. -/
def NsUiEvent.lines (event : NsUiEvent) : List Span :=
  match event.type with
  | .appendLine => nsClientAppendLine true event.text
  | .connected => nsClientAppendLine true event.text
  | .disconnected => []
  | .status => []

/-- The events that a receiver thread has made and not queued. -/
def ReceiverThread.unposted (thread : ℕ) :
    ReceiverThread → List NsUiEvent
  | .handling _ packet => packetEvents thread packet
  | .posting _ events => events
  | _ => []

def disconnectedEvent (thread : ℕ) : NsUiEvent where
  type := .disconnected
  text := literal "Disconnected from server."
  userId := 0
  origin := thread

namespace Station

variable (station : Station)

/-- The events of one connection. -/
def conversation (socket : ℕ) : List NsUiEvent :=
  (station.received socket).flatMap (packetEvents socket) ++
    if station.app.threads socket = .finished then
      [disconnectedEvent socket]
    else []

/-- The events of all connections, one connection behind the other. -/
def conversations : List NsUiEvent :=
  (List.range station.app.sockets).flatMap station.conversation

def unposted : List NsUiEvent :=
  (List.range station.app.sockets).flatMap fun thread =>
    (station.app.threads thread).unposted thread

/-- What is shown, queued and still to be queued is what was received. -/
structure Transcribes (shown : List NsUiEvent) : Prop where
  transcript : station.app.transcript = shown.flatMap NsUiEvent.lines
  balance : shown ++ station.app.events ++ station.unposted =
    station.conversations

/-- Only the thread of the last connection runs. -/
structure Latest : Prop where
  running : ∀ thread, (station.app.threads thread).Running →
    thread + 1 = station.app.sockets
  target : ∀ socket, station.app.main.target = some socket →
    socket + 1 = station.app.sockets
  unheard : ∀ thread, station.app.threads thread = .absent →
    station.received thread = []

end Station

theorem ReceiverThread.unposted_of_not_running {state : ReceiverThread}
    (hstate : ¬ state.Running) (thread : ℕ) :
    state.unposted thread = [] := by
  cases state <;> first | rfl | exact absurd (by simp [Running]) hstate

section Stations

variable {station station' : Station} {shown : List NsUiEvent}

open Station

theorem transcribes_boot : Station.boot.Transcribes [] := ⟨rfl, rfl⟩

theorem latest_boot : Station.boot.Latest := by
  constructor <;>
    simp [Station.boot, NsClientApp.boot, ReceiverThread.Running,
      MainThread.target]

/-! ## The events of one step -/

theorem Station.conversations_congr
    (hsockets : station'.app.sockets = station.app.sockets)
    (hreceived : station'.received = station.received)
    (hthreads : ∀ thread, station'.app.threads thread = .finished ↔
      station.app.threads thread = .finished) :
    station'.conversations = station.conversations := by
  unfold conversations
  rw [hsockets]
  congr 1
  funext socket
  unfold conversation
  simp only [hreceived, hthreads]

theorem Station.unposted_congr
    (hsockets : station'.app.sockets = station.app.sockets)
    (hthreads : ∀ thread,
      (station'.app.threads thread).unposted thread =
        (station.app.threads thread).unposted thread) :
    station'.unposted = station.unposted := by
  unfold unposted
  rw [hsockets]
  congr 1
  funext thread
  exact hthreads thread

/-- A step that shows, queues and receives nothing. -/
theorem Station.Transcribes.of_same (htranscribes : station.Transcribes shown)
    (htranscript : station'.app.transcript = station.app.transcript)
    (hevents : station'.app.events = station.app.events)
    (hsockets : station'.app.sockets = station.app.sockets)
    (hreceived : station'.received = station.received)
    (hfinished : ∀ thread, station'.app.threads thread = .finished ↔
      station.app.threads thread = .finished)
    (hunposted : ∀ thread,
      (station'.app.threads thread).unposted thread =
        (station.app.threads thread).unposted thread) :
    station'.Transcribes shown where
  transcript := htranscript.trans htranscribes.transcript
  balance := by
    rw [conversations_congr hsockets hreceived hfinished,
      unposted_congr hsockets hunposted, hevents]
    exact htranscribes.balance

/-- The thread of the last connection receives, queues or ends. -/
theorem Station.Transcribes.advances
    (htranscribes : station.Transcribes shown) (hlatest : station.Latest)
    (state : ReceiverThread) (queued heard : List NsUiEvent) {thread : ℕ}
    (hthread : thread + 1 = station.app.sockets)
    (htranscript : station'.app.transcript = station.app.transcript)
    (hevents : station'.app.events = station.app.events ++ queued)
    (hsockets : station'.app.sockets = station.app.sockets)
    (hthreads : station'.app.threads =
      Function.update station.app.threads thread state)
    (hreceived : ∀ other, other ≠ thread →
      station'.received other = station.received other)
    (hheard : station'.conversation thread =
      station.conversation thread ++ heard)
    (hqueued : queued ++ state.unposted thread =
      (station.app.threads thread).unposted thread ++ heard) :
    station'.Transcribes shown := by
  have hother : ∀ other, other < thread →
      station'.app.threads other = station.app.threads other := by
    intro other hlt
    rw [hthreads, Function.update_of_ne hlt.ne]
  have hquiet : ∀ other, other < thread →
      (station.app.threads other).unposted other = [] := by
    intro other hlt
    apply ReceiverThread.unposted_of_not_running
    intro hrunning
    have := hlatest.running other hrunning
    omega
  have hold : station.unposted =
      (station.app.threads thread).unposted thread := by
    unfold unposted
    rw [← hthread, List.range_succ, List.flatMap_append,
      List.flatMap_eq_nil_iff.mpr fun other hmem =>
        hquiet other (List.mem_range.mp hmem), List.nil_append,
      List.flatMap_singleton]
  have hnew : station'.unposted = state.unposted thread := by
    unfold unposted
    rw [hsockets, ← hthread, List.range_succ, List.flatMap_append,
      List.flatMap_eq_nil_iff.mpr fun other hmem => ?_, List.nil_append,
      List.flatMap_singleton, hthreads, Function.update_self]
    rw [hother other (List.mem_range.mp hmem)]
    exact hquiet other (List.mem_range.mp hmem)
  have hconversations : station'.conversations =
      station.conversations ++ heard := by
    unfold conversations
    rw [hsockets, ← hthread, List.range_succ, List.flatMap_append,
      List.flatMap_append, List.flatMap_singleton, List.flatMap_singleton,
      hheard, ← List.append_assoc]
    congr 2
    refine List.flatMap_congr fun other hmem => ?_
    have hlt := List.mem_range.mp hmem
    unfold conversation
    rw [hother other hlt, hreceived other hlt.ne]
  refine ⟨htranscript.trans htranscribes.transcript, ?_⟩
  calc shown ++ station'.app.events ++ station'.unposted
      = shown ++ station.app.events ++
          (queued ++ state.unposted thread) := by
        rw [hevents, hnew]
        simp only [List.append_assoc]
    _ = shown ++ station.app.events ++ station.unposted ++ heard := by
        rw [hqueued, hold, ← List.append_assoc]
    _ = station'.conversations := by
        rw [htranscribes.balance, hconversations]

/-- The event at the head of the queue is shown. -/
theorem Station.Transcribes.shows (htranscribes : station.Transcribes shown)
    {event : NsUiEvent}
    (hevents : station.app.events = event :: station'.app.events)
    (htranscript : station'.app.transcript =
      station.app.transcript ++ event.lines)
    (hsockets : station'.app.sockets = station.app.sockets)
    (hreceived : station'.received = station.received)
    (hthreads : station'.app.threads = station.app.threads) :
    station'.Transcribes (shown ++ [event]) := by
  constructor
  · rw [htranscript, htranscribes.transcript, List.flatMap_append,
      List.flatMap_singleton]
  · have hbalance := htranscribes.balance
    rw [hevents] at hbalance
    rw [conversations_congr hsockets hreceived fun _ => by rw [hthreads],
      unposted_congr hsockets fun _ => by rw [hthreads], ← hbalance]
    simp

/-- A socket more, on which nothing has been received. -/
theorem Station.Transcribes.connects
    (htranscribes : station.Transcribes shown)
    (htranscript : station'.app.transcript = station.app.transcript)
    (hevents : station'.app.events = station.app.events)
    (hsockets : station'.app.sockets = station.app.sockets + 1)
    (hreceived : station'.received = station.received)
    (hthreads : station'.app.threads = station.app.threads)
    (habsent : station.app.threads station.app.sockets = .absent)
    (hunheard : station.received station.app.sockets = []) :
    station'.Transcribes shown := by
  refine ⟨htranscript.trans htranscribes.transcript, ?_⟩
  have hunposted : station'.unposted = station.unposted := by
    unfold unposted
    rw [hsockets, hthreads, List.range_succ, List.flatMap_append,
      List.flatMap_singleton, habsent]
    exact List.append_nil _
  have hconversation : station'.conversation = station.conversation := by
    unfold conversation
    rw [hreceived, hthreads]
  have hconversations : station'.conversations =
      station.conversations := by
    have hnone : station.conversation station.app.sockets = [] := by
      simp [conversation, habsent, hunheard]
    unfold conversations
    rw [hsockets, hconversation, List.range_succ, List.flatMap_append,
      List.flatMap_singleton, hnone, List.append_nil]
  rw [hevents, hunposted, hconversations]
  exact htranscribes.balance

/-! ## Steps -/

theorem Station.step_received (station : Station) (now : UInt32)
    {action : ClientAction} (hnone : station.app.incoming action = none) :
    (station.step now action).received = station.received := by
  unfold Station.step
  simp only [hnone]
  rfl

/-- The thread of the last connection goes on, and receives nothing. -/
theorem Station.Transcribes.turns
    (htranscribes : station.Transcribes shown) (hlatest : station.Latest)
    (state : ReceiverThread) (queued : List NsUiEvent) {thread : ℕ}
    (hrunning : (station.app.threads thread).Running)
    (htranscript : station'.app.transcript = station.app.transcript)
    (hevents : station'.app.events = station.app.events ++ queued)
    (hsockets : station'.app.sockets = station.app.sockets)
    (hthreads : station'.app.threads =
      Function.update station.app.threads thread state)
    (hreceived : station'.received = station.received)
    (hstate : state ≠ .finished)
    (hqueued : queued ++ state.unposted thread =
      (station.app.threads thread).unposted thread) :
    station'.Transcribes shown := by
  refine htranscribes.advances hlatest state queued []
    (hlatest.running thread hrunning) htranscript hevents hsockets hthreads
    (fun _ _ => by rw [hreceived]) ?_ ?_
  · rw [List.append_nil]
    unfold conversation
    rw [hreceived, hthreads, Function.update_self, if_neg hstate,
      if_neg hrunning.2]
  · rw [List.append_nil]
    exact hqueued

/-- The thread of the last connection receives a packet. -/
theorem Station.Transcribes.hears (htranscribes : station.Transcribes shown)
    (hlatest : station.Latest) (howned : station.app.Owned) (now : UInt32)
    {thread socket : ℕ}
    (hstate : station.app.threads thread = .receiving socket)
    (packet : NsPacket) :
    (station.step now (.receive thread (some packet))).Transcribes
      shown := by
  have hown : socket = thread :=
    howned.own thread socket (by rw [hstate]; rfl)
  subst hown
  have hrunning : (station.app.threads socket).Running := by
    simp [hstate, ReceiverThread.Running]
  have happ : station.app.receiveLoop socket (some packet) =
      station.app.setThread socket (.handling socket packet) := by
    simp only [receiveLoop, hstate]
  have hreceived :
      (station.step now (.receive socket (some packet))).received =
        record station.received (some (socket, packet)) := by
    simp only [Station.step, incoming, hstate]
  have happ' : (station.step now (.receive socket (some packet))).app =
      station.app.setThread socket (.handling socket packet) := happ
  refine htranscribes.advances hlatest (.handling socket packet) []
    (packetEvents socket packet) (hlatest.running socket hrunning)
    ?_ ?_ ?_ ?_ ?_ ?_ ?_
  · rw [happ']
    rfl
  · rw [happ', List.append_nil]
    rfl
  · rw [happ']
    rfl
  · rw [happ']
    rfl
  · intro other hother
    rw [hreceived, record_of_ne _ _ hother]
  · unfold conversation
    rw [hreceived, record_self, happ']
    simp [hstate, setThread]
  · rw [hstate]
    rfl

/-- The thread of the last connection queues its disconnect event. -/
theorem Station.Transcribes.finishes
    (htranscribes : station.Transcribes shown) (hlatest : station.Latest)
    (now : UInt32) {thread : ℕ} (received : Option NsPacket)
    (hstate : station.app.threads thread = .queueing) :
    (station.step now (.receive thread received)).Transcribes shown := by
  have hrunning : (station.app.threads thread).Running := by
    simp [hstate, ReceiverThread.Running]
  have happ : (station.step now (.receive thread received)).app =
      (station.app.queueUiEvent (disconnectedEvent thread)).setThread thread
        .finished := by
    simp only [Station.step, NsClientApp.step, receiveLoop, hstate]
    rfl
  have hreceived :
      (station.step now (.receive thread received)).received =
        station.received := by
    refine Station.step_received station now ?_
    cases received <;> simp [incoming, hstate]
  refine htranscribes.advances hlatest .finished
    [disconnectedEvent thread] [disconnectedEvent thread]
    (hlatest.running thread hrunning) ?_ ?_ ?_ ?_
    (fun _ _ => by rw [hreceived]) ?_ ?_
  · rw [happ]
    rfl
  · rw [happ]
    rfl
  · rw [happ]
    rfl
  · rw [happ]
    rfl
  · unfold conversation
    rw [hreceived, happ]
    simp [hstate, setThread]
  · rw [hstate]
    rfl

/-- A receiver thread goes on. -/
theorem Station.Transcribes.receives
    (htranscribes : station.Transcribes shown) (hlatest : station.Latest)
    (howned : station.app.Owned) (now : UInt32) (thread : ℕ)
    (received : Option NsPacket) :
    (station.step now (.receive thread received)).Transcribes shown := by
  -- the state after a step in which nothing is received
  have hturn : ∀ (app' : NsClientApp) (state : ReceiverThread)
      (queued : List NsUiEvent),
      station.app.receiveLoop thread received =
        app'.setThread thread state →
      station.app.incoming (.receive thread received) = none →
      (station.app.threads thread).Running →
      app'.transcript = station.app.transcript →
      app'.events = station.app.events ++ queued →
      app'.sockets = station.app.sockets →
      app'.threads = station.app.threads → state ≠ .finished →
      queued ++ state.unposted thread =
        (station.app.threads thread).unposted thread →
      (station.step now (.receive thread received)).Transcribes shown := by
    intro app' state queued happ hnone hrunning htranscript hevents hsockets
      hthreads hstate hqueued
    have happ' : (station.step now (.receive thread received)).app =
        app'.setThread thread state := happ
    refine htranscribes.turns hlatest state queued hrunning ?_ ?_ ?_ ?_
      (Station.step_received station now hnone) hstate hqueued
    · rw [happ']
      exact htranscript
    · rw [happ']
      exact hevents
    · rw [happ']
      exact hsockets
    · rw [happ', ← hthreads]
      rfl
  have hrunning : ∀ {state : ReceiverThread},
      station.app.threads thread = state → state ≠ .absent →
        state ≠ .finished → (station.app.threads thread).Running := by
    rintro _ rfl habsent hfinished
    exact ⟨habsent, hfinished⟩
  have hsilent : (∀ socket,
      station.app.threads thread ≠ .receiving socket) →
        station.app.incoming (.receive thread received) = none := by
    intro hnot
    cases received with
    | none => rfl
    | some packet =>
        -- the other arm of the match is left, by `hnot`
        simp only [NsClientApp.incoming]
  have hstill : station.app.receiveLoop thread received = station.app →
      station.app.incoming (.receive thread received) = none →
      (station.step now (.receive thread received)).Transcribes shown := by
    intro happ hnone
    have happ' : (station.step now (.receive thread received)).app =
        station.app := happ
    refine htranscribes.of_same ?_ ?_ ?_
      (Station.step_received station now hnone) ?_ ?_
    all_goals simp [happ']
  cases hstate : station.app.threads thread with
  | absent =>
      exact hstill (by simp only [receiveLoop, hstate])
        (hsilent (by simp [hstate]))
  | finished =>
      exact hstill (by simp only [receiveLoop, hstate])
        (hsilent (by simp [hstate]))
  | receiving socket =>
      cases received with
      | some packet => exact htranscribes.hears hlatest howned now hstate _
      | none =>
          exact hturn station.app .taking []
            (by simp only [receiveLoop, hstate]) rfl
            (hrunning hstate (by simp) (by simp)) rfl
            (List.append_nil _).symm rfl rfl (by simp)
            (by rw [hstate]; rfl)
  | queueing => exact htranscribes.finishes hlatest now received hstate
  | starting =>
      have hnone := hsilent (by simp [hstate])
      have hrun := hrunning hstate (by simp) (by simp)
      cases hsocket : station.app.socketFd with
      | some socket =>
          exact hturn station.app (.receiving socket) []
            (by simp only [receiveLoop, hstate, hsocket]) hnone hrun rfl
            (List.append_nil _).symm rfl rfl (by simp)
            (by rw [hstate]; rfl)
      | none =>
          exact hturn station.app .taking []
            (by simp only [receiveLoop, hstate, hsocket]) hnone hrun rfl
            (List.append_nil _).symm rfl rfl (by simp)
            (by rw [hstate]; rfl)
  | handling socket packet =>
      have hnone := hsilent (by simp [hstate])
      have hrun := hrunning hstate (by simp) (by simp)
      by_cases hack : NsPacketType.ofCode? packet.header.type = some .ack
      · exact hturn (station.app.acknowledge packet)
          (.posting socket (packetEvents thread packet)) []
          (by simp only [receiveLoop, hstate, hack, if_true]) hnone hrun
          rfl (List.append_nil _).symm rfl rfl (by simp)
          (by rw [hstate]; rfl)
      · exact hturn station.app
          (.posting socket (packetEvents thread packet)) []
          (by simp only [receiveLoop, hstate, hack, if_false]) hnone hrun
          rfl (List.append_nil _).symm rfl rfl (by simp)
          (by rw [hstate]; rfl)
  | posting socket events =>
      have hnone := hsilent (by simp [hstate])
      have hrun := hrunning hstate (by simp) (by simp)
      cases events with
      | nil =>
          exact hturn station.app (.receiving socket) []
            (by simp only [receiveLoop, hstate]) hnone hrun rfl
            (List.append_nil _).symm rfl rfl (by simp)
            (by rw [hstate]; rfl)
      | cons event rest =>
          exact hturn (station.app.queueUiEvent event)
            (.posting socket rest) [event]
            (by simp only [receiveLoop, hstate]) hnone hrun rfl rfl rfl rfl
            (by simp) (by rw [hstate]; rfl)
  | taking =>
      exact hturn station.app.takeSocket (.closing station.app.socketFd) []
        (by simp only [receiveLoop, hstate]) (hsilent (by simp [hstate]))
        (hrunning hstate (by simp) (by simp)) rfl (List.append_nil _).symm
        rfl rfl (by simp) (by rw [hstate]; rfl)
  | closing socket =>
      exact hturn (station.app.closeSocket socket) .queueing []
        (by simp only [receiveLoop, hstate]) (hsilent (by simp [hstate]))
        (hrunning hstate (by simp) (by simp)) rfl (List.append_nil _).symm
        rfl rfl (by simp) (by rw [hstate]; rfl)

/-- What a callback leaves alone. -/
structure NsClientApp.Shows (app app' : NsClientApp) : Prop where
  transcript : app'.transcript = app.transcript
  events : app'.events = app.events
  sockets : app'.sockets = app.sockets
  target : ∀ socket, app'.main.target = some socket →
    app.main.target = some socket

section Callbacks

variable {app : NsClientApp}

theorem shows_resume (app : NsClientApp) (resume : Resume) :
    app.Shows (app.resume resume) := by
  cases resume <;> exact ⟨rfl, rfl, rfl, by simp [NsClientApp.resume,
    MainThread.target]⟩

theorem shows_unlinkReceiverThread (app : NsClientApp) (resume : Resume) :
    app.Shows (app.unlinkReceiverThread resume) := by
  unfold unlinkReceiverThread
  split
  · exact shows_resume app resume
  · simp only
    split
    · exact ⟨rfl, rfl, rfl, by simp [MainThread.target]⟩
    · have hshows := shows_resume
        { app with receiverThread := none, receiverThreadActive := false }
        resume
      exact ⟨hshows.transcript, hshows.events, hshows.sockets,
        hshows.target⟩

theorem shows_continueCallback (app : NsClientApp) (sendOk : Bool) :
    app.Shows (app.continueCallback sendOk) := by
  unfold NsClientApp.continueCallback
  split
  · exact ⟨rfl, rfl, rfl, fun _ => id⟩
  · next hmain => exact ⟨rfl, rfl, rfl, by simp [hmain, MainThread.target]⟩
  · next hmain =>
      split <;>
        exact ⟨rfl, rfl, rfl, by simp [hmain, MainThread.target]⟩
  · next hmain => exact ⟨rfl, rfl, rfl, by simp [MainThread.target]⟩
  · split <;> exact ⟨rfl, rfl, rfl, by simp [MainThread.target]⟩
  · exact ⟨rfl, rfl, rfl, by simp [MainThread.target]⟩
  · exact ⟨rfl, rfl, rfl, by simp [MainThread.target]⟩
  · exact ⟨rfl, rfl, rfl, by simp [MainThread.target]⟩
  · exact shows_unlinkReceiverThread app _
  · split
    · exact shows_resume app _
    · exact ⟨rfl, rfl, rfl, fun _ => id⟩

theorem shows_onSendClicked (app : NsClientApp) (message : List UInt8)
    (now : UInt32) : app.Shows (app.onSendClicked message now) := by
  unfold NsClientApp.onSendClicked
  split
  · exact ⟨rfl, rfl, rfl, fun _ => id⟩
  · split
    · split
      · exact ⟨rfl, rfl, rfl, fun _ => id⟩
      · exact ⟨rfl, rfl, rfl, by simp [MainThread.target]⟩
    · exact ⟨rfl, rfl, rfl, fun _ => id⟩

/-- A click on the connect button shows nothing, or there is a socket more. -/
theorem onConnectClicked_shows (app : NsClientApp) (login : LoginForm)
    (failure : Option (List UInt8)) (now : UInt32)
    (hidle : app.main = .idle) :
    let app' := app.onConnectClicked login failure now
    app'.transcript = app.transcript ∧ app'.events = app.events ∧
      app'.threads = app.threads ∧
      (app.Shows app' ∨ app'.sockets = app.sockets + 1 ∧
        ∀ socket, app'.main.target = some socket →
          socket = app.sockets) := by
  unfold NsClientApp.onConnectClicked
  simp only
  split
  · exact ⟨rfl, rfl, rfl, Or.inl ⟨rfl, rfl, rfl, fun _ => id⟩⟩
  · exact ⟨rfl, rfl, rfl, Or.inl ⟨rfl, rfl, rfl, fun _ => id⟩⟩
  · split
    · refine ⟨rfl, rfl, rfl, Or.inr ⟨rfl, ?_⟩⟩
      simp [closeSocket, setStatus, hidle, MainThread.target]
    · refine ⟨rfl, rfl, rfl, Or.inr ⟨rfl, ?_⟩⟩
      simp [MainThread.target, eq_comm]

end Callbacks

theorem dispatchUiEvent_shows (app : NsClientApp) {event : NsUiEvent}
    {rest : List NsUiEvent} (hevents : app.events = event :: rest) :
    app.dispatchUiEvent.events = rest ∧
      app.dispatchUiEvent.transcript = app.transcript ++ event.lines ∧
      app.dispatchUiEvent.sockets = app.sockets ∧
      app.dispatchUiEvent.threads = app.threads := by
  unfold NsClientApp.dispatchUiEvent NsUiEvent.lines
  rw [hevents]
  simp only
  cases event.type <;> simp [appendLine, setStatus]

theorem Station.Transcribes.callback
    (htranscribes : station.Transcribes shown)
    (hshows : station.app.Shows station'.app)
    (hthreads : station'.app.threads = station.app.threads)
    (hreceived : station'.received = station.received) :
    station'.Transcribes shown :=
  htranscribes.of_same hshows.transcript hshows.events hshows.sockets
    hreceived (fun _ => by rw [hthreads]) fun _ => by rw [hthreads]

/-- The main thread goes on; the thread it starts has received nothing. -/
theorem Station.Transcribes.proceeds
    (htranscribes : station.Transcribes shown) (howned : station.app.Owned)
    (now : UInt32) (sendOk : Bool) :
    (station.step now (.proceed sendOk)).Transcribes shown := by
  have hshows := shows_continueCallback station.app sendOk
  have hreceived : (station.step now (.proceed sendOk)).received =
      station.received := rfl
  rcases continueCallback_threads station.app sendOk with
    hthreads | ⟨socket, hmain, hthreads⟩
  · exact htranscribes.callback hshows hthreads hreceived
  · have habsent : station.app.threads socket = .absent :=
      (howned.target socket (by rw [hmain]; rfl)).2
    have hthreads' : (station.step now (.proceed sendOk)).app.threads =
        Function.update station.app.threads socket .starting := hthreads
    have hother : ∀ thread, thread ≠ socket →
        (station.step now (.proceed sendOk)).app.threads thread =
          station.app.threads thread := by
      intro thread hne
      rw [hthreads', Function.update_of_ne hne]
    refine htranscribes.of_same hshows.transcript hshows.events
      hshows.sockets hreceived ?_ ?_
    · intro thread
      by_cases hsame : thread = socket
      · rw [hsame, hthreads', Function.update_self, habsent]
        simp
      · rw [hother thread hsame]
    · intro thread
      by_cases hsame : thread = socket
      · rw [hsame, hthreads', Function.update_self, habsent]
        rfl
      · rw [hother thread hsame]

/-- A callback starts. -/
theorem Station.Transcribes.clicks
    (htranscribes : station.Transcribes shown) (howned : station.app.Owned)
    (hlatest : station.Latest) (now : UInt32) (login : LoginForm)
    (failure : Option (List UInt8)) (time : UInt32) :
    (station.step now (.connectClicked login failure time)).Transcribes
      shown := by
  have hreceived : (station.step now
      (.connectClicked login failure time)).received =
        station.received := rfl
  by_cases henabled : station.app.main = .idle ∧ station.app.loginSensitive
  · have happ : (station.step now
        (.connectClicked login failure time)).app =
          station.app.onConnectClicked login failure time :=
      if_pos henabled
    obtain ⟨htranscript, hevents, hthreads, hshows | ⟨hsockets, -⟩⟩ :=
      onConnectClicked_shows station.app login failure time henabled.1
    · exact htranscribes.callback (happ ▸ hshows) (happ ▸ hthreads)
        hreceived
    · have habsent := (howned.fresh _ le_rfl).1
      exact htranscribes.connects (happ ▸ htranscript) (happ ▸ hevents)
        (happ ▸ hsockets) hreceived (happ ▸ hthreads) habsent
        (hlatest.unheard _ habsent)
  · have happ : (station.step now
        (.connectClicked login failure time)).app = station.app :=
      if_neg henabled
    refine htranscribes.callback ⟨?_, ?_, ?_, ?_⟩ ?_ hreceived
    all_goals simp [happ]

theorem Station.Transcribes.dispatches
    (htranscribes : station.Transcribes shown) (now : UInt32) :
    ∃ shown', shown <+: shown' ∧
      (station.step now .dispatch).Transcribes shown' := by
  by_cases hidle : station.app.main = .idle
  · have happ : (station.step now .dispatch).app =
        station.app.dispatchUiEvent := if_pos hidle
    cases hevents : station.app.events with
    | nil =>
        have hsame : (station.step now .dispatch).app = station.app := by
          rw [happ, dispatchUiEvent, hevents]
        refine ⟨shown, List.prefix_rfl, ?_⟩
        refine htranscribes.callback ⟨?_, ?_, ?_, ?_⟩ ?_ rfl
        all_goals simp [hsame]
    | cons event rest =>
        obtain ⟨hrest, htranscript, hsockets, hthreads⟩ :=
          dispatchUiEvent_shows station.app hevents
        refine ⟨shown ++ [event], List.prefix_append _ _, ?_⟩
        refine htranscribes.shows ?_ (happ ▸ htranscript) (happ ▸ hsockets)
          rfl (happ ▸ hthreads)
        rw [happ, hrest, hevents]
  · have happ : (station.step now .dispatch).app = station.app :=
      if_neg hidle
    refine ⟨shown, List.prefix_rfl, ?_⟩
    refine htranscribes.callback ⟨?_, ?_, ?_, ?_⟩ ?_ rfl
    all_goals simp [happ]

/-- The user clicks on the send button or closes the window. -/
theorem Station.step_shows (station : Station) (now : UInt32)
    {action : ClientAction}
    (haction : (∃ message time, action = .sendClicked message time) ∨
      action = .closeRequest) :
    station.app.Shows (station.step now action).app ∧
      (station.step now action).app.threads = station.app.threads ∧
      (station.step now action).received = station.received := by
  have hsame : (station.step now action).app = station.app →
      station.app.Shows (station.step now action).app ∧
        (station.step now action).app.threads = station.app.threads := by
    intro happ
    rw [happ]
    exact ⟨⟨rfl, rfl, rfl, fun _ => id⟩, rfl⟩
  rcases haction with ⟨message, time, rfl⟩ | rfl
  · rw [← and_assoc]
    refine ⟨?_, rfl⟩
    by_cases hidle : station.app.main = .idle
    · have happ : (station.step now (.sendClicked message time)).app =
          station.app.onSendClicked message time := if_pos hidle
      rw [happ]
      exact ⟨shows_onSendClicked station.app message time,
        (begun_onSendClicked station.app message time).threads⟩
    · exact hsame (if_neg hidle)
  · rw [← and_assoc]
    refine ⟨?_, rfl⟩
    by_cases hidle : station.app.main = .idle
    · have happ : (station.step now .closeRequest).app =
          { station.app with main := .taking true .closeRequest } :=
        if_pos hidle
      rw [happ]
      exact ⟨⟨rfl, rfl, rfl, by simp [MainThread.target]⟩, rfl⟩
    · exact hsame (if_neg hidle)

theorem Station.Transcribes.step (htranscribes : station.Transcribes shown)
    (hlatest : station.Latest) (howned : station.app.Owned) (now : UInt32)
    (action : ClientAction) :
    ∃ shown', shown <+: shown' ∧
      (station.step now action).Transcribes shown' := by
  cases action with
  | connectClicked login failure time =>
      exact ⟨shown, List.prefix_rfl,
        htranscribes.clicks howned hlatest now login failure time⟩
  | sendClicked message time =>
      obtain ⟨hshows, hthreads, hreceived⟩ := station.step_shows now
        (Or.inl ⟨message, time, rfl⟩)
      exact ⟨shown, List.prefix_rfl,
        htranscribes.callback hshows hthreads hreceived⟩
  | closeRequest =>
      obtain ⟨hshows, hthreads, hreceived⟩ := station.step_shows now
        (Or.inr rfl)
      exact ⟨shown, List.prefix_rfl,
        htranscribes.callback hshows hthreads hreceived⟩
  | dispatch => exact htranscribes.dispatches now
  | proceed sendOk =>
      exact ⟨shown, List.prefix_rfl,
        htranscribes.proceeds howned now sendOk⟩
  | receive thread received =>
      exact ⟨shown, List.prefix_rfl,
        htranscribes.receives hlatest howned now thread received⟩

/-! ## The thread of the last connection -/

/-- A receiver thread that makes a step was running. -/
theorem receiveLoop_running (app : NsClientApp) (thread : ℕ)
    (received : Option NsPacket) :
    (app.receiveLoop thread received).threads = app.threads ∨
      (app.threads thread).Running ∧ ∃ state, state ≠ .absent ∧
        (app.receiveLoop thread received).threads =
          Function.update app.threads thread state := by
  unfold receiveLoop
  cases hstate : app.threads thread with
  | absent => exact Or.inl rfl
  | finished => exact Or.inl rfl
  | starting =>
      refine Or.inr ⟨by simp [ReceiverThread.Running], ?_⟩
      cases app.socketFd <;> exact ⟨_, by simp, rfl⟩
  | receiving socket =>
      refine Or.inr ⟨by simp [ReceiverThread.Running], ?_⟩
      cases received <;> exact ⟨_, by simp, rfl⟩
  | handling socket packet =>
      refine Or.inr ⟨by simp [ReceiverThread.Running], ?_⟩
      simp only
      split <;> exact ⟨_, by simp, rfl⟩
  | posting socket events =>
      refine Or.inr ⟨by simp [ReceiverThread.Running], ?_⟩
      cases events <;> exact ⟨_, by simp, rfl⟩
  | _ =>
      exact Or.inr ⟨by simp [ReceiverThread.Running], _, by simp, rfl⟩

/-- No thread runs while the login controls are sensitive. -/
theorem NsClientApp.Owned.resting {app : NsClientApp} (howned : app.Owned)
    (hidle : app.main = .idle) (hsensitive : app.loginSensitive = true)
    (thread : ℕ) : ¬ (app.threads thread).Running := by
  intro hrunning
  have hactive := (howned.quiet hsensitive).2
  rcases howned.running thread hrunning with ⟨hrecord, -⟩ | ⟨resume, hmain⟩
  · exact Bool.false_ne_true (hactive.symm.trans hrecord)
  · exact absurd (hidle.symm.trans hmain) (by simp)

theorem Station.Latest.callback (hlatest : station.Latest)
    (hsockets : station'.app.sockets = station.app.sockets)
    (htarget : ∀ socket, station'.app.main.target = some socket →
      station.app.main.target = some socket)
    (hthreads : station'.app.threads = station.app.threads)
    (hreceived : station'.received = station.received) :
    station'.Latest := by
  constructor
  · intro thread hrunning
    rw [hthreads] at hrunning
    rw [hsockets]
    exact hlatest.running thread hrunning
  · intro socket hsocket
    rw [hsockets]
    exact hlatest.target socket (htarget socket hsocket)
  · intro thread habsent
    rw [hthreads] at habsent
    rw [hreceived]
    exact hlatest.unheard thread habsent

theorem Station.Latest.receives (hlatest : station.Latest)
    (howned : station.app.Owned) (now : UInt32) (thread : ℕ)
    (received : Option NsPacket) :
    (station.step now (.receive thread received)).Latest := by
  have hsockets : (station.step now (.receive thread received)).app.sockets =
      station.app.sockets :=
    (receiveLoop_sockets station.app thread received).1
  have hmain : (station.step now (.receive thread received)).app.main =
      station.app.main := receiveLoop_main station.app thread received
  have hunheard : ∀ other, station.app.threads other = .absent →
      (station.step now (.receive thread received)).received other = [] := by
    intro other habsent
    have hold := hlatest.unheard other habsent
    simp only [Station.step]
    cases hincoming : station.app.incoming (.receive thread received) with
    | none => exact hold
    | some entry =>
        cases received with
        | none => exact absurd hincoming (by simp [incoming])
        | some packet =>
            cases hstate : station.app.threads thread with
            | receiving socket =>
                have hown := howned.own thread socket
                  (by rw [hstate]; rfl)
                simp only [incoming, hstate, Option.some.injEq]
                  at hincoming
                subst hincoming
                rw [record_of_ne _ _ ?_]
                · exact hold
                · rintro rfl
                  rw [hown, hstate] at habsent
                  exact absurd habsent (by simp)
            | _ => exact absurd hincoming (by simp [incoming, hstate])
  rcases receiveLoop_running station.app thread received with
    hthreads | ⟨hrunning, state, hstate, hthreads⟩
  · have hthreads' : (station.step now
        (.receive thread received)).app.threads = station.app.threads :=
      hthreads
    refine ⟨?_, ?_, ?_⟩
    · rw [hthreads', hsockets]
      exact hlatest.running
    · rw [hmain, hsockets]
      exact hlatest.target
    · rw [hthreads']
      exact hunheard
  · have hthreads' : (station.step now
        (.receive thread received)).app.threads =
          Function.update station.app.threads thread state := hthreads
    refine ⟨?_, ?_, ?_⟩
    · intro other hother
      rw [hsockets]
      by_cases hsame : other = thread
      · rw [hsame]
        exact hlatest.running thread hrunning
      · rw [hthreads', Function.update_of_ne hsame] at hother
        exact hlatest.running other hother
    · rw [hmain, hsockets]
      exact hlatest.target
    · intro other habsent
      apply hunheard other
      by_cases hsame : other = thread
      · rw [hsame, hthreads', Function.update_self] at habsent
        exact absurd habsent hstate
      · rwa [hthreads', Function.update_of_ne hsame] at habsent

theorem Station.Latest.proceeds (hlatest : station.Latest)
    (now : UInt32) (sendOk : Bool) :
    (station.step now (.proceed sendOk)).Latest := by
  have hshows := shows_continueCallback station.app sendOk
  rcases continueCallback_threads station.app sendOk with
    hthreads | ⟨socket, hmain, hthreads⟩
  · exact hlatest.callback hshows.sockets hshows.target hthreads rfl
  · have hthreads' : (station.step now (.proceed sendOk)).app.threads =
        Function.update station.app.threads socket .starting := hthreads
    have hsockets : (station.step now (.proceed sendOk)).app.sockets =
        station.app.sockets := hshows.sockets
    refine ⟨?_, ?_, ?_⟩
    · intro thread hrunning
      rw [hsockets]
      by_cases hsame : thread = socket
      · rw [hsame]
        exact hlatest.target socket (by rw [hmain]; rfl)
      · rw [hthreads', Function.update_of_ne hsame] at hrunning
        exact hlatest.running thread hrunning
    · intro target htarget
      rw [hsockets]
      exact hlatest.target target (hshows.target target htarget)
    · intro thread habsent
      by_cases hsame : thread = socket
      · rw [hsame, hthreads', Function.update_self] at habsent
        exact absurd habsent (by simp)
      · rw [hthreads', Function.update_of_ne hsame] at habsent
        exact hlatest.unheard thread habsent

theorem Station.Latest.clicks (hlatest : station.Latest)
    (howned : station.app.Owned) (now : UInt32) (login : LoginForm)
    (failure : Option (List UInt8)) (time : UInt32) :
    (station.step now (.connectClicked login failure time)).Latest := by
  by_cases henabled : station.app.main = .idle ∧ station.app.loginSensitive
  · have happ : (station.step now
        (.connectClicked login failure time)).app =
          station.app.onConnectClicked login failure time :=
      if_pos henabled
    obtain ⟨-, -, hthreads, hshows | ⟨hsockets, htarget⟩⟩ :=
      onConnectClicked_shows station.app login failure time henabled.1
    · rw [← happ] at hshows hthreads
      exact hlatest.callback hshows.sockets hshows.target hthreads rfl
    · rw [← happ] at hsockets htarget hthreads
      refine ⟨?_, ?_, ?_⟩
      · intro thread hrunning
        rw [hthreads] at hrunning
        exact absurd hrunning
          (howned.resting henabled.1 henabled.2 thread)
      · intro socket hsocket
        rw [htarget socket hsocket, hsockets]
      · intro thread habsent
        rw [hthreads] at habsent
        exact hlatest.unheard thread habsent
  · have happ : (station.step now
        (.connectClicked login failure time)).app = station.app :=
      if_neg henabled
    refine hlatest.callback ?_ ?_ ?_ rfl
    all_goals simp [happ]

theorem Station.Latest.dispatches (hlatest : station.Latest)
    (now : UInt32) : (station.step now .dispatch).Latest := by
  by_cases hidle : station.app.main = .idle
  · have happ : (station.step now .dispatch).app =
        station.app.dispatchUiEvent := if_pos hidle
    have htarget : ∀ socket,
        station.app.dispatchUiEvent.main.target ≠ some socket := by
      intro socket
      unfold dispatchUiEvent
      split
      · simp [hidle, MainThread.target]
      · simp only
        split <;> simp [appendLine, setStatus, hidle, MainThread.target]
    refine hlatest.callback ?_ ?_ ?_ rfl
    · rw [happ]
      unfold dispatchUiEvent
      split
      · rfl
      · simp only
        split <;> rfl
    · intro socket hsocket
      exact absurd (happ ▸ hsocket) (htarget socket)
    · rw [happ]
      unfold dispatchUiEvent
      split
      · rfl
      · simp only
        split <;> rfl
  · have happ : (station.step now .dispatch).app = station.app :=
      if_neg hidle
    refine hlatest.callback ?_ ?_ ?_ rfl
    all_goals simp [happ]

theorem Station.Latest.step (hlatest : station.Latest)
    (howned : station.app.Owned) (now : UInt32) (action : ClientAction) :
    (station.step now action).Latest := by
  cases action with
  | connectClicked login failure time =>
      exact hlatest.clicks howned now login failure time
  | sendClicked message time =>
      obtain ⟨hshows, hthreads, hreceived⟩ := station.step_shows now
        (Or.inl ⟨message, time, rfl⟩)
      exact hlatest.callback hshows.sockets hshows.target hthreads
        hreceived
  | closeRequest =>
      obtain ⟨hshows, hthreads, hreceived⟩ := station.step_shows now
        (Or.inr rfl)
      exact hlatest.callback hshows.sockets hshows.target hthreads
        hreceived
  | dispatch => exact hlatest.dispatches now
  | proceed sendOk => exact hlatest.proceeds now sendOk
  | receive thread received =>
      exact hlatest.receives howned now thread received

end Stations

/-- The transcript is the beginning of the conversations, and the rest of
them is on its way through the queue. -/
structure Station.Transcribed (station : Station) : Prop where
  account : ∃ shown, station.Transcribes shown
  settled : station.app.events = [] →
    (∀ thread, ¬ (station.app.threads thread).Running) →
      station.app.transcript =
        station.conversations.flatMap NsUiEvent.lines

theorem Station.Transcribes.transcribed {station : Station}
    {shown : List NsUiEvent} (htranscribes : station.Transcribes shown) :
    station.Transcribed where
  account := ⟨shown, htranscribes⟩
  settled := by
    intro hevents hrest
    have hunposted : station.unposted = [] :=
      List.flatMap_eq_nil_iff.mpr fun thread _ =>
        ReceiverThread.unposted_of_not_running (hrest thread) thread
    have hbalance := htranscribes.balance
    rw [hevents, hunposted, List.append_nil, List.append_nil] at hbalance
    rw [← hbalance]
    exact htranscribes.transcript

/-- Whatever a client receives, over all of its connections, is what its
transcript shows. -/
theorem transcript_shows_what_was_received
    (actions : List (UInt32 × ClientAction)) :
    (run (fun station entry => Station.step station entry.1 entry.2) .boot
      actions).Transcribed := by
  have halong : Along
      (fun station (entry : UInt32 × ClientAction) =>
        Station.step station entry.1 entry.2)
      (fun _ _ => True) .boot actions :=
    along_of_forall (fun _ _ => trivial) _ actions
  have hrun := run_invariant
    (fun station : Station => station.app.Owned ∧ station.Latest ∧
      ∃ shown, station.Transcribes shown)
    ?_ ⟨sockets_owned_boot, latest_boot, [], transcribes_boot⟩ halong
  · obtain ⟨-, -, shown, htranscribes⟩ := hrun
    exact htranscribes.transcribed
  · rintro station entry ⟨howned, hlatest, shown, htranscribes⟩ -
    obtain ⟨shown', -, hshown⟩ :=
      htranscribes.step hlatest howned entry.1 entry.2
    exact ⟨howned.step entry.2, hlatest.step howned entry.1 entry.2,
      shown', hshown⟩

end NodeSignal
