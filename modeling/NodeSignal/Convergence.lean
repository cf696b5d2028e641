import NodeSignal.Deliveries
import NodeSignal.Resting

/-!
# Everybody comes to see the same chat

Once nobody clicks and the server has no more to do, the clients take what
was queued for them, and their main loops show it.  In every fair schedule
this ends, and whoever is still in the room then knows it and shows the whole
chat from the own JOIN notice on.
-/

namespace NodeSignal

open CStrings NsClientApp Runs Settling

variable {ι : Type*}

/-- The steps by which a client takes and shows what is there for it. -/
inductive Delivery (ι : Type*) where
  | receive (client : ι) (thread : ℕ)
  | dispatch (client : ι)
  | proceed (client : ι) (now : UInt32)

/-- The same party moves. -/
def Delivery.Stands : Delivery ι → Delivery ι → Prop
  | .receive client thread, .receive client' thread' =>
      client = client' ∧ thread = thread'
  | .dispatch client, .dispatch client' => client = client'
  | .proceed client _, .proceed client' _ => client = client'
  | _, _ => False

namespace Network

variable (net : Network ι)

/-- What the channel to the socket hands over next. -/
def next (client : ι) (socket : ℕ) : Option NsPacket :=
  (net.inbound client socket)[
    ((net.stations client).received socket).length]?

/-- A thread in `ns_recv_packet` waits until there is a packet. -/
def takes (client : ι) (thread : ℕ) : Option ClientAction :=
  match (net.stations client).app.threads thread with
  | .receiving socket =>
      (net.next client socket).map fun packet =>
        .receive thread (some packet)
  | _ => some (.receive thread none)

def upcoming : Delivery ι → Option (NetworkAction ι)
  | .receive client thread =>
      (net.takes client thread).map (.client client 0)
  | .dispatch client => some (.client client 0 .dispatch)
  | .proceed client now => some (.client client now (.proceed true))

/-- The party has something to do. -/
def Busy : Delivery ι → Prop
  | .receive client thread =>
      ((net.stations client).app.threads thread).Running ∧
        (net.takes client thread).isSome
  | .dispatch client => (net.stations client).app.Due .dispatch
  | .proceed client _ => (net.stations client).app.Due (.proceed true)

end Network

def Network.deliver [DecidableEq ι] (net : Network ι)
    (delivery : Delivery ι) : Network ι :=
  match net.upcoming delivery with
  | some action => net.step action
  | none => net

/-! ## Who has been told -/

/-- The thread has received an ACK and not handled it. -/
def ReceiverThread.Acknowledging : ReceiverThread → Prop
  | .handling _ packet => packet.header.type = NsPacketType.ack.code
  | _ => False

/-- Whose ACK came in has joined, or is about to. -/
def Station.Informed (station : Station) : Prop :=
  ∀ socket, station.app.socketFd = some socket →
    ∀ packet ∈ station.received socket,
      packet.header.type = NsPacketType.ack.code →
        station.app.joined = true ∨
          (station.app.threads socket).Acknowledging

/-- What the lock protects stays as it is, and so do the threads. -/
structure NsClientApp.SameSession (app app' : NsClientApp) : Prop where
  socketFd : app'.socketFd = app.socketFd
  joined : app'.joined = app.joined
  threads : app'.threads = app.threads

section Sessions

variable {app : NsClientApp}

theorem sameSession_resume (app : NsClientApp) (resume : Resume) :
    app.SameSession (app.resume resume) := by
  cases resume <;> exact ⟨rfl, rfl, rfl⟩

theorem sameSession_unlinkReceiverThread (app : NsClientApp)
    (resume : Resume) :
    app.SameSession (app.unlinkReceiverThread resume) := by
  unfold unlinkReceiverThread
  split
  · exact sameSession_resume app resume
  · simp only
    split
    · exact ⟨rfl, rfl, rfl⟩
    · obtain ⟨hsocketFd, hjoined, hthreads⟩ := sameSession_resume
        { app with receiverThread := none, receiverThreadActive := false }
        resume
      exact ⟨hsocketFd, hjoined, hthreads⟩

theorem sameSession_onConnectClicked (app : NsClientApp)
    (login : LoginForm) (failure : Option (List UInt8)) (now : UInt32) :
    app.SameSession (app.onConnectClicked login failure now) := by
  unfold onConnectClicked
  split
  · exact ⟨rfl, rfl, rfl⟩
  · exact ⟨rfl, rfl, rfl⟩
  · simp only
    split <;> exact ⟨rfl, rfl, rfl⟩

theorem sameSession_onSendClicked (app : NsClientApp)
    (message : List UInt8) (now : UInt32) :
    app.SameSession (app.onSendClicked message now) := by
  unfold onSendClicked
  split
  · exact ⟨rfl, rfl, rfl⟩
  · split
    · split <;> exact ⟨rfl, rfl, rfl⟩
    · exact ⟨rfl, rfl, rfl⟩

theorem sameSession_dispatchUiEvent (app : NsClientApp) :
    app.SameSession app.dispatchUiEvent := by
  unfold dispatchUiEvent
  split
  · exact ⟨rfl, rfl, rfl⟩
  · simp only
    split <;> exact ⟨rfl, rfl, rfl⟩

end Sessions

section Informed

variable {station station' : Station}

theorem informed_boot : Station.boot.Informed := by
  intro socket hsocket
  exact absurd hsocket (by simp [Station.boot, NsClientApp.boot])

theorem Station.Informed.same (hinformed : station.Informed)
    (hsame : station.app.SameSession station'.app)
    (hreceived : station'.received = station.received) :
    station'.Informed := by
  intro socket hsocket packet hmem hack
  rw [hsame.socketFd] at hsocket
  rw [hreceived] at hmem
  rw [hsame.joined, hsame.threads]
  exact hinformed socket hsocket packet hmem hack

/-- A receiver thread goes on, and receives nothing. -/
theorem Station.Informed.turns (hinformed : station.Informed)
    (thread : ℕ) (state : ReceiverThread)
    (hsocketFd : station'.app.socketFd = none ∨
      station'.app.socketFd = station.app.socketFd ∧
        (station.app.joined = true → station'.app.joined = true))
    (hthreads : station'.app.threads =
      Function.update station.app.threads thread state)
    (hacknowledges : (station.app.threads thread).Acknowledging →
      station'.app.joined = true)
    (hreceived : station'.received = station.received) :
    station'.Informed := by
  intro socket hsocket packet hmem hack
  obtain hnone | ⟨hkept, hjoined⟩ := hsocketFd
  · exact absurd (hnone.symm.trans hsocket) (by simp)
  · rw [hkept] at hsocket
    rw [hreceived] at hmem
    rcases hinformed socket hsocket packet hmem hack with
      hmember | hacknowledging
    · exact Or.inl (hjoined hmember)
    · by_cases hsame : socket = thread
      · rw [hsame] at hacknowledging
        exact Or.inl (hacknowledges hacknowledging)
      · right
        rwa [hthreads, Function.update_of_ne hsame]

/-- The packet that comes in is the ACK, or nothing is new. -/
theorem Station.Informed.hears (hinformed : station.Informed)
    (howned : station.app.Owned) (now : UInt32) {thread socket : ℕ}
    (hstate : station.app.threads thread = .receiving socket)
    (packet : NsPacket) :
    (station.step now (.receive thread (some packet))).Informed := by
  have hown : socket = thread :=
    howned.own thread socket (by rw [hstate]; rfl)
  subst hown
  have happ : (station.step now (.receive socket (some packet))).app =
      station.app.setThread socket (.handling socket packet) := by
    simp only [Station.step, NsClientApp.step, receiveLoop, hstate]
  have hreceived :
      (station.step now (.receive socket (some packet))).received =
        record station.received (some (socket, packet)) := by
    simp only [Station.step, incoming, hstate]
  intro own hsocket packet' hmem hack
  rw [hreceived] at hmem
  rw [happ] at hsocket ⊢
  rcases mem_record_cases hmem with hold | hnew
  · rcases hinformed own hsocket packet' hold hack with
      hmember | hacknowledging
    · exact Or.inl hmember
    · have hne : own ≠ socket := by
        rintro rfl
        rw [hstate] at hacknowledging
        exact hacknowledging
      right
      change (Function.update station.app.threads socket _ own).Acknowledging
      rwa [Function.update_of_ne hne]
  · obtain ⟨rfl, rfl⟩ := Prod.mk.inj (Option.some.inj hnew)
    right
    change (Function.update station.app.threads socket _
      socket).Acknowledging
    rw [Function.update_self]
    exact hack

theorem Station.Informed.receives (hinformed : station.Informed)
    (howned : station.app.Owned) (now : UInt32) (thread : ℕ)
    (received : Option NsPacket) :
    (station.step now (.receive thread received)).Informed := by
  have hturn : ∀ (app' : NsClientApp) (state : ReceiverThread),
      station.app.receiveLoop thread received =
        app'.setThread thread state →
      app'.threads = station.app.threads →
      station.app.incoming (.receive thread received) = none →
      (app'.socketFd = none ∨
        app'.socketFd = station.app.socketFd ∧
          (station.app.joined = true → app'.joined = true)) →
      ((station.app.threads thread).Acknowledging →
        app'.joined = true) →
      (station.step now (.receive thread received)).Informed := by
    intro app' state happ hthreads hnone hsocketFd hacknowledges
    have happ' : (station.step now (.receive thread received)).app =
        app'.setThread thread state := happ
    refine hinformed.turns thread state ?_ ?_ ?_
      (Station.step_received station now hnone)
    · rw [happ']
      exact hsocketFd
    · rw [happ', ← hthreads]
      rfl
    · rw [happ']
      exact hacknowledges
  have hnone : (∀ socket,
      station.app.threads thread ≠ .receiving socket) →
      station.app.incoming (.receive thread received) = none := by
    intro hstate
    cases received with
    | none => rfl
    | some packet =>
        cases hthread : station.app.threads thread with
        | receiving socket => exact absurd hthread (hstate socket)
        | _ => simp only [incoming, hthread]
  have hkept : station.app.socketFd = none ∨
      station.app.socketFd = station.app.socketFd ∧
        (station.app.joined = true → station.app.joined = true) :=
    Or.inr ⟨rfl, id⟩
  have hsilent : (∀ socket packet,
      station.app.threads thread ≠ .handling socket packet) →
      (station.app.threads thread).Acknowledging →
        station.app.joined = true := by
    intro hstate hacknowledging
    cases hthread : station.app.threads thread with
    | handling socket packet => exact absurd hthread (hstate socket packet)
    | _ =>
        rw [hthread] at hacknowledging
        exact hacknowledging.elim
  cases hstate : station.app.threads thread with
  | absent =>
      refine hinformed.same ?_ (Station.step_received station now
        (hnone (by simp [hstate])))
      have happ : station.app.receiveLoop thread received = station.app := by
        simp only [receiveLoop, hstate]
      exact ⟨congrArg _ happ, congrArg _ happ, congrArg _ happ⟩
  | finished =>
      refine hinformed.same ?_ (Station.step_received station now
        (hnone (by simp [hstate])))
      have happ : station.app.receiveLoop thread received = station.app := by
        simp only [receiveLoop, hstate]
      exact ⟨congrArg _ happ, congrArg _ happ, congrArg _ happ⟩
  | starting =>
      cases hsocket : station.app.socketFd with
      | none =>
          refine hturn station.app .taking ?_ rfl
            (hnone (by simp [hstate])) hkept (hsilent (by simp [hstate]))
          simp only [receiveLoop, hstate, hsocket]
      | some socket =>
          refine hturn station.app (.receiving socket) ?_ rfl
            (hnone (by simp [hstate])) hkept (hsilent (by simp [hstate]))
          simp only [receiveLoop, hstate, hsocket]
  | receiving socket =>
      cases received with
      | none =>
          refine hturn station.app .taking ?_ rfl rfl hkept
            (hsilent (by simp [hstate]))
          simp only [receiveLoop, hstate]
      | some packet => exact hinformed.hears howned now hstate packet
  | handling socket packet =>
      refine hturn
        (if NsPacketType.ofCode? packet.header.type = some .ack then
          station.app.acknowledge packet
        else station.app)
        (.posting socket (packetEvents thread packet)) ?_ ?_
        (hnone (by simp [hstate])) ?_ ?_
      · simp only [receiveLoop, hstate]
      · split <;> rfl
      · right
        split
        · exact ⟨rfl, fun _ => rfl⟩
        · exact ⟨rfl, id⟩
      · intro hacknowledging
        rw [hstate] at hacknowledging
        have hack : packet.header.type = NsPacketType.ack.code :=
          hacknowledging
        rw [hack, NsPacketType.ofCode?_code, if_pos rfl]
        rfl
  | posting socket events =>
      cases events with
      | nil =>
          refine hturn station.app (.receiving socket) ?_ rfl
            (hnone (by simp [hstate])) hkept (hsilent (by simp [hstate]))
          simp only [receiveLoop, hstate]
      | cons event rest =>
          refine hturn (station.app.queueUiEvent event)
            (.posting socket rest) ?_ rfl (hnone (by simp [hstate])) hkept
            (hsilent (by simp [hstate]))
          simp only [receiveLoop, hstate]
  | taking =>
      refine hturn station.app.takeSocket (.closing station.app.socketFd)
        ?_ rfl (hnone (by simp [hstate])) (Or.inl rfl) ?_
      · simp only [receiveLoop, hstate]
      · rw [hstate]
        exact False.elim
  | closing socket =>
      refine hturn (station.app.closeSocket socket) .queueing ?_ rfl
        (hnone (by simp [hstate])) hkept (hsilent (by simp [hstate]))
      simp only [receiveLoop, hstate]
  | queueing =>
      refine hturn (station.app.queueUiEvent (disconnectedEvent thread))
        .finished ?_ rfl (hnone (by simp [hstate])) hkept
        (hsilent (by simp [hstate]))
      simp only [receiveLoop, hstate]
      rfl

theorem Station.Informed.proceeds (hinformed : station.Informed)
    (howned : station.app.Owned) (hlatest : station.Latest) (now : UInt32)
    (sendOk : Bool) :
    (station.step now (.proceed sendOk)).Informed := by
  have happ : (station.step now (.proceed sendOk)).app =
      station.app.continueCallback sendOk := rfl
  have hsame : ∀ app' : NsClientApp,
      station.app.continueCallback sendOk = app' →
      station.app.SameSession app' →
      (station.step now (.proceed sendOk)).Informed := by
    rintro app' rfl hsame
    exact hinformed.same hsame rfl
  unfold continueCallback at happ hsame
  cases hmain : station.app.main with
  | storing socket login packet =>
      -- nothing has come in on a socket without a thread
      intro own hsocket packet' hmem
      have hown : socket = own := by
        rw [happ, hmain] at hsocket
        exact Option.some.inj hsocket
      have habsent := (howned.target socket (by rw [hmain]; rfl)).2
      have hunheard := hlatest.unheard socket habsent
      rw [← hown] at hmem
      exact absurd (hunheard ▸ hmem) List.not_mem_nil
  | starting socket =>
      have habsent := (howned.target socket (by rw [hmain]; rfl)).2
      refine hinformed.turns socket .starting ?_ ?_ ?_ rfl
      · rw [happ, hmain]
        exact Or.inr ⟨rfl, id⟩
      · rw [happ, hmain]
        rfl
      · rw [habsent]
        exact False.elim
  | taking notifyServer resume =>
      intro own hsocket
      rw [happ, hmain] at hsocket
      exact absurd hsocket (by simp [takeSocket])
  | unlinking resume =>
      simp only [hmain] at hsame
      exact hsame _ rfl (sameSession_unlinkReceiverThread _ resume)
  | joining thread resume =>
      simp only [hmain] at hsame
      refine hsame _ rfl ?_
      split
      · exact sameSession_resume _ resume
      · exact ⟨rfl, rfl, rfl⟩
  | sendingJoin socket packet =>
      simp only [hmain] at hsame
      refine hsame _ rfl ?_
      split <;> exact ⟨rfl, rfl, rfl⟩
  | sending socket packet =>
      simp only [hmain] at hsame
      refine hsame _ rfl ?_
      split <;> exact ⟨rfl, rfl, rfl⟩
  | _ =>
      simp only [hmain] at hsame
      exact hsame _ rfl ⟨rfl, rfl, rfl⟩

theorem Station.Informed.step (hinformed : station.Informed)
    (howned : station.app.Owned) (hlatest : station.Latest) (now : UInt32)
    (action : ClientAction) : (station.step now action).Informed := by
  have hbegins : station.app.SameSession (station.app.step action) →
      (station.step now action).received = station.received →
      (station.step now action).Informed :=
    fun hsame hreceived => hinformed.same hsame hreceived
  cases action with
  | connectClicked login failure time =>
      refine hbegins ?_ rfl
      rw [NsClientApp.step]
      split
      · exact sameSession_onConnectClicked _ login failure time
      · exact ⟨rfl, rfl, rfl⟩
  | sendClicked message time =>
      refine hbegins ?_ rfl
      rw [NsClientApp.step]
      split
      · exact sameSession_onSendClicked _ message time
      · exact ⟨rfl, rfl, rfl⟩
  | closeRequest =>
      refine hbegins ?_ rfl
      rw [NsClientApp.step]
      split <;> exact ⟨rfl, rfl, rfl⟩
  | dispatch =>
      refine hbegins ?_ rfl
      rw [NsClientApp.step]
      split
      · exact sameSession_dispatchUiEvent _
      · exact ⟨rfl, rfl, rfl⟩
  | proceed sendOk => exact hinformed.proceeds howned hlatest now sendOk
  | receive thread received =>
      exact hinformed.receives howned now thread received

end Informed

/-! ## The work that is left -/

/-- The packets that are still to come. -/
def Station.missing (station : Station) (inbound : ℕ → List NsPacket) : ℕ :=
  ∑ socket ∈ Finset.range station.app.sockets,
    ((inbound socket).length - (station.received socket).length)

/-- A packet that comes in brings less work than it takes. -/
def Station.work (station : Station) (inbound : ℕ → List NsPacket) : ℕ :=
  station.app.work + 11 * station.missing inbound

def Network.work [Fintype ι] (net : Network ι) : ℕ :=
  ∑ client, (net.stations client).work (net.inbound client)

section Work

variable {station : Station} {inbound : ℕ → List NsPacket}

theorem closing_sockets {app : NsClientApp} {action : ClientAction}
    (hclosing : action.Closing) :
    (app.step action).sockets = app.sockets := by
  cases action with
  | proceed sendOk => exact (shows_continueCallback app sendOk).sockets
  | dispatch =>
      rw [NsClientApp.step]
      split
      · cases hevents : app.events with
        | nil =>
            unfold dispatchUiEvent
            rw [hevents]
        | cons event rest =>
            obtain ⟨-, -, hsockets, -⟩ := dispatchUiEvent_shows app hevents
            exact hsockets
      · rfl
  | receive thread received =>
      exact (receiveLoop_sockets app thread received).1
  | _ => exact hclosing.elim

theorem closing_incoming {app : NsClientApp} {action : ClientAction}
    (hclosing : action.Closing) : app.incoming action = none := by
  cases action with
  | receive thread received =>
      cases received with
      | none => rfl
      | some packet => exact hclosing.elim
  | _ => rfl

/-- A step that is due takes some of the work of the client. -/
theorem Station.closing_lowers (howned : station.app.Owned) (now : UInt32)
    {action : ClientAction} (hclosing : action.Closing)
    (hdue : station.app.Due action) :
    (station.step now action).work inbound < station.work inbound := by
  have hless : (station.app.step action).work < station.app.work := by
    obtain ⟨-, hless⟩ | ⟨hwaits, -⟩ := closing_step howned hclosing
    · exact hless
    · exact absurd hdue hwaits
  have hmissing : (station.step now action).missing inbound =
      station.missing inbound := by
    have hsockets : (station.step now action).app.sockets =
        station.app.sockets := closing_sockets hclosing
    unfold missing
    rw [Station.step_received station now (closing_incoming hclosing),
      hsockets]
  have happ : (station.step now action).app = station.app.step action := rfl
  unfold work
  rw [hmissing, happ]
  omega

theorem packetEvents_le (thread : ℕ) (packet : NsPacket) :
    (packetEvents thread packet).length ≤ 2 := by
  unfold packetEvents
  simp only
  split <;> simp

/-- A packet that came in is no longer missing. -/
theorem Station.receive_lowers (howned : station.app.Owned) (now : UInt32)
    {thread socket : ℕ}
    (hstate : station.app.threads thread = .receiving socket)
    (packet : NsPacket)
    (hnext : (station.received socket).length < (inbound socket).length) :
    (station.step now (.receive thread (some packet))).work inbound <
      station.work inbound := by
  have hown : socket = thread :=
    howned.own thread socket (by rw [hstate]; rfl)
  subst hown
  have hknown : socket < station.app.sockets :=
    howned.known (by simp [hstate, ReceiverThread.Running])
  have happ : (station.step now (.receive socket (some packet))).app =
      station.app.setThread socket (.handling socket packet) := by
    simp only [Station.step, NsClientApp.step, receiveLoop, hstate]
  have hreceived :
      (station.step now (.receive socket (some packet))).received =
        record station.received (some (socket, packet)) := by
    simp only [Station.step, incoming, hstate]
  have hbrings : (station.app.setThread socket
      (.handling socket packet)).work ≤ station.app.work + 10 := by
    have hsum : (station.app.setThread socket
          (.handling socket packet)).threadWork +
        (station.app.threads socket).work =
        station.app.threadWork +
          (ReceiverThread.handling socket packet).work :=
      threadWork_update hknown rfl rfl
    have hevents := packetEvents_le 0 packet
    simp only [hstate, ReceiverThread.work] at hsum
    simp only [NsClientApp.work, setThread] at hsum ⊢
    omega
  have htakes : (station.step now
      (.receive socket (some packet))).missing inbound + 1 ≤
        station.missing inbound := by
    have hmem : socket ∈ Finset.range station.app.sockets :=
      Finset.mem_range.mpr hknown
    have hsockets : (station.step now
        (.receive socket (some packet))).app.sockets =
          station.app.sockets := by
      rw [happ]
      rfl
    unfold missing
    rw [hsockets, hreceived, Nat.succ_le_iff]
    refine Finset.sum_lt_sum (fun other _ => ?_) ⟨socket, hmem, ?_⟩
    · have hgrows := (prefix_record station.received
        (some (socket, packet)) other).length_le
      omega
    · rw [record_self, List.length_append, List.length_singleton]
      omega
  unfold work
  rw [happ]
  omega

end Work

/-! ## Steps of the network -/

/-- What is known of every client. -/
structure Station.Tended (station : Station) : Prop where
  owned : station.app.Owned
  tidy : station.app.Tidy
  latest : station.Latest
  informed : station.Informed
  account : ∃ shown, station.Transcribes shown

theorem tended_boot : Station.boot.Tended :=
  ⟨sockets_owned_boot, tidy_boot, latest_boot, informed_boot,
    [], transcribes_boot⟩

theorem Station.Tended.step {station : Station} (htended : station.Tended)
    (now : UInt32) (action : ClientAction) :
    (station.step now action).Tended := by
  obtain ⟨howned, htidy, hlatest, hinformed, shown, htranscribes⟩ := htended
  obtain ⟨shown', -, hshown⟩ :=
    htranscribes.step hlatest howned now action
  exact ⟨howned.step action, htidy.step howned action,
    hlatest.step howned now action,
    hinformed.step howned hlatest now action, shown', hshown⟩

/-- What is known of the network. -/
structure Network.Tended (net : Network ι) : Prop where
  coherent : net.Coherent
  heard : net.Heard
  stations : ∀ client, (net.stations client).Tended

section Deliveries

variable {net : Network ι}

open Network

/-- What a thread takes is what the channel hands over next. -/
theorem Network.Heard.next (hheard : net.Heard) {client : ι} {socket : ℕ}
    {packet : NsPacket} (hnext : net.next client socket = some packet) :
    (net.stations client).received socket ++ [packet] <+:
      net.inbound client socket := by
  obtain ⟨rest, hrest⟩ := hheard client socket
  unfold Network.next at hnext
  rw [← hrest, List.getElem?_append_right le_rfl, Nat.sub_self] at hnext
  cases rest with
  | nil => exact absurd hnext (by simp)
  | cons first rest =>
      rw [List.getElem?_cons_zero, Option.some.injEq] at hnext
      rw [← hrest, hnext, List.prefix_append_right_inj]
      exact ⟨rest, rfl⟩

theorem delivers_of_closing {client : ι} {now : UInt32}
    {action : ClientAction} (hclosing : action.Closing) :
    net.Delivers (.client client now action) := by
  intro entry hentry
  rw [closing_incoming hclosing] at hentry
  exact absurd hentry (by simp)

variable [DecidableEq ι]

theorem Network.Tended.step (htended : net.Tended)
    (action : NetworkAction ι) : (net.step action).Tended := by
  refine ⟨htended.coherent.step action,
    htended.heard.step htended.coherent action, fun client => ?_⟩
  unfold Network.step
  split_ifs
  · cases action with
    | client client' now action =>
        rw [after_stations]
        split_ifs
        · exact (htended.stations client).step now action
        · exact htended.stations client
    | accept client' socket socketFd outcomes =>
        exact htended.stations client
    | server event => exact htended.stations client
  · exact htended.stations client

theorem tended_run (tables : Tables) (listenSocket : NsSocket)
    (errno : Errno) (clock : Clock) (actions : List (NetworkAction ι)) :
    (run Network.step (Network.boot ι tables listenSocket errno clock)
      actions).Tended := by
  have halong : Along Network.step (fun _ _ => True)
      (Network.boot ι tables listenSocket errno clock) actions :=
    along_of_forall (fun _ _ => trivial) _ actions
  exact run_invariant Network.Tended
    (fun _ action htended _ => htended.step action)
    ⟨coherent_boot ι tables listenSocket errno clock,
      heard_boot ι tables listenSocket errno clock,
      fun _ => tended_boot⟩ halong

theorem Network.Tended.deliver (htended : net.Tended)
    (delivery : Delivery ι) : (net.deliver delivery).Tended := by
  unfold Network.deliver
  split
  · exact htended.step _
  · exact htended

/-- A client makes a step that changes nothing. -/
theorem Network.act_same {client : ι} {now : UInt32}
    {action : ClientAction}
    (hsame : (net.stations client).step now action =
      net.stations client) :
    net.step (.client client now action) = net := by
  unfold Network.step
  split_ifs
  · simp only [Network.after, hsame, Function.update_eq_self]
  · rfl

/-- A client makes a step that takes some of its work. -/
theorem Network.act_lowers [Fintype ι] {client : ι} {now : UInt32}
    {action : ClientAction}
    (hdelivers : net.Delivers (.client client now action))
    (hlower : ((net.stations client).step now action).work
        (net.inbound client) <
      (net.stations client).work (net.inbound client)) :
    (net.step (.client client now action)).work < net.work := by
  have hstep : net.step (.client client now action) =
      net.after (.client client now action) := if_pos hdelivers
  have hinbound : (net.after (.client client now action)).inbound =
      net.inbound := rfl
  rw [hstep]
  unfold Network.work
  rw [hinbound]
  refine Finset.sum_lt_sum (fun other _ => ?_)
    ⟨client, Finset.mem_univ client, ?_⟩
  · rw [after_stations]
    split_ifs with hsame
    · rw [hsame]
      exact hlower.le
    · exact le_rfl
  · rw [after_stations, if_pos rfl]
    exact hlower

theorem outgoing_of_not_due {app : NsClientApp} {now : UInt32}
    (hwaits : ¬ app.Due (.proceed true)) :
    app.outgoing now (.proceed true) = none := by
  unfold outgoing
  cases hmain : app.main with
  | idle => rfl
  | joining thread resume => rfl
  | _ => exact absurd ⟨by simp [hmain], by simp [hmain]⟩ hwaits

/-- A closing step that is not due changes nothing. -/
theorem Station.closing_waits {station : Station}
    (howned : station.app.Owned) {now : UInt32} {action : ClientAction}
    (hclosing : action.Closing) (hwaits : ¬ station.app.Due action)
    (houtgoing : station.app.outgoing now action = none) :
    station.step now action = station := by
  have happ : station.app.step action = station.app := by
    obtain ⟨hdue, -⟩ | ⟨-, hsame⟩ := closing_step howned hclosing
    · exact absurd hdue hwaits
    · exact hsame
  unfold Station.step
  rw [happ, houtgoing, closing_incoming hclosing]
  rfl

/-- A delivery takes some of the work that is left, or nothing of it is
due. -/
theorem Network.deliver_settles [Fintype ι] (htended : net.Tended)
    (delivery : Delivery ι) :
    net.Busy delivery ∧ (net.deliver delivery).work < net.work ∨
      ¬ net.Busy delivery ∧ net.deliver delivery = net := by
  have hcloses : ∀ (client : ι) (now : UInt32) (action : ClientAction),
      action.Closing →
      net.upcoming delivery = some (.client client now action) →
      (net.Busy delivery ↔ (net.stations client).app.Due action) →
      (¬ (net.stations client).app.Due action →
        (net.stations client).app.outgoing now action = none) →
      net.Busy delivery ∧ (net.deliver delivery).work < net.work ∨
        ¬ net.Busy delivery ∧ net.deliver delivery = net := by
    intro client now action hclosing hupcoming hbusy houtgoing
    have howned := (htended.stations client).owned
    have hdeliver : net.deliver delivery =
        net.step (.client client now action) := by
      simp only [Network.deliver, hupcoming]
    rw [hbusy, hdeliver]
    by_cases hdue : (net.stations client).app.Due action
    · exact Or.inl ⟨hdue, act_lowers (delivers_of_closing hclosing)
        (Station.closing_lowers howned now hclosing hdue)⟩
    · exact Or.inr ⟨hdue, act_same (Station.closing_waits howned hclosing
        hdue (houtgoing hdue))⟩
  cases delivery with
  | dispatch client =>
      exact hcloses client 0 .dispatch trivial rfl Iff.rfl fun _ => rfl
  | proceed client now =>
      exact hcloses client now (.proceed true) trivial rfl Iff.rfl
        outgoing_of_not_due
  | receive client thread =>
      have hquiet : (∀ socket, (net.stations client).app.threads thread ≠
          .receiving socket) →
          net.takes client thread = some (.receive thread none) := by
        intro hstate
        unfold Network.takes
        split
        · next socket hreceiving => exact absurd hreceiving (hstate socket)
        · rfl
      by_cases hreceiving : ∃ socket,
          (net.stations client).app.threads thread = .receiving socket
      · obtain ⟨socket, hstate⟩ := hreceiving
        have htakes : net.takes client thread =
            (net.next client socket).map fun packet =>
              .receive thread (some packet) := by
          simp only [Network.takes, hstate]
        cases hnext : net.next client socket with
        | none =>
            rw [hnext, Option.map_none] at htakes
            refine Or.inr ⟨fun hbusy => ?_, ?_⟩
            · have hsome := hbusy.2
              rw [htakes] at hsome
              exact absurd hsome Bool.false_ne_true
            · simp only [Network.deliver, Network.upcoming, htakes,
                Option.map_none]
        | some packet =>
            rw [hnext, Option.map_some] at htakes
            have hdeliver : net.deliver (.receive client thread) =
                net.step
                  (.client client 0 (.receive thread (some packet))) := by
              simp only [Network.deliver, Network.upcoming, htakes,
                Option.map_some]
            have hprefix := htended.heard.next hnext
            refine Or.inl ⟨⟨?_, ?_⟩, ?_⟩
            · simp [hstate, ReceiverThread.Running]
            · rw [htakes]
              rfl
            · rw [hdeliver]
              refine act_lowers ?_ (Station.receive_lowers
                (htended.stations client).owned 0 hstate packet ?_)
              · intro entry hentry
                simp only [incoming, hstate, Option.mem_def,
                  Option.some.injEq] at hentry
                rw [← hentry]
                exact hprefix
              · have hlength := hprefix.length_le
                rw [List.length_append, List.length_singleton] at hlength
                omega
      · have htakes := hquiet (not_exists.mp hreceiving)
        refine hcloses client 0 (.receive thread none) trivial ?_ ?_
          fun _ => rfl
        · simp only [Network.upcoming, htakes, Option.map_some]
        · simp only [Network.Busy, htakes, Option.isSome_some, and_true]
          rfl

end Deliveries

/-! ## Where everybody has caught up -/

/-- What the transcript shows of a packet. -/
def NsPacket.lines (packet : NsPacket) : List Span :=
  (packetEvents 0 packet).flatMap NsUiEvent.lines

theorem packetEvents_lines (thread : ℕ) (packet : NsPacket) :
    (packetEvents thread packet).flatMap NsUiEvent.lines =
      packet.lines := by
  unfold NsPacket.lines packetEvents
  simp only
  split <;> rfl

namespace Network

variable (net : Network ι)

/-- The main loop of the client waits for events, and the socket is
connected. -/
structure Online (client : ι) (socket : ℕ) : Prop where
  main : (net.stations client).app.main = .idle
  socketFd : (net.stations client).app.socketFd = some socket

/-- The client has received and shows whatever the server has queued for
the socket. -/
structure CaughtUp (client : ι) (socket : ℕ) : Prop where
  received : (net.stations client).received socket =
    net.inbound client socket
  shown : ∃ earlier, (net.stations client).app.transcript =
    earlier ++ (net.inbound client socket).flatMap NsPacket.lines

/-- The slot of the client in the room. -/
structure SeatedAt (client : ι) (socket : ℕ) (index : SlotIndex) :
    Prop where
  online : net.Online client socket
  link : net.links (client, socket) = some (net.server.connection index)
  active : (net.server.clients index).active
  joined : (net.server.clients index).joined

/-- What the client has seen of the chat. -/
def seen (client : ι) (socket : ℕ) : List NsPacket :=
  (chatOf ((net.stations client).received socket)).tail

/-- The client knows who it is, and has seen the chat from its own JOIN
notice to the end. -/
structure InRoom (client : ι) (socket : ℕ) (userId : UInt32)
    (name : List UInt8) : Prop where
  joined : (net.stations client).app.joined = true
  own : (net.stations client).app.userId = userId
  login : text (net.stations client).app.connectedLogin.username = name
  ack : ∃ ack, IsAck ack userId name ∧
    chatOf ((net.stations client).received socket) =
      ack :: net.seen client socket
  notice : ∃ notice later, IsJoinNotice notice userId name ∧
    net.seen client socket = notice :: later
  suffix : net.seen client socket <:+ broadcasts net.server.trace

structure Converged : Prop where
  caughtUp : ∀ client socket, net.Online client socket →
    net.CaughtUp client socket
  inRoom : ∀ client socket index, net.SeatedAt client socket index →
    net.InRoom client socket (net.server.clients index).userId
      (text (net.server.clients index).username)
  agreed : ∀ client socket index client' socket' index',
    net.SeatedAt client socket index →
    net.SeatedAt client' socket' index' →
      net.seen client socket <:+ net.seen client' socket' ∨
        net.seen client' socket' <:+ net.seen client socket

end Network

section Convergence

variable {net : Network ι}

open Network

/-- A client that waits, waits for the channel of its socket. -/
theorem Network.Online.receiving {client : ι} {socket : ℕ}
    (honline : net.Online client socket)
    (htended : (net.stations client).Tended)
    (hwaits : ∀ delivery, ¬ net.Busy delivery) :
    (net.stations client).app.threads socket = .receiving socket ∧
      net.next client socket = none := by
  have hlaunches : ¬ (net.stations client).app.main.Launches socket := by
    simp [honline.main, MainThread.Launches]
  obtain ⟨hattached, hpast⟩ :=
    htended.owned.stored_attached honline.socketFd hlaunches
  have hrunning :
      ((net.stations client).app.threads socket).Running := by
    refine ⟨htended.tidy.attended socket hattached, fun hfinished => ?_⟩
    rw [hfinished] at hpast
    exact hpast trivial
  have htakes : net.takes client socket = none := by
    cases htakes : net.takes client socket with
    | none => rfl
    | some action =>
        refine absurd ⟨hrunning, ?_⟩ (hwaits (.receive client socket))
        rw [htakes]
        rfl
  unfold Network.takes at htakes
  split at htakes
  · next own hstate =>
      have hown : own = socket :=
        htended.owned.own socket own (by rw [hstate]; rfl)
      rw [hown] at hstate htakes
      exact ⟨hstate, Option.map_eq_none_iff.mp htakes⟩
  · exact absurd htakes (by simp)

theorem Network.Tended.caughtUp (htended : net.Tended)
    (hwaits : ∀ delivery, ¬ net.Busy delivery) {client : ι} {socket : ℕ}
    (honline : net.Online client socket) :
    net.CaughtUp client socket := by
  have hstation := htended.stations client
  obtain ⟨hstate, hnext⟩ := honline.receiving hstation hwaits
  have hreceived : (net.stations client).received socket =
      net.inbound client socket :=
    (htended.heard client socket).eq_of_length_le
      (List.getElem?_eq_none_iff.mp hnext)
  refine ⟨hreceived, ?_⟩
  obtain ⟨shown, htranscript, hbalance⟩ := hstation.account
  have hlast : socket + 1 = (net.stations client).app.sockets :=
    hstation.latest.running socket
      (by simp [hstate, ReceiverThread.Running])
  have hevents : (net.stations client).app.events = [] := by
    by_contra hqueued
    exact hwaits (.dispatch client) ⟨honline.main, hqueued⟩
  have hunposted : (net.stations client).unposted = [] := by
    refine List.flatMap_eq_nil_iff.mpr fun thread _ => ?_
    by_cases hrunning : ((net.stations client).app.threads thread).Running
    · have hthread := hstation.latest.running thread hrunning
      have hsame : thread = socket := by omega
      rw [hsame, hstate]
      rfl
    · exact ReceiverThread.unposted_of_not_running hrunning thread
  have hlines : ((net.stations client).conversation socket).flatMap
      NsUiEvent.lines =
        (net.inbound client socket).flatMap NsPacket.lines := by
    unfold Station.conversation
    rw [hreceived, if_neg (by simp [hstate]), List.append_nil,
      List.flatMap_assoc]
    simp only [packetEvents_lines]
  rw [hevents, hunposted, List.append_nil, List.append_nil] at hbalance
  refine ⟨((List.range socket).flatMap
    (net.stations client).conversation).flatMap NsUiEvent.lines, ?_⟩
  rw [htranscript, hbalance, Station.conversations, ← hlast,
    List.range_succ, List.flatMap_append, List.flatMap_append,
    List.flatMap_singleton, hlines]

theorem Network.Tended.inRoom (htended : net.Tended)
    (hwaits : ∀ delivery, ¬ net.Busy delivery) {client : ι} {socket : ℕ}
    {index : SlotIndex} (hseated : net.SeatedAt client socket index) :
    net.InRoom client socket (net.server.clients index).userId
      (text (net.server.clients index).username) := by
  obtain ⟨honline, hlink, hactive, hjoined⟩ := hseated
  have hstation := htended.stations client
  have hcoherent := htended.coherent
  have hreceived := (htended.caughtUp hwaits honline).received
  obtain ⟨hstate, -⟩ := honline.receiving hstation hwaits
  obtain ⟨before, life, hsegment⟩ :=
    hcoherent.order.chatting index hactive hjoined
  obtain ⟨ack, hack, hchat⟩ := hsegment.received
  obtain ⟨notice, later, hnotice, hlife⟩ := hsegment.notice
  have hheard : chatOf ((net.stations client).received socket) =
      ack :: broadcasts life := by
    rw [hreceived, hcoherent.inbound_chat hlink, hchat]
  have hseen : net.seen client socket = broadcasts life := by
    rw [Network.seen, hheard, List.tail_cons]
  have hmember : (net.stations client).app.joined = true := by
    have hmem : ack ∈ (net.stations client).received socket := by
      have hin : ack ∈ chatOf ((net.stations client).received socket) := by
        rw [hheard]
        exact List.mem_cons_self
      exact (List.mem_filter.mp hin).1
    refine (hstation.informed socket honline.socketFd ack hmem
      hack.type).resolve_right ?_
    rw [hstate]
    exact id
  obtain ⟨connection, join, hlink', -, -, hname, -, hslot⟩ :=
    hcoherent.agreement.joined client socket honline.socketFd hmember
  have hsame : net.server.connection index = connection :=
    Option.some.inj (hlink.symm.trans hlink')
  obtain ⟨-, huserId, husername⟩ := hslot index hactive hsame
  refine ⟨hmember, huserId.symm, ?_, ⟨ack, hack, ?_⟩,
    ⟨notice, later, hnotice, ?_⟩, ?_⟩
  · rw [husername, hname]
  · rw [hheard, hseen]
  · rw [hseen, hlife]
  · rw [hseen, hsegment.split, broadcasts_append, broadcasts_cons,
      List.append_nil]
    exact (List.suffix_append _ _).trans (List.suffix_append _ _)

theorem Network.Tended.converged (htended : net.Tended)
    (hwaits : ∀ delivery, ¬ net.Busy delivery) : net.Converged where
  caughtUp := fun _ _ => htended.caughtUp hwaits
  inRoom := fun _ _ _ => htended.inRoom hwaits
  agreed := by
    intro client socket index client' socket' index' hseated hseated'
    have hleft := (htended.inRoom hwaits hseated).suffix
    have hright := (htended.inRoom hwaits hseated').suffix
    rcases le_total (net.seen client socket).length
      (net.seen client' socket').length with hshorter | hshorter
    · exact Or.inl (List.suffix_of_suffix_length_le hleft hright hshorter)
    · exact Or.inr (List.suffix_of_suffix_length_le hright hleft hshorter)

theorem busy_stands {delivery delivery' : Delivery ι}
    (hstands : delivery'.Stands delivery) (hbusy : net.Busy delivery) :
    net.Busy delivery' := by
  match delivery, delivery' with
  | .receive _ _, .receive _ _ =>
      obtain ⟨rfl, rfl⟩ := hstands
      exact hbusy
  | .dispatch _, .dispatch _ =>
      have hclient := hstands
      subst hclient
      exact hbusy
  | .proceed _ _, .proceed _ _ =>
      have hclient := hstands
      subst hclient
      exact hbusy

variable [DecidableEq ι]

/-- Deliveries leave the server alone. -/
theorem Network.deliver_server (net : Network ι)
    (delivery : Delivery ι) :
    (net.deliver delivery).server = net.server ∧
      (net.deliver delivery).links = net.links := by
  have hacts : ∀ (client : ι) (now : UInt32) (action : ClientAction),
      (net.step (.client client now action)).server = net.server ∧
        (net.step (.client client now action)).links = net.links := by
    intro client now action
    unfold Network.step
    split_ifs <;> exact ⟨rfl, rfl⟩
  unfold Network.deliver
  cases delivery with
  | dispatch client => exact hacts client 0 .dispatch
  | proceed client now => exact hacts client now (.proceed true)
  | receive client thread =>
      cases htakes : net.takes client thread with
      | none =>
          simp only [Network.upcoming, htakes, Option.map_none]
          exact ⟨trivial, trivial⟩
      | some action =>
          simp only [Network.upcoming, htakes, Option.map_some]
          exact hacts client 0 action

theorem settles_deliver [Fintype ι] :
    Settles (Network.deliver (ι := ι)) (fun _ => True) Network.Tended
      Network.work where
  keeps := fun _ delivery htended _ => htended.deliver delivery
  lowers := by
    intro net delivery htended _ heffect
    obtain ⟨-, hless⟩ | ⟨-, hsame⟩ := deliver_settles htended delivery
    · exact hless
    · exact absurd hsame heffect

end Convergence

/-- The parties of a single client, each again and again. -/
def deliveriesInTurn (time : ℕ) : Delivery Unit :=
  match time.unpair.1 with
  | 0 => .proceed () 0
  | 1 => .dispatch ()
  | thread + 2 => .receive () thread

theorem deliveriesInTurn_fair :
    Fair Delivery.Stands (fun _ => True) deliveriesInTurn := by
  intro delivery _ after
  cases delivery with
  | proceed _ _ =>
      refine ⟨Nat.pair 0 after, Nat.right_le_pair 0 after, ?_⟩
      simp [deliveriesInTurn, Delivery.Stands]
  | dispatch _ =>
      refine ⟨Nat.pair 1 after, Nat.right_le_pair 1 after, ?_⟩
      simp [deliveriesInTurn, Delivery.Stands]
  | receive _ thread =>
      refine ⟨Nat.pair (thread + 2) after,
        Nat.right_le_pair (thread + 2) after, ?_⟩
      simp [deliveriesInTurn, Delivery.Stands]

end NodeSignal
