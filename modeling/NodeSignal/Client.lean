import NodeSignal.Packet

/-!
# The client

The state of the GTK application, its main thread and its receiver threads.
A socket is named by the number of the `ns_connect_tcp` call that returned
it, and the receiver thread that is started for it has the same number.  A
callback of the main thread and the receive loop are cut where they take
`connection_lock`, make a system call or wait for a thread; the steps in
between touch nothing that another thread reads.
-/

namespace NodeSignal

open CStrings

/-! ## The transcript -/

/-- A piece that `ns_client_append_line` inserts, and whether it carries the
tag of a user name. -/
structure Span where
  bytes : List UInt8
  tagged : Bool
  deriving DecidableEq

def colon : UInt8 := 58

def newline : List UInt8 := [10]

/-- `ns_client_append_line`; the flag says whether there is a tag. -/
def nsClientAppendLine (usernameTag : Bool) (line : List UInt8) :
    List Span :=
  let line := text line
  if line = [] then []
  else
    let inserted :=
      match strchr line colon with
      | some offset =>
          if offset ≠ 0 then
            [⟨line.take offset, usernameTag⟩, ⟨line.drop offset, false⟩]
          else [⟨line, false⟩]
      | none => [⟨line, false⟩]
    inserted ++ [⟨newline, false⟩]

/-! ## State -/

inductive NsUiEventType where
  | appendLine
  | connected
  | disconnected
  | status
  deriving DecidableEq

/-- A queued event.  The source does not keep which thread queued it. -/
structure NsUiEvent where
  type : NsUiEventType
  text : List UInt8
  userId : UInt32
  origin : ℕ
  deriving DecidableEq

/-- What the user has typed into the login form. -/
structure LoginForm where
  host : List UInt8
  port : List UInt8
  username : List UInt8
  deriving DecidableEq

/-- The copies that `ns_client_on_connect_clicked` keeps. -/
def LoginForm.kept (login : LoginForm) : LoginForm where
  host := (snprintf 256 [text login.host]).1
  port := (snprintf 64 [text login.port]).1
  username := (snprintf (nsUsernameMax + 1) [text login.username]).1

/-- What a callback does once `ns_client_disconnect` or
`ns_client_join_receiver_thread` returns. -/
inductive Resume where
  | connectFailed
  | sendFailed
  | closeRequest
  | disconnected (text : List UInt8) (origin : ℕ)
  deriving DecidableEq

/-- Where the main thread stands inside a callback. -/
inductive MainThread where
  | idle
  | storing (socket : ℕ) (login : LoginForm) (packet : NsPacket)
  | sendingJoin (socket : ℕ) (packet : NsPacket)
  | starting (socket : ℕ)
  | sending (socket : ℕ) (packet : NsPacket)
  | taking (notifyServer : Bool) (resume : Resume)
  | leaving (socket : Option ℕ) (notifyServer wasJoined : Bool)
      (userId : UInt32) (resume : Resume)
  | closing (socket : Option ℕ) (resume : Resume)
  | unlinking (resume : Resume)
  | joining (thread : ℕ) (resume : Resume)
  deriving DecidableEq

/-- Where a receiver thread stands in `ns_client_receive_loop`. -/
inductive ReceiverThread where
  | absent
  | starting
  | receiving (socket : ℕ)
  | handling (socket : ℕ) (packet : NsPacket)
  | posting (socket : ℕ) (events : List NsUiEvent)
  | taking
  | closing (socket : Option ℕ)
  | queueing
  | finished
  deriving DecidableEq

structure NsClientApp where
  socketFd : Option ℕ
  transportConnected : Bool
  joined : Bool
  userId : UInt32
  receiverThread : Option ℕ
  receiverThreadActive : Bool
  connectedLogin : LoginForm
  loginSensitive : Bool
  sendSensitive : Bool
  chatPage : Bool
  status : List UInt8
  transcript : List Span
  sidebar : Option LoginForm
  main : MainThread
  threads : ℕ → ReceiverThread
  events : List NsUiEvent
  /-- How many sockets `ns_connect_tcp` has returned. -/
  sockets : ℕ
  /-- The sockets passed to `ns_socket_close`, in call order. -/
  closed : List ℕ

/-- The application after `ns_client_load_ui`. -/
def NsClientApp.boot : NsClientApp where
  socketFd := none
  transportConnected := false
  joined := false
  userId := 0
  receiverThread := none
  receiverThreadActive := false
  connectedLogin := ⟨[], [], []⟩
  loginSensitive := true
  sendSensitive := false
  chatPage := false
  status := literal "Enter a server and username to connect."
  transcript := []
  sidebar := none
  main := .idle
  threads := fun _ => .absent
  events := []
  sockets := 0
  closed := []

namespace NsClientApp

variable (app : NsClientApp)

/-! ## Sections under the lock -/

def takeSocket : NsClientApp :=
  { app with
    socketFd := none
    transportConnected := false
    joined := false
    userId := 0 }

def storeConnection (socket : ℕ) : NsClientApp :=
  { app with
    socketFd := some socket
    transportConnected := true
    joined := false
    userId := 0 }

/-- The lock section of `ns_client_handle_packet`. -/
def acknowledge (packet : NsPacket) : NsClientApp :=
  { app with
    joined := true
    userId := packet.header.senderId }

def setThread (thread : ℕ) (state : ReceiverThread) : NsClientApp :=
  { app with threads := Function.update app.threads thread state }

/-- `ns_client_close_socket`; an invalid descriptor is ignored. -/
def closeSocket (socket : Option ℕ) : NsClientApp :=
  { app with closed := app.closed ++ socket.toList }

def queueUiEvent (event : NsUiEvent) : NsClientApp :=
  { app with events := app.events ++ [event] }

def setStatus (text : List UInt8) : NsClientApp :=
  { app with status := text }

def appendLine (line : List UInt8) : NsClientApp :=
  { app with transcript := app.transcript ++ nsClientAppendLine true line }

/-! ## Receiver threads -/

/-- The events that `ns_client_handle_packet` queues. -/
def packetEvents (thread : ℕ) (packet : NsPacket) : List NsUiEvent :=
  let body := text packet.body
  let senderId := packet.header.senderId
  match NsPacketType.ofCode? packet.header.type with
  | some .ack => [⟨.connected, body, senderId, thread⟩]
  | some .error =>
      let line :=
        (snprintf (nsPacketBodyMax + 64) [literal "Server error: ", body]).1
      [⟨.appendLine, line, 0, thread⟩, ⟨.status, body, 0, thread⟩]
  | some _ => [⟨.appendLine, body, senderId, thread⟩]
  | none =>
      [⟨.appendLine, literal "Received an unknown packet from the server.",
        0, thread⟩]

/-- The next step of a receiver thread.  The last argument is what
`ns_recv_packet` returns: `none` stands for 0 and -1. -/
def receiveLoop (thread : ℕ) (received : Option NsPacket) : NsClientApp :=
  match app.threads thread with
  | .absent => app
  | .starting =>
      match app.socketFd with
      | some socket => app.setThread thread (.receiving socket)
      | none => app.setThread thread .taking
  | .receiving socket =>
      match received with
      | some packet => app.setThread thread (.handling socket packet)
      | none => app.setThread thread .taking
  | .handling socket packet =>
      let handled :=
        if NsPacketType.ofCode? packet.header.type = some .ack then
          app.acknowledge packet
        else app
      handled.setThread thread
        (.posting socket (packetEvents thread packet))
  | .posting socket [] => app.setThread thread (.receiving socket)
  | .posting socket (event :: rest) =>
      (app.queueUiEvent event).setThread thread (.posting socket rest)
  | .taking => app.takeSocket.setThread thread (.closing app.socketFd)
  | .closing socket => (app.closeSocket socket).setThread thread .queueing
  | .queueing =>
      (app.queueUiEvent ⟨.disconnected,
        literal "Disconnected from server.", 0, thread⟩).setThread thread
          .finished
  | .finished => app

/-! ## The main thread -/

def resume : Resume → NsClientApp
  | .connectFailed => { app with loginSensitive := true, main := .idle }
  | .sendFailed =>
      { app with
        sendSensitive := false
        loginSensitive := true
        chatPage := false
        main := .idle }
  | .closeRequest => { app with main := .idle }
  | .disconnected text _ =>
      { app with
        sendSensitive := false
        loginSensitive := true
        chatPage := false
        status := text
        sidebar := none
        main := .idle }

/-- The lock section of `ns_client_join_receiver_thread`. -/
def unlinkReceiverThread (resume : Resume) : NsClientApp :=
  if !app.receiverThreadActive then app.resume resume
  else
    let unlinked :=
      { app with
        receiverThread := none
        receiverThreadActive := false }
    match app.receiverThread with
    | some thread => { unlinked with main := .joining thread resume }
    | none => unlinked.resume resume

/-- The next step inside a callback.  The flag says whether
`ns_send_packet` returns 0, where the step calls it. -/
def continueCallback (sendOk : Bool) : NsClientApp :=
  match app.main with
  | .idle => app
  | .storing socket login packet =>
      { app.storeConnection socket with
        connectedLogin := login.kept
        loginSensitive := false
        sendSensitive := false
        status := literal "Connecting..."
        main := .sendingJoin socket packet }
  | .sendingJoin socket _ =>
      if sendOk then { app with main := .starting socket }
      else
        { app.setStatus (literal "Unable to send the join request.") with
          main := .taking false .connectFailed }
  | .starting socket =>
      { app.setThread socket .starting with
        receiverThreadActive := true
        receiverThread := some socket
        main := .idle }
  | .sending _ _ =>
      if sendOk then { app with main := .idle }
      else
        { app.setStatus (literal "The message could not be sent.") with
          main := .taking false .sendFailed }
  | .taking notifyServer resume =>
      { app.takeSocket with
        main := .leaving app.socketFd notifyServer app.joined app.userId
          resume }
  | .leaving socket _ _ _ resume =>
      { app with main := .closing socket resume }
  | .closing socket resume =>
      { app.closeSocket socket with main := .unlinking resume }
  | .unlinking resume => app.unlinkReceiverThread resume
  | .joining thread resume =>
      if app.threads thread = .finished then app.resume resume else app

/-! ## Callbacks -/

def onSendClicked (message : List UInt8) (now : UInt32) : NsClientApp :=
  if text message = [] then app
  else
    match app.socketFd, app.joined with
    | some socket, true =>
        match nsPacketSet NsPacketType.text.code app.userId now
            (some message) with
        | none =>
            app.setStatus (literal "Messages must be 512 characters or fewer.")
        | some packet => { app with main := .sending socket packet }
    | _, _ =>
        app.setStatus
          (literal "Connect to the server before sending messages.")

/-- `ns_client_validate_login`; `none` stands for `TRUE`, and a message is
the one it leaves as status. -/
def validateLogin (login : LoginForm) : Option (List UInt8) :=
  if text login.host = [] ∨ text login.port = [] ∨
      text login.username = [] then
    some (literal "Enter a host, port, and username.")
  else if (text login.username).length > nsUsernameMax then
    some (literal "Usernames must be 32 characters or fewer.")
  else none

/-- `ns_client_on_connect_clicked` up to the lock.  The second argument is
the error text of `ns_connect_tcp`, or `none` if it returns a socket. -/
def onConnectClicked (login : LoginForm) (failure : Option (List UInt8))
    (now : UInt32) : NsClientApp :=
  match validateLogin login, failure with
  | some message, _ => app.setStatus message
  | none, some error => app.setStatus error
  | none, none =>
      let socket := app.sockets
      let connected := { app with sockets := app.sockets + 1 }
      match nsPacketSet NsPacketType.join.code 0 now
          (some login.username) with
      | none =>
          (connected.closeSocket (some socket)).setStatus
            (literal "That username is too long.")
      | some packet =>
          { connected with main := .storing socket login packet }

def dispatchUiEvent : NsClientApp :=
  match app.events with
  | [] => app
  | event :: rest =>
      let app := { app with events := rest }
      match event.type with
      | .appendLine => app.appendLine event.text
      | .connected =>
          { (app.setStatus event.text).appendLine event.text with
            chatPage := true
            sendSensitive := true
            loginSensitive := false
            sidebar := some app.connectedLogin }
      | .disconnected =>
          { app with
            main := .unlinking (.disconnected event.text event.origin) }
      | .status => app.setStatus event.text

end NsClientApp

/-- What happens next: a callback of the user or of the main loop starts,
the callback goes on, or a receiver thread does. -/
inductive ClientAction where
  | connectClicked (login : LoginForm) (failure : Option (List UInt8))
      (now : UInt32)
  | sendClicked (message : List UInt8) (now : UInt32)
  | closeRequest
  | dispatch
  | proceed (sendOk : Bool)
  | receive (thread : ℕ) (received : Option NsPacket)

/-- `ns_client_send_leave_if_needed` up to the send. -/
def leavePacketIfNeeded (notifyServer wasJoined : Bool)
    (userId now : UInt32) : Option NsPacket :=
  if !notifyServer || !wasJoined then none
  else nsPacketSet NsPacketType.leave.code userId now (some [])

/-- What `ns_send_packet` takes in the step, and on which socket.  The time
is the one in a LEAVE packet, which is built in the same step. -/
def NsClientApp.outgoing (app : NsClientApp) (now : UInt32) :
    ClientAction → Option (ℕ × NsPacket)
  | .proceed true =>
      match app.main with
      | .sendingJoin socket packet => some (socket, packet)
      | .sending socket packet => some (socket, packet)
      | .leaving (some socket) notifyServer wasJoined userId _ =>
          (leavePacketIfNeeded notifyServer wasJoined userId now).map
            fun packet => (socket, packet)
      | _ => none
  | _ => none

/-- What `ns_recv_packet` returns in the step, and on which socket. -/
def NsClientApp.incoming (app : NsClientApp) :
    ClientAction → Option (ℕ × NsPacket)
  | .receive thread (some packet) =>
      match app.threads thread with
      | .receiving socket => some (socket, packet)
      | _ => none
  | _ => none

/-- A callback starts when none is running, and the connect button reacts
while the login controls are sensitive. -/
def NsClientApp.step (app : NsClientApp) : ClientAction → NsClientApp
  | .connectClicked login failure now =>
      if app.main = .idle ∧ app.loginSensitive then
        app.onConnectClicked login failure now
      else app
  | .sendClicked message now =>
      if app.main = .idle then app.onSendClicked message now else app
  | .closeRequest =>
      if app.main = .idle then
        { app with main := .taking true .closeRequest }
      else app
  | .dispatch => if app.main = .idle then app.dispatchUiEvent else app
  | .proceed sendOk => app.continueCallback sendOk
  | .receive thread received => app.receiveLoop thread received

/-- A step starts a callback, goes on with one or with a receiver thread, or
nothing happens. -/
theorem NsClientApp.step_cases {motive : NsClientApp → Prop}
    (app : NsClientApp) (action : ClientAction) (hsame : motive app)
    (hconnect : ∀ login failure now, app.main = .idle →
      app.loginSensitive = true →
        motive (app.onConnectClicked login failure now))
    (hsend : ∀ message now, app.main = .idle →
      motive (app.onSendClicked message now))
    (hclose : app.main = .idle →
      motive { app with main := .taking true .closeRequest })
    (hdispatch : app.main = .idle → motive app.dispatchUiEvent)
    (hproceed : ∀ sendOk, action = .proceed sendOk →
      motive (app.continueCallback sendOk))
    (hreceive : ∀ thread received, action = .receive thread received →
      motive (app.receiveLoop thread received)) :
    motive (app.step action) := by
  cases action with
  | connectClicked login failure now =>
      by_cases henabled : app.main = .idle ∧ app.loginSensitive
      · rw [step, if_pos henabled]
        exact hconnect login failure now henabled.1 henabled.2
      · rw [step, if_neg henabled]
        exact hsame
  | sendClicked message now =>
      by_cases hmain : app.main = .idle
      · rw [step, if_pos hmain]
        exact hsend message now hmain
      · rw [step, if_neg hmain]
        exact hsame
  | closeRequest =>
      by_cases hmain : app.main = .idle
      · rw [step, if_pos hmain]
        exact hclose hmain
      · rw [step, if_neg hmain]
        exact hsame
  | dispatch =>
      by_cases hmain : app.main = .idle
      · rw [step, if_pos hmain]
        exact hdispatch hmain
      · rw [step, if_neg hmain]
        exact hsame
  | proceed sendOk => exact hproceed sendOk rfl
  | receive thread received => exact hreceive thread received rfl

end NodeSignal
