import NodeSignal.ServerState

/-!
# The server

The functions of the server in the order of the source.  A function that
the source calls with a slot index takes the index of a slot; the guards
against `NULL` and against indices outside of the table have no counterpart.
What is printed is left out.
-/

namespace NodeSignal

open BigEndian CStrings RingWindow

/-- `ns_unix_time_now`; the reading is used up by `tick`. -/
def nsUnixTimeNow (w : World) : UInt32 :=
  let now := w.clock 0
  if now < 0 then 0 else UInt32.ofNat now.toNat

def nsServerUpdatePollEvents (w : World) (index : SlotIndex) : World :=
  let pending := nsClientSendBufPending (w.clients index).sendBuf
  w.setPollFd index
    { w.pollFds (pollIndex index) with
      events := { PollFlags.onlyPollin with pollout := pending } }

/-- The `wire` array with the header fields filled in, as both
`ns_server_enqueue_packet` and `ns_server_broadcast` assemble it. -/
def wireHeader (packet : NsPacket) : List UInt8 :=
  let wire := List.replicate (nsPacketHeaderSize + nsPacketBodyMax) 0
  let wire := wire.set 0 packet.header.version
  let wire := wire.set 1 packet.header.type
  let wire := blit wire 2 (bytesOfWord packet.header.senderId)
  let wire := blit wire 6 (bytesOfWord packet.header.timestamp)
  blit wire 10 (bytesOfWord packet.header.bodyLen)

/-- The first `wire_len` bytes of the `wire` array. -/
def assembleWire (packet : NsPacket) : List UInt8 :=
  let bodyLen := packet.header.bodyLen.toNat
  if bodyLen > 0 then
    (blit (wireHeader packet) nsPacketHeaderSize
      (packet.body.take bodyLen)).take (nsPacketHeaderSize + bodyLen)
  else (wireHeader packet).take nsPacketHeaderSize

theorem assembleWire_length_le {packet : NsPacket}
    (hlen : packet.header.bodyLen.toNat ≤ nsPacketBodyMax) :
    (assembleWire packet).length ≤ nsPacketHeaderSize + nsPacketBodyMax := by
  unfold assembleWire
  simp only
  split
  · exact (List.length_take_le _ _).trans (Nat.add_le_add_left hlen _)
  · exact (List.length_take_le _ _).trans (Nat.le_add_right _ _)

def wireBuffer (packet : NsPacket)
    (hlen : packet.header.bodyLen.toNat ≤ nsPacketBodyMax) : WireBuffer :=
  ⟨assembleWire packet, assembleWire_length_le hlen⟩

/-- The append both functions make; `none` stands for -1. -/
def enqueueWire (w : World) (index : SlotIndex) (packet : NsPacket)
    (hlen : packet.header.bodyLen.toNat ≤ nsPacketBodyMax) :
    Option World :=
  let client := w.clients index
  match nsClientEnqueueSend client.sendBuf (wireBuffer packet hlen) with
  | none => none
  | some buf =>
      some
        ((w.setClient index { client with sendBuf := buf }).observe
          (.enqueued (w.connection index) packet))

/-- `ns_server_enqueue_packet`; `none` stands for -1. -/
def nsServerEnqueuePacket (w : World) (index : SlotIndex)
    (packet : NsPacket) : Option World :=
  if hlen : packet.header.bodyLen.toNat ≤ nsPacketBodyMax then
    match enqueueWire w index packet hlen with
    | none => none
    | some w => some (nsServerUpdatePollEvents w index)
  else none

/-- `ns_server_find_free_slot`; `none` stands for -1. -/
def nsServerFindFreeSlot (w : World) : Option SlotIndex :=
  (List.finRange nsMaxClients).find? fun index => !(w.clients index).active

theorem nsServerFindFreeSlot_eq_some {w : World} {index : SlotIndex}
    (hfree : nsServerFindFreeSlot w = some index) :
    (w.clients index).active = false := by
  have hinactive := List.find?_some hfree
  simpa using hinactive

def nsServerUsernameInUse (w : World) (username : List UInt8)
    (skipIndex : SlotIndex) : Bool :=
  (List.finRange nsMaxClients).any fun index =>
    let client := w.clients index
    if !client.active || !client.joined || index = skipIndex then false
    else sameText client.username username

def nsServerSendError (w : World) (index : SlotIndex) (message : String) :
    World :=
  if !(w.clients index).active then w
  else
    match nsPacketSet NsPacketType.error.code 0 (nsUnixTimeNow w)
        (some (literal message)) with
    | none => w.tick
    | some packet =>
        let w := w.tick.observe (.rejected (w.connection index) packet)
        (nsServerEnqueuePacket w index packet).getD w

/-! ## Broadcasting and disconnecting

The two functions call each other, the broadcast with `announce_leave` off,
so that the calls nest at most three deep.  Each body takes the other
function as an argument. -/

/-- What `ns_socket_close` does; an invalid descriptor is ignored. -/
def closingNotes (client : NsClient) (connection : ℕ) : List Obs :=
  if nsSocketIsValid client.socketFd then
    [.closed connection client.socketFd]
  else []

/-- The end of `ns_server_disconnect_client`, from the closing of the socket
on.  Nobody looks at what `ns_socket_shutdown` returns, and nothing reads the
`errno` that it leaves when it fails before the event is over: an `accept()`
that fails with this `errno` afterwards leads to the same state. -/
def releaseSlot (w : World) (index : SlotIndex) : World :=
  let clientCount := w.clientCount - 1
  { (w.setPollFd index .unused).setClient index .reset with
    trace := w.trace ++ closingNotes (w.clients index) (w.connection index)
    clientCount := if clientCount < 0 then 0 else clientCount
    clamps := if clientCount < 0 then w.clamps + 1 else w.clamps }

def leaveText (username : List UInt8) : List UInt8 :=
  (snprintf (nsPacketBodyMax + 1)
    [literal "* ", text username, literal " left the chat"]).1

def disconnectBody
    (broadcast : World → NsPacket → Option SlotIndex → World)
    (w : World) (index : SlotIndex) (announceLeave : Bool) : World :=
  let client := w.clients index
  if !client.active then w
  else
    let w := w.observe (.disconnected (w.connection index))
    let w :=
      if announceLeave && client.joined then
        match nsPacketSet NsPacketType.leave.code client.userId
            (nsUnixTimeNow w) (some (leaveText client.username)) with
        | some leavePacket => broadcast w.tick leavePacket (some index)
        | none => w.tick
      else w
    releaseSlot w index

def broadcastVisit
    (disconnectClient : World → SlotIndex → Bool → World)
    (packet : NsPacket)
    (hlen : packet.header.bodyLen.toNat ≤ nsPacketBodyMax)
    (excludeIndex : Option SlotIndex) (w : World) (index : SlotIndex) :
    World :=
  let client := w.clients index
  if !client.active || !client.joined || some index = excludeIndex then w
  else
    match enqueueWire w index packet hlen with
    | none =>
        disconnectClient
          (w.observe (.overflowed (w.connection index) packet)) index false
    | some w => nsServerUpdatePollEvents w index

def broadcastBody
    (disconnectClient : World → SlotIndex → Bool → World)
    (w : World) (packet : NsPacket) (excludeIndex : Option SlotIndex) :
    World :=
  if hlen : packet.header.bodyLen.toNat ≤ nsPacketBodyMax then
    (List.finRange nsMaxClients).foldl
      (broadcastVisit disconnectClient packet hlen excludeIndex)
      (w.observe (.broadcast packet))
  else w

def nsServerBroadcast : World → NsPacket → Option SlotIndex → World :=
  broadcastBody (disconnectBody fun w _ _ => w)

def nsServerDisconnectClient : World → SlotIndex → Bool → World :=
  disconnectBody nsServerBroadcast

/-- The two functions are the two bodies that call each other. -/
theorem nsServerBroadcast_eq :
    nsServerBroadcast = broadcastBody nsServerDisconnectClient := rfl

/-! ## Handlers -/

inductive NsHandle where
  | ok
  | disconnect
  deriving DecidableEq

def nsServerJoinValidate (w : World) (index : SlotIndex)
    (packet : NsPacket) : Bool × World :=
  if (w.clients index).joined then
    (false, nsServerSendError w index
      "This connection already joined the chat.")
  else if packet.header.bodyLen.toNat = 0 ∨
      packet.header.bodyLen.toNat > nsUsernameMax then
    (false, nsServerSendError w index
      "Usernames must be between 1 and 32 characters.")
  else if nsServerUsernameInUse w packet.body index then
    (false, nsServerSendError w index "That username is already active.")
  else (true, w)

/-- The `username` array after the copy of the announced body and the
terminator. -/
def storeUsername (username : List UInt8) (packet : NsPacket) :
    List UInt8 :=
  let bodyLen := packet.header.bodyLen.toNat
  (blit username 0 (packet.body.take bodyLen)).set bodyLen 0

def World.seated (w : World) (index : SlotIndex) (userId : UInt32)
    (username : List UInt8) : World :=
  (w.setClient index
    { w.clients index with
      joined := true
      userId := userId
      username := username }).observe
    (.joined (w.connection index) userId (text username))

def statusText (username : List UInt8) : List UInt8 :=
  (snprintf (nsPacketBodyMax + 1)
    [literal "Connected as ", text username]).1

def joinText (username : List UInt8) : List UInt8 :=
  (snprintf (nsPacketBodyMax + 1)
    [literal "* ", text username, literal " joined the chat"]).1

/-- The part of `ns_server_join_finalize` after the database call. -/
def welcomeClient (w : World) (index : SlotIndex) (userId : UInt32)
    (username : List UInt8) : NsHandle × World :=
  let w := w.seated index userId username
  match nsPacketSet NsPacketType.ack.code userId (nsUnixTimeNow w)
      (some (statusText username)) with
  | none => (.disconnect, w.tick)
  | some ackPacket =>
      match nsServerEnqueuePacket w.tick index ackPacket with
      | none => (.disconnect, w.tick)
      | some w =>
          match nsPacketSet NsPacketType.join.code userId
              (nsUnixTimeNow w) (some (joinText username)) with
          | some joinPacket =>
              (.ok, nsServerBroadcast w.tick joinPacket none)
          | none => (.ok, w.tick)

def nsServerJoinFinalize (w : World) (index : SlotIndex)
    (packet : NsPacket) (faults : SqliteFaults) : NsHandle × World :=
  let registered :=
    nsDbGetOrCreateUser w.database faults w.clock packet.body
  let w :=
    { w with database := registered.2.1, clock := registered.2.2 }
  match registered.1 with
  | none =>
      (.disconnect, nsServerSendError w index
        "The server could not register that username.")
  | some userId =>
      welcomeClient w index userId
        (storeUsername (w.clients index).username packet)

def nsServerHandleJoin (w : World) (index : SlotIndex) (packet : NsPacket)
    (faults : SqliteFaults) : NsHandle × World :=
  let validated := nsServerJoinValidate w index packet
  if !validated.1 then (.disconnect, validated.2)
  else nsServerJoinFinalize validated.2 index packet faults

/-- `ns_server_build_display_text`; `none` stands for `false`. -/
def nsServerBuildDisplayText (client : NsClient) (packet : NsPacket)
    (outSize : ℕ) : Option (List UInt8) :=
  let out := snprintf outSize
    [text client.username, literal ": ", text packet.body]
  if out.2 ≥ outSize then none else some out.1

def nsServerHandleText (w : World) (index : SlotIndex) (packet : NsPacket)
    (faults : SqliteFaults) : NsHandle × World :=
  let client := w.clients index
  let timestamp := nsUnixTimeNow w
  let w := w.tick
  if !client.joined then
    (.disconnect, nsServerSendError w index
      "Join the chat before sending messages.")
  else if packet.header.bodyLen.toNat = 0 then
    (.ok, nsServerSendError w index "Messages cannot be empty.")
  else
    match nsServerBuildDisplayText client packet (nsPacketBodyMax + 1) with
    | none =>
        (.ok, nsServerSendError w index
          "That message is too long once the username is added.")
    | some displayText =>
        let stored := nsDbInsertMessage w.database faults client.userId
          packet.body timestamp
        let w := { w with database := stored.2 }
        if !stored.1 then
          (.disconnect, nsServerSendError w index
            "The server could not store that message.")
        else
          match nsPacketSet NsPacketType.text.code client.userId timestamp
              (some displayText) with
          | none =>
              (.ok, nsServerSendError w index "That message is too long.")
          | some broadcastPacket =>
              (.ok, nsServerBroadcast w broadcastPacket none)

/-- What `accept()` does.  The outcomes are those of the `send()` calls on
the new socket that a full server makes. -/
inductive AcceptOutcome where
  | connection (socketFd : NsSocket) (outcomes : List SendOutcome)
  | failed (errno : Errno)

/-- The branch of `ns_server_accept_client` for a full server. -/
def turnDown (w : World) (connection : ℕ) (socketFd : NsSocket)
    (outcomes : List SendOutcome) : World :=
  let w :=
    match nsPacketSet NsPacketType.error.code 0 (nsUnixTimeNow w)
        (some (literal "The server is full right now.")) with
    | none => w.tick
    | some errorPacket =>
        let report := nsSendPacket socketFd errorPacket outcomes
        (w.tick.setErrno report.reported).observe
          (.sent connection report.sent)
  w.observe (.closed connection socketFd)

/-- The branch of `ns_server_accept_client` for a free slot. -/
def occupySlot (w : World) (connection : ℕ) (socketFd : NsSocket)
    (index : SlotIndex) : World :=
  let client :=
    { NsClient.reset with
      socketFd := socketFd
      active := true
      connectTime := w.clock 0 }
  let w := (w.tick.setClient index client).setPollFd index
    ⟨socketFd, .onlyPollin, .none⟩
  { w with
    clientCount := w.clientCount + 1
    connection := Function.update w.connection index connection }

def nsServerAcceptClient (w : World) (outcome : AcceptOutcome) : World :=
  match outcome with
  | .failed errno => { w with errno := errno }
  | .connection socketFd outcomes =>
      if !nsSocketIsValid socketFd then w
      else
        let connection := w.connections
        let w :=
          { w with connections := connection + 1 }.observe
            (.accepted connection socketFd)
        match nsServerFindFreeSlot w with
        | none => turnDown w connection socketFd outcomes
        | some index => occupySlot w connection socketFd index

def dispatchPacket (w : World) (index : SlotIndex) (packet : NsPacket)
    (faults : SqliteFaults) : World :=
  match NsPacketType.ofCode? packet.header.type with
  | some .join =>
      let handled := nsServerHandleJoin w index packet faults
      if handled.1 ≠ .ok then
        nsServerDisconnectClient handled.2 index false
      else handled.2
  | some .text =>
      let handled := nsServerHandleText w index packet faults
      if handled.1 ≠ .ok then
        nsServerDisconnectClient handled.2 index false
      else handled.2
  | some .leave => nsServerDisconnectClient w index true
  | _ =>
      nsServerDisconnectClient
        (nsServerSendError w index "Unsupported packet type.") index false

/-- `ns_server_handle_client_readable`, with what is left to read. -/
def nsServerHandleClientReadable (w : World) (index : SlotIndex)
    (sock : RecvSocket) (faults : SqliteFaults) : World × RecvSocket :=
  let report := nsRecvPacket (w.clients index).socketFd sock
  let joined := (w.clients index).joined
  let w := w.setErrno report.reported
  match report.result with
  | .closed => (nsServerDisconnectClient w index joined, report.sock)
  | .error =>
      if w.errno.wouldBlock then (w, report.sock)
      else (nsServerDisconnectClient w index joined, report.sock)
  | .ok packet =>
      (dispatchPacket
        (w.observe (.dispatched (w.connection index) packet)) index packet
        faults, report.sock)

/-- What `ns_server_reap_auth_timeouts` does at one slot. -/
def reapVisit (now : ℤ) (w : World) (index : SlotIndex) : World :=
  let client := w.clients index
  if !client.active || client.joined then w
  else if now - client.connectTime ≥ nsAuthTimeoutSecs then
    nsServerDisconnectClient
      (nsServerSendError w index "Authentication timeout.") index false
  else w

def nsServerReapAuthTimeouts (w : World) : World :=
  (List.finRange nsMaxClients).foldl (reapVisit (w.clock 0)) w.tick

/-! ## The event loop -/

def World.flushed (w : World) (index : SlotIndex)
    (outcomes : List SendOutcome) : World :=
  let client := w.clients index
  let report := nsClientDrainSend outcomes client.sendBuf
  ((w.setClient index { client with sendBuf := report.buf }).observe
    (.sent (w.connection index) report.sent)).setErrno report.reported

/-- The `POLLOUT` branch of the loop, if every `send()` of the drain
returns. -/
def drainSlot (w : World) (index : SlotIndex)
    (outcomes : List SendOutcome) : World × NsHandle :=
  let client := w.clients index
  let flushed := w.flushed index outcomes
  if (nsClientDrainSend outcomes client.sendBuf).status ≠ 0 then
    (nsServerDisconnectClient flushed index client.joined, .disconnect)
  else (nsServerUpdatePollEvents flushed index, .ok)

/-- What `poll()` writes: nothing is reported for an entry without a
descriptor. -/
def pollRevents (w : World) (revents : Fin (1 + nsMaxClients) → PollFlags) :
    World :=
  { w with
    pollFds := fun entry =>
      { w.pollFds entry with
        revents :=
          if (w.pollFds entry).fd = -1 then .none else revents entry } }

structure SlotCalls where
  outcomes : List SendOutcome
  sock : RecvSocket
  faults : SqliteFaults

/-- The `POLLERR`, `POLLHUP` and `POLLNVAL` branch of the loop. -/
def checkSlot (w : World) (index : SlotIndex) : World :=
  let revents := (w.pollFds (pollIndex index)).revents
  if revents.pollerr || revents.pollhup || revents.pollnval then
    nsServerDisconnectClient w index (w.clients index).joined
  else w

/-- The `POLLIN` branch of the loop and what follows it. -/
def readSlot (w : World) (index : SlotIndex) (calls : SlotCalls) : World :=
  let w :=
    if (w.pollFds (pollIndex index)).revents.pollin then
      (nsServerHandleClientReadable w index calls.sock calls.faults).1
    else w
  checkSlot w index

def serveSlot (calls : SlotIndex → SlotCalls) (w : World)
    (index : SlotIndex) : World :=
  let revents := (w.pollFds (pollIndex index)).revents
  if !(w.clients index).active || revents = .none then w
  else if revents.pollout then
    let drained := drainSlot w index (calls index).outcomes
    if drained.2 = .disconnect then drained.1
    else readSlot drained.1 index (calls index)
  else readSlot w index (calls index)

structure PassCalls where
  pollResult : ℕ
  revents : Fin (1 + nsMaxClients) → PollFlags
  acceptOutcome : AcceptOutcome
  slots : SlotIndex → SlotCalls

/-- One pass of the loop in `ns_server_run` after a successful `poll()`, if
every `send()` in it returns. -/
def nsServerRunPass (w : World) (calls : PassCalls) : World :=
  let w := nsServerReapAuthTimeouts (pollRevents w calls.revents)
  if calls.pollResult = 0 then w
  else
    let w :=
      if (w.pollFds listenIndex).revents.pollin then
        nsServerAcceptClient w calls.acceptOutcome
      else w
    (List.finRange nsMaxClients).foldl (serveSlot calls.slots) w

/-- The parts of a pass, one system call or one handler each. -/
inductive Event where
  | poll (revents : Fin (1 + nsMaxClients) → PollFlags)
  | sweep
  | accept (outcome : AcceptOutcome)
  | drain (index : SlotIndex) (outcomes : List SendOutcome)
  | readable (index : SlotIndex) (sock : RecvSocket)
      (faults : SqliteFaults)
  | pollError (index : SlotIndex)

/-- The loop reads and drains active slots only. -/
def World.step (w : World) : Event → World
  | .poll revents => pollRevents w revents
  | .sweep => nsServerReapAuthTimeouts w
  | .accept outcome => nsServerAcceptClient w outcome
  | .drain index outcomes =>
      if (w.clients index).active then (drainSlot w index outcomes).1
      else w
  | .readable index sock faults =>
      if (w.clients index).active then
        (nsServerHandleClientReadable w index sock faults).1
      else w
  | .pollError index =>
      nsServerDisconnectClient w index (w.clients index).joined

end NodeSignal
