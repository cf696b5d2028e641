import NodeSignal.Broadcast
import NodeSignal.WireGrammar
import Mathlib.Logic.Relation

/-!
# The moves of the server

Whatever an event does to the server is a sequence of the moves below: a
client is answered, dropped, seated, drained, or something is broadcast.
Each move is one thing that happens to the chat, so that an invariant has to
be checked once for each of them.
-/

namespace NodeSignal

open CStrings

/-! ## The changes the moves make -/

section Changes

variable (w : World) (index : SlotIndex)

/-- An ERROR packet for the client, if its buffer takes it. -/
def World.answered (packet : NsPacket) : World :=
  (nsServerEnqueuePacket
    (w.observe (.rejected (w.connection index) packet)) index packet).getD
      (w.observe (.rejected (w.connection index) packet))

def World.dropped : World :=
  releaseSlot (w.observe (.disconnected (w.connection index))) index

/-- The client is dropped after its LEAVE notice went to the others. -/
def World.departed (notice : NsPacket) : World :=
  releaseSlot
    (nsServerBroadcast (w.observe (.disconnected (w.connection index)))
      notice (some index)) index

def World.greeted (socketFd : NsSocket) : World :=
  { w with connections := w.connections + 1 }.observe
    (.accepted w.connections socketFd)

theorem World.seated_clients (userId : UInt32) (username : List UInt8) :
    (w.seated index userId username).clients =
      Function.update w.clients index
        { w.clients index with
          joined := true
          userId := userId
          username := username } := rfl

theorem World.flushed_clients (outcomes : List SendOutcome) :
    (w.flushed index outcomes).clients =
      Function.update w.clients index
        { w.clients index with
          sendBuf := (nsClientDrainSend outcomes
            (w.clients index).sendBuf).buf } := rfl

theorem occupySlot_clients (connection : ℕ) (socketFd : NsSocket) :
    (occupySlot w connection socketFd index).clients =
      Function.update w.clients index
        { NsClient.reset with
          socketFd := socketFd
          active := true
          connectTime := w.clock 0 } := rfl

end Changes

/-- One thing that happens.  The parameter restricts the descriptors that
`accept()` may return. -/
inductive Move (allow : World → NsSocket → Prop) : World → World → Prop
  | errno (w : World) (errno : Errno) :
      Move allow w { w with errno := errno }
  | clock (w : World) (clock : Clock) :
      Move allow w { w with clock := clock }
  | polled (w : World) (revents : Fin (1 + nsMaxClients) → PollFlags) :
      Move allow w (pollRevents w revents)
  | dispatched (w : World) (index : SlotIndex) (packet : NsPacket)
      (hactive : (w.clients index).active) :
      Move allow w (w.observe (.dispatched (w.connection index) packet))
  | rebuked (w : World) (index : SlotIndex) (packet : NsPacket)
      (hactive : (w.clients index).active)
      (hjoined : (w.clients index).joined)
      (htype : packet.header.type = NsPacketType.error.code)
      (hlen : packet.header.bodyLen.toNat ≤ nsPacketBodyMax) :
      Move allow w (w.answered index packet)
  | turnedAway (w : World) (index : SlotIndex) (packet : NsPacket)
      (hactive : (w.clients index).active)
      (hjoined : (w.clients index).joined = false)
      (htype : packet.header.type = NsPacketType.error.code)
      (hlen : packet.header.bodyLen.toNat ≤ nsPacketBodyMax) :
      Move allow w ((w.answered index packet).dropped index)
  | dropped (w : World) (index : SlotIndex)
      (hactive : (w.clients index).active) :
      Move allow w (w.dropped index)
  | departed (w : World) (index : SlotIndex) (timestamp : UInt32)
      (notice : NsPacket)
      (hactive : (w.clients index).active)
      (hjoined : (w.clients index).joined)
      (hnotice : nsPacketSet NsPacketType.leave.code
        (w.clients index).userId timestamp
        (some (leaveText (w.clients index).username)) = some notice) :
      Move allow w (w.departed index notice)
  | refused (w : World) (socketFd : NsSocket)
      (outcomes : List SendOutcome)
      (hvalid : nsSocketIsValid socketFd) (hallow : allow w socketFd) :
      Move allow w
        (turnDown (w.greeted socketFd) w.connections socketFd outcomes)
  | occupied (w : World) (socketFd : NsSocket) (index : SlotIndex)
      (hfree : (w.clients index).active = false)
      (hvalid : nsSocketIsValid socketFd) (hallow : allow w socketFd) :
      Move allow w
        (occupySlot (w.greeted socketFd) w.connections socketFd index)
  | drained (w : World) (index : SlotIndex)
      (outcomes : List SendOutcome)
      (hactive : (w.clients index).active) :
      Move allow w
        (nsServerUpdatePollEvents (w.flushed index outcomes) index)
  | registered (w : World) (database : NsDatabase)
      (hgrow : w.database.UsersGrow database) :
      Move allow w { w with database := database }
  | joined (w : World) (index : SlotIndex) (username : List UInt8)
      (userId timestamp timestamp' : UInt32) (ack notice : NsPacket)
      (hlen : ack.header.bodyLen.toNat ≤ nsPacketBodyMax)
      (buf : NsSendBuf)
      (hactive : (w.clients index).active)
      (hjoined : (w.clients index).joined = false)
      (hunused : ∀ other, other ≠ index → (w.clients other).active →
        (w.clients other).joined →
          text (w.clients other).username ≠ text username)
      (huser : ∃ row ∈ w.database.tables.users,
        row.username = text username ∧ userId = UInt32.ofNat row.id)
      (hshort : (text username).length ≤ nsUsernameMax)
      (hack : nsPacketSet NsPacketType.ack.code userId timestamp
        (some (statusText username)) = some ack)
      (henqueue : nsClientEnqueueSend (w.clients index).sendBuf
        (wireBuffer ack hlen) = some buf)
      (hnotice : nsPacketSet NsPacketType.join.code userId timestamp'
        (some (joinText username)) = some notice) :
      Move allow w
        (nsServerBroadcast
          ((w.seated index userId username).appended index ack buf)
          notice none)
  | texted (w : World) (index : SlotIndex) (database : NsDatabase)
      (row : MessageRow) (timestamp : UInt32) (packet : NsPacket)
      (hactive : (w.clients index).active)
      (hjoined : (w.clients index).joined)
      (hsaved : database.saved = w.database.saved)
      (husers : database.tables.users = w.database.tables.users)
      (hseq : database.tables.usersSeq = w.database.tables.usersSeq)
      (hmessages : database.tables.messages =
        w.database.tables.messages ++ [row])
      (hsender : row.senderId = (w.clients index).userId.toNat)
      (hbody : 0 ∉ row.body)
      (hsentAt : row.sentAt = timestamp.toNat)
      (hpacket : nsPacketSet NsPacketType.text.code
        (w.clients index).userId timestamp
        (some (text (w.clients index).username ++ literal ": " ++
          row.body)) = some packet) :
      Move allow w
        (nsServerBroadcast { w with database := database } packet none)

abbrev Moves (allow : World → NsSocket → Prop) :=
  Relation.ReflTransGen (Move allow)

end NodeSignal
