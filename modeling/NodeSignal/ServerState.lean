import NodeSignal.Database
import NodeSignal.SendBuf

/-!
# The state of the server

The slot table, the poll array, the client count and the database, as the
server keeps them, together with what surrounds the program: `errno`, the
readings of the clock still to come, and a record of what has happened.  A
slot is used by one connection after another, so each connection has a
number of its own, given when it is accepted.
-/

namespace NodeSignal

def nsMaxClients : ℕ := 1024

def nsAuthTimeoutSecs : ℤ := 10

abbrev SlotIndex := Fin nsMaxClients

theorem nsMaxClients_pos : 0 < nsMaxClients := by decide

theorem one_lt_nsMaxClients : 1 < nsMaxClients := by decide

theorem two_lt_nsMaxClients : 2 < nsMaxClients := by decide

structure PollFlags where
  pollin : Bool
  pollout : Bool
  pollerr : Bool
  pollhup : Bool
  pollnval : Bool
  deriving DecidableEq

def PollFlags.none : PollFlags := ⟨false, false, false, false, false⟩

def PollFlags.onlyPollin : PollFlags := { PollFlags.none with pollin := true }

structure PollFd where
  fd : NsSocket
  events : PollFlags
  revents : PollFlags
  deriving DecidableEq

def PollFd.unused : PollFd := ⟨-1, .none, .none⟩

structure NsClient where
  socketFd : NsSocket
  active : Bool
  joined : Bool
  userId : UInt32
  username : List UInt8
  connectTime : ℤ
  sendBuf : NsSendBuf

def NsClient.reset : NsClient where
  socketFd := nsInvalidSocket
  active := false
  joined := false
  userId := 0
  username := List.replicate (nsUsernameMax + 1) 0
  connectTime := 0
  sendBuf := .reset

structure NsServerState where
  listenSocket : NsSocket
  database : NsDatabase
  clients : SlotIndex → NsClient
  pollFds : Fin (1 + nsMaxClients) → PollFd
  clientCount : ℤ

def listenIndex : Fin (1 + nsMaxClients) := ⟨0, by decide⟩

def pollIndex (index : SlotIndex) : Fin (1 + nsMaxClients) :=
  Fin.natAdd 1 index

/-- `ns_server_init`; the database is opened after it. -/
def nsServerInit (database : NsDatabase) : NsServerState where
  listenSocket := nsInvalidSocket
  database := database
  clients := fun _ => .reset
  pollFds := fun entry =>
    if entry = listenIndex then ⟨-1, .onlyPollin, .none⟩ else .unused
  clientCount := 0

/-- What the record of a run keeps. -/
inductive Obs where
  /-- `accept()` returned a socket. -/
  | accepted (connection : ℕ) (socketFd : NsSocket)
  /-- A packet was read and goes to its handler. -/
  | dispatched (connection : ℕ) (packet : NsPacket)
  /-- `ns_server_send_error` answers with this packet. -/
  | rejected (connection : ℕ) (packet : NsPacket)
  /-- The packet was accepted into the send buffer. -/
  | enqueued (connection : ℕ) (packet : NsPacket)
  /-- The packet was passed to `ns_server_broadcast`. -/
  | broadcast (packet : NsPacket)
  /-- The send buffer refused the packet of a broadcast. -/
  | overflowed (connection : ℕ) (packet : NsPacket)
  | joined (connection : ℕ) (userId : UInt32) (username : List UInt8)
  /-- `send()` took these bytes. -/
  | sent (connection : ℕ) (bytes : List UInt8)
  /-- `ns_server_disconnect_client` found the slot active. -/
  | disconnected (connection : ℕ)
  | closed (connection : ℕ) (socketFd : NsSocket)
  deriving DecidableEq

/-- The server and its surroundings.  `clamps` counts how often the client
count was set back to 0. -/
structure World extends NsServerState where
  errno : Errno
  clock : Clock
  connection : SlotIndex → ℕ
  connections : ℕ
  trace : List Obs
  clamps : ℕ

/-- The start of the event loop: the database is open and the socket
listens. -/
def World.boot (tables : Tables) (listenSocket : NsSocket) (errno : Errno)
    (clock : Clock) : World :=
  let server := nsServerInit (.opened tables)
  { server with
    listenSocket := listenSocket
    pollFds := Function.update server.pollFds listenIndex
      ⟨listenSocket, .onlyPollin, .none⟩
    errno := errno
    clock := clock
    connection := fun _ => 0
    connections := 0
    trace := []
    clamps := 0 }

theorem pollIndex_ne_listenIndex (index : SlotIndex) :
    pollIndex index ≠ listenIndex := by
  intro heq
  have hval := congrArg Fin.val heq
  simp only [pollIndex, listenIndex, Fin.val_natAdd] at hval
  omega

@[simp] theorem pollIndex_inj {left right : SlotIndex} :
    pollIndex left = pollIndex right ↔ left = right :=
  (Fin.natAdd_injective nsMaxClients 1).eq_iff

/-! ## Elementary changes -/

section Changes

variable (w : World) (index other : SlotIndex)

def World.observe (obs : Obs) : World :=
  { w with trace := w.trace ++ [obs] }

def World.setClient (client : NsClient) : World :=
  { w with clients := Function.update w.clients index client }

def World.setPollFd (pollFd : PollFd) : World :=
  { w with
    pollFds := Function.update w.pollFds (pollIndex index) pollFd }

def World.tick : World := { w with clock := w.clock.rest }

def World.setErrno (reported : Option Errno) : World :=
  { w with errno := reported.getD w.errno }

@[simp] theorem World.setClient_own (client : NsClient) :
    (w.setClient index client).clients index = client :=
  Function.update_self _ _ _

@[simp] theorem World.setClient_other (client : NsClient)
    (hne : other ≠ index) :
    (w.setClient index client).clients other = w.clients other :=
  Function.update_of_ne hne _ _

end Changes

end NodeSignal
