import NodeSignal.ClientStreams
import NodeSignal.Deliveries
import NodeSignal.Lifecycles
import NodeSignal.Simulations

/-!
# The network on bytes

The channels of `Network` hand over packets.  Here they hand over bytes, in
whatever parts the kernel pleases: a sending call may stop in the middle of a
packet, a receiving call may find any part of what is on its way, and the
server reads without blocking.  As long as no drain overruns its ring and no
wakeup of the server is content with part of a packet, every step of this
network is a step of the other one.
-/

namespace NodeSignal

open CStrings Relation Runs Simulations

/-- The network together with the bytes that a client has handed to the
kernel and taken from it, for each of its sockets, and those that the server
has taken from each connection. -/
structure ByteNetwork (ι : Type*) extends Network ι where
  written : ι × ℕ → List UInt8
  consumed : ι × ℕ → List UInt8
  taken : ℕ → List UInt8

/-- A callback starts, the main thread goes on, with what happens to the
`send()` calls it makes, a receiver thread goes on, with what its `recv()`
calls find, or the server acts. -/
inductive ByteAction (ι : Type*) where
  | callback (client : ι) (now : UInt32) (action : ClientAction)
  | proceed (client : ι) (now : UInt32) (outcomes : List SendOutcome)
  | receive (client : ι) (thread : ℕ) (sock : RecvSocket)
  | accept (client : ι) (socket : ℕ) (socketFd : NsSocket)
      (outcomes : List SendOutcome)
  | server (event : Event)

def ClientAction.isCallback : ClientAction → Bool
  | .proceed _ => false
  | .receive _ _ => false
  | _ => true

/-- The bytes that a receiving call has taken from the pending ones. -/
def RecvSocket.taken (sock rest : RecvSocket) : List UInt8 :=
  sock.pending.take (sock.pending.length - rest.pending.length)

def ByteNetwork.boot (ι : Type*) (tables : Tables) (listenSocket : NsSocket)
    (errno : Errno) (clock : Clock) : ByteNetwork ι where
  toNetwork := .boot ι tables listenSocket errno clock
  written := fun _ => []
  consumed := fun _ => []
  taken := fun _ => []

/-- What the server finds on a connection, and what it leaves there. -/
def World.receiving (w : World) :
    Event → Option (ℕ × RecvSocket × RecvSocket)
  | .readable index sock faults =>
      if (w.clients index).active then
        some (w.connection index, sock,
          (nsServerHandleClientReadable w index sock faults).2)
      else none
  | _ => none

namespace ByteNetwork

variable {ι : Type*} [DecidableEq ι] (net : ByteNetwork ι)

/-- The call of `ns_send_packet` that the main thread is about to make. -/
def sending (client : ι) (now : UInt32) (outcomes : List SendOutcome) :
    Option (ℕ × SendReport) :=
  ((net.stations client).app.outgoing now (.proceed true)).map fun entry =>
    (entry.1, nsSendPacket entry.1 entry.2 outcomes)

def sendOk (client : ι) (now : UInt32) (outcomes : List SendOutcome) :
    Bool :=
  match net.sending client now outcomes with
  | some (_, report) => report.status = 0
  | none => true

/-- The call of `ns_recv_packet` that the thread is about to make. -/
def reading (client : ι) (thread : ℕ) (sock : RecvSocket) :
    Option (ℕ × RecvPacketReport) :=
  match (net.stations client).app.threads thread with
  | .receiving socket => some (socket, nsRecvPacket socket sock)
  | _ => none

def heardPacket (client : ι) (thread : ℕ) (sock : RecvSocket) :
    Option NsPacket :=
  match net.reading client thread sock with
  | some (_, ⟨.ok packet, _, _⟩) => some packet
  | _ => none

/-- The bytes that the server's kernel has been given for the socket. -/
def arrived (client : ι) (socket : ℕ) : List UInt8 :=
  match net.links (client, socket) with
  | some connection => handedOver connection net.server.trace
  | none => []

/-- The bytes that a call finds are the next ones of their stream. -/
def Carries : ByteAction ι → Prop
  | .callback _ _ action => action.isCallback
  | .proceed _ _ _ => True
  | .receive client thread sock =>
      ∀ entry ∈ net.reading client thread sock,
        net.consumed (client, entry.1) ++ sock.pending <+:
          net.arrived client entry.1
  | .accept client socket socketFd _ =>
      socket < (net.stations client).app.sockets ∧
        net.links (client, socket) = none ∧ nsSocketIsValid socketFd
  | .server event =>
      ∀ entry ∈ net.server.receiving event, ∀ peer ∈ net.peers entry.1,
        net.taken entry.1 ++ entry.2.1.pending <+: net.written peer

instance : (action : ByteAction ι) → Decidable (net.Carries action)
  | .callback _ _ _ => inferInstanceAs (Decidable (_ = _))
  | .proceed _ _ _ => inferInstanceAs (Decidable True)
  | .receive _ _ _ => inferInstanceAs (Decidable (∀ _ ∈ _, _))
  | .accept _ _ _ _ => inferInstanceAs (Decidable (_ ∧ _ ∧ _))
  | .server _ => inferInstanceAs (Decidable (∀ _ ∈ _, ∀ _ ∈ _, _))

/-- The action as the other network has it. -/
def packetAction : ByteAction ι → NetworkAction ι
  | .callback client now action => .client client now action
  | .proceed client now outcomes =>
      .client client now (.proceed (net.sendOk client now outcomes))
  | .receive client thread sock =>
      .client client 0 (.receive thread (net.heardPacket client thread sock))
  | .accept client socket socketFd outcomes =>
      .accept client socket socketFd outcomes
  | .server event => .server event

/-- Bytes go to the end of one of the streams. -/
def extend {κ : Type*} [DecidableEq κ] (streams : κ → List UInt8) :
    Option (κ × List UInt8) → κ → List UInt8
  | none => streams
  | some (stream, bytes) =>
      Function.update streams stream (streams stream ++ bytes)

theorem extend_self {κ : Type*} [DecidableEq κ]
    (streams : κ → List UInt8) (stream : κ) (bytes : List UInt8) :
    extend streams (some (stream, bytes)) stream =
      streams stream ++ bytes :=
  Function.update_self _ _ _

theorem extend_of_ne {κ : Type*} [DecidableEq κ]
    (streams : κ → List UInt8) {stream other : κ} (bytes : List UInt8)
    (hne : other ≠ stream) :
    extend streams (some (stream, bytes)) other = streams other :=
  Function.update_of_ne hne _ _

def writing : ByteAction ι → Option ((ι × ℕ) × List UInt8)
  | .proceed client now outcomes =>
      (net.sending client now outcomes).map fun entry =>
        ((client, entry.1), entry.2.sent)
  | _ => none

def consuming : ByteAction ι → Option ((ι × ℕ) × List UInt8)
  | .receive client thread sock =>
      (net.reading client thread sock).map fun entry =>
        ((client, entry.1), sock.taken entry.2.sock)
  | _ => none

def taking : ByteAction ι → Option (ℕ × List UInt8)
  | .server event =>
      (net.server.receiving event).map fun entry =>
        (entry.1, entry.2.1.taken entry.2.2)
  | _ => none

def after (action : ByteAction ι) : ByteNetwork ι where
  toNetwork := net.toNetwork.after (net.packetAction action)
  written := extend net.written (net.writing action)
  consumed := extend net.consumed (net.consuming action)
  taken := extend net.taken (net.taking action)

def step (action : ByteAction ι) : ByteNetwork ι :=
  if net.Carries action then net.after action else net

/-- No wakeup of the server is content with a part of a packet: what it
finds is nothing or at least a packet, or the client is disconnected. -/
def Whole (w : World) (peers : ℕ → Option (ι × ℕ)) : Event → Prop
  | .readable index sock faults =>
      (w.clients index).active → (peers (w.connection index)).isSome →
        sock.pending = [] ∨ scan sock.pending ≠ .more ∨
          ¬ ((w.step (.readable index sock faults)).clients index).active
  | _ => True

def Fits : ByteAction ι → Prop
  | .server event =>
      event.Fits net.server ∧ Whole net.server net.peers event
  | _ => True

end ByteNetwork

end NodeSignal
