import NodeSignal.Framing
import NodeSignal.SenderIds
import NodeSignal.Violations

/-!
# The bytes behind a wakeup

Which bytes a wakeup finds depends on the wakeups before it.  The part of a
packet that has been read when `recv()` reports `EAGAIN` is lost, and what
follows it is then taken for a header, whichever field of the packet it is.
`sender_id` and `timestamp` therefore stay unread as long as no wakeup cuts a
packet.
-/

namespace NodeSignal

open Runs

/-- The server, and what the client of each connection has sent or will send
and the server has not read. -/
structure Incoming where
  world : World
  unread : ℕ → List UInt8

def Event.isReadable : Event → Bool
  | .readable _ _ _ => true
  | _ => false

/-- What happens to the server, the bytes apart: a wakeup for a client finds
that so many of its bytes have arrived. -/
inductive Occasion where
  | readable (index : SlotIndex) (arrived : ℕ) (ending : RecvEnd)
      (chunks : List ℕ) (faults : SqliteFaults)
  | other (event : Event) (hother : event.isReadable = false)

namespace Incoming

def boot (tables : Tables) (listenSocket : NsSocket) (errno : Errno)
    (clock : Clock) (unread : ℕ → List UInt8) : Incoming :=
  ⟨World.boot tables listenSocket errno clock, unread⟩

variable (incoming : Incoming)

def stream (index : SlotIndex) : List UInt8 :=
  incoming.unread (incoming.world.connection index)

def event : Occasion → Event
  | .readable index arrived ending chunks faults =>
      .readable index
        ⟨(incoming.stream index).take arrived, ending, chunks⟩ faults
  | .other event _ => event

/-- What the wakeup leaves of the bytes of its client, which are gone with
the connection. -/
def left (index : SlotIndex) (arrived : ℕ) (sock : RecvSocket)
    (faults : SqliteFaults) : List UInt8 :=
  let served := nsServerHandleClientReadable incoming.world index sock faults
  if (served.1.clients index).active then
    served.2.pending ++ (incoming.stream index).drop arrived
  else []

def leaves : Occasion → ℕ → List UInt8
  | .readable index arrived ending chunks faults =>
      if (incoming.world.clients index).active then
        Function.update incoming.unread (incoming.world.connection index)
          (incoming.left index arrived
            ⟨(incoming.stream index).take arrived, ending, chunks⟩ faults)
      else incoming.unread
  | .other _ _ => incoming.unread

def step (occasion : Occasion) : Incoming where
  world := incoming.world.step (incoming.event occasion)
  unread := incoming.leaves occasion

end Incoming

/-- `errno` after a read that found too few bytes. -/
def RecvEnd.errno (ending : RecvEnd) (entry : Errno) : Errno :=
  match ending with
  | .eof => entry
  | .failed errno => errno

/-- The read takes a part of a packet and not the rest, which is there or is
to come, and `errno` keeps the client connected. -/
def CutsPacket (stream : List UInt8) (arrived : ℕ) (ending : RecvEnd)
    (entry : Errno) : Prop :=
  scan (stream.take arrived) = .more ∧ stream.take arrived ≠ [] ∧
      arrived < stream.length ∧ (ending.errno entry).wouldBlock ∨
    scan (stream.take arrived) = .refused ∧
      (headerFields stream).bodyLen ≠ 0 ∧ entry.wouldBlock

instance (stream : List UInt8) (arrived : ℕ) (ending : RecvEnd)
    (entry : Errno) : Decidable (CutsPacket stream arrived ending entry) :=
  inferInstanceAs (Decidable (_ ∨ _))

/-- The occasion cuts no packet. -/
def Incoming.Whole (incoming : Incoming) : Occasion → Prop
  | .readable index arrived ending _ _ =>
      (incoming.world.clients index).active →
        ¬ CutsPacket (incoming.stream index) arrived ending
          incoming.world.errno
  | .other _ _ => True

instance (incoming : Incoming) :
    (occasion : Occasion) → Decidable (incoming.Whole occasion)
  | .readable _ _ _ _ _ => inferInstanceAs (Decidable (_ → ¬ _))
  | .other _ _ => inferInstanceAs (Decidable True)

/-! ## What a read leaves -/

section Left

variable {socketFd : NsSocket} (hsocket : nsSocketIsValid socketFd)
  {stream : List UInt8} {arrived : ℕ} (ending : RecvEnd) (chunks : List ℕ)
include hsocket

theorem left_of_packet {packet : NsPacket}
    (hscan : scan (stream.take arrived) = .packet packet) :
    (nsRecvPacket socketFd ⟨stream.take arrived, ending,
        chunks⟩).sock.pending ++ stream.drop arrived =
      stream.drop (headerFields stream).frameLength := by
  rcases nsRecvPacket_of_packet hsocket
    ⟨stream.take arrived, ending, chunks⟩ hscan with ⟨_, hrecv⟩
  rcases scan_packet_iff.mp hscan with ⟨hheader, hframe, haccepted, rfl⟩
  have harrived : nsPacketHeaderSize ≤ arrived :=
    hheader.trans (List.length_take_le _ _)
  rw [headerFields_take harrived] at hframe
  rw [hrecv]
  simp only [NsPacket.filled, headerFields_take harrived]
  rw [← List.drop_append_of_le_length hframe, List.take_append_drop]

theorem left_of_refused
    (hscan : scan (stream.take arrived) = .refused)
    (hempty : (headerFields stream).bodyLen = 0) :
    (nsRecvPacket socketFd ⟨stream.take arrived, ending,
        chunks⟩).sock.pending ++ stream.drop arrived =
      stream.drop (headerFields stream).frameLength := by
  rcases nsRecvPacket_of_refused hsocket
    ⟨stream.take arrived, ending, chunks⟩ hscan with ⟨_, hrecv⟩
  have hheader := (scan_refused_iff.mp hscan).1
  rw [hrecv, NsPacketHeader.frameLength, hempty]
  exact (List.drop_append_of_le_length hheader).symm.trans
    (congrArg (List.drop _) (List.take_append_drop _ _))

theorem left_of_more (hscan : scan (stream.take arrived) = .more) :
    (nsRecvPacket socketFd ⟨stream.take arrived, ending,
        chunks⟩).sock.pending ++ stream.drop arrived =
      stream.drop arrived := by
  rcases nsRecvPacket_of_more hsocket
    ⟨stream.take arrived, ending, chunks⟩ hscan with ⟨_, hrecv⟩
  rw [hrecv]
  cases ending <;> rfl

end Left

section Kept

variable {w : World} {index : SlotIndex} {pending : List UInt8}
  {ending : RecvEnd} {chunks : List ℕ} {faults : SqliteFaults}

/-- A failing read ends the connection unless `errno` says that it would have
blocked. -/
theorem wouldBlock_of_kept {sock : RecvSocket}
    (hkept : ((nsServerHandleClientReadable w index sock faults).1.clients
      index).active)
    (hfailed : (nsRecvPacket (w.clients index).socketFd sock).result =
      .closed ∨ (nsRecvPacket (w.clients index).socketFd sock).result =
        .error) :
    (w.setErrno (nsRecvPacket (w.clients index).socketFd
      sock).reported).errno.wouldBlock := by
  unfold nsServerHandleClientReadable at hkept
  rcases hfailed with hclosed | herror
  · simp only [hclosed, nsServerDisconnectClient_clients,
      Bool.false_eq_true] at hkept
  · simp only [herror] at hkept
    by_contra hgone
    rw [if_neg hgone, nsServerDisconnectClient_clients] at hkept
    exact Bool.noConfusion hkept

variable (hsocket : nsSocketIsValid (w.clients index).socketFd)
  (hkept : ((nsServerHandleClientReadable w index ⟨pending, ending, chunks⟩
    faults).1.clients index).active)
include hsocket hkept

theorem wouldBlock_of_refused (hscan : scan pending = .refused) :
    w.errno.wouldBlock := by
  rcases nsRecvPacket_of_refused hsocket ⟨pending, ending, chunks⟩ hscan with
    ⟨_, hrecv⟩
  have hblock := wouldBlock_of_kept hkept
  rw [hrecv] at hblock
  exact hblock (Or.inr rfl)

theorem wouldBlock_of_more (hscan : scan pending = .more) :
    (ending.errno w.errno).wouldBlock := by
  rcases nsRecvPacket_of_more hsocket ⟨pending, ending, chunks⟩ hscan with
    ⟨_, hrecv⟩
  have hblock := wouldBlock_of_kept hkept
  rw [hrecv] at hblock
  cases ending with
  | failed errno => exact hblock (Or.inr rfl)
  | eof => exact hblock (ite_eq_or_eq _ _ _)

end Kept

/-! ## Two runs side by side -/

/-- The servers are the same up to the two fields, and so is what the clients
have for them. -/
structure Twins (incoming incoming' : Incoming) : Prop where
  settled : Settled incoming.world
  same : incoming.world.unsigned = incoming'.world.unsigned
  streams : ∀ connection, SameStream (incoming.unread connection)
    (incoming'.unread connection)

section Pairs

variable {incoming incoming' : Incoming}

theorem Twins.boot (tables : Tables) (listenSocket : NsSocket)
    (errno : Errno) (clock : Clock) {unread unread' : ℕ → List UInt8}
    (hstreams : ∀ connection,
      SameStream (unread connection) (unread' connection)) :
    Twins (.boot tables listenSocket errno clock unread)
      (.boot tables listenSocket errno clock unread') where
  settled := settled_boot tables listenSocket errno clock
  same := rfl
  streams := hstreams

theorem Twins.clients (htwins : Twins incoming incoming') :
    incoming.world.clients = incoming'.world.clients := by
  have hunsigned : incoming.world.unsigned.clients =
      incoming'.world.unsigned.clients := by rw [htwins.same]
  exact hunsigned

theorem Twins.connection (htwins : Twins incoming incoming') :
    incoming.world.connection = incoming'.world.connection := by
  have hunsigned : incoming.world.unsigned.connection =
      incoming'.world.unsigned.connection := by rw [htwins.same]
  exact hunsigned

theorem Twins.stream (htwins : Twins incoming incoming')
    (index : SlotIndex) :
    SameStream (incoming.stream index) (incoming'.stream index) := by
  rw [Incoming.stream, Incoming.stream, ← htwins.connection]
  exact htwins.streams _

theorem Twins.event (htwins : Twins incoming incoming')
    (occasion : Occasion) :
    SameEvent (incoming.event occasion) (incoming'.event occasion) := by
  cases occasion with
  | readable index arrived ending chunks faults =>
      exact .readable index _ _ faults rfl ((htwins.stream index).take arrived)
  | other event hother => exact .same event

/-- A wakeup that cuts no packet and keeps the client leaves both streams at
the same place. -/
theorem Twins.kept (htwins : Twins incoming incoming') {index : SlotIndex}
    (hactive : (incoming.world.clients index).active) {arrived : ℕ}
    {ending : RecvEnd} {chunks : List ℕ} {faults : SqliteFaults}
    (hwhole : incoming.Whole
      (.readable index arrived ending chunks faults))
    (hkept : ((nsServerHandleClientReadable incoming.world index
      ⟨(incoming.stream index).take arrived, ending, chunks⟩
      faults).1.clients index).active) :
    let socketFd := (incoming.world.clients index).socketFd
    SameStream
      ((nsRecvPacket socketFd ⟨(incoming.stream index).take arrived, ending,
        chunks⟩).sock.pending ++ (incoming.stream index).drop arrived)
      ((nsRecvPacket socketFd ⟨(incoming'.stream index).take arrived, ending,
        chunks⟩).sock.pending ++ (incoming'.stream index).drop arrived) := by
  have hsocket := htwins.settled.valid index hactive
  have hstream := htwins.stream index
  have hcuts := not_or.mp (hwhole hactive)
  have hframe : (headerFields (incoming'.stream index)).frameLength =
      (headerFields (incoming.stream index)).frameLength := by
    rw [NsPacketHeader.frameLength, ← hstream.bodyLen]
    rfl
  intro socketFd
  cases (hstream.take arrived).scan with
  | packet packet packet' hpacket hpacket' _ =>
      rw [left_of_packet hsocket ending chunks hpacket,
        left_of_packet hsocket ending chunks hpacket', hframe]
      exact hstream.drop_frame
  | refused hrefused hrefused' =>
      have hblock := wouldBlock_of_refused hsocket hkept hrefused
      have hempty : (headerFields (incoming.stream index)).bodyLen = 0 :=
        of_not_not fun hbody => hcuts.2 ⟨hrefused, hbody, hblock⟩
      rw [left_of_refused hsocket ending chunks hrefused hempty,
        left_of_refused hsocket ending chunks hrefused'
          (hstream.bodyLen ▸ hempty), hframe]
      exact hstream.drop_frame
  | more hmore hmore' hlength =>
      have hblock := wouldBlock_of_more hsocket hkept hmore
      rw [left_of_more hsocket ending chunks hmore,
        left_of_more hsocket ending chunks hmore']
      by_cases hnone : (incoming.stream index).take arrived = []
      · rcases List.take_eq_nil_iff.mp hnone with hzero | hnil
        · rw [hzero]
          exact hstream
        · have hnil' : incoming'.stream index = [] := by
            rw [← List.length_eq_zero_iff, ← hstream.length, hnil]
            rfl
          rw [hnil, hnil']
          exact .refl _
      · have hall : (incoming.stream index).length ≤ arrived :=
          not_lt.mp fun hlt => hcuts.1 ⟨hmore, hnone, hlt, hblock⟩
        rw [List.drop_of_length_le hall,
          List.drop_of_length_le (hstream.length ▸ hall)]
        exact .refl _

theorem Twins.left (htwins : Twins incoming incoming') {index : SlotIndex}
    (hactive : (incoming.world.clients index).active) {arrived : ℕ}
    {ending : RecvEnd} {chunks : List ℕ} {faults : SqliteFaults}
    (hwhole : incoming.Whole
      (.readable index arrived ending chunks faults)) :
    SameStream
      (incoming.left index arrived
        ⟨(incoming.stream index).take arrived, ending, chunks⟩ faults)
      (incoming'.left index arrived
        ⟨(incoming'.stream index).take arrived, ending, chunks⟩ faults) := by
  have hafter := congrArg (fun w : World => w.clients)
    (unsigned_step htwins.same
      (htwins.event (.readable index arrived ending chunks faults)))
  have hclients : ∀ w : World, w.unsigned.clients = w.clients := fun _ => rfl
  simp only [hclients] at hafter
  simp only [Incoming.event, World.step, hactive, ← htwins.clients,
    if_true] at hafter
  unfold Incoming.left
  simp only [← hafter]
  split
  · next hkept =>
      rw [nsServerHandleClientReadable_sock,
        nsServerHandleClientReadable_sock, ← htwins.clients]
      exact htwins.kept hactive hwhole hkept
  · exact .refl _

theorem Twins.step (htwins : Twins incoming incoming')
    {occasion : Occasion} (hwhole : incoming.Whole occasion) :
    Twins (incoming.step occasion) (incoming'.step occasion) where
  settled := (step_moves htwins.settled (admitted_anySocket _ _)).settled
    htwins.settled
  same := unsigned_step htwins.same (htwins.event occasion)
  streams := by
    intro connection
    cases occasion with
    | other event hother => exact htwins.streams connection
    | readable index arrived ending chunks faults =>
        simp only [Incoming.step, Incoming.leaves, ← htwins.clients]
        split
        · next hactive =>
            rw [← htwins.connection]
            by_cases hsame :
                connection = incoming.world.connection index
            · subst hsame
              rw [Function.update_self, Function.update_self]
              exact htwins.left hactive hwhole
            · rw [Function.update_of_ne hsame, Function.update_of_ne hsame]
              exact htwins.streams connection
        · exact htwins.streams connection

theorem Twins.run (htwins : Twins incoming incoming')
    {occasions : List Occasion}
    (hwhole : Along Incoming.step Incoming.Whole incoming occasions) :
    Twins (Runs.run Incoming.step incoming occasions)
      (Runs.run Incoming.step incoming' occasions) := by
  induction occasions generalizing incoming incoming' with
  | nil => exact htwins
  | cons occasion rest ih => exact ih (htwins.step hwhole.1) hwhole.2

/-- What the server has and what it queued are the same. -/
theorem Twins.indistinguishable (htwins : Twins incoming incoming') :
    incoming.world.toNsServerState = incoming'.world.toNsServerState ∧
      ∀ connection, received connection incoming.world.trace =
        received connection incoming'.world.trace := by
  have hstate : incoming.world.unsigned.toNsServerState =
      incoming'.world.unsigned.toNsServerState := by rw [htwins.same]
  have htrace : incoming.world.unsigned.trace =
      incoming'.world.unsigned.trace := by rw [htwins.same]
  refine ⟨hstate, fun connection => ?_⟩
  rw [← received_unsigned connection incoming.world.trace,
    ← received_unsigned connection incoming'.world.trace]
  exact congrArg (received connection) htrace

end Pairs

/-- Two runs whose clients differ in `sender_id` and `timestamp` only have,
after every number of steps, the same server state, database included, and
the same packets in the buffers of every client, provided that no wakeup cuts
a packet.  What a step of a run broadcasts carries the id that the server
assigned to the slot the step is about. -/
theorem sender_ids_assigned_by_server (tables : Tables)
    (listenSocket : NsSocket) (errno : Errno) (clock : Clock) :
    (∀ unread unread' occasions,
      (∀ connection, SameStream (unread connection) (unread' connection)) →
      Along Incoming.step Incoming.Whole
        (.boot tables listenSocket errno clock unread) occasions →
      ∀ count,
        let w := (run Incoming.step
          (.boot tables listenSocket errno clock unread)
          (occasions.take count)).world
        let w' := (run Incoming.step
          (.boot tables listenSocket errno clock unread')
          (occasions.take count)).world
        w.toNsServerState = w'.toNsServerState ∧
          ∀ connection,
            received connection w.trace = received connection w'.trace) ∧
    ∀ events event packets,
      let w := run World.step (World.boot tables listenSocket errno clock)
        events
      broadcasts (w.step event).trace = broadcasts w.trace ++ packets →
      ∀ packet ∈ packets, ∃ index, event.slot = some index ∧
        Assigned w (w.step event) index packet.header.senderId := by
  constructor
  · intro unread unread' occasions hstreams hwhole count
    rw [← List.take_append_drop count occasions, along_append] at hwhole
    have htwins := Twins.boot tables listenSocket errno clock hstreams
    exact (htwins.run hwhole.1).indistinguishable
  · intro events event packets w hpackets
    have horder' := chatOrder_run tables listenSocket errno clock
      (events ++ [event])
    rw [run_append] at horder'
    exact step_assigned
      (settled_run tables listenSocket errno clock events)
      (chatOrder_run tables listenSocket errno clock events) horder' hpackets

/-- A packet with this byte all over `sender_id` and `timestamp`. -/
def stampedPacket (type mark length : UInt8) (body : List UInt8) :
    List UInt8 :=
  [nsProtocolVersion, type, mark, mark, mark, mark, mark, mark, mark, mark,
    0, 0, 0, length] ++ body

/-- Two clients join as "a" and "b", and "a" says "hi". -/
def stampedStream (mark : UInt8) (connection : ℕ) : List UInt8 :=
  if connection = 0 then
    stampedPacket 1 mark 1 [97] ++ (stampedPacket 2 mark 2 [104, 105] ++ [])
  else stampedPacket 1 mark 1 [98]

def stampedOccasions : List Occasion :=
  [.other (.accept (.connection 4 [])) rfl,
    .other (.accept (.connection 5 [])) rfl,
    .readable ⟨0, nsMaxClients_pos⟩ 20 (.failed .eagain) [] fun _ => false,
    .readable ⟨1, one_lt_nsMaxClients⟩ 15 (.failed .eagain) [] fun _ => false,
    .readable ⟨0, nsMaxClients_pos⟩ 16 (.failed .eagain) [] fun _ => false]

theorem stampedStream_same (connection : ℕ) :
    SameStream (stampedStream 0 connection) (stampedStream 9 connection) := by
  unfold stampedStream
  split
  · exact .packet _ _ _ _ ⟨rfl, rfl, rfl⟩ (by decide +kernel)
      (.packet _ _ _ _ ⟨rfl, rfl, rfl⟩ (by decide +kernel) (.refl _))
  · exact .last _ _ ⟨rfl, rfl, rfl⟩

set_option maxRecDepth 100000 in
theorem sender_ids_assigned_by_server_example :
    let w := (run Incoming.step
      (.boot .empty 3 (.other 0) (fun _ => 0) (stampedStream 0))
      stampedOccasions).world
    let w' := (run Incoming.step
      (.boot .empty 3 (.other 0) (fun _ => 0) (stampedStream 9))
      stampedOccasions).world
    (w.toNsServerState = w'.toNsServerState ∧
      ∀ connection,
        received connection w.trace = received connection w'.trace) ∧
    w.trace ≠ w'.trace ∧ (w.clients ⟨1, by decide⟩).joined ∧
      w.database.tables.messages.length = 1 := by
  refine ⟨?_, by decide +kernel⟩
  exact (sender_ids_assigned_by_server .empty 3 (.other 0) fun _ => 0).1
    (stampedStream 0) (stampedStream 9) stampedOccasions stampedStream_same
    (by decide +kernel) 5

/-- A TEXT whose body would end as the JOIN of "a" does. -/
def cutStream (mark : UInt8) : List UInt8 :=
  stampedPacket 2 mark 7 [0, 0, 0, 0, 0, 1, 97] ++ []

/-- The first wakeup finds no more than `version`, `type` and `sender_id`. -/
def cutOccasions : List Occasion :=
  [.other (.accept (.connection 4 [])) rfl,
    .readable ⟨0, nsMaxClients_pos⟩ 6 (.failed .eagain) [] fun _ => false,
    .readable ⟨0, nsMaxClients_pos⟩ 15 (.failed .eagain) [] fun _ => false]

set_option maxRecDepth 100000 in
/-- The client joins if its timestamp looks like the start of a JOIN. -/
theorem sender_ids_not_always_unread :
    ¬ ∀ tables listenSocket errno clock unread unread'
        (occasions : List Occasion),
      (∀ connection : ℕ,
        SameStream (unread connection) (unread' connection)) →
      ∀ count,
        let w := (run Incoming.step
          (.boot tables listenSocket errno clock unread)
          (occasions.take count)).world
        let w' := (run Incoming.step
          (.boot tables listenSocket errno clock unread')
          (occasions.take count)).world
        w.toNsServerState = w'.toNsServerState ∧
          ∀ connection,
            received connection w.trace = received connection w'.trace := by
  intro hall
  have hsame := (hall .empty 3 (.other 0) (fun _ => 0) (fun _ => cutStream 0)
    (fun _ => cutStream 1) cutOccasions (fun _ => .packet _ _ _ _
      ⟨rfl, rfl, rfl⟩ (by decide +kernel) (.refl _)) 3).1
  have hjoined := congrArg
    (fun state => (state.clients ⟨0, nsMaxClients_pos⟩).joined) hsame
  exact absurd hjoined (by decide +kernel)

end NodeSignal
