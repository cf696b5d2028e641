import NodeSignal.Answers
import NodeSignal.Notices
import NodeSignal.Scripts
import NodeSignal.Runs

/-!
# The clients and the server together

Any number of clients talk to the server over channels that hand over whole
packets, in order, until the connection closes.  What a channel has handed
over is therefore the beginning of what was put into it; both ends of each
channel are read off the records that the clients and the server keep.
-/

namespace NodeSignal

open CStrings Runs

def Obs.dispatch (connection : ℕ) : Obs → Option NsPacket
  | .dispatched sender packet =>
      if sender = connection then some packet else none
  | _ => none

/-- The packets that the server has read from the connection. -/
def dispatchedOn (connection : ℕ) (trace : List Obs) : List NsPacket :=
  trace.filterMap (Obs.dispatch connection)

/-- The ERROR packet for which `ns_send_packet` is called when no slot is
free. -/
def refusal (w : World) : List NsPacket :=
  match nsServerFindFreeSlot w with
  | some _ => []
  | none =>
      (nsPacketSet NsPacketType.error.code 0 (nsUnixTimeNow w)
        (some (literal "The server is full right now."))).toList

/-- The two ends of the channels.  A connection without a peer belongs to
somebody else. -/
structure Network (ι : Type*) where
  server : World
  stations : ι → Station
  /-- The connection that was accepted for a socket of a client. -/
  links : ι × ℕ → Option ℕ
  peers : ℕ → Option (ι × ℕ)
  refusals : ι × ℕ → List NsPacket

inductive NetworkAction (ι : Type*) where
  | client (client : ι) (now : UInt32) (action : ClientAction)
  | accept (client : ι) (socket : ℕ) (socketFd : NsSocket)
      (outcomes : List SendOutcome)
  | server (event : Event)

/-- Before the first client starts. -/
def Network.boot (ι : Type*) (tables : Tables) (listenSocket : NsSocket)
    (errno : Errno) (clock : Clock) : Network ι where
  server := .boot tables listenSocket errno clock
  stations := fun _ => .boot
  links := fun _ => none
  peers := fun _ => none
  refusals := fun _ => []

namespace Network

variable {ι : Type*} [DecidableEq ι] (net : Network ι)

/-- What was put into the channel to the socket. -/
def inbound (client : ι) (socket : ℕ) : List NsPacket :=
  match net.links (client, socket) with
  | some connection =>
      net.refusals (client, socket) ++ received connection net.server.trace
  | none => []

/-- What is read is what the channel hands over next, and `accept()` returns
a connection that a client has made. -/
def Delivers : NetworkAction ι → Prop
  | .client client _ action =>
      ∀ entry ∈ (net.stations client).app.incoming action,
        (net.stations client).received entry.1 ++ [entry.2] <+:
          net.inbound client entry.1
  | .accept client socket socketFd _ =>
      socket < (net.stations client).app.sockets ∧
        net.links (client, socket) = none ∧ nsSocketIsValid socketFd
  | .server event =>
      ∀ entry ∈ net.server.reading event, ∀ peer ∈ net.peers entry.1,
        dispatchedOn entry.1 net.server.trace ++ [entry.2] <+:
          (net.stations peer.1).sent peer.2

instance : (action : NetworkAction ι) → Decidable (net.Delivers action)
  | .client _ _ _ => inferInstanceAs (Decidable (∀ _ ∈ _, _))
  | .accept _ _ _ _ => inferInstanceAs (Decidable (_ ∧ _ ∧ _))
  | .server _ => inferInstanceAs (Decidable (∀ _ ∈ _, ∀ _ ∈ _, _))

def after : NetworkAction ι → Network ι
  | .client client now action =>
      { net with
        stations := Function.update net.stations client
          ((net.stations client).step now action) }
  | .accept client socket socketFd outcomes =>
      { net with
        server := net.server.step (.accept (.connection socketFd outcomes))
        links := Function.update net.links (client, socket)
          (some net.server.connections)
        peers := Function.update net.peers net.server.connections
          (some (client, socket))
        refusals := Function.update net.refusals (client, socket)
          (refusal net.server) }
  | .server event => { net with server := net.server.step event }

/-- An action that the channels do not allow does not happen. -/
def step (action : NetworkAction ι) : Network ι :=
  if net.Delivers action then net.after action else net

/-! ## Agreement -/

/-- Whoever believes to have joined has joined, and no request of a client
is of a kind that the server turns down. -/
structure Agreement : Prop where
  joined : ∀ client socket,
    (net.stations client).app.socketFd = some socket →
    (net.stations client).app.joined →
      ∃ connection join,
        net.links (client, socket) = some connection ∧
        ((net.stations client).sent socket).head? = some join ∧
        join.header.type = NsPacketType.join.code ∧
        text join.body =
          text (net.stations client).app.connectedLogin.username ∧
        .joined connection (net.stations client).app.userId
          (text join.body) ∈ net.server.trace ∧
        ∀ index, (net.server.clients index).active →
          net.server.connection index = connection →
            (net.server.clients index).joined ∧
              (net.server.clients index).userId =
                (net.stations client).app.userId ∧
              text (net.server.clients index).username = text join.body
  script : ∀ client socket connection,
    net.links (client, socket) = some connection →
      Script (dispatchedOn connection net.server.trace)
  afterJoin : ∀ client socket connection,
    net.links (client, socket) = some connection →
      ∀ before packet later,
        net.server.trace =
          before ++ .dispatched connection packet :: later →
        packet.header.type = NsPacketType.text.code →
          ∃ userId name, .joined connection userId name ∈ before
  placed : ∀ client socket connection,
    net.links (client, socket) = some connection →
      ∀ answer, .rejected connection answer ∈ net.server.trace →
        answer.payload ∉ misplacements

/-- What the two sides know of each other. -/
structure Coherent : Prop where
  mannered : ∀ client, (net.stations client).Mannered
  settled : Settled net.server
  order : ChatOrder net.server
  vouched : Vouched net.server
  linked : ∀ endpoint connection,
    net.links endpoint = some connection →
      net.peers connection = some endpoint ∧
        connection < net.server.connections
  unlinked : ∀ client socket, net.links (client, socket) = none →
    (net.stations client).received socket = []
  refused : ∀ endpoint, ∀ packet ∈ net.refusals endpoint,
    packet.header.type = NsPacketType.error.code
  upward : ∀ client socket connection,
    net.links (client, socket) = some connection →
      dispatchedOn connection net.server.trace <+:
        (net.stations client).sent socket
  downward : ∀ client socket connection,
    net.links (client, socket) = some connection →
      ∀ packet ∈ (net.stations client).received socket,
        packet.header.type = NsPacketType.ack.code →
          .enqueued connection packet ∈ net.server.trace
  afterJoin : ∀ client socket connection,
    net.links (client, socket) = some connection →
      ∀ before packet later,
        net.server.trace =
          before ++ .dispatched connection packet :: later →
        packet.header.type = NsPacketType.text.code →
          ∃ userId name, .joined connection userId name ∈ before
  placed : ∀ client socket connection,
    net.links (client, socket) = some connection →
      ∀ answer, .rejected connection answer ∈ net.server.trace →
        answer.payload ∉ misplacements

end Network

/-! ## Readings of the record -/

theorem mem_dispatchedOn {connection : ℕ} {packet : NsPacket}
    {trace : List Obs} :
    packet ∈ dispatchedOn connection trace ↔
      .dispatched connection packet ∈ trace := by
  rw [dispatchedOn, List.mem_filterMap]
  constructor
  · rintro ⟨obs, hobs, hpacket⟩
    cases obs with
    | dispatched sender packet' =>
        simp only [Obs.dispatch] at hpacket
        split_ifs at hpacket with hsame
        rw [← hsame, ← Option.some.inj hpacket]
        exact hobs
    | _ => simp [Obs.dispatch] at hpacket
  · intro hmem
    exact ⟨_, hmem, by simp [Obs.dispatch]⟩

@[simp] theorem dispatchedOn_append (connection : ℕ)
    (before later : List Obs) :
    dispatchedOn connection (before ++ later) =
      dispatchedOn connection before ++ dispatchedOn connection later :=
  List.filterMap_append

theorem dispatchedOn_eq_nil {connection : ℕ} {notes : List Obs}
    (hnone : ∀ packet, .dispatched connection packet ∉ notes) :
    dispatchedOn connection notes = [] :=
  List.eq_nil_iff_forall_not_mem.mpr fun packet hmem =>
    hnone packet (mem_dispatchedOn.mp hmem)

theorem enqueued_of_mem_received {connection : ℕ} {packet : NsPacket}
    {trace : List Obs} (hmem : packet ∈ received connection trace) :
    .enqueued connection packet ∈ trace := by
  rcases List.mem_filterMap.mp hmem with ⟨obs, hobs, hpacket⟩
  cases obs with
  | enqueued receiver packet' =>
      simp only [Obs.receipt] at hpacket
      split_ifs at hpacket with hsame
      rw [← hsame, ← Option.some.inj hpacket]
      exact hobs
  | _ => simp [Obs.receipt] at hpacket

theorem refusal_type {w : World} {packet : NsPacket}
    (hmem : packet ∈ refusal w) :
    packet.header.type = NsPacketType.error.code := by
  unfold refusal at hmem
  split at hmem
  · simp at hmem
  · exact (nsPacketSet_eq_some (Option.mem_toList.mp hmem)).2.1

section Coherence

variable {ι : Type*} {net : Network ι}

open Network

theorem coherent_boot (ι : Type*) (tables : Tables)
    (listenSocket : NsSocket) (errno : Errno) (clock : Clock) :
    (Network.boot ι tables listenSocket errno clock).Coherent := by
  constructor
  · exact fun _ => mannered_boot
  · exact settled_boot tables listenSocket errno clock
  · exact chatOrder_boot tables listenSocket errno clock
  · exact vouched_boot tables listenSocket errno clock
  all_goals simp [Network.boot, Station.boot]

/-- An ACK that came in is one for which the server has seated somebody. -/
theorem Network.Coherent.acked (hcoherent : net.Coherent) {client : ι}
    {socket : ℕ} {userId : UInt32}
    (hacked : Acked userId ((net.stations client).received socket)) :
    ∃ connection name, net.links (client, socket) = some connection ∧
      .joined connection userId name ∈ net.server.trace := by
  rcases hacked with ⟨ack, hmem, htype, hsender⟩
  cases hlink : net.links (client, socket) with
  | none =>
      rw [hcoherent.unlinked client socket hlink] at hmem
      exact absurd hmem List.not_mem_nil
  | some connection =>
      have henqueued := hcoherent.downward client socket connection hlink
        ack hmem htype
      rcases hcoherent.vouched.acks connection ack henqueued htype with
        ⟨name, hjoined⟩
      rw [hsender] at hjoined
      exact ⟨connection, name, rfl, hjoined⟩

/-- Who has joined on the connection of a client did so with the first
packet that the client sent. -/
theorem Network.Coherent.joined_first (hcoherent : net.Coherent)
    {client : ι} {socket connection : ℕ}
    (hlink : net.links (client, socket) = some connection)
    {userId : UInt32} {name : List UInt8}
    (hjoined : .joined connection userId name ∈ net.server.trace) :
    ∃ join, join ∈ dispatchedOn connection net.server.trace ∧
      ((net.stations client).sent socket).head? = some join ∧
      join.header.type = NsPacketType.join.code ∧
      name = text join.body := by
  rcases hcoherent.vouched.joins connection userId name hjoined with
    ⟨join, hdispatched, htype, hname⟩
  have hmem := mem_dispatchedOn.mpr hdispatched
  have hsent := (hcoherent.upward client socket connection hlink).subset hmem
  exact ⟨join, hmem, ((hcoherent.mannered client).script
    socket).head_of_join hsent htype, htype, hname⟩

/-- The packet that the channel hands over next is one that the server
expects. -/
theorem Network.Coherent.next (hcoherent : net.Coherent) {client : ι}
    {socket : ℕ} {index : SlotIndex} {packet : NsPacket}
    (hlink : net.links (client, socket) =
      some (net.server.connection index))
    (hactive : (net.server.clients index).active)
    (hnext : dispatchedOn (net.server.connection index) net.server.trace ++
      [packet] <+: (net.stations client).sent socket) :
    Placed (net.server.clients index).joined packet ∧
      (packet.header.type = NsPacketType.text.code →
        ∃ userId name, .joined (net.server.connection index) userId name ∈
          net.server.trace) := by
  have hmannered := hcoherent.mannered client
  have hmem : packet ∈ (net.stations client).sent socket :=
    hnext.subset (by simp)
  have hseated : packet.header.type = NsPacketType.text.code →
      ∃ userId name, .joined (net.server.connection index) userId name ∈
        net.server.trace := by
    intro htext
    rcases hmannered.texted socket packet hmem htext with
      ⟨userId, hacked⟩
    rcases hcoherent.acked hacked with ⟨connection, name, hlink', hjoined⟩
    rw [Option.some.inj (hlink.symm.trans hlink')]
    exact ⟨userId, name, hjoined⟩
  refine ⟨?_, hseated⟩
  rcases (hmannered.script socket).type hmem with htype | htype | htype
  · have hunjoined : (net.server.clients index).joined = false := by
      by_contra hjoined
      rw [Bool.not_eq_false] at hjoined
      rcases hcoherent.order.chatting index hactive hjoined with
        ⟨before, life, hsegment⟩
      rcases hcoherent.joined_first hlink hsegment.joined_mem with
        ⟨join, hdispatched, -⟩
      rcases hnext with ⟨rest, hsent⟩
      have hsplit : (net.stations client).sent socket =
          dispatchedOn (net.server.connection index) net.server.trace ++
            packet :: rest := by
        rw [← hsent, List.append_assoc]
        rfl
      rcases (hmannered.script socket).later hsplit
        (List.ne_nil_of_mem hdispatched) with htext | hleave
      · exact absurd (htype.symm.trans htext) (by decide)
      · exact absurd (htype.symm.trans hleave) (by decide)
    simp [Placed, htype, hunjoined]
  · have hjoined : (net.server.clients index).joined = true := by
      by_contra hunjoined
      rw [Bool.not_eq_true] at hunjoined
      rcases hseated htype with ⟨userId, name, hmem'⟩
      exact not_mem_of_noJoin (hcoherent.order.waiting index hactive
        hunjoined).join hmem'
    simp [Placed, htype, hjoined]
  · simp [Placed, htype]

theorem Network.Coherent.agreement (hcoherent : net.Coherent) :
    net.Agreement := by
  constructor
  · intro client socket hsocket hjoined
    have hmannered := hcoherent.mannered client
    rcases hcoherent.acked (hmannered.joined socket hsocket hjoined) with
      ⟨connection, name, hlink, hseated⟩
    rcases hcoherent.joined_first hlink hseated with
      ⟨join, -, hhead, htype, rfl⟩
    refine ⟨connection, join, hlink, hhead, htype, ?_, hseated, ?_⟩
    · rcases hmannered.stored socket hsocket with
        hspeaking | ⟨hsilent, -⟩
      · cases hpackets : (net.stations client).sent socket with
        | nil => exact absurd hpackets hspeaking.ne_nil
        | cons first rest =>
            rw [hpackets] at hspeaking hhead
            cases hspeaking with
            | intro _ _ _ hname _ =>
                rw [← Option.some.inj hhead]
                exact hname
      · rw [hsilent] at hhead
        exact absurd hhead (by simp)
    · rintro index hactive rfl
      have hslot : (net.server.clients index).joined = true := by
        by_contra hunjoined
        rw [Bool.not_eq_true] at hunjoined
        exact not_mem_of_noJoin (hcoherent.order.waiting index hactive
          hunjoined).join hseated
      rcases hcoherent.order.chatting index hactive hslot with
        ⟨before, life, hsegment⟩
      rcases hsegment.unique hseated with ⟨huserId, hname⟩
      exact ⟨hslot, huserId.symm, hname.symm⟩
  · intro client socket connection hlink
    exact ((hcoherent.mannered client).script socket).of_start
      (hcoherent.upward client socket connection hlink)
  · exact hcoherent.afterJoin
  · exact hcoherent.placed

/-! ## Steps -/

/-- What the server has read, once it has read one packet more. -/
theorem dispatchedOn_answer {connection : ℕ} {joined : Bool}
    {packet : NsPacket} {notes : List Obs}
    (hanswer : Answer connection joined packet notes) (connection' : ℕ) :
    dispatchedOn connection' (.dispatched connection packet :: notes) =
      if connection = connection' then [packet] else [] := by
  have hnotes : dispatchedOn connection' notes = [] :=
    dispatchedOn_eq_nil fun packet' => hanswer.dispatched connection' packet'
  rw [dispatchedOn, List.filterMap_cons]
  rw [dispatchedOn] at hnotes
  by_cases hsame : connection = connection' <;>
    simp [Obs.dispatch, hsame, hnotes]

theorem dispatched_of_answer {connection connection' : ℕ} {joined : Bool}
    {packet packet' : NsPacket} {notes : List Obs}
    (hanswer : Answer connection joined packet notes)
    (hmem : .dispatched connection' packet' ∈
      Obs.dispatched connection packet :: notes) :
    connection' = connection ∧ packet' = packet := by
  rcases List.mem_cons.mp hmem with hobs | hmem
  · exact Obs.dispatched.inj hobs
  · exact absurd hmem (hanswer.dispatched connection' packet')

theorem Obs.Idle.not_dispatched {connection : ℕ} {packet : NsPacket}
    (hidle : (Obs.dispatched connection packet).Idle) : False := by
  simp [Obs.Idle, Obs.Routine] at hidle

section Serving

variable {event : Event}

/-- The packet that is read from the connection of a client is due. -/
theorem Network.Coherent.due (hcoherent : net.Coherent)
    (hdelivers : net.Delivers (.server event)) {connection : ℕ}
    {packet : NsPacket}
    (hreading : net.server.reading event = some (connection, packet))
    {client : ι} {socket : ℕ}
    (hlink : net.links (client, socket) = some connection) :
    dispatchedOn connection net.server.trace ++ [packet] <+:
      (net.stations client).sent socket :=
  hdelivers (connection, packet) hreading (client, socket)
    (hcoherent.linked _ _ hlink).1

theorem Network.Coherent.serves_upward (hcoherent : net.Coherent)
    (hdelivers : net.Delivers (.server event)) {client : ι}
    {socket connection : ℕ}
    (hlink : net.links (client, socket) = some connection) :
    dispatchedOn connection (net.server.step event).trace <+:
      (net.stations client).sent socket := by
  have hupward := hcoherent.upward client socket connection hlink
  cases stepAnswers hcoherent.settled event with
  | reads index packet notes hactive hreading htrace hanswer =>
      rw [htrace, dispatchedOn_append, dispatchedOn_answer hanswer]
      split_ifs with hsame
      · subst hsame
        exact hcoherent.due hdelivers hreading hlink
      · rwa [List.append_nil]
  | idle hreading hadds =>
      rcases hadds with ⟨notes, htrace, hnotes⟩
      rw [htrace, dispatchedOn_append, dispatchedOn_eq_nil fun packet hmem =>
        (hnotes _ hmem).not_dispatched, List.append_nil]
      exact hupward

theorem Network.Coherent.serves_afterJoin (hcoherent : net.Coherent)
    (hdelivers : net.Delivers (.server event)) {client : ι}
    {socket connection : ℕ}
    (hlink : net.links (client, socket) = some connection)
    {before later : List Obs} {packet : NsPacket}
    (hsplit : (net.server.step event).trace =
      before ++ .dispatched connection packet :: later)
    (htext : packet.header.type = NsPacketType.text.code) :
    ∃ userId name, .joined connection userId name ∈ before := by
  have hold := hcoherent.afterJoin client socket connection hlink
  cases stepAnswers hcoherent.settled event with
  | reads index packet' notes hactive hreading htrace hanswer =>
      rw [htrace] at hsplit
      rcases split_append hsplit with
        ⟨rest, hrest, -⟩ | ⟨more, rfl, hmore⟩
      · exact hold before packet rest hrest htext
      · have hmem : .dispatched connection packet ∈
            Obs.dispatched (net.server.connection index) packet' ::
              notes := by
          rw [hmore]
          simp
        rcases dispatched_of_answer hanswer hmem with ⟨rfl, rfl⟩
        rcases (hcoherent.next hlink hactive
          (hcoherent.due hdelivers hreading hlink)).2 htext with
          ⟨userId, name, hjoined⟩
        exact ⟨userId, name, List.mem_append_left _ hjoined⟩
  | idle hreading hadds =>
      rcases hadds with ⟨notes, htrace, hnotes⟩
      rw [htrace] at hsplit
      rcases split_append hsplit with
        ⟨rest, hrest, -⟩ | ⟨more, rfl, hmore⟩
      · exact hold before packet rest hrest htext
      · have hmem : .dispatched connection packet ∈ notes := by
          rw [hmore]
          simp
        exact (hnotes _ hmem).not_dispatched.elim

theorem Network.Coherent.serves_placed (hcoherent : net.Coherent)
    (hdelivers : net.Delivers (.server event)) {client : ι}
    {socket connection : ℕ}
    (hlink : net.links (client, socket) = some connection)
    {answer : NsPacket}
    (hmem : .rejected connection answer ∈ (net.server.step event).trace) :
    answer.payload ∉ misplacements := by
  have hold := hcoherent.placed client socket connection hlink answer
  cases stepAnswers hcoherent.settled event with
  | reads index packet notes hactive hreading htrace hanswer =>
      rw [htrace, List.mem_append, List.mem_cons] at hmem
      rcases hmem with hmem | hobs | hmem
      · exact hold hmem
      · simp at hobs
      · rcases hanswer.rejected hmem with ⟨rfl, hplaced⟩
        exact hplaced (hcoherent.next hlink hactive
          (hcoherent.due hdelivers hreading hlink)).1
  | idle hreading hadds =>
      rcases hadds with ⟨notes, htrace, hnotes⟩
      rw [htrace, List.mem_append] at hmem
      rcases hmem with hmem | hmem
      · exact hold hmem
      · exact idle_rejected (hnotes _ hmem)

/-- The server reads a packet that is due, or none. -/
theorem Network.Coherent.serves (hcoherent : net.Coherent)
    (hdelivers : net.Delivers (.server event)) :
    Coherent { net with server := net.server.step event } := by
  have hmoves := step_moves hcoherent.settled
    (admitted_anySocket net.server event)
  constructor
  · exact hcoherent.mannered
  · exact hmoves.settled hcoherent.settled
  · exact Moves.invariant
      (fun _ _ hsettled horder hmove => hmove.chatOrder hsettled horder)
      hmoves hcoherent.settled hcoherent.order
  · exact hcoherent.vouched.step hcoherent.settled hcoherent.order event
  · intro endpoint connection hlink
    rcases hcoherent.linked endpoint connection hlink with ⟨hpeer, hlt⟩
    exact ⟨hpeer, hlt.trans_le hmoves.connections_le⟩
  · exact hcoherent.unlinked
  · exact hcoherent.refused
  · exact fun client socket connection hlink =>
      hcoherent.serves_upward hdelivers hlink
  · intro client socket connection hlink packet hmem hack
    exact hmoves.trace_grows.subset (hcoherent.downward client socket
      connection hlink packet hmem hack)
  · exact fun client socket connection hlink before packet later =>
      hcoherent.serves_afterJoin hdelivers hlink
  · exact fun client socket connection hlink answer =>
      hcoherent.serves_placed hdelivers hlink

end Serving

/-- A connection is linked on which nothing has happened. -/
theorem Network.Coherent.linking (hcoherent : net.Coherent) [DecidableEq ι]
    {client : ι} {socket : ℕ}
    (hpending : net.links (client, socket) = none)
    {refusals : ι × ℕ → List NsPacket}
    (hrefused : ∀ endpoint, ∀ packet ∈ refusals endpoint,
      packet.header.type = NsPacketType.error.code)
    {connection : ℕ} (hnew : connection < net.server.connections)
    (hunlinked : ∀ endpoint, net.links endpoint ≠ some connection)
    (hunread : ∀ packet,
      .dispatched connection packet ∉ net.server.trace)
    (hunanswered : ∀ answer,
      .rejected connection answer ∈ net.server.trace →
        answer.payload ∉ misplacements) :
    Coherent
      { net with
        links := Function.update net.links (client, socket)
          (some connection)
        peers := Function.update net.peers connection
          (some (client, socket))
        refusals := refusals } := by
  have hcases : ∀ {client' : ι} {socket' connection' : ℕ},
      Function.update net.links (client, socket) (some connection)
          (client', socket') = some connection' →
        client' = client ∧ socket' = socket ∧ connection' = connection ∨
          net.links (client', socket') = some connection' := by
    intro client' socket' connection' hlink
    by_cases hsame : (client', socket') = (client, socket)
    · left
      rw [hsame, Function.update_self] at hlink
      rcases Prod.mk.inj hsame with ⟨rfl, rfl⟩
      exact ⟨rfl, rfl, (Option.some.inj hlink).symm⟩
    · right
      rwa [Function.update_of_ne hsame] at hlink
  constructor
  · exact hcoherent.mannered
  · exact hcoherent.settled
  · exact hcoherent.order
  · exact hcoherent.vouched
  · rintro ⟨client', socket'⟩ connection' hlink
    rcases hcases hlink with ⟨rfl, rfl, rfl⟩ | hold
    · exact ⟨Function.update_self _ _ _, hnew⟩
    · have hne : connection' ≠ connection := by
        rintro rfl
        exact hunlinked _ hold
      rcases hcoherent.linked _ _ hold with ⟨hpeer, hlt⟩
      exact ⟨(Function.update_of_ne hne _ _).trans hpeer, hlt⟩
  · intro client' socket' hlink
    apply hcoherent.unlinked
    by_cases hsame : (client', socket') = (client, socket)
    · rw [hsame]
      exact hpending
    · exact (Function.update_of_ne hsame _ _).symm.trans hlink
  · exact hrefused
  · intro client' socket' connection' hlink
    rcases hcases hlink with ⟨rfl, rfl, rfl⟩ | hold
    · rw [dispatchedOn_eq_nil hunread]
      exact List.nil_prefix
    · exact hcoherent.upward client' socket' connection' hold
  · intro client' socket' connection' hlink packet hmem hack
    rcases hcases hlink with ⟨rfl, rfl, rfl⟩ | hold
    · rw [hcoherent.unlinked client' socket' hpending] at hmem
      exact absurd hmem List.not_mem_nil
    · exact hcoherent.downward client' socket' connection' hold packet hmem
        hack
  · intro client' socket' connection' hlink before packet later hsplit htext
    rcases hcases hlink with ⟨rfl, rfl, rfl⟩ | hold
    · have hmem : .dispatched connection' packet ∈ net.server.trace := by
        rw [hsplit]
        simp
      exact absurd hmem (hunread packet)
    · exact hcoherent.afterJoin client' socket' connection' hold before
        packet later hsplit htext
  · intro client' socket' connection' hlink answer hmem
    rcases hcases hlink with ⟨rfl, rfl, rfl⟩ | hold
    · exact hunanswered answer hmem
    · exact hcoherent.placed client' socket' connection' hold answer hmem

theorem nsServerAcceptClient_connections (w : World) {socketFd : NsSocket}
    (hvalid : nsSocketIsValid socketFd) (outcomes : List SendOutcome) :
    (nsServerAcceptClient w (.connection socketFd outcomes)).connections =
      w.connections + 1 := by
  unfold nsServerAcceptClient
  simp only [hvalid, Bool.not_true, Bool.false_eq_true, if_false]
  split
  · exact (turnDown_frame (w.greeted socketFd) w.connections socketFd
      outcomes).2.2.2.2.2.2
  · rfl

variable [DecidableEq ι]

/-- The server accepts a connection that a client has made. -/
theorem Network.Coherent.accepts (hcoherent : net.Coherent) {client : ι}
    {socket : ℕ} {socketFd : NsSocket} {outcomes : List SendOutcome}
    (hdelivers :
      net.Delivers (.accept client socket socketFd outcomes)) :
    (net.after (.accept client socket socketFd outcomes)).Coherent := by
  rcases hdelivers with ⟨-, hpending, hvalid⟩
  have hdue : net.Delivers
      (.server (.accept (.connection socketFd outcomes))) :=
    fun _ hreading => absurd hreading.symm (Option.some_ne_none _)
  have hserved := hcoherent.serves hdue
  have hconnections := nsServerAcceptClient_connections net.server hvalid
    outcomes
  rcases adds_nsServerAcceptClient net.server
    (.connection socketFd outcomes) with ⟨notes, htrace, hnotes⟩
  refine hserved.linking hpending ?_ ?_ ?_ ?_ ?_
  · intro endpoint packet hmem
    by_cases hsame : endpoint = (client, socket)
    · rw [hsame, Function.update_self] at hmem
      exact refusal_type hmem
    · rw [Function.update_of_ne hsame] at hmem
      exact hcoherent.refused endpoint packet hmem
  · exact hconnections ▸ Nat.lt_succ_self net.server.connections
  · exact fun endpoint hlink =>
      lt_irrefl _ (hcoherent.linked endpoint _ hlink).2
  · intro packet hmem
    rcases List.mem_append.mp (htrace ▸ hmem) with hmem | hmem
    · exact lt_irrefl _ (hcoherent.vouched.numbered _ _ hmem)
    · exact (hnotes _ hmem).not_dispatched
  · intro answer hmem
    rcases List.mem_append.mp (htrace ▸ hmem) with hmem | hmem
    · exact (hcoherent.vouched.rejections _ _ hmem).resolve_left
        (lt_irrefl _)
    · exact idle_rejected (hnotes _ hmem)

theorem mem_record_cases {log : ℕ → List NsPacket}
    {entry : Option (ℕ × NsPacket)} {socket : ℕ} {packet : NsPacket}
    (hmem : packet ∈ record log entry socket) :
    packet ∈ log socket ∨ entry = some (socket, packet) := by
  cases entry with
  | none => exact Or.inl hmem
  | some entry =>
      by_cases hsame : socket = entry.1
      · subst hsame
        rw [record_self, List.mem_append, List.mem_singleton] at hmem
        exact hmem.imp_right fun hpacket => by rw [hpacket]
      · rw [record_of_ne _ _ hsame] at hmem
        exact Or.inl hmem

theorem prefix_record (log : ℕ → List NsPacket)
    (entry : Option (ℕ × NsPacket)) (socket : ℕ) :
    log socket <+: record log entry socket := by
  cases entry with
  | none => exact List.prefix_rfl
  | some entry =>
      by_cases hsame : socket = entry.1
      · subst hsame
        rw [record_self]
        exact List.prefix_append _ _
      · rw [record_of_ne _ _ hsame]

section Acting

variable {client : ι} {now : UInt32} {action : ClientAction}

/-- The station of a client after a step of that or another client. -/
theorem Network.after_stations (client' : ι) :
    (net.after (.client client now action)).stations client' =
      if client' = client then (net.stations client').step now action
      else net.stations client' := by
  by_cases hsame : client' = client
  · subst hsame
    rw [if_pos rfl]
    exact Function.update_self _ _ _
  · rw [if_neg hsame]
    exact Function.update_of_ne hsame _ _

/-- What a client has received after a step it had received before, or it
was on its way. -/
theorem Network.received_after
    (hdelivers : net.Delivers (.client client now action)) {client' : ι}
    {socket : ℕ} {packet : NsPacket}
    (hmem : packet ∈ ((net.after
      (.client client now action)).stations client').received socket) :
    packet ∈ (net.stations client').received socket ∨
      packet ∈ net.inbound client' socket := by
  rw [after_stations] at hmem
  split_ifs at hmem with hsame
  · subst hsame
    rcases mem_record_cases hmem with hmem | hincoming
    · exact Or.inl hmem
    · right
      have hnext := hdelivers (socket, packet) hincoming
      exact hnext.subset (by simp)
  · exact Or.inl hmem

theorem Network.sent_after (client' : ι) (socket : ℕ) :
    (net.stations client').sent socket <+:
      ((net.after
        (.client client now action)).stations client').sent socket := by
  rw [after_stations]
  split_ifs
  · exact prefix_record _ _ socket
  · exact List.prefix_rfl

/-- A client makes a step. -/
theorem Network.Coherent.acts (hcoherent : net.Coherent)
    (hdelivers : net.Delivers (.client client now action)) :
    (net.after (.client client now action)).Coherent := by
  constructor
  · intro client'
    rw [after_stations]
    split_ifs
    · exact (hcoherent.mannered client').step now action
    · exact hcoherent.mannered client'
  · exact hcoherent.settled
  · exact hcoherent.order
  · exact hcoherent.vouched
  · exact hcoherent.linked
  · intro client' socket hlink
    have hnone : net.links (client', socket) = none := hlink
    apply List.eq_nil_iff_forall_not_mem.mpr
    intro packet hmem
    rcases received_after hdelivers hmem with hold | hinbound
    · rw [hcoherent.unlinked client' socket hnone] at hold
      exact List.not_mem_nil hold
    · rw [inbound, hnone] at hinbound
      exact List.not_mem_nil hinbound
  · exact hcoherent.refused
  · intro client' socket connection hlink
    exact (hcoherent.upward client' socket connection hlink).trans
      (sent_after client' socket)
  · intro client' socket connection hlink packet hmem hack
    have hsome : net.links (client', socket) = some connection := hlink
    rcases received_after hdelivers hmem with hold | hinbound
    · exact hcoherent.downward client' socket connection hsome packet hold
        hack
    · rw [inbound, hsome] at hinbound
      rcases List.mem_append.mp hinbound with hrefused | hreceived
      · have htype := hcoherent.refused _ packet hrefused
        exact absurd (hack.symm.trans htype) (by decide)
      · exact enqueued_of_mem_received hreceived
  · exact hcoherent.afterJoin
  · exact hcoherent.placed

end Acting

theorem Network.Coherent.step (hcoherent : net.Coherent)
    (action : NetworkAction ι) : (net.step action).Coherent := by
  unfold Network.step
  split_ifs with hdelivers
  · cases action with
    | client client now action => exact hcoherent.acts hdelivers
    | accept client socket socketFd outcomes =>
        exact hcoherent.accepts hdelivers
    | server event => exact hcoherent.serves hdelivers
  · exact hcoherent

end Coherence

/-- However the clients, their threads and the server interleave, they
agree on who has joined. -/
theorem clients_and_server_agree {ι : Type*} [DecidableEq ι]
    (tables : Tables) (listenSocket : NsSocket) (errno : Errno)
    (clock : Clock) (actions : List (NetworkAction ι)) :
    (run Network.step (Network.boot ι tables listenSocket errno clock)
      actions).Agreement := by
  apply Network.Coherent.agreement
  have halong : Along Network.step (fun _ _ => True)
      (Network.boot ι tables listenSocket errno clock) actions :=
    along_of_forall (fun _ _ => trivial) _ actions
  exact run_invariant Network.Coherent
    (fun _ action hcoherent _ => hcoherent.step action)
    (coherent_boot ι tables listenSocket errno clock) halong

def loginOfAlice : LoginForm := ⟨literal "h", literal "1", literal "alice"⟩

def ackForAlice : NsPacket :=
  .filled ⟨nsProtocolVersion, NsPacketType.ack.code, 1, 0, 18⟩
    (literal "Connected as alice") (by decide)

/-- The JOIN packet of the user, and what the user says. -/
def joinOfAlice : RecvSocket where
  pending := [1, 1, 0, 0, 0, 0, 0, 0, 0, 0, 0, 0, 0, 5] ++ literal "alice"
  ending := .failed .eagain
  chunks := []

def textOfAlice : RecvSocket where
  pending := [1, 2, 0, 0, 0, 1, 0, 0, 0, 0, 0, 0, 0, 2] ++ literal "hi"
  ending := .failed .eagain
  chunks := []

/-- A user connects, joins and says "hi". -/
def aliceActions : List (NetworkAction Unit) :=
  [.client () 0 (.connectClicked loginOfAlice none 0),
    .client () 0 (.proceed true), .client () 0 (.proceed true),
    .client () 0 (.proceed true), .accept () 0 4 [],
    .server (.readable ⟨0, nsMaxClients_pos⟩ joinOfAlice fun _ => false),
    .client () 0 (.receive 0 none),
    .client () 0 (.receive 0 (some ackForAlice)),
    .client () 0 (.receive 0 none),
    .client () 0 (.sendClicked (literal "hi") 0),
    .client () 0 (.proceed true),
    .server (.readable ⟨0, nsMaxClients_pos⟩ textOfAlice fun _ => false)]

set_option maxRecDepth 100000 in
example :
    let net := run Network.step
      (Network.boot Unit .empty 3 .eagain fun _ => 0) aliceActions
    (net.stations ()).app.joined = true ∧
      (broadcasts net.server.trace).map NsPacket.payload =
        [literal "* alice joined the chat", literal "alice: hi"] := by
  decide +kernel

end NodeSignal
