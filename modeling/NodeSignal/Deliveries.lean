import NodeSignal.Network

/-!
# What the clients receive

Every client receives the beginning of what the server has queued for its
connection.  Without the ERROR packets this is the ACK and then a part of the
one log of broadcasts, from the JOIN notice of the client on and without
gaps, so that no two clients see the messages of the chat in different
orders.
-/

namespace NodeSignal

open CStrings Runs

/-- The packets that are not answers to a single client. -/
def chatOf (packets : List NsPacket) : List NsPacket :=
  packets.filter fun packet =>
    packet.header.type ≠ NsPacketType.error.code

@[simp] theorem chatOf_append (before after : List NsPacket) :
    chatOf (before ++ after) = chatOf before ++ chatOf after :=
  List.filter_append _ _

/-- The part of the log that shows behind the ACK of a session. -/
structure Window (log heard : List NsPacket) (userId : UInt32)
    (name : List UInt8) : Prop where
  ack : ∃ ack during, heard = ack :: during ∧ IsAck ack userId name ∧
    during <:+: log ∧
      ∀ notice later, during = notice :: later →
        IsJoinNotice notice userId name

theorem Window.of_prefix {log heard first : List NsPacket}
    {userId : UInt32} {name : List UInt8}
    (hwindow : Window log heard userId name) (hfirst : first <+: heard) :
    first = [] ∨ Window log first userId name := by
  rcases hwindow.ack with ⟨ack, during, rfl, hack, hduring, hnotice⟩
  cases first with
  | nil => exact Or.inl rfl
  | cons head rest =>
      rcases List.cons_prefix_cons.mp hfirst with ⟨rfl, hrest⟩
      refine Or.inr ⟨head, rest, rfl, hack, hrest.isInfix.trans hduring, ?_⟩
      intro notice later hlater
      rcases hrest with ⟨more, hmore⟩
      apply hnotice notice (later ++ more)
      rw [← hmore, hlater, List.cons_append]

theorem Segment.window {connection : ℕ} {userId : UInt32}
    {name : List UInt8} {trace before life rest : List Obs}
    (hsegment : Segment connection userId name trace before life rest) :
    Window (broadcasts trace) (chat connection trace) userId name := by
  rcases hsegment.received with ⟨ack, hack, hchat⟩
  rcases hsegment.notice with ⟨notice, later, hnotice, hlife⟩
  refine ⟨ack, broadcasts life, hchat, hack, ?_, ?_⟩
  · refine ⟨broadcasts before, broadcasts rest, ?_⟩
    rw [hsegment.split, broadcasts_append, broadcasts_cons,
      broadcasts_append, List.append_assoc]
    rfl
  · intro notice' later' heq
    rw [hlife] at heq
    rwa [← (List.cons.inj heq).1]

/-- What the server queues for a connection, besides ERROR packets. -/
theorem ChatOrder.window {w : World} (horder : ChatOrder w)
    (connection : ℕ) :
    chat connection w.trace = [] ∨
      ∃ userId name, .joined connection userId name ∈ w.trace ∧
        Window (broadcasts w.trace) (chat connection w.trace) userId
          name := by
  have hsegment : ∀ {userId name before life rest},
      Segment connection userId name w.trace before life rest →
        ∃ userId name, .joined connection userId name ∈ w.trace ∧
          Window (broadcasts w.trace) (chat connection w.trace) userId
            name := by
    intro userId name before life rest hsegment
    refine ⟨userId, name, ?_, hsegment.window⟩
    rw [hsegment.split]
    simp
  by_cases hfresh : w.connections ≤ connection
  · exact Or.inl (horder.fresh connection hfresh).nothing
  by_cases hhere : ∃ index, (w.clients index).active ∧
      w.connection index = connection
  · rcases hhere with ⟨index, hactive, rfl⟩
    cases hjoined : (w.clients index).joined with
    | false => exact Or.inl (horder.waiting index hactive hjoined).nothing
    | true =>
        rcases horder.chatting index hactive hjoined with
          ⟨before, life, hchatting⟩
        exact Or.inr (hsegment hchatting)
  · have hover := horder.ended connection (not_le.mp hfresh)
      fun index hactive heq => hhere ⟨index, hactive, heq⟩
    cases hover with
    | silent hchat hjoin => exact Or.inl hchat
    | ended userId name before life rest hended hend =>
        exact Or.inr (hsegment hended)

/-! ## The channels -/

section Channels

variable {ι : Type*} {net : Network ι}

open Network

/-- The channels hand over what was put into them, in order. -/
def Network.Heard (net : Network ι) : Prop :=
  ∀ client socket,
    (net.stations client).received socket <+: net.inbound client socket

theorem heard_boot (ι : Type*) (tables : Tables) (listenSocket : NsSocket)
    (errno : Errno) (clock : Clock) :
    (Network.boot ι tables listenSocket errno clock).Heard :=
  fun _ _ => List.nil_prefix

theorem received_prefix (connection : ℕ) {before after : List Obs}
    (hbegins : before <+: after) :
    received connection before <+: received connection after :=
  hbegins.filterMap _

theorem Network.Heard.serves (hheard : net.Heard)
    {server : World} (hgrows : net.server.trace <+: server.trace) :
    Heard { net with server := server } := by
  intro client socket
  refine (hheard client socket).trans ?_
  unfold inbound
  simp only
  split
  · rw [List.prefix_append_right_inj]
    exact received_prefix _ hgrows
  · exact List.prefix_rfl

theorem Network.Coherent.inbound_chat (hcoherent : net.Coherent)
    {client : ι} {socket connection : ℕ}
    (hlink : net.links (client, socket) = some connection) :
    chatOf (net.inbound client socket) =
      chat connection net.server.trace := by
  have hnone : chatOf (net.refusals (client, socket)) = [] := by
    refine List.filter_eq_nil_iff.mpr fun packet hmem => ?_
    simpa using hcoherent.refused _ packet hmem
  unfold inbound
  rw [hlink]
  simp only [chatOf_append, hnone, List.nil_append]
  rfl

/-- All clients see one order: what each of them has received, besides ERROR
packets, is the ACK of its session and then a gapless part of the log. -/
structure Network.OneOrder (net : Network ι) : Prop where
  heard : ∀ client socket,
    (net.stations client).received socket <+: net.inbound client socket
  window : ∀ client socket,
    chatOf ((net.stations client).received socket) = [] ∨
      ∃ connection userId name,
        net.links (client, socket) = some connection ∧
          .joined connection userId name ∈ net.server.trace ∧
          Window (broadcasts net.server.trace)
            (chatOf ((net.stations client).received socket)) userId name

theorem Network.Coherent.oneOrder (hcoherent : net.Coherent)
    (hheard : net.Heard) : net.OneOrder := by
  refine ⟨hheard, fun client socket => ?_⟩
  have hbegins : chatOf ((net.stations client).received socket) <+:
      chatOf (net.inbound client socket) := (hheard client socket).filter _
  cases hlink : net.links (client, socket) with
  | none =>
      rw [hcoherent.unlinked client socket hlink]
      exact Or.inl rfl
  | some connection =>
      rw [hcoherent.inbound_chat hlink] at hbegins
      rcases hcoherent.order.window connection with
        hnothing | ⟨userId, name, hjoined, hwindow⟩
      · rw [hnothing] at hbegins
        exact Or.inl (List.prefix_nil.mp hbegins)
      · rcases hwindow.of_prefix hbegins with hnothing | hshown
        · exact Or.inl hnothing
        · exact Or.inr ⟨connection, userId, name, rfl, hjoined, hshown⟩

/-! ## Steps -/

variable [DecidableEq ι]

theorem Network.Heard.acts (hheard : net.Heard) {client : ι} {now : UInt32}
    {action : ClientAction}
    (hdelivers : net.Delivers (.client client now action)) :
    (net.after (.client client now action)).Heard := by
  intro client' socket
  change ((net.after (.client client now action)).stations
    client').received socket <+: net.inbound client' socket
  rw [after_stations]
  split_ifs with hsame
  · subst hsame
    cases hincoming : (net.stations client').app.incoming action with
    | none =>
        simp only [Station.step, hincoming]
        exact hheard client' socket
    | some entry =>
        have hnext := hdelivers entry hincoming
        simp only [Station.step, hincoming]
        by_cases hown : socket = entry.1
        · subst hown
          rw [record_self]
          exact hnext
        · rw [record_of_ne _ _ hown]
          exact hheard client' socket
  · exact hheard client' socket

theorem Network.Heard.accepts (hheard : net.Heard) {server : World}
    (hgrows : net.server.trace <+: server.trace) {client : ι} {socket : ℕ}
    (hunheard : (net.stations client).received socket = [])
    (connection : ℕ) (refused : List NsPacket) :
    Heard
      { net with
        server := server
        links := Function.update net.links (client, socket)
          (some connection)
        peers := Function.update net.peers connection
          (some (client, socket))
        refusals := Function.update net.refusals (client, socket)
          refused } := by
  intro client' socket'
  by_cases hsame : (client', socket') = (client, socket)
  · rcases Prod.mk.inj hsame with ⟨rfl, rfl⟩
    change (net.stations client').received socket' <+: _
    rw [hunheard]
    exact List.nil_prefix
  · have hserved := hheard.serves hgrows client' socket'
    unfold inbound at hserved ⊢
    simp only at hserved ⊢
    rwa [Function.update_of_ne hsame, Function.update_of_ne hsame]

theorem Network.Heard.step (hheard : net.Heard) (hcoherent : net.Coherent)
    (action : NetworkAction ι) : (net.step action).Heard := by
  unfold Network.step
  split_ifs with hdelivers
  · have hgrows : ∀ event,
        net.server.trace <+: (net.server.step event).trace := fun event =>
      Moves.trace_grows
        (step_moves hcoherent.settled (admitted_anySocket _ event))
    cases action with
    | client client now action => exact hheard.acts hdelivers
    | accept client socket socketFd outcomes =>
        exact hheard.accepts (hgrows _)
          (hcoherent.unlinked client socket hdelivers.2.1) _ _
    | server event => exact hheard.serves (hgrows event)
  · exact hheard

end Channels

theorem coherent_heard_run {ι : Type*} [DecidableEq ι] (tables : Tables)
    (listenSocket : NsSocket) (errno : Errno) (clock : Clock)
    (actions : List (NetworkAction ι)) :
    let net := run Network.step
      (Network.boot ι tables listenSocket errno clock) actions
    net.Coherent ∧ net.Heard := by
  have halong : Along Network.step (fun _ _ => True)
      (Network.boot ι tables listenSocket errno clock) actions :=
    along_of_forall (fun _ _ => trivial) _ actions
  refine run_invariant (fun net : Network ι => net.Coherent ∧ net.Heard) ?_
    ⟨coherent_boot ι tables listenSocket errno clock,
      heard_boot ι tables listenSocket errno clock⟩ halong
  rintro net action ⟨hcoherent, hheard⟩ -
  exact ⟨hcoherent.step action, hheard.step hcoherent action⟩

/-- However clients and server interleave, every client sees a part of the
one log. -/
theorem network_shows_one_log {ι : Type*} [DecidableEq ι] (tables : Tables)
    (listenSocket : NsSocket) (errno : Errno) (clock : Clock)
    (actions : List (NetworkAction ι)) :
    (run Network.step (Network.boot ι tables listenSocket errno clock)
      actions).OneOrder := by
  rcases coherent_heard_run tables listenSocket errno clock actions with
    ⟨hcoherent, hheard⟩
  exact hcoherent.oneOrder hheard

end NodeSignal
