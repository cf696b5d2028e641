import NodeSignal.Deliveries
import NodeSignal.FramedRecord
import NodeSignal.History

/-!
# Whose messages are shown

A TEXT packet is broadcast right after the server has read the packet whose
message it shows, and for no other reason.  So every message of the chat was
sent by the client whose name stands before it, no message is shown more
often than it was sent, and the messages of one client are shown in the order
in which they were sent.
-/

namespace NodeSignal

open CStrings Runs

/-- A message, as it was read from a connection and as it was passed on. -/
structure Post where
  connection : ℕ
  packet : NsPacket
  notice : NsPacket

/-- A packet that is read and then broadcast. -/
def post? : Obs → Option Obs → Option Post
  | .dispatched connection packet, some (.broadcast notice) =>
      if notice.header.type = NsPacketType.text.code then
        some ⟨connection, packet, notice⟩
      else none
  | _, _ => none

def posts : List Obs → List Post
  | [] => []
  | obs :: rest => (post? obs rest.head?).toList ++ posts rest

/-- The packets of a connection whose messages were passed on. -/
def postedOn (connection : ℕ) (trace : List Obs) : List NsPacket :=
  ((posts trace).filter fun post => post.connection = connection).map
    Post.packet

/-- What neither is a packet that is read nor passes a message on. -/
def Obs.Still : Obs → Prop
  | .dispatched _ _ => False
  | .broadcast notice => notice.header.type ≠ NsPacketType.text.code
  | _ => True

theorem Obs.Plain.still {obs : Obs} (hplain : obs.Plain) : obs.Still := by
  cases obs <;> first | exact hplain | trivial

/-! ## Reading the record -/

section Posts

variable {before later notes : List Obs} {connection : ℕ}
  {packet notice : NsPacket}

theorem post?_of_still {obs next : Obs} (hstill : next.Still) :
    post? obs (some next) = none := by
  cases obs <;> try rfl
  cases next <;> try rfl
  exact if_neg hstill

/-- Posts do not cross a place that no message follows. -/
theorem posts_append
    (hstart : ∀ obs ∈ later.head?, ∀ connection packet,
      post? (.dispatched connection packet) (some obs) = none) :
    posts (before ++ later) = posts before ++ posts later := by
  induction before with
  | nil => rfl
  | cons obs rest ih =>
      rw [List.cons_append, posts, posts, ih, List.append_assoc]
      cases rest with
      | cons next rest => rfl
      | nil =>
          congr 2
          rw [List.nil_append]
          cases hlater : later.head? with
          | none => rfl
          | some next =>
              cases obs <;> try rfl
              exact hstart next hlater _ _

theorem posts_still (hstill : ∀ obs ∈ notes, obs.Still) :
    posts notes = [] := by
  induction notes with
  | nil => rfl
  | cons obs rest ih =>
      rw [List.forall_mem_cons] at hstill
      rw [posts, ih hstill.2, List.append_nil]
      cases obs <;> first | rfl | exact hstill.1.elim

theorem posts_append_still (hstill : ∀ obs ∈ notes, obs.Still) :
    posts (before ++ notes) = posts before := by
  rw [posts_append, posts_still hstill, List.append_nil]
  intro obs hobs connection packet
  exact post?_of_still (hstill obs (List.mem_of_mem_head? hobs))

/-- A message that is passed on is one post more. -/
theorem posts_append_passedOn
    (htype : notice.header.type = NsPacketType.text.code)
    (hstill : ∀ obs ∈ notes, obs.Still) :
    posts (before ++
        .dispatched connection packet :: .broadcast notice :: notes) =
      posts before ++ [⟨connection, packet, notice⟩] := by
  have hread : post? (.dispatched connection packet)
      (some (.broadcast notice)) = some ⟨connection, packet, notice⟩ :=
    if_pos htype
  rw [posts_append (by simp [post?]), posts, posts, posts_still hstill]
  simp only [List.head?_cons, hread, Option.toList_some]
  rfl

theorem posts_append_dispatched (hstill : ∀ obs ∈ notes, obs.Still) :
    posts (before ++ .dispatched connection packet :: notes) =
      posts before := by
  rw [posts_append (by simp [post?]), posts, posts_still hstill,
    List.append_nil]
  cases hnotes : notes.head? with
  | none => exact List.append_nil _
  | some obs =>
      rw [post?_of_still (hstill obs (List.mem_of_mem_head? hnotes))]
      exact List.append_nil _

theorem textBroadcasts_append (before later : List Obs) :
    textBroadcasts (before ++ later) =
      textBroadcasts before ++ textBroadcasts later := by
  unfold textBroadcasts
  rw [broadcasts_append, List.filter_append]

theorem textBroadcasts_still (hstill : ∀ obs ∈ notes, obs.Still) :
    textBroadcasts notes = [] := by
  unfold textBroadcasts
  rw [List.filter_eq_nil_iff]
  intro shown hshown
  obtain ⟨obs, hobs, hannounced⟩ := List.mem_filterMap.mp hshown
  have hobs' := hstill obs hobs
  cases obs <;> simp_all [Obs.announced, Obs.Still]

theorem dispatchedOn_still (hstill : ∀ obs ∈ notes, obs.Still)
    (connection : ℕ) : dispatchedOn connection notes = [] :=
  dispatchedOn_eq_nil fun _ hmem => hstill _ hmem

end Posts

/-! ## Attribution -/

/-- A message that is passed on, with its author. -/
structure Signed (before : List Obs) (connection : ℕ)
    (packet notice : NsPacket) : Prop where
  text : packet.header.type = NsPacketType.text.code
  filled : packet.header.bodyLen.toNat ≠ 0
  author : ∃ userId name, .joined connection userId name ∈ before ∧
    notice.header.senderId = userId ∧
      notice.payload = name ++ literal ": " ++ CStrings.text packet.body

/-- Every message that is passed on is signed. -/
def AllSigned (trace : List Obs) : Prop :=
  ∀ before connection packet notice later,
    trace = before ++
        .dispatched connection packet :: .broadcast notice :: later →
      notice.header.type = NsPacketType.text.code →
        Signed before connection packet notice

structure Attributed (w : World) : Prop where
  posted : (posts w.trace).map Post.notice = textBroadcasts w.trace
  signed : AllSigned w.trace
  ordered : ∀ connection,
    (postedOn connection w.trace).Sublist (dispatchedOn connection w.trace)

theorem attributed_boot (tables : Tables) (listenSocket : NsSocket)
    (errno : Errno) (clock : Clock) :
    Attributed (World.boot tables listenSocket errno clock) where
  posted := rfl
  signed := by
    intro before connection packet notice later hsplit
    exact absurd (congrArg List.length hsplit) (by simp [World.boot])
  ordered := fun _ => List.Sublist.refl _

section Signatures

variable {trace notes : List Obs}

theorem AllSigned.snoc (hsigned : AllSigned trace) {obs : Obs}
    (hnew : ∀ before connection packet notice,
      trace = before ++ [.dispatched connection packet] →
        obs = .broadcast notice →
          notice.header.type = NsPacketType.text.code →
            Signed before connection packet notice) :
    AllSigned (trace ++ [obs]) := by
  intro before connection packet notice later hsplit htype
  rcases List.eq_nil_or_concat later with rfl | ⟨rest, last, rfl⟩
  · have hread : trace ++ [obs] =
        (before ++ [.dispatched connection packet]) ++
          [.broadcast notice] := by
      rw [hsplit, List.append_assoc]
      rfl
    obtain ⟨hold, hobs⟩ := List.append_inj' hread rfl
    exact hnew before connection packet notice hold
      (List.singleton_inj.mp hobs) htype
  · have hread : trace ++ [obs] =
        (before ++ .dispatched connection packet :: .broadcast notice ::
          rest) ++ [last] := by
      rw [hsplit, List.concat_eq_append, List.append_assoc]
      rfl
    exact hsigned before connection packet notice rest
      (List.append_inj' hread rfl).1 htype

/-- Nothing is passed on by the notes of other operations. -/
theorem AllSigned.append (hsigned : AllSigned trace)
    (hnone : ∀ notice, .broadcast notice ∈ notes →
      notice.header.type ≠ NsPacketType.text.code) :
    AllSigned (trace ++ notes) := by
  induction notes generalizing trace with
  | nil => rwa [List.append_nil]
  | cons obs rest ih =>
      rw [List.append_cons]
      refine ih (hsigned.snoc ?_) fun notice hmem =>
        hnone notice (List.mem_cons_of_mem _ hmem)
      rintro before connection packet notice - rfl htype
      exact absurd htype (hnone notice List.mem_cons_self)

theorem Obs.Still.untexted (hstill : ∀ obs ∈ notes, obs.Still) :
    ∀ notice, .broadcast notice ∈ notes →
      notice.header.type ≠ NsPacketType.text.code :=
  fun notice hmem => hstill (.broadcast notice) hmem

end Signatures

section Steps

variable {w w' : World} {connection : ℕ} {packet : NsPacket}
  {notes : List Obs}

theorem Attributed.still (hattributed : Attributed w)
    (hadds : Adds Obs.Still w w') : Attributed w' := by
  obtain ⟨notes, htrace, hstill⟩ := hadds
  constructor
  · rw [htrace, posts_append_still hstill, textBroadcasts_append,
      textBroadcasts_still hstill, List.append_nil]
    exact hattributed.posted
  · rw [htrace]
    exact hattributed.signed.append (Obs.Still.untexted hstill)
  · intro connection
    unfold postedOn
    rw [htrace, posts_append_still hstill, dispatchedOn_append,
      dispatchedOn_still hstill, List.append_nil]
    exact hattributed.ordered connection

/-- A packet is read, and nothing is passed on. -/
theorem Attributed.read (hattributed : Attributed w)
    (htrace : w'.trace = w.trace ++ .dispatched connection packet :: notes)
    (hstill : ∀ obs ∈ notes, obs.Still) : Attributed w' := by
  constructor
  · have hnone : textBroadcasts (.dispatched connection packet :: notes) =
        [] := (textBroadcasts_still hstill : textBroadcasts notes = [])
    rw [htrace, posts_append_dispatched hstill, textBroadcasts_append,
      hnone, List.append_nil]
    exact hattributed.posted
  · rw [htrace]
    refine hattributed.signed.append fun notice hmem => ?_
    rw [List.mem_cons, or_iff_right (by simp)] at hmem
    exact Obs.Still.untexted hstill notice hmem
  · intro connection'
    unfold postedOn
    rw [htrace, posts_append_dispatched hstill, dispatchedOn_append]
    exact (hattributed.ordered connection').trans
      (List.sublist_append_left _ _)

/-- A packet is read, and its message is passed on. -/
theorem Attributed.passedOn (hattributed : Attributed w)
    {notice : NsPacket}
    (htrace : w'.trace = w.trace ++
      .dispatched connection packet :: .broadcast notice :: notes)
    (htype : notice.header.type = NsPacketType.text.code)
    (hsigned : Signed w.trace connection packet notice)
    (hstill : ∀ obs ∈ notes, obs.Still) : Attributed w' := by
  constructor
  · have hnew : textBroadcasts (.dispatched connection packet ::
        .broadcast notice :: notes) = notice :: textBroadcasts notes := by
      simp [textBroadcasts, Obs.announced, htype]
    rw [htrace, posts_append_passedOn htype hstill, List.map_append,
      hattributed.posted, textBroadcasts_append, hnew,
      textBroadcasts_still hstill]
    rfl
  · rw [htrace, List.append_cons, List.append_cons]
    refine AllSigned.append (AllSigned.snoc ?_ ?_)
      (Obs.Still.untexted hstill)
    · exact hattributed.signed.append (by simp)
    · intro before connection' packet' notice' hread hobs _
      obtain ⟨rfl, hpacket⟩ := List.append_inj' hread rfl
      obtain ⟨rfl, rfl⟩ := Obs.dispatched.inj (List.singleton_inj.mp hpacket)
      rw [← Obs.broadcast.inj hobs]
      exact hsigned
  · intro connection'
    have hread : dispatchedOn connection'
        (.dispatched connection packet :: .broadcast notice :: notes) =
          if connection = connection' then [packet] else [] := by
      have hnotes := dispatchedOn_still hstill connection'
      unfold dispatchedOn at hnotes ⊢
      simp only [List.filterMap_cons, Obs.dispatch, hnotes]
      split_ifs <;> rfl
    unfold postedOn
    rw [htrace, posts_append_passedOn htype hstill, List.filter_append,
      List.map_append, dispatchedOn_append, hread]
    refine (hattributed.ordered connection').append ?_
    by_cases hsame : connection = connection' <;> simp [hsame]

theorem PacketOutcome.attributed {index : SlotIndex} {v : World}
    (hattributed : Attributed w) (hread : v.trace =
      w.trace ++ [.dispatched (w.connection index) packet])
    (hclients : v.clients = w.clients)
    (hchatting : (w.clients index).joined →
      .joined (w.connection index) (w.clients index).userId
        (text (w.clients index).username) ∈ w.trace)
    (houtcome : PacketOutcome v index packet w') : Attributed w' := by
  cases houtcome with
  | passedOn notice notes hjoined htext hfilled hcanonical htype hsender
      hpayload htrace hnotes =>
      rw [hclients] at hjoined hsender hpayload
      refine hattributed.passedOn ?_ htype
        ⟨htext, hfilled, _, _, hchatting hjoined, hsender, hpayload⟩
        fun obs hobs => (hnotes obs hobs).still
      rw [htrace, hread, List.append_assoc]
      rfl
  | kept hadds =>
      obtain ⟨notes, htrace, hnotes⟩ := hadds
      have hread' : w'.trace = w.trace ++
          .dispatched (w.connection index) packet :: notes := by
        rw [htrace, hread, List.append_assoc]
        rfl
      exact hattributed.read hread' fun obs hobs => (hnotes obs hobs).still

theorem Attributed.step (hattributed : Attributed w)
    (hsettled : Settled w) (horder : ChatOrder w) (event : Event) :
    Attributed (w.step event) := by
  by_cases hhands : event.Hands
  · cases event with
    | drain index outcomes =>
        unfold World.step
        simp only
        split
        · have hflushed : Adds Obs.Still w (w.flushed index outcomes) :=
            ⟨_, rfl, List.forall_mem_singleton.mpr trivial⟩
          exact hattributed.still (hflushed.trans
            ((plain_drainSlot w index outcomes).mono
              fun _ => Obs.Plain.still))
        · exact hattributed
    | accept outcome =>
        obtain ⟨notes, htrace, hnotes⟩ := nsServerAcceptClient_notes w
          outcome
        refine hattributed.still ⟨notes, htrace, fun obs hobs => ?_⟩
        obtain ⟨connection, socketFd, rfl | ⟨bytes, rfl⟩ | rfl⟩ :=
          hnotes obs hobs <;> trivial
    | _ => exact hhands.elim
  · cases stepOutcome hsettled hhands with
    | reads index packet v hactive hreading hclients hconnection htrace
        houtcome =>
        refine houtcome.attributed hattributed htrace hclients ?_
        intro hjoined
        obtain ⟨before, life, hsegment⟩ :=
          horder.chatting index hactive hjoined
        exact hsegment.joined_mem
    | plain hreading hadds =>
        exact hattributed.still (hadds.mono fun _ => Obs.Plain.still)

end Steps

/-! ## Authenticity -/

section Authenticity

variable {ι : Type*} {net : Network ι}

open Network

/-- Every message shown was sent by the client under whose name it is
shown, and it is shown at most as often, in the order of sending. -/
structure Network.Authentic (net : Network ι) : Prop where
  posted : (posts net.server.trace).map Post.notice =
    textBroadcasts net.server.trace
  signed : AllSigned net.server.trace
  sent : ∀ client socket connection,
    net.links (client, socket) = some connection →
      (postedOn connection net.server.trace).Sublist
        ((net.stations client).sent socket)
  named : ∀ client socket connection,
    net.links (client, socket) = some connection →
      ∀ before packet notice later,
        net.server.trace = before ++
            .dispatched connection packet :: .broadcast notice :: later →
          notice.header.type = NsPacketType.text.code →
            ∃ join, ((net.stations client).sent socket).head? = some join ∧
              join.header.type = NsPacketType.join.code ∧
              notice.payload =
                text join.body ++ literal ": " ++ text packet.body
  shown : ∀ client socket,
    ∀ packet ∈ (net.stations client).received socket,
      packet.header.type = NsPacketType.text.code →
        ∃ post ∈ posts net.server.trace, post.notice = packet

/-- A message that a client has received was broadcast. -/
theorem Network.OneOrder.textBroadcast (horder : net.OneOrder)
    {client : ι} {socket : ℕ} {packet : NsPacket}
    (hmem : packet ∈ (net.stations client).received socket)
    (htype : packet.header.type = NsPacketType.text.code) :
    packet ∈ textBroadcasts net.server.trace := by
  have hchat : packet ∈ chatOf ((net.stations client).received socket) := by
    refine List.mem_filter.mpr ⟨hmem, ?_⟩
    rw [htype]
    decide
  rcases horder.window client socket with hnone | ⟨_, _, _, _, _, hwindow⟩
  · rw [hnone] at hchat
    exact absurd hchat List.not_mem_nil
  · obtain ⟨ack, during, hheard, hack, hwithin, -⟩ := hwindow.ack
    rw [hheard, List.mem_cons] at hchat
    rcases hchat with rfl | hduring
    · exact absurd (hack.1.symm.trans htype) (by decide)
    · refine List.mem_filter.mpr ⟨hwithin.subset hduring, ?_⟩
      exact decide_eq_true htype

theorem Attributed.authentic (hattributed : Attributed net.server)
    (hcoherent : net.Coherent) (horder : net.OneOrder) :
    net.Authentic := by
  refine ⟨hattributed.posted, hattributed.signed, ?_, ?_, ?_⟩
  · intro client socket connection hlink
    exact (hattributed.ordered connection).trans
      (hcoherent.upward client socket connection hlink).sublist
  · intro client socket connection hlink before packet notice later hsplit
      htype
    have hsigned := hattributed.signed before connection packet notice
      later hsplit htype
    obtain ⟨userId, name, hjoined, -, hpayload⟩ := hsigned.author
    have hmem : .joined connection userId name ∈ net.server.trace := by
      rw [hsplit]
      exact List.mem_append_left _ hjoined
    obtain ⟨join, -, hhead, hjoin, rfl⟩ :=
      hcoherent.joined_first hlink hmem
    exact ⟨join, hhead, hjoin, hpayload⟩
  · intro client socket packet hmem htype
    have hshown := horder.textBroadcast hmem htype
    rw [← hattributed.posted] at hshown
    exact List.mem_map.mp hshown

variable [DecidableEq ι]

theorem Attributed.networkStep (hattributed : Attributed net.server)
    (hcoherent : net.Coherent) (action : NetworkAction ι) :
    Attributed (net.step action).server := by
  unfold Network.step
  split_ifs
  · cases action with
    | client client now action => exact hattributed
    | accept client socket socketFd outcomes =>
        exact hattributed.step hcoherent.settled hcoherent.order
          (.accept (.connection socketFd outcomes))
    | server event =>
        exact hattributed.step hcoherent.settled hcoherent.order event
  · exact hattributed

end Authenticity

theorem messages_are_authentic (ι : Type*) [DecidableEq ι]
    (tables : Tables) (listenSocket : NsSocket) (errno : Errno)
    (clock : Clock) (actions : List (NetworkAction ι)) :
    (run Network.step (Network.boot ι tables listenSocket errno clock)
      actions).Authentic := by
  have halong : Along Network.step (fun _ _ => True)
      (Network.boot ι tables listenSocket errno clock) actions :=
    along_of_forall (fun _ _ => trivial) _ actions
  have hrun := run_invariant
    (fun net : Network ι =>
      net.Coherent ∧ net.Heard ∧ Attributed net.server)
    (fun net action hinv _ => ⟨hinv.1.step action,
      hinv.2.1.step hinv.1 action, hinv.2.2.networkStep hinv.1 action⟩)
    ⟨coherent_boot ι tables listenSocket errno clock,
      heard_boot ι tables listenSocket errno clock,
      attributed_boot tables listenSocket errno clock⟩ halong
  exact hrun.2.2.authentic hrun.1 (hrun.1.oneOrder hrun.2.1)

end NodeSignal
