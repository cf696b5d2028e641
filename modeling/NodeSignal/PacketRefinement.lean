import NodeSignal.ByteStreams
import NodeSignal.Framing
import NodeSignal.SlotTable

/-!
# Bytes refine packets

What the two ends know of each other's bytes: a client has written the
packets it sent and, once, the beginning of another; it has consumed the
packets it received; and the server has taken from a connection in use the
packets it read.  So a packet that is parsed is the next one of those that
were sent.
-/

namespace NodeSignal

open CStrings Relation Runs Simulations

/-! ## The invariant -/

section Faith

variable {ι : Type*} {net : ByteNetwork ι}

open ByteNetwork

structure ByteNetwork.Faithful (net : ByteNetwork ι) : Prop where
  coherent : net.toNetwork.Coherent
  heard : net.toNetwork.Heard
  wired : Wired net.server
  lived : Lived none net.server
  peered : ∀ connection endpoint,
    net.peers connection = some endpoint →
      net.links endpoint = some connection
  packed : ∀ client, (net.stations client).app.Packed
  refusals : ∀ endpoint, ∀ packet ∈ net.refusals endpoint, packet.Canonical
  arriving : ∀ endpoint connection,
    net.links endpoint = some connection →
      Arriving net.server connection (net.refusals endpoint)
  written : ∀ client socket,
    CutStream ((net.stations client).sent socket)
      (net.written (client, socket))
      ((net.stations client).app.Mute socket)
  consumed : ∀ client socket,
    net.consumed (client, socket) =
        wires ((net.stations client).received socket) ∨
      ((net.stations client).app.threads socket).Done
  untaken : ∀ connection, net.server.connections ≤ connection →
    net.taken connection = []
  taken : ∀ endpoint connection,
    net.links endpoint = some connection →
      ∀ index, (net.server.clients index).active →
        net.server.connection index = connection →
          net.taken connection =
            wires (dispatchedOn connection net.server.trace)

theorem faithful_boot (ι : Type*) (tables : Tables)
    (listenSocket : NsSocket) (errno : Errno) (clock : Clock) :
    (ByteNetwork.boot ι tables listenSocket errno clock).Faithful where
  coherent := coherent_boot ι tables listenSocket errno clock
  heard := heard_boot ι tables listenSocket errno clock
  wired := wired_boot tables listenSocket errno clock
  lived := lived_boot tables listenSocket errno clock
  peered := by
    intro connection endpoint hpeer
    exact absurd hpeer (by simp [ByteNetwork.boot, Network.boot])
  packed := fun _ => packed_boot
  refusals := by
    intro endpoint packet hmem
    exact absurd hmem List.not_mem_nil
  arriving := by
    intro endpoint connection hlink
    exact absurd hlink (by simp [ByteNetwork.boot, Network.boot])
  written := fun _ _ => ⟨by simp [ByteNetwork.boot, Network.boot,
    Station.boot], List.prefix_rfl, Or.inl rfl⟩
  consumed := fun _ _ => Or.inl rfl
  untaken := fun _ _ => rfl
  taken := by
    intro endpoint connection hlink
    exact absurd hlink (by simp [ByteNetwork.boot, Network.boot])

theorem CanonicalRecord.inbound (hrecord : CanonicalRecord net.server.trace)
    (hrefusals : ∀ endpoint, ∀ packet ∈ net.refusals endpoint,
      packet.Canonical) (client : ι) (socket : ℕ) :
    ∀ packet ∈ net.toNetwork.inbound client socket, packet.Canonical := by
  intro packet hmem
  unfold Network.inbound at hmem
  split at hmem
  · rcases List.mem_append.mp hmem with hrefused | hreceived
    · exact hrefusals _ packet hrefused
    · exact hrecord.received _ packet hreceived
  · exact absurd hmem List.not_mem_nil

theorem ByteNetwork.Faithful.inbound_canonical (hfaithful : net.Faithful)
    (client : ι) (socket : ℕ) :
    ∀ packet ∈ net.toNetwork.inbound client socket, packet.Canonical :=
  hfaithful.wired.canonical.inbound hfaithful.refusals client socket

theorem ByteNetwork.Faithful.received_canonical (hfaithful : net.Faithful)
    (client : ι) (socket : ℕ) :
    ∀ packet ∈ (net.stations client).received socket, packet.Canonical :=
  fun packet hmem => hfaithful.inbound_canonical client socket packet
    ((hfaithful.heard client socket).subset hmem)

/-- The bytes that have arrived are those of the packets on their way. -/
theorem ByteNetwork.Faithful.arrived (hfaithful : net.Faithful)
    (client : ι) (socket : ℕ) :
    net.arrived client socket <+:
      wires (net.toNetwork.inbound client socket) := by
  unfold ByteNetwork.arrived Network.inbound
  cases hlink : net.links (client, socket) with
  | none => exact List.prefix_rfl
  | some connection => exact (hfaithful.arriving _ _ hlink).begins

/-- The packets that the server has read from a linked connection were
sent, and can be received whole. -/
theorem ByteNetwork.Faithful.dispatched_canonical
    (hfaithful : net.Faithful) {client : ι} {socket connection : ℕ}
    (hlink : net.links (client, socket) = some connection) :
    ∀ packet ∈ dispatchedOn connection net.server.trace,
      packet.Canonical := by
  intro packet hmem
  have hupward := hfaithful.coherent.upward client socket connection hlink
  exact (hfaithful.written client socket).canonical packet
    (hupward.subset hmem)

/-! ## Every packet read is the next one -/

/-- A client receives the packet that comes next. -/
theorem ByteNetwork.Faithful.hears (hfaithful : net.Faithful) {client : ι}
    {thread : ℕ} {sock : RecvSocket}
    (hcarries : net.Carries (.receive client thread sock))
    {socket : ℕ}
    (hstate : (net.stations client).app.threads thread =
      .receiving socket)
    {packet : NsPacket}
    (hok : (nsRecvPacket socket sock).result = .ok packet) :
    net.consumed (client, socket) =
        wires ((net.stations client).received socket) ∧
      (net.stations client).received socket ++ [packet] <+:
        net.toNetwork.inbound client socket := by
  have howned := (hfaithful.coherent.mannered client).owned
  have hown : socket = thread := howned.own thread socket (by rw [hstate]; rfl)
  have hconsumed : net.consumed (client, socket) =
      wires ((net.stations client).received socket) := by
    refine (hfaithful.consumed client socket).resolve_right fun hdone => ?_
    rw [hown, hstate] at hdone
    simp [ReceiverThread.Done, ReceiverThread.Past] at hdone
  refine ⟨hconsumed, ?_⟩
  have hnext := hcarries (socket, nsRecvPacket socket sock)
    (by simp [ByteNetwork.reading, hstate])
  simp only at hnext
  have hstream : CutStream (net.toNetwork.inbound client socket)
      (wires (net.toNetwork.inbound client socket)) False :=
    ⟨hfaithful.inbound_canonical client socket, List.prefix_rfl,
      Or.inl rfl⟩
  rw [hconsumed] at hnext
  exact (hstream.next (hfaithful.received_canonical client socket)
    (hnext.trans (hfaithful.arrived client socket))
    (scan_of_nsRecvPacket_ok hok)).2

/-- The server reads the packet that comes next. -/
theorem ByteNetwork.Faithful.reads (hfaithful : net.Faithful)
    {index : SlotIndex} {sock : RecvSocket} {faults : SqliteFaults}
    (hcarries : net.Carries (.server (.readable index sock faults)))
    (hactive : (net.server.clients index).active) {client : ι}
    {socket : ℕ}
    (hlink : net.links (client, socket) =
      some (net.server.connection index)) :
    net.taken (net.server.connection index) =
        wires (dispatchedOn (net.server.connection index)
          net.server.trace) ∧
      scan sock.pending ≠ .refused ∧
      ∀ packet, scan sock.pending = .packet packet →
        dispatchedOn (net.server.connection index) net.server.trace ++
          [packet] <+: (net.stations client).sent socket := by
  have htaken := hfaithful.taken _ _ hlink index hactive rfl
  have hpeer := (hfaithful.coherent.linked _ _ hlink).1
  have hnext := hcarries (net.server.connection index, sock,
    (nsServerHandleClientReadable net.server index sock faults).2)
    (by simp [World.receiving, hactive]) (client, socket) hpeer
  simp only at hnext
  rw [htaken] at hnext
  have hstream := hfaithful.written client socket
  have hcanonical := hfaithful.dispatched_canonical hlink
  exact ⟨htaken, hstream.not_refused hcanonical hnext,
    fun packet hscan => (hstream.next hcanonical hnext hscan).2⟩

/-! ## Steps -/

theorem incoming_of_callback {app : NsClientApp} {action : ClientAction}
    (hcallback : action.isCallback) : app.incoming action = none := by
  cases action <;> first | rfl | exact absurd hcallback Bool.false_ne_true

theorem outgoing_of_callback {app : NsClientApp} {action : ClientAction}
    (hcallback : action.isCallback) (now : UInt32) :
    app.outgoing now action = none := by
  cases action <;> first | rfl | exact absurd hcallback Bool.false_ne_true

theorem ByteNetwork.reading_eq_some {client : ι} {thread : ℕ}
    {sock : RecvSocket} {entry : ℕ × RecvPacketReport}
    (hreading : net.reading client thread sock = some entry) :
    (net.stations client).app.threads thread = .receiving entry.1 ∧
      entry.2 = nsRecvPacket entry.1 sock := by
  unfold ByteNetwork.reading at hreading
  split at hreading
  · next socket hstate =>
      rw [← Option.some.inj hreading]
      exact ⟨hstate, rfl⟩
  · exact absurd hreading (by simp)

theorem ByteNetwork.heardPacket_eq_some {client : ι} {thread : ℕ}
    {sock : RecvSocket} {packet : NsPacket}
    (hheard : net.heardPacket client thread sock = some packet) :
    ∃ socket, (net.stations client).app.threads thread =
        .receiving socket ∧
      (nsRecvPacket socket sock).result = .ok packet := by
  unfold ByteNetwork.heardPacket at hheard
  split at hheard
  · next socket packet' rest reported hreading =>
      rcases ByteNetwork.reading_eq_some hreading with ⟨hstate, hreport⟩
      refine ⟨socket, hstate, ?_⟩
      rw [← hreport, Option.some.inj hheard]
  · exact absurd hheard (by simp)

/-- The channels of the other network allow whatever happens here. -/
theorem ByteNetwork.Faithful.delivers (hfaithful : net.Faithful)
    {action : ByteAction ι} (hcarries : net.Carries action) :
    net.toNetwork.Delivers (net.packetAction action) := by
  cases action with
  | callback client now action =>
      intro entry hentry
      rw [incoming_of_callback hcarries] at hentry
      exact absurd hentry (by simp)
  | proceed client now outcomes =>
      intro entry hentry
      exact absurd hentry (by simp [NsClientApp.incoming])
  | receive client thread sock =>
      intro entry hentry
      cases hheard : net.heardPacket client thread sock with
      | none =>
          rw [hheard] at hentry
          exact absurd hentry (by simp [NsClientApp.incoming])
      | some packet =>
          rcases ByteNetwork.heardPacket_eq_some hheard with
            ⟨socket, hstate, hok⟩
          rw [hheard] at hentry
          simp only [NsClientApp.incoming, hstate, Option.mem_def,
            Option.some.injEq] at hentry
          subst hentry
          exact (hfaithful.hears hcarries hstate hok).2
  | accept client socket socketFd outcomes => exact hcarries
  | server event =>
      intro entry hentry peer hpeer
      unfold World.reading at hentry
      split at hentry
      · next index sock faults =>
          split at hentry
          · next hactive =>
              split at hentry
              · next packet hok =>
                  rw [Option.mem_def, Option.some.injEq] at hentry
                  subst hentry
                  have hlink := hfaithful.peered _ _ hpeer
                  exact (hfaithful.reads hcarries hactive hlink).2.2 packet
                    (scan_of_nsRecvPacket_ok hok)
              · exact absurd hentry (by simp)
          · exact absurd hentry (by simp)
      · exact absurd hentry (by simp)

/-! ### What a wakeup takes -/

section Serving

variable {w : World}

theorem broadcastClient_kept {packet : NsPacket}
    (hlen : packet.header.bodyLen.toNat ≤ nsPacketBodyMax)
    {excludeIndex : Option SlotIndex} {index : SlotIndex}
    {client : NsClient}
    (hactive : (broadcastClient packet hlen excludeIndex index
      client).active) : client.active := by
  unfold broadcastClient at hactive
  split at hactive
  · next hrecipient => exact hrecipient.1
  · exact hactive

/-- A disconnected client leaves its slot, and nobody else enters one. -/
theorem nsServerDisconnectClient_leaves {index : SlotIndex}
    (hactive : (w.clients index).active) (announceLeave : Bool) :
    let after := nsServerDisconnectClient w index announceLeave
    after.connection = w.connection ∧
      ∀ other, (after.clients other).active →
        (w.clients other).active ∧ other ≠ index := by
  simp only
  rcases nsServerDisconnectClient_cases hactive announceLeave with
    heq | ⟨-, notice, hnotice, heq⟩
  · rw [heq]
    refine ⟨rfl, fun other hother => ?_⟩
    rcases releaseSlot_kept hother with ⟨hne, hkept⟩
    exact ⟨by rwa [World.dropped, hkept] at hother, hne⟩
  · rw [heq]
    have hlen := (nsPacketSet_eq_some hnotice).2.2.2.2.1
    have hframe := nsServerBroadcast_frame notice hlen (some index)
      (World.observe { w with clock := w.clock.rest }
        (.disconnected (w.connection index)))
    refine ⟨hframe.1, fun other hother => ?_⟩
    rcases releaseSlot_kept hother with ⟨hne, hkept⟩
    rw [World.departed, hkept, nsServerBroadcast_clients notice hlen]
      at hother
    exact ⟨broadcastClient_kept hlen hother, hne⟩

/-- Without a packet the client is disconnected, or nothing happens. -/
theorem nsServerHandleClientReadable_unread {index : SlotIndex}
    {sock : RecvSocket}
    (hunread : ∀ packet,
      (nsRecvPacket (w.clients index).socketFd sock).result ≠ .ok packet)
    (faults : SqliteFaults) :
    ∃ reported,
      (nsServerHandleClientReadable w index sock faults).1 =
          w.setErrno reported ∨
        (nsServerHandleClientReadable w index sock faults).1 =
          nsServerDisconnectClient (w.setErrno reported) index
            (w.clients index).joined := by
  refine ⟨(nsRecvPacket (w.clients index).socketFd sock).reported, ?_⟩
  unfold nsServerHandleClientReadable
  cases hresult : (nsRecvPacket (w.clients index).socketFd sock).result with
  | ok packet => exact absurd hresult (hunread packet)
  | closed =>
      simp only [hresult]
      exact Or.inr trivial
  | error =>
      simp only [hresult]
      split_ifs
      · exact Or.inl rfl
      · exact Or.inr rfl

theorem dispatchedOn_idle {event : Event} (hadds : Adds Obs.Idle w
    (w.step event)) (connection : ℕ) :
    dispatchedOn connection (w.step event).trace =
      dispatchedOn connection w.trace := by
  rcases hadds with ⟨notes, htrace, hnotes⟩
  rw [htrace, dispatchedOn_append, dispatchedOn_eq_nil fun packet hmem =>
    (hnotes _ hmem).not_dispatched, List.append_nil]

/-- What a wakeup without a packet takes from a connection that stays. -/
theorem ByteNetwork.Faithful.idles (hfaithful : net.Faithful)
    {event : Event} (hcarries : net.Carries (.server event))
    (hwhole : Whole net.server net.peers event)
    (hidle : net.server.reading event = none)
    {entry : ℕ × RecvSocket × RecvSocket}
    (hentry : net.server.receiving event = some entry) {client : ι}
    {socket : ℕ} (hlink : net.links (client, socket) = some entry.1)
    {index : SlotIndex}
    (hactive : ((net.server.step event).clients index).active)
    (hconnection : (net.server.step event).connection index = entry.1) :
    entry.2.1.taken entry.2.2 = [] := by
  unfold World.receiving at hentry
  split at hentry
  · next reader sock faults =>
      split_ifs at hentry with hreader
      rw [← Option.some.inj hentry] at hlink hconnection ⊢
      simp only at hlink hconnection ⊢
      have hvalid := hfaithful.wired.settled.valid reader hreader
      have hstep : net.server.step (.readable reader sock faults) =
          (nsServerHandleClientReadable net.server reader sock faults).1 :=
        if_pos hreader
      rw [nsServerHandleClientReadable_sock]
      cases hscan : scan sock.pending with
      | refused =>
          exact absurd hscan (hfaithful.reads hcarries hreader hlink).2.1
      | packet packet =>
          rcases nsRecvPacket_of_packet hvalid sock hscan with
            ⟨chunks, hrecv⟩
          simp [World.reading, hreader, hrecv] at hidle
      | more =>
          have hpeer := (hfaithful.coherent.linked _ _ hlink).1
          rcases hwhole hreader (by rw [hpeer]; rfl) with
            hnothing | hshown | hdropped
          · simp [RecvSocket.taken, hnothing]
          · exact absurd hscan hshown
          · have hunread : ∀ packet, (nsRecvPacket
                (net.server.clients reader).socketFd sock).result ≠
                  .ok packet := fun packet hok => by
              rw [scan_of_nsRecvPacket_ok hok] at hscan
              exact absurd hscan (by simp)
            rw [hstep] at hactive hconnection hdropped
            rcases nsServerHandleClientReadable_unread hunread faults with
              ⟨reported, hkept | hparted⟩
            · rw [hkept] at hdropped
              exact absurd hreader hdropped
            · rw [hparted] at hactive hconnection
              have hreader' : ((net.server.setErrno reported).clients
                  reader).active := hreader
              rcases nsServerDisconnectClient_leaves hreader'
                (net.server.clients reader).joined with ⟨hsame, hleaves⟩
              rcases hleaves index hactive with ⟨hother, hne⟩
              rw [hsame] at hconnection
              exact absurd (hfaithful.coherent.order.distinct index reader
                hother hreader hconnection) hne
  · exact absurd hentry (by simp)

/-- What the server has taken from a connection in use is what it read. -/
theorem ByteNetwork.Faithful.serves_taken (hfaithful : net.Faithful)
    {event : Event} (hcarries : net.Carries (.server event))
    (hwhole : Whole net.server net.peers event)
    (hlived : Lived none (net.server.step event)) {endpoint : ι × ℕ}
    {connection : ℕ} (hlink : net.links endpoint = some connection)
    {index : SlotIndex}
    (hactive : ((net.server.step event).clients index).active)
    (hconnection :
      (net.server.step event).connection index = connection) :
    extend net.taken (net.taking (.server event)) connection =
      wires (dispatchedOn connection (net.server.step event).trace) := by
  have hmoves := step_moves hfaithful.wired.settled
    (admitted_anySocket net.server event)
  rcases hfaithful.lived.carried hlived (Moves.trace_grows hmoves)
    (hfaithful.coherent.linked _ _ hlink).2 hactive hconnection with
    ⟨other, hother, hsame⟩
  have htaken := hfaithful.taken _ _ hlink other hother hsame
  cases stepAnswers hfaithful.wired.settled event with
  | reads reader packet notes hreader hreading htrace hanswer =>
      rw [htrace, dispatchedOn_append, dispatchedOn_answer hanswer]
      unfold World.reading at hreading
      split at hreading
      · next reader' sock faults =>
          split_ifs at hreading with hreader'
          split at hreading
          · next packet' hok =>
              rcases Prod.mk.inj (Option.some.inj hreading) with
                ⟨hown, rfl⟩
              simp only [taking, World.receiving, hreader', if_true,
                Option.map_some, nsServerHandleClientReadable_sock,
                taken_of_ok hok, hown]
              split_ifs with hmine
              · rw [hmine, extend_self, htaken, wires_append,
                  wires_singleton]
              · rw [extend_of_ne _ _ (Ne.symm hmine), htaken,
                  List.append_nil]
          · exact absurd hreading (by simp)
      · exact absurd hreading (by simp)
  | idle hidle hadds =>
      rw [dispatchedOn_idle hadds, ← htaken]
      cases hentry : net.server.receiving event with
      | none => simp [taking, hentry, extend]
      | some entry =>
          simp only [taking, hentry, Option.map_some]
          by_cases hmine : connection = entry.1
          · have hnothing := hfaithful.idles hcarries hwhole hidle hentry
              (hmine ▸ hlink) hactive (hmine ▸ hconnection)
            rw [hnothing, hmine, extend_self, List.append_nil]
          · exact extend_of_ne _ _ hmine

end Serving

/-! ### The clients -/

variable [DecidableEq ι]

section Stations

variable {station : Station} {socket other : ℕ} {bytes : List UInt8}
  {now : UInt32} {packet : NsPacket}

theorem CutStream.stays {action : ClientAction}
    (hstream : CutStream (station.sent other) bytes
      (station.app.Mute other))
    (hnone : ∀ packet, station.app.outgoing now action ≠
      some (other, packet)) :
    CutStream ((station.step now action).sent other) bytes
      ((station.step now action).app.Mute other) := by
  have hsent : (station.step now action).sent other =
      station.sent other := by
    simp only [Station.step]
    cases houtgoing : station.app.outgoing now action with
    | none => rfl
    | some entry =>
        refine record_of_ne _ _ fun heq => hnone entry.2 ?_
        rw [houtgoing, heq]
  rw [hsent]
  refine ⟨hstream.canonical, hstream.whole, ?_⟩
  exact hstream.cut.imp_right (And.imp_left fun hmute => hmute.step action)

/-- A socket on which something is sent carries whole packets. -/
theorem CutStream.uncut {action : ClientAction}
    (hstream : CutStream (station.sent socket) bytes
      (station.app.Mute socket))
    (houtgoing : station.app.outgoing now action =
      some (socket, packet)) : bytes = wires (station.sent socket) :=
  hstream.cut.resolve_right fun ⟨hmute, _⟩ =>
    hmute.outgoing now action packet houtgoing

/-- The packet goes out. -/
theorem CutStream.says
    (hstream : CutStream (station.sent socket) bytes
      (station.app.Mute socket))
    (houtgoing : station.app.outgoing now (.proceed true) =
      some (socket, packet)) (hcanonical : packet.Canonical) :
    CutStream ((station.step now (.proceed true)).sent socket)
      (bytes ++ packet.wire)
      ((station.step now (.proceed true)).app.Mute socket) := by
  have htold : (station.step now (.proceed true)).sent socket =
      station.sent socket ++ [packet] := by
    simp only [Station.step, houtgoing]
    exact record_self _ _ _
  rw [htold, hstream.uncut houtgoing]
  refine ⟨?_, ?_, Or.inl ?_⟩
  · exact List.forall_mem_append.mpr ⟨hstream.canonical,
      List.forall_mem_singleton.mpr hcanonical⟩
  · rw [wires_append, wires_singleton]
  · rw [wires_append, wires_singleton]

/-- The packet goes out in part, and nothing after it. -/
theorem CutStream.breaks (hmannered : station.Mannered)
    (hstream : CutStream (station.sent socket) bytes
      (station.app.Mute socket))
    (houtgoing : station.app.outgoing now (.proceed true) =
      some (socket, packet)) (hcanonical : packet.Canonical)
    {stump : List UInt8} (hstump : stump <+: packet.wire)
    (hshort : stump.length < packet.wire.length) :
    CutStream ((station.step now (.proceed false)).sent socket)
      (bytes ++ stump)
      ((station.step now (.proceed false)).app.Mute socket) := by
  have htold : (station.step now (.proceed false)).sent =
      station.sent := rfl
  rw [htold, hstream.uncut houtgoing]
  refine ⟨hstream.canonical, List.prefix_append _ _, Or.inr
    ⟨hmannered.mute houtgoing, packet, hcanonical, ?_, ?_⟩⟩
  · rw [wires_append, wires_singleton, List.prefix_append_right_inj]
    exact hstump
  · rw [wires_append, wires_singleton, List.length_append,
      List.length_append]
    exact Nat.add_lt_add_left hshort _

theorem consumed_stays (howned : station.app.Owned) (now : UInt32)
    {action : ClientAction}
    (hconsumed : bytes = wires (station.received socket) ∨
      (station.app.threads socket).Done)
    (hnone : ∀ packet, station.app.incoming action ≠
      some (socket, packet)) :
    bytes = wires ((station.step now action).received socket) ∨
      ((station.step now action).app.threads socket).Done := by
  have hreceived : (station.step now action).received socket =
      station.received socket := by
    simp only [Station.step]
    cases hincoming : station.app.incoming action with
    | none => rfl
    | some entry =>
        refine record_of_ne _ _ fun heq => hnone entry.2 ?_
        rw [hincoming, heq]
  rw [hreceived]
  exact hconsumed.imp_right fun hdone => howned.done_step hdone action

end Stations

/-- A client acts, and its streams are as they should be. -/
theorem ByteNetwork.Faithful.acts (hfaithful : net.Faithful) {client : ι}
    {now : UInt32} {action : ClientAction}
    (hdelivers : net.toNetwork.Delivers (.client client now action))
    (written consumed : ι × ℕ → List UInt8)
    (hothers : ∀ client' socket, client' ≠ client →
      written (client', socket) = net.written (client', socket) ∧
        consumed (client', socket) = net.consumed (client', socket))
    (hwritten : ∀ socket, CutStream
      (((net.stations client).step now action).sent socket)
      (written (client, socket))
      (((net.stations client).step now action).app.Mute socket))
    (hconsumed : ∀ socket, consumed (client, socket) =
        wires (((net.stations client).step now action).received socket) ∨
      (((net.stations client).step now action).app.threads socket).Done) :
    Faithful
      { toNetwork := net.toNetwork.after (.client client now action)
        written := written
        consumed := consumed
        taken := net.taken } := by
  have hstations : ∀ client', (net.toNetwork.after
      (.client client now action)).stations client' =
        if client' = client then (net.stations client').step now action
        else net.stations client' :=
    Network.after_stations
  refine ⟨hfaithful.coherent.acts hdelivers,
    hfaithful.heard.acts hdelivers, hfaithful.wired, hfaithful.lived,
    hfaithful.peered, ?_, hfaithful.refusals, hfaithful.arriving, ?_, ?_,
    hfaithful.untaken, hfaithful.taken⟩
  · intro client'
    simp only [hstations]
    split_ifs
    · exact (hfaithful.packed client').step action
    · exact hfaithful.packed client'
  · intro client' socket
    simp only [hstations]
    split_ifs with hsame
    · subst hsame
      exact hwritten socket
    · rw [(hothers client' socket hsame).1]
      exact hfaithful.written client' socket
  · intro client' socket
    simp only [hstations]
    split_ifs with hsame
    · subst hsame
      exact hconsumed socket
    · rw [(hothers client' socket hsame).2]
      exact hfaithful.consumed client' socket

theorem ByteNetwork.Faithful.calls (hfaithful : net.Faithful) {client : ι}
    {now : UInt32} {action : ClientAction}
    (hdelivers : net.toNetwork.Delivers (.client client now action))
    (houtgoing : (net.stations client).app.outgoing now action = none)
    (hincoming : (net.stations client).app.incoming action = none) :
    Faithful
      { net with
        toNetwork := net.toNetwork.after (.client client now action) } := by
  refine hfaithful.acts hdelivers _ _ (fun _ _ _ => ⟨rfl, rfl⟩) ?_ ?_
  · intro socket
    exact (hfaithful.written client socket).stays (by simp [houtgoing])
  · intro socket
    exact consumed_stays (hfaithful.coherent.mannered client).owned now
      (hfaithful.consumed client socket) (by simp [hincoming])

/-- The main thread sends a packet, or a part of it. -/
theorem ByteNetwork.Faithful.sends (hfaithful : net.Faithful) {client : ι}
    {now : UInt32} {sendOk : Bool} {socket : ℕ} {packet : NsPacket}
    (houtgoing : (net.stations client).app.outgoing now (.proceed true) =
      some (socket, packet)) (bytes : List UInt8)
    (hbytes : if sendOk then bytes = packet.wire
      else bytes <+: packet.wire ∧ bytes.length < packet.wire.length) :
    Faithful
      { net with
        toNetwork := net.toNetwork.after
          (.client client now (.proceed sendOk))
        written := extend net.written (some ((client, socket), bytes)) } := by
  have hmannered := hfaithful.coherent.mannered client
  have hcanonical := (hfaithful.packed client).outgoing houtgoing
  have hstream := hfaithful.written client socket
  have hdelivers : net.toNetwork.Delivers
      (.client client now (.proceed sendOk)) := by
    intro entry hentry
    exact absurd hentry (by simp [NsClientApp.incoming])
  refine hfaithful.acts hdelivers _ _ ?_ ?_ ?_
  · intro client' socket' hne
    exact ⟨extend_of_ne _ _ fun heq => hne (Prod.mk.inj heq).1, rfl⟩
  · intro socket'
    by_cases hown : socket' = socket
    · subst hown
      rw [extend_self]
      cases sendOk with
      | true =>
          rw [if_pos rfl] at hbytes
          rw [hbytes]
          exact hstream.says houtgoing hcanonical
      | false =>
          rw [if_neg Bool.false_ne_true] at hbytes
          exact hstream.breaks hmannered houtgoing hcanonical hbytes.1
            hbytes.2
    · rw [extend_of_ne _ _ fun heq => hown (Prod.mk.inj heq).2]
      refine (hfaithful.written client socket').stays ?_
      intro packet'
      cases sendOk with
      | true =>
          rw [houtgoing]
          intro heq
          exact hown (Prod.mk.inj (Option.some.inj heq)).1.symm
      | false => simp [NsClientApp.outgoing]
  · intro socket'
    exact consumed_stays hmannered.owned now
      (hfaithful.consumed client socket') (by simp [NsClientApp.incoming])

theorem ByteNetwork.Faithful.proceeds (hfaithful : net.Faithful)
    (client : ι) (now : UInt32) (outcomes : List SendOutcome) :
    (net.after (.proceed client now outcomes)).Faithful := by
  cases houtgoing : (net.stations client).app.outgoing now
      (.proceed true) with
  | none =>
      have hsending : net.sending client now outcomes = none := by
        simp [ByteNetwork.sending, houtgoing]
      have hok : net.sendOk client now outcomes = true := by
        simp [ByteNetwork.sendOk, hsending]
      have hdelivers : net.toNetwork.Delivers
          (.client client now (.proceed true)) := by
        intro entry hentry
        exact absurd hentry (by simp [NsClientApp.incoming])
      have hfaith := hfaithful.calls hdelivers houtgoing rfl
      simpa [ByteNetwork.after, packetAction, writing, consuming, taking,
        hsending, hok, extend] using hfaith
  | some entry =>
      rcases entry with ⟨socket, packet⟩
      have hsending : net.sending client now outcomes =
          some (socket, nsSendPacket socket packet outcomes) := by
        simp [ByteNetwork.sending, houtgoing]
      rcases nsSendPacket_handed socket packet outcomes with
        ⟨hsent, hwhole⟩
      have hbytes : if net.sendOk client now outcomes then
            (nsSendPacket socket packet outcomes).sent = packet.wire
          else (nsSendPacket socket packet outcomes).sent <+: packet.wire ∧
            (nsSendPacket socket packet outcomes).sent.length <
              packet.wire.length := by
        by_cases hstatus :
            (nsSendPacket socket packet outcomes).status = 0
        · rw [if_pos (by simp [ByteNetwork.sendOk, hsending, hstatus])]
          exact hwhole hstatus
        · rw [if_neg (by simp [ByteNetwork.sendOk, hsending, hstatus])]
          exact ⟨hsent, nsSendPacket_failed hstatus⟩
      have hfaith := hfaithful.sends houtgoing _ hbytes
      simpa [ByteNetwork.after, packetAction, writing, consuming, taking,
        hsending, extend] using hfaith

/-- A receiver thread goes on; the packet it receives is whole. -/
theorem ByteNetwork.Faithful.receives (hfaithful : net.Faithful)
    {client : ι} {thread : ℕ} {sock : RecvSocket}
    (hcarries : net.Carries (.receive client thread sock)) :
    (net.after (.receive client thread sock)).Faithful := by
  have hdelivers := hfaithful.delivers hcarries
  have howned := (hfaithful.coherent.mannered client).owned
  cases hreading : net.reading client thread sock with
  | none =>
      have hheard : net.heardPacket client thread sock = none := by
        simp [ByteNetwork.heardPacket, hreading]
      simp only [packetAction, hheard] at hdelivers
      have hfaith := hfaithful.calls hdelivers rfl rfl
      simpa [ByteNetwork.after, packetAction, writing, consuming, taking,
        hreading, hheard, extend] using hfaith
  | some entry =>
      rcases entry with ⟨socket, report⟩
      rcases ByteNetwork.reading_eq_some hreading with ⟨hstate, hreport⟩
      simp only at hstate hreport
      subst hreport
      have hown : thread = socket :=
        (howned.own thread socket (by rw [hstate]; rfl)).symm
      have hfaith := hfaithful.acts hdelivers net.written
        (extend net.consumed (some ((client, socket),
          sock.taken (nsRecvPacket socket sock).sock))) ?_ ?_ ?_
      · simpa [ByteNetwork.after, packetAction, writing, consuming, taking,
          hreading, extend] using hfaith
      · intro client' socket' hne
        exact ⟨rfl, extend_of_ne _ _ fun heq => hne (Prod.mk.inj heq).1⟩
      · intro socket'
        exact (hfaithful.written client socket').stays
          (by simp [NsClientApp.outgoing])
      · intro socket'
        by_cases hsame : socket' = socket
        · subst hsame
          rw [extend_self]
          cases hresult : (nsRecvPacket socket' sock).result with
          | ok packet =>
              left
              have hheard : net.heardPacket client thread sock =
                  some packet := by
                have hshape : nsRecvPacket socket' sock =
                    ⟨.ok packet, (nsRecvPacket socket' sock).sock,
                      (nsRecvPacket socket' sock).reported⟩ := by
                  rw [← hresult]
                unfold ByteNetwork.heardPacket
                rw [hreading, hshape]
              have hreceived : ((net.stations client).step 0
                  (.receive thread (some packet))).received socket' =
                    (net.stations client).received socket' ++ [packet] := by
                simp only [Station.step, NsClientApp.incoming, hstate]
                exact record_self _ _ _
              rw [hheard, hreceived, taken_of_ok hresult,
                (hfaithful.hears hcarries hstate hresult).1, wires_append,
                wires_singleton]
          | closed =>
              right
              have hheard : net.heardPacket client thread sock = none := by
                unfold ByteNetwork.heardPacket
                rw [hreading]
                split
                · next heq =>
                    rw [(Prod.mk.inj (Option.some.inj heq)).2] at hresult
                    exact absurd hresult (by simp)
                · rfl
              rw [hheard, ← hown]
              rw [← hown] at hstate
              exact receiveLoop_none hstate
          | error =>
              right
              have hheard : net.heardPacket client thread sock = none := by
                unfold ByteNetwork.heardPacket
                rw [hreading]
                split
                · next heq =>
                    rw [(Prod.mk.inj (Option.some.inj heq)).2] at hresult
                    exact absurd hresult (by simp)
                · rfl
              rw [hheard, ← hown]
              rw [← hown] at hstate
              exact receiveLoop_none hstate
        · rw [extend_of_ne _ _ fun heq => hsame (Prod.mk.inj heq).2]
          refine consumed_stays howned 0
            (hfaithful.consumed client socket') fun packet hincoming => ?_
          cases hheard : net.heardPacket client thread sock with
          | none =>
              rw [hheard] at hincoming
              exact absurd hincoming (by simp [NsClientApp.incoming])
          | some packet' =>
              rw [hheard] at hincoming
              simp only [NsClientApp.incoming, hstate, Option.some.injEq,
                Prod.mk.injEq] at hincoming
              exact hsame hincoming.1.symm


/-! ### The server -/

section Serving

variable {w : World}

theorem World.receiving_connection {event : Event}
    {entry : ℕ × RecvSocket × RecvSocket}
    (hentry : w.receiving event = some entry) :
    ∃ index, (w.clients index).active ∧ w.connection index = entry.1 := by
  unfold World.receiving at hentry
  split at hentry
  · next index sock faults =>
      split_ifs at hentry with hactive
      rw [← Option.some.inj hentry]
      exact ⟨index, hactive, rfl⟩
  · exact absurd hentry (by simp)

/-- The server reads a packet, or part of one on a stream that ends. -/
theorem ByteNetwork.Faithful.serves (hfaithful : net.Faithful)
    {event : Event} (hfits : event.Fits net.server)
    (hwhole : Whole net.server net.peers event)
    (hcarries : net.Carries (.server event)) :
    (net.after (.server event)).Faithful := by
  have hdelivers := hfaithful.delivers hcarries
  have hsettled := hfaithful.wired.settled
  have hmoves := step_moves hsettled (admitted_anySocket net.server event)
  have hgrows := Moves.trace_grows hmoves
  have hlived : Lived none (net.server.step event) :=
    Moves.invariant (fun _ _ _ hlived hmove => hmove.lived hlived) hmoves
      hsettled hfaithful.lived
  refine ⟨hfaithful.coherent.serves hdelivers,
    hfaithful.heard.serves hgrows, hfaithful.wired.step hfits, hlived,
    hfaithful.peered, hfaithful.packed, hfaithful.refusals, ?_,
    hfaithful.written, hfaithful.consumed, ?_, ?_⟩
  · intro endpoint connection hlink
    exact (hfaithful.arriving _ _ hlink).step hfaithful.wired
      hfaithful.lived hfits hlived (hfaithful.coherent.linked _ _ hlink).2
  · intro connection hle
    have hfresh : net.server.connections ≤ connection :=
      (Moves.connections_le hmoves).trans hle
    simp only [ByteNetwork.after, taking]
    cases hentry : net.server.receiving event with
    | none => exact hfaithful.untaken connection hfresh
    | some entry =>
        rcases World.receiving_connection hentry with
          ⟨index, hactive, hown⟩
        have hlt := hfaithful.lived.numbered index hactive
        refine (extend_of_ne _ _ ?_).trans
          (hfaithful.untaken connection hfresh)
        omega
  · intro endpoint connection hlink index hactive hconnection
    exact hfaithful.serves_taken hcarries hwhole hlived hlink hactive
      hconnection

end Serving

theorem refusal_canonical {w : World} {packet : NsPacket}
    (hmem : packet ∈ refusal w) : packet.Canonical := by
  unfold refusal at hmem
  split at hmem
  · exact absurd hmem List.not_mem_nil
  · exact nsPacketSet_canonical (by decide) (Option.mem_toList.mp hmem)

/-- The server accepts a connection; its streams are still empty. -/
theorem ByteNetwork.Faithful.accepts (hfaithful : net.Faithful)
    {client : ι} {socket : ℕ} {socketFd : NsSocket}
    {outcomes : List SendOutcome}
    (hcarries :
      net.Carries (.accept client socket socketFd outcomes)) :
    (net.after (.accept client socket socketFd outcomes)).Faithful := by
  have hdelivers : net.toNetwork.Delivers
      (.accept client socket socketFd outcomes) := hcarries
  rcases hcarries with ⟨-, hpending, hvalid⟩
  have hsettled := hfaithful.wired.settled
  let event : Event := .accept (.connection socketFd outcomes)
  have hfits : event.Fits net.server := trivial
  have hnothing : net.Carries (.server event) := fun _ hentry =>
    absurd hentry.symm (Option.some_ne_none _)
  have hmoves := step_moves hsettled (admitted_anySocket net.server event)
  have hlived : Lived none (net.server.step event) :=
    Moves.invariant (fun _ _ _ hlived hmove => hmove.lived hlived) hmoves
      hsettled hfaithful.lived
  have hconnections := nsServerAcceptClient_connections net.server hvalid
    outcomes
  have hother : ∀ {endpoint : ι × ℕ} {connection : ℕ},
      net.links endpoint = some connection →
        endpoint ≠ (client, socket) := by
    rintro _ connection hlink rfl
    exact absurd (hpending.symm.trans hlink) (by simp)
  have hcases : ∀ {endpoint : ι × ℕ} {connection : ℕ},
      Function.update net.links (client, socket)
          (some net.server.connections) endpoint = some connection →
        endpoint = (client, socket) ∧
            connection = net.server.connections ∨
          net.links endpoint = some connection := by
    intro endpoint connection hlink
    by_cases hsame : endpoint = (client, socket)
    · rw [hsame, Function.update_self] at hlink
      exact Or.inl ⟨hsame, (Option.some.inj hlink).symm⟩
    · rw [Function.update_of_ne hsame] at hlink
      exact Or.inr hlink
  have hheard := hfaithful.heard.step hfaithful.coherent
    (.accept client socket socketFd outcomes)
  rw [Network.step, if_pos hdelivers] at hheard
  refine ⟨hfaithful.coherent.accepts hdelivers, hheard,
    hfaithful.wired.step hfits, hlived, ?_, hfaithful.packed, ?_, ?_,
    hfaithful.written, hfaithful.consumed, ?_, ?_⟩
  · intro connection endpoint hpeer
    change Function.update net.peers net.server.connections
      (some (client, socket)) connection = some endpoint at hpeer
    change Function.update net.links (client, socket)
      (some net.server.connections) endpoint = some connection
    by_cases hnew : connection = net.server.connections
    · rw [hnew, Function.update_self] at hpeer
      rw [← Option.some.inj hpeer, Function.update_self, hnew]
    · rw [Function.update_of_ne hnew] at hpeer
      have hlink := hfaithful.peered _ _ hpeer
      rw [Function.update_of_ne (hother hlink), hlink]
  · intro endpoint packet hmem
    change packet ∈ Function.update net.refusals (client, socket)
      (refusal net.server) endpoint at hmem
    by_cases hsame : endpoint = (client, socket)
    · rw [hsame, Function.update_self] at hmem
      exact refusal_canonical hmem
    · rw [Function.update_of_ne hsame] at hmem
      exact hfaithful.refusals endpoint packet hmem
  · intro endpoint connection hlink
    change Arriving (net.server.step event) connection
      (Function.update net.refusals (client, socket)
        (refusal net.server) endpoint)
    rcases hcases hlink with ⟨rfl, rfl⟩ | hold
    · rw [Function.update_self]
      exact hfaithful.wired.streamed.arriving hvalid outcomes
    · rw [Function.update_of_ne (hother hold)]
      exact (hfaithful.arriving _ _ hold).step hfaithful.wired
        hfaithful.lived trivial hlived
        (hfaithful.coherent.linked _ _ hold).2
  · intro connection hle
    refine hfaithful.untaken connection (Nat.le_trans ?_ hle)
    exact (Nat.le_succ _).trans_eq hconnections.symm
  · intro endpoint connection hlink index hactive hconnection
    change net.taken connection =
      wires (dispatchedOn connection (net.server.step event).trace)
    rcases hcases hlink with ⟨rfl, rfl⟩ | hold
    · rw [hfaithful.untaken _ le_rfl, dispatchedOn_idle
        (adds_nsServerAcceptClient net.server _), dispatchedOn_eq_nil
          fun packet hmem => lt_irrefl _
            (hfaithful.coherent.vouched.numbered _ _ hmem)]
      rfl
    · exact hfaithful.serves_taken hnothing trivial hlived hold hactive
        hconnection

theorem ByteNetwork.Faithful.step (hfaithful : net.Faithful)
    {action : ByteAction ι} (hfits : net.Fits action) :
    (net.step action).Faithful := by
  unfold ByteNetwork.step
  split_ifs with hcarries
  · cases action with
    | callback client now action =>
        exact hfaithful.calls (hfaithful.delivers hcarries)
          (outgoing_of_callback hcarries now)
          (incoming_of_callback hcarries)
    | proceed client now outcomes =>
        exact hfaithful.proceeds client now outcomes
    | receive client thread sock => exact hfaithful.receives hcarries
    | accept client socket socketFd outcomes =>
        exact hfaithful.accepts hcarries
    | server event => exact hfaithful.serves hfits.1 hfits.2 hcarries
  · exact hfaithful

/-! ## The refinement -/

/-- Every step that fits is a step of the other network, or none. -/
theorem byteNetwork_simulates :
    Simulates (Admitted ByteNetwork.step (@ByteNetwork.Fits ι))
      (Admitted Network.step fun _ _ => True)
      (fun net packets => net.Faithful ∧ net.toNetwork = packets) := by
  rintro net _ _ ⟨hfaithful, rfl⟩ ⟨action, hfits, rfl⟩
  by_cases hcarries : net.Carries action
  · have hstep : (net.step action).toNetwork =
        net.toNetwork.step (net.packetAction action) := by
      rw [ByteNetwork.step, if_pos hcarries, Network.step,
        if_pos (hfaithful.delivers hcarries)]
      rfl
    exact ⟨_, .single ⟨net.packetAction action, trivial, rfl⟩,
      hfaithful.step hfits, hstep⟩
  · have hstep : net.step action = net := if_neg hcarries
    exact ⟨_, .refl, hstep.symm ▸ hfaithful, congrArg _ hstep⟩

/-- What a network of byte streams has in common with one of packets. -/
structure ByteNetwork.Refines (net : ByteNetwork ι)
    (start : Network ι) : Prop where
  packets : ∃ actions, net.toNetwork = run Network.step start actions
  agreement : net.toNetwork.Agreement
  oneOrder : net.toNetwork.OneOrder
  /-- No wakeup ever finds bytes that are refused. -/
  unrefused : ∀ client socket index sock faults,
    net.links (client, socket) = some (net.server.connection index) →
      (net.server.clients index).active →
      net.Carries (.server (.readable index sock faults)) →
        scan sock.pending ≠ .refused
  /-- What was sent whole has been written before the part of a packet. -/
  whole : ∀ client socket,
    wires ((net.stations client).sent socket) <+:
      net.written (client, socket)

theorem ByteNetwork.Faithful.refines {start : Network ι}
    (hfaithful : net.Faithful)
    (hreaches : Relation.ReflTransGen
      (Admitted Network.step fun _ _ => True) start net.toNetwork) :
    net.Refines start where
  packets := by
    rcases exists_run_of_reaches hreaches with ⟨actions, -, hrun⟩
    exact ⟨actions, hrun.symm⟩
  agreement := hfaithful.coherent.agreement
  oneOrder := hfaithful.coherent.oneOrder hfaithful.heard
  unrefused := by
    intro client socket index sock faults hlink hactive hcarries
    exact (hfaithful.reads hcarries hactive hlink).2.1
  whole := fun client socket => (hfaithful.written client socket).whole

theorem bytes_refine_packets (ι : Type*) [DecidableEq ι] (tables : Tables)
    (listenSocket : NsSocket) (errno : Errno) (clock : Clock)
    (actions : List (ByteAction ι))
    (hfits : Along ByteNetwork.step ByteNetwork.Fits
      (ByteNetwork.boot ι tables listenSocket errno clock) actions) :
    (run ByteNetwork.step
        (ByteNetwork.boot ι tables listenSocket errno clock)
        actions).Refines
      (Network.boot ι tables listenSocket errno clock) := by
  rcases byteNetwork_simulates.run
    ⟨faithful_boot ι tables listenSocket errno clock, rfl⟩ hfits with
    ⟨_, hreaches, hfaithful, rfl⟩
  exact hfaithful.refines hreaches

end Faith

/-- A user connects, joins and says "hi", with bytes in several parts. -/
def aliceBytes : List (ByteAction Unit) :=
  [.callback () 0 (.connectClicked loginOfAlice none 0),
    .proceed () 0 [], .proceed () 0 [], .proceed () 0 [.took 6, .took 13],
    .accept () 0 4 [],
    .server (.readable ⟨0, nsMaxClients_pos⟩ joinOfAlice fun _ => false),
    .server (.drain ⟨0, nsMaxClients_pos⟩ [.took 20, .failed .eagain]),
    .server (.drain ⟨0, nsMaxClients_pos⟩ [.took 512]),
    .receive () 0 ⟨[], .eof, []⟩,
    .receive () 0 ⟨ackForAlice.wire, .eof, [3]⟩,
    .receive () 0 ⟨[], .eof, []⟩,
    .callback () 0 (.sendClicked (literal "hi") 0),
    .proceed () 0 [.took 4, .took 12],
    .server (.readable ⟨0, nsMaxClients_pos⟩ textOfAlice fun _ => false)]

set_option maxRecDepth 100000 in
theorem bytes_refine_packets_example :
    (run ByteNetwork.step
        (ByteNetwork.boot Unit .empty 3 .eagain fun _ => 0)
        aliceBytes).Refines
      (Network.boot Unit .empty 3 .eagain fun _ => 0) :=
  bytes_refine_packets Unit .empty 3 .eagain (fun _ => 0) aliceBytes
    ⟨trivial, trivial, trivial, trivial, trivial,
      ⟨trivial, fun _ _ => Or.inr (Or.inl (by decide))⟩,
      ⟨fun _ => by decide +kernel, trivial⟩,
      ⟨fun _ => by decide +kernel, trivial⟩,
      trivial, trivial, trivial, trivial, trivial,
      ⟨trivial, fun _ _ => Or.inr (Or.inl (by decide))⟩, trivial⟩

set_option maxRecDepth 100000 in
example :
    let net := run ByteNetwork.step
      (ByteNetwork.boot Unit .empty 3 .eagain fun _ => 0) aliceBytes
    (net.stations ()).app.joined = true ∧
      (broadcasts net.server.trace).map NsPacket.payload =
        [literal "* alice joined the chat", literal "alice: hi"] := by
  decide +kernel

end NodeSignal
