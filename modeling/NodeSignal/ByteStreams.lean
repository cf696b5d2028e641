import NodeSignal.ByteNetwork
import NodeSignal.Violations

/-!
# Byte streams

A sender's bytes are those of its packets, and at most once of the beginning
of another one.  A reader that has taken the packets of such a stream finds
the next packet, part of it, or nothing; it never finds bytes that are
refused.  What the kernel has been given for a connection is such a stream,
or part of the refusal.
-/

namespace NodeSignal

open CStrings Relation Runs Simulations

/-! ## One stream -/

/-- The bytes of the packets that were sent whole, and perhaps of the
beginning of one on which the sender has given up. -/
structure CutStream (sent : List NsPacket) (bytes : List UInt8)
    (mute : Prop) : Prop where
  canonical : ∀ packet ∈ sent, packet.Canonical
  whole : wires sent <+: bytes
  cut : bytes = wires sent ∨ mute ∧ ∃ packet : NsPacket,
    packet.Canonical ∧ bytes <+: wires (sent ++ [packet]) ∧
      bytes.length < (wires (sent ++ [packet])).length

section Streams

variable {sent : List NsPacket} {bytes : List UInt8} {mute : Prop}

/-- Packets that continue in canonical ones. -/
theorem CutStream.exists_full (hstream : CutStream sent bytes mute) :
    ∃ full, (∀ packet ∈ full, NsPacket.Canonical packet) ∧
      bytes <+: wires full := by
  rcases hstream.cut with hsame | ⟨-, packet, hcanonical, hbegins, -⟩
  · exact ⟨sent, hstream.canonical, hsame ▸ List.prefix_rfl⟩
  · refine ⟨sent ++ [packet], ?_, hbegins⟩
    exact List.forall_mem_append.mpr
      ⟨hstream.canonical, List.forall_mem_singleton.mpr hcanonical⟩

/-- The packets whose bytes are there are the first ones sent. -/
theorem CutStream.prefix_sent (hstream : CutStream sent bytes mute)
    {first : List NsPacket} (hfirst : ∀ packet ∈ first, packet.Canonical)
    (hbegins : wires first <+: bytes) : first <+: sent := by
  rcases hstream.cut with hsame | ⟨-, packet, hcanonical, hlonger, hshort⟩
  · rw [hsame] at hbegins
    exact packetCode.prefix_of_stream_prefix hfirst hstream.canonical
      hbegins
  · have hall : ∀ other ∈ sent ++ [packet], other.Canonical :=
      List.forall_mem_append.mpr
        ⟨hstream.canonical, List.forall_mem_singleton.mpr hcanonical⟩
    have hfull := packetCode.prefix_of_stream_prefix hfirst hall
      (hbegins.trans hlonger)
    rcases List.prefix_concat_iff.mp hfull with rfl | hsent
    · exact absurd hbegins.length_le hshort.not_ge
    · exact hsent

/-- The reader of such a stream never finds bytes that are refused. -/
theorem CutStream.not_refused (hstream : CutStream sent bytes mute)
    {read : List NsPacket} (hread : ∀ packet ∈ read, packet.Canonical)
    {pending : List UInt8} (hpending : wires read ++ pending <+: bytes) :
    scan pending ≠ .refused := by
  intro hrefused
  rcases hstream.exists_full with ⟨full, hfull, hbytes⟩
  have hall := hpending.trans hbytes
  rcases packetCode.prefix_of_stream_prefix hread hfull
    ((List.prefix_append _ _).trans hall) with ⟨rest, rfl⟩
  rw [wires_append, List.prefix_append_right_inj] at hall
  rcases hall with ⟨more, hmore⟩
  have hshown : scan (pending ++ more) = .refused := by
    rw [scan_append (by rw [hrefused]; simp), hrefused]
  rw [hmore] at hshown
  cases rest with
  | nil => exact absurd hshown (by decide)
  | cons packet rest =>
      have hcanonical := hfull packet (by simp)
      have hpacket : scan (wires (packet :: rest)) = .packet packet :=
        scan_wire hcanonical (wires rest)
      rw [hpacket] at hshown
      exact absurd hshown (by simp)

/-- A packet that the reader finds is the next one that was sent. -/
theorem CutStream.next (hstream : CutStream sent bytes mute)
    {read : List NsPacket} (hread : ∀ packet ∈ read, packet.Canonical)
    {pending : List UInt8} (hpending : wires read ++ pending <+: bytes)
    {packet : NsPacket} (hscan : scan pending = .packet packet) :
    wires (read ++ [packet]) <+: bytes ∧ read ++ [packet] <+: sent := by
  rcases wire_of_scan hscan with ⟨hcanonical, hwire, -⟩
  have hshown : wires (read ++ [packet]) <+: bytes := by
    refine List.IsPrefix.trans ?_ hpending
    rw [wires_append, wires_singleton, List.prefix_append_right_inj, hwire]
    exact List.take_prefix _ _
  refine ⟨hshown, hstream.prefix_sent ?_ hshown⟩
  exact List.forall_mem_append.mpr
    ⟨hread, List.forall_mem_singleton.mpr hcanonical⟩

end Streams

theorem nsRecvPacket_ok_valid {socketFd : NsSocket} {sock : RecvSocket}
    {packet : NsPacket}
    (hok : (nsRecvPacket socketFd sock).result = .ok packet) :
    nsSocketIsValid socketFd := by
  by_contra hinvalid
  rw [Bool.not_eq_true] at hinvalid
  simp [nsRecvPacket, hinvalid] at hok

/-- A call that returns a packet takes its bytes. -/
theorem taken_of_ok {socketFd : NsSocket} {sock : RecvSocket}
    {packet : NsPacket}
    (hok : (nsRecvPacket socketFd sock).result = .ok packet) :
    sock.taken (nsRecvPacket socketFd sock).sock = packet.wire := by
  have hscan := scan_of_nsRecvPacket_ok hok
  rcases wire_of_scan hscan with ⟨-, hwire, hle⟩
  rcases nsRecvPacket_of_packet (nsRecvPacket_ok_valid hok) sock hscan with
    ⟨chunks, hrecv⟩
  rw [hrecv, hwire]
  unfold RecvSocket.taken
  simp only [List.length_drop]
  congr 1
  omega

/-! ## What arrives at a client -/

/-- The bytes for a connection are those of the packets queued for it, or
part of the refusal if it has no slot. -/
inductive Arriving (w : World) (connection : ℕ) :
    List NsPacket → Prop
  | served (hbegins : handedOver connection w.trace <+:
      wires (received connection w.trace)) : Arriving w connection []
  | refused (refusals : List NsPacket)
      (hlt : connection < w.connections)
      (hgone : ∀ index, (w.clients index).active →
        w.connection index ≠ connection)
      (hnone : received connection w.trace = [])
      (hbegins : handedOver connection w.trace <+: wires refusals) :
      Arriving w connection refusals

theorem Arriving.begins {w : World} {connection : ℕ}
    {refusals : List NsPacket} (harriving : Arriving w connection refusals) :
    handedOver connection w.trace <+:
      wires (refusals ++ received connection w.trace) := by
  cases harriving with
  | served hbegins => exact hbegins
  | refused _ hlt hgone hnone hbegins =>
      rw [hnone, List.append_nil]
      exact hbegins

section Arrivals

variable {w w' : World} {connection : ℕ}

theorem received_about (connection : ℕ) (trace : List Obs) :
    received connection (about connection trace) =
      received connection trace := by
  unfold received about
  rw [List.filterMap_filter]
  congr 1
  funext obs
  cases obs <;> simp [Obs.subject, Obs.receipt]

theorem handedOver_about (connection : ℕ) (trace : List Obs) :
    handedOver connection (about connection trace) =
      handedOver connection trace := by
  induction trace with
  | nil => rfl
  | cons obs rest ih =>
      rw [handedOver_cons, ← ih]
      unfold about
      by_cases hown : obs.subject = some connection
      · rw [List.filter_cons_of_pos (by simpa using hown), handedOver_cons]
      · rw [List.filter_cons_of_neg (by simpa using hown)]
        cases obs <;> simp_all [Obs.subject, Obs.handed]

/-- A connection in a slot was in a slot before, if it is not new. -/
theorem Lived.carried (hlived : Lived none w) (hlived' : Lived none w')
    (hgrows : w.trace <+: w'.trace) (hlt : connection < w.connections)
    {index : SlotIndex} (hactive : (w'.clients index).active)
    (hconnection : w'.connection index = connection) :
    ∃ other, (w.clients other).active ∧ w.connection other = connection := by
  by_contra hnot
  have hgone : ∀ other, (w.clients other).active →
      w.connection other ≠ connection :=
    fun other hother heq => hnot ⟨other, hother, heq⟩
  have hover := hlived.ended connection hlt hgone
  rcases hgrows with ⟨later, hlater⟩
  have hlife := hlived'.present index hactive
  rw [hconnection, ← hlater, about_append] at hlife
  rcases hover.ends_closed with ⟨before, socketFd, heq, -⟩
  rw [heq, List.append_assoc] at hlife
  have hstage := hlife.closed_last.1
  simp [slotStage] at hstage

theorem Lived.gone_step (hlived : Lived none w) (hlived' : Lived none w')
    (hgrows : w.trace <+: w'.trace) (hlt : connection < w.connections)
    (hgone : ∀ index, (w.clients index).active →
      w.connection index ≠ connection) :
    ∀ index, (w'.clients index).active →
      w'.connection index ≠ connection := by
  intro index hactive hconnection
  rcases hlived.carried hlived' hgrows hlt hactive hconnection with
    ⟨other, hother, heq⟩
  exact hgone other hother heq

/-- What `accept()` adds is about the new connection. -/
theorem nsServerAcceptClient_own (w : World) (outcome : AcceptOutcome) :
    ∃ notes, (nsServerAcceptClient w outcome).trace = w.trace ++ notes ∧
      ∀ obs ∈ notes, obs.subject = some w.connections := by
  cases outcome with
  | failed errno => exact ⟨[], (List.append_nil _).symm, by simp⟩
  | connection socketFd outcomes =>
      unfold nsServerAcceptClient
      simp only
      split
      · exact ⟨[], (List.append_nil _).symm, by simp⟩
      · split
        · rcases turnDown_trace (w.greeted socketFd) w.connections socketFd
            outcomes with ⟨bytes, htrace⟩
          refine ⟨[.accepted w.connections socketFd,
            .sent w.connections bytes, .closed w.connections socketFd],
            ?_, by simp [Obs.subject]⟩
          refine htrace.trans ?_
          simp [World.greeted, World.observe]
        · exact ⟨[.accepted w.connections socketFd], rfl,
            by simp [Obs.subject]⟩

/-- What has been handed over stays behind what has been queued. -/
theorem Wired.handed_step (hwired : Wired w) {event : Event}
    (hfits : event.Fits w) (hlt : connection < w.connections)
    (hbegins : handedOver connection w.trace <+:
      wires (received connection w.trace)) :
    handedOver connection (w.step event).trace <+:
      wires (received connection (w.step event).trace) := by
  have hgrow : ∀ {v after : World} (note : Obs → Prop),
      handedOver connection v.trace <+:
        wires (received connection v.trace) →
      Adds note v after →
      (∀ notes, (∀ obs ∈ notes, note obs) →
        handedOver connection notes = []) →
      handedOver connection after.trace <+:
        wires (received connection after.trace) := by
    rintro v after note hv ⟨notes, htrace, hnotes⟩ hquiet
    rw [htrace, handedOver_append, hquiet notes hnotes, List.append_nil,
      received_append, wires_append]
    exact hv.trans (List.prefix_append _ _)
  by_cases hhands : event.Hands
  · cases event with
    | drain index outcomes =>
        unfold World.step
        simp only
        split
        · next hactive =>
            have hflushed := hwired.streamed.flushed hactive
              (hfits hactive)
            refine hgrow _ ?_ (framed_drainSlot w index outcomes)
              fun notes hnotes => handedOver_of_framed hnotes _
            by_cases hown : w.connection index = connection
            · have hstays : ((w.flushed index outcomes).clients
                  index).active := by
                rw [World.flushed_clients, Function.update_self]
                exact hactive
              have hlive := hflushed.live index hstays
              have hconnection : (w.flushed index outcomes).connection
                  index = connection := hown
              rw [hconnection] at hlive
              rw [hlive]
              exact List.prefix_append _ _
            · refine hgrow (fun obs => obs = .sent
                (w.connection index) (nsClientDrainSend outcomes
                  (w.clients index).sendBuf).sent) hbegins
                ⟨_, rfl, by simp⟩ fun notes hnotes => ?_
              refine List.flatMap_eq_nil_iff.mpr fun obs hobs => ?_
              rw [hnotes obs hobs]
              exact if_neg hown
        · exact hbegins
    | accept outcome =>
        rcases nsServerAcceptClient_own w outcome with
          ⟨notes, htrace, hnotes⟩
        refine hgrow _ hbegins ⟨notes, htrace, hnotes⟩ fun notes hnotes => ?_
        refine List.flatMap_eq_nil_iff.mpr fun obs hobs => ?_
        have hsubject := hnotes obs hobs
        cases obs <;> simp_all [Obs.subject, Obs.handed]
        omega
    | _ => exact hhands.elim
  · exact hgrow _ hbegins (framed_step hwired.settled hhands)
      fun notes hnotes => handedOver_of_framed hnotes _

theorem Arriving.step {refusals : List NsPacket}
    (harriving : Arriving w connection refusals) (hwired : Wired w)
    (hlived : Lived none w) {event : Event} (hfits : event.Fits w)
    (hlived' : Lived none (w.step event))
    (hlt : connection < w.connections) :
    Arriving (w.step event) connection refusals := by
  have hmoves := step_moves hwired.settled (admitted_anySocket w event)
  have hgrows := Moves.trace_grows hmoves
  have hle := Moves.connections_le hmoves
  cases harriving with
  | served hbegins => exact .served (hwired.handed_step hfits hlt hbegins)
  | refused _ _ hgone hnone hbegins =>
      have hsilent := hlived.silent hlived' hgrows hle hlt hgone
      refine .refused refusals (hlt.trans_le hle)
        (hlived.gone_step hlived' hgrows hlt hgone) ?_ ?_
      · rw [← received_about, hsilent, received_about]
        exact hnone
      · rw [← handedOver_about, hsilent, handedOver_about]
        exact hbegins

theorem turnDown_trace_of_set {packet : NsPacket}
    (hset : nsPacketSet NsPacketType.error.code 0 (nsUnixTimeNow w)
      (some (literal "The server is full right now.")) = some packet)
    (connection : ℕ) (socketFd : NsSocket) (outcomes : List SendOutcome) :
    (turnDown w connection socketFd outcomes).trace =
      w.trace ++ [.sent connection
        (nsSendPacket socketFd packet outcomes).sent,
        .closed connection socketFd] := by
  simp [turnDown, hset, World.observe, World.setErrno, World.tick]

/-- A newcomer gets a slot, or what is sent of the refusal. -/
theorem Streamed.arriving (hstreamed : Streamed w) {socketFd : NsSocket}
    (hvalid : nsSocketIsValid socketFd) (outcomes : List SendOutcome) :
    Arriving (w.step (.accept (.connection socketFd outcomes)))
      w.connections (refusal w) := by
  rcases hstreamed.fresh w.connections le_rfl with ⟨hnone, hsilent⟩
  unfold World.step nsServerAcceptClient
  simp only [hvalid, Bool.not_true, Bool.false_eq_true, if_false]
  split
  · next hslot =>
      have hslot' : nsServerFindFreeSlot w = none := hslot
      have hfits : (text (literal "The server is full right now.")).length
          ≤ nsPacketBodyMax := by
        decide
      rcases nsPacketSet_isSome NsPacketType.error.code 0 (nsUnixTimeNow w)
        hfits with ⟨packet, hset⟩
      have hset' : nsPacketSet NsPacketType.error.code 0
          (nsUnixTimeNow (w.greeted socketFd))
          (some (literal "The server is full right now.")) = some packet :=
        hset
      have htrace := turnDown_trace_of_set hset' w.connections socketFd
        outcomes
      have hframe := turnDown_frame (w.greeted socketFd) w.connections
        socketFd outcomes
      have hrefusal : refusal w = [packet] := by
        unfold refusal
        rw [hslot']
        simp only [hset]
        rfl
      rw [hrefusal]
      change Arriving (turnDown (w.greeted socketFd) w.connections socketFd
        outcomes) w.connections [packet]
      generalize turnDown (w.greeted socketFd) w.connections socketFd
        outcomes = v at *
      rcases hframe with ⟨hclients, -, -, -, -, hconnection, hconnections⟩
      have htrace' : v.trace = w.trace ++ [.accepted w.connections socketFd,
          .sent w.connections (nsSendPacket socketFd packet outcomes).sent,
          .closed w.connections socketFd] := by
        rw [htrace]
        simp [World.greeted, World.observe]
      refine .refused _ ?_ ?_ ?_ ?_
      · exact hconnections ▸ Nat.lt_succ_self w.connections
      · intro index hactive
        rw [hclients] at hactive
        rw [hconnection]
        exact (hstreamed.numbered index hactive).ne
      · rw [htrace', received_append, hnone]
        rfl
      · rw [htrace', handedOver_append, hsilent]
        have hsent := (nsSendPacket_handed socketFd packet outcomes).1
        simpa [handedOver, Obs.handed, wires_singleton] using hsent
  · next index hslot =>
      have hslot' : nsServerFindFreeSlot w = some index := hslot
      have hrefusal : refusal w = [] := by
        unfold refusal
        rw [hslot']
      rw [hrefusal]
      refine .served ?_
      have hhanded : handedOver w.connections (occupySlot
          (w.greeted socketFd) w.connections socketFd index).trace =
            handedOver w.connections w.trace := by
        refine (handedOver_append w.connections w.trace _).trans ?_
        simp [handedOver, Obs.handed]
      change handedOver w.connections (occupySlot
        (w.greeted socketFd) w.connections socketFd index).trace <+: _
      rw [hhanded, hsilent]
      exact List.nil_prefix

end Arrivals

end NodeSignal
