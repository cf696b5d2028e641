import NodeSignal.Answers
import NodeSignal.RejectedPackets

/-!
# Names as they were sent

Validation looks at the announced length of a JOIN, and everything else at
the C string in its body.  A body with a zero byte passes, and the client
goes by what precedes it, which may be nothing.  In a run in which no such
JOIN passes, every name is the whole body of the JOIN that it came with.
-/

namespace NodeSignal

open CStrings Runs

/-- The JOIN packet that the event makes the server read from the slot. -/
def Requests (w : World) (index : SlotIndex) (packet : NsPacket) :
    Event → Prop
  | .readable index' sock _ =>
      index' = index ∧ (w.clients index).active ∧
        (nsRecvPacket (w.clients index).socketFd sock).result = .ok packet ∧
        packet.header.type = NsPacketType.join.code
  | _ => False

/-- The JOIN packet was handled, and the client joined with it. -/
def JoinedWith (trace : List Obs) (connection : ℕ) (userId : UInt32)
    (name : List UInt8) (packet : NsPacket) : Prop :=
  packet.header.type = NsPacketType.join.code ∧
    [.dispatched connection packet, .joined connection userId name] <:+:
      trace

/-- The name in the slot and in the table is the body of the JOIN packet
with which the client joined. -/
structure ProperName (w : World) (index : SlotIndex) (packet : NsPacket) :
    Prop where
  sent : JoinedWith w.trace (w.connection index) (w.clients index).userId
    (text (w.clients index).username) packet
  username : text (w.clients index).username = packet.payload
  nonempty : 0 < packet.payload.length
  short : packet.payload.length ≤ nsUsernameMax
  stored : ∃ row ∈ w.database.tables.users,
    row.username = packet.payload ∧
      (w.clients index).userId = UInt32.ofNat row.id

def ProperNames (w : World) : Prop :=
  ∀ index, (w.clients index).joined →
    ∃ packet, ProperName w index packet

/-- The C string in the body is not the body, or not of a length that a name
may have. -/
def Improper (packet : NsPacket) : Prop :=
  text packet.body ≠ packet.payload ∨ packet.payload.length = 0 ∨
    nsUsernameMax < packet.payload.length

def RefusesImproper (w : World) (event : Event) : Prop :=
  ∀ index packet, Requests w index packet event → Improper packet →
    (nsServerJoinValidate w index packet).1 = false

/-- A JOIN with a zero byte is refused for another reason. -/
def ZeroFree (w : World) (event : Event) : Prop :=
  ∀ index packet, Requests w index packet event → 0 ∈ packet.payload →
    (w.clients index).joined ∨ nsUsernameMax < packet.payload.length ∨
      nsServerUsernameInUse w packet.body index

/-- Whoever joined did so with a JOIN packet whose body is the name. -/
def NamedInFull (trace : List Obs) : Prop :=
  ∀ connection userId name, .joined connection userId name ∈ trace →
    0 < name.length ∧ name.length ≤ nsUsernameMax ∧
      ∃ packet, JoinedWith trace connection userId name packet ∧
        name = packet.payload

/-! ## Refusals -/

section Requests

variable {w : World} {index : SlotIndex} {packet : NsPacket} {event : Event}

theorem Requests.canonical (hrequests : Requests w index packet event) :
    packet.Canonical := by
  cases event with
  | readable index' sock faults =>
      exact nsRecvPacket_ok_canonical hrequests.2.2.1
  | _ => exact hrequests.elim

/-- Zero bytes aside, the validation refuses what is no name. -/
theorem validate_eq_true_iff (hcanonical : packet.Canonical) :
    (nsServerJoinValidate w index packet).1 ↔
      (w.clients index).joined = false ∧ packet.payload.length ≠ 0 ∧
        packet.payload.length ≤ nsUsernameMax ∧
        nsServerUsernameInUse w packet.body index = false := by
  rw [NsPacket.payload_length hcanonical.bodyLen]
  exact nsServerJoinValidate_eq_true

theorem zero_mem_of_text_ne (hcanonical : packet.Canonical)
    (hne : text packet.body ≠ packet.payload) : 0 ∈ packet.payload := by
  by_contra hzero
  rw [hcanonical.text_body] at hne
  exact hne (text_of_zero_notMem hzero)

theorem refusesImproper_iff :
    RefusesImproper w event ↔ ZeroFree w event := by
  constructor
  · intro hrefuses index packet hrequests hzero
    have hcanonical := hrequests.canonical
    have himproper : Improper packet := by
      left
      intro htext
      rw [← htext] at hzero
      exact zero_notMem_text _ hzero
    have hrefused := hrefuses index packet hrequests himproper
    by_contra hnone
    simp only [not_or, Bool.not_eq_true, not_lt] at hnone
    have hvalid := (validate_eq_true_iff hcanonical).mpr
      ⟨hnone.1, List.length_pos_of_mem hzero |>.ne', hnone.2⟩
    rw [hrefused] at hvalid
    exact Bool.false_ne_true hvalid
  · intro hfree index packet hrequests himproper
    have hcanonical := hrequests.canonical
    rw [← Bool.not_eq_true, validate_eq_true_iff hcanonical]
    rintro ⟨hjoined, hnonempty, hshort, hunused⟩
    rcases himproper with htext | hempty | hlong
    · have hzero := zero_mem_of_text_ne hcanonical htext
      rcases hfree index packet hrequests hzero with hjoined' | hlong | hused
      · rw [hjoined] at hjoined'
        exact Bool.false_ne_true hjoined'
      · exact hlong.not_ge hshort
      · rw [hunused] at hused
        exact Bool.false_ne_true hused
    · exact hnonempty hempty
    · exact hlong.not_ge hshort

/-- The event lets the server read this packet. -/
theorem requests_of_reading (horder : ChatOrder w)
    (hactive : (w.clients index).active)
    (hreading : w.reading event = some (w.connection index, packet))
    (htype : packet.header.type = NsPacketType.join.code) :
    Requests w index packet event := by
  cases event with
  | readable index' sock faults =>
      simp only [World.reading] at hreading
      split_ifs at hreading with hactive'
      split at hreading
      · next packet' hresult =>
          rw [Option.some.injEq, Prod.mk.injEq] at hreading
          have hindex := horder.distinct index' index hactive' hactive
            hreading.1
          subst hindex
          rw [← hreading.2] at htype ⊢
          exact ⟨rfl, hactive, hresult, htype⟩
      · exact absurd hreading.symm (Option.some_ne_none _)
  | _ => exact absurd hreading.symm (Option.some_ne_none _)

/-- Nobody joins with a JOIN that is refused. -/
theorem Requests.refused (hrequests : Requests w index packet event)
    (hrefused : (nsServerJoinValidate w index packet).1 = false) :
    ∃ notes, (w.step event).trace =
        w.trace ++ .dispatched (w.connection index) packet :: notes ∧
      ∀ obs ∈ notes, ∀ connection userId name,
        obs ≠ .joined connection userId name := by
  cases event with
  | readable index' sock faults =>
      rcases hrequests with ⟨rfl, hactive, hread, htype⟩
      have hstep : w.step (.readable index' sock faults) =
          (nsServerHandleClientReadable w index' sock faults).1 :=
        if_pos hactive
      have hvalidate : (nsServerJoinValidate
          (w.dispatching index' sock packet) index' packet).1 =
            (nsServerJoinValidate w index' packet).1 :=
        nsServerJoinValidate_congr rfl
      rcases dispatchPacket_refused htype (hvalidate.trans hrefused)
        faults with
        ⟨message, heq⟩
      have hanswered := adds_nsServerSendError
        (w.dispatching index' sock packet) index' message
      have hdropped := adds_nsServerDisconnectClient (nsServerSendError
        (w.dispatching index' sock packet) index' message) index' false
      have hadds := hanswered.trans (hdropped.mono fun _ => Or.inl)
      rw [hstep, nsServerHandleClientReadable_ok hread faults, heq]
      rcases hadds with ⟨notes, htrace, hnotes⟩
      refine ⟨notes, ?_, ?_⟩
      · rw [htrace, (expels_dispatching w index' sock packet).trace,
          List.append_assoc]
        rfl
      · rintro obs hobs connection userId name rfl
        rcases hnotes _ hobs with hroutine | ⟨answer, hrejected, -⟩
        · exact hroutine
        · simp at hrejected
  | _ => exact hrequests.elim

end Requests

/-! ## Names -/

section Names

variable {w : World} {event : Event}

theorem JoinedWith.append {trace : List Obs} {connection : ℕ}
    {userId : UInt32} {name : List UInt8} {packet : NsPacket}
    (hjoined : JoinedWith trace connection userId name packet)
    (more : List Obs) :
    JoinedWith (trace ++ more) connection userId name packet :=
  ⟨hjoined.1, hjoined.2.trans (List.prefix_append trace more).isInfix⟩

theorem NamedInFull.append {trace notes : List Obs}
    (hnamed : NamedInFull trace)
    (hnotes : ∀ connection userId name,
      .joined connection userId name ∈ notes →
        0 < name.length ∧ name.length ≤ nsUsernameMax ∧
          ∃ packet,
            JoinedWith (trace ++ notes) connection userId name packet ∧
              name = packet.payload) :
    NamedInFull (trace ++ notes) := by
  intro connection userId name hmem
  rcases List.mem_append.mp hmem with hold | hnew
  · rcases hnamed connection userId name hold with
      ⟨hnonempty, hshort, packet, hjoined, hname⟩
    exact ⟨hnonempty, hshort, packet, hjoined.append notes, hname⟩
  · exact hnotes connection userId name hnew

theorem NamedInFull.step (hnamed : NamedInFull w.trace)
    (hsettled : Settled w) (horder : ChatOrder w)
    (hfree : ZeroFree w event) : NamedInFull (w.step event).trace := by
  cases stepAnswers hsettled event with
  | idle hreading hadds =>
      rcases hadds with ⟨notes, htrace, hnotes⟩
      rw [htrace]
      apply hnamed.append
      intro connection userId name hmem
      simpa [Obs.Idle, Obs.Routine] using hnotes _ hmem
  | reads index packet notes hactive hreading htrace hanswer =>
      rw [htrace]
      apply hnamed.append
      intro connection userId name hmem
      rcases List.mem_cons.mp hmem with hobs | hmem
      · simp at hobs
      rcases hanswer.joined hmem with ⟨rfl, htype, rfl, hfirst⟩
      have hrequests := requests_of_reading horder hactive hreading htype
      have hcanonical := hrequests.canonical
      have hvalid : (nsServerJoinValidate w index packet).1 = true := by
        by_contra hrefused
        rw [Bool.not_eq_true] at hrefused
        rcases hrequests.refused hrefused with ⟨others, htrace', hothers⟩
        rw [htrace, List.append_cancel_left_eq, List.cons.injEq] at htrace'
        rw [htrace'.2] at hmem
        exact hothers _ hmem _ _ _ rfl
      rcases (validate_eq_true_iff hcanonical).mp hvalid with
        ⟨hjoined, hnonempty, hshort, hunused⟩
      have hname : text packet.body = packet.payload := by
        by_contra hne
        rcases hfree index packet hrequests
          (zero_mem_of_text_ne hcanonical hne) with hjoined' | hlong | hused
        · rw [hjoined] at hjoined'
          exact Bool.false_ne_true hjoined'
        · exact hlong.not_ge hshort
        · rw [hunused] at hused
          exact Bool.false_ne_true hused
      rw [hname]
      rcases hfirst with ⟨rest, rfl⟩
      refine ⟨Nat.pos_of_ne_zero hnonempty, hshort, packet, ⟨htype, ?_⟩,
        rfl⟩
      rw [← hname]
      exact ⟨w.trace, rest, List.append_assoc _ _ _⟩

theorem properNames_of_named (hnamed : NamedInFull w.trace)
    (hsettled : Settled w) (horder : ChatOrder w)
    (hidentified : Identified w) : ProperNames w := by
  intro index hjoined
  rcases horder.chatting index (hsettled.active index hjoined) hjoined with
    ⟨before, life, hsegment⟩
  rcases hnamed _ _ _ hsegment.joined_mem with ⟨hnonempty, hshort, packet, hsent, hname⟩
  rcases hidentified.user index _ _
    (NsClient.identity_eq_some.mpr ⟨hjoined, rfl, rfl⟩) with
    ⟨row, hrow, husername, hid⟩
  rw [hname] at hnonempty hshort husername
  exact ⟨packet, hsent, hname, hnonempty, hshort, row, hrow, husername, hid⟩

end Names

section Runs

variable (tables : Tables) (listenSocket : NsSocket) (errno : Errno)
  (clock : Clock)

theorem namedInFull_run {events : List Event}
    (hfree : Along World.step ZeroFree
      (World.boot tables listenSocket errno clock) events) :
    NamedInFull (run World.step
      (World.boot tables listenSocket errno clock) events).trace := by
  induction events using List.reverseRecOn with
  | nil =>
      intro connection userId name hmem
      exact absurd hmem List.not_mem_nil
  | append_singleton before event ih =>
      rcases along_append.mp hfree with ⟨hbefore, hevent, -⟩
      rw [run_append]
      exact (ih hbefore).step
        (settled_run tables listenSocket errno clock before)
        (chatOrder_run tables listenSocket errno clock before) hevent

/-- In the runs in which every JOIN with a zero byte is refused for another
reason, and in no others, every client that joined has the name that it sent
and every JOIN that brings no name is refused. -/
theorem names_proper_iff (events : List Event) :
    (Throughout World.step ProperNames
        (World.boot tables listenSocket errno clock) events ∧
      Along World.step RefusesImproper
        (World.boot tables listenSocket errno clock) events) ↔
      Along World.step ZeroFree
        (World.boot tables listenSocket errno clock) events := by
  have hsame : RefusesImproper = ZeroFree := by
    funext w event
    exact propext refusesImproper_iff
  rw [hsame]
  refine ⟨And.right, fun hfree => ⟨?_, hfree⟩⟩
  rw [throughout_iff_initial]
  rintro before ⟨after, rfl⟩
  exact properNames_of_named
    (namedInFull_run tables listenSocket errno clock
      (along_append.mp hfree).1)
    (settled_run tables listenSocket errno clock before)
    (chatOrder_run tables listenSocket errno clock before)
    (identified_run tables listenSocket errno clock before)

end Runs

/-- The first client sends a JOIN whose body is a single zero byte. -/
def namelessEvents : List Event :=
  [.accept (.connection 4 []),
    .readable ⟨0, nsMaxClients_pos⟩ (joinRequest 0) fun _ => false]

set_option maxRecDepth 100000 in
theorem namelessEvents_joins :
    let client := (run World.step
      (World.boot .empty 3 .eagain fun _ => 0) namelessEvents).clients
        ⟨0, nsMaxClients_pos⟩
    client.joined ∧ text client.username = [] := by
  decide +kernel

/-- Its client joins under the empty name. -/
theorem names_not_always_proper :
    ¬ ∀ tables listenSocket errno clock events,
      Throughout World.step ProperNames
          (World.boot tables listenSocket errno clock) events ∧
        Along World.step RefusesImproper
          (World.boot tables listenSocket errno clock) events := by
  intro hall
  have hthroughout := (hall .empty 3 .eagain (fun _ => 0)
    namelessEvents).1
  have hproper := (throughout_iff_initial _ _).mp hthroughout
    namelessEvents List.prefix_rfl
  rcases namelessEvents_joins with ⟨hjoined, hempty⟩
  rcases hproper _ hjoined with ⟨packet, hname⟩
  have hnonempty := hname.nonempty
  rw [← hname.username, hempty] at hnonempty
  exact Nat.lt_irrefl 0 hnonempty

end NodeSignal
