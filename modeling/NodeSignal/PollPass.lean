import NodeSignal.ChatSegments
import NodeSignal.EventLoop
import NodeSignal.SlotTable

/-!
# Whose readiness a pass acts on

Between `poll()` and the scan of the slots clients are reaped and one is
accepted, and while the scan goes on a handler may free any slot.  The loop
reads the readiness bits of a slot from the poll array each time, so that
they must have been reported for the connection that the slot holds then.
-/

namespace NodeSignal

open CStrings Runs

/-! ## The acts of a pass -/

inductive PollBit where
  | pollin
  | pollout
  | pollerr
  | pollhup
  | pollnval
  deriving DecidableEq

def PollFlags.has (flags : PollFlags) : PollBit → Bool
  | .pollin => flags.pollin
  | .pollout => flags.pollout
  | .pollerr => flags.pollerr
  | .pollhup => flags.pollhup
  | .pollnval => flags.pollnval

@[simp] theorem PollFlags.none_has (bit : PollBit) :
    PollFlags.none.has bit = false := by
  cases bit <;> rfl

/-- The loop finds the bit set and acts on it in this state. -/
structure Act where
  index : SlotIndex
  bit : PollBit
  state : World

def World.reported (w : World) (index : SlotIndex) : PollFlags :=
  (w.pollFds (pollIndex index)).revents

def checkActs (w : World) (index : SlotIndex) : List Act :=
  ([.pollerr, .pollhup, .pollnval].filter (w.reported index).has).map
    fun bit => ⟨index, bit, w⟩

def readActs (w : World) (index : SlotIndex) (calls : SlotCalls) :
    List Act :=
  if (w.reported index).pollin then
    ⟨index, .pollin, w⟩ ::
      checkActs (nsServerHandleClientReadable w index calls.sock
        calls.faults).1 index
  else checkActs w index

/-- The acts of `serveSlot`, in order. -/
def serveActs (calls : SlotIndex → SlotCalls) (w : World)
    (index : SlotIndex) : List Act :=
  let revents := w.reported index
  if !(w.clients index).active || revents = .none then []
  else if revents.pollout then
    let drained := drainSlot w index (calls index).outcomes
    ⟨index, .pollout, w⟩ ::
      if drained.2 = .disconnect then []
      else readActs drained.1 index (calls index)
  else readActs w index (calls index)

def scanActs (calls : SlotIndex → SlotCalls) :
    World → List SlotIndex → List Act
  | _, [] => []
  | w, index :: rest =>
      serveActs calls w index ++ scanActs calls (serveSlot calls w index) rest

/-- The acts of `nsServerRunPass`, in order. -/
def passActs (w : World) (calls : PassCalls) : List Act :=
  let w := nsServerReapAuthTimeouts (pollRevents w calls.revents)
  if calls.pollResult = 0 then []
  else
    let w :=
      if (w.pollFds listenIndex).revents.pollin then
        nsServerAcceptClient w calls.acceptOutcome
      else w
    scanActs calls.slots w (List.finRange nsMaxClients)

/-- The state in which the scan begins. -/
def scanStart (w : World) (calls : PassCalls) : World :=
  let w := nsServerReapAuthTimeouts (pollRevents w calls.revents)
  if calls.pollResult = 0 then w
  else if (w.pollFds listenIndex).revents.pollin then
    nsServerAcceptClient w calls.acceptOutcome
  else w

def Act.perform (calls : SlotIndex → SlotCalls) (act : Act) : World :=
  match act.bit with
  | .pollout =>
      (drainSlot act.state act.index (calls act.index).outcomes).1
  | .pollin =>
      (nsServerHandleClientReadable act.state act.index
        (calls act.index).sock (calls act.index).faults).1
  | .pollerr | .pollhup | .pollnval =>
      nsServerDisconnectClient act.state act.index
        (act.state.clients act.index).joined

/-- The acts are all that happens between the two states; bits that lead to
the same disconnect are acted on together. -/
inductive Performs (calls : SlotIndex → SlotCalls) :
    World → List Act → World → Prop
  | nothing (w : World) : Performs calls w [] w
  | act {rest : List Act} {after : World} (act : Act)
      (hrest : Performs calls (act.perform calls) rest after) :
      Performs calls act.state (act :: rest) after
  | together {rest : List Act} {after : World} (act other : Act)
      (hsame : act.perform calls = other.perform calls)
      (hrest : Performs calls act.state (other :: rest) after) :
      Performs calls act.state (act :: other :: rest) after

section Complete

variable {calls : SlotIndex → SlotCalls} {w middle after : World}
  {first later : List Act}

theorem Performs.append (hfirst : Performs calls w first middle)
    (hlater : Performs calls middle later after) :
    Performs calls w (first ++ later) after := by
  induction hfirst with
  | nothing w => exact hlater
  | act act hrest ih => exact .act act (ih hlater)
  | together act other hsame hrest ih =>
      exact .together act other hsame (ih hlater)

theorem performs_single (act : Act) :
    Performs calls act.state [act] (act.perform calls) :=
  .act act (.nothing _)

variable (calls) (w : World) (index : SlotIndex)

/-- All error bits of a slot lead to the same disconnect. -/
theorem performs_errors {bits : List PollBit} (hne : bits ≠ [])
    (herrors : ∀ bit ∈ bits, bit ∈ [PollBit.pollerr, .pollhup, .pollnval]) :
    Performs calls w (bits.map fun bit => ⟨index, bit, w⟩)
      (nsServerDisconnectClient w index (w.clients index).joined) := by
  have hdropped : ∀ bit ∈ bits, Act.perform calls ⟨index, bit, w⟩ =
      nsServerDisconnectClient w index (w.clients index).joined := by
    intro bit hbit
    have herror := herrors bit hbit
    simp only [List.mem_cons, List.not_mem_nil, or_false] at herror
    rcases herror with rfl | rfl | rfl <;> rfl
  induction bits with
  | nil => exact absurd rfl hne
  | cons bit rest ih =>
      have hbit := hdropped bit List.mem_cons_self
      cases rest with
      | nil =>
          have hsingle : Performs calls w [⟨index, bit, w⟩]
              (Act.perform calls ⟨index, bit, w⟩) :=
            performs_single ⟨index, bit, w⟩
          rwa [hbit] at hsingle
      | cons other rest =>
          have hother := hdropped other
            (List.mem_cons_of_mem _ List.mem_cons_self)
          refine .together _ _ (hbit.trans hother.symm) (ih (by simp) ?_ ?_)
          · exact fun bit hbit => herrors bit (List.mem_cons_of_mem _ hbit)
          · exact fun bit hbit => hdropped bit (List.mem_cons_of_mem _ hbit)

theorem checkSlot_performs :
    Performs calls w (checkActs w index) (checkSlot w index) := by
  have hchecked : checkSlot w index =
      if (w.reported index).pollerr || (w.reported index).pollhup ||
          (w.reported index).pollnval then
        nsServerDisconnectClient w index (w.clients index).joined
      else w := rfl
  have hbits : [PollBit.pollerr, .pollhup, .pollnval].filter
        (w.reported index).has = [] ↔
      ((w.reported index).pollerr || (w.reported index).pollhup ||
        (w.reported index).pollnval) = false := by
    simp [List.filter_eq_nil_iff, PollFlags.has, and_assoc]
  rw [hchecked, checkActs]
  split_ifs with hany
  · refine performs_errors calls w index ?_ fun bit hbit =>
      (List.mem_filter.mp hbit).1
    exact fun hnone => Bool.eq_false_iff.mp (hbits.mp hnone) hany
  · rw [hbits.mpr (Bool.eq_false_iff.mpr hany)]
    exact .nothing w

theorem readSlot_performs :
    Performs calls w (readActs w index (calls index))
      (readSlot w index (calls index)) := by
  unfold readSlot readActs World.reported
  simp only
  split_ifs
  · exact .act ⟨index, .pollin, w⟩ (checkSlot_performs calls _ index)
  · exact checkSlot_performs calls w index

theorem serveSlot_performs :
    Performs calls w (serveActs calls w index)
      (serveSlot calls w index) := by
  unfold serveSlot serveActs World.reported
  simp only
  split_ifs
  · exact .nothing w
  · exact performs_single ⟨index, .pollout, w⟩
  · exact .act ⟨index, .pollout, w⟩ (readSlot_performs calls _ index)
  · exact readSlot_performs calls w index

theorem scan_performs (indices : List SlotIndex) :
    Performs calls w (scanActs calls w indices)
      (indices.foldl (serveSlot calls) w) := by
  induction indices generalizing w with
  | nil => exact .nothing w
  | cons index rest ih => exact (serveSlot_performs calls w index).append (ih _)

/-- What the loop does after it has accepted are the acts. -/
theorem nsServerRunPass_performs (calls : PassCalls) :
    Performs calls.slots (scanStart w calls) (passActs w calls)
      (nsServerRunPass w calls) := by
  unfold nsServerRunPass passActs scanStart
  simp only
  split_ifs
  · exact .nothing _
  · exact scan_performs calls.slots _ _
  · exact scan_performs calls.slots _ _

end Complete

/-! ## Notes of a pass -/

/-- The connection that is read from or disconnected. -/
def Obs.served : Obs → Option ℕ
  | .dispatched connection _ => some connection
  | .disconnected connection => some connection
  | _ => none

def Obs.Closes (connection : ℕ) (obs : Obs) : Prop :=
  ∃ socketFd, obs = .closed connection socketFd

def Obs.Accepts (connection : ℕ) (obs : Obs) : Prop :=
  ∃ socketFd, obs = .accepted connection socketFd

/-- No connection of the notes is served after it was closed, and those
that are served are older than those that are accepted. -/
structure Orderly (base : ℕ) (notes : List Obs) : Prop where
  served : ∀ obs ∈ notes, ∀ connection,
    obs.served = some connection → connection < base
  accepted : ∀ obs ∈ notes, ∀ connection,
    obs.Accepts connection → base ≤ connection
  live : notes.Pairwise fun earlier later => ∀ connection,
    earlier.Closes connection → later.served ≠ some connection

/-- Notes that neither serve, nor accept, nor close. -/
def Plain (notes : List Obs) : Prop :=
  ∀ obs ∈ notes, obs.served = none ∧
    ∀ connection, ¬ obs.Accepts connection ∧ ¬ obs.Closes connection

theorem orderly_nil (base : ℕ) : Orderly base [] :=
  ⟨by simp, by simp, .nil⟩

section Notes

variable {base : ℕ} {notes more : List Obs}

theorem orderly_of_unserved (hunserved : ∀ obs ∈ notes, obs.served = none)
    (haccepted : ∀ obs ∈ notes, ∀ connection,
      obs.Accepts connection → base ≤ connection) :
    Orderly base notes := by
  refine ⟨?_, haccepted, ?_⟩
  · intro obs hobs connection hserved
    rw [hunserved obs hobs] at hserved
    exact absurd hserved (by simp)
  · apply List.pairwise_of_forall_mem_list
    intro earlier _ later hlater connection _
    rw [hunserved later hlater]
    simp

theorem Orderly.append (hnotes : Orderly base notes)
    (hmore : Orderly base more)
    (hopen : ∀ later ∈ more, ∀ connection,
      later.served = some connection →
        ∀ earlier ∈ notes, ¬ earlier.Closes connection) :
    Orderly base (notes ++ more) := by
  constructor
  · intro obs hobs
    rcases List.mem_append.mp hobs with hobs | hobs
    · exact hnotes.served obs hobs
    · exact hmore.served obs hobs
  · intro obs hobs
    rcases List.mem_append.mp hobs with hobs | hobs
    · exact hnotes.accepted obs hobs
    · exact hmore.accepted obs hobs
  · apply List.pairwise_append.mpr ⟨hnotes.live, hmore.live, _⟩
    intro earlier hearlier later hlater connection hcloses hserved
    exact hopen later hlater connection hserved earlier hearlier hcloses

theorem Orderly.append_unserved (hnotes : Orderly base notes)
    (hunserved : ∀ obs ∈ more, obs.served = none)
    (haccepted : ∀ obs ∈ more, ∀ connection,
      obs.Accepts connection → base ≤ connection) :
    Orderly base (notes ++ more) := by
  apply hnotes.append (orderly_of_unserved hunserved haccepted)
  intro later hlater connection hserved
  rw [hunserved later hlater] at hserved
  exact absurd hserved (by simp)

theorem plain_nil : Plain [] := by simp [Plain]

theorem Plain.append (hnotes : Plain notes) (hmore : Plain more) :
    Plain (notes ++ more) := by
  intro obs hobs
  rcases List.mem_append.mp hobs with hobs | hobs
  · exact hnotes obs hobs
  · exact hmore obs hobs

end Notes

/-! ## The state in the middle of a pass -/

/-- What the pass relies on when `poll()` has returned. -/
structure Polled (w : World) : Prop where
  numbered : ∀ index, (w.clients index).active →
    w.connection index < w.connections
  distinct : ∀ left right, (w.clients left).active →
    (w.clients right).active →
      w.connection left = w.connection right → left = right
  idle : ∀ index, (w.clients index).active = false →
    w.reported index = .none

/-- The notes and the slots after a part of the pass that began in `w`.  A
slot other than that of the newcomer still belongs to the connection it had,
and shows what was reported for it, or it is free. -/
structure Punctual (w : World) (newcomer : Option SlotIndex)
    (v : World) : Prop where
  connections : w.connections ≤ v.connections
  kept : ∀ index, some index ≠ newcomer →
    v.connection index = w.connection index
  held : ∀ index, some index ≠ newcomer → (v.clients index).active →
    (w.clients index).active ∧ v.reported index = w.reported index
  fresh : ∀ index, some index = newcomer →
    (v.clients index).joined = false ∧ v.reported index = .none
  idle : ∀ index, (v.clients index).active = false →
    v.reported index = .none
  notes : ∃ notes, v.trace = w.trace ++ notes ∧
    Orderly w.connections notes ∧
    ∀ index, some index ≠ newcomer → (v.clients index).active →
      ∀ obs ∈ notes, ¬ obs.Closes (w.connection index)

theorem Polled.punctual {w : World} (hpolled : Polled w) :
    Punctual w none w := by
  constructor
  · exact le_rfl
  · exact fun _ _ => rfl
  · exact fun _ _ hactive => ⟨hactive, rfl⟩
  · exact fun _ hnone => absurd hnone (Option.some_ne_none _)
  · exact hpolled.idle
  · exact ⟨[], (List.append_nil _).symm, orderly_nil _, by simp⟩

/-- No slot changes hands and nobody is served. -/
structure Continues (newcomer : Option SlotIndex) (v v' : World) :
    Prop where
  connection : v'.connection = v.connection
  connections : v'.connections = v.connections
  active : ∀ index,
    (v'.clients index).active = (v.clients index).active
  joined : ∀ index, some index = newcomer →
    (v'.clients index).joined = (v.clients index).joined
  reported : ∀ index, v'.reported index = v.reported index
  trace : ∃ notes, v'.trace = v.trace ++ notes ∧ Plain notes

section Continuing

variable {newcomer : Option SlotIndex} {w v v' v'' : World}
  {index : SlotIndex}

theorem Continues.refl (newcomer : Option SlotIndex) (v : World) :
    Continues newcomer v v :=
  ⟨rfl, rfl, fun _ => rfl, fun _ _ => rfl, fun _ => rfl, [],
    (List.append_nil _).symm, plain_nil⟩

theorem Continues.trans (hfirst : Continues newcomer v v')
    (hsecond : Continues newcomer v' v'') : Continues newcomer v v'' := by
  rcases hfirst.trace with ⟨notes, htrace, hplain⟩
  rcases hsecond.trace with ⟨more, htrace', hplain'⟩
  constructor
  · exact hsecond.connection.trans hfirst.connection
  · exact hsecond.connections.trans hfirst.connections
  · intro index
    exact (hsecond.active index).trans (hfirst.active index)
  · intro index hnew
    exact (hsecond.joined index hnew).trans (hfirst.joined index hnew)
  · intro index
    exact (hsecond.reported index).trans (hfirst.reported index)
  · refine ⟨notes ++ more, ?_, hplain.append hplain'⟩
    rw [htrace', htrace, List.append_assoc]

/-- Only the surroundings of the slots change. -/
theorem Continues.of_same (hclients : v'.clients = v.clients)
    (hpollFds : v'.pollFds = v.pollFds)
    (hconnection : v'.connection = v.connection)
    (hconnections : v'.connections = v.connections)
    (htrace : v'.trace = v.trace) : Continues newcomer v v' := by
  refine ⟨hconnection, hconnections, ?_, ?_, ?_, [], ?_, plain_nil⟩
  · exact fun _ => by rw [hclients]
  · exact fun _ _ => by rw [hclients]
  · exact fun _ => by rw [World.reported, hpollFds]; rfl
  · rw [htrace, List.append_nil]

theorem continues_observe (v : World) {obs : Obs} (hplain : Plain [obs]) :
    Continues newcomer v (v.observe obs) :=
  ⟨rfl, rfl, fun _ => rfl, fun _ _ => rfl, fun _ => rfl, [obs], rfl,
    hplain⟩

theorem continues_setClient (v : World) {client : NsClient}
    (hactive : client.active = (v.clients index).active)
    (hjoined : some index = newcomer →
      client.joined = (v.clients index).joined) :
    Continues newcomer v (v.setClient index client) := by
  refine ⟨rfl, rfl, ?_, ?_, fun _ => rfl, [], (List.append_nil _).symm,
    plain_nil⟩
  · intro other
    by_cases hother : other = index
    · rw [hother, World.setClient_own, hactive]
    · rw [World.setClient_other v index other client hother]
  · intro other hnew
    by_cases hother : other = index
    · rw [hother, World.setClient_own]
      exact hjoined (hother ▸ hnew)
    · rw [World.setClient_other v index other client hother]

theorem continues_updatePollEvents (v : World) (index : SlotIndex) :
    Continues newcomer v (nsServerUpdatePollEvents v index) := by
  refine ⟨rfl, rfl, fun _ => rfl, fun _ _ => rfl, ?_, [],
    (List.append_nil _).symm, plain_nil⟩
  intro other
  by_cases hother : other = index
  · subst hother
    simp [World.reported, nsServerUpdatePollEvents, World.setPollFd]
  · have hne : pollIndex other ≠ pollIndex index := by simpa using hother
    simp [World.reported, nsServerUpdatePollEvents, World.setPollFd,
      Function.update_of_ne hne]

theorem plain_singleton {obs : Obs} (hserved : obs.served = none)
    (haccepts : ∀ connection, ¬ obs.Accepts connection)
    (hcloses : ∀ connection, ¬ obs.Closes connection) : Plain [obs] := by
  intro note hnote
  rw [List.mem_singleton.mp hnote]
  exact ⟨hserved, fun connection => ⟨haccepts connection,
    hcloses connection⟩⟩

theorem continues_appended (v : World) (index : SlotIndex)
    (packet : NsPacket) (buf : NsSendBuf) :
    Continues newcomer v (v.appended index packet buf) := by
  have hset : Continues newcomer v
      (v.setClient index { v.clients index with sendBuf := buf }) :=
    continues_setClient v rfl fun _ => rfl
  have hplain : Plain [.enqueued (v.connection index) packet] :=
    plain_singleton rfl (by simp [Obs.Accepts]) (by simp [Obs.Closes])
  exact (hset.trans (continues_observe _ hplain)).trans
    (continues_updatePollEvents _ index)

theorem continues_nsServerEnqueuePacket {packet : NsPacket}
    (henqueue : nsServerEnqueuePacket v index packet = some v') :
    Continues newcomer v v' := by
  rcases nsServerEnqueuePacket_eq_some v index packet henqueue with
    ⟨buf, rfl⟩
  exact continues_appended v index packet buf

theorem continues_nsServerSendError (v : World) (index : SlotIndex)
    (message : String) :
    Continues newcomer v (nsServerSendError v index message) := by
  have htick : Continues newcomer v v.tick :=
    .of_same rfl rfl rfl rfl rfl
  rcases nsServerSendError_cases v index message with
    heq | heq | ⟨packet, hset, heq⟩
  · rw [heq]
    exact .refl newcomer v
  · rw [heq]
    exact htick
  · have hplain : Plain [.rejected (v.connection index) packet] :=
      plain_singleton rfl (by simp [Obs.Accepts]) (by simp [Obs.Closes])
    have hrejected := htick.trans (continues_observe v.tick hplain)
    rw [heq]
    rcases v.tick.answered_cases index (nsPacketSet_bodyLen hset) with
      ⟨-, hafter⟩ | ⟨buf, -, hafter⟩
    · rw [hafter]
      exact hrejected
    · rw [hafter]
      exact hrejected.trans (continues_appended _ index packet buf)

theorem Punctual.continues (hv : Punctual w newcomer v)
    (hcontinues : Continues newcomer v v') : Punctual w newcomer v' := by
  constructor
  · rw [hcontinues.connections]
    exact hv.connections
  · rw [hcontinues.connection]
    exact hv.kept
  · intro index hsenior
    rw [hcontinues.active, hcontinues.reported]
    exact hv.held index hsenior
  · intro index hnew
    rw [hcontinues.joined index hnew, hcontinues.reported]
    exact hv.fresh index hnew
  · intro index
    rw [hcontinues.active, hcontinues.reported]
    exact hv.idle index
  · rcases hv.notes with ⟨notes, htrace, horderly, hopen⟩
    rcases hcontinues.trace with ⟨more, htrace', hplain⟩
    refine ⟨notes ++ more, ?_, ?_, ?_⟩
    · rw [htrace', htrace, List.append_assoc]
    · apply horderly.append_unserved
      · exact fun obs hobs => (hplain obs hobs).1
      · exact fun obs hobs connection haccepts =>
          absurd haccepts ((hplain obs hobs).2 connection).1
    · intro index hsenior hactive obs hobs
      rw [hcontinues.active] at hactive
      rcases List.mem_append.mp hobs with hobs | hobs
      · exact hopen index hsenior hactive obs hobs
      · exact ((hplain obs hobs).2 _).2

/-- A slot whose bit is set belongs to the connection it was set for. -/
theorem Punctual.reported (hv : Punctual w newcomer v) {bit : PollBit}
    (hbit : (v.reported index).has bit) :
    some index ≠ newcomer ∧ (v.clients index).active := by
  constructor
  · intro hnew
    rw [(hv.fresh index hnew).2] at hbit
    simp at hbit
  · by_contra hidle
    rw [hv.idle index (by simpa using hidle)] at hbit
    simp at hbit

end Continuing

/-! ## Serving a slot -/

section Serving

variable {newcomer : Option SlotIndex} {w v : World} {index : SlotIndex}

/-- The connection of an active slot is served. -/
theorem Punctual.serve (hpolled : Polled w)
    (hv : Punctual w newcomer v) (hsenior : some index ≠ newcomer)
    (hactive : (v.clients index).active) {obs : Obs}
    (hserved : obs.served = some (v.connection index))
    (haccepts : ∀ connection, ¬ obs.Accepts connection)
    (hcloses : ∀ connection, ¬ obs.Closes connection) :
    Punctual w newcomer (v.observe obs) := by
  rcases hv.notes with ⟨notes, htrace, horderly, hopen⟩
  have hsingle : Orderly w.connections [obs] := by
    constructor
    · intro note hnote connection hconnection
      rw [List.mem_singleton.mp hnote, hserved, Option.some.injEq,
        hv.kept index hsenior] at hconnection
      rw [← hconnection]
      exact hpolled.numbered index (hv.held index hsenior hactive).1
    · intro note hnote connection haccepted
      rw [List.mem_singleton.mp hnote] at haccepted
      exact absurd haccepted (haccepts connection)
    · exact List.pairwise_singleton _ _
  refine ⟨hv.connections, hv.kept, hv.held, hv.fresh, hv.idle,
    notes ++ [obs], ?_, ?_, ?_⟩
  · rw [World.observe, htrace, List.append_assoc]
  · apply horderly.append hsingle
    intro later hlater connection hconnection
    rw [List.mem_singleton.mp hlater, hserved, Option.some.injEq,
      hv.kept index hsenior] at hconnection
    rw [← hconnection]
    exact hopen index hsenior hactive
  · intro other hother hactive' note hnote
    rcases List.mem_append.mp hnote with hnote | hnote
    · exact hopen other hother hactive' note hnote
    · rw [List.mem_singleton.mp hnote]
      exact hcloses _

theorem mem_closingNotes {client : NsClient} {connection : ℕ} {obs : Obs}
    (hobs : obs ∈ closingNotes client connection) :
    obs = .closed connection client.socketFd := by
  unfold closingNotes at hobs
  split_ifs at hobs
  · exact List.mem_singleton.mp hobs
  · exact absurd hobs List.not_mem_nil

theorem releaseSlot_reported (v : World) (index other : SlotIndex) :
    (releaseSlot v index).reported other =
      if other = index then .none else v.reported other := by
  have hpollFds : (releaseSlot v index).pollFds =
      Function.update v.pollFds (pollIndex index) .unused := rfl
  rw [World.reported, hpollFds]
  split_ifs with hother
  · rw [hother, Function.update_self]
    rfl
  · rw [Function.update_of_ne (by simpa using hother)]
    rfl

theorem Punctual.release (hpolled : Polled w)
    (hv : Punctual w newcomer v) (hsenior : some index ≠ newcomer)
    (hactive : (v.clients index).active) :
    Punctual w newcomer (releaseSlot v index) := by
  have hstill : ∀ other, ((releaseSlot v index).clients other).active →
      other ≠ index ∧ (v.clients other).active := by
    intro other hother
    rw [releaseSlot_clients] at hother
    by_cases hsame : other = index
    · rw [hsame, Function.update_self] at hother
      exact absurd hother (by decide)
    · rw [Function.update_of_ne hsame] at hother
      exact ⟨hsame, hother⟩
  refine ⟨hv.connections, hv.kept, ?_, ?_, ?_, ?_⟩
  · intro other hother hactive'
    rcases hstill other hactive' with ⟨hne, hbefore⟩
    rw [releaseSlot_reported, if_neg hne]
    exact hv.held other hother hbefore
  · intro other hnew
    have hne : other ≠ index := fun hsame => hsenior (hsame ▸ hnew)
    rw [releaseSlot_reported, if_neg hne, releaseSlot_clients,
      Function.update_of_ne hne]
    exact hv.fresh other hnew
  · intro other hidle
    rw [releaseSlot_reported]
    split_ifs with hsame
    · rfl
    · rw [releaseSlot_clients, Function.update_of_ne hsame] at hidle
      exact hv.idle other hidle
  · rcases hv.notes with ⟨notes, htrace, horderly, hopen⟩
    refine ⟨notes ++ closingNotes (v.clients index) (v.connection index),
      ?_, ?_, ?_⟩
    · rw [releaseSlot_trace, htrace, List.append_assoc]
    · apply horderly.append_unserved
      · intro obs hobs
        rw [mem_closingNotes hobs]
        rfl
      · intro obs hobs connection haccepts
        rw [mem_closingNotes hobs] at haccepts
        exact absurd haccepts (by simp [Obs.Accepts])
    · intro other hother hactive' obs hobs
      rcases hstill other hactive' with ⟨hne, hbefore⟩
      rcases List.mem_append.mp hobs with hobs | hobs
      · exact hopen other hother hbefore obs hobs
      · rintro ⟨socketFd, hclosed⟩
        rw [mem_closingNotes hobs, Obs.closed.injEq,
          hv.kept index hsenior] at hclosed
        exact hne (hpolled.distinct other index
          (hv.held other hother hbefore).1
          (hv.held index hsenior hactive).1 hclosed.1.symm)

theorem Punctual.disconnected (hpolled : Polled w)
    (hv : Punctual w newcomer v) (hsenior : some index ≠ newcomer)
    (hactive : (v.clients index).active) :
    Punctual w newcomer
      (v.observe (.disconnected (v.connection index))) :=
  hv.serve hpolled hsenior hactive rfl (by simp [Obs.Accepts])
    (by simp [Obs.Closes])

theorem Punctual.joined_senior (hv : Punctual w newcomer v)
    (hjoined : (v.clients index).joined) : some index ≠ newcomer := by
  intro hnew
  rw [(hv.fresh index hnew).1] at hjoined
  exact absurd hjoined Bool.false_ne_true

theorem Punctual.broadcast (hpolled : Polled w)
    (hv : Punctual w newcomer v) (packet : NsPacket)
    (excludeIndex : Option SlotIndex) :
    Punctual w newcomer (nsServerBroadcast v packet excludeIndex) := by
  by_cases hlen : packet.header.bodyLen.toNat ≤ nsPacketBodyMax
  swap
  · rw [nsServerBroadcast_eq, broadcastBody, dif_neg hlen]
    exact hv
  apply nsServerBroadcast_induction packet hlen excludeIndex
  · have hplain : Plain [.broadcast packet] :=
      plain_singleton rfl (by simp [Obs.Accepts]) (by simp [Obs.Closes])
    exact hv.continues (continues_observe v hplain)
  · intro u other buf hu _ _
    exact hu.continues (continues_appended u other packet buf)
  · intro u other hu hrecipient _
    have hsenior := hu.joined_senior hrecipient.2.1
    have hplain : Plain [.overflowed (u.connection other) packet] :=
      plain_singleton rfl (by simp [Obs.Accepts]) (by simp [Obs.Closes])
    have hover := hu.continues (continues_observe u hplain)
    have hgone := hover.disconnected hpolled hsenior hrecipient.1
    exact hgone.release hpolled hsenior hrecipient.1

theorem Punctual.disconnect (hpolled : Polled w)
    (hv : Punctual w newcomer v) (hsenior : some index ≠ newcomer)
    (announceLeave : Bool) :
    Punctual w newcomer
      (nsServerDisconnectClient v index announceLeave) := by
  cases hactive : (v.clients index).active with
  | false =>
      rw [nsServerDisconnectClient_inactive _ _ _ hactive]
      exact hv
  | true =>
      rcases nsServerDisconnectClient_cases hactive announceLeave with
        heq | ⟨hjoined, notice, hnotice, heq⟩
      · rw [heq]
        exact (hv.disconnected hpolled hsenior hactive).release hpolled
          hsenior hactive
      · have htick : Continues newcomer v { v with clock := v.clock.rest } :=
          .of_same rfl rfl rfl rfl rfl
        have hgone := (hv.continues htick).disconnected hpolled hsenior
          hactive
        rw [heq]
        apply (hgone.broadcast hpolled notice (some index)).release hpolled
          hsenior
        rw [nsServerBroadcast_clients notice (nsPacketSet_bodyLen hnotice),
          broadcastClient_excluded]
        exact hactive

theorem Punctual.sendError (hv : Punctual w newcomer v)
    (index : SlotIndex) (message : String) :
    Punctual w newcomer (nsServerSendError v index message) :=
  hv.continues (continues_nsServerSendError v index message)

theorem Punctual.seated (hv : Punctual w newcomer v)
    (hsenior : some index ≠ newcomer) (userId : UInt32)
    (username : List UInt8) :
    Punctual w newcomer (v.seated index userId username) := by
  have hset : Continues newcomer v
      (v.setClient index
        { v.clients index with
          joined := true
          userId := userId
          username := username }) :=
    continues_setClient v rfl fun hnew => absurd hnew hsenior
  have hplain : Plain
      [.joined (v.connection index) userId (text username)] :=
    plain_singleton rfl (by simp [Obs.Accepts]) (by simp [Obs.Closes])
  exact hv.continues (hset.trans (continues_observe _ hplain))

theorem Punctual.welcomeClient (hpolled : Polled w)
    (hv : Punctual w newcomer v) (hsenior : some index ≠ newcomer)
    (userId : UInt32) (username : List UInt8) :
    Punctual w newcomer (welcomeClient v index userId username).2 := by
  have htick : ∀ u : World, Continues newcomer u u.tick :=
    fun u => .of_same rfl rfl rfl rfl rfl
  have hseated := (hv.seated hsenior userId username).continues (htick _)
  unfold NodeSignal.welcomeClient
  simp only
  split
  · exact hseated
  · split
    · exact hseated
    · next after henqueue =>
        have hafter := (hseated.continues
          (continues_nsServerEnqueuePacket henqueue)).continues (htick _)
        split
        · exact hafter.broadcast hpolled _ none
        · exact hafter

theorem Punctual.handleJoin (hpolled : Polled w)
    (hv : Punctual w newcomer v) (hsenior : some index ≠ newcomer)
    (packet : NsPacket) (faults : SqliteFaults) :
    Punctual w newcomer (nsServerHandleJoin v index packet faults).2 := by
  have hregistered : Punctual w newcomer (v.registered faults packet.body) :=
    hv.continues (.of_same rfl rfl rfl rfl rfl)
  have hcases := nsServerHandleJoin_cases v index packet faults
  generalize nsServerHandleJoin v index packet faults = handled at *
  cases hcases with
  | refused message hrefused hfits =>
      dsimp only
      exact hv.sendError index message
  | unregistered hvalid hunknown =>
      dsimp only
      exact hregistered.sendError index _
  | welcomed userId hvalid hknown =>
      exact hregistered.welcomeClient hpolled hsenior userId _

theorem Punctual.handleText (hpolled : Polled w)
    (hv : Punctual w newcomer v) (index : SlotIndex) (packet : NsPacket)
    (faults : SqliteFaults) :
    Punctual w newcomer (nsServerHandleText v index packet faults).2 := by
  have htick : Punctual w newcomer v.tick :=
    hv.continues (.of_same rfl rfl rfl rfl rfl)
  have hstored : Punctual w newcomer (v.stored index faults packet.body) :=
    htick.continues (.of_same rfl rfl rfl rfl rfl)
  have hcases := nsServerHandleText_cases v index packet faults
  generalize nsServerHandleText v index packet faults = handled at *
  cases hcases with
  | unjoined hjoined =>
      dsimp only
      exact htick.sendError index _
  | empty hjoined hempty =>
      dsimp only
      exact htick.sendError index _
  | long hjoined hlen hlong =>
      dsimp only
      exact htick.sendError index _
  | unstored displayText hjoined hlen hdisplay hinserted =>
      dsimp only
      exact hstored.sendError index _
  | broadcast displayText notice hjoined hlen hdisplay hinserted hnotice =>
      exact hstored.broadcast hpolled notice none

theorem Punctual.dispatch (hpolled : Polled w)
    (hv : Punctual w newcomer v) (hsenior : some index ≠ newcomer)
    (packet : NsPacket) (faults : SqliteFaults) :
    Punctual w newcomer (dispatchPacket v index packet faults) := by
  have hjoin := hv.handleJoin hpolled hsenior packet faults
  have htext := hv.handleText hpolled index packet faults
  unfold dispatchPacket
  split
  · simp only
    split
    · exact hjoin.disconnect hpolled hsenior false
    · exact hjoin
  · simp only
    split
    · exact htext.disconnect hpolled hsenior false
    · exact htext
  · exact hv.disconnect hpolled hsenior true
  · exact (hv.sendError index _).disconnect hpolled hsenior false

theorem Punctual.readable (hpolled : Polled w)
    (hv : Punctual w newcomer v) (hsenior : some index ≠ newcomer)
    (hactive : (v.clients index).active) (sock : RecvSocket)
    (faults : SqliteFaults) :
    Punctual w newcomer
      (nsServerHandleClientReadable v index sock faults).1 := by
  have hread : Punctual w newcomer
      (v.setErrno (nsRecvPacket (v.clients index).socketFd sock).reported) :=
    hv.continues (.of_same rfl rfl rfl rfl rfl)
  unfold nsServerHandleClientReadable
  simp only
  split
  · exact hread.disconnect hpolled hsenior _
  · split
    · exact hread
    · exact hread.disconnect hpolled hsenior _
  · next packet _ =>
      have hserved : Punctual w newcomer ((v.setErrno (nsRecvPacket
          (v.clients index).socketFd sock).reported).observe
            (.dispatched (v.connection index) packet)) :=
        hread.serve hpolled hsenior hactive rfl (by simp [Obs.Accepts])
          (by simp [Obs.Closes])
      exact hserved.dispatch hpolled hsenior packet faults

theorem Punctual.drain (hpolled : Polled w)
    (hv : Punctual w newcomer v) (hsenior : some index ≠ newcomer)
    (outcomes : List SendOutcome) :
    Punctual w newcomer (drainSlot v index outcomes).1 := by
  have hset : Continues newcomer v
      (v.setClient index
        { v.clients index with
          sendBuf := (nsClientDrainSend outcomes
            (v.clients index).sendBuf).buf }) :=
    continues_setClient v rfl fun _ => rfl
  have hplain : Plain
      [.sent (v.connection index) (nsClientDrainSend outcomes
        (v.clients index).sendBuf).sent] :=
    plain_singleton rfl (by simp [Obs.Accepts]) (by simp [Obs.Closes])
  have hsent := hv.continues (hset.trans (continues_observe _ hplain))
  have hflushed : Punctual w newcomer (v.flushed index outcomes) :=
    hsent.continues (.of_same rfl rfl rfl rfl rfl)
  unfold drainSlot
  simp only
  split
  · exact hflushed.disconnect hpolled hsenior _
  · exact hflushed.continues (continues_updatePollEvents _ index)

end Serving

/-! ## The acts are rightful -/

/-- The bit was reported by this poll for the connection that is acted on,
which has been neither accepted nor closed since. -/
structure Act.Rightful (w : World) (act : Act) : Prop where
  polled : (w.clients act.index).active
  occupied : (act.state.clients act.index).active
  same : act.state.connection act.index = w.connection act.index
  reported : (w.reported act.index).has act.bit
  untouched : ∃ notes, act.state.trace = w.trace ++ notes ∧
    ∀ obs ∈ notes, ¬ obs.Accepts (w.connection act.index) ∧
      ¬ obs.Closes (w.connection act.index)

section Acts

variable {newcomer : Option SlotIndex} {w v : World} {index : SlotIndex}

theorem Punctual.rightful (hpolled : Polled w)
    (hv : Punctual w newcomer v) {bit : PollBit}
    (hbit : (v.reported index).has bit) :
    Act.Rightful w ⟨index, bit, v⟩ := by
  rcases hv.reported hbit with ⟨hsenior, hactive⟩
  rcases hv.held index hsenior hactive with ⟨hpolled', hreported⟩
  rcases hv.notes with ⟨notes, htrace, horderly, hopen⟩
  refine ⟨hpolled', hactive, hv.kept index hsenior, hreported ▸ hbit,
    notes, htrace, ?_⟩
  intro obs hobs
  refine ⟨?_, hopen index hsenior hactive obs hobs⟩
  intro haccepts
  exact absurd (hpolled.numbered index hpolled')
    (horderly.accepted obs hobs _ haccepts).not_gt

theorem Punctual.check (hpolled : Polled w)
    (hv : Punctual w newcomer v) (index : SlotIndex) :
    Punctual w newcomer (checkSlot v index) ∧
      ∀ act ∈ checkActs v index, act.Rightful w := by
  constructor
  · unfold checkSlot
    simp only
    split
    · next hbits =>
        have hsenior : some index ≠ newcomer := by
          simp only [Bool.or_eq_true, or_assoc] at hbits
          rcases hbits with herr | hhup | hnval
          · have hbit : (v.reported index).has .pollerr := herr
            exact (hv.reported hbit).1
          · have hbit : (v.reported index).has .pollhup := hhup
            exact (hv.reported hbit).1
          · have hbit : (v.reported index).has .pollnval := hnval
            exact (hv.reported hbit).1
        exact hv.disconnect hpolled hsenior _
    · exact hv
  · intro act hact
    rcases List.mem_map.mp hact with ⟨bit, hbit, rfl⟩
    exact hv.rightful hpolled (List.mem_filter.mp hbit).2

theorem Punctual.read (hpolled : Polled w)
    (hv : Punctual w newcomer v) (index : SlotIndex) (calls : SlotCalls) :
    Punctual w newcomer (readSlot v index calls) ∧
      ∀ act ∈ readActs v index calls, act.Rightful w := by
  unfold readSlot readActs World.reported
  cases hpollin : (v.pollFds (pollIndex index)).revents.pollin with
  | false => exact hv.check hpolled index
  | true =>
      have hbit : (v.reported index).has .pollin := hpollin
      rcases hv.reported hbit with ⟨hsenior, hactive⟩
      have hread := hv.readable hpolled hsenior hactive calls.sock
        calls.faults
      refine ⟨(hread.check hpolled index).1, ?_⟩
      intro act hact
      rcases List.mem_cons.mp hact with rfl | hact
      · exact hv.rightful hpolled hbit
      · exact (hread.check hpolled index).2 act hact

theorem Punctual.slot (hpolled : Polled w)
    (hv : Punctual w newcomer v) (index : SlotIndex)
    (calls : SlotIndex → SlotCalls) :
    Punctual w newcomer (serveSlot calls v index) ∧
      ∀ act ∈ serveActs calls v index, act.Rightful w := by
  unfold serveSlot serveActs World.reported
  simp only
  split
  · exact ⟨hv, by simp⟩
  split
  · next hpollout =>
      have hbit : (v.reported index).has .pollout := hpollout
      have hdrained := hv.drain hpolled (hv.reported hbit).1
        (calls index).outcomes
      have hread := hdrained.read hpolled index (calls index)
      constructor
      · split
        · exact hdrained
        · exact hread.1
      · intro act hact
        rcases List.mem_cons.mp hact with rfl | hact
        · exact hv.rightful hpolled hbit
        · split_ifs at hact
          · exact absurd hact List.not_mem_nil
          · exact hread.2 act hact
  · exact hv.read hpolled index (calls index)

theorem Punctual.scan (hpolled : Polled w)
    (hv : Punctual w newcomer v) (calls : SlotIndex → SlotCalls)
    (indices : List SlotIndex) :
    Punctual w newcomer (indices.foldl (serveSlot calls) v) ∧
      ∀ act ∈ scanActs calls v indices, act.Rightful w := by
  induction indices generalizing v with
  | nil => exact ⟨hv, by simp [scanActs]⟩
  | cons index rest ih =>
      have hslot := hv.slot hpolled index calls
      have hrest := ih hslot.1
      refine ⟨hrest.1, ?_⟩
      intro act hact
      rcases List.mem_append.mp hact with hact | hact
      · exact hslot.2 act hact
      · exact hrest.2 act hact

end Acts

/-! ## Before the scan -/

section Pass

variable {w : World}

theorem reported_pollRevents (w : World)
    (revents : Fin (1 + nsMaxClients) → PollFlags) (index : SlotIndex) :
    (pollRevents w revents).reported index =
      if (w.pollFds (pollIndex index)).fd = -1 then .none
      else revents (pollIndex index) := rfl

theorem polled_pollRevents (horder : ChatOrder w) (hmirrored : Mirrored w)
    (revents : Fin (1 + nsMaxClients) → PollFlags) :
    Polled (pollRevents w revents) := by
  refine ⟨horder.numbered, horder.distinct, ?_⟩
  intro index hidle
  rw [reported_pollRevents, (hmirrored.idle index hidle).2]
  rfl

theorem Punctual.reap (hpolled : Polled w) :
    Punctual w none (nsServerReapAuthTimeouts w) := by
  have htick : Punctual w none w.tick :=
    hpolled.punctual.continues (.of_same rfl rfl rfl rfl rfl)
  apply List.foldlRecOn (motive := Punctual w none) _ _ htick
  intro v hv index _
  unfold reapVisit
  simp only
  split
  · exact hv
  · split
    · exact (hv.sendError index _).disconnect hpolled
        (Option.some_ne_none index) false
    · exact hv

/-- Notes about connections that came later do no harm. -/
theorem Punctual.notes_append {newcomer : Option SlotIndex} {v : World}
    (hpolled : Polled w) (hv : Punctual w newcomer v) {more : List Obs}
    (hunserved : ∀ obs ∈ more, obs.served = none)
    (hlater : ∀ obs ∈ more, ∀ connection,
      obs.Accepts connection ∨ obs.Closes connection →
        w.connections ≤ connection) :
    ∃ notes, v.trace ++ more = w.trace ++ notes ∧
      Orderly w.connections notes ∧
      ∀ index, some index ≠ newcomer → (v.clients index).active →
        ∀ obs ∈ notes, ¬ obs.Closes (w.connection index) := by
  rcases hv.notes with ⟨notes, htrace, horderly, hopen⟩
  refine ⟨notes ++ more, ?_, ?_, ?_⟩
  · rw [htrace, List.append_assoc]
  · apply horderly.append_unserved hunserved
    exact fun obs hobs connection haccepts =>
      hlater obs hobs connection (Or.inl haccepts)
  · intro index hsenior hactive obs hobs
    rcases List.mem_append.mp hobs with hobs | hobs
    · exact hopen index hsenior hactive obs hobs
    · intro hcloses
      exact absurd (hpolled.numbered index (hv.held index hsenior hactive).1)
        (hlater obs hobs _ (Or.inr hcloses)).not_gt

theorem Punctual.refused {v : World} (hpolled : Polled w)
    (hv : Punctual w none v) (socketFd : NsSocket)
    (outcomes : List SendOutcome) :
    Punctual w none
      (turnDown (v.greeted socketFd) v.connections socketFd outcomes) := by
  rcases turnDown_frame (v.greeted socketFd) v.connections socketFd
    outcomes with
    ⟨hclients, hpollFds, -, -, -, hconnection, hconnections⟩
  rcases turnDown_trace (v.greeted socketFd) v.connections socketFd
    outcomes with ⟨bytes, htrace⟩
  have hunserved : ∀ obs ∈ ([.accepted v.connections socketFd,
      .sent v.connections bytes, .closed v.connections socketFd] :
        List Obs), obs.served = none := by
    simp [Obs.served]
  have hnotes := hv.notes_append hpolled hunserved
    (by simpa [Obs.Accepts, Obs.Closes] using hv.connections)
  constructor
  · rw [hconnections]
    exact hv.connections.trans (Nat.le_succ _)
  · rw [hconnection]
    exact hv.kept
  · rw [hclients]
    unfold World.reported
    rw [hpollFds]
    exact hv.held
  · exact fun _ hnone => absurd hnone (Option.some_ne_none _)
  · rw [hclients]
    unfold World.reported
    rw [hpollFds]
    exact hv.idle
  · rw [hclients, htrace]
    simpa [World.greeted, World.observe] using hnotes

theorem Punctual.occupied {v : World} (hpolled : Polled w)
    (hv : Punctual w none v) (socketFd : NsSocket) (index : SlotIndex) :
    Punctual w (some index)
      (occupySlot (v.greeted socketFd) v.connections socketFd index) := by
  have hclients := occupySlot_clients (v.greeted socketFd) index
    v.connections socketFd
  have hconnection : (occupySlot (v.greeted socketFd) v.connections
      socketFd index).connection =
        Function.update v.connection index v.connections := rfl
  have hpollFds : (occupySlot (v.greeted socketFd) v.connections
      socketFd index).pollFds = Function.update v.pollFds
        (pollIndex index) ⟨socketFd, .onlyPollin, .none⟩ := rfl
  have hreported : ∀ other, other ≠ index →
      (occupySlot (v.greeted socketFd) v.connections socketFd
        index).reported other = v.reported other := by
    intro other hother
    rw [World.reported, hpollFds,
      Function.update_of_ne (by simpa using hother)]
    rfl
  have hnone : ∀ other : SlotIndex, some other ≠ none :=
    fun other => Option.some_ne_none other
  have hunserved : ∀ obs ∈ [Obs.accepted v.connections socketFd],
      obs.served = none := by
    simp [Obs.served]
  have hnotes := hv.notes_append hpolled hunserved
    (by simpa [Obs.Accepts, Obs.Closes] using hv.connections)
  constructor
  · exact hv.connections.trans (Nat.le_succ _)
  · intro other hother
    rw [hconnection, Function.update_of_ne (by simpa using hother)]
    exact hv.kept other (hnone other)
  · intro other hother
    have hne : other ≠ index := by simpa using hother
    rw [hclients, Function.update_of_ne hne, hreported other hne]
    exact hv.held other (hnone other)
  · intro other hnew
    obtain rfl : other = index := Option.some.inj hnew
    rw [hclients, Function.update_self, World.reported, hpollFds,
      Function.update_self]
    exact ⟨rfl, rfl⟩
  · intro other hidle
    by_cases hother : other = index
    · rw [hother, hclients, Function.update_self] at hidle
      exact absurd hidle (by simp)
    · rw [hclients, Function.update_of_ne hother] at hidle
      rw [hreported other hother]
      exact hv.idle other hidle
  · rcases hnotes with ⟨notes, htrace, horderly, hopen⟩
    refine ⟨notes, htrace, horderly, ?_⟩
    intro other hother hactive
    rw [hclients, Function.update_of_ne (by simpa using hother)] at hactive
    exact hopen other (hnone other) hactive

theorem Punctual.accept {v : World} (hpolled : Polled w)
    (hv : Punctual w none v) (outcome : AcceptOutcome) :
    ∃ newcomer, Punctual w newcomer (nsServerAcceptClient v outcome) := by
  cases outcome with
  | failed errno =>
      exact ⟨none, hv.continues (.of_same rfl rfl rfl rfl rfl)⟩
  | connection socketFd outcomes =>
      unfold nsServerAcceptClient
      dsimp only
      split
      · exact ⟨none, hv⟩
      · split
        · exact ⟨none, hv.refused hpolled socketFd outcomes⟩
        · next index _ => exact ⟨some index, hv.occupied hpolled socketFd index⟩

theorem Polled.pass {calls : PassCalls}
    (hpolled : Polled (pollRevents w calls.revents)) :
    (∃ newcomer, Punctual (pollRevents w calls.revents) newcomer
      (nsServerRunPass w calls)) ∧
    ∀ act ∈ passActs w calls,
      act.Rightful (pollRevents w calls.revents) := by
  have hreaped := Punctual.reap hpolled
  unfold nsServerRunPass passActs
  simp only
  split
  · exact ⟨⟨none, hreaped⟩, by simp⟩
  · have haccepted : ∃ newcomer, Punctual (pollRevents w calls.revents)
        newcomer
        (if ((nsServerReapAuthTimeouts (pollRevents w
            calls.revents)).pollFds listenIndex).revents.pollin then
          nsServerAcceptClient (nsServerReapAuthTimeouts (pollRevents w
            calls.revents)) calls.acceptOutcome
        else nsServerReapAuthTimeouts (pollRevents w calls.revents)) := by
      split
      · exact hreaped.accept hpolled calls.acceptOutcome
      · exact ⟨none, hreaped⟩
    rcases haccepted with ⟨newcomer, haccepted⟩
    have hscan := haccepted.scan hpolled calls.slots
      (List.finRange nsMaxClients)
    exact ⟨⟨newcomer, hscan.1⟩, hscan.2⟩

theorem Orderly.served_open {base : ℕ} {notes before after : List Obs}
    {obs : Obs} (horderly : Orderly base notes)
    (hsplit : notes = before ++ obs :: after) {connection : ℕ}
    (hserved : obs.served = some connection) :
    ∀ earlier ∈ before, ¬ earlier.Accepts connection ∧
      ¬ earlier.Closes connection := by
  subst hsplit
  intro earlier hearlier
  have hmem : obs ∈ before ++ obs :: after := by simp
  constructor
  · intro haccepts
    have hbase := horderly.accepted earlier
      (List.mem_append_left _ hearlier) connection haccepts
    exact absurd (horderly.served obs hmem connection hserved) hbase.not_gt
  · intro hcloses
    have hlive := (List.pairwise_append.mp horderly.live).2.2 earlier
      hearlier obs List.mem_cons_self
    exact hlive connection hcloses hserved

end Pass

/-- In every pass from a reachable state, the scan does what its acts say,
and each bit that it acts on was reported by this poll for the connection
that holds the slot at that moment.
Nothing is read from and nobody is disconnected who was accepted in the pass
or closed earlier in it. -/
theorem poll_results_rightful (tables : Tables) (listenSocket : NsSocket)
    (errno : Errno) (clock : Clock) (events : List Event)
    (calls : PassCalls) :
    let w := run World.step (World.boot tables listenSocket errno clock)
      events
    Performs calls.slots (scanStart w calls) (passActs w calls)
      (nsServerRunPass w calls) ∧
    (∀ act ∈ passActs w calls,
      act.Rightful (pollRevents w calls.revents)) ∧
    ∃ notes, (nsServerRunPass w calls).trace = w.trace ++ notes ∧
      ∀ before obs after connection, notes = before ++ obs :: after →
        obs.served = some connection →
        ∀ earlier ∈ before, ¬ earlier.Accepts connection ∧
          ¬ earlier.Closes connection := by
  intro w
  have horder : ChatOrder w :=
    chatOrder_run tables listenSocket errno clock events
  have hmirrored : Mirrored w :=
    run_boot_invariant (fun _ _ _ hinv hmove => Move.mirrored hmove hinv)
      (mirrored_boot tables listenSocket errno clock) events
  have hpass := (polled_pollRevents horder hmirrored calls.revents).pass
  refine ⟨nsServerRunPass_performs w calls, hpass.2, ?_⟩
  rcases hpass.1 with ⟨newcomer, hpunctual⟩
  rcases hpunctual.notes with ⟨notes, htrace, horderly, -⟩
  refine ⟨notes, htrace, ?_⟩
  intro before obs after connection hsplit hserved
  exact horderly.served_open hsplit hserved

end NodeSignal
