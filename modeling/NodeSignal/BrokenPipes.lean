import NodeSignal.EventLoop

/-!
# Broken pipes

The server calls `send()` without `MSG_NOSIGNAL` and leaves `SIGPIPE` as it
is.  A `send()` that meets `EPIPE` therefore does not return: the process is
killed there and then.  Only a drain and the refusal of a full server send.
-/

namespace NodeSignal

open CStrings Runs

def Errno.epipe : Errno := .other 32

/-- The `ns_send_packet` call of a full server. -/
def World.refusalReport (w : World) (socketFd : NsSocket)
    (outcomes : List SendOutcome) : Option SendReport :=
  (nsPacketSet NsPacketType.error.code 0 (nsUnixTimeNow w)
    (some (literal "The server is full right now."))).map fun errorPacket =>
      nsSendPacket socketFd errorPacket outcomes

/-- A `send()` call of the event meets `EPIPE`. -/
def World.breaks (w : World) : Event → Bool
  | .drain index outcomes =>
      (w.clients index).active &&
        (nsClientDrainSend outcomes (w.clients index).sendBuf).reported =
          some .epipe
  | .accept (.connection socketFd outcomes) =>
      nsSocketIsValid socketFd && (nsServerFindFreeSlot w).isNone &&
        (w.refusalReport socketFd outcomes).any fun report =>
          report.reported = some .epipe
  | _ => false

/-- The process of the server: its state, or the one in which the event began
that killed it. -/
inductive Process where
  | running (w : World)
  | killed (w : World)

def Process.step : Process → Event → Process
  | .running w, event =>
      if w.breaks event then .killed w else .running (w.step event)
  | .killed w, _ => .killed w

theorem run_killed (w : World) (events : List Event) :
    run Process.step (.killed w) events = .killed w := by
  induction events with
  | nil => rfl
  | cons event rest ih => exact ih

/-- As long as no pipe breaks, the process does what its events say. -/
theorem run_unbroken {w : World} {events : List Event}
    (hunbroken : Along World.step (fun w event => w.breaks event = false) w
      events) :
    run Process.step (.running w) events =
      .running (run World.step w events) := by
  induction events generalizing w with
  | nil => rfl
  | cons event rest ih =>
      have hstep : Process.step (.running w) event =
          .running (w.step event) := by
        simp [Process.step, hunbroken.1]
      rw [run_cons, run_cons, hstep]
      exact ih hunbroken.2

/-- Whether it goes on or was killed, the state is one that events lead
to. -/
theorem reaches_of_run {w v : World} {events : List Event}
    (hrun : run Process.step (.running w) events = .running v ∨
      run Process.step (.running w) events = .killed v) : Reaches w v := by
  induction events generalizing w with
  | nil =>
      rcases hrun with hrun | hrun
      · cases hrun
        exact .refl _
      · cases hrun
  | cons event rest ih =>
      by_cases hbreaks : w.breaks event = true
      · have hstep : Process.step (.running w) event = .killed w :=
          if_pos hbreaks
        rw [run_cons, hstep, run_killed] at hrun
        rcases hrun with hrun | hrun
        · cases hrun
        · cases hrun
          exact .refl _
      · have hstep : Process.step (.running w) event =
            .running (w.step event) := if_neg hbreaks
        rw [run_cons, hstep] at hrun
        exact (reaches_step w event).trans (ih hrun)

/-! ## Passes -/

/-- The scan of the slots, up to the drain that kills the process. -/
def Process.scan (calls : SlotIndex → SlotCalls) :
    World → List SlotIndex → Process
  | w, [] => .running w
  | w, index :: rest =>
      if (w.pollFds (pollIndex index)).revents.pollout &&
          w.breaks (.drain index (calls index).outcomes) then .killed w
      else Process.scan calls (serveSlot calls w index) rest

/-- One pass of the loop, which a broken pipe may cut short. -/
def Process.pass (w : World) (calls : PassCalls) : Process :=
  let swept := nsServerReapAuthTimeouts (pollRevents w calls.revents)
  let listening := (swept.pollFds listenIndex).revents.pollin
  if calls.pollResult = 0 then .running swept
  else if listening && swept.breaks (.accept calls.acceptOutcome) then
    .killed swept
  else
    let accepted :=
      if listening then nsServerAcceptClient swept calls.acceptOutcome
      else swept
    Process.scan calls.slots accepted (List.finRange nsMaxClients)

/-- The events of a run lead the process from the state to there. -/
def Process.From (w : World) (process : Process) : Prop :=
  ∃ events, process = run Process.step (.running w) events

section Passes

variable {w v : World} {process : Process}

theorem Process.From.refl (w : World) : Process.From w (.running w) :=
  ⟨[], rfl⟩

theorem Process.From.trans (hfirst : Process.From w (.running v))
    (hlater : Process.From v process) : Process.From w process := by
  rcases hfirst with ⟨before, hbefore⟩
  rcases hlater with ⟨later, rfl⟩
  exact ⟨before ++ later, by rw [run_append, ← hbefore]⟩

theorem from_step {event : Event} (hunbroken : w.breaks event = false) :
    Process.From w (.running (w.step event)) :=
  ⟨[event], by simp [run, Process.step, hunbroken]⟩

theorem from_breaks {event : Event} (hbreaks : w.breaks event = true) :
    Process.From w (.killed w) :=
  ⟨[event], by simp [run, Process.step, hbreaks]⟩

theorem from_checkSlot (w : World) (index : SlotIndex) :
    Process.From w (.running (checkSlot w index)) := by
  unfold checkSlot
  simp only
  split
  · have hunbroken : w.breaks (.pollError index) = false := rfl
    exact from_step hunbroken
  · exact .refl w

theorem from_readSlot {index : SlotIndex}
    (hactive : (w.clients index).active) (calls : SlotCalls) :
    Process.From w (.running (readSlot w index calls)) := by
  unfold readSlot
  simp only
  apply Process.From.trans _ (from_checkSlot _ index)
  split
  · have hstep : w.step (.readable index calls.sock calls.faults) =
        (nsServerHandleClientReadable w index calls.sock
          calls.faults).1 := if_pos hactive
    rw [← hstep]
    exact from_step rfl
  · exact .refl w

theorem from_serveSlot {calls : SlotIndex → SlotCalls} {index : SlotIndex}
    (hunbroken : ((w.pollFds (pollIndex index)).revents.pollout &&
      w.breaks (.drain index (calls index).outcomes)) = false) :
    Process.From w (.running (serveSlot calls w index)) := by
  unfold serveSlot
  simp only
  split
  · exact .refl w
  · next hserved =>
      have hactive : (w.clients index).active := by
        rw [Bool.or_eq_true, not_or] at hserved
        simpa using hserved.1
      split
      · next hpollout =>
          rw [hpollout, Bool.true_and] at hunbroken
          have hdrain : w.step (.drain index (calls index).outcomes) =
              (drainSlot w index (calls index).outcomes).1 := if_pos hactive
          have hdrained := from_step hunbroken
          rw [hdrain] at hdrained
          split
          · exact hdrained
          · next hok =>
              exact hdrained.trans (from_readSlot
                (drainSlot_active w index hactive hok) (calls index))
      · exact from_readSlot hactive (calls index)

theorem from_scan (calls : SlotIndex → SlotCalls) (w : World)
    (indices : List SlotIndex) :
    Process.From w (Process.scan calls w indices) := by
  induction indices generalizing w with
  | nil => exact .refl w
  | cons index rest ih =>
      unfold Process.scan
      split_ifs with hbreaks
      · rw [Bool.and_eq_true] at hbreaks
        exact from_breaks hbreaks.2
      · exact (from_serveSlot (by simpa using hbreaks)).trans (ih _)

theorem scan_running {calls : SlotIndex → SlotCalls} {w v : World}
    {indices : List SlotIndex}
    (hrunning : Process.scan calls w indices = .running v) :
    v = indices.foldl (serveSlot calls) w := by
  induction indices generalizing w with
  | nil =>
      cases hrunning
      rfl
  | cons index rest ih =>
      unfold Process.scan at hrunning
      split_ifs at hrunning
      exact ih hrunning

theorem from_sweep (w : World)
    (revents : Fin (1 + nsMaxClients) → PollFlags) :
    Process.From w
      (.running (nsServerReapAuthTimeouts (pollRevents w revents))) := by
  have hpolled : Process.From w (.running (w.step (.poll revents))) :=
    from_step rfl
  have hswept : ∀ v : World, Process.From v (.running (v.step .sweep)) :=
    fun _ => from_step rfl
  exact hpolled.trans (hswept _)

theorem from_accept {outcome : AcceptOutcome}
    (hunbroken : w.breaks (.accept outcome) = false) :
    Process.From w (.running (nsServerAcceptClient w outcome)) :=
  from_step hunbroken

/-- A pass is a sequence of events also where it is cut short. -/
theorem from_pass (w : World) (calls : PassCalls) :
    Process.From w (Process.pass w calls) := by
  have hswept := from_sweep w calls.revents
  unfold Process.pass
  generalize nsServerReapAuthTimeouts (pollRevents w calls.revents) = swept
    at hswept
  simp only
  split_ifs with hnothing hbreaks hlisten
  · exact hswept
  · rw [Bool.and_eq_true] at hbreaks
    exact hswept.trans (from_breaks hbreaks.2)
  · rw [hlisten, Bool.true_and, Bool.not_eq_true] at hbreaks
    exact hswept.trans ((from_accept hbreaks).trans (from_scan _ _ _))
  · exact hswept.trans (from_scan _ _ _)

/-- A pass that is not cut short is one of the loop. -/
theorem pass_running {calls : PassCalls}
    (hrunning : Process.pass w calls = .running v) :
    v = nsServerRunPass w calls := by
  unfold Process.pass at hrunning
  unfold nsServerRunPass
  generalize List.finRange nsMaxClients = indices at hrunning ⊢
  simp only at hrunning ⊢
  split_ifs at hrunning ⊢
  · exact (Process.running.inj hrunning).symm
  · exact scan_running hrunning
  · exact scan_running hrunning

end Passes

end NodeSignal
