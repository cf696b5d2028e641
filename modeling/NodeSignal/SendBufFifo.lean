import NodeSignal.Runs
import NodeSignal.SendBuf

/-!
# The ring buffer as a FIFO along whole runs

The run below starts from the reset buffer and interleaves appends and
drains in any order.  Beside the buffer it keeps the bytes of all accepted
appends and the bytes that `send()` has taken.  The buffer is a faithful FIFO
in every state of a run exactly when no drain of the run overruns.
-/

namespace NodeSignal

open Runs

/-- The buffer with the history of its bytes. -/
structure SendBufRun where
  buf : NsSendBuf
  accepted : List UInt8
  sent : List UInt8

inductive SendBufEvent where
  | enqueue (data : WireBuffer)
  | drain (outcomes : List SendOutcome)

def SendBufRun.start : SendBufRun := ⟨.reset, [], []⟩

def SendBufRun.step (state : SendBufRun) : SendBufEvent → SendBufRun
  | .enqueue data =>
      match nsClientEnqueueSend state.buf data with
      | some buf =>
          { state with buf := buf, accepted := state.accepted ++ data.val }
      | none => state
  | .drain outcomes =>
      let report := nsClientDrainSend outcomes state.buf
      { state with buf := report.buf, sent := state.sent ++ report.sent }

/-- The bytes sent so far and the bytes between `head` and `tail` make up
the accepted bytes, and equal indices mean that everything was sent. -/
def SendBufRun.Fifo (state : SendBufRun) : Prop :=
  state.accepted = state.sent ++ state.buf.queued ∧
    (state.buf.head = state.buf.tail ↔ state.sent = state.accepted)

/-- The event is not a drain that runs `head` around to the front of the
array while `tail` rests at its end. -/
def SendBufRun.NoOverrun (state : SendBufRun) : SendBufEvent → Prop
  | .enqueue _ => True
  | .drain outcomes => ¬ state.buf.Overruns outcomes

/-- The queue is the unsent part of the accepted bytes, and it leaves a cell
free. -/
structure SendBufRun.Inv (state : SendBufRun) : Prop where
  split : state.accepted = state.sent ++ state.buf.queued
  sound : state.buf.Sound

theorem SendBufRun.start_inv : SendBufRun.start.Inv :=
  ⟨rfl, Nat.zero_lt_succ _⟩

theorem SendBufRun.Inv.fifo {state : SendBufRun} (hinv : state.Inv) :
    state.Fifo := by
  refine ⟨hinv.split, ?_⟩
  rw [← state.buf.queued_eq_nil_iff, hinv.split]
  simp

theorem SendBufRun.Inv.step {state : SendBufRun} {event : SendBufEvent}
    (hinv : state.Inv) (hsafe : state.NoOverrun event) :
    (state.step event).Inv := by
  cases event with
  | enqueue data =>
      cases henqueue : nsClientEnqueueSend state.buf data with
      | none => simpa [SendBufRun.step, henqueue] using hinv
      | some buf =>
          obtain ⟨hqueued, hsound⟩ :=
            nsClientEnqueueSend_of_sound hinv.sound henqueue
          simp only [SendBufRun.step, henqueue]
          exact ⟨by rw [hqueued, hinv.split, List.append_assoc], hsound⟩
  | drain outcomes =>
      have hqueued := nsClientDrainSend_of_not_overruns hsafe
      have hsound := hinv.sound
      constructor
      · simp only [SendBufRun.step]
        rw [hinv.split, List.append_assoc, ← hqueued]
      · unfold NsSendBuf.Sound at hsound ⊢
        rw [hqueued, List.length_append] at hsound
        simp only [SendBufRun.step]
        omega

/-- After an overrun more bytes have been sent than were accepted. -/
theorem SendBufRun.Inv.not_fifo_of_overrun {state : SendBufRun}
    {event : SendBufEvent} (hinv : state.Inv)
    (hover : ¬ state.NoOverrun event) : ¬ (state.step event).Fifo := by
  cases event with
  | enqueue data => exact absurd trivial hover
  | drain outcomes =>
      have hover : state.buf.Overruns outcomes := not_not.mp hover
      rintro ⟨hsplit, -⟩
      have hhead := state.buf.head_lt
      have hsent := nsClientDrainSend_of_overruns hover
      have hlength := congrArg List.length hsplit
      have hbefore := congrArg List.length hinv.split
      have hqueued := state.buf.queued_length
      have hafter :=
        (nsClientDrainSend outcomes state.buf).buf.queued_length
      have hhead' := (nsClientDrainSend outcomes state.buf).buf.head_lt
      rw [hover.1, if_pos hhead.le] at hqueued
      rw [nsClientDrainSend_tail, hover.1, if_pos hhead'.le] at hafter
      simp only [SendBufRun.step, List.length_append] at hlength hbefore
      omega

/-- A run of the buffer is a faithful FIFO in every state it visits exactly
when none of its drains overruns. -/
theorem sendBuf_fifo_iff_no_overrun (events : List SendBufEvent) :
    Throughout SendBufRun.step SendBufRun.Fifo SendBufRun.start events ↔
      Along SendBufRun.step SendBufRun.NoOverrun SendBufRun.start
        events :=
  throughout_iff_along
    (fun _ hinv => hinv.fifo)
    (fun _ _ hinv hsafe => hinv.step hsafe)
    (fun _ _ hinv hover => hinv.not_fifo_of_overrun hover)
    SendBufRun.start_inv events

/-- A packet's worth of equal bytes. -/
def repeated (count : ℕ) (byte : UInt8)
    (hcount : count ≤ nsPacketHeaderSize + nsPacketBodyMax) : WireBuffer :=
  ⟨List.replicate count byte, by rwa [List.length_replicate]⟩

/-- Three appends of 526 bytes sent off, one of 470 bytes that ends at the
end of the array, and a drain that can take everything. -/
def overrunEvents : List SendBufEvent :=
  [.enqueue (repeated 526 65 (by decide)),
    .enqueue (repeated 526 66 (by decide)),
    .enqueue (repeated 526 67 (by decide)),
    .drain [.took 1578],
    .enqueue (repeated 470 68 (by decide)),
    .drain [.took 470, .took 2048]]

theorem overrunEvents_sent_length :
    (run SendBufRun.step SendBufRun.start overrunEvents).sent.length =
        4096 ∧
      (run SendBufRun.step SendBufRun.start
        overrunEvents).accepted.length = 2048 := by
  decide +kernel

/-- The buffer does not stay a FIFO in every run: here it hands 2048 stale
bytes to the kernel. -/
theorem sendBuf_not_always_fifo :
    ¬ ∀ events, Throughout SendBufRun.step SendBufRun.Fifo
      SendBufRun.start events := by
  intro hall
  have hlast := (throughout_iff_initial _ _).mp (hall overrunEvents)
    overrunEvents List.prefix_rfl
  have hlength := congrArg List.length hlast.1
  have hcounts := overrunEvents_sent_length
  rw [List.length_append] at hlength
  omega

end NodeSignal
