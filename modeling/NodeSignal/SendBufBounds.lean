import NodeSignal.Broadcast
import NodeSignal.SendBufFifo
import NodeSignal.WhileLoops

/-!
# Bounds of the outbound ring buffer

How long a drain can take, which appends are admitted, and which cells an
append writes.  Both bounds rest on `tail` never being at the end of the
array at the wrong time: `head` cannot catch up with it there.
-/

namespace NodeSignal

open RingWindow Runs WhileLoops

/-- The accepted bytes that `send()` has not taken yet. -/
def SendBufRun.unsent (state : SendBufRun) : ℕ :=
  state.accepted.length - state.sent.length

theorem SendBufRun.Inv.unsent_eq {state : SendBufRun} (hinv : state.Inv) :
    state.unsent = state.buf.queued.length := by
  rw [unsent, hinv.split, List.length_append, Nat.add_sub_cancel_left]

/-! ## The drain loop ends -/

/-- One pass of the loop when `send()` takes something. -/
def NsSendBuf.drainPass (buf : NsSendBuf) (count : ℕ) : NsSendBuf :=
  buf.advance (sendCount count buf.toSend)

/-- The first results of an infinite sequence in which every `send()` call
takes something. -/
def firstResults (results : ℕ → ℕ) : ℕ → List SendOutcome
  | 0 => []
  | calls + 1 =>
      .took (results 0) :: firstResults (fun call => results (call + 1)) calls

/-- Within the given number of `send()` calls, one in each pass, the loop is
left with everything sent, and the function returns 0. -/
structure NsSendBuf.Drains (buf : NsSendBuf) (calls : ℕ)
    (results : ℕ → ℕ) : Prop where
  ends : EndsWithin nsClientSendBufPending NsSendBuf.drainPass calls buf
    results
  status : (nsClientDrainSend (firstResults results calls) buf).status = 0
  empty : nsClientSendBufPending
    (nsClientDrainSend (firstResults results calls) buf).buf = false

/-- Whatever `send()` takes, a drain ends within as many calls as there are
unsent bytes. -/
def SendBufRun.DrainEnds (state : SendBufRun) : Prop :=
  ∀ results, state.buf.Drains state.unsent results

/-- The append is admitted and ends exactly at the end of the array. -/
def NsSendBuf.FilledToEnd (buf : NsSendBuf) (data : WireBuffer) : Prop :=
  data.val.length ≠ 0 ∧ buf.Admits data.val.length ∧
    buf.tail + data.val.length = nsSendBufSize

/-- The event is not an append that ends exactly at the end of the array. -/
def SendBufRun.StopsShort (state : SendBufRun) : SendBufEvent → Prop
  | .enqueue data => ¬ state.buf.FilledToEnd data
  | .drain _ => True

section Draining

variable {buf : NsSendBuf}

theorem NsSendBuf.toSend_pos (buf : NsSendBuf) : 0 < buf.toSend := by
  have hhead := buf.head_lt
  unfold toSend
  split_ifs <;> omega

/-- Every pass of the loop shortens the queue. -/
theorem NsSendBuf.drainPass_shortens
    (hpending : nsClientSendBufPending buf)
    (htail : buf.tail < nsSendBufSize) (count : ℕ) :
    (buf.drainPass count).tail < nsSendBufSize ∧
      (buf.drainPass count).queued.length < buf.queued.length := by
  refine ⟨htail, ?_⟩
  have hqueued := congrArg List.length (NsSendBuf.queued_advance hpending
    (sendCount_le count buf.toSend) (Or.inr htail))
  rw [← NsSendBuf.drainPass] at hqueued
  have hhead := buf.head_lt
  have hpos := buf.toSend_pos
  have hcount : 0 < sendCount count buf.toSend :=
    lt_min (lt_of_lt_of_le Nat.one_pos (le_max_left _ _)) hpos
  rw [List.length_append, List.length_take, List.length_drop,
    buf.data_length] at hqueued
  omega

theorem nsClientDrainSend_firstResults_status (results : ℕ → ℕ)
    (calls : ℕ) (buf : NsSendBuf) :
    (nsClientDrainSend (firstResults results calls) buf).status = 0 := by
  induction calls generalizing buf results with
  | zero => rfl
  | succ calls ih =>
      rw [firstResults, nsClientDrainSend]
      split_ifs
      · exact ih _ _
      · rfl

/-- When the loop ends the buffer is empty. -/
theorem nsClientDrainSend_firstResults_empty {results : ℕ → ℕ}
    {calls : ℕ}
    (hends : EndsWithin nsClientSendBufPending NsSendBuf.drainPass calls
      buf results) :
    nsClientSendBufPending
      (nsClientDrainSend (firstResults results calls) buf).buf = false := by
  induction calls generalizing buf results with
  | zero => exact hends
  | succ calls ih =>
      rw [firstResults, nsClientDrainSend]
      split_ifs with hpending
      · exact ih (hends.resolve_left (by simp [hpending]))
      · simpa using hpending

/-- With `tail` inside the array a drain ends. -/
theorem NsSendBuf.drains_of_tail_lt (htail : buf.tail < nsSendBufSize)
    (results : ℕ → ℕ) : buf.Drains buf.queued.length results := by
  have hends : EndsWithin nsClientSendBufPending NsSendBuf.drainPass
      buf.queued.length buf results := by
    apply endsWithin_of_measure
      (fun state : NsSendBuf => state.tail < nsSendBufSize)
      (fun state => state.queued.length) _ _ htail le_rfl
    intro state count hinv hpending
    exact NsSendBuf.drainPass_shortens hpending hinv count
  exact ⟨hends, nsClientDrainSend_firstResults_status _ _ _,
    nsClientDrainSend_firstResults_empty hends⟩

/-- With `tail` at the end of the array no drain ends: `head` stays in front
of it. -/
theorem NsSendBuf.not_drains_of_tail_eq (htail : buf.tail = nsSendBufSize)
    (calls : ℕ) (results : ℕ → ℕ) : ¬ buf.Drains calls results := by
  intro hdrains
  refine not_endsWithin (fun state => state.tail = nsSendBufSize) ?_ ?_
    calls htail results hdrains.ends
  · intro state hend
    have hhead := state.head_lt
    simp only [nsClientSendBufPending, bne_iff_ne, ne_eq]
    omega
  · exact fun state _ hend => hend

end Draining

/-- The state keeps `tail` inside the array. -/
structure SendBufRun.Short (state : SendBufRun) : Prop where
  inv : state.Inv
  tail_lt : state.buf.tail < nsSendBufSize

theorem SendBufRun.start_short : SendBufRun.start.Short :=
  ⟨SendBufRun.start_inv, Nat.zero_lt_succ _⟩

theorem SendBufRun.Short.drainEnds {state : SendBufRun}
    (hshort : state.Short) : state.DrainEnds := by
  intro results
  rw [hshort.inv.unsent_eq]
  exact NsSendBuf.drains_of_tail_lt hshort.tail_lt results

/-- The next value of `tail` after an append that the buffer admits. -/
theorem nsClientEnqueueSend_tail {buf next : NsSendBuf} {data : WireBuffer}
    (henqueue : nsClientEnqueueSend buf data = some next) :
    next.tail =
      if buf.tail + data.val.length ≤ nsSendBufSize then
        buf.tail + data.val.length
      else data.val.length - (nsSendBufSize - buf.tail) := by
  cases nsClientEnqueueSend_cases henqueue with
  | nothing hempty hnext =>
      rw [hnext, hempty, List.length_nil, Nat.add_zero, if_pos buf.tail_le]
  | straight hadmits hfits hhead htail hdata => rw [htail, if_pos hfits]
  | wrapped hadmits hwraps hhead htail hdata =>
      rw [htail, if_neg hwraps.not_ge]

theorem SendBufRun.Short.step {state : SendBufRun} {event : SendBufEvent}
    (hshort : state.Short) (hstops : state.StopsShort event) :
    (state.step event).Short := by
  have htail := hshort.tail_lt
  cases event with
  | drain outcomes =>
      refine ⟨hshort.inv.step fun hover => htail.ne hover.1, ?_⟩
      exact (nsClientDrainSend_tail outcomes state.buf).trans_lt htail
  | enqueue data =>
      refine ⟨hshort.inv.step trivial, ?_⟩
      cases henqueue : nsClientEnqueueSend state.buf data with
      | none => simpa [SendBufRun.step, henqueue] using htail
      | some next =>
          have hnext : (state.step (.enqueue data)).buf = next := by
            simp [SendBufRun.step, henqueue]
          have hlen := data.property
          rw [hnext, nsClientEnqueueSend_tail henqueue]
          split_ifs with hfits
          · by_contra hend
            have hfull : state.buf.tail + data.val.length =
                nsSendBufSize := by omega
            apply hstops
            refine ⟨by omega, ?_, hfull⟩
            by_contra hrefused
            have hnone := nsClientEnqueueSend_eq_none_iff.mpr
              ⟨show data.val.length ≠ 0 by omega, hrefused⟩
            rw [hnone] at henqueue
            exact Option.some_ne_none next henqueue.symm
          · simp only [nsPacketHeaderSize, nsPacketBodyMax,
              nsSendBufSize] at hlen ⊢
            omega

theorem SendBufRun.not_drainEnds {state : SendBufRun}
    {event : SendBufEvent} (hfills : ¬ state.StopsShort event) :
    ¬ (state.step event).DrainEnds := by
  cases event with
  | drain outcomes => exact absurd trivial hfills
  | enqueue data =>
      rcases not_not.mp hfills with ⟨hsome, hadmits, hfull⟩
      cases henqueue : nsClientEnqueueSend state.buf data with
      | none =>
          exact absurd hadmits
            (nsClientEnqueueSend_eq_none_iff.mp henqueue).2
      | some next =>
          have hnext : (state.step (.enqueue data)).buf = next := by
            simp [SendBufRun.step, henqueue]
          have htail : next.tail = nsSendBufSize := by
            rw [nsClientEnqueueSend_tail henqueue, if_pos hfull.le, hfull]
          intro hends
          have hdrains := hends fun _ => 1
          rw [hnext] at hdrains
          exact NsSendBuf.not_drains_of_tail_eq htail _ _ hdrains

/-- In every state of a run each drain ends, exactly when no append of the
run ends at the end of the array. -/
theorem sendBuf_drains_iff (events : List SendBufEvent) :
    Throughout SendBufRun.step SendBufRun.DrainEnds SendBufRun.start
        events ↔
      Along SendBufRun.step SendBufRun.StopsShort SendBufRun.start
        events := by
  apply throughout_iff_along _ _ _ SendBufRun.start_short
  · exact fun _ hshort => hshort.drainEnds
  · exact fun _ _ hshort hstops => hshort.step hstops
  · exact fun _ _ _ hfills => SendBufRun.not_drainEnds hfills

/-- The last append of these ends at the end of the array. -/
def filledEvents : List SendBufEvent :=
  overrunEvents.dropLast

/-- With 470 bytes to send the loop can run forever. -/
theorem sendBuf_not_always_drains :
    ¬ ∀ events, Throughout SendBufRun.step SendBufRun.DrainEnds
      SendBufRun.start events := by
  intro hall
  have hlast := (throughout_iff_initial _ _).mp (hall filledEvents)
    filledEvents List.prefix_rfl
  have htail : (run SendBufRun.step SendBufRun.start
      filledEvents).buf.tail = nsSendBufSize := by
    decide +kernel
  exact NsSendBuf.not_drains_of_tail_eq htail _ _ (hlast fun _ => 470)

/-! ## What an append writes -/

/-- The `memcpy` calls of an append: the first cell and the bytes. -/
def NsSendBuf.writes (buf : NsSendBuf) (data : WireBuffer) :
    List (ℕ × List UInt8) :=
  let len := data.val.length
  if len = 0 then []
  else if ¬ buf.Admits len then []
  else if buf.tail + len ≤ nsSendBufSize then [(buf.tail, data.val)]
  else
    let first := nsSendBufSize - buf.tail
    [(buf.tail, data.val.take first), (0, data.val.drop first)]

/-- The bytes go to the cells from `tail` on, behind what is queued. -/
structure NsSendBuf.Appends (before after : NsSendBuf)
    (bytes : List UInt8) : Prop where
  head : after.head = before.head
  written : window after.data before.tail after.tail = bytes
  queued : before.Sound → after.queued = before.queued ++ bytes

section Writing

variable {buf next : NsSendBuf} {data : WireBuffer}

/-- The writes are all that happens to the array. -/
theorem nsClientEnqueueSend_data
    (henqueue : nsClientEnqueueSend buf data = some next) :
    next.data = (buf.writes data).foldl
      (fun cells write => blit cells write.1 write.2) buf.data := by
  unfold NsSendBuf.writes
  simp only
  cases nsClientEnqueueSend_cases henqueue with
  | nothing hempty hnext =>
      rw [if_pos (List.length_eq_zero_iff.mpr hempty), hnext]
      rfl
  | straight hadmits hfits hhead htail hdata =>
      rw [hdata]
      split_ifs with hempty
      · rw [List.length_eq_zero_iff.mp hempty, blit_nil]
        rfl
      · rfl
  | wrapped hadmits hwraps hhead htail hdata =>
      have hend := buf.tail_le
      rw [if_neg (by omega), if_neg (not_not.mpr hadmits),
        if_neg hwraps.not_ge, hdata]
      rfl

/-- Every write stays inside the array. -/
theorem NsSendBuf.writes_inside (buf : NsSendBuf) (data : WireBuffer) :
    ∀ write ∈ buf.writes data,
      write.1 + write.2.length ≤ nsSendBufSize := by
  have hlen := data.property
  have htail := buf.tail_le
  unfold writes
  simp only
  split_ifs with hempty hadmits hfits
  · simp
  · rw [List.forall_mem_singleton]
    exact hfits
  · intro write hwrite
    simp only [List.mem_cons, List.not_mem_nil, or_false] at hwrite
    simp only [nsPacketHeaderSize, nsPacketBodyMax] at hlen
    rcases hwrite with rfl | rfl
    · simp only [List.length_take]
      omega
    · simp only [List.length_drop, nsSendBufSize, nsPacketBodyMax]
      omega
  · simp

theorem NsSendBuf.writes_of_refused
    (hrefused : nsClientEnqueueSend buf data = none) :
    buf.writes data = [] := by
  rcases nsClientEnqueueSend_eq_none_iff.mp hrefused with ⟨hsome, hfull⟩
  unfold writes
  simp only
  rw [if_neg hsome, if_pos hfull]

theorem window_self (cells : List UInt8) (position : ℕ) :
    window cells position position = [] := by
  simp [window]

/-- In whatever state the buffer is, an append puts its bytes from `tail`
on. -/
theorem nsClientEnqueueSend_appends
    (henqueue : nsClientEnqueueSend buf data = some next) :
    buf.Appends next data.val := by
  have hsize := buf.data_length
  have hend := buf.tail_le
  have hlen := data.property
  have hqueued : buf.Sound → next.queued = buf.queued ++ data.val :=
    fun hsound => (nsClientEnqueueSend_of_sound hsound henqueue).1
  cases nsClientEnqueueSend_cases henqueue with
  | nothing hempty hnext =>
      refine ⟨congrArg NsSendBuf.head hnext, ?_, hqueued⟩
      rw [hnext, window_self, hempty]
  | straight hadmits hfits hhead htail hdata =>
      refine ⟨hhead, ?_, hqueued⟩
      rw [← hsize] at hfits
      have hwritten := window_blit hfits (Or.inl (le_refl buf.tail))
      rw [window_self, List.nil_append] at hwritten
      rw [htail, hdata, hwritten]
  | wrapped hadmits hwraps hhead htail hdata =>
      refine ⟨hhead, ?_, hqueued⟩
      simp only [nsPacketHeaderSize, nsPacketBodyMax, nsSendBufSize]
        at hlen hwraps hsize hend
      have hwritten := window_blit_wrap buf.data data.val
        (show buf.tail ≤ buf.data.length by omega) (le_refl buf.tail)
        (by omega) (by omega)
      rw [window_self, List.nil_append, buf.data_length] at hwritten
      rw [htail, hdata, hwritten]

end Writing

/-! ## Admission is exact -/

/-- Admission counts the unsent bytes: an append succeeds exactly if it
leaves a cell free, changes nothing otherwise, writes inside the array and
nothing else into it, and computes its space without wrapping; nobody with
nothing unsent is disconnected by a broadcast. -/
structure SendBufRun.AdmitsExactly (state : SendBufRun) : Prop where
  admits : ∀ data : WireBuffer, 0 < data.val.length →
    ((nsClientEnqueueSend state.buf data).isSome ↔
      state.unsent + data.val.length ≤ nsSendBufSize - 1)
  refusal : ∀ data, nsClientEnqueueSend state.buf data = none →
    state.buf.writes data = [] ∧ state.step (.enqueue data) = state
  inside : ∀ data, ∀ write ∈ state.buf.writes data,
    write.1 + write.2.length ≤ nsSendBufSize
  written : ∀ data next, nsClientEnqueueSend state.buf data = some next →
    next.data = (state.buf.writes data).foldl
      (fun cells write => blit cells write.1 write.2) state.buf.data
  unwrapped : 1 ≤ state.buf.available ∧
    sizeSub state.buf.available 1 = state.buf.available - 1
  spared : state.unsent = 0 → ∀ w index packet excludeIndex,
    (w.clients index).sendBuf = state.buf →
      ((nsServerBroadcast w packet excludeIndex).clients index).active =
        (w.clients index).active

section Admission

variable {state : SendBufRun}

theorem NsSendBuf.Sound.isSome_iff {buf : NsSendBuf} (hsound : buf.Sound)
    {data : WireBuffer} (hlen : 0 < data.val.length) :
    (nsClientEnqueueSend buf data).isSome ↔
      buf.queued.length + data.val.length ≤ nsSendBufSize - 1 := by
  rw [← hsound.admits_iff, Option.isSome_iff_ne_none, ne_eq,
    nsClientEnqueueSend_eq_none_iff, not_and, not_not]
  exact forall_prop_of_true hlen.ne'

theorem NsSendBuf.Sound.available_pos {buf : NsSendBuf}
    (hsound : buf.Sound) :
    1 ≤ buf.available ∧
      sizeSub buf.available 1 = buf.available - 1 := by
  unfold Sound at hsound
  rw [buf.available_eq, sizeSub]
  simp only [nsSendBufSize, nsPacketBodyMax] at hsound ⊢
  omega

/-- A broadcast finds room in an empty buffer. -/
theorem broadcast_spares_empty {w : World} {index : SlotIndex}
    (hsound : (w.clients index).sendBuf.Sound)
    (hempty : (w.clients index).sendBuf.queued = []) (packet : NsPacket)
    (excludeIndex : Option SlotIndex) :
    ((nsServerBroadcast w packet excludeIndex).clients index).active =
      (w.clients index).active := by
  by_cases hlen : packet.header.bodyLen.toNat ≤ nsPacketBodyMax
  · rw [nsServerBroadcast_clients packet hlen, broadcastClient]
    split_ifs
    · have hroom : (nsClientEnqueueSend (w.clients index).sendBuf
          (wireBuffer packet hlen)) ≠ none := by
        rw [ne_eq, nsClientEnqueueSend_eq_none_iff, not_and, not_not,
          hsound.admits_iff, hempty]
        have hwire := (wireBuffer packet hlen).property
        simp only [nsPacketHeaderSize, nsPacketBodyMax, nsSendBufSize,
          List.length_nil] at hwire ⊢
        omega
      rcases Option.ne_none_iff_exists'.mp hroom with ⟨buf, hbuf⟩
      simp only [hbuf]
    · rfl
  · rw [nsServerBroadcast_eq, broadcastBody, dif_neg hlen]

theorem SendBufRun.Inv.admitsExactly (hinv : state.Inv) :
    state.AdmitsExactly := by
  constructor
  · intro data hlen
    rw [hinv.unsent_eq]
    exact hinv.sound.isSome_iff hlen
  · intro data hrefused
    refine ⟨NsSendBuf.writes_of_refused hrefused, ?_⟩
    simp only [SendBufRun.step, hrefused]
  · exact NsSendBuf.writes_inside state.buf
  · exact fun data next => nsClientEnqueueSend_data
  · exact hinv.sound.available_pos
  · intro hnone w index packet excludeIndex hbuf
    rw [hinv.unsent_eq, List.length_eq_zero_iff, ← hbuf] at hnone
    exact broadcast_spares_empty (hbuf ▸ hinv.sound) hnone packet
      excludeIndex

/-- After an overrun nothing is unsent. -/
theorem SendBufRun.Inv.unsent_of_overrun (hinv : state.Inv)
    {outcomes : List SendOutcome} (hover : state.buf.Overruns outcomes) :
    (state.step (.drain outcomes)).unsent = 0 := by
  have hsent := nsClientDrainSend_of_overruns hover
  have hsplit := congrArg List.length hinv.split
  have hqueued := state.buf.queued_length
  have hhead := state.buf.head_lt
  rw [hover.1, if_pos hhead.le] at hqueued
  rw [List.length_append] at hsplit
  simp only [unsent, SendBufRun.step, List.length_append]
  omega

/-- An overrun that leaves `head` among the first cells makes the buffer
refuse a client with nothing unsent, or accept without a bound. -/
theorem SendBufRun.Inv.not_admitsExactly (hinv : state.Inv)
    {outcomes : List SendOutcome} (hover : state.buf.Overruns outcomes)
    (hfront : (state.step (.drain outcomes)).buf.head ≤
      nsPacketHeaderSize + nsPacketBodyMax) :
    ¬ (state.step (.drain outcomes)).AdmitsExactly := by
  intro hexact
  have hunsent := hinv.unsent_of_overrun hover
  have htail : (state.step (.drain outcomes)).buf.tail = nsSendBufSize :=
    (nsClientDrainSend_tail outcomes state.buf).trans hover.1
  generalize state.step (.drain outcomes) = after at *
  have hhead := after.buf.head_lt
  have havailable : after.buf.available = after.buf.head := by
    rw [NsSendBuf.available, if_pos (by omega), htail]
    omega
  have hpos := hexact.unwrapped.1
  rw [havailable] at hpos
  -- A packet of as many bytes as `head` says is one byte too long.
  have hadmits := hexact.admits
    ⟨List.replicate after.buf.head 0, by rwa [List.length_replicate]⟩
    (by rwa [List.length_replicate])
  have hrefused : nsClientEnqueueSend after.buf
      ⟨List.replicate after.buf.head 0, by rwa [List.length_replicate]⟩ =
        none := by
    rw [nsClientEnqueueSend_eq_none_iff, List.length_replicate,
      NsSendBuf.Admits, hexact.unwrapped.2, havailable]
    omega
  rw [hrefused, hunsent, List.length_replicate] at hadmits
  simp only [Option.isSome_none, Bool.false_eq_true, false_iff] at hadmits
  omega

end Admission

/-- In every run in which no drain overruns, admission is exact in every
state; an overrun that leaves `head` among the first cells breaks it. -/
theorem sendBuf_admits_exactly (events : List SendBufEvent) :
    (Along SendBufRun.step SendBufRun.NoOverrun SendBufRun.start events →
      Throughout SendBufRun.step SendBufRun.AdmitsExactly SendBufRun.start
        events) ∧
    ∀ before outcomes rest, events = before ++ .drain outcomes :: rest →
      Along SendBufRun.step SendBufRun.NoOverrun SendBufRun.start before →
      (run SendBufRun.step SendBufRun.start before).buf.Overruns outcomes →
      (run SendBufRun.step SendBufRun.start
          (before ++ [.drain outcomes])).buf.head ≤
        nsPacketHeaderSize + nsPacketBodyMax →
      ¬ (run SendBufRun.step SendBufRun.start
          (before ++ [.drain outcomes])).AdmitsExactly := by
  have hrun : ∀ before, Along SendBufRun.step SendBufRun.NoOverrun
      SendBufRun.start before →
        (run SendBufRun.step SendBufRun.start before).Inv :=
    fun before hsafe => run_invariant SendBufRun.Inv
      (fun _ _ hinv hsafe => hinv.step hsafe) SendBufRun.start_inv hsafe
  constructor
  · intro hsafe
    rw [throughout_iff_initial]
    rintro before ⟨rest, rfl⟩
    exact (hrun before (along_append.mp hsafe).1).admitsExactly
  · rintro before outcomes rest - hsafe hover hfront
    rw [run_append] at hfront ⊢
    exact (hrun before hsafe).not_admitsExactly hover hfront

/-- The packet that ended at the end of the array is sent off, and a hundred
bytes more. -/
def strayEvents : List SendBufEvent :=
  filledEvents ++ [.drain [.took 470, .took 100]]

/-- With nothing unsent a packet of 526 bytes is refused. -/
theorem sendBuf_not_always_exact :
    ¬ ∀ events, Throughout SendBufRun.step SendBufRun.AdmitsExactly
      SendBufRun.start events := by
  intro hall
  have hlast := (throughout_iff_initial _ _).mp (hall strayEvents)
    strayEvents List.prefix_rfl
  have hlen : (repeated 526 65 (by decide)).val.length = 526 :=
    List.length_replicate
  have hadmits := hlast.admits (repeated 526 65 (by decide))
    (by rw [hlen]; decide)
  have hunsent : (run SendBufRun.step SendBufRun.start
      strayEvents).unsent = 0 := by
    decide +kernel
  have hrefused : (nsClientEnqueueSend (run SendBufRun.step
      SendBufRun.start strayEvents).buf
        (repeated 526 65 (by decide))).isSome = false := by
    decide +kernel
  rw [hrefused, hunsent, hlen] at hadmits
  exact Bool.false_ne_true (hadmits.mpr (by decide))

end NodeSignal
