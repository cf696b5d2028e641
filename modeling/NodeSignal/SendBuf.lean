import NodeSignal.Comm
import NodeSignal.Runs

/-!
# The outbound ring buffer of a client

Bytes are appended to the ring at `tail` and handed to `send()` from `head`.
`head` is always reduced modulo the buffer size, `tail` is not: an append
that ends exactly at the end of the array leaves `tail` at the size itself.
This file models the two operations and proves that the buffer is a faithful
FIFO along a run exactly as long as no drain runs `head` around to the front
while `tail` rests there.
-/

namespace NodeSignal

open RingWindow

@[simp] def nsSendBufSize : ℕ := nsPacketBodyMax * 4

/-- The bytes assembled in a `wire` array, at most a header and the longest
body. -/
abbrev WireBuffer :=
  { bytes : List UInt8 //
    bytes.length ≤ nsPacketHeaderSize + nsPacketBodyMax }

structure NsSendBuf where
  data : List UInt8
  head : ℕ
  tail : ℕ
  data_length : data.length = nsSendBufSize
  head_lt : head < nsSendBufSize
  tail_le : tail ≤ nsSendBufSize
  deriving DecidableEq

/-- The buffer that `memset` leaves. -/
def NsSendBuf.reset : NsSendBuf where
  data := List.replicate nsSendBufSize 0
  head := 0
  tail := 0
  data_length := List.length_replicate
  head_lt := by decide
  tail_le := by decide

/-- Subtraction of `size_t` values. -/
def sizeSub (left right : ℕ) : ℕ := (left + 2 ^ 64 - right) % 2 ^ 64

/-- The `available` space computed by `ns_client_enqueue_send`. -/
def NsSendBuf.available (buf : NsSendBuf) : ℕ :=
  if buf.tail ≥ buf.head then nsSendBufSize - (buf.tail - buf.head)
  else buf.head - buf.tail

/-- The admission test `len <= available - 1U`. -/
def NsSendBuf.Admits (buf : NsSendBuf) (len : ℕ) : Prop :=
  len ≤ sizeSub buf.available 1

instance (buf : NsSendBuf) (len : ℕ) : Decidable (buf.Admits len) :=
  inferInstanceAs (Decidable (_ ≤ _))

/-- `ns_client_enqueue_send`; `none` stands for the return value -1. -/
def nsClientEnqueueSend (buf : NsSendBuf) (data : WireBuffer) :
    Option NsSendBuf :=
  let len := data.val.length
  if len = 0 then some buf
  else if ¬ buf.Admits len then none
  else if hfits : buf.tail + len ≤ nsSendBufSize then
    some
      { data := blit buf.data buf.tail data.val
        head := buf.head
        tail := buf.tail + len
        data_length := by
          rw [blit_length (by rw [buf.data_length]; exact hfits),
            buf.data_length]
        head_lt := buf.head_lt
        tail_le := hfits }
  else
    let first := nsSendBufSize - buf.tail
    some
      { data :=
          blit (blit buf.data buf.tail (data.val.take first)) 0
            (data.val.drop first)
        head := buf.head
        tail := len - first
        data_length := by
          have hlen := data.property
          have htail := buf.tail_le
          have hsize := buf.data_length
          have hinner : (blit buf.data buf.tail
              (data.val.take first)).length = nsSendBufSize := by
            rw [blit_length, hsize]
            simp only [List.length_take, hsize]
            omega
          rw [blit_length, hinner]
          simp only [List.length_drop, hinner]
          simp only [nsPacketHeaderSize, nsPacketBodyMax,
            nsSendBufSize] at hlen ⊢
          omega
        head_lt := buf.head_lt
        tail_le := by
          have hlen := data.property
          simp only [nsPacketHeaderSize, nsPacketBodyMax,
            nsSendBufSize] at hlen ⊢
          omega }

/-- `ns_client_send_buf_pending`. -/
def nsClientSendBufPending (buf : NsSendBuf) : Bool :=
  buf.head != buf.tail

/-- Move `head` on by the number of bytes sent, modulo the size. -/
def NsSendBuf.advance (buf : NsSendBuf) (count : ℕ) : NsSendBuf :=
  { buf with
    head := (buf.head + count) % nsSendBufSize
    head_lt := Nat.mod_lt _ (by decide) }

/-- The contiguous run of bytes offered to one `send()` call. -/
def NsSendBuf.toSend (buf : NsSendBuf) : ℕ :=
  if buf.tail > buf.head then buf.tail - buf.head
  else nsSendBufSize - buf.head

/-- The result of `ns_client_drain_send`: its return value, the buffer, the
bytes that `send()` took, and the `errno` that a failing `send()` set. -/
structure DrainReport where
  status : ℤ
  buf : NsSendBuf
  sent : List UInt8
  reported : Option Errno

/-- `ns_client_drain_send`.  When the schedule of outcomes is used up, the
socket cannot take more without blocking. -/
def nsClientDrainSend : List SendOutcome → NsSendBuf → DrainReport
  | [], buf =>
      ⟨0, buf, [],
        if nsClientSendBufPending buf then some .eagain else none⟩
  | outcome :: rest, buf =>
      if nsClientSendBufPending buf then
        match outcome with
        | .took count =>
            let sentNow := sendCount count buf.toSend
            let later := nsClientDrainSend rest (buf.advance sentNow)
            { later with
              sent := (buf.data.drop buf.head).take sentNow ++ later.sent }
        | .failed errno =>
            ⟨if errno.wouldBlock then 0 else -1, buf, [], some errno⟩
      else ⟨0, buf, [], none⟩

/-! ## The queue held by the buffer -/

/-- The bytes between `head` and `tail`. -/
def NsSendBuf.queued (buf : NsSendBuf) : List UInt8 :=
  window buf.data buf.head buf.tail

/-- One cell is free, so that equal indices mean an empty queue. -/
def NsSendBuf.Sound (buf : NsSendBuf) : Prop :=
  buf.queued.length < nsSendBufSize

@[simp] theorem NsSendBuf.queued_reset : NsSendBuf.reset.queued = [] := rfl

theorem NsSendBuf.queued_length (buf : NsSendBuf) :
    buf.queued.length =
      if buf.head ≤ buf.tail then buf.tail - buf.head
      else nsSendBufSize - buf.head + buf.tail := by
  have hhead := buf.head_lt
  have htail := buf.tail_le
  rw [queued, window_length (by rw [buf.data_length]; exact hhead.le)
    (by rw [buf.data_length]; exact htail), buf.data_length]

theorem NsSendBuf.queued_eq_nil_iff (buf : NsSendBuf) :
    buf.queued = [] ↔ buf.head = buf.tail :=
  window_eq_nil_iff (by rw [buf.data_length]; exact buf.head_lt)
    (by rw [buf.data_length]; exact buf.tail_le)

/-- The only unsound pair of indices. -/
theorem NsSendBuf.sound_iff (buf : NsSendBuf) :
    buf.Sound ↔ ¬ (buf.head = 0 ∧ buf.tail = nsSendBufSize) := by
  have hhead := buf.head_lt
  have htail := buf.tail_le
  unfold Sound
  rw [buf.queued_length]
  split_ifs <;> omega

theorem NsSendBuf.available_eq (buf : NsSendBuf) :
    buf.available = nsSendBufSize - buf.queued.length := by
  have hhead := buf.head_lt
  have htail := buf.tail_le
  rw [buf.queued_length, available]
  split_ifs <;> omega

theorem NsSendBuf.Sound.admits_iff {buf : NsSendBuf} (hsound : buf.Sound)
    (len : ℕ) :
    buf.Admits len ↔ buf.queued.length + len ≤ nsSendBufSize - 1 := by
  unfold Sound at hsound
  rw [Admits, available_eq, sizeSub]
  simp only [nsSendBufSize, nsPacketBodyMax] at *
  omega

/-- What an append does that is not refused. -/
inductive NsSendBuf.Enqueued (buf next : NsSendBuf) (data : WireBuffer) :
    Prop
  | nothing (hempty : data.val = []) (hnext : next = buf)
  | straight (hadmits : buf.Admits data.val.length)
      (hfits : buf.tail + data.val.length ≤ nsSendBufSize)
      (hhead : next.head = buf.head)
      (htail : next.tail = buf.tail + data.val.length)
      (hdata : next.data = blit buf.data buf.tail data.val)
  | wrapped (hadmits : buf.Admits data.val.length)
      (hwraps : nsSendBufSize < buf.tail + data.val.length)
      (hhead : next.head = buf.head)
      (htail : next.tail = data.val.length - (nsSendBufSize - buf.tail))
      (hdata : next.data =
        blit (blit buf.data buf.tail
          (data.val.take (nsSendBufSize - buf.tail))) 0
            (data.val.drop (nsSendBufSize - buf.tail)))

theorem nsClientEnqueueSend_cases {buf next : NsSendBuf}
    {data : WireBuffer}
    (henqueue : nsClientEnqueueSend buf data = some next) :
    buf.Enqueued next data := by
  unfold nsClientEnqueueSend at henqueue
  simp only at henqueue
  split_ifs at henqueue with hempty hadmits hfits
  · exact .nothing (List.length_eq_zero_iff.mp hempty)
      (Option.some.inj henqueue).symm
  · rw [Option.some.injEq] at henqueue
    subst henqueue
    exact .straight hadmits hfits rfl rfl rfl
  · rw [Option.some.injEq] at henqueue
    subst henqueue
    exact .wrapped hadmits (not_le.mp hfits) rfl rfl rfl

/-- The state after an append that the buffer admits. -/
theorem nsClientEnqueueSend_of_sound {buf next : NsSendBuf}
    {data : WireBuffer} (hsound : buf.Sound)
    (henqueue : nsClientEnqueueSend buf data = some next) :
    next.queued = buf.queued ++ data.val ∧ next.Sound := by
  have hsize := buf.data_length
  have hlength := buf.queued_length
  -- The cells between `tail` and `head` suffice, and one stays free.
  have hsound' : buf.Admits data.val.length →
      next.queued = buf.queued ++ data.val → next.Sound := by
    intro hadmits hqueued
    have hroom := (hsound.admits_iff _).mp hadmits
    rw [NsSendBuf.Sound, hqueued, List.length_append]
    simp only [nsSendBufSize, nsPacketBodyMax] at hroom ⊢
    omega
  cases nsClientEnqueueSend_cases henqueue with
  | nothing hempty hnext =>
      rw [hnext, hempty, List.append_nil]
      exact ⟨rfl, hsound⟩
  | straight hadmits hfits hhead htail hdata =>
      have hroom := (hsound.admits_iff _).mp hadmits
      have hqueued : next.queued = buf.queued ++ data.val := by
        rw [NsSendBuf.queued, hhead, htail, hdata]
        apply window_blit
        · rw [hsize]
          exact hfits
        · rw [hlength] at hroom
          split_ifs at hroom <;> omega
      exact ⟨hqueued, hsound' hadmits hqueued⟩
  | wrapped hadmits hwraps hhead htail hdata =>
      have hroom := (hsound.admits_iff _).mp hadmits
      have hend := buf.tail_le
      have hqueued : next.queued = buf.queued ++ data.val := by
        have hle : buf.head ≤ buf.tail := by
          by_contra hwrapped
          rw [hlength, if_neg hwrapped] at hroom
          omega
        rw [hlength, if_pos hle] at hroom
        have hwrap := window_blit_wrap buf.data data.val
          (by rw [hsize]; exact hend) hle (by omega) (by omega)
        rw [hsize] at hwrap
        rw [NsSendBuf.queued, hhead, htail, hdata]
        exact hwrap
      exact ⟨hqueued, hsound' hadmits hqueued⟩

/-- Whatever state the buffer is in, the accepted bytes come last. -/
theorem nsClientEnqueueSend_suffix {buf next : NsSendBuf}
    {data : WireBuffer}
    (henqueue : nsClientEnqueueSend buf data = some next) :
    data.val <:+ next.queued := by
  by_cases hsound : buf.Sound
  · rw [(nsClientEnqueueSend_of_sound hsound henqueue).1]
    exact List.suffix_append _ _
  rw [buf.sound_iff, not_not] at hsound
  rcases hsound with ⟨hfront, hend⟩
  cases nsClientEnqueueSend_cases henqueue with
  | nothing hempty hnext =>
      rw [hempty]
      exact List.nil_suffix
  | straight hadmits hfits hhead htail hdata =>
      -- Nothing fits behind the end of the array.
      have hempty : data.val.length = 0 := by omega
      rw [List.length_eq_zero_iff.mp hempty]
      exact List.nil_suffix
  | wrapped hadmits hwraps hhead htail hdata =>
      have hqueued : next.queued = data.val := by
        rw [NsSendBuf.queued, hhead, htail, hdata, hfront, hend]
        simp only [Nat.sub_self, List.take_zero, blit_nil, List.drop_zero,
          Nat.sub_zero]
        rw [window, if_pos (Nat.zero_le _), List.drop_zero, Nat.sub_zero]
        have htake := take_blit buf.data data.val (Nat.zero_le _)
        rwa [Nat.zero_add, List.take_zero, List.nil_append] at htake
      rw [hqueued]

theorem nsClientEnqueueSend_eq_none_iff {buf : NsSendBuf}
    {data : WireBuffer} :
    nsClientEnqueueSend buf data = none ↔
      data.val.length ≠ 0 ∧ ¬ buf.Admits data.val.length := by
  unfold nsClientEnqueueSend
  simp only
  split_ifs <;> simp_all

/-! ## Draining -/

/-- An upper bound for what the successful calls at the front of a schedule
take; it is reached unless the buffer runs out first. -/
def offered : List SendOutcome → ℕ
  | .took count :: rest => max 1 count + offered rest
  | _ => 0

/-- The drain that breaks the queue: `tail` rests at the end of the array,
and `send()` takes everything up to there, so that `head` returns to the
front and finds the buffer full of bytes already sent. -/
def NsSendBuf.Overruns (buf : NsSendBuf) (outcomes : List SendOutcome) :
    Prop :=
  buf.tail = nsSendBufSize ∧ nsSendBufSize - buf.head ≤ offered outcomes

theorem NsSendBuf.toSend_eq_contiguous (buf : NsSendBuf) :
    buf.toSend = contiguous buf.data.length buf.head buf.tail := by
  rw [buf.data_length]
  rfl

/-- What `send()` takes leaves the front of the queue, unless `head` meets
`tail` at the end of the array. -/
theorem NsSendBuf.queued_advance {buf : NsSendBuf}
    (hpending : nsClientSendBufPending buf) {sentNow : ℕ}
    (hle : sentNow ≤ buf.toSend)
    (hend : buf.head + sentNow < nsSendBufSize ∨
      buf.tail < nsSendBufSize) :
    buf.queued = (buf.data.drop buf.head).take sentNow ++
      (buf.advance sentNow).queued := by
  have hhead := buf.head_lt
  have hne : buf.head ≠ buf.tail := by
    simpa [nsClientSendBufPending] using hpending
  rw [buf.toSend_eq_contiguous] at hle
  rw [← buf.data_length] at hhead hend
  have hadvance := window_advance buf.data hhead hne hle hend
  rw [buf.data_length] at hadvance
  exact hadvance

@[simp] theorem nsClientDrainSend_tail (outcomes : List SendOutcome)
    (buf : NsSendBuf) :
    (nsClientDrainSend outcomes buf).buf.tail = buf.tail := by
  induction outcomes generalizing buf with
  | nil => rfl
  | cons outcome rest ih =>
      unfold nsClientDrainSend
      split_ifs
      · cases outcome with
        | took count => simpa [NsSendBuf.advance] using ih _
        | failed errno => rfl
      · rfl

/-- A drain that does not overrun moves the front of the queue to the
kernel and keeps the rest. -/
theorem nsClientDrainSend_of_not_overruns {outcomes : List SendOutcome}
    {buf : NsSendBuf} (hsafe : ¬ buf.Overruns outcomes) :
    buf.queued = (nsClientDrainSend outcomes buf).sent ++
      (nsClientDrainSend outcomes buf).buf.queued := by
  induction outcomes generalizing buf with
  | nil => rfl
  | cons outcome rest ih =>
      unfold nsClientDrainSend
      split_ifs with hpending
      · cases outcome with
        | failed errno => rfl
        | took count =>
            have hhead := buf.head_lt
            have hle := sendCount_le count buf.toSend
            have hcount : sendCount count buf.toSend ≤ max 1 count :=
              min_le_left _ _
            simp only
            generalize sendCount count buf.toSend = sentNow at *
            have hstop : buf.tail = nsSendBufSize →
                buf.head + sentNow + offered rest < nsSendBufSize := by
              intro hend
              have hbound : ¬ nsSendBufSize - buf.head ≤
                  max 1 count + offered rest :=
                fun hreach => hsafe ⟨hend, hreach⟩
              omega
            have htail := buf.tail_le
            have hadvance := NsSendBuf.queued_advance hpending hle
              (by omega)
            have hnext : ¬ (buf.advance sentNow).Overruns rest := by
              rintro ⟨hend, hreach⟩
              have hlt := hstop hend
              simp only [NsSendBuf.advance] at hreach
              rw [Nat.mod_eq_of_lt (by omega)] at hreach
              omega
            have hrest := ih hnext
            rw [List.append_assoc, ← hrest]
            exact hadvance
      · rfl

/-- A drain that overruns hands over at least the whole queue and still
leaves `tail` at the end of the array. -/
theorem nsClientDrainSend_of_overruns {outcomes : List SendOutcome}
    {buf : NsSendBuf} (hover : buf.Overruns outcomes) :
    nsSendBufSize - buf.head ≤
      (nsClientDrainSend outcomes buf).sent.length := by
  induction outcomes generalizing buf with
  | nil =>
      have hhead := buf.head_lt
      have hreach := hover.2
      simp only [offered] at hreach
      omega
  | cons outcome rest ih =>
      have hhead := buf.head_lt
      obtain ⟨hend, hreach⟩ := hover
      have hpending : nsClientSendBufPending buf := by
        simp only [nsClientSendBufPending, bne_iff_ne, ne_eq]
        omega
      cases outcome with
      | failed errno =>
          simp only [offered] at hreach
          omega
      | took count =>
          have htoSend : buf.toSend = nsSendBufSize - buf.head := by
            rw [NsSendBuf.toSend, if_pos (by omega), hend]
          unfold nsClientDrainSend
          rw [if_pos hpending]
          simp only [htoSend, List.length_append, List.length_take,
            List.length_drop, buf.data_length]
          simp only [offered] at hreach
          have hle := sendCount_le count (nsSendBufSize - buf.head)
          by_cases hpart : sendCount count (nsSendBufSize - buf.head) <
              nsSendBufSize - buf.head
          · have hcount : sendCount count (nsSendBufSize - buf.head) =
                max 1 count := by
              unfold sendCount at hpart ⊢
              omega
            have hhead' : (buf.advance (sendCount count
                (nsSendBufSize - buf.head))).head =
                buf.head + sendCount count (nsSendBufSize - buf.head) :=
              Nat.mod_eq_of_lt (by omega)
            have hover' : (buf.advance (sendCount count
                (nsSendBufSize - buf.head))).Overruns rest :=
              ⟨hend, by rw [hhead']; omega⟩
            have hrest := ih hover'
            rw [hhead'] at hrest
            omega
          · omega

end NodeSignal
