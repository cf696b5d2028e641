import NodeSignal.Broadcast

/-!
# The log of a run

The record of a run is read in two ways: the packets that were broadcast, in
order, and the packets that the send buffer of one connection accepted, with
the ERROR packets removed.  This file also says what a single broadcast adds
to each reading.
-/

namespace NodeSignal

open SlotFold

def Obs.announced : Obs → Option NsPacket
  | .broadcast packet => some packet
  | _ => none

/-- The packets passed to `ns_server_broadcast`, in call order. -/
def broadcasts (trace : List Obs) : List NsPacket :=
  trace.filterMap Obs.announced

def Obs.receipt (connection : ℕ) : Obs → Option NsPacket
  | .enqueued receiver packet =>
      if receiver = connection then some packet else none
  | _ => none

def received (connection : ℕ) (trace : List Obs) : List NsPacket :=
  trace.filterMap (Obs.receipt connection)

/-- The accepted packets that are not ERROR packets. -/
def chat (connection : ℕ) (trace : List Obs) : List NsPacket :=
  (received connection trace).filter fun packet =>
    packet.header.type ≠ NsPacketType.error.code

def Obs.rejection : Obs → Option (ℕ × NsPacket)
  | .rejected connection packet => some (connection, packet)
  | _ => none

def rejections (trace : List Obs) : List (ℕ × NsPacket) :=
  trace.filterMap Obs.rejection

@[simp] theorem rejections_nil : rejections [] = [] := rfl

@[simp] theorem rejections_append (before after : List Obs) :
    rejections (before ++ after) = rejections before ++ rejections after :=
  List.filterMap_append

@[simp] theorem rejections_cons (obs : Obs) (rest : List Obs) :
    rejections (obs :: rest) =
      (obs.rejection).toList ++ rejections rest := by
  cases hrejection : obs.rejection <;>
    simp [rejections, hrejection]

theorem mem_rejections {connection : ℕ} {packet : NsPacket}
    {trace : List Obs} :
    (connection, packet) ∈ rejections trace ↔
      .rejected connection packet ∈ trace := by
  rw [rejections, List.mem_filterMap]
  constructor
  · intro hmem
    rcases hmem with ⟨obs, hobs, hrejection⟩
    cases obs with
    | rejected connection' packet' =>
        simp only [Obs.rejection, Option.some.injEq,
          Prod.mk.injEq] at hrejection
        rw [← hrejection.1, ← hrejection.2]
        exact hobs
    | _ => simp [Obs.rejection] at hrejection
  · intro hmem
    exact ⟨_, hmem, rfl⟩

@[simp] theorem broadcasts_nil : broadcasts [] = [] := rfl

@[simp] theorem broadcasts_append (before after : List Obs) :
    broadcasts (before ++ after) = broadcasts before ++ broadcasts after :=
  List.filterMap_append

@[simp] theorem broadcasts_cons (obs : Obs) (rest : List Obs) :
    broadcasts (obs :: rest) =
      (obs.announced).toList ++ broadcasts rest := by
  cases hannounced : obs.announced <;>
    simp [broadcasts, hannounced]

@[simp] theorem chat_nil (connection : ℕ) : chat connection [] = [] := rfl

@[simp] theorem chat_append (connection : ℕ) (before after : List Obs) :
    chat connection (before ++ after) =
      chat connection before ++ chat connection after := by
  simp [chat, received]

theorem chat_cons (connection : ℕ) (obs : Obs) (rest : List Obs) :
    chat connection (obs :: rest) =
      chat connection [obs] ++ chat connection rest :=
  chat_append connection [obs] rest

theorem broadcasts_flatMap {ι : Type*} (indices : List ι)
    (part : ι → List Obs) :
    broadcasts (indices.flatMap part) =
      indices.flatMap fun index => broadcasts (part index) := by
  induction indices with
  | nil => rfl
  | cons first rest ih => simp [List.flatMap_cons, ih]

theorem chat_flatMap {ι : Type*} (connection : ℕ) (indices : List ι)
    (part : ι → List Obs) :
    chat connection (indices.flatMap part) =
      indices.flatMap fun index => chat connection (part index) := by
  induction indices with
  | nil => rfl
  | cons first rest ih => simp [List.flatMap_cons, ih]

/-! ## One slot of a broadcast -/

section Notes

variable (packet : NsPacket)
  (hlen : packet.header.bodyLen.toNat ≤ nsPacketBodyMax)
  (excludeIndex : Option SlotIndex)

theorem broadcasts_closingNotes (client : NsClient) (connection : ℕ) :
    broadcasts (closingNotes client connection) = [] := by
  unfold closingNotes
  split_ifs <;> rfl

theorem chat_closingNotes (client : NsClient)
    (connection connection' : ℕ) :
    chat connection (closingNotes client connection') = [] := by
  unfold closingNotes
  split_ifs <;> rfl

theorem broadcasts_broadcastNotes (index : SlotIndex) (client : NsClient)
    (connection : ℕ) :
    broadcasts (broadcastNotes packet hlen excludeIndex index client
      connection) = [] := by
  unfold broadcastNotes
  split_ifs
  · split
    · rfl
    · simp [Obs.announced, broadcasts_closingNotes]
  · rfl

theorem broadcasts_fanout (w : World) :
    broadcasts (fanout packet hlen excludeIndex w) = [] := by
  rw [fanout, broadcasts_flatMap, List.flatMap_eq_nil_iff]
  intro index _
  exact broadcasts_broadcastNotes packet hlen excludeIndex index _ _

theorem rejections_closingNotes (client : NsClient) (connection : ℕ) :
    rejections (closingNotes client connection) = [] := by
  unfold closingNotes
  split_ifs <;> rfl

theorem rejections_release (w : World) (index : SlotIndex) :
    rejections (releaseSlot w index).trace = rejections w.trace := by
  rw [releaseSlot_trace, rejections_append, rejections_closingNotes,
    List.append_nil]

include hlen in
theorem rejections_nsServerBroadcast (w : World) :
    rejections (nsServerBroadcast w packet excludeIndex).trace =
      rejections w.trace := by
  apply nsServerBroadcast_induction packet hlen excludeIndex
    (motive := fun after => rejections after.trace = rejections w.trace)
  · simp [World.observe, Obs.rejection]
  · intro v index buf hv _ _
    rw [World.appended_trace, rejections_append, hv]
    simp [Obs.rejection]
  · intro v index hv _ _
    rw [World.evicted_trace, rejections_append, hv]
    simp [Obs.rejection, rejections_closingNotes]

include hlen in
theorem broadcasts_nsServerBroadcast (w : World) :
    broadcasts (nsServerBroadcast w packet excludeIndex).trace =
      broadcasts w.trace ++ [packet] := by
  rw [nsServerBroadcast_trace packet hlen, broadcasts_append,
    broadcasts_cons, broadcasts_fanout]
  rfl

end Notes

end NodeSignal
