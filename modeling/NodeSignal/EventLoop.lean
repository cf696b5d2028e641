import NodeSignal.ServerMoves

/-!
# The passes of the event loop

A pass of the loop in `ns_server_run` is a sequence of events, so whatever
holds along every run of events holds along every run of the loop.
-/

namespace NodeSignal

open Runs

def Reaches (w after : World) : Prop :=
  ∃ events, after = run World.step w events

theorem Reaches.refl (w : World) : Reaches w w := ⟨[], rfl⟩

theorem Reaches.trans {w middle after : World} (hfirst : Reaches w middle)
    (hsecond : Reaches middle after) : Reaches w after := by
  rcases hfirst with ⟨before, rfl⟩
  rcases hsecond with ⟨later, rfl⟩
  exact ⟨before ++ later, (run_append _ _ _).symm⟩

theorem reaches_step (w : World) (event : Event) :
    Reaches w (w.step event) := ⟨[event], rfl⟩

theorem reaches_foldl {ι : Type*} {visit : World → ι → World}
    (hvisit : ∀ w index, Reaches w (visit w index)) (w : World)
    (indices : List ι) : Reaches w (indices.foldl visit w) := by
  induction indices generalizing w with
  | nil => exact .refl w
  | cons first rest ih => exact (hvisit w first).trans (ih _)

section Slots

variable (w : World) (index : SlotIndex)

theorem reaches_checkSlot : Reaches w (checkSlot w index) := by
  unfold checkSlot
  simp only
  split
  · exact reaches_step w (.pollError index)
  · exact .refl w

theorem reaches_readSlot (hactive : (w.clients index).active)
    (calls : SlotCalls) : Reaches w (readSlot w index calls) := by
  unfold readSlot
  simp only
  apply Reaches.trans _ (reaches_checkSlot _ index)
  split
  · have hstep : w.step (.readable index calls.sock calls.faults) =
        (nsServerHandleClientReadable w index calls.sock
          calls.faults).1 := if_pos hactive
    rw [← hstep]
    exact reaches_step w _
  · exact .refl w

theorem drainSlot_active (hactive : (w.clients index).active)
    {outcomes : List SendOutcome}
    (hok : (drainSlot w index outcomes).2 ≠ .disconnect) :
    ((drainSlot w index outcomes).1.clients index).active := by
  unfold drainSlot at hok ⊢
  simp only at hok ⊢
  split_ifs at hok ⊢
  · exact absurd rfl hok
  · change ((w.flushed index outcomes).clients index).active
    rw [World.flushed_clients, Function.update_self]
    exact hactive

theorem reaches_serveSlot (calls : SlotIndex → SlotCalls) :
    Reaches w (serveSlot calls w index) := by
  unfold serveSlot
  simp only
  split
  · exact .refl w
  · next hserved =>
      have hactive : (w.clients index).active := by
        rw [Bool.or_eq_true, not_or] at hserved
        simpa using hserved.1
      split
      · have hdrain : w.step (.drain index (calls index).outcomes) =
            (drainSlot w index (calls index).outcomes).1 := if_pos hactive
        have hdrained : Reaches w
            (drainSlot w index (calls index).outcomes).1 := by
          rw [← hdrain]
          exact reaches_step w _
        split
        · exact hdrained
        · next hok =>
            exact hdrained.trans (reaches_readSlot _ index
              (drainSlot_active w index hactive hok) (calls index))
      · exact reaches_readSlot w index hactive (calls index)

end Slots

theorem reaches_nsServerRunPass (w : World) (calls : PassCalls) :
    Reaches w (nsServerRunPass w calls) := by
  have hswept : Reaches w
      (nsServerReapAuthTimeouts (pollRevents w calls.revents)) :=
    (reaches_step w (.poll calls.revents)).trans (reaches_step _ .sweep)
  unfold nsServerRunPass
  simp only
  split
  · exact hswept
  · apply hswept.trans
    apply Reaches.trans _ (reaches_foldl (fun v index =>
      reaches_serveSlot v index calls.slots) _ _)
    split
    · exact reaches_step _ (.accept calls.acceptOutcome)
    · exact .refl _

/-- What holds after every run of events holds after any number of passes
of the loop. -/
theorem passes_invariant {inv : World → Prop} {tables : Tables}
    {listenSocket : NsSocket} {errno : Errno} {clock : Clock}
    (hrun : ∀ events, inv (run World.step
      (World.boot tables listenSocket errno clock) events))
    (passes : List PassCalls) :
    inv (run nsServerRunPass (World.boot tables listenSocket errno clock)
      passes) := by
  rcases reaches_foldl reaches_nsServerRunPass
    (World.boot tables listenSocket errno clock) passes with
    ⟨events, hreached⟩
  rw [run, hreached]
  exact hrun events

end NodeSignal
