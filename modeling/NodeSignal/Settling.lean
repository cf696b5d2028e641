import NodeSignal.Runs
import Mathlib.Order.OrderIsoNat

/-!
# Systems that settle

A system whose effective steps all lower a rank comes to a stop, whatever
the order of its steps: only boundedly many of them have an effect, and a
schedule that leaves no event out for ever leads to a state in which none
has.
-/

namespace Settling

open Runs

variable {σ ε : Type*}

/-- No event has an effect. -/
def Stuck (step : σ → ε → σ) (allowed : ε → Prop) (state : σ) : Prop :=
  ∀ event, allowed event → step state event = state

/-- An event that has an effect. -/
def Effective (step : σ → ε → σ) (allowed : ε → Prop) (state : σ)
    (event : ε) : Prop :=
  allowed event ∧ step state event ≠ state

structure Settles (step : σ → ε → σ) (allowed : ε → Prop)
    (inv : σ → Prop) (rank : σ → ℕ) : Prop where
  keeps : ∀ state event,
    inv state → allowed event → inv (step state event)
  lowers : ∀ state event, inv state → allowed event →
    step state event ≠ state → rank (step state event) < rank state

/-- Every event comes again, or one that stands for it. -/
def Fair (stands : ε → ε → Prop) (allowed : ε → Prop)
    (schedule : ℕ → ε) : Prop :=
  ∀ event, allowed event → ∀ after, ∃ time, after ≤ time ∧
    stands (schedule time) event

/-- The state after the given number of steps of a schedule. -/
def after (step : σ → ε → σ) (start : σ) (schedule : ℕ → ε) : ℕ → σ
  | 0 => start
  | time + 1 => step (after step start schedule time) (schedule time)

variable {step : σ → ε → σ} {allowed : ε → Prop} {inv : σ → Prop}
  {rank : σ → ℕ}

/-- An effective run takes its steps out of the rank. -/
theorem Settles.length_le (hsettles : Settles step allowed inv rank)
    {start : σ} (hinv : inv start) {events : List ε}
    (halong : Along step (Effective step allowed) start events) :
    events.length + rank (run step start events) ≤ rank start := by
  induction events generalizing start with
  | nil => exact (Nat.zero_add _).le
  | cons event rest ih =>
      obtain ⟨⟨hallowed, heffect⟩, hrest⟩ := halong
      have hlower := hsettles.lowers start event hinv hallowed heffect
      have hbound := ih (hsettles.keeps start event hinv hallowed) hrest
      rw [run_cons, List.length_cons]
      omega

section Schedules

variable {start : σ} {schedule : ℕ → ε}

theorem Settles.after_inv (hsettles : Settles step allowed inv rank)
    (hinv : inv start) (hallowed : ∀ time, allowed (schedule time))
    (time : ℕ) : inv (after step start schedule time) := by
  induction time with
  | zero => exact hinv
  | succ time ih => exact hsettles.keeps _ _ ih (hallowed time)

theorem Settles.rank_antitone (hsettles : Settles step allowed inv rank)
    (hinv : inv start) (hallowed : ∀ time, allowed (schedule time)) :
    Antitone fun time => rank (after step start schedule time) := by
  refine antitone_nat_of_succ_le fun time => ?_
  have hnow := hsettles.after_inv hinv hallowed time
  by_cases heffect :
      step (after step start schedule time) (schedule time) =
        after step start schedule time
  · exact (congrArg rank heffect).le
  · exact (hsettles.lowers _ _ hnow (hallowed time) heffect).le

/-- From some time on, the state stays as it is. -/
theorem Settles.eventually_constant
    (hsettles : Settles step allowed inv rank) (hinv : inv start)
    (hallowed : ∀ time, allowed (schedule time)) :
    ∃ settled, ∀ time, settled ≤ time →
      after step start schedule time =
        after step start schedule settled := by
  let ranks : ℕ →o ℕᵒᵈ :=
    ⟨fun time => OrderDual.toDual (rank (after step start schedule time)),
      (hsettles.rank_antitone hinv hallowed).dual_right⟩
  obtain ⟨settled, hleast⟩ := WellFoundedGT.monotone_chain_condition ranks
  refine ⟨settled, fun time hlater => ?_⟩
  induction time, hlater using Nat.le_induction with
  | base => rfl
  | succ time hlater ih =>
      by_contra hchanged
      rw [← ih] at hchanged
      have hlower := hsettles.lowers _ _
        (hsettles.after_inv hinv hallowed time) (hallowed time) hchanged
      have hequal : rank (after step start schedule time) =
          rank (after step start schedule (time + 1)) :=
        (hleast time hlater).symm.trans
          (hleast (time + 1) (Nat.le_succ_of_le hlater))
      exact hlower.ne hequal.symm

/-- A fair schedule leads to a state that no event changes. -/
theorem Settles.stuck_of_fair
    (hsettles : Settles step allowed inv rank) (hinv : inv start)
    (hallowed : ∀ time, allowed (schedule time))
    {stands : ε → ε → Prop} (hfair : Fair stands allowed schedule)
    (hstands : ∀ state event event', inv state → allowed event →
      allowed event' → stands event' event →
      step state event' = state → step state event = state) :
    ∃ settled, Stuck step allowed (after step start schedule settled) ∧
      ∀ time, settled ≤ time → after step start schedule time =
        after step start schedule settled := by
  obtain ⟨settled, hconstant⟩ :=
    hsettles.eventually_constant hinv hallowed
  refine ⟨settled, fun event hevent => ?_, hconstant⟩
  obtain ⟨time, hlater, hstanding⟩ := hfair event hevent settled
  refine hstands _ _ _ (hsettles.after_inv hinv hallowed settled) hevent
    (hallowed time) hstanding ?_
  rw [← hconstant time hlater]
  exact (hconstant (time + 1) (Nat.le_succ_of_le hlater)).trans
    (hconstant time hlater).symm

end Schedules

end Settling
