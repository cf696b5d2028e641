import Mathlib.Order.Basic

/-!
# Loops that are fed from outside

A loop tests its state and, while the test holds, runs its body on the next
input.  The inputs are an infinite sequence, so that a loop may run forever.
It ends when every pass lowers a measure, within as many passes as the
measure says, and it does not end when an invariant keeps its test true.
-/

namespace WhileLoops

variable {σ ε : Type*}

/-- The loop ends after at most so many passes. -/
def EndsWithin (test : σ → Bool) (body : σ → ε → σ) :
    ℕ → σ → (ℕ → ε) → Prop
  | 0, state, _ => test state = false
  | passes + 1, state, inputs =>
      test state = false ∨
        EndsWithin test body passes (body state (inputs 0))
          fun pass => inputs (pass + 1)

variable {test : σ → Bool} {body : σ → ε → σ}

/-- The variant rule. -/
theorem endsWithin_of_measure (inv : σ → Prop) (measure : σ → ℕ)
    (hkeep : ∀ state input, inv state → test state →
      inv (body state input) ∧ measure (body state input) < measure state)
    (passes : ℕ) {state : σ} (hinv : inv state)
    (henough : measure state ≤ passes) (inputs : ℕ → ε) :
    EndsWithin test body passes state inputs := by
  induction passes generalizing state inputs with
  | zero =>
      by_contra hmore
      have hlower := hkeep state (inputs 0) hinv (by simpa [EndsWithin]
        using hmore)
      omega
  | succ passes ih =>
      rw [EndsWithin, ← Bool.not_eq_true, or_iff_not_imp_left, not_not]
      intro hmore
      rcases hkeep state (inputs 0) hinv hmore with ⟨hnext, hlower⟩
      exact ih hnext (by omega) _

/-- A test that an invariant keeps true is never left. -/
theorem not_endsWithin (inv : σ → Prop)
    (htest : ∀ state, inv state → test state)
    (hkeep : ∀ state input, inv state → inv (body state input))
    (passes : ℕ) {state : σ} (hinv : inv state) (inputs : ℕ → ε) :
    ¬ EndsWithin test body passes state inputs := by
  induction passes generalizing state inputs with
  | zero => simp [EndsWithin, htest state hinv]
  | succ passes ih =>
      rw [EndsWithin, htest state hinv]
      simpa using ih (hkeep state (inputs 0) hinv) _

end WhileLoops
