import NodeSignal.Runs
import Mathlib.Logic.Relation

/-!
# Simulations

A system refines another one if every move it makes can be followed there,
in any number of steps, to a state that is still related.  What is shown of
one move then holds of whole runs, and the invariants of the other system
carry over.
-/

namespace Simulations

open Relation Runs

variable {σ τ ε : Type*}

/-- Every move from related states is followed by steps to related states. -/
def Simulates (move : σ → σ → Prop) (next : τ → τ → Prop)
    (related : σ → τ → Prop) : Prop :=
  ∀ state state' shadow, related state shadow → move state state' →
    ∃ shadow', ReflTransGen next shadow shadow' ∧ related state' shadow'

/-- A step that the guard admits. -/
def Admitted (step : σ → ε → σ) (guard : σ → ε → Prop)
    (state state' : σ) : Prop :=
  ∃ event, guard state event ∧ step state event = state'

variable {move : σ → σ → Prop} {next : τ → τ → Prop}
  {related : σ → τ → Prop} {step : σ → ε → σ} {guard : σ → ε → Prop}

/-- What can be followed in one move can be followed in many. -/
theorem Simulates.reaches (hsimulates : Simulates move next related)
    {state state' : σ} {shadow : τ} (hrelated : related state shadow)
    (hmoves : ReflTransGen move state state') :
    ∃ shadow', ReflTransGen next shadow shadow' ∧
      related state' shadow' := by
  induction hmoves with
  | refl => exact ⟨shadow, .refl, hrelated⟩
  | @tail middle last hmoves hmove ih =>
      rcases ih with ⟨middleShadow, hreaches, hmiddle⟩
      rcases hsimulates middle last middleShadow hmiddle hmove with
        ⟨lastShadow, hfollows, hlast⟩
      exact ⟨lastShadow, hreaches.trans hfollows, hlast⟩

theorem reaches_of_along {start : σ} {events : List ε}
    (halong : Along step guard start events) :
    ReflTransGen (Admitted step guard) start (run step start events) := by
  induction events generalizing start with
  | nil => exact .refl
  | cons event rest ih =>
      have hfirst : Admitted step guard start (step start event) :=
        ⟨event, halong.1, rfl⟩
      exact (ReflTransGen.single hfirst).trans (ih halong.2)

theorem exists_run_of_reaches {state state' : σ}
    (hreaches : ReflTransGen (Admitted step guard) state state') :
    ∃ events, Along step guard state events ∧
      run step state events = state' := by
  induction hreaches with
  | refl => exact ⟨[], trivial, rfl⟩
  | @tail middle last hreaches hlast ih =>
      rcases ih with ⟨events, halong, rfl⟩
      rcases hlast with ⟨event, hguard, rfl⟩
      refine ⟨events ++ [event], ?_, ?_⟩
      · exact along_append.mpr ⟨halong, hguard, trivial⟩
      · rw [run_append]
        rfl

/-- A guarded run is followed from a related state. -/
theorem Simulates.run
    (hsimulates : Simulates (Admitted step guard) next related)
    {start : σ} {shadow : τ} (hrelated : related start shadow)
    {events : List ε} (halong : Along step guard start events) :
    ∃ shadow', ReflTransGen next shadow shadow' ∧
      related (run step start events) shadow' :=
  hsimulates.reaches hrelated (reaches_of_along halong)

end Simulations
