import Mathlib.Data.List.Infix

/-!
# Runs of a deterministic step function

A component that reacts to one event at a time is a step function, and its
behaviour is a fold over the events it was given.  This file keeps the two
induction principles that the rest of the development uses: an invariant
which every guarded step preserves holds at the end of a guarded run, and a
guard which is exactly what separates good steps from bad ones characterizes
the runs that stay good throughout.
-/

namespace Runs

variable {σ ε : Type*}

/-- The state reached after feeding the events in order. -/
def run (step : σ → ε → σ) (start : σ) (events : List ε) : σ :=
  events.foldl step start

/-- Every event of the run arrives in a state in which the guard admits it. -/
def Along (step : σ → ε → σ) (guard : σ → ε → Prop) :
    σ → List ε → Prop
  | _, [] => True
  | state, event :: rest =>
      guard state event ∧ Along step guard (step state event) rest

/-- The predicate holds in every state the run visits, both ends included. -/
def Throughout (step : σ → ε → σ) (good : σ → Prop) :
    σ → List ε → Prop
  | state, [] => good state
  | state, event :: rest =>
      good state ∧ Throughout step good (step state event) rest

variable {step : σ → ε → σ} {guard : σ → ε → Prop}
  {good inv : σ → Prop}

@[simp] theorem run_nil (start : σ) : run step start [] = start := rfl

@[simp] theorem run_cons (start : σ) (event : ε) (rest : List ε) :
    run step start (event :: rest) = run step (step start event) rest := rfl

@[simp] theorem run_append (start : σ) (before after : List ε) :
    run step start (before ++ after) =
      run step (run step start before) after := by
  simp [run, List.foldl_append]

instance decidableAlong [∀ state event, Decidable (guard state event)] :
    ∀ start events, Decidable (Along step guard start events)
  | _, [] => inferInstanceAs (Decidable True)
  | start, event :: rest =>
      have := decidableAlong (step start event) rest
      inferInstanceAs (Decidable (guard start event ∧ _))

theorem along_of_forall (hguard : ∀ state event, guard state event)
    (start : σ) (events : List ε) : Along step guard start events := by
  induction events generalizing start with
  | nil => trivial
  | cons event rest ih => exact ⟨hguard start event, ih _⟩

theorem along_append {start : σ} {before after : List ε} :
    Along step guard start (before ++ after) ↔
      Along step guard start before ∧
        Along step guard (run step start before) after := by
  induction before generalizing start with
  | nil => simp [Along]
  | cons event rest ih => simp [Along, ih, and_assoc]

/-- An invariant of guarded steps survives a guarded run. -/
theorem run_invariant (inv : σ → Prop)
    (hkeep : ∀ state event,
      inv state → guard state event → inv (step state event))
    {start : σ} (hstart : inv start) {events : List ε}
    (halong : Along step guard start events) :
    inv (run step start events) := by
  induction events generalizing start with
  | nil => exact hstart
  | cons event rest ih =>
      exact ih (hkeep start event hstart halong.1) halong.2

/-- What the steps of guarded runs satisfy because of an invariant. -/
theorem along_of_invariant {good : σ → ε → Prop} (inv : σ → Prop)
    (hkeep : ∀ state event,
      inv state → guard state event → inv (step state event))
    (hgood : ∀ state event,
      inv state → guard state event → good state event)
    {start : σ} (hstart : inv start) {events : List ε}
    (halong : Along step guard start events) :
    Along step good start events := by
  induction events generalizing start with
  | nil => trivial
  | cons event rest ih =>
      exact ⟨hgood start event hstart halong.1,
        ih (hkeep start event hstart halong.1) halong.2⟩

/-- `Throughout` speaks about the states after each initial part of the
event list. -/
theorem throughout_iff_initial (start : σ) (events : List ε) :
    Throughout step good start events ↔
      ∀ before, before <+: events → good (run step start before) := by
  induction events generalizing start with
  | nil => simp [Throughout]
  | cons event rest ih =>
      simp only [Throughout, ih]
      constructor
      · rintro ⟨hgood, hrest⟩ before hprefix
        cases before with
        | nil => exact hgood
        | cons first tail =>
            obtain ⟨rfl, htail⟩ := List.cons_prefix_cons.mp hprefix
            exact hrest tail htail
      · intro hall
        refine ⟨hall [] List.nil_prefix, fun before hprefix => ?_⟩
        exact hall (event :: before)
          (List.cons_prefix_cons.mpr ⟨rfl, hprefix⟩)

/-- If the guard decides, from a state of the invariant, whether the next
state is still good, then the runs that are good throughout are exactly the
guarded ones. -/
theorem throughout_iff_along
    (hgood : ∀ state, inv state → good state)
    (hkeep : ∀ state event,
      inv state → guard state event → inv (step state event))
    (hbreak : ∀ state event,
      inv state → ¬ guard state event → ¬ good (step state event))
    {start : σ} (hstart : inv start) (events : List ε) :
    Throughout step good start events ↔
      Along step guard start events := by
  induction events generalizing start with
  | nil => simp [Throughout, Along, hgood start hstart]
  | cons event rest ih =>
      simp only [Throughout, Along]
      by_cases hguard : guard start event
      · simp [hgood start hstart, hguard,
          ih (hkeep start event hstart hguard)]
      · have hbad := hbreak start event hstart hguard
        have hnot : ¬ Throughout step good (step start event) rest := by
          cases rest with
          | nil => exact hbad
          | cons next tail => exact fun h => hbad h.1
        simp [hguard, hnot]

end Runs
