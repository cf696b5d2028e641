import NodeSignal.Runs
import Mathlib.Tactic

/-!
# Streams that arrive in segments

A reader is woken once for every round in which something is unread, and
consumes some of it.  If what it does at the front of the unread bytes does
not depend on the bytes behind, then it does not matter in which rounds the
bytes arrive.
-/

namespace Segments

open Runs

variable {σ α : Type*}

/-- `wake` is given all that is unread and returns what it leaves unread. -/
structure Reader (σ α : Type*) where
  stopped : σ → Bool
  wake : σ → List α → σ × List α

/-- A round: a piece arrives, and the reader is woken if it has not stopped
and anything is unread. -/
def Reader.round (reader : Reader σ α) (now : σ × List α)
    (piece : List α) : σ × List α :=
  if reader.stopped now.1 ∨ now.2 ++ piece = [] then
    (now.1, now.2 ++ piece)
  else reader.wake now.1 (now.2 ++ piece)

/-- The reader is woken in the round. -/
def Reader.Woken (reader : Reader σ α) (now : σ × List α)
    (piece : List α) : Prop :=
  reader.stopped now.1 = false ∧ now.2 ++ piece ≠ []

/-- What is asked of a reader, from the states of an invariant: it consumes
something whenever it is woken, and bytes that arrive behind those it is
ready for make no difference. -/
structure Reader.Regular (reader : Reader σ α) (inv : σ → Prop)
    (ready : σ → List α → Prop) : Prop where
  keeps : ∀ state unread, inv state → unread ≠ [] →
    inv (reader.wake state unread).1
  shrinks : ∀ state unread, inv state → unread ≠ [] →
    reader.stopped (reader.wake state unread).1 ∨
      (reader.wake state unread).2.length < unread.length
  stable : ∀ state unread more, inv state → unread ≠ [] →
    ready state unread →
      reader.wake state (unread ++ more) =
        ((reader.wake state unread).1,
          (reader.wake state unread).2 ++ more)

/-- The reader is ready whenever it is woken. -/
def Reader.Guard (reader : Reader σ α) (ready : σ → List α → Prop)
    (now : σ × List α) (piece : List α) : Prop :=
  reader.Woken now piece → ready now.1 (now.2 ++ piece)

section Rounds

variable {reader : Reader σ α} {inv : σ → Prop}
  {ready : σ → List α → Prop} {state : σ} {unread : List α}

theorem Reader.round_woken {now : σ × List α} {piece : List α}
    (hwoken : reader.Woken now piece) :
    reader.round now piece = reader.wake now.1 (now.2 ++ piece) := by
  apply if_neg
  rw [not_or]
  exact ⟨by simp [hwoken.1], hwoken.2⟩

theorem Reader.round_not_woken {now : σ × List α} {piece : List α}
    (hasleep : ¬ reader.Woken now piece) :
    reader.round now piece = (now.1, now.2 ++ piece) := by
  apply if_pos
  by_contra hneither
  rw [not_or, Bool.not_eq_true] at hneither
  exact hasleep hneither

theorem Reader.round_nil_woken
    (hwoken : reader.stopped state = false ∧ unread ≠ []) :
    reader.round (state, unread) [] = reader.wake state unread := by
  simp [Reader.round, hwoken.1, hwoken.2]

theorem Reader.round_nil_asleep
    (hasleep : ¬ (reader.stopped state = false ∧ unread ≠ [])) :
    reader.round (state, unread) [] = (state, unread) := by
  rw [not_and_or, Bool.not_eq_false, ne_eq, not_not] at hasleep
  rcases hasleep with hstopped | hempty
  · simp [Reader.round, hstopped]
  · simp [Reader.round, hempty]

/-- A further round changes nothing after as many rounds as there were
unread bytes. -/
theorem Reader.Regular.run_settled (hregular : reader.Regular inv ready)
    (hinv : inv state) {count : ℕ}
    (hcount : reader.stopped state ∨ unread.length ≤ count) :
    run reader.round (state, unread) (List.replicate (count + 1) []) =
      run reader.round (state, unread) (List.replicate count []) := by
  induction count generalizing state unread with
  | zero =>
      have hasleep : ¬ reader.Woken (state, unread) [] := by
        intro hwoken
        rcases hcount with hstopped | hempty
        · simp [hwoken.1] at hstopped
        · apply hwoken.2
          rw [List.append_nil]
          exact List.length_eq_zero_iff.mp (Nat.le_zero.mp hempty)
      rw [List.replicate_one, List.replicate_zero, run_cons, run_nil,
        reader.round_not_woken hasleep]
      simp
  | succ count ih =>
      have hstep : run reader.round (reader.round (state, unread) [])
            (List.replicate (count + 1) []) =
          run reader.round (reader.round (state, unread) [])
            (List.replicate count []) := by
        by_cases hwoken : reader.stopped state = false ∧ unread ≠ []
        · have hkeeps := hregular.keeps state unread hinv hwoken.2
          have hshrinks := hregular.shrinks state unread hinv hwoken.2
          rw [reader.round_nil_woken hwoken]
          generalize reader.wake state unread = woken at *
          rcases woken with ⟨next, left⟩
          apply ih hkeeps
          rcases hshrinks with hstop | hshorter
          · exact Or.inl hstop
          · right
            rcases hcount with hstopped | hlength
            · simp [hwoken.1] at hstopped
            · simp only at hshorter
              omega
        · rw [reader.round_nil_asleep hwoken]
          apply ih hinv
          rw [not_and_or, Bool.not_eq_false, ne_eq, not_not] at hwoken
          rcases hwoken with hstopped | hempty
          · exact Or.inl hstopped
          · rw [hempty]
            exact Or.inr (Nat.zero_le count)
      rw [List.replicate_succ, run_cons, hstep, List.replicate_succ,
        run_cons]

/-- It does not matter when the pieces arrive, as long as the reader is
ready whenever it is woken. -/
theorem Reader.Regular.run_pieces (hregular : reader.Regular inv ready)
    (hinv : inv state) {pieces : List (List α)} {count : ℕ}
    (halong : Along reader.round (reader.Guard ready) (state, unread)
      (pieces ++ List.replicate count []))
    (hcount : reader.stopped state ∨
      unread.length + pieces.flatten.length ≤ count) :
    run reader.round (state, unread)
        (pieces ++ List.replicate count []) =
      run reader.round (state, unread ++ pieces.flatten)
        (List.replicate count []) := by
  induction pieces generalizing state unread with
  | nil => simp
  | cons piece rest ih =>
      rw [List.cons_append, run_cons]
      rw [List.flatten_cons, List.length_append] at hcount
      rw [List.flatten_cons, ← List.append_assoc]
      by_cases hwoken : reader.Woken (state, unread) piece
      · have hround : reader.round (state, unread) piece =
            reader.wake state (unread ++ piece) := reader.round_woken hwoken
        have hready := halong.1 hwoken
        have hnext := halong.2
        have hkeeps := hregular.keeps state _ hinv hwoken.2
        have hshrinks := hregular.shrinks state _ hinv hwoken.2
        have hstable := hregular.stable state _ rest.flatten hinv hwoken.2
          hready
        have hbehind : reader.round
            (state, unread ++ piece ++ rest.flatten) [] =
              reader.wake state (unread ++ piece ++ rest.flatten) :=
          reader.round_nil_woken ⟨hwoken.1,
            List.append_ne_nil_of_left_ne_nil hwoken.2 _⟩
        rw [hround] at hnext ⊢
        rw [hstable] at hbehind
        simp only at hkeeps hshrinks hbehind
        generalize reader.wake state (unread ++ piece) = woken at *
        rcases woken with ⟨next, left⟩
        have hrest := hcount.resolve_left (by simp [hwoken.1])
        cases count with
        | zero =>
            have hsome := List.length_pos_of_ne_nil hwoken.2
            simp only [List.length_append] at hsome
            omega
        | succ count =>
            have hleft : reader.stopped next ∨
                (left ++ rest.flatten).length ≤ count := by
              rcases hshrinks with hstopped | hshorter
              · exact Or.inl hstopped
              · right
                simp only [List.length_append] at hshorter ⊢
                omega
            rw [List.replicate_succ, run_cons, hbehind,
              ← hregular.run_settled hkeeps hleft]
            apply ih hkeeps hnext
            rcases hleft with hstopped | hlength
            · exact Or.inl hstopped
            · right
              rw [List.length_append] at hlength
              omega
      · have hasleep := reader.round_not_woken hwoken
        have hnext := halong.2
        rw [hasleep] at hnext ⊢
        apply ih hinv hnext
        rcases hcount with hstopped | hlength
        · exact Or.inl hstopped
        · right
          simp only [List.length_append]
          omega

/-- In particular everything may arrive in the first round. -/
theorem Reader.Regular.run_at_once (hregular : reader.Regular inv ready)
    (hinv : inv state) {pieces : List (List α)}
    (halong : Along reader.round (reader.Guard ready) (state, [])
      (pieces ++ List.replicate pieces.flatten.length [])) :
    run reader.round (state, [])
        (pieces ++ List.replicate pieces.flatten.length []) =
      run reader.round (state, [])
        (pieces.flatten :: List.replicate pieces.flatten.length []) := by
  have hcut := hregular.run_pieces hinv halong
    (Or.inr (Nat.zero_add _).le)
  have hsettled : run reader.round (state, pieces.flatten)
        (List.replicate (pieces.flatten.length + 1) []) =
      run reader.round (state, pieces.flatten)
        (List.replicate pieces.flatten.length []) :=
    hregular.run_settled hinv (Or.inr le_rfl)
  have hfirst : reader.round (state, []) pieces.flatten =
      reader.round (state, pieces.flatten) [] := by
    simp [Reader.round]
  rw [hcut, List.nil_append, ← hsettled, List.replicate_succ, run_cons,
    run_cons, hfirst]

end Rounds

end Segments
