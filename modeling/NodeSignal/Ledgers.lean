import Mathlib.Data.List.Induction
import Mathlib.Data.Set.Image
import Mathlib.Order.BooleanAlgebra.Set

/-!
# Ledgers of resources

A ledger lists what was acquired and released, in order.  It is sound if
nothing is acquired that is held, nothing is released that is not held, and
nothing is released while something that is held needs it.
-/

namespace Ledgers

inductive Entry (ρ : Type*)
  | acquired (resource : ρ)
  | released (resource : ρ)
  deriving DecidableEq

variable {ρ : Type*}

def Entry.resource : Entry ρ → ρ
  | .acquired resource => resource
  | .released resource => resource

/-- The entries lead from the resources held before to those held after. -/
inductive Accounts (needs : ρ → ρ → Prop) :
    Set ρ → List (Entry ρ) → Set ρ → Prop
  | nil (held : Set ρ) : Accounts needs held [] held
  | acquire {held held' : Set ρ} {rest : List (Entry ρ)} (resource : ρ)
      (hfresh : resource ∉ held)
      (hneeds : ∀ other, needs resource other → other ∈ held)
      (hrest : Accounts needs (insert resource held) rest held') :
      Accounts needs held (.acquired resource :: rest) held'
  | release {held held' : Set ρ} {rest : List (Entry ρ)} (resource : ρ)
      (hheld : resource ∈ held)
      (hunneeded : ∀ other ∈ held, ¬ needs other resource)
      (hrest : Accounts needs (held \ {resource}) rest held') :
      Accounts needs held (.released resource :: rest) held'

variable {needs : ρ → ρ → Prop} {held held' held'' : Set ρ}
  {entries later : List (Entry ρ)}

theorem Accounts.append (hfirst : Accounts needs held entries held')
    (hthen : Accounts needs held' later held'') :
    Accounts needs held (entries ++ later) held'' := by
  induction hfirst with
  | nil => exact hthen
  | acquire resource hfresh hneeds _ ih =>
      exact .acquire resource hfresh hneeds (ih hthen)
  | release resource hheld hunneeded _ ih =>
      exact .release resource hheld hunneeded (ih hthen)

theorem Accounts.acquired {resource : ρ} (hfresh : resource ∉ held)
    (hneeds : ∀ other, needs resource other → other ∈ held) :
    Accounts needs held [.acquired resource] (insert resource held) :=
  .acquire resource hfresh hneeds (.nil _)

theorem Accounts.released {resource : ρ} (hheld : resource ∈ held)
    (hunneeded : ∀ other ∈ held, ¬ needs other resource) :
    Accounts needs held [.released resource] (held \ {resource}) :=
  .release resource hheld hunneeded (.nil _)

theorem Accounts.releaseAll {resources : List ρ}
    (hdistinct : resources.Nodup)
    (hheld : ∀ resource ∈ resources, resource ∈ held)
    (hunneeded : ∀ resource ∈ resources, ∀ other ∈ held,
      ¬ needs other resource) :
    Accounts needs held (resources.map .released)
      (held \ {resource | resource ∈ resources}) := by
  induction resources generalizing held with
  | nil => simpa using Accounts.nil held
  | cons resource rest ih =>
      rw [List.nodup_cons] at hdistinct
      rw [List.forall_mem_cons] at hheld hunneeded
      refine .release resource hheld.1 hunneeded.1 ?_
      have hleft : held \ {other | other ∈ resource :: rest} =
          (held \ {resource}) \ {other | other ∈ rest} := by
        ext other
        simp only [Set.mem_sdiff, Set.mem_ofPred_eq, List.mem_cons,
          Set.mem_singleton_iff]
        tauto
      rw [hleft]
      refine ih hdistinct.2 ?_ ?_
      · intro other hother
        refine ⟨hheld.2 other hother, ?_⟩
        rintro rfl
        exact hdistinct.1 hother
      · exact fun other hother third hthird =>
          hunneeded.2 other hother third hthird.1

/-! ## Part of a larger system -/

def Entry.map {σ : Type*} (embedding : ρ → σ) : Entry ρ → Entry σ
  | .acquired resource => .acquired (embedding resource)
  | .released resource => .released (embedding resource)

/-- A ledger of some of the resources of a system, while the others held are
left alone.  What a resource needs is one of its kind or held besides; only
resources of its kind need it. -/
theorem Accounts.embed {σ : Type*} {needs' : σ → σ → Prop}
    {embedding : ρ → σ} (hinjective : Function.Injective embedding)
    (haccounts : Accounts needs held entries held') {frame : Set σ}
    (hapart : ∀ resource, embedding resource ∉ frame)
    (hup : ∀ resource other, needs' (embedding resource) other →
      (∃ own, needs resource own ∧ embedding own = other) ∨ other ∈ frame)
    (hdown : ∀ resource other, needs' other (embedding resource) →
      ∃ own, needs own resource ∧ embedding own = other) :
    Accounts needs' (embedding '' held ∪ frame)
      (entries.map (Entry.map embedding)) (embedding '' held' ∪ frame) := by
  induction haccounts with
  | nil => exact .nil _
  | @acquire held _ _ resource hfresh hneeds _ ih =>
      refine .acquire (embedding resource) ?_ ?_ ?_
      · rintro (⟨own, hown, heq⟩ | hframe)
        · exact hfresh (hinjective heq ▸ hown)
        · exact hapart resource hframe
      · intro other hneed
        obtain ⟨own, hown, rfl⟩ | hframe := hup resource other hneed
        · exact Or.inl ⟨own, hneeds own hown, rfl⟩
        · exact Or.inr hframe
      · rw [← Set.insert_union, ← Set.image_insert_eq]
        exact ih
  | @release held _ _ resource hheld hunneeded _ ih =>
      refine .release (embedding resource) (Or.inl ⟨resource, hheld, rfl⟩)
        ?_ ?_
      · intro other hother hneed
        obtain ⟨own, hown, rfl⟩ := hdown resource other hneed
        obtain ⟨own', hown', heq⟩ | hframe := hother
        · exact hunneeded own (hinjective heq ▸ hown') hown
        · exact hapart own hframe
      · have hframe : frame \ {embedding resource} = frame :=
          Set.sdiff_singleton_eq_self (hapart resource)
        have hdiff : (embedding '' held ∪ frame) \ {embedding resource} =
            embedding '' (held \ {resource}) ∪ frame := by
          rw [Set.union_sdiff_distrib, hframe,
            Set.image_sdiff hinjective, Set.image_singleton]
        rw [hdiff]
        exact ih

/-! ## Resources that live once -/

def entriesOf [DecidableEq ρ] (resource : ρ) (entries : List (Entry ρ)) :
    List (Entry ρ) :=
  entries.filter fun entry => entry.resource = resource

/-- The resource is acquired at most once, and released at most once after
that. -/
def LivesOnce [DecidableEq ρ] (entries : List (Entry ρ)) (resource : ρ) :
    Prop :=
  entriesOf resource entries = [] ∨
    entriesOf resource entries = [.acquired resource] ∨
    entriesOf resource entries = [.acquired resource, .released resource]

section Lives

variable [DecidableEq ρ]

theorem entriesOf_concat (resource : ρ) (entries : List (Entry ρ))
    (entry : Entry ρ) :
    entriesOf resource (entries ++ [entry]) =
      if entry.resource = resource then
        entriesOf resource entries ++ [entry]
      else entriesOf resource entries := by
  unfold entriesOf
  rw [List.filter_append]
  by_cases hsame : entry.resource = resource <;> simp [hsame]

/-- The last entry of a life that goes on as it should. -/
theorem LivesOnce.concat {entry : Entry ρ}
    (hlives : LivesOnce (entries ++ [entry]) entry.resource) :
    entry = .acquired entry.resource ∧
        entriesOf entry.resource entries = [] ∨
      entry = .released entry.resource ∧
        entriesOf entry.resource entries = [.acquired entry.resource] := by
  unfold LivesOnce at hlives
  rw [entriesOf_concat, if_pos rfl] at hlives
  generalize entriesOf entry.resource entries = before at hlives
  rcases hlives with hnone | hone | htwo
  · exact absurd hnone (by simp)
  · left
    have hsplit : before ++ [entry] = [] ++ [.acquired entry.resource] :=
      hone
    have hlast := List.append_inj' hsplit rfl
    exact ⟨by simpa using hlast.2, hlast.1⟩
  · right
    have hsplit : before ++ [entry] =
        [.acquired entry.resource] ++ [.released entry.resource] := htwo
    have hlast := List.append_inj' hsplit rfl
    exact ⟨by simpa using hlast.2, hlast.1⟩

/-- Resources that need nothing and live once make a sound ledger. -/
theorem accounts_of_livesOnce
    (hunneeded : ∀ entry ∈ entries, ∀ other,
      ¬ needs entry.resource other ∧ ¬ needs other entry.resource)
    (hlives : ∀ resource, LivesOnce entries resource) :
    Accounts needs ∅ entries
      {resource | entriesOf resource entries = [.acquired resource]} := by
  induction entries using List.reverseRecOn with
  | nil =>
      have hempty : {resource : ρ | entriesOf resource [] =
          [.acquired resource]} = ∅ := by
        ext resource
        simp [entriesOf]
      rw [hempty]
      exact .nil ∅
  | append_singleton init entry ih =>
      have hbefore : ∀ resource, LivesOnce init resource := by
        intro resource
        by_cases hsame : entry.resource = resource
        · rw [← hsame]
          rcases (hlives entry.resource).concat with ⟨-, h⟩ | ⟨-, h⟩
          · exact Or.inl h
          · exact Or.inr (Or.inl h)
        · have hlater := hlives resource
          unfold LivesOnce at hlater ⊢
          rwa [entriesOf_concat, if_neg hsame] at hlater
      have hfirst := ih
        (fun entry' hmem => hunneeded entry' (List.mem_append_left _ hmem))
        hbefore
      have hfree := hunneeded entry (List.mem_append_right _
        (List.mem_singleton_self entry))
      refine hfirst.append ?_
      rcases (hlives entry.resource).concat with ⟨hentry, hinit⟩ |
        ⟨hentry, hinit⟩
      · have hafter : {resource | entriesOf resource (init ++ [entry]) =
              [.acquired resource]} =
            insert entry.resource
              {resource | entriesOf resource init =
                [.acquired resource]} := by
          ext resource
          rw [Set.mem_ofPred_eq, Set.mem_insert_iff, Set.mem_ofPred_eq,
            entriesOf_concat]
          by_cases hsame : entry.resource = resource
          · rw [if_pos hsame, ← hsame, hinit]
            simpa using hentry
          · simp [hsame, Ne.symm hsame]
        rw [hafter]
        generalize entry.resource = resource at *
        rw [hentry]
        refine .acquired ?_ fun other hneed => absurd hneed (hfree other).1
        rw [Set.mem_ofPred_eq, hinit]
        simp
      · have hafter : {resource | entriesOf resource (init ++ [entry]) =
              [.acquired resource]} =
            {resource | entriesOf resource init =
              [.acquired resource]} \ {entry.resource} := by
          ext resource
          rw [Set.mem_ofPred_eq, Set.mem_sdiff, Set.mem_singleton_iff,
            Set.mem_ofPred_eq, entriesOf_concat]
          by_cases hsame : entry.resource = resource
          · rw [if_pos hsame, ← hsame, hinit]
            simp
          · simp [hsame, Ne.symm hsame]
        rw [hafter]
        generalize entry.resource = resource at *
        rw [hentry]
        exact .released hinit fun other _ => (hfree other).2

end Lives

end Ledgers
