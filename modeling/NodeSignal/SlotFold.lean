import Mathlib.Data.List.Nodup

/-!
# Folds over the slots of a table

A loop visits the indices of a table in order.  Its body changes what is
read at the visited index only, and what it appends to a log depends only on
what is read there.  Such a loop acts on every visited index exactly once,
on the content that the index had before the loop.
-/

namespace SlotFold

variable {σ ι α β : Type*}

structure Local (read : σ → ι → α) (log : σ → List β)
    (visit : σ → ι → σ) (change : ι → α → α) (note : ι → α → List β) :
    Prop where
  own : ∀ state index,
    read (visit state index) index = change index (read state index)
  other : ∀ state index other, other ≠ index →
    read (visit state index) other = read state other
  log : ∀ state index,
    log (visit state index) = log state ++ note index (read state index)

variable {read : σ → ι → α} {log : σ → List β} {visit : σ → ι → σ}
  {change : ι → α → α} {note : ι → α → List β}

theorem Local.read_of_notMem
    (hlocal : Local read log visit change note) {indices : List ι}
    {index : ι} (hmem : index ∉ indices) (state : σ) :
    read (indices.foldl visit state) index = read state index := by
  induction indices generalizing state with
  | nil => rfl
  | cons first rest ih =>
      rw [List.mem_cons, not_or] at hmem
      rw [List.foldl_cons, ih hmem.2, hlocal.other _ _ _ hmem.1]

theorem Local.read_of_mem
    (hlocal : Local read log visit change note) {indices : List ι}
    (hnodup : indices.Nodup) {index : ι} (hmem : index ∈ indices)
    (state : σ) :
    read (indices.foldl visit state) index =
      change index (read state index) := by
  induction indices generalizing state with
  | nil => simp at hmem
  | cons first rest ih =>
      rw [List.nodup_cons] at hnodup
      rw [List.foldl_cons]
      rcases List.mem_cons.mp hmem with rfl | hrest
      · rw [hlocal.read_of_notMem hnodup.1, hlocal.own]
      · have hne : index ≠ first := fun heq => hnodup.1 (heq ▸ hrest)
        rw [ih hnodup.2 hrest, hlocal.other _ _ _ hne]

theorem Local.log_foldl
    (hlocal : Local read log visit change note) {indices : List ι}
    (hnodup : indices.Nodup) (state : σ) :
    log (indices.foldl visit state) =
      log state ++
        indices.flatMap fun index => note index (read state index) := by
  induction indices generalizing state with
  | nil => simp
  | cons first rest ih =>
      rw [List.nodup_cons] at hnodup
      have hrest : ∀ index ∈ rest,
          read (visit state first) index = read state index := by
        intro index hmem
        apply hlocal.other
        rintro rfl
        exact hnodup.1 hmem
      rw [List.foldl_cons, ih hnodup.2, hlocal.log, List.flatMap_cons,
        List.append_assoc]
      congr 2
      apply List.flatMap_congr
      intro index hmem
      rw [hrest index hmem]

/-- When a single index contributes, the concatenation is its part. -/
theorem flatMap_eq_of_unique {indices : List ι} (hnodup : indices.Nodup)
    {index : ι} (hmem : index ∈ indices) {part : ι → List β}
    (hother : ∀ other ∈ indices, other ≠ index → part other = []) :
    indices.flatMap part = part index := by
  induction indices with
  | nil => simp at hmem
  | cons first rest ih =>
      rw [List.nodup_cons] at hnodup
      rw [List.flatMap_cons]
      rcases List.mem_cons.mp hmem with rfl | hrest
      · have hnone : rest.flatMap part = [] := by
          rw [List.flatMap_eq_nil_iff]
          intro other hin
          apply hother other (List.mem_cons_of_mem _ hin)
          rintro rfl
          exact hnodup.1 hin
        rw [hnone, List.append_nil]
      · have hne : first ≠ index := fun heq => hnodup.1 (heq ▸ hrest)
        rw [hother first List.mem_cons_self hne, List.nil_append]
        apply ih hnodup.2 hrest
        intro other hin
        exact hother other (List.mem_cons_of_mem _ hin)

end SlotFold
