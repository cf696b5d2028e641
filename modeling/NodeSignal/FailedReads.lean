import Mathlib.Data.List.ReduceOption
import NodeSignal.Statements

/-!
# Failed reads of the history

The loop of `ns_db_recent_messages` ends at the first `sqlite3_step` call
that returns no row, and does not look at what the call returned instead.
Here the calls may return any number of rows and after them the end of the
result or an error.
-/

namespace NodeSignal

/-- What `sqlite3_step` returns when it returns no row. -/
inductive StepEnd where
  | done
  | failed (code : ℕ)
  deriving DecidableEq

/-- What the calls of `sqlite3_step` return up to the first without a row;
a row is `none` if a text of it is missing. -/
structure StepResults where
  rows : List (Option NsHistoryRow)
  ending : StepEnd

/-- The return value of `ns_db_recent_messages`, the rows that its callback
got, and what the last `sqlite3_step` call returned, `none` for a row. -/
structure HistoryReport where
  status : ℤ
  delivered : List NsHistoryRow
  lastStep : Option StepEnd

def stepLoop (limit : ℕ) (ending : StepEnd) :
    List (Option NsHistoryRow) → ℕ → List NsHistoryRow × Option StepEnd
  | [], _ => ([], some ending)
  | fetched :: rest, count =>
      -- the row is read before `count` is compared
      if count < limit then
        match fetched with
        | none => stepLoop limit ending rest count
        | some row =>
            let later := stepLoop limit ending rest (count + 1)
            (row.stored :: later.1, later.2)
      else ([], none)

/-- `ns_db_recent_messages` on a prepared statement. -/
def nsDbRecentMessagesOn (results : StepResults) (limit : ℤ) :
    HistoryReport :=
  let read := stepLoop (clampLimit limit) results.ending results.rows 0
  ⟨0, read.1.reverse, read.2⟩

/-- Success means that the result was read to its end or up to the limit. -/
def HistoryReport.Whole (report : HistoryReport) (limit : ℤ) : Prop :=
  report.status = 0 ∨ report.delivered ≠ [] →
    report.lastStep = some .done ∨
      report.delivered.length = clampLimit limit

structure HistoryReport.Honest (report : HistoryReport) (limit : ℤ) :
    Prop where
  whole : report.Whole limit
  refused : ∀ code, report.lastStep = some (.failed code) →
    report.status = -1 ∧ report.delivered = []

/-! ## The loop -/

/-- The loop keeps the first rows that have their texts. -/
theorem stepLoop_rows (limit : ℕ) (ending : StepEnd)
    (rows : List (Option NsHistoryRow)) (count : ℕ) :
    (stepLoop limit ending rows count).1 =
      (rows.reduceOption.take (limit - count)).map NsHistoryRow.stored := by
  induction rows generalizing count with
  | nil => simp [stepLoop]
  | cons fetched rest ih =>
      by_cases hmore : count < limit
      · cases fetched with
        | none =>
            simp only [stepLoop, hmore, if_true, ih,
              List.reduceOption_cons_of_none]
        | some row =>
            have hroom : limit - count = limit - (count + 1) + 1 := by omega
            simp only [stepLoop, hmore, if_true, ih,
              List.reduceOption_cons_of_some]
            rw [hroom, List.take_succ_cons, List.map_cons]
      · have hfull : limit - count = 0 := by omega
        simp only [stepLoop, hmore, if_false, hfull, List.take_zero,
          List.map_nil]

/-- The loop stops at a row if the rows before it fill the limit. -/
theorem stepLoop_lastStep (limit : ℕ) (ending : StepEnd)
    (rows : List (Option NsHistoryRow)) (count : ℕ) :
    (stepLoop limit ending rows count).2 =
      if rows = [] ∨ count + rows.dropLast.reduceOption.length < limit then
        some ending
      else none := by
  induction rows generalizing count with
  | nil => simp [stepLoop]
  | cons fetched rest ih =>
      by_cases hmore : count < limit
      · have hlast : (stepLoop limit ending (fetched :: rest) count).2 =
            (stepLoop limit ending rest
              (count + fetched.toList.length)).2 := by
          cases fetched with
          | none => simp [stepLoop, hmore]
          | some row => simp [stepLoop, hmore]
        rw [hlast, ih]
        cases rest with
        | nil => simp [hmore]
        | cons next rest =>
            cases fetched with
            | none => simp
            | some row => simp [Nat.add_assoc, Nat.add_comm 1]
      · simp only [stepLoop, hmore, if_false, reduceCtorEq, false_or]
        rw [if_neg (by omega)]

theorem clampLimit_pos (limit : ℤ) : 0 < clampLimit limit := by
  unfold clampLimit
  grind

section Report

variable (results : StepResults) (limit : ℤ)

theorem recentMessages_delivered_length :
    (nsDbRecentMessagesOn results limit).delivered.length =
      min (clampLimit limit) results.rows.reduceOption.length := by
  simp [nsDbRecentMessagesOn, stepLoop_rows]

theorem recentMessages_lastStep_of_lt
    (hroom : results.rows.dropLast.reduceOption.length <
      clampLimit limit) :
    (nsDbRecentMessagesOn results limit).lastStep =
      some results.ending := by
  simp [nsDbRecentMessagesOn, stepLoop_lastStep, hroom]

theorem recentMessages_lastStep_of_le
    (hfull : clampLimit limit ≤
      results.rows.dropLast.reduceOption.length) :
    (nsDbRecentMessagesOn results limit).lastStep = none := by
  have hpos := clampLimit_pos limit
  have hrows : results.rows ≠ [] := by
    intro hnil
    simp [hnil] at hfull
    omega
  simp [nsDbRecentMessagesOn, stepLoop_lastStep, hrows, hfull]

theorem dropLast_reduceOption_length_le :
    results.rows.dropLast.reduceOption.length ≤
      results.rows.reduceOption.length :=
  ((List.dropLast_sublist _).filterMap id).length_le

theorem recentMessages_whole :
    (nsDbRecentMessagesOn results limit).Whole limit ↔
      results.ending = .done ∨
        clampLimit limit ≤ results.rows.reduceOption.length := by
  unfold HistoryReport.Whole
  rw [recentMessages_delivered_length]
  constructor
  · intro hwhole
    rcases hwhole (Or.inl rfl) with hdone | hfull
    · left
      by_cases hroom : results.rows.dropLast.reduceOption.length <
          clampLimit limit
      · rw [recentMessages_lastStep_of_lt results limit hroom] at hdone
        exact Option.some.inj hdone
      · rw [recentMessages_lastStep_of_le results limit
          (not_lt.mp hroom)] at hdone
        exact absurd hdone (by simp)
    · right
      omega
  · intro hends _
    have hle := dropLast_reduceOption_length_le results
    by_cases hroom : results.rows.dropLast.reduceOption.length <
        clampLimit limit
    · rw [recentMessages_lastStep_of_lt results limit hroom]
      rcases hends with hdone | hfull
      · exact Or.inl (congrArg some hdone)
      · right
        omega
    · right
      omega

theorem recentMessages_refused :
    (∀ code,
      (nsDbRecentMessagesOn results limit).lastStep =
          some (.failed code) →
        (nsDbRecentMessagesOn results limit).status = -1 ∧
          (nsDbRecentMessagesOn results limit).delivered = []) ↔
      results.ending = .done ∨
        clampLimit limit ≤ results.rows.dropLast.reduceOption.length := by
  constructor
  · intro hrefused
    by_contra! hreaches
    rcases hreaches with ⟨hnotDone, hroom⟩
    cases hending : results.ending with
    | done => exact hnotDone hending
    | failed code =>
        have hlast := recentMessages_lastStep_of_lt results limit hroom
        rw [hending] at hlast
        have hstatus : (0 : ℤ) = -1 := (hrefused code hlast).1
        exact absurd hstatus (by decide)
  · intro hends code hlast
    by_cases hroom : results.rows.dropLast.reduceOption.length <
        clampLimit limit
    · rw [recentMessages_lastStep_of_lt results limit hroom,
        Option.some.injEq] at hlast
      rcases hends with hdone | hfull
      · simp [hdone] at hlast
      · omega
    · rw [recentMessages_lastStep_of_le results limit
        (not_lt.mp hroom)] at hlast
      exact absurd hlast (by simp)

theorem recentMessages_honest :
    (nsDbRecentMessagesOn results limit).Honest limit ↔
      results.ending = .done ∨
        clampLimit limit ≤ results.rows.dropLast.reduceOption.length := by
  constructor
  · intro hhonest
    exact (recentMessages_refused results limit).mp hhonest.refused
  · intro hends
    have hle := dropLast_reduceOption_length_le results
    refine ⟨?_, (recentMessages_refused results limit).mpr hends⟩
    exact (recentMessages_whole results limit).mpr
      (hends.imp_right fun hfull => hfull.trans hle)

end Report

/-- The history is honest exactly when no `sqlite3_step` call that is made
returns an error.  An error met once the limit is reached is the only one
that leaves the history whole. -/
theorem history_honest_iff (results : StepResults) (limit : ℤ) :
    ((nsDbRecentMessagesOn results limit).Honest limit ↔
      results.ending = .done ∨
        clampLimit limit ≤
          results.rows.dropLast.reduceOption.length) ∧
    ((nsDbRecentMessagesOn results limit).Whole limit ↔
      results.ending = .done ∨
        clampLimit limit ≤ results.rows.reduceOption.length) :=
  ⟨recentMessages_honest results limit, recentMessages_whole results limit⟩

/-- The second call of `sqlite3_step` reports `SQLITE_IOERR`. -/
def failedAfterOne : StepResults where
  rows := [some ⟨[97], [104, 105], 7⟩]
  ending := .failed 10

/-- One message of a longer history is delivered as if it were all. -/
theorem history_not_always_honest :
    ¬ ∀ results limit,
      (nsDbRecentMessagesOn results limit).Honest limit := by
  intro hall
  have hrefused := (hall failedAfterOne 50).refused 10 (by decide)
  exact absurd hrefused.1 (by decide)

/-! ## The database below -/

/-- What the calls of `sqlite3_step` return on the rows that are selected. -/
def SelectFaults.stepResults (faults : SelectFaults) (code : ℕ)
    (selected : List NsHistoryRow) : StepResults where
  rows := faults.fetched selected
  ending :=
    match faults.failing with
    | none => .done
    | some step =>
        if step ≤ selected.length then .failed code else .done

theorem fetchLoop_eq_stepLoop (limit : ℕ) (ending : StepEnd)
    (rows : List (Option NsHistoryRow)) (count : ℕ) :
    fetchLoop limit rows count =
      ((stepLoop limit ending rows count).1,
        if (stepLoop limit ending rows count).2.isSome then .idle
        else .midResult) := by
  induction rows generalizing count with
  | nil => rfl
  | cons fetched rest ih =>
      by_cases hmore : count < limit
      · cases fetched <;> simp [fetchLoop, stepLoop, hmore, ih]
      · simp [fetchLoop, stepLoop, hmore]

/-- What the database call returns and delivers. -/
theorem nsDbRecentMessagesWith_eq (database : NsDatabase)
    (faults : SelectFaults) (code : ℕ) (limit : ℤ) :
    let report := nsDbRecentMessagesOn
      (faults.stepResults code
        (database.tables.selectRecent (clampLimit limit))) limit
    (nsDbRecentMessagesWith database faults limit).1 = report.status ∧
      (nsDbRecentMessagesWith database faults limit).2.1 =
        report.delivered := by
  refine ⟨rfl, ?_⟩
  simp only [nsDbRecentMessagesWith, nsDbRecentMessagesOn,
    SelectFaults.stepResults]
  rw [fetchLoop_eq_stepLoop]

/-- `LIMIT` leaves no step past the limit that could fail unnoticed, so the
history of the database is honest exactly when no call that is made fails. -/
theorem selected_honest_iff (database : NsDatabase) (faults : SelectFaults)
    (code : ℕ) (limit : ℤ) :
    let selected := database.tables.selectRecent (clampLimit limit)
    (nsDbRecentMessagesOn (faults.stepResults code selected) limit).Honest
        limit ↔
      ∀ step, faults.failing = some step → selected.length < step := by
  intro selected
  have hselected : selected.length ≤ clampLimit limit :=
    List.length_take_le _ _
  have hfetched := (faults.length_fetched_le selected).trans hselected
  have hpos := clampLimit_pos limit
  have hfew : ¬ clampLimit limit ≤
      (faults.fetched selected).dropLast.reduceOption.length := by
    have hle := List.reduceOption_length_le
      (faults.fetched selected).dropLast
    rw [List.length_dropLast] at hle
    omega
  rw [recentMessages_honest]
  simp only [SelectFaults.stepResults]
  cases hfailing : faults.failing with
  | none => simp
  | some step =>
      by_cases hmade : step ≤ selected.length
      · simp [hmade, hfew]
      · simp [hmade, not_le.mp hmade]

end NodeSignal
