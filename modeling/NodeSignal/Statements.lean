import NodeSignal.Registration

/-!
# Prepared statements left open

`sqlite3_step` leaves a statement in the middle of its result when it returns
a row.  The inserts and the history query are stepped to their end in every
call.  The lookup of a user is not: it stops at the row that it finds, and
stays open until the next call that registers a user resets it.
-/

namespace NodeSignal

open CStrings Runs

/-! ## The history query when SQLite calls fail -/

/-- The `sqlite3_step` call that fails, if any, counted from 0, and the rows
whose texts SQLite cannot supply. -/
structure SelectFaults where
  failing : Option ℕ
  missing : ℕ → Bool

/-- The rows that the query returns before it ends, `none` for one without
its texts. -/
def SelectFaults.fetched (faults : SelectFaults)
    (rows : List NsHistoryRow) : List (Option NsHistoryRow) :=
  let rows :=
    match faults.failing with
    | none => rows
    | some step => rows.take step
  rows.mapIdx fun position row =>
    if faults.missing position then none else some row

/-- The loop over the result set, in which a row without its texts is passed
over.  Both the end of the result and an error leave the statement idle. -/
def fetchLoop (limit : ℕ) : List (Option NsHistoryRow) → ℕ →
    List NsHistoryRow × StmtState
  | [], _ => ([], .idle)
  | fetched :: rest, count =>
      if count < limit then
        match fetched with
        | none => fetchLoop limit rest count
        | some row =>
            let later := fetchLoop limit rest (count + 1)
            (row.stored :: later.1, later.2)
      else ([], .midResult)

/-- `ns_db_recent_messages` with faults. -/
def nsDbRecentMessagesWith (database : NsDatabase) (faults : SelectFaults)
    (limit : ℤ) : ℤ × List NsHistoryRow × NsDatabase :=
  let limit := clampLimit limit
  let fetched := fetchLoop limit
    (faults.fetched (database.tables.selectRecent limit)) 0
  (0, fetched.1.reverse, { database with stmtRecentMessages := fetched.2 })

theorem historyLoop_eq_fetchLoop (limit : ℕ) (rows : List NsHistoryRow)
    (count : ℕ) :
    historyLoop limit rows count = fetchLoop limit (rows.map some) count := by
  induction rows generalizing count with
  | nil => rfl
  | cons row rest ih =>
      simp only [historyLoop, List.map_cons, fetchLoop, ih]

/-- Without faults the two agree. -/
theorem nsDbRecentMessages_eq (database : NsDatabase) (limit : ℤ) :
    nsDbRecentMessages database limit =
      nsDbRecentMessagesWith database ⟨none, fun _ => false⟩ limit := by
  unfold nsDbRecentMessages nsDbRecentMessagesWith
  have hfetched : ∀ rows : List NsHistoryRow,
      SelectFaults.fetched ⟨none, fun _ => false⟩ rows = rows.map some := by
    intro rows
    apply List.ext_getElem?
    simp [SelectFaults.fetched]
  simp only [historyLoop_eq_fetchLoop, hfetched]

/-! ## Sequences of calls with any outcomes -/

inductive DbOperation where
  | getOrCreateUser (faults : SqliteFaults) (clock : Clock)
      (username : List UInt8)
  | insertMessage (faults : SqliteFaults) (senderId : UInt32)
      (body : List UInt8) (timestamp : UInt32)
  | recentMessages (faults : SelectFaults) (limit : ℤ)

/-- The handle as the call leaves it. -/
def NsDatabase.perform (database : NsDatabase) : DbOperation → NsDatabase
  | .getOrCreateUser faults clock username =>
      (nsDbGetOrCreateUser database faults clock username).2.1
  | .insertMessage faults senderId body timestamp =>
      (nsDbInsertMessage database faults senderId body timestamp).2
  | .recentMessages faults limit =>
      (nsDbRecentMessagesWith database faults limit).2.2

structure NsDatabase.StatementsIdle (database : NsDatabase) : Prop where
  findUser : database.stmtFindUser = .idle
  insertUser : database.stmtInsertUser = .idle
  insertMessage : database.stmtInsertMessage = .idle
  recentMessages : database.stmtRecentMessages = .idle

/-- All of `BEGIN IMMEDIATE`, the insert, `COMMIT` and the lookup succeed. -/
def NsDatabase.LeavesRow (database : NsDatabase) : DbOperation → Prop
  | .getOrCreateUser faults _ username =>
      Commits database faults username ∧ faults .selectUser = false
  | _ => False

section Calls

variable {database : NsDatabase}

theorem SelectFaults.length_fetched_le (faults : SelectFaults)
    (rows : List NsHistoryRow) :
    (faults.fetched rows).length ≤ rows.length := by
  unfold fetched
  cases faults.failing with
  | none => simp
  | some step => simp

/-- A result set of at most `limit` rows is stepped to its end. -/
theorem fetchLoop_idle (limit : ℕ) (fetched : List (Option NsHistoryRow))
    (count : ℕ) (hfits : count + fetched.length ≤ limit) :
    (fetchLoop limit fetched count).2 = .idle := by
  induction fetched generalizing count with
  | nil => rfl
  | cons first rest ih =>
      rw [List.length_cons] at hfits
      have hmore : count < limit := by omega
      cases first with
      | none =>
          simp only [fetchLoop, hmore, if_true]
          exact ih count (by omega)
      | some row =>
          simp only [fetchLoop, hmore, if_true]
          exact ih (count + 1) (by omega)

/-- `LIMIT` makes the query end where the loop would stop. -/
theorem nsDbRecentMessagesWith_idle (faults : SelectFaults) (limit : ℤ) :
    (nsDbRecentMessagesWith database faults
      limit).2.2.stmtRecentMessages = .idle := by
  apply fetchLoop_idle
  rw [Nat.zero_add]
  exact (faults.length_fetched_le _).trans (List.length_take_le _ _)

theorem nsDbInsertMessage_statements (database : NsDatabase)
    (faults : SqliteFaults) (senderId : UInt32) (body : List UInt8)
    (timestamp : UInt32) :
    let after :=
      (nsDbInsertMessage database faults senderId body timestamp).2
    after.saved = database.saved ∧
      after.stmtFindUser = database.stmtFindUser ∧
      after.stmtInsertUser = database.stmtInsertUser ∧
      after.stmtInsertMessage = .idle ∧
      after.stmtRecentMessages = database.stmtRecentMessages := by
  unfold nsDbInsertMessage
  dsimp only
  split
  · exact ⟨rfl, rfl, rfl, rfl, rfl⟩
  · split <;> exact ⟨rfl, rfl, rfl, rfl, rfl⟩

/-- Only a lookup that finds its row leaves a statement open. -/
theorem perform_idle (hidle : database.StatementsIdle)
    (hclosed : database.saved = none) {operation : DbOperation}
    (hends : ¬ database.LeavesRow operation) :
    (database.perform operation).StatementsIdle ∧
      (database.perform operation).saved = none := by
  cases operation with
  | getOrCreateUser faults clock username =>
      unfold NsDatabase.perform
      dsimp only
      by_cases hcommits : Commits database faults username
      · have hselect : faults .selectUser = true := by
          rw [← Bool.not_eq_false]
          exact fun hfound => hends ⟨hcommits, hfound⟩
        rcases nsDbGetOrCreateUser_unselected hcommits hselect clock with
          ⟨tables, -, heq⟩
        rw [heq]
        exact ⟨⟨rfl, rfl, hidle.insertMessage, hidle.recentMessages⟩, rfl⟩
      · rcases nsDbGetOrCreateUser_of_not_commits hclosed hcommits clock
          with ⟨state, clock', hstate, heq⟩
        rw [hidle.insertUser, or_self] at hstate
        rw [heq, hstate]
        exact ⟨⟨hidle.findUser, rfl, hidle.insertMessage,
          hidle.recentMessages⟩, rfl⟩
  | insertMessage faults senderId body timestamp =>
      rcases nsDbInsertMessage_statements database faults senderId body
        timestamp with
        ⟨hsaved, hfind, huser, hmessage, hrecent⟩
      exact ⟨⟨hfind.trans hidle.findUser, huser.trans hidle.insertUser,
        hmessage, hrecent.trans hidle.recentMessages⟩,
        hsaved.trans hclosed⟩
  | recentMessages faults limit =>
      exact ⟨⟨hidle.findUser, hidle.insertUser, hidle.insertMessage,
        nsDbRecentMessagesWith_idle faults limit⟩, hclosed⟩

theorem perform_not_idle {operation : DbOperation}
    (hleaves : database.LeavesRow operation) :
    ¬ (database.perform operation).StatementsIdle := by
  cases operation with
  | getOrCreateUser faults clock username =>
      rcases nsDbGetOrCreateUser_found hleaves.1 hleaves.2 clock with
        ⟨row, after, heq, -, hmid, -⟩
      intro hidle
      have hfind := hidle.findUser
      unfold NsDatabase.perform at hfind
      dsimp only at hfind
      rw [heq, hmid] at hfind
      exact absurd hfind (by decide)
  | insertMessage faults senderId body timestamp => exact hleaves.elim
  | recentMessages faults limit => exact hleaves.elim

end Calls

/-- After every call of a sequence all statements are idle exactly when no
call of it is a registration in which every SQLite call succeeds. -/
theorem statements_idle_iff (file : Option Tables)
    (operations : List DbOperation) :
    Throughout NsDatabase.perform NsDatabase.StatementsIdle (nsDbOpen file)
        operations ↔
      Along NsDatabase.perform
        (fun database operation => ¬ database.LeavesRow operation)
        (nsDbOpen file) operations :=
  throughout_iff_along
    (fun (database : NsDatabase)
      (hinv : database.StatementsIdle ∧ database.saved = none) => hinv.1)
    (fun _ _ hinv hends => perform_idle hinv.1 hinv.2 hends)
    (fun _ _ _ hleaves => perform_not_idle (not_not.mp hleaves))
    ⟨⟨rfl, rfl, rfl, rfl⟩, rfl⟩ operations

/-- Registering one user on a new file leaves the lookup open. -/
theorem statements_not_always_idle :
    ¬ ∀ file operations, Throughout NsDatabase.perform
      NsDatabase.StatementsIdle (nsDbOpen file) operations := by
  intro hall
  have hlast := (throughout_iff_initial _ _).mp (hall none
    [.getOrCreateUser noFaults (fun _ => 0) [97]]) _ List.prefix_rfl
  exact absurd hlast.findUser (by decide)

end NodeSignal
