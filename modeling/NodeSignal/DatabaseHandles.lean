import NodeSignal.Ledgers
import Mathlib.Tactic

/-!
# The database connection and its statements

`ns_db_open` opens the file and compiles the four statements; wherever one of
its calls fails it leaves the rest to `ns_db_close`.  SQLite refuses to close
a connection that still has statements.
-/

namespace NodeSignal

open Ledgers

inductive Statement where
  | findUser
  | insertUser
  | insertMessage
  | recentMessages
  deriving DecidableEq

/-- In the order in which they are compiled and finalized. -/
def statements : List Statement :=
  [.findUser, .insertUser, .insertMessage, .recentMessages]

theorem mem_statements (statement : Statement) : statement ∈ statements := by
  cases statement <;> simp [statements]

/-- The pointers of `NsDatabase` that are not null. -/
structure NsDatabaseHandles where
  handle : Bool
  stmt : Statement → Bool

def NsDatabaseHandles.zeroed : NsDatabaseHandles := ⟨false, fun _ => false⟩

def NsDatabaseHandles.connected : NsDatabaseHandles := ⟨true, fun _ => false⟩

def NsDatabaseHandles.compiled (database : NsDatabaseHandles)
    (statement : Statement) : NsDatabaseHandles :=
  { database with stmt := Function.update database.stmt statement true }

inductive DbResource where
  | handle
  | statement (statement : Statement)
  /-- The text that a failing `sqlite3_exec` allocates. -/
  | message
  deriving DecidableEq

inductive DbResource.Needs : DbResource → DbResource → Prop
  | compiled (statement : Statement) : Needs (.statement statement) .handle

/-- `sqlite3_open` may fail with a connection to close or without one. -/
inductive OpenAnswer where
  | noMemory
  | refused
  | opened
  deriving DecidableEq

inductive ExecAnswer where
  | done
  | failed (explained : Bool)
  deriving DecidableEq

/-- What the SQLite calls of `ns_db_open` return; the pragmas are not
checked. -/
structure OpenAnswers where
  opened : OpenAnswer
  schema : Bool
  prepared : Statement → Bool

def nsDbClose (database : NsDatabaseHandles) :
    NsDatabaseHandles × List (Entry DbResource) :=
  if database.handle then
    (.zeroed, (statements.filter database.stmt).map
      (fun statement => .released (.statement statement)) ++
        [.released .handle])
  else (database, [])

/-- The `sqlite3_prepare_v2` calls of `ns_db_open`. -/
def prepareStatements (prepared : Statement → Bool) :
    List Statement → NsDatabaseHandles →
      ℤ × NsDatabaseHandles × List (Entry DbResource)
  | [], database => (0, database, [])
  | statement :: rest, database =>
      if prepared statement then
        let later :=
          prepareStatements prepared rest (database.compiled statement)
        (later.1, later.2.1, .acquired (.statement statement) :: later.2.2)
      else (-1, nsDbClose database)

/-- The calls of `ns_db_open` and its return value. -/
def nsDbOpenHandles (answers : OpenAnswers) :
    ℤ × NsDatabaseHandles × List (Entry DbResource) :=
  match answers.opened with
  | .noMemory => (-1, nsDbClose .zeroed)
  | .refused =>
      let closed := nsDbClose .connected
      (-1, closed.1, .acquired .handle :: closed.2)
  | .opened =>
      let later :=
        if answers.schema then
          prepareStatements answers.prepared statements .connected
        else (-1, nsDbClose .connected)
      (later.1, later.2.1, .acquired .handle :: later.2.2)

/-- `ns_db_init_schema`, which frees the text of an error. -/
def nsDbInitSchemaCalls (database : NsDatabaseHandles)
    (answer : ExecAnswer) : ℤ × List (Entry DbResource) :=
  if database.handle then
    match answer with
    | .done => (0, [])
    | .failed explained =>
        (-1, if explained then [.acquired .message, .released .message]
          else [])
  else (-1, [])

/-- Every SQLite call succeeds. -/
def OpenAnswers.Succeed (answers : OpenAnswers) : Prop :=
  answers.opened = .opened ∧ answers.schema ∧
    ∀ statement, answers.prepared statement

/-! ## What is held -/

def NsDatabaseHandles.held (database : NsDatabaseHandles) :
    Set DbResource := fun resource =>
  match resource with
  | .handle => database.handle
  | .statement statement => database.stmt statement
  | .message => False

section Held

variable {database : NsDatabaseHandles} {statement : Statement}

@[simp] theorem handle_mem_held :
    .handle ∈ database.held ↔ database.handle = true := Iff.rfl

@[simp] theorem statement_mem_held :
    .statement statement ∈ database.held ↔
      database.stmt statement = true := Iff.rfl

@[simp] theorem message_notMem_held : .message ∉ database.held := id

@[simp] theorem compiled_handle :
    (database.compiled statement).handle = database.handle := rfl

@[simp] theorem compiled_stmt_self :
    (database.compiled statement).stmt statement = true :=
  Function.update_self _ _ _

theorem compiled_stmt_of_ne {other : Statement} (hne : other ≠ statement) :
    (database.compiled statement).stmt other = database.stmt other :=
  Function.update_of_ne hne _ _

theorem held_compiled : (database.compiled statement).held =
    insert (.statement statement) database.held := by
  ext resource
  cases resource with
  | handle => simp
  | statement other =>
      by_cases heq : other = statement
      · simp [heq]
      · simp [heq, compiled_stmt_of_ne heq]
  | message => simp

@[simp] theorem held_zeroed : NsDatabaseHandles.zeroed.held = ∅ := by
  ext resource
  cases resource <;> simp [NsDatabaseHandles.zeroed]

theorem nsDbClose_handles (hhandle : database.handle = true) :
    (nsDbClose database).1 = .zeroed := by
  rw [nsDbClose, if_pos hhandle]

/-- The statements go before the connection. -/
theorem nsDbClose_accounts (hhandle : database.handle = true) :
    Accounts DbResource.Needs database.held (nsDbClose database).2 ∅ := by
  have hentries : (nsDbClose database).2 =
      ((statements.filter database.stmt).map .statement).map .released ++
        [.released .handle] := by
    rw [nsDbClose, if_pos hhandle, List.map_map]
    rfl
  have hcompiled : ∀ resource ∈
      (statements.filter database.stmt).map DbResource.statement,
      ∃ statement, database.stmt statement ∧
        resource = .statement statement := by
    intro resource hmem
    obtain ⟨statement, hstatement, rfl⟩ := List.mem_map.mp hmem
    exact ⟨statement, (List.mem_filter.mp hstatement).2, rfl⟩
  rw [hentries]
  have hfinalized : Accounts DbResource.Needs database.held
      (((statements.filter database.stmt).map .statement).map .released)
      (database.held \ {resource | resource ∈
        (statements.filter database.stmt).map DbResource.statement}) := by
    apply Accounts.releaseAll
    · apply List.Nodup.map
      · intro left right heq
        injection heq
      · exact List.Nodup.filter _ (by decide)
    · intro resource hmem
      obtain ⟨statement, hstatement, rfl⟩ := hcompiled resource hmem
      exact hstatement
    · intro resource hmem other hother hneed
      obtain ⟨statement, hstatement, rfl⟩ := hcompiled resource hmem
      cases hneed
  have hleft : database.held \ {resource | resource ∈
        (statements.filter database.stmt).map DbResource.statement} =
      {.handle} := by
    ext resource
    cases resource with
    | handle => simp [hhandle]
    | statement statement => simp [mem_statements]
    | message => simp
  have hclosed : Accounts DbResource.Needs {.handle} [.released .handle]
      ({.handle} \ {.handle}) := by
    apply Accounts.released
    · exact Set.mem_singleton _
    · rintro other rfl hneed
      cases hneed
  rw [hleft] at hfinalized
  rw [Set.sdiff_self] at hclosed
  exact hfinalized.append hclosed

/-- Wherever it stops, either everything is there or nothing is left. -/
theorem prepareStatements_accounts (prepared : Statement → Bool)
    (database : NsDatabaseHandles) {rest : List Statement} (hdistinct : rest.Nodup)
    (hhandle : database.handle = true)
    (hnew : ∀ statement ∈ rest, database.stmt statement = false) :
    let result := prepareStatements prepared rest database
    Accounts DbResource.Needs database.held result.2.2 result.2.1.held ∧
      (result.1 = 0 ↔ ∀ statement ∈ rest, prepared statement) ∧
      (result.1 = 0 → result.2.1.handle ∧ ∀ statement,
        database.stmt statement ∨ statement ∈ rest →
          result.2.1.stmt statement) ∧
      (result.1 ≠ 0 → result.2.1 = .zeroed) := by
  induction rest generalizing database with
  | nil =>
      rw [prepareStatements]
      refine ⟨.nil _, by simp, ?_, fun hne => absurd rfl hne⟩
      · intro _
        refine ⟨hhandle, fun statement hstmt => ?_⟩
        simpa using hstmt
  | cons statement rest ih =>
      rw [List.nodup_cons] at hdistinct
      rw [List.forall_mem_cons] at hnew
      unfold prepareStatements
      cases hprepared : prepared statement with
      | false =>
          have hclosed := nsDbClose_handles hhandle
          have haccounts := nsDbClose_accounts hhandle
          refine ⟨?_, ?_, ?_, fun _ => hclosed⟩
          · simpa [hclosed] using haccounts
          · simp [hprepared]
          · intro hzero
            cases hzero
      | true =>
          have hlater : ∀ other ∈ rest,
              (database.compiled statement).stmt other = false := by
            intro other hother
            have hne : other ≠ statement := by
              rintro rfl
              exact hdistinct.1 hother
            rw [compiled_stmt_of_ne hne]
            exact hnew.2 other hother
          obtain ⟨haccounts, hzero, hall, hnone⟩ :=
            ih (database.compiled statement) hdistinct.2 hhandle hlater
          refine ⟨?_, ?_, ?_, hnone⟩
          · refine Accounts.acquire (DbResource.statement statement) ?_ ?_ ?_
            · simp [hnew.1]
            · intro other hneed
              cases hneed
              exact hhandle
            · rw [← held_compiled]
              exact haccounts
          · rw [List.forall_mem_cons]
            simpa [hprepared] using hzero
          · intro hdone
            refine ⟨(hall hdone).1, fun other hother => ?_⟩
            apply (hall hdone).2
            rw [List.mem_cons] at hother
            by_cases heq : other = statement
            · left
              rw [heq]
              exact compiled_stmt_self
            · rw [compiled_stmt_of_ne heq]
              tauto

end Held

theorem held_connected : NsDatabaseHandles.connected.held = {.handle} := by
  ext resource
  cases resource <;> simp [NsDatabaseHandles.connected]

theorem accounts_opened : Accounts DbResource.Needs ∅ [.acquired .handle]
    NsDatabaseHandles.connected.held := by
  rw [held_connected, ← insert_empty_eq]
  refine .acquired (Set.notMem_empty _) ?_
  intro other hneed
  cases hneed

/-- `ns_db_open` leaves everything or nothing. -/
structure OpensOrCleansUp (answers : OpenAnswers)
    (result : ℤ × NsDatabaseHandles × List (Entry DbResource)) : Prop where
  accounts : Accounts DbResource.Needs ∅ result.2.2 result.2.1.held
  succeeds : result.1 = 0 ↔ answers.Succeed
  complete : result.1 = 0 →
    result.2.1.handle ∧ ∀ statement, result.2.1.stmt statement
  nothing : result.1 ≠ 0 → result.2.1 = .zeroed

theorem nsDbOpenHandles_opens (answers : OpenAnswers) :
    OpensOrCleansUp answers (nsDbOpenHandles answers) := by
  have hclosed : Accounts DbResource.Needs ∅
      (.acquired .handle :: (nsDbClose .connected).2)
      (nsDbClose .connected).1.held := by
    rw [nsDbClose_handles rfl, held_zeroed]
    exact accounts_opened.append (nsDbClose_accounts rfl)
  unfold nsDbOpenHandles
  cases hopened : answers.opened with
  | noMemory =>
      refine ⟨?_, ?_, ?_, fun _ => rfl⟩
      · change Accounts _ ∅ [] NsDatabaseHandles.zeroed.held
        rw [held_zeroed]
        exact .nil ∅
      · simp [OpenAnswers.Succeed, hopened]
      · simp
  | refused =>
      refine ⟨hclosed, ?_, ?_, fun _ => nsDbClose_handles rfl⟩
      · simp [OpenAnswers.Succeed, hopened]
      · simp
  | opened =>
      cases hschema : answers.schema with
      | false =>
          refine ⟨hclosed, ?_, ?_, fun _ => nsDbClose_handles rfl⟩
          · simp [OpenAnswers.Succeed, hschema]
          · simp
      | true =>
          obtain ⟨haccounts, hzero, hall, hnone⟩ :=
            prepareStatements_accounts answers.prepared .connected
              (by decide : statements.Nodup) rfl (fun _ _ => rfl)
          refine ⟨accounts_opened.append haccounts, ?_, ?_, hnone⟩
          · refine hzero.trans ?_
            simp [OpenAnswers.Succeed, hopened, hschema, mem_statements]
          · intro hdone
            obtain ⟨hhandle, hstmt⟩ := hall hdone
            exact ⟨hhandle, fun statement =>
              hstmt statement (Or.inr (mem_statements statement))⟩

theorem nsDbInitSchemaCalls_fst {database : NsDatabaseHandles}
    {answer : ExecAnswer} (hhandle : database.handle = true) :
    (nsDbInitSchemaCalls database answer).1 = 0 ↔ answer = .done := by
  unfold nsDbInitSchemaCalls
  rw [if_pos hhandle]
  cases answer <;> simp

theorem nsDbInitSchemaCalls_accounts (database : NsDatabaseHandles)
    (answer : ExecAnswer) :
    Accounts DbResource.Needs database.held
      (nsDbInitSchemaCalls database answer).2 database.held := by
  unfold nsDbInitSchemaCalls
  split_ifs
  · cases answer with
    | done => exact .nil _
    | failed explained =>
        cases explained with
        | false => exact .nil _
        | true =>
            have hfreed : insert .message database.held \ {.message} =
                database.held := by
              ext resource
              cases resource <;> simp
            have hacquired : Accounts DbResource.Needs database.held
                [.acquired .message] (insert .message database.held) := by
              refine .acquired message_notMem_held ?_
              intro other hneed
              cases hneed
            have hreleased : Accounts DbResource.Needs
                (insert .message database.held) [.released .message]
                (insert .message database.held \ {.message}) := by
              refine .released (Set.mem_insert _ _) ?_
              intro other hother hneed
              cases hneed
            rw [hfreed] at hreleased
            exact hacquired.append hreleased
  · exact .nil _

end NodeSignal
