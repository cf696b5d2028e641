import NodeSignal.Database
import NodeSignal.Runs
import Mathlib.Data.List.Sort

/-!
# Calls on one database file

The remaining functions of the database layer, and sequences of calls in
which nothing fails but what SQL makes fail.  A call is a step on the
database handle, so a sequence of calls is a run.
-/

namespace NodeSignal

open CStrings Runs

/-! ## Opening -/

/-- The schema creates the two tables where the file has none. -/
def nsSchemaSql (file : Option Tables) : Tables := file.getD .empty

/-- `ns_db_open`, with the file as it was before. -/
def nsDbOpen (file : Option Tables) : NsDatabase :=
  .opened (nsSchemaSql file)

def nsDbInitSchema (database : NsDatabase) : NsDatabase :=
  { database with tables := nsSchemaSql (some database.tables) }

/-! ## The message history -/

/-- A row of the history, as the query returns it and as the callback
receives it. -/
structure NsHistoryRow where
  username : List UInt8
  body : List UInt8
  sentAt : ℕ
  deriving DecidableEq

/-- `ORDER BY m.id DESC`. -/
def Tables.newestFirst (tables : Tables) : List MessageRow :=
  tables.messages.mergeSort fun left right => right.id ≤ left.id

/-- `JOIN users u ON u.id = m.sender_id`, for one message. -/
def Tables.joinUsers (tables : Tables) (message : MessageRow) :
    List NsHistoryRow :=
  (tables.users.filter fun user => user.id = message.senderId).map
    fun user => ⟨user.username, message.body, message.sentAt⟩

def Tables.selectRecent (tables : Tables) (limit : ℕ) :
    List NsHistoryRow :=
  (tables.newestFirst.flatMap tables.joinUsers).take limit

/-- The copy of a row into `rows[count]`. -/
def NsHistoryRow.stored (row : NsHistoryRow) : NsHistoryRow where
  username := (snprintf 64 [text row.username]).1
  body := (snprintf 513 [text row.body]).1
  sentAt := row.sentAt

/-- The loop over the result set: the next row is fetched before the count
is tested. -/
def historyLoop (limit : ℕ) : List NsHistoryRow → ℕ →
    List NsHistoryRow × StmtState
  | [], _ => ([], .idle)
  | row :: rest, count =>
      if count < limit then
        let later := historyLoop limit rest (count + 1)
        (row.stored :: later.1, later.2)
      else ([], .midResult)

def clampLimit (limit : ℤ) : ℕ :=
  let limit := if limit < 1 then 1 else limit
  let limit := if limit > 500 then 500 else limit
  limit.toNat

/-- `ns_db_recent_messages`: the value it returns, and the rows it calls
back with in call order. -/
def nsDbRecentMessages (database : NsDatabase) (limit : ℤ) :
    ℤ × List NsHistoryRow × NsDatabase :=
  let limit := clampLimit limit
  let fetched :=
    historyLoop limit (database.tables.selectRecent limit) 0
  (0, fetched.1.reverse, { database with stmtRecentMessages := fetched.2 })

/-! ## Sequences of calls -/

def noFaults : SqliteFaults := fun _ => false

@[simp] theorem noFaults_apply (call : SqliteCall) :
    noFaults call = false := rfl

inductive DbCall where
  | getOrCreateUser (username : List UInt8) (createdAt : ℤ)
  | insertMessage (senderId : UInt32) (body : List UInt8)
      (timestamp : UInt32)
  | openFile
  | initSchema

section Calls

variable (database : NsDatabase)

def lookUp (username : List UInt8) (createdAt : ℤ) :
    Option UInt32 × NsDatabase × Clock :=
  nsDbGetOrCreateUser database noFaults (fun _ => createdAt) username

def store (senderId : UInt32) (body : List UInt8) (timestamp : UInt32) :
    Bool × NsDatabase :=
  nsDbInsertMessage database noFaults senderId body timestamp

def NsDatabase.after : DbCall → NsDatabase
  | .getOrCreateUser username createdAt =>
      (lookUp database username createdAt).2.1
  | .insertMessage senderId body timestamp =>
      (store database senderId body timestamp).2
  | .openFile => nsDbOpen (some database.tables)
  | .initSchema => nsDbInitSchema database

/-- Row ids are left in both tables, so that no insert fails for want of
one. -/
structure NsDatabase.Roomy : Prop where
  users : database.tables.usersSeq < maxRowId
  messages : database.tables.messagesSeq < maxRowId

end Calls

/-- The state of the file after some calls on a new one. -/
def fileAfter (calls : List DbCall) : NsDatabase :=
  run NsDatabase.after (nsDbOpen none) calls

theorem fileAfter_snoc (calls : List DbCall) (call : DbCall) :
    fileAfter (calls ++ [call]) = (fileAfter calls).after call := by
  rw [fileAfter, run_append]
  rfl

/-- Every call of the sequence finds row ids left. -/
def NeverFull (calls : List DbCall) : Prop :=
  Along NsDatabase.after (fun database _ => database.Roomy)
    (nsDbOpen none) calls

theorem NeverFull.split {before rest : List DbCall} {call : DbCall}
    (hroom : NeverFull (before ++ call :: rest)) :
    NeverFull before ∧ (fileAfter before).Roomy := by
  rcases along_append.mp hroom with ⟨hbefore, hcall, _⟩
  exact ⟨hbefore, hcall⟩

/-! ## What a call does -/

section Steps

variable {database : NsDatabase} {username body : List UInt8}
  {senderId timestamp : UInt32}

/-- The insert leaves one row of the name, an old one or the last one. -/
theorem Tables.insertOrIgnoreUser_row {tables : Tables}
    (hroom : tables.usersSeq < maxRowId) (name : List UInt8)
    (createdAt : ℤ) :
    ∃ next row, tables.insertOrIgnoreUser name createdAt = some next ∧
      next.findUser name = some row ∧
      next.messages = tables.messages ∧
      (next.users = tables.users ∨
        next.users = tables.users ++ [row] ∧
          row.id = tables.usersSeq + 1) := by
  cases hfind : tables.findUser name with
  | some row =>
      unfold Tables.insertOrIgnoreUser
      rw [if_pos hroom, dif_neg (by simp [hfind])]
      exact ⟨_, row, rfl, hfind, rfl, Or.inl rfl⟩
  | none =>
      unfold Tables.insertOrIgnoreUser
      rw [if_pos hroom, dif_pos hfind]
      refine ⟨_, ⟨tables.usersSeq + 1, name, createdAt⟩, rfl, ?_, rfl,
        Or.inr ⟨rfl, rfl⟩⟩
      unfold Tables.findUser at hfind ⊢
      rw [List.find?_append, hfind]
      simp

theorem nsDbFindUserId_of_findUser {row : UserRow}
    (hfound : database.tables.findUser (text username) = some row) :
    nsDbFindUserId database noFaults username =
      (some (UInt32.ofNat row.id),
        { database with stmtFindUser := .midResult }) := by
  simp [nsDbFindUserId, hfound]

/-- What a lookup finds or creates. -/
structure LookedUp (before after : NsDatabase) (name : List UInt8)
    (row : UserRow) : Prop where
  username : row.username = name
  mem : row ∈ after.tables.users
  saved : after.saved = none
  messages : after.tables.messages = before.tables.messages
  users : after.tables.users = before.tables.users ∨
    after.tables.users = before.tables.users ++ [row] ∧
      row.id = before.tables.usersSeq + 1

theorem lookUp_spec (hsaved : database.saved = none)
    (hroom : database.Roomy) (username : List UInt8) (createdAt : ℤ) :
    ∃ row, (lookUp database username createdAt).1 =
        some (UInt32.ofNat row.id) ∧
      LookedUp database (lookUp database username createdAt).2.1
        (text username) row := by
  rcases Tables.insertOrIgnoreUser_row hroom.users (text username)
    createdAt with
    ⟨next, row, hinsert, hfind, hmessages, husers⟩
  have hfound := Tables.findUser_mem hfind
  have hlookUp : (lookUp database username createdAt) =
      (some (UInt32.ofNat row.id),
        { database with
          tables := next
          saved := none
          stmtInsertUser := .idle
          stmtFindUser := .midResult },
        Clock.rest fun _ => createdAt) := by
    unfold lookUp nsDbGetOrCreateUser
    simp only [noFaults_apply, hsaved, Option.isSome_none, Bool.or_false,
      Bool.false_eq_true, if_false, hinsert]
    rw [nsDbFindUserId_of_findUser hfind]
  rw [hlookUp]
  exact ⟨row, rfl, hfound.2, hfound.1, rfl, hmessages, husers⟩

/-- A message is stored exactly for a sender that `users` has. -/
theorem store_iff (hroom : database.Roomy) (senderId : UInt32)
    (body : List UInt8) (timestamp : UInt32) :
    (store database senderId body timestamp).1 = true ↔
      ∃ user ∈ database.tables.users, user.id = senderId.toNat := by
  rw [store, nsDbInsertMessage_iff]
  constructor
  · exact fun hstores => hstores.2.1
  · exact fun hsender => ⟨rfl, hsender, hroom.messages⟩

/-- What a stored message adds. -/
structure Stored (before after : NsDatabase) (senderId : UInt32)
    (body : List UInt8) (timestamp : UInt32) (row : MessageRow) :
    Prop where
  saved : after.saved = before.saved
  users : after.tables.users = before.tables.users
  messages : after.tables.messages = before.tables.messages ++ [row]
  senderId : row.senderId = senderId.toNat
  body : row.body = text body
  sentAt : row.sentAt = timestamp.toNat

theorem store_true
    (hok : (store database senderId body timestamp).1 = true) :
    ∃ row, Stored database (store database senderId body timestamp).2
      senderId body timestamp row := by
  rcases nsDbInsertMessage_spec database noFaults senderId body timestamp
    with ⟨hsaved, husers, _, hstored, _⟩
  rcases hstored hok with ⟨row, hmessages, hsender, hbody, hsentAt⟩
  exact ⟨row, hsaved, husers, hmessages, hsender, hbody, hsentAt⟩

theorem store_false
    (hok : (store database senderId body timestamp).1 = false) :
    (store database senderId body timestamp).2.saved = database.saved ∧
      (store database senderId body timestamp).2.tables =
        database.tables := by
  rcases nsDbInsertMessage_spec database noFaults senderId body timestamp
    with ⟨hsaved, _, _, _, hfailed⟩
  exact ⟨hsaved, hfailed hok⟩

end Steps

/-- Rows are only appended. -/
theorem after_grows {database : NsDatabase}
    (hsaved : database.saved = none) (hroom : database.Roomy)
    (call : DbCall) :
    (database.after call).saved = none ∧
      database.tables.users <+: (database.after call).tables.users ∧
      database.tables.messages <+:
        (database.after call).tables.messages := by
  cases call with
  | getOrCreateUser username createdAt =>
      rcases lookUp_spec hsaved hroom username createdAt with
        ⟨row, _, hlooked⟩
      refine ⟨hlooked.saved, ?_, hlooked.messages ▸ List.prefix_rfl⟩
      rcases hlooked.users with hsame | ⟨happended, _⟩
      · exact hsame ▸ List.prefix_rfl
      · exact happended ▸ List.prefix_append _ _
  | insertMessage senderId body timestamp =>
      have hafter : database.after (.insertMessage senderId body
          timestamp) = (store database senderId body timestamp).2 := rfl
      rw [hafter]
      cases hok : (store database senderId body timestamp).1 with
      | false =>
          rcases store_false hok with ⟨hsaved', htables⟩
          rw [hsaved', htables]
          exact ⟨hsaved, List.prefix_rfl, List.prefix_rfl⟩
      | true =>
          rcases store_true hok with ⟨row, hstored⟩
          rw [hstored.saved, hstored.users, hstored.messages]
          exact ⟨hsaved, List.prefix_rfl, List.prefix_append _ _⟩
  | openFile => exact ⟨rfl, List.prefix_rfl, List.prefix_rfl⟩
  | initSchema => exact ⟨hsaved, List.prefix_rfl, List.prefix_rfl⟩

theorem fileAfter_saved {calls : List DbCall} (hroom : NeverFull calls) :
    (fileAfter calls).saved = none :=
  run_invariant (fun database => database.saved = none)
    (fun _ call hsaved hroom => (after_grows hsaved hroom call).1) rfl
    hroom

theorem fileAfter_grows {before rest : List DbCall}
    (hroom : NeverFull (before ++ rest)) :
    (fileAfter before).tables.users <+:
      (fileAfter (before ++ rest)).tables.users := by
  rcases along_append.mp hroom with ⟨hbefore, hrest⟩
  have hgrown := run_invariant
    (fun database => database.saved = none ∧
      (fileAfter before).tables.users <+: database.tables.users)
    (fun _ call hinv hroom =>
      have hgrows := after_grows hinv.1 hroom call
      ⟨hgrows.1, hinv.2.trans hgrows.2.1⟩)
    ⟨fileAfter_saved hbefore, List.prefix_rfl⟩ hrest
  have hafter : fileAfter (before ++ rest) =
      run NsDatabase.after (fileAfter before) rest := run_append _ _ _
  rw [hafter]
  exact hgrown.2

/-- Two users and a message of the second, with the file opened again in
between. -/
def exampleCalls : List DbCall :=
  [.getOrCreateUser [97] 0, .openFile, .getOrCreateUser [98] 0,
    .insertMessage 2 [120] 5]

theorem exampleCalls_neverFull : NeverFull exampleCalls := by
  refine ⟨⟨?_, ?_⟩, ⟨?_, ?_⟩, ⟨?_, ?_⟩, ⟨?_, ?_⟩, trivial⟩ <;> decide

end NodeSignal
