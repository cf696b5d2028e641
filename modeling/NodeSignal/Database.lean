import NodeSignal.CStrings

/-!
# The SQLite store

The two tables with the constraints that the schema puts on them, and the
calls that the server makes.  SQLite is taken at its SQL meaning: an insert
with a duplicate name is ignored, an insert with an unknown sender is
refused, and `AUTOINCREMENT` hands out increasing ids, which an ignored
insert uses up as well.  Each call may also
fail for reasons of its own, such as a busy file or a full disk; a table of
faults says which.
-/

namespace NodeSignal

open CStrings

structure UserRow where
  id : ℕ
  username : List UInt8
  createdAt : ℤ
  deriving DecidableEq

structure MessageRow where
  id : ℕ
  senderId : ℕ
  body : List UInt8
  sentAt : ℕ
  deriving DecidableEq

/-- The largest 64-bit row id. -/
def maxRowId : ℕ := 2 ^ 63 - 1

/-- The contents of the two tables, with their `sqlite_sequence` counters
and the constraints of the schema. -/
structure Tables where
  users : List UserRow
  usersSeq : ℕ
  messages : List MessageRow
  messagesSeq : ℕ
  users_id : ∀ row ∈ users, 1 ≤ row.id ∧ row.id ≤ usersSeq
  users_increasing : (users.map UserRow.id).Pairwise (· < ·)
  users_unique : (users.map UserRow.username).Nodup
  messages_id : ∀ row ∈ messages, 1 ≤ row.id ∧ row.id ≤ messagesSeq
  messages_increasing : (messages.map MessageRow.id).Pairwise (· < ·)
  messages_sender : ∀ row ∈ messages, ∃ user ∈ users,
    user.id = row.senderId

def Tables.empty : Tables where
  users := []
  usersSeq := 0
  messages := []
  messagesSeq := 0
  users_id := by simp
  users_increasing := by simp
  users_unique := by simp
  messages_id := by simp
  messages_increasing := by simp
  messages_sender := by simp

/-- The user "a" has its row, and was looked up so often since. -/
def Tables.worn (count : ℕ) : Tables where
  users := [⟨1, [97], 0⟩]
  usersSeq := count + 1
  messages := []
  messagesSeq := 0
  users_id := by simp
  users_increasing := by simp
  users_unique := by simp
  messages_id := by simp
  messages_increasing := by simp
  messages_sender := by simp

/-- The `SELECT id FROM users WHERE username = ?1` row. -/
def Tables.findUser (tables : Tables) (username : List UInt8) :
    Option UserRow :=
  tables.users.find? fun row => row.username = username

theorem pairwise_snoc_of_le {ids : List ℕ} {bound : ℕ}
    (hpairwise : ids.Pairwise (· < ·)) (hbound : ∀ id ∈ ids, id ≤ bound) :
    (ids ++ [bound + 1]).Pairwise (· < ·) := by
  rw [List.pairwise_append]
  refine ⟨hpairwise, List.pairwise_singleton _ _, ?_⟩
  intro id hid next hnext
  rw [List.mem_singleton.mp hnext]
  exact Nat.lt_succ_of_le (hbound id hid)

/-- `INSERT OR IGNORE INTO users`; `none` when no row id is left.  The next
row id is drawn before the name is looked at, so that an ignored insert uses
one up, and fails where none is left. -/
def Tables.insertOrIgnoreUser (tables : Tables) (username : List UInt8)
    (createdAt : ℤ) : Option Tables :=
  if tables.usersSeq < maxRowId then
    if hnew : tables.findUser username = none then
      some
        { tables with
          users := tables.users ++
            [⟨tables.usersSeq + 1, username, createdAt⟩]
          usersSeq := tables.usersSeq + 1
          users_id := by
            intro row hrow
            rw [List.mem_append, List.mem_singleton] at hrow
            rcases hrow with hold | rfl
            · have hid := tables.users_id row hold
              exact ⟨hid.1, by omega⟩
            · simp
          users_increasing := by
            rw [List.map_append, List.map_singleton]
            apply pairwise_snoc_of_le tables.users_increasing
            intro id hid
            rcases List.mem_map.mp hid with ⟨row, hrow, rfl⟩
            exact (tables.users_id row hrow).2
          users_unique := by
            rw [List.map_append, List.map_singleton, List.nodup_append]
            refine ⟨tables.users_unique, List.nodup_singleton _, ?_⟩
            intro name hname other hother
            rw [List.mem_singleton.mp hother]
            rcases List.mem_map.mp hname with ⟨row, hrow, rfl⟩
            simpa using List.find?_eq_none.mp hnew row hrow
          messages_sender := by
            intro row hrow
            rcases tables.messages_sender row hrow with ⟨user, huser, hid⟩
            exact ⟨user, List.mem_append_left _ huser, hid⟩ }
    else
      some
        { tables with
          usersSeq := tables.usersSeq + 1
          users_id := fun row hrow =>
            have hid := tables.users_id row hrow
            ⟨hid.1, Nat.le_succ_of_le hid.2⟩ }
  else none

/-- `INSERT INTO messages`; `none` when the sender is unknown or no row id
is left. -/
def Tables.insertMessage (tables : Tables) (senderId : ℕ)
    (body : List UInt8) (sentAt : ℕ) : Option Tables :=
  if hsender : ∃ user ∈ tables.users, user.id = senderId then
    if tables.messagesSeq < maxRowId then
      some
        { tables with
          messages := tables.messages ++
            [⟨tables.messagesSeq + 1, senderId, body, sentAt⟩]
          messagesSeq := tables.messagesSeq + 1
          messages_id := by
            intro row hrow
            rw [List.mem_append, List.mem_singleton] at hrow
            rcases hrow with hold | rfl
            · have hid := tables.messages_id row hold
              exact ⟨hid.1, by omega⟩
            · simp
          messages_increasing := by
            rw [List.map_append, List.map_singleton]
            apply pairwise_snoc_of_le tables.messages_increasing
            intro id hid
            rcases List.mem_map.mp hid with ⟨row, hrow, rfl⟩
            exact (tables.messages_id row hrow).2
          messages_sender := by
            intro row hrow
            rw [List.mem_append, List.mem_singleton] at hrow
            rcases hrow with hold | rfl
            · exact tables.messages_sender row hold
            · exact hsender }
    else none
  else none

/-! ## The database handle -/

/-- Whether a prepared statement holds an unfinished result. -/
inductive StmtState where
  | idle
  | midResult
  deriving DecidableEq

/-- The open database.  `saved` is the image that `ROLLBACK` restores while
a transaction is open. -/
structure NsDatabase where
  tables : Tables
  saved : Option Tables
  stmtFindUser : StmtState
  stmtInsertUser : StmtState
  stmtInsertMessage : StmtState
  stmtRecentMessages : StmtState

/-- The handle that a successful `ns_db_open` leaves. -/
def NsDatabase.opened (tables : Tables) : NsDatabase :=
  ⟨tables, none, .idle, .idle, .idle, .idle⟩

/-- The SQLite calls of the server's two database operations. -/
inductive SqliteCall where
  | beginImmediate
  | insertUser
  | commit
  | selectUser
  | insertMessage
  deriving DecidableEq

/-- The calls that fail although SQL would let them succeed. -/
abbrev SqliteFaults := SqliteCall → Bool

/-- The readings of `time(NULL)` still to come. -/
abbrev Clock := ℕ → ℤ

def Clock.rest (clock : Clock) : Clock := fun reading => clock (reading + 1)

/-- `ns_db_find_user_id`; the id is narrowed to 32 bits.  The statement is
not reset after it has returned a row. -/
def nsDbFindUserId (database : NsDatabase) (faults : SqliteFaults)
    (username : List UInt8) : Option UInt32 × NsDatabase :=
  let database := { database with stmtFindUser := .idle }
  if faults .selectUser then (none, database)
  else
    match database.tables.findUser (text username) with
    | some row =>
        (some (UInt32.ofNat row.id),
          { database with stmtFindUser := .midResult })
    | none => (none, database)

/-- `ROLLBACK`. -/
def NsDatabase.rollback (database : NsDatabase) : NsDatabase :=
  { database with
    tables := database.saved.getD database.tables
    saved := none }

/-- `ns_db_get_or_create_user`, with the clock it reads for `created_at`. -/
def nsDbGetOrCreateUser (database : NsDatabase) (faults : SqliteFaults)
    (clock : Clock) (username : List UInt8) :
    Option UInt32 × NsDatabase × Clock :=
  if faults .beginImmediate || database.saved.isSome then
    (none, database, clock)
  else
    let database :=
      { database with
        saved := some database.tables
        stmtInsertUser := .idle }
    let inserted :=
      if faults .insertUser then none
      else database.tables.insertOrIgnoreUser (text username) (clock 0)
    match inserted with
    | none => (none, database.rollback, clock.rest)
    | some tables =>
        let database := { database with tables := tables }
        if faults .commit then (none, database.rollback, clock.rest)
        else
          let found :=
            nsDbFindUserId { database with saved := none } faults username
          (found.1, found.2, clock.rest)

/-- `ns_db_insert_message`; the flag says whether it returned 0. -/
def nsDbInsertMessage (database : NsDatabase) (faults : SqliteFaults)
    (senderId : UInt32) (body : List UInt8) (timestamp : UInt32) :
    Bool × NsDatabase :=
  let database := { database with stmtInsertMessage := .idle }
  if faults .insertMessage then (false, database)
  else
    match database.tables.insertMessage senderId.toNat (text body)
        timestamp.toNat with
    | some tables => (true, { database with tables := tables })
    | none => (false, database)

/-! ## What the operations do to the tables -/

theorem Tables.findUser_mem {tables : Tables} {username : List UInt8}
    {row : UserRow} (hfind : tables.findUser username = some row) :
    row ∈ tables.users ∧ row.username = username := by
  have hname := List.find?_some hfind
  exact ⟨List.mem_of_find?_eq_some hfind, by simpa using hname⟩

theorem Tables.insertOrIgnoreUser_spec {tables next : Tables}
    {username : List UInt8} {createdAt : ℤ}
    (hinsert : tables.insertOrIgnoreUser username createdAt = some next) :
    tables.users <+: next.users ∧ next.messages = tables.messages ∧
      tables.usersSeq ≤ next.usersSeq := by
  unfold Tables.insertOrIgnoreUser at hinsert
  split_ifs at hinsert
  · simp only [Option.some.injEq] at hinsert
    subst hinsert
    exact ⟨List.prefix_append _ _, rfl, Nat.le_succ _⟩
  · simp only [Option.some.injEq] at hinsert
    subst hinsert
    exact ⟨List.prefix_rfl, rfl, Nat.le_succ _⟩

theorem Tables.insertMessage_spec {tables next : Tables} {senderId : ℕ}
    {body : List UInt8} {sentAt : ℕ}
    (hinsert : tables.insertMessage senderId body sentAt = some next) :
    next.users = tables.users ∧ next.usersSeq = tables.usersSeq ∧
      ∃ row, next.messages = tables.messages ++ [row] ∧
        row.senderId = senderId ∧ row.body = body ∧ row.sentAt = sentAt := by
  unfold Tables.insertMessage at hinsert
  split_ifs at hinsert
  simp only [Option.some.injEq] at hinsert
  subst hinsert
  exact ⟨rfl, rfl, _, rfl, rfl, rfl, rfl⟩

/-- The tables only grow, and only in `users`. -/
structure NsDatabase.UsersGrow (before after : NsDatabase) : Prop where
  users : before.tables.users <+: after.tables.users
  messages : after.tables.messages = before.tables.messages
  usersSeq : before.tables.usersSeq ≤ after.tables.usersSeq
  saved : after.saved = none

theorem nsDbFindUserId_tables (database : NsDatabase)
    (faults : SqliteFaults) (username : List UInt8) :
    (nsDbFindUserId database faults username).2.tables = database.tables ∧
      (nsDbFindUserId database faults username).2.saved =
        database.saved := by
  unfold nsDbFindUserId
  simp only
  split
  · exact ⟨rfl, rfl⟩
  · split <;> exact ⟨rfl, rfl⟩

theorem nsDbFindUserId_some {database : NsDatabase}
    {faults : SqliteFaults} {username : List UInt8} {userId : UInt32}
    (hfound : (nsDbFindUserId database faults username).1 = some userId) :
    ∃ row ∈ database.tables.users,
      row.username = text username ∧ userId = UInt32.ofNat row.id := by
  unfold nsDbFindUserId at hfound
  simp only at hfound
  split at hfound
  · simp at hfound
  · split at hfound
    · next row hrow =>
        have hmem := Tables.findUser_mem hrow
        simp only [Option.some.injEq] at hfound
        exact ⟨row, hmem.1, hmem.2, hfound.symm⟩
    · simp at hfound

/-- The call only adds to `users`, and an id that it returns is the narrowed
id of a row of that name. -/
theorem nsDbGetOrCreateUser_spec {database : NsDatabase}
    (hsaved : database.saved = none) (faults : SqliteFaults)
    (clock : Clock) (username : List UInt8) :
    let result := nsDbGetOrCreateUser database faults clock username
    database.UsersGrow result.2.1 ∧
      ∀ userId, result.1 = some userId →
        ∃ row ∈ result.2.1.tables.users,
          row.username = text username ∧ userId = UInt32.ofNat row.id := by
  have hsame : database.UsersGrow database :=
    ⟨List.prefix_rfl, rfl, le_rfl, hsaved⟩
  unfold nsDbGetOrCreateUser
  simp only [hsaved, Option.isSome_none, Bool.or_false]
  split
  · exact ⟨hsame, by simp⟩
  · split
    · exact ⟨⟨List.prefix_rfl, rfl, le_rfl, rfl⟩, by simp⟩
    · next tables hinserted =>
        split_ifs at hinserted with hfault
        have hspec := Tables.insertOrIgnoreUser_spec hinserted
        split
        · exact ⟨⟨List.prefix_rfl, rfl, le_rfl, rfl⟩, by simp⟩
        · have hfound := nsDbFindUserId_tables
            { database with
              tables := tables
              saved := none
              stmtInsertUser := .idle } faults username
          constructor
          · exact ⟨hfound.1 ▸ hspec.1, hfound.1 ▸ hspec.2.1,
              hfound.1 ▸ hspec.2.2, hfound.2⟩
          · intro userId huserId
            rw [hfound.1]
            exact nsDbFindUserId_some huserId

/-- A call that returns 0 appends exactly one row; one that returns -1
leaves the tables alone. -/
theorem nsDbInsertMessage_spec (database : NsDatabase)
    (faults : SqliteFaults) (senderId : UInt32) (body : List UInt8)
    (timestamp : UInt32) :
    let result :=
      nsDbInsertMessage database faults senderId body timestamp
    result.2.saved = database.saved ∧
      result.2.tables.users = database.tables.users ∧
      result.2.tables.usersSeq = database.tables.usersSeq ∧
      (result.1 = true → ∃ row,
        result.2.tables.messages = database.tables.messages ++ [row] ∧
          row.senderId = senderId.toNat ∧ row.body = text body ∧
          row.sentAt = timestamp.toNat) ∧
      (result.1 = false → result.2.tables = database.tables) := by
  unfold nsDbInsertMessage
  simp only
  split
  · simp
  · split
    · next tables hinsert =>
        rcases Tables.insertMessage_spec hinsert with ⟨husers, hseq, hrow⟩
        simp only [husers, hseq, true_and, Bool.true_eq_false,
          false_implies, and_true, forall_const]
        exact hrow
    · simp

theorem Tables.insertMessage_isSome_iff {tables : Tables} {senderId : ℕ}
    {body : List UInt8} {sentAt : ℕ} :
    (tables.insertMessage senderId body sentAt).isSome ↔
      (∃ user ∈ tables.users, user.id = senderId) ∧
        tables.messagesSeq < maxRowId := by
  unfold Tables.insertMessage
  split_ifs with hsender hroom
  · simp only [Option.isSome_some, hsender, hroom, and_self]
  · simp [hroom]
  · simp [hsender]

/-- A message is stored for a sender that `users` has, as long as an id is
left. -/
theorem nsDbInsertMessage_iff (database : NsDatabase)
    (faults : SqliteFaults) (senderId : UInt32) (body : List UInt8)
    (timestamp : UInt32) :
    (nsDbInsertMessage database faults senderId body timestamp).1 = true ↔
      faults .insertMessage = false ∧
        (∃ user ∈ database.tables.users, user.id = senderId.toNat) ∧
        database.tables.messagesSeq < maxRowId := by
  have hinsert : (database.tables.insertMessage senderId.toNat (text body)
      timestamp.toNat).isSome ↔ _ := Tables.insertMessage_isSome_iff
  rw [← hinsert]
  unfold nsDbInsertMessage
  simp only
  split
  · next hfault => simp [hfault]
  · next hfault =>
      split <;> simp_all

end NodeSignal
