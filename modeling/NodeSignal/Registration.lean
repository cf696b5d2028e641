import NodeSignal.DatabaseCalls

/-!
# Registering a user when SQLite calls fail

`ns_db_get_or_create_user` opens a transaction, inserts the row, commits and
only then looks the id up.  Whichever call fails, no transaction stays open,
and before the commit nothing is left of the attempt.  The lookup is outside
of the transaction: when it fails, the caller is told that nothing happened
although the row is there.
-/

namespace NodeSignal

open CStrings

/-! ## The row of a name -/

/-- The id of the row that a name has, or that it is given next. -/
def Tables.idFor (tables : Tables) (name : List UInt8) : ℕ :=
  ((tables.findUser name).map UserRow.id).getD (tables.usersSeq + 1)

/-- The rows that a name has. -/
def Tables.rowsOf (tables : Tables) (name : List UInt8) : List UserRow :=
  tables.users.filter fun row => row.username = name

/-- A name has at most one row. -/
theorem Tables.rowsOf_of_findUser {tables : Tables} {name : List UInt8}
    {row : UserRow} (hfind : tables.findUser name = some row) :
    tables.rowsOf name = [row] := by
  have hfound := Tables.findUser_mem hfind
  have hrow : row ∈ tables.rowsOf name := by
    rw [rowsOf, List.mem_filter]
    exact ⟨hfound.1, by simpa using hfound.2⟩
  have hnodup : (tables.rowsOf name).Nodup :=
    (List.Nodup.of_map _ tables.users_unique).filter _
  apply List.perm_singleton.mp
  rw [List.perm_ext_iff_of_nodup hnodup (List.nodup_singleton row)]
  intro other
  rw [List.mem_singleton]
  constructor
  · intro hother
    rw [rowsOf, List.mem_filter] at hother
    have hname : other.username = name := by simpa using hother.2
    exact List.inj_on_of_nodup_map tables.users_unique hother.1 hfound.1
      (hname.trans hfound.2.symm)
  · rintro rfl
    exact hrow

/-- The insert leaves the rows alone or adds the row of a new name. -/
theorem Tables.insertOrIgnoreUser_cases {tables next : Tables}
    {name : List UInt8} {createdAt : ℤ}
    (hinsert : tables.insertOrIgnoreUser name createdAt = some next) :
    (∃ row, tables.findUser name = some row ∧
        next.users = tables.users ∧ next.findUser name = some row) ∨
      tables.findUser name = none ∧
        next.users =
          tables.users ++ [⟨tables.usersSeq + 1, name, createdAt⟩] ∧
        next.findUser name =
          some ⟨tables.usersSeq + 1, name, createdAt⟩ := by
  unfold Tables.insertOrIgnoreUser at hinsert
  split_ifs at hinsert with hroom hnew
  · simp only [Option.some.injEq] at hinsert
    subst hinsert
    refine Or.inr ⟨hnew, rfl, ?_⟩
    unfold Tables.findUser at hnew ⊢
    rw [List.find?_append, hnew]
    simp
  · simp only [Option.some.injEq] at hinsert
    subst hinsert
    rcases Option.ne_none_iff_exists'.mp hnew with ⟨row, hrow⟩
    exact Or.inl ⟨row, hrow, rfl, hrow⟩

/-- After the insert the name has its row, with the id it had or the next
one. -/
theorem Tables.findUser_of_insert {tables next : Tables}
    {name : List UInt8} {createdAt : ℤ}
    (hinsert : tables.insertOrIgnoreUser name createdAt = some next) :
    ∃ row, next.findUser name = some row ∧ row.id = tables.idFor name := by
  rcases Tables.insertOrIgnoreUser_cases hinsert with
    ⟨row, hold, -, hfind⟩ | ⟨hnew, -, hfind⟩
  · exact ⟨row, hfind, by simp [idFor, hold]⟩
  · exact ⟨_, hfind, by simp [idFor, hnew]⟩

/-! ## The outcomes of a call -/

/-- `BEGIN IMMEDIATE`, the insert and `COMMIT` all succeed. -/
structure Commits (database : NsDatabase) (faults : SqliteFaults)
    (username : List UInt8) : Prop where
  closed : database.saved = none
  begun : faults .beginImmediate = false
  stepped : faults .insertUser = false
  room : database.tables.usersSeq < maxRowId
  committed : faults .commit = false

section Outcomes

variable {database : NsDatabase} {faults : SqliteFaults}
  {username : List UInt8}

/-- A call that commits goes on to the lookup. -/
theorem nsDbGetOrCreateUser_of_commits
    (hcommits : Commits database faults username) (clock : Clock) :
    ∃ tables, database.tables.insertOrIgnoreUser (text username)
        (clock 0) = some tables ∧
      nsDbGetOrCreateUser database faults clock username =
        ((nsDbFindUserId
          { database with
            tables := tables
            saved := none
            stmtInsertUser := .idle } faults username).1,
          (nsDbFindUserId
            { database with
              tables := tables
              saved := none
              stmtInsertUser := .idle } faults username).2,
          clock.rest) := by
  rcases Tables.insertOrIgnoreUser_row hcommits.room (text username)
    (clock 0) with ⟨tables, -, hinsert, -⟩
  refine ⟨tables, hinsert, ?_⟩
  unfold nsDbGetOrCreateUser
  simp only [hcommits.begun, hcommits.closed, hcommits.stepped, hinsert,
    hcommits.committed, Option.isSome_none, Bool.or_self,
    Bool.false_eq_true, if_false]

/-- A call that does not commit is taken back. -/
theorem nsDbGetOrCreateUser_of_not_commits
    (hclosed : database.saved = none)
    (hfails : ¬ Commits database faults username) (clock : Clock) :
    ∃ state clock', (state = .idle ∨ state = database.stmtInsertUser) ∧
      nsDbGetOrCreateUser database faults clock username =
        (none, { database with saved := none, stmtInsertUser := state },
          clock') := by
  unfold nsDbGetOrCreateUser
  simp only [hclosed, Option.isSome_none, Bool.or_false]
  cases hbegun : faults .beginImmediate with
  | true =>
      refine ⟨database.stmtInsertUser, clock, Or.inr rfl, ?_⟩
      cases database
      cases hclosed
      rfl
  | false =>
  simp only [Bool.false_eq_true, if_false]
  split
  · exact ⟨.idle, _, Or.inl rfl, rfl⟩
  · next tables hinserted =>
      split_ifs at hinserted with hstepped
      rw [Bool.not_eq_true] at hstepped
      cases hcommitted : faults .commit with
      | true => exact ⟨.idle, _, Or.inl rfl, rfl⟩
      | false =>
          refine absurd ⟨hclosed, hbegun, hstepped, ?_, hcommitted⟩ hfails
          by_contra hroom
          unfold Tables.insertOrIgnoreUser at hinserted
          rw [if_neg hroom] at hinserted
          exact Option.some_ne_none tables hinserted.symm

/-- Without a fault of its own the lookup finds the row that the insert has
left. -/
theorem nsDbGetOrCreateUser_found
    (hcommits : Commits database faults username)
    (hselect : faults .selectUser = false) (clock : Clock) :
    ∃ row after,
      nsDbGetOrCreateUser database faults clock username =
        (some (UInt32.ofNat row.id), after, clock.rest) ∧
      after.saved = none ∧ after.stmtFindUser = .midResult ∧
      after.tables.findUser (text username) = some row ∧
      row.id = database.tables.idFor (text username) := by
  rcases nsDbGetOrCreateUser_of_commits hcommits clock with
    ⟨tables, hinsert, heq⟩
  rcases Tables.findUser_of_insert hinsert with ⟨row, hfind, hid⟩
  simp only [nsDbFindUserId, hselect, Bool.false_eq_true, if_false,
    hfind] at heq
  exact ⟨row, _, heq, rfl, rfl, hfind, hid⟩

/-- A lookup that fails leaves the row that was committed. -/
theorem nsDbGetOrCreateUser_unselected
    (hcommits : Commits database faults username)
    (hselect : faults .selectUser) (clock : Clock) :
    ∃ tables,
      database.tables.insertOrIgnoreUser (text username) (clock 0) =
        some tables ∧
      nsDbGetOrCreateUser database faults clock username =
        (none,
          { database with
            tables := tables
            saved := none
            stmtFindUser := .idle
            stmtInsertUser := .idle }, clock.rest) := by
  rcases nsDbGetOrCreateUser_of_commits hcommits clock with
    ⟨tables, hinsert, heq⟩
  simp only [nsDbFindUserId, hselect, if_true] at heq
  exact ⟨tables, hinsert, heq⟩

end Outcomes

/-! ## All or nothing -/

/-- The return value, and what `*out_user_id` holds afterwards. -/
def returnedUserId (outUserId : UInt32) : Option UInt32 → ℤ × UInt32
  | none => (-1, outUserId)
  | some userId => (0, userId)

@[simp] theorem returnedUserId_fst_eq_zero {outUserId : UInt32}
    {result : Option UInt32} :
    (returnedUserId outUserId result).1 = 0 ↔ result.isSome := by
  cases result <;> simp [returnedUserId]

@[simp] theorem returnedUserId_fst_eq_neg_one {outUserId : UInt32}
    {result : Option UInt32} :
    (returnedUserId outUserId result).1 = -1 ↔ result = none := by
  cases result <;> simp [returnedUserId]

/-- No transaction stays open, a call that returns 0 has its row, and one
that returns -1 has changed nothing. -/
structure AllOrNothing (before : NsDatabase) (username : List UInt8)
    (outUserId : UInt32) (result : Option UInt32 × NsDatabase × Clock) :
    Prop where
  closed : result.2.1.saved = none
  registered : (returnedUserId outUserId result.1).1 = 0 →
    ∃ row, result.2.1.tables.rowsOf (text username) = [row] ∧
      (returnedUserId outUserId result.1).2.toNat = row.id
  untouched : (returnedUserId outUserId result.1).1 = -1 →
    result.2.1.tables.users = before.tables.users ∧
      (returnedUserId outUserId result.1).2 = outUserId

/-- No transaction is open to begin with, and after a successful `COMMIT`
the lookup of a new name succeeds and the id that it finds has 32 bits. -/
def LookupSafe (database : NsDatabase) (faults : SqliteFaults)
    (username : List UInt8) : Prop :=
  database.saved = none ∧
    (Commits database faults username →
      if faults .selectUser then
        (database.tables.findUser (text username)).isSome
      else database.tables.idFor (text username) < 2 ^ 32)

theorem toNat_ofNat_eq_iff (id : ℕ) :
    (UInt32.ofNat id).toNat = id ↔ id < 2 ^ 32 := by
  rw [UInt32.toNat_ofNat']
  exact ⟨fun heq => heq ▸ Nat.mod_lt _ (by decide), Nat.mod_eq_of_lt⟩

/-- A call with a transaction open fails at `BEGIN IMMEDIATE` and leaves it
open. -/
theorem nsDbGetOrCreateUser_of_open {database : NsDatabase}
    (hopen : database.saved ≠ none) (faults : SqliteFaults) (clock : Clock)
    (username : List UInt8) :
    nsDbGetOrCreateUser database faults clock username =
      (none, database, clock) := by
  have hsome := Option.isSome_iff_ne_none.mpr hopen
  simp [nsDbGetOrCreateUser, hsome]

section Atomicity

variable {database after : NsDatabase} {username : List UInt8}
  {clock : Clock}

/-- A call that returns 0 has to narrow the id without loss. -/
theorem allOrNothing_some_iff (outUserId : UInt32) {row : UserRow}
    (hclosed : after.saved = none)
    (hfind : after.tables.findUser (text username) = some row) :
    AllOrNothing database username outUserId
        (some (UInt32.ofNat row.id), after, clock) ↔
      row.id < 2 ^ 32 := by
  have hrows := Tables.rowsOf_of_findUser hfind
  rw [← toNat_ofNat_eq_iff]
  constructor
  · intro hatomic
    rcases hatomic.registered (by simp) with ⟨row', hrows', hout⟩
    rw [hrows, List.singleton_inj] at hrows'
    rw [hrows']
    rw [hrows'] at hout
    exact hout
  · intro hnarrow
    refine ⟨hclosed, fun _ => ⟨row, hrows, hnarrow⟩, fun hfailed => ?_⟩
    simp at hfailed

/-- A call that returns -1 has to leave the rows alone. -/
theorem allOrNothing_none_iff (outUserId : UInt32) :
    AllOrNothing database username outUserId (none, after, clock) ↔
      after.saved = none ∧ after.tables.users = database.tables.users := by
  constructor
  · intro hatomic
    exact ⟨hatomic.closed, (hatomic.untouched (by simp)).1⟩
  · rintro ⟨hclosed, husers⟩
    refine ⟨hclosed, fun hok => ?_, fun _ => ⟨husers, rfl⟩⟩
    simp at hok

end Atomicity

/-- Registering a user is atomic exactly when the lookup after the commit
cannot contradict it. -/
theorem getOrCreateUser_atomic_iff (database : NsDatabase)
    (faults : SqliteFaults) (clock : Clock) (username : List UInt8)
    (outUserId : UInt32) :
    AllOrNothing database username outUserId
        (nsDbGetOrCreateUser database faults clock username) ↔
      LookupSafe database faults username := by
  unfold LookupSafe
  by_cases hclosed : database.saved = none
  · rw [and_iff_right hclosed]
    by_cases hcommits : Commits database faults username
    · rw [forall_prop_of_true hcommits]
      cases hselect : faults .selectUser with
      | false =>
          rcases nsDbGetOrCreateUser_found hcommits hselect clock with
            ⟨row, after, heq, hsaved, -, hfind, hid⟩
          rw [heq, allOrNothing_some_iff outUserId hsaved hfind, hid,
            if_neg Bool.false_ne_true]
      | true =>
          rcases nsDbGetOrCreateUser_unselected hcommits hselect clock with
            ⟨tables, hinsert, heq⟩
          rw [heq, allOrNothing_none_iff, and_iff_right rfl, if_pos rfl]
          rcases Tables.insertOrIgnoreUser_cases hinsert with
            ⟨row, hfind, hsame, -⟩ | ⟨hnew, happended, -⟩
          · simp [hfind, hsame]
          · simp [hnew, happended]
    · rcases nsDbGetOrCreateUser_of_not_commits hclosed hcommits clock
        with ⟨state, clock', -, heq⟩
      rw [heq, allOrNothing_none_iff]
      exact iff_of_true ⟨rfl, rfl⟩ fun hcommits' =>
        absurd hcommits' hcommits
  · rw [nsDbGetOrCreateUser_of_open hclosed, allOrNothing_none_iff]
    exact iff_of_false (fun hstill => hclosed hstill.1)
      fun hsafe => hclosed hsafe.1

/-- The lookup fails and everything else succeeds. -/
def onlySelectFails : SqliteFaults
  | .selectUser => true
  | _ => false

/-- Registering is not always atomic: with the lookup failing, the call
returns -1 and leaves the row of the new name behind. -/
theorem getOrCreateUser_not_always_atomic :
    ¬ ∀ (tables : Tables) (faults : SqliteFaults) (clock : Clock)
      (username : List UInt8) (outUserId : UInt32),
      AllOrNothing (.opened tables) username outUserId
        (nsDbGetOrCreateUser (.opened tables) faults clock username) := by
  intro hall
  have hatomic := hall .empty onlySelectFails (fun _ => 0) [97] 0
  have husers := (hatomic.untouched (by decide)).1
  exact absurd husers (by decide)

end NodeSignal
