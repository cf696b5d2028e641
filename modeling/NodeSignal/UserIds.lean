import NodeSignal.DatabaseCalls

/-!
# User ids

Whatever the order of the calls, a name keeps the id it was given first, two
names never share an id, and a message can be stored for the ids that were
given out and for no other, as long as the row ids have 32 bits.  Every
lookup uses one up, so that a single user can exhaust them.
-/

namespace NodeSignal

open CStrings Runs

/-- Some call of the sequence returned the id for the name. -/
def Returned (calls : List DbCall) (username : List UInt8)
    (userId : UInt32) : Prop :=
  ∃ before createdAt rest,
    calls = before ++ .getOrCreateUser username createdAt :: rest ∧
      (lookUp (fileAfter before) username createdAt).1 = some userId

theorem Returned.append {calls : List DbCall} {username : List UInt8}
    {userId : UInt32} (hreturned : Returned calls username userId)
    (more : List DbCall) : Returned (calls ++ more) username userId := by
  rcases hreturned with ⟨before, createdAt, rest, rfl, hlookUp⟩
  exact ⟨before, createdAt, rest ++ more, by simp, hlookUp⟩

/-- An id that was returned belongs to a row of that name. -/
theorem Returned.row {calls : List DbCall} {username : List UInt8}
    {userId : UInt32} (hreturned : Returned calls username userId)
    (hroom : NeverFull calls) :
    ∃ row ∈ (fileAfter calls).tables.users,
      row.username = text username ∧ userId = UInt32.ofNat row.id := by
  rcases hreturned with ⟨before, createdAt, rest, rfl, hlookUp⟩
  rcases hroom.split with ⟨hbefore, hroomy⟩
  rcases lookUp_spec (fileAfter_saved hbefore) hroomy username createdAt
    with ⟨row, hsome, hlooked⟩
  have hgrows : (fileAfter (before ++
        [.getOrCreateUser username createdAt])).tables.users <+:
      (fileAfter (before ++ [.getOrCreateUser username createdAt] ++
        rest)).tables.users := by
    apply fileAfter_grows
    simpa using hroom
  rw [fileAfter_snoc] at hgrows
  refine ⟨row, ?_, hlooked.username,
    Option.some.inj (hlookUp.symm.trans hsome)⟩
  simpa using hgrows.subset hlooked.mem

/-- Every row was created by a call that returned its id. -/
theorem returned_of_mem {calls : List DbCall} (hroom : NeverFull calls)
    {row : UserRow} (hrow : row ∈ (fileAfter calls).tables.users) :
    ∃ username, Returned calls username (UInt32.ofNat row.id) ∧
      text username = row.username := by
  induction calls using List.reverseRecOn with
  | nil => exact absurd hrow List.not_mem_nil
  | append_singleton before call ih =>
      rcases hroom.split with ⟨hbefore, hroomy⟩
      have hsaved := fileAfter_saved hbefore
      have hold : row ∈ (fileAfter before).tables.users →
          ∃ username, Returned (before ++ [call]) username
              (UInt32.ofNat row.id) ∧ text username = row.username := by
        intro hmem
        rcases ih hbefore hmem with ⟨username, hreturned, hname⟩
        exact ⟨username, hreturned.append [call], hname⟩
      rw [fileAfter_snoc] at hrow
      cases call with
      | getOrCreateUser username createdAt =>
          rcases lookUp_spec hsaved hroomy username createdAt with
            ⟨found, hsome, hlooked⟩
          change row ∈ (lookUp _ _ _).2.1.tables.users at hrow
          rcases hlooked.users with hsame | ⟨happended, _⟩
          · exact hold (hsame ▸ hrow)
          · rw [happended, List.mem_append, List.mem_singleton] at hrow
            rcases hrow with hmem | rfl
            · exact hold hmem
            · exact ⟨username, ⟨before, createdAt, [], rfl, hsome⟩,
                hlooked.username.symm⟩
      | insertMessage senderId body timestamp =>
          have husers := (nsDbInsertMessage_spec (fileAfter before)
            noFaults senderId body timestamp).2.1
          change row ∈ (nsDbInsertMessage _ _ _ _ _).2.tables.users at hrow
          exact hold (husers ▸ hrow)
      | openFile => exact hold hrow
      | initSchema => exact hold hrow

theorem row_eq_of_username {tables : Tables} {row row' : UserRow}
    (hrow : row ∈ tables.users) (hrow' : row' ∈ tables.users)
    (hname : row.username = row'.username) : row = row' :=
  List.inj_on_of_nodup_map tables.users_unique hrow hrow' hname

theorem row_eq_of_id {tables : Tables} {row row' : UserRow}
    (hrow : row ∈ tables.users) (hrow' : row' ∈ tables.users)
    (hid : row.id = row'.id) : row = row' :=
  List.inj_on_of_nodup_map
    (tables.users_increasing.imp fun hlt => hlt.ne) hrow hrow' hid

/-- User ids are a stable injective naming in every sequence of calls that
uses up fewer than 2^32 row ids of `users`. -/
theorem user_ids_stable_injective (calls : List DbCall)
    (hroom : NeverFull calls)
    (hids : (fileAfter calls).tables.usersSeq < 2 ^ 32) :
    (∀ username username' userId userId',
      Returned calls username userId →
      Returned calls username' userId' →
        userId ≠ 0 ∧
          (text username = text username' ↔ userId = userId')) ∧
    (∀ before call rest, calls = before ++ call :: rest →
      (fileAfter before).tables.users <+:
          (fileAfter (before ++ [call])).tables.users ∧
        (fileAfter before).tables.messages <+:
          (fileAfter (before ++ [call])).tables.messages) ∧
    ∀ before senderId body timestamp rest,
      calls = before ++ .insertMessage senderId body timestamp :: rest →
        ((store (fileAfter before) senderId body timestamp).1 = true ↔
          ∃ username, Returned before username senderId) := by
  have hnarrow : ∀ row ∈ (fileAfter calls).tables.users,
      1 ≤ row.id ∧ (UInt32.ofNat row.id).toNat = row.id := by
    intro row hrow
    have hid := (fileAfter calls).tables.users_id row hrow
    refine ⟨hid.1, ?_⟩
    rw [UInt32.toNat_ofNat']
    exact Nat.mod_eq_of_lt (hid.2.trans_lt hids)
  refine ⟨?_, ?_, ?_⟩
  · intro username username' userId userId' hreturned hreturned'
    rcases hreturned.row hroom with ⟨row, hrow, hname, rfl⟩
    rcases hreturned'.row hroom with ⟨row', hrow', hname', rfl⟩
    rcases hnarrow row hrow with ⟨hpos, hid⟩
    refine ⟨?_, ?_⟩
    · intro hzero
      rw [hzero] at hid
      exact absurd hid.symm (Nat.one_le_iff_ne_zero.mp hpos)
    · rw [← hname, ← hname']
      constructor
      · intro hsame
        rw [row_eq_of_username hrow hrow' hsame]
      · intro hsame
        have hids' := congrArg UInt32.toNat hsame
        rw [hid, (hnarrow row' hrow').2] at hids'
        rw [row_eq_of_id hrow hrow' hids']
  · rintro before call rest rfl
    rcases hroom.split with ⟨hbefore, hroomy⟩
    rw [fileAfter_snoc]
    exact (after_grows (fileAfter_saved hbefore) hroomy call).2
  · rintro before senderId body timestamp rest rfl
    rcases hroom.split with ⟨hbefore, hroomy⟩
    have hgrows := fileAfter_grows hroom
    rw [store_iff hroomy]
    constructor
    · rintro ⟨row, hrow, hid⟩
      rcases returned_of_mem hbefore hrow with ⟨username, hreturned, _⟩
      rw [hid, UInt32.ofNat_toNat] at hreturned
      exact ⟨username, hreturned⟩
    · rintro ⟨username, hreturned⟩
      rcases hreturned.row hbefore with ⟨row, hrow, _, rfl⟩
      exact ⟨row, hrow, ((hnarrow row (hgrows.subset hrow)).2).symm⟩

theorem user_ids_stable_injective_example :
    ¬ (Returned exampleCalls [97] 1 ∧ Returned exampleCalls [98] 1) := by
  rintro ⟨hreturned, hreturned'⟩
  have hnaming := (user_ids_stable_injective exampleCalls
    exampleCalls_neverFull (by decide)).1 _ _ _ _ hreturned hreturned'
  exact absurd (hnaming.2.mpr rfl) (by decide)

/-! ## Row ids that are used up -/

/-- Looking "a" up, again and again. -/
def lookUpA : DbCall := .getOrCreateUser [97] 0

theorem Tables.worn_insert {count : ℕ} (hroom : count + 1 < maxRowId) :
    (Tables.worn count).insertOrIgnoreUser [97] 0 =
      some (Tables.worn (count + 1)) := by
  have hseq : (Tables.worn count).usersSeq < maxRowId := hroom
  have hfind : (Tables.worn count).findUser [97] ≠ none := by
    simp [Tables.worn, Tables.findUser]
  unfold Tables.insertOrIgnoreUser
  rw [if_pos hseq, dif_neg hfind]
  rfl

/-- A lookup of a name that has its row uses a row id up. -/
theorem lookUp_worn {database : NsDatabase} {count : ℕ}
    (hsaved : database.saved = none)
    (htables : database.tables = .worn count)
    (hroom : count + 1 < maxRowId) :
    (database.after lookUpA).saved = none ∧
      (database.after lookUpA).tables = .worn (count + 1) := by
  have hafter : database.after lookUpA =
      (nsDbGetOrCreateUser database noFaults (fun _ => 0) [97]).2.1 := rfl
  have hname : text [97] = [97] := rfl
  rw [hafter]
  unfold nsDbGetOrCreateUser
  simp only [noFaults_apply, hsaved, htables, hname, Tables.worn_insert hroom,
    Option.isSome_none, Bool.or_false, Bool.false_eq_true, if_false]
  obtain ⟨htables', hsaved'⟩ := nsDbFindUserId_tables
    { database with
      tables := .worn (count + 1)
      saved := none
      stmtInsertUser := .idle } noFaults [97]
  exact ⟨hsaved', htables'⟩

theorem fileAfter_worn (count : ℕ) (hroom : count < maxRowId) :
    NeverFull (List.replicate (count + 1) lookUpA) ∧
      (fileAfter (List.replicate (count + 1) lookUpA)).saved = none ∧
      (fileAfter (List.replicate (count + 1) lookUpA)).tables =
        .worn count := by
  induction count with
  | zero =>
      refine ⟨⟨⟨?_, ?_⟩, trivial⟩, rfl, rfl⟩ <;> decide
  | succ count ih =>
      obtain ⟨hnever, hsaved, htables⟩ := ih (Nat.lt_of_succ_lt hroom)
      have hmore : List.replicate (count + 1 + 1) lookUpA =
          List.replicate (count + 1) lookUpA ++ [lookUpA] :=
        List.replicate_succ'
      rw [hmore, fileAfter_snoc]
      refine ⟨along_append.mpr ⟨hnever, ⟨?_, ?_⟩, trivial⟩,
        lookUp_worn hsaved htables hroom⟩
      · change (fileAfter _).tables.usersSeq < maxRowId
        rw [htables]
        exact hroom
      · have hseq : (Tables.worn count).messagesSeq = 0 := rfl
        change (fileAfter _).tables.messagesSeq < maxRowId
        rw [htables, hseq]
        decide

/-- After 2^32 lookups of "a", "b" is looked up. -/
def wornCalls : List DbCall :=
  List.replicate (2 ^ 32 - 1 + 1) lookUpA ++ [.getOrCreateUser [98] 0]

theorem wornCalls_shares :
    NeverFull wornCalls ∧
      (fileAfter wornCalls).tables.users.length = 2 ∧
      Returned wornCalls [97] 1 ∧ Returned wornCalls [98] 1 := by
  obtain ⟨hnever, hsaved, htables⟩ := fileAfter_worn (2 ^ 32 - 1) (by decide)
  have hroomy : (fileAfter (List.replicate (2 ^ 32 - 1 + 1)
      lookUpA)).Roomy := by
    constructor
    · rw [htables]
      change 2 ^ 32 - 1 + 1 < maxRowId
      decide
    · rw [htables]
      change 0 < maxRowId
      decide
  obtain ⟨row, hsome, hlooked⟩ := lookUp_spec hsaved hroomy [98] 0
  have husers : (fileAfter (List.replicate (2 ^ 32 - 1 + 1)
      lookUpA)).tables.users = [⟨1, [97], 0⟩] := by
    rw [htables]
    rfl
  obtain ⟨hadded, hid⟩ := hlooked.users.resolve_left (by
    intro hsame
    have hmem := hlooked.mem
    rw [hsame, husers, List.mem_singleton] at hmem
    have hname := hlooked.username
    rw [hmem] at hname
    exact absurd hname (by decide))
  have hfirst : wornCalls = [] ++ .getOrCreateUser [97] 0 ::
      (List.replicate (2 ^ 32 - 1) lookUpA ++
        [.getOrCreateUser [98] 0]) := by
    unfold wornCalls
    rw [List.replicate_succ]
    rfl
  have hlast : row.id = 2 ^ 32 + 1 := by
    rw [hid, htables]
    rfl
  refine ⟨along_append.mpr ⟨hnever, hroomy, trivial⟩, ?_,
    ⟨[], 0, _, hfirst, by decide⟩, ⟨_, 0, [], rfl, ?_⟩⟩
  · rw [wornCalls, fileAfter_snoc, NsDatabase.after, hadded, husers]
    rfl
  · rw [hsome, hlast]
    rfl

/-- Two users are enough for both to be given the same id. -/
theorem user_ids_not_always_injective :
    ¬ ∀ calls, NeverFull calls →
      (fileAfter calls).tables.users.length < 2 ^ 32 →
      ∀ username username' userId userId',
        Returned calls username userId →
        Returned calls username' userId' →
          userId ≠ 0 ∧
            (text username = text username' ↔ userId = userId') := by
  intro hall
  obtain ⟨hnever, hlength, hreturned, hreturned'⟩ := wornCalls_shares
  have hnaming := hall wornCalls hnever (hlength.trans_lt (by decide)) _ _
    _ _ hreturned hreturned'
  exact absurd (hnaming.2.mpr rfl) (by decide)

end NodeSignal
