import NodeSignal.DatabaseCalls

/-!
# The message history

A chronicle keeps what the calls themselves show: the names that ids were
returned for, and the messages that were accepted.  The history that the
database delivers is the end of the chronicle.
-/

namespace NodeSignal

open CStrings Runs

/-! ## What the calls show -/

structure Chronicle where
  names : List (UInt32 × List UInt8)
  messages : List NsHistoryRow

def Chronicle.empty : Chronicle := ⟨[], []⟩

/-- The name that the id was first returned for. -/
def Chronicle.author (chronicle : Chronicle) (senderId : UInt32) :
    Option (List UInt8) :=
  (chronicle.names.find? fun entry => entry.1 = senderId).map Prod.snd

def Chronicle.record (chronicle : Chronicle) (database : NsDatabase) :
    DbCall → Chronicle
  | .getOrCreateUser username createdAt =>
      match (lookUp database username createdAt).1 with
      | some userId =>
          { chronicle with
            names := chronicle.names ++ [(userId, text username)] }
      | none => chronicle
  | .insertMessage senderId body timestamp =>
      if (store database senderId body timestamp).1 then
        { chronicle with
          messages := chronicle.messages ++
            [⟨(chronicle.author senderId).getD [], text body,
              timestamp.toNat⟩] }
      else chronicle
  | _ => chronicle

def recordStep (state : NsDatabase × Chronicle) (call : DbCall) :
    NsDatabase × Chronicle :=
  (state.1.after call, state.2.record state.1 call)

/-- The chronicle of a sequence of calls on a new file. -/
def chronicleOf (calls : List DbCall) : Chronicle :=
  (run recordStep (nsDbOpen none, .empty) calls).2

/-- The texts fit the arrays of the history rows. -/
def DbCall.Fits : DbCall → Prop
  | .getOrCreateUser username _ => (text username).length ≤ 63
  | .insertMessage _ body _ => (text body).length ≤ 512
  | _ => True

structure NsHistoryRow.Fits (row : NsHistoryRow) : Prop where
  username : row.username.length ≤ 63
  username_text : text row.username = row.username
  body : row.body.length ≤ 512
  body_text : text row.body = row.body

theorem NsHistoryRow.Fits.stored {row : NsHistoryRow}
    (hfits : row.Fits) : row.stored = row := by
  have husername : (snprintf 64 [text row.username]).1 = row.username := by
    have hroom : [row.username].flatten.length < 64 := by
      simpa using Nat.lt_succ_of_le hfits.username
    rw [hfits.username_text, snprintf_of_fits hroom]
    simp
  have hbody : (snprintf 513 [text row.body]).1 = row.body := by
    have hroom : [row.body].flatten.length < 513 := by
      simpa using Nat.lt_succ_of_le hfits.body
    rw [hfits.body_text, snprintf_of_fits hroom]
    simp
  rw [NsHistoryRow.stored, husername, hbody]

/-! ## The query and the loop -/

/-- The ids increase, so the newest come first in reverse order. -/
theorem Tables.newestFirst_eq (tables : Tables) :
    tables.newestFirst = tables.messages.reverse := by
  have hincreasing : tables.messages.Pairwise
      fun left right => left.id < right.id :=
    List.pairwise_map.mp tables.messages_increasing
  have hsorted : tables.newestFirst.Pairwise
      fun left right => decide (right.id ≤ left.id) = true :=
    List.pairwise_mergeSort
      (fun a b c => by simpa using fun hab hbc => hbc.trans hab)
      (fun a b => by simpa using le_total b.id a.id) tables.messages
  have hreverse : tables.messages.reverse.Pairwise
      fun left right => decide (right.id ≤ left.id) = true := by
    rw [List.pairwise_reverse]
    exact hincreasing.imp fun hlt => by simpa using hlt.le
  have hperm : tables.newestFirst.Perm tables.messages.reverse :=
    (List.mergeSort_perm _ _).trans (List.reverse_perm _).symm
  refine List.Perm.eq_of_pairwise ?_ hsorted hreverse hperm
  intro left right hleft hright hle hle'
  simp only [decide_eq_true_eq] at hle hle'
  have hleft' := List.mem_reverse.mp (hperm.subset hleft)
  have hnodup : (tables.messages.map MessageRow.id).Nodup :=
    tables.messages_increasing.imp fun hlt => hlt.ne
  exact List.inj_on_of_nodup_map hnodup hleft'
    (List.mem_reverse.mp hright) (le_antisymm hle' hle)

theorem filter_eq_singleton {α : Type*} {key : α → ℕ} {rows : List α}
    (hnodup : (rows.map key).Nodup) {row : α} (hrow : row ∈ rows) :
    (rows.filter fun other => key other = key row) = [row] := by
  induction rows with
  | nil => exact absurd hrow List.not_mem_nil
  | cons first rest ih =>
      rw [List.map_cons, List.nodup_cons] at hnodup
      rcases List.mem_cons.mp hrow with rfl | hrest
      · have hnone : (rest.filter fun other => key other = key row) =
            [] := by
          rw [List.filter_eq_nil_iff]
          intro other hother
          rw [decide_eq_true_eq]
          intro hkey
          exact hnodup.1 (hkey ▸ List.mem_map_of_mem hother)
        rw [List.filter_cons_of_pos (by simp), hnone]
      · have hne : key first ≠ key row := fun heq =>
          hnodup.1 (heq ▸ List.mem_map_of_mem hrest)
        rw [List.filter_cons_of_neg (by simpa using hne)]
        exact ih hnodup.2 hrest

theorem Tables.joinUsers_eq {tables : Tables} {user : UserRow}
    (huser : user ∈ tables.users) {message : MessageRow}
    (hsender : user.id = message.senderId) :
    tables.joinUsers message =
      [⟨user.username, message.body, message.sentAt⟩] := by
  have hnodup : (tables.users.map UserRow.id).Nodup :=
    tables.users_increasing.imp fun hlt => hlt.ne
  rw [Tables.joinUsers, ← hsender, filter_eq_singleton hnodup huser]
  rfl

/-- The loop keeps all rows of a result set within the limit. -/
theorem historyLoop_eq {limit count : ℕ} {rows : List NsHistoryRow}
    (hfits : ∀ row ∈ rows, row.Fits)
    (hlimit : count + rows.length ≤ limit) :
    (historyLoop limit rows count).1 = rows := by
  induction rows generalizing count with
  | nil => rfl
  | cons row rest ih =>
      rw [List.length_cons] at hlimit
      have hcount : count < limit := by omega
      have hrest : (historyLoop limit rest (count + 1)).1 = rest :=
        ih (fun other hother => hfits other (List.mem_cons_of_mem _ hother))
          (by omega)
      simp only [historyLoop, if_pos hcount, hrest,
        (hfits row List.mem_cons_self).stored]

/-! ## The chronicle and the tables -/

/-- A message of the tables is the entry of the chronicle. -/
structure Tells (tables : Tables) (message : MessageRow)
    (row : NsHistoryRow) : Prop where
  body : message.body = row.body
  sentAt : message.sentAt = row.sentAt
  user : ∃ user ∈ tables.users, user.id = message.senderId ∧
    user.username = row.username

structure Recounts (state : NsDatabase × Chronicle) : Prop where
  saved : state.1.saved = none
  author : ∀ row ∈ state.1.tables.users, row.id < 2 ^ 32 →
    state.2.author (UInt32.ofNat row.id) = some row.username
  known : ∀ entry ∈ state.2.names, ∃ row ∈ state.1.tables.users,
    entry.1 = UInt32.ofNat row.id
  names : ∀ row ∈ state.1.tables.users,
    row.username.length ≤ 63 ∧ text row.username = row.username
  messages : List.Forall₂ (Tells state.1.tables) state.1.tables.messages
    state.2.messages
  fits : ∀ row ∈ state.2.messages, row.Fits

theorem Tells.mono {tables tables' : Tables}
    (husers : tables.users ⊆ tables'.users) {message : MessageRow}
    {row : NsHistoryRow} (htells : Tells tables message row) :
    Tells tables' message row := by
  rcases htells.user with ⟨user, huser, hid⟩
  exact ⟨htells.body, htells.sentAt, user, husers huser, hid⟩

theorem Chronicle.author_append {chronicle : Chronicle}
    {senderId : UInt32} {name : List UInt8}
    (hauthor : chronicle.author senderId = some name)
    (entries : List (UInt32 × List UInt8)) :
    { chronicle with names := chronicle.names ++ entries }.author
      senderId = some name := by
  unfold Chronicle.author at hauthor ⊢
  rw [Option.map_eq_some_iff] at hauthor ⊢
  rcases hauthor with ⟨entry, hfind, hname⟩
  refine ⟨entry, ?_, hname⟩
  rw [List.find?_append, hfind]
  rfl

section Steps

variable {state : NsDatabase × Chronicle}

/-- No id of the chronicle is that of a row still to come. -/
theorem Recounts.author_new (hrecounts : Recounts state) {id : ℕ}
    (hnew : state.1.tables.usersSeq < id) (hid : id < 2 ^ 32)
    (name : List UInt8) :
    { state.2 with
      names := state.2.names ++ [(UInt32.ofNat id, name)] }.author
        (UInt32.ofNat id) = some name := by
  have hnone : state.2.names.find?
      (fun entry => entry.1 = UInt32.ofNat id) = none := by
    rw [List.find?_eq_none]
    intro entry hentry
    rw [decide_eq_true_eq]
    intro hsame
    rcases hrecounts.known entry hentry with ⟨row, hrow, hrowId⟩
    have hlt := (state.1.tables.users_id row hrow).2.trans_lt hnew
    have hnarrow := congrArg UInt32.toNat (hrowId.symm.trans hsame)
    rw [UInt32.toNat_ofNat', UInt32.toNat_ofNat',
      Nat.mod_eq_of_lt (hlt.trans hid), Nat.mod_eq_of_lt hid] at hnarrow
    exact hlt.ne hnarrow
  unfold Chronicle.author
  rw [List.find?_append, hnone]
  simp

theorem Recounts.lookedUp (hrecounts : Recounts state)
    (hroom : state.1.Roomy) {username : List UInt8}
    (hshort : (text username).length ≤ 63) (createdAt : ℤ) :
    Recounts (recordStep state (.getOrCreateUser username createdAt)) := by
  rcases lookUp_spec hrecounts.saved hroom username createdAt with
    ⟨row, hsome, hlooked⟩
  have hstep : recordStep state (.getOrCreateUser username createdAt) =
      ((lookUp state.1 username createdAt).2.1,
        { state.2 with
          names := state.2.names ++
            [(UInt32.ofNat row.id, text username)] }) := by
    simp only [recordStep, Chronicle.record, hsome]
    rfl
  rw [hstep]
  generalize (lookUp state.1 username createdAt).2.1 = after at *
  have hcases : ∀ other ∈ after.tables.users,
      other ∈ state.1.tables.users ∨
        other = row ∧ row.id = state.1.tables.usersSeq + 1 := by
    intro other hother
    rcases hlooked.users with hsame | ⟨happended, hid⟩
    · exact Or.inl (hsame ▸ hother)
    · rw [happended, List.mem_append, List.mem_singleton] at hother
      exact hother.imp_right fun heq => ⟨heq, hid⟩
  have hsubset : state.1.tables.users ⊆ after.tables.users := by
    rcases hlooked.users with hsame | ⟨happended, _⟩
    · exact hsame ▸ List.Subset.refl _
    · exact happended ▸ List.subset_append_left _ _
  constructor
  · exact hlooked.saved
  · intro other hother hid
    rcases hcases other hother with hold | ⟨rfl, hnew⟩
    · exact Chronicle.author_append (hrecounts.author other hold hid) _
    · rw [hlooked.username]
      exact hrecounts.author_new (by omega) hid _
  · intro entry hentry
    rcases List.mem_append.mp hentry with hold | hnew
    · rcases hrecounts.known entry hold with ⟨other, hother, hid⟩
      exact ⟨other, hsubset hother, hid⟩
    · rw [List.mem_singleton.mp hnew]
      exact ⟨row, hlooked.mem, rfl⟩
  · intro other hother
    rcases hcases other hother with hold | ⟨rfl, _⟩
    · exact hrecounts.names other hold
    · rw [hlooked.username]
      exact ⟨hshort, text_of_zero_notMem (zero_notMem_text username)⟩
  · rw [hlooked.messages]
    exact hrecounts.messages.imp fun _ _ htells => htells.mono hsubset
  · exact hrecounts.fits

theorem Recounts.stored (hrecounts : Recounts state)
    (hroom : state.1.Roomy) (senderId : UInt32) {body : List UInt8}
    (hshort : (text body).length ≤ 512) (timestamp : UInt32) :
    Recounts (recordStep state
      (.insertMessage senderId body timestamp)) := by
  cases hok : (store state.1 senderId body timestamp).1 with
  | false =>
      rcases store_false hok with ⟨hsaved, htables⟩
      have hstep : recordStep state
            (.insertMessage senderId body timestamp) =
          ((store state.1 senderId body timestamp).2, state.2) := by
        simp [recordStep, Chronicle.record, hok, NsDatabase.after]
      rw [hstep]
      generalize (store state.1 senderId body timestamp).2 = after at *
      constructor
      · exact hsaved.trans hrecounts.saved
      all_goals simp only [htables]
      · exact hrecounts.author
      · exact hrecounts.known
      · exact hrecounts.names
      · exact hrecounts.messages
      · exact hrecounts.fits
  | true =>
      rcases (store_iff hroom senderId body timestamp).mp hok with
        ⟨user, huser, hid⟩
      rcases store_true hok with ⟨message, hstored⟩
      have hauthor : state.2.author senderId = some user.username := by
        have hnarrow := hrecounts.author user huser (by
          rw [hid]
          exact senderId.toNat_lt)
        rwa [hid, UInt32.ofNat_toNat] at hnarrow
      have hstep : recordStep state
            (.insertMessage senderId body timestamp) =
          ((store state.1 senderId body timestamp).2,
            { state.2 with
              messages := state.2.messages ++
                [⟨user.username, text body, timestamp.toNat⟩] }) := by
        simp [recordStep, Chronicle.record, hok, hauthor, NsDatabase.after]
      rw [hstep]
      generalize (store state.1 senderId body timestamp).2 = after at *
      constructor
      · exact hstored.saved.trans hrecounts.saved
      all_goals simp only [hstored.users]
      · exact hrecounts.author
      · exact hrecounts.known
      · exact hrecounts.names
      · have hsubset : state.1.tables.users ⊆ after.tables.users :=
          hstored.users ▸ List.Subset.refl _
        have hlast : Tells after.tables message
            ⟨user.username, text body, timestamp.toNat⟩ :=
          ⟨hstored.body, hstored.sentAt, user, hsubset huser,
            hid.trans hstored.senderId.symm, rfl⟩
        rw [hstored.messages]
        exact List.rel_append
          (hrecounts.messages.imp fun _ _ htells => htells.mono hsubset)
          (.cons hlast .nil)
      · intro row hrow
        rcases List.mem_append.mp hrow with hold | hnew
        · exact hrecounts.fits row hold
        · rw [List.mem_singleton.mp hnew]
          rcases hrecounts.names user huser with ⟨hlength, htext⟩
          exact ⟨hlength, htext, hshort,
            text_of_zero_notMem (zero_notMem_text body)⟩

theorem Recounts.step (hrecounts : Recounts state) {call : DbCall}
    (hroom : state.1.Roomy) (hfits : call.Fits) :
    Recounts (recordStep state call) := by
  cases call with
  | getOrCreateUser username createdAt =>
      exact hrecounts.lookedUp hroom hfits createdAt
  | insertMessage senderId body timestamp =>
      exact hrecounts.stored hroom senderId hfits timestamp
  | openFile =>
      exact ⟨rfl, hrecounts.author, hrecounts.known, hrecounts.names,
        hrecounts.messages, hrecounts.fits⟩
  | initSchema =>
      exact ⟨hrecounts.saved, hrecounts.author, hrecounts.known,
        hrecounts.names, hrecounts.messages, hrecounts.fits⟩

/-- What is delivered is the end of the chronicle. -/
theorem Recounts.recent (hrecounts : Recounts state) (limit : ℤ) :
    (nsDbRecentMessages state.1 limit).1 = 0 ∧
      (nsDbRecentMessages state.1 limit).2.1 =
        state.2.messages.drop
          (state.2.messages.length - clampLimit limit) := by
  have hjoined : ∀ {messages : List MessageRow}
      {rows : List NsHistoryRow},
      List.Forall₂ (Tells state.1.tables) messages rows →
        messages.flatMap state.1.tables.joinUsers = rows := by
    intro messages rows hforall
    induction hforall with
    | nil => rfl
    | cons htells _ ih =>
        rcases htells.user with ⟨user, huser, hid, hname⟩
        rw [List.flatMap_cons, ih, Tables.joinUsers_eq huser hid, hname,
          htells.body, htells.sentAt]
        rfl
  have hselected : state.1.tables.selectRecent (clampLimit limit) =
      state.2.messages.reverse.take (clampLimit limit) := by
    rw [Tables.selectRecent, Tables.newestFirst_eq]
    congr 1
    exact hjoined (List.rel_reverse hrecounts.messages)
  have hfits : ∀ row ∈ state.2.messages.reverse.take (clampLimit limit),
      row.Fits := by
    intro row hrow
    exact hrecounts.fits row
      (List.mem_reverse.mp (List.mem_of_mem_take hrow))
  refine ⟨rfl, ?_⟩
  simp only [nsDbRecentMessages, hselected]
  rw [historyLoop_eq hfits (by simp), List.take_reverse,
    List.reverse_reverse]

end Steps

theorem recounts_start : Recounts (nsDbOpen none, .empty) := by
  constructor
  · rfl
  · exact fun _ hrow => absurd hrow List.not_mem_nil
  · exact fun _ hentry => absurd hentry List.not_mem_nil
  · exact fun _ hrow => absurd hrow List.not_mem_nil
  · exact .nil
  · exact fun _ hrow => absurd hrow List.not_mem_nil

theorem run_recordStep (calls : List DbCall) (database : NsDatabase)
    (chronicle : Chronicle) :
    (run recordStep (database, chronicle) calls).1 =
      run NsDatabase.after database calls := by
  induction calls generalizing database chronicle with
  | nil => rfl
  | cons call rest ih => exact ih _ _

theorem along_recordStep {calls : List DbCall} {database : NsDatabase}
    (hroom : Along NsDatabase.after (fun database _ => database.Roomy)
      database calls)
    (hfits : ∀ call ∈ calls, call.Fits) (chronicle : Chronicle) :
    Along recordStep (fun state call => state.1.Roomy ∧ call.Fits)
      (database, chronicle) calls := by
  induction calls generalizing database chronicle with
  | nil => trivial
  | cons call rest ih =>
      have hrest : ∀ call ∈ rest, call.Fits := fun other hother =>
        hfits other (List.mem_cons_of_mem _ hother)
      exact ⟨⟨hroom.1, hfits call List.mem_cons_self⟩,
        ih hroom.2 hrest _⟩

theorem clampLimit_eq (limit : ℤ) :
    clampLimit limit = (max 1 (min limit 500)).toNat := by
  unfold clampLimit
  grind

/-- The history is made of the last messages that were accepted, as many as
the limit allows, in the order in which they were accepted. -/
theorem recent_messages_exact (calls : List DbCall)
    (hroom : NeverFull calls) (hfits : ∀ call ∈ calls, call.Fits)
    (limit : ℤ) :
    let messages := (chronicleOf calls).messages
    let count := min messages.length (max 1 (min limit 500)).toNat
    (nsDbRecentMessages (fileAfter calls) limit).1 = 0 ∧
      (nsDbRecentMessages (fileAfter calls) limit).2.1 =
        messages.drop (messages.length - count) := by
  intro messages count
  have hrecounts : Recounts
      (run recordStep (nsDbOpen none, .empty) calls) :=
    run_invariant Recounts
      (fun _ _ hrecounts hguard => hrecounts.step hguard.1 hguard.2)
      recounts_start (along_recordStep hroom hfits _)
  have hrecent := hrecounts.recent limit
  rw [run_recordStep, clampLimit_eq] at hrecent
  have hcount : messages.length - count =
      messages.length - (max 1 (min limit 500)).toNat := by omega
  rw [hcount]
  exact hrecent

/-- "a" and "b" take turns over three messages. -/
def turnCalls : List DbCall :=
  [.getOrCreateUser [97] 0, .getOrCreateUser [98] 0,
    .insertMessage 1 [120] 5, .insertMessage 2 [121] 6,
    .insertMessage 1 [122] 7]

/-- The limit leaves out the first of the messages. -/
theorem recent_messages_exact_example :
    (nsDbRecentMessages (fileAfter turnCalls) 2).2.1 =
      [⟨[98], [121], 6⟩, ⟨[97], [122], 7⟩] := by
  have hroom : NeverFull turnCalls := by
    refine ⟨⟨?_, ?_⟩, ⟨?_, ?_⟩, ⟨?_, ?_⟩, ⟨?_, ?_⟩, ⟨?_, ?_⟩, trivial⟩ <;>
      decide
  have hfits : ∀ call ∈ turnCalls, call.Fits := by
    simp [turnCalls, DbCall.Fits, text]
  have hexact := (recent_messages_exact turnCalls hroom hfits 2).2
  rw [hexact]
  decide

end NodeSignal
