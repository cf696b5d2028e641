import NodeSignal.Attributions
import NodeSignal.Departures
import NodeSignal.RecentMessages
import NodeSignal.ServerRun

/-!
# The history over many runs of the server

A deployment is one database file and the server processes that are started
on it, one after the other.  A process may fail to start, end by itself or be
killed; what is on the file then is what the next one finds.
-/

namespace NodeSignal

open CStrings Runs

/-- What the file holds when the process is gone: SQLite rolls an open
transaction back. -/
def NsDatabase.committed (database : NsDatabase) : Tables :=
  database.saved.getD database.tables

/-- The start reaches the point where the schema is there. -/
def StartAnswers.CreatesSchema (answers : StartAnswers) : Prop :=
  answers.allocated ∧ answers.database.opened = .opened ∧
    answers.database.schema

instance (answers : StartAnswers) : Decidable answers.CreatesSchema :=
  inferInstanceAs (Decidable (_ ∧ _ ∧ _))

/-- One start of the server.  If it is killed from outside in the course of a
turn, some events of that turn have happened. -/
structure ServerProcess where
  port : List UInt8
  clock : Clock
  answers : StartAnswers
  turns : List LoopTurn
  cut : List Event

/-- The file, and what the processes so far have recorded. -/
structure Deployment where
  file : Option Tables
  record : List Obs

def Deployment.start (texts : ErrorTexts) (databasePath : List UInt8)
    (deployment : Deployment) (process : ServerProcess) : Deployment :=
  let result := nsServerRun texts process.port databasePath deployment.file
    process.clock process.answers process.turns
  match result.world with
  | none =>
      if process.answers.CreatesSchema then
        { deployment with file := some (nsSchemaSql deployment.file) }
      else deployment
  | some w =>
      let w :=
        if result.exitCode = none ∧ result.killed = false then
          run World.step w process.cut
        else w
      { file := some w.database.committed
        record := deployment.record ++ w.trace }

/-! ## One process -/

/-- The packet says what the row keeps, under a name of the length that a
name may have. -/
structure ShownBy (tables : Tables) (row : MessageRow) (packet : NsPacket) :
    Prop where
  sender : packet.header.senderId.toNat = row.senderId
  timestamp : packet.header.timestamp.toNat = row.sentAt
  name : ∃ user ∈ tables.users, user.id = row.senderId ∧
    user.username.length ≤ nsUsernameMax ∧ 0 ∉ user.username ∧
    packet.payload = user.username ++ literal ": " ++ row.body
  body : 0 ∉ row.body ∧ row.body.length ≤ nsPacketBodyMax

theorem ShownBy.grow {tables tables' : Tables} {row : MessageRow}
    {packet : NsPacket} (hshown : ShownBy tables row packet)
    (husers : tables.users <+: tables'.users) : ShownBy tables' row packet := by
  obtain ⟨user, huser, hname⟩ := hshown.name
  exact ⟨hshown.sender, hshown.timestamp,
    ⟨user, husers.subset huser, hname⟩, hshown.body⟩

/-- The tables have grown by the messages that the record shows, as long as
the ids fit. -/
structure GrownBy (before after : Tables) (record : List Obs) : Prop where
  users : before.users <+: after.users
  usersSeq : before.usersSeq ≤ after.usersSeq
  messages : ∃ rows, after.messages = before.messages ++ rows ∧
    (after.usersSeq < 2 ^ 32 →
      List.Forall₂ (ShownBy after) rows (textBroadcasts record))

theorem GrownBy.refl (tables : Tables) : GrownBy tables tables [] :=
  ⟨List.prefix_rfl, le_rfl, [], (List.append_nil _).symm, fun _ => .nil⟩

theorem GrownBy.trans {before middle after : Tables}
    {record later : List Obs} (hfirst : GrownBy before middle record)
    (hthen : GrownBy middle after later) :
    GrownBy before after (record ++ later) := by
  obtain ⟨rows, hrows, hshown⟩ := hfirst.messages
  obtain ⟨more, hmore, hlater⟩ := hthen.messages
  refine ⟨hfirst.users.trans hthen.users,
    hfirst.usersSeq.trans hthen.usersSeq, rows ++ more, ?_, ?_⟩
  · rw [hmore, hrows, List.append_assoc]
  · intro hids
    rw [textBroadcasts_append]
    have hearlier := hshown (hthen.usersSeq.trans_lt hids)
    exact List.rel_append
      (hearlier.imp fun row packet h => h.grow hthen.users) (hlater hids)

/-- What holds of every state of a process. -/
structure Told (before : Tables) (w : World) : Prop where
  identified : Identified w
  short : ∀ index,
    (text (w.clients index).username).length ≤ nsUsernameMax
  grown : GrownBy before w.database.tables w.trace

theorem shownBy_of_identified {w : World} (hidentified : Identified w)
    (hids : w.database.tables.usersSeq < 2 ^ 32) {index : SlotIndex}
    (hshort : (text (w.clients index).username).length ≤ nsUsernameMax)
    (hjoined : (w.clients index).joined) {row : MessageRow}
    {timestamp : UInt32} {packet : NsPacket}
    (hsender : row.senderId = (w.clients index).userId.toNat)
    (hbody : 0 ∉ row.body) (hsentAt : row.sentAt = timestamp.toNat)
    (hpacket : nsPacketSet NsPacketType.text.code
      (w.clients index).userId timestamp
      (some (text (w.clients index).username ++ literal ": " ++
        row.body)) = some packet) : ShownBy w.database.tables row packet := by
  have hagrees := agrees_of_identified hidentified hids hjoined hsender hbody
    hsentAt hpacket
  obtain ⟨-, -, -, -, hlen, hpayload, -⟩ := nsPacketSet_eq_some hpacket
  obtain ⟨user, huser, hid, hshows⟩ := hagrees.body
  have hzero : 0 ∉ text (w.clients index).username ++ literal ": " ++
      row.body := by
    simp only [List.mem_append, not_or]
    exact ⟨⟨zero_notMem_text _, by decide⟩, hbody⟩
  rw [Option.getD_some, text_of_zero_notMem hzero] at hpayload
  have hname : user.username = text (w.clients index).username := by
    have hsame := hshows.symm.trans hpayload
    exact List.append_cancel_right (List.append_cancel_right hsame)
  have hfits : row.body.length ≤ packet.payload.length := by
    rw [hpayload, List.length_append]
    omega
  rw [NsPacket.payload_length hlen] at hfits
  refine ⟨hagrees.sender, hagrees.timestamp, ⟨user, huser, hid, ?_, ?_,
    hshows⟩, hbody, hfits.trans hlen⟩
  · rw [hname]
    exact hshort
  · rw [hname]
    exact zero_notMem_text _

theorem Move.told {allow : World → NsSocket → Prop} {w w' : World}
    (hmove : Move allow w w') (hsettled : Settled w) {before : Tables}
    (htold : Told before w) : Told before w' := by
  obtain ⟨husers, hseq⟩ := hmove.users
  refine ⟨hmove.identified hsettled htold.identified,
    hmove.lasting lasting_short htold.short, ?_⟩
  obtain ⟨hgrown, hless, rows, hrows, hshown⟩ := htold.grown
  have hkept : w'.database.tables.usersSeq < 2 ^ 32 →
      List.Forall₂ (ShownBy w'.database.tables) rows
        (textBroadcasts w.trace) := by
    intro hids
    exact (hshown (hseq.trans_lt hids)).imp
      fun row packet h => h.grow husers
  refine ⟨hgrown.trans husers, hless.trans hseq, ?_⟩
  cases hmove.records with
  | notices packets hmessages hlog htype =>
      refine ⟨rows, hmessages.trans hrows, ?_⟩
      rw [textBroadcasts_of_notices hlog htype]
      exact hkept
  | text index row timestamp packet hjoined hmessages hlog hsender hbody
      hsentAt hpacket =>
      have htext : textBroadcasts w'.trace =
          textBroadcasts w.trace ++ [packet] := by
        rw [textBroadcasts, hlog, List.filter_append]
        simp [textBroadcasts, (nsPacketSet_eq_some hpacket).2.1]
      refine ⟨rows ++ [row], ?_, ?_⟩
      · rw [hmessages, hrows, List.append_assoc]
      · intro hids
        have hlast := shownBy_of_identified htold.identified
          (hseq.trans_lt hids) (htold.short index) hjoined hsender hbody
          hsentAt hpacket
        rw [htext]
        exact List.rel_append (hkept hids)
          (.cons (hlast.grow husers) .nil)

theorem told_run (tables : Tables) (listenSocket : NsSocket)
    (errno : Errno) (clock : Clock) (events : List Event) :
    Told tables (run World.step
      (World.boot tables listenSocket errno clock) events) := by
  have hshort : ∀ index, (text ((World.boot tables listenSocket errno
      clock).clients index).username).length ≤ nsUsernameMax :=
    fun _ => lasting_short.reset
  exact run_boot_invariant
    (fun _ _ hsettled htold hmove => hmove.told hsettled htold)
    ⟨identified_boot tables listenSocket errno clock, hshort, .refl _⟩ events

/-- What a process leaves, however it ends. -/
theorem start_grown (texts : ErrorTexts) (databasePath : List UInt8)
    (deployment : Deployment) (process : ServerProcess) :
    ∃ later, (deployment.start texts databasePath process).record =
        deployment.record ++ later ∧
      GrownBy (nsSchemaSql deployment.file)
        (nsSchemaSql (deployment.start texts databasePath process).file)
        later := by
  obtain ⟨errno, horderly⟩ := nsServerRun_orderly texts process.port
    databasePath deployment.file process.clock process.answers process.turns
  unfold Deployment.start
  dsimp only
  generalize nsServerRun texts process.port databasePath deployment.file
    process.clock process.answers process.turns = result at horderly ⊢
  cases hworld : result.world with
  | none =>
      dsimp only
      refine ⟨[], ?_, ?_⟩
      · split_ifs <;> exact (List.append_nil _).symm
      · split_ifs <;> exact .refl _
  | some w =>
      obtain ⟨passes, events, hpasses, -⟩ := horderly.served w hworld
      have hreached : Reaches (World.boot (nsSchemaSql deployment.file)
            result.listenSocket errno process.clock)
          (if result.exitCode = none ∧ result.killed = false then
            run World.step w process.cut else w) := by
        have hlooped : Reaches (World.boot (nsSchemaSql deployment.file)
            result.listenSocket errno process.clock) w :=
          (reaches_foldl reaches_nsServerRunPass _ passes).trans
            ⟨events, hpasses⟩
        split_ifs
        · exact hlooped.trans ⟨process.cut, rfl⟩
        · exact hlooped
      obtain ⟨events, heq⟩ := hreached
      refine ⟨_, rfl, ?_⟩
      dsimp only
      rw [heq]
      have hsettled := settled_run (nsSchemaSql deployment.file)
        result.listenSocket errno process.clock events
      have htold := told_run (nsSchemaSql deployment.file)
        result.listenSocket errno process.clock events
      change GrownBy _ (NsDatabase.committed _) _
      rw [NsDatabase.committed, hsettled.saved]
      exact htold.grown

theorem run_grown (texts : ErrorTexts) (databasePath : List UInt8)
    (deployment : Deployment) (processes : List ServerProcess) :
    ∃ later, (run (Deployment.start texts databasePath) deployment
        processes).record = deployment.record ++ later ∧
      GrownBy (nsSchemaSql deployment.file)
        (nsSchemaSql (run (Deployment.start texts databasePath) deployment
          processes).file) later := by
  induction processes generalizing deployment with
  | nil => exact ⟨[], (List.append_nil _).symm, .refl _⟩
  | cons process rest ih =>
      obtain ⟨first, hfirst, hgrown⟩ :=
        start_grown texts databasePath deployment process
      obtain ⟨later, hlater, hrest⟩ :=
        ih (deployment.start texts databasePath process)
      refine ⟨first ++ later, ?_, hgrown.trans hrest⟩
      rw [run_cons, hlater, hfirst, List.append_assoc]

/-! ## What the history query delivers -/

/-- What the query joins to a message. -/
def Tables.historyRow (tables : Tables) (message : MessageRow) :
    NsHistoryRow :=
  (tables.joinUsers message).headD ⟨[], message.body, message.sentAt⟩

theorem Tables.joinUsers_eq_historyRow {tables : Tables}
    {message : MessageRow} (hmem : message ∈ tables.messages) :
    tables.joinUsers message = [tables.historyRow message] := by
  obtain ⟨user, huser, hid⟩ := tables.messages_sender message hmem
  unfold historyRow
  rw [joinUsers_eq huser hid, List.headD_cons]

theorem Tables.selectRecent_eq (tables : Tables) (limit : ℕ) :
    tables.selectRecent limit =
      (tables.messages.reverse.take limit).map tables.historyRow := by
  have hjoined : ∀ messages : List MessageRow,
      messages ⊆ tables.messages →
        messages.flatMap tables.joinUsers =
          messages.map tables.historyRow := by
    intro messages hsubset
    rw [List.map_eq_flatMap]
    apply List.flatMap_congr
    intro message hmem
    exact joinUsers_eq_historyRow (hsubset hmem)
  unfold selectRecent
  rw [newestFirst_eq, hjoined _ (List.reverse_subset.mpr (List.Subset.refl _)),
    List.map_take]

theorem historyLoop_stored {limit : ℕ} {rows : List NsHistoryRow}
    {count : ℕ} (hfits : count + rows.length ≤ limit) :
    (historyLoop limit rows count).1 = rows.map NsHistoryRow.stored := by
  induction rows generalizing count with
  | nil => rfl
  | cons row rest ih =>
      rw [List.length_cons] at hfits
      have hmore : count < limit := by omega
      simp only [historyLoop, if_pos hmore, List.map_cons]
      rw [ih (by omega)]

/-- The newest messages in the order in which they were stored, as the
arrays hold them. -/
theorem nsDbRecentMessages_rows (database : NsDatabase) (limit : ℤ) :
    (nsDbRecentMessages database limit).2.1 =
      (database.tables.messages.drop
        (database.tables.messages.length - clampLimit limit)).map
          fun message => (database.tables.historyRow message).stored := by
  have hlength : 0 + (database.tables.selectRecent
      (clampLimit limit)).length ≤ clampLimit limit := by
    rw [Tables.selectRecent_eq]
    simp
  unfold nsDbRecentMessages
  dsimp only
  rw [historyLoop_stored hlength, Tables.selectRecent_eq, List.map_map,
    ← List.map_reverse, List.take_reverse, List.reverse_reverse]
  rfl

/-- A row of the history is what the packet showed. -/
structure Displays (row : NsHistoryRow) (packet : NsPacket) : Prop where
  sentAt : packet.header.timestamp.toNat = row.sentAt
  line : packet.payload = row.username ++ literal ": " ++ row.body

theorem ShownBy.displays {tables : Tables} {row : MessageRow}
    {packet : NsPacket} (hshown : ShownBy tables row packet) :
    Displays (tables.historyRow row).stored packet := by
  obtain ⟨user, huser, hid, hshort, hzero, hline⟩ := hshown.name
  have hrow : tables.historyRow row =
      ⟨user.username, row.body, row.sentAt⟩ := by
    unfold Tables.historyRow
    rw [Tables.joinUsers_eq huser hid, List.headD_cons]
  have hfits : (tables.historyRow row).Fits := by
    rw [hrow]
    refine ⟨?_, text_of_zero_notMem hzero, ?_,
      text_of_zero_notMem hshown.body.1⟩
    · exact hshort.trans (by decide)
    · exact hshown.body.2.trans (by decide)
  rw [hfits.stored, hrow]
  exact ⟨hshown.timestamp, hline⟩

/-- The end of a history that continues another. -/
theorem drop_drop_append {α : Type*} (before rows : List α) (limit : ℕ) :
    ((before ++ rows).drop ((before ++ rows).length - limit)).drop
        (((before ++ rows).drop
          ((before ++ rows).length - limit)).length - rows.length) =
      rows.drop (rows.length - limit) := by
  rw [List.drop_drop, List.length_drop, List.length_append]
  have hindex : before.length + rows.length - limit +
        (before.length + rows.length -
          (before.length + rows.length - limit) - rows.length) =
      before.length + (rows.length - limit) := by omega
  rw [hindex, ← List.drop_drop, List.drop_left]

/-! ## Many processes -/

/-- What the file holds after some processes, against what they have
broadcast. -/
structure HistoryKept (before after : Tables) (record : List Obs)
    (limit : ℤ) (recent : ℤ × List NsHistoryRow) : Prop where
  users : before.users <+: after.users
  stored : ∃ rows, after.messages = before.messages ++ rows ∧
    List.Forall₂ (ShownBy after) rows (textBroadcasts record)
  delivered : recent.1 = 0
  recent : List.Forall₂ Displays
    (recent.2.drop (recent.2.length - (textBroadcasts record).length))
    ((textBroadcasts record).drop
      ((textBroadcasts record).length - clampLimit limit))

theorem GrownBy.kept {before after : Tables} {record : List Obs}
    (hgrown : GrownBy before after record)
    (hids : after.usersSeq < 2 ^ 32) (limit : ℤ) :
    let result := nsDbRecentMessages (nsDbOpen (some after)) limit
    HistoryKept before after record limit (result.1, result.2.1) := by
  obtain ⟨rows, hrows, hshown⟩ := hgrown.messages
  have hall := hshown hids
  refine ⟨hgrown.users, ⟨rows, hrows, hall⟩, rfl, ?_⟩
  have hrecent := nsDbRecentMessages_rows (nsDbOpen (some after)) limit
  have htables : (nsDbOpen (some after)).tables = after := rfl
  rw [htables, hrows] at hrecent
  dsimp only
  rw [hrecent, List.length_map, ← List.map_drop, ← hall.length_eq,
    drop_drop_append, List.forall₂_map_left_iff]
  exact List.forall₂_drop _ (hall.imp fun _ _ h => h.displays)

/-- However the server is started, ended or killed on one file, the messages
of the file are those that were there and after them the TEXT packets that
the processes have broadcast, and the history query delivers the last of
them. -/
theorem history_survives_restarts (texts : ErrorTexts)
    (databasePath : List UInt8) (file : Option Tables)
    (processes : List ServerProcess) (limit : ℤ)
    (hids : (nsSchemaSql (run (Deployment.start texts databasePath)
      ⟨file, []⟩ processes).file).usersSeq < 2 ^ 32) :
    let after := run (Deployment.start texts databasePath) ⟨file, []⟩
      processes
    let result := nsDbRecentMessages (nsDbOpen after.file) limit
    HistoryKept (nsSchemaSql file) (nsSchemaSql after.file) after.record
      limit (result.1, result.2.1) := by
  obtain ⟨later, hlater, hgrown⟩ :=
    run_grown texts databasePath ⟨file, []⟩ processes
  rw [List.nil_append] at hlater
  dsimp only
  rw [hlater]
  exact hgrown.kept hids limit

/-- An address on which everything works. -/
def exampleAddress : Addrinfo where
  aiFamily := .inet
  aiAddr := []
  socketFd := 3
  socketErrno := .eagain
  failure := fun _ => none
  closeFailure := none

/-- A process in which one client joins under the given letter and says "x",
killed in its first turn. -/
def exampleProcess (letter : UInt8) : ServerProcess where
  port := literal "5555"
  clock := fun _ => 0
  answers :=
    { allocated := true
      database := ⟨.opened, true, fun _ => true⟩
      schema := .done
      lookup := fun _ => .ok [exampleAddress]
      errno := .eagain }
  turns := []
  cut := chatEvents letter

def exampleProcesses : List ServerProcess :=
  [exampleProcess 97, exampleProcess 98]

def exampleTexts : ErrorTexts := ⟨fun _ => [], fun _ => []⟩

set_option maxRecDepth 100000 in
theorem history_survives_restarts_example :
    let after := run (Deployment.start exampleTexts []) ⟨none, []⟩
      exampleProcesses
    let result := nsDbRecentMessages (nsDbOpen after.file) 50
    HistoryKept (nsSchemaSql none) (nsSchemaSql after.file) after.record
      50 (result.1, result.2.1) :=
  history_survives_restarts exampleTexts [] none exampleProcesses 50
    (by decide +kernel)

end NodeSignal
