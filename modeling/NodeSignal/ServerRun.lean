import NodeSignal.Addresses
import NodeSignal.BrokenPipes
import NodeSignal.DatabaseCalls
import NodeSignal.DatabaseHandles
import NodeSignal.ExecutableDir
import NodeSignal.Lifecycles

/-!
# A run of the server process

`ns_server_run` from the allocation of its state to its exit code: the start,
which may fail at four places, the loop, which a signal or a failing `poll()`
ends, and what is given back.  A broken pipe kills the process in the middle
of a pass, and then it gives back nothing itself.  The ledger of a run lists
what the process acquires and releases, in order.
-/

namespace NodeSignal

open CStrings Ledgers Runs

inductive Resource where
  /-- The `NsServerState` on the heap. -/
  | state
  | database (resource : DbResource)
  | net (resource : NetResource)
  /-- The socket of a client, by the number of its connection. -/
  | client (connection : ℕ)
  deriving DecidableEq

/-- The state is what points to the database and to the listening socket. -/
inductive Resource.Needs : Resource → Resource → Prop
  | stored (resource : DbResource) : Needs (.database resource) .state
  | listening (socketFd : NsSocket) : Needs (.net (.socket socketFd)) .state
  | inside {resource other : DbResource}
      (hneeds : DbResource.Needs resource other) :
      Needs (.database resource) (.database other)

def databaseEntries (entries : List (Entry DbResource)) :
    List (Entry Resource) :=
  entries.map (Entry.map .database)

def socketEntries (calls : List NetCall) : List (Entry Resource) :=
  (netEntries calls).map (Entry.map .net)

/-- Where the record of the loop says that a socket is opened or closed. -/
def Obs.entry : Obs → Option (Entry ℕ)
  | .accepted connection _ => some (.acquired connection)
  | .closed connection _ => some (.released connection)
  | _ => none

def connectionEntries (trace : List Obs) : List (Entry ℕ) :=
  trace.filterMap Obs.entry

def clientEntries (trace : List Obs) : List (Entry Resource) :=
  (connectionEntries trace).map (Entry.map .client)

/-! ## The loop -/

/-- What a turn of the loop finds: `ns_server_shutdown_requested` before
`poll()`, or how `poll()` returns. -/
inductive LoopTurn where
  | requested
  | pollFailed (errno : Errno) (requested : Bool)
  | ready (calls : PassCalls)

inductive LoopEnd where
  | running
  | shutDown
  | pollFailed (errno : Errno)
  | killed

/-- The loop of `ns_server_run` for as many turns as are given.  The state of
a process that is killed is the one in which the event began that killed
it. -/
def serverLoop : List LoopTurn → World → LoopEnd × World
  | [], w => (.running, w)
  | .requested :: _, w => (.shutDown, w)
  | .pollFailed errno requested :: _, w =>
      (if requested then .shutDown else .pollFailed errno, w)
  | .ready calls :: rest, w =>
      match Process.pass w calls with
      | .running after => serverLoop rest after
      | .killed after => (.killed, after)

/-! ## The process -/

/-- What the calls of the start return, with `errno` before the first call on
a socket. -/
structure StartAnswers where
  allocated : Bool
  database : OpenAnswers
  schema : ExecAnswer
  lookup : AddressQuery → Except ℤ (List Addrinfo)
  errno : Errno

def exitSuccess : ℤ := 0

def exitFailure : ℤ := 1

/-- How far a run has come.  There is no exit code while the loop goes on or
if the process is killed, and no world if the loop is not reached; the
diagnosis is what is printed for a failure. -/
structure ServerRun where
  exitCode : Option ℤ
  killed : Bool
  diagnosis : Option (List UInt8)
  entries : List (Entry Resource)
  listenSocket : NsSocket
  world : Option World

/-- A start that fails. -/
def ServerRun.aborted (diagnosis : List (List UInt8))
    (entries : List (Entry Resource)) : ServerRun :=
  ⟨some exitFailure, false, some diagnosis.flatten, entries, nsInvalidSocket,
    none⟩

/-- The part of `ns_server_run` that follows a start which succeeds, from the
world in which the loop begins.  `listening` is what `ns_listen_tcp` left,
the buffer for error texts included. -/
def ServerRun.started (texts : ErrorTexts) (database : NsDatabaseHandles)
    (listening : NsSocket × List UInt8 × NetRun)
    (entries : List (Entry Resource)) (w : World) (turns : List LoopTurn) :
    ServerRun :=
  let looped := serverLoop turns w
  let entries := entries ++ clientEntries looped.2.trace
  let freed := .released (.net (.socket listening.1)) ::
    (databaseEntries (nsDbClose database).2 ++ [.released .state])
  match looped.1 with
  | .running => ⟨none, false, none, entries, listening.1, some looped.2⟩
  | .shutDown =>
      ⟨some exitSuccess, false, none, entries ++ freed, listening.1,
        some looped.2⟩
  | .pollFailed errno =>
      let errorBuffer := nsLastErrorString texts errno listening.2.1
      ⟨some exitFailure, false, some [literal "poll() failed: ",
        text errorBuffer, literal "\n"].flatten, entries ++ freed,
        listening.1, some looped.2⟩
  | .killed => ⟨none, true, none, entries, listening.1, some looped.2⟩

/-- `ns_server_run` on a database file with the given tables.  The buffer for
error texts is not read before it is written. -/
def nsServerRun (texts : ErrorTexts) (port databasePath : List UInt8)
    (file : Option Tables) (clock : Clock) (answers : StartAnswers)
    (turns : List LoopTurn) : ServerRun :=
  if ¬ answers.allocated then
    .aborted [literal "Out of memory: cannot allocate server state.\n"] []
  else
    let opened := nsDbOpenHandles answers.database
    let entries := .acquired .state :: databaseEntries opened.2.2
    let freed : List (Entry Resource) := [.released .state]
    if opened.1 ≠ 0 then
      .aborted [literal "Unable to open database '", text databasePath,
        literal "'.\n"] (entries ++ freed)
    else
      let schema := nsDbInitSchemaCalls opened.2.1 answers.schema
      let entries := entries ++ databaseEntries schema.2
      let freed := databaseEntries (nsDbClose opened.2.1).2 ++ freed
      if schema.1 ≠ 0 then
        .aborted [literal "Unable to initialize database schema.\n"]
          (entries ++ freed)
      else
        let listening := nsListenTcp texts answers.lookup port 16
          (padded 256 []) ⟨answers.errno, []⟩
        let entries := entries ++ socketEntries listening.2.2.calls
        if ¬ nsSocketIsValid listening.1 then
          .aborted [literal "Unable to start server on port ", text port,
            literal ": ", text listening.2.1, literal "\n"]
            (entries ++ freed)
        else
          .started texts opened.2.1 listening entries
            (World.boot (nsDbInitSchema (nsDbOpen file)).tables listening.1
              listening.2.2.errno clock) turns

/-- The `main` of the server, for the arguments after the program's name.
The files are the databases by their paths. -/
def serverMain (texts : ErrorTexts) (executable : List UInt8)
    (arguments : List (List UInt8)) (files : List UInt8 → Option Tables)
    (clock : Clock) (answers : StartAnswers) (turns : List LoopTurn) :
    ServerRun :=
  let port := (arguments[0]?).getD (literal "5555")
  let databasePath := (arguments[1]?).getD
    (defaultDatabasePath executable (padded 1024 []))
  nsServerRun texts port databasePath (files (text databasePath)) clock
    answers turns

/-! ## What is held -/

/-- The state, and what is held besides. -/
def holding (databases : Set DbResource) (sockets : Set NetResource)
    (clients : Set ℕ) : Set Resource := fun resource =>
  match resource with
  | .state => True
  | .database resource => resource ∈ databases
  | .net resource => resource ∈ sockets
  | .client connection => connection ∈ clients

section Holding

variable {databases databases' : Set DbResource}
  {sockets sockets' : Set NetResource} {clients clients' : Set ℕ}

@[simp] theorem state_mem_holding :
    Resource.state ∈ holding databases sockets clients := trivial

@[simp] theorem database_mem_holding {resource : DbResource} :
    Resource.database resource ∈ holding databases sockets clients ↔
      resource ∈ databases := Iff.rfl

@[simp] theorem net_mem_holding {resource : NetResource} :
    Resource.net resource ∈ holding databases sockets clients ↔
      resource ∈ sockets := Iff.rfl

@[simp] theorem client_mem_holding {connection : ℕ} :
    Resource.client connection ∈ holding databases sockets clients ↔
      connection ∈ clients := Iff.rfl

theorem databaseEntries_accounts {entries : List (Entry DbResource)}
    (haccounts : Accounts DbResource.Needs databases entries databases') :
    Accounts Resource.Needs (holding databases sockets clients)
      (databaseEntries entries) (holding databases' sockets clients) := by
  have hsplit : ∀ set : Set DbResource, holding set sockets clients =
      Resource.database '' set ∪ holding ∅ sockets clients := by
    intro set
    ext resource
    cases resource <;> simp
  rw [hsplit databases, hsplit databases']
  refine haccounts.embed (fun _ _ heq => by injection heq) (by simp) ?_ ?_
  · intro resource other hneeds
    cases hneeds with
    | stored => exact Or.inr trivial
    | inside hneeds => exact Or.inl ⟨_, hneeds, rfl⟩
  · intro resource other hneeds
    cases hneeds with
    | inside hneeds => exact ⟨_, hneeds, rfl⟩

theorem socketEntries_accounts {calls : List NetCall}
    (haccounts : Accounts NetResource.Needs sockets (netEntries calls)
      sockets') :
    Accounts Resource.Needs (holding databases sockets clients)
      (socketEntries calls) (holding databases sockets' clients) := by
  have hsplit : ∀ set : Set NetResource, holding databases set clients =
      Resource.net '' set ∪ holding databases ∅ clients := by
    intro set
    ext resource
    cases resource <;> simp
  rw [hsplit sockets, hsplit sockets']
  refine haccounts.embed (fun _ _ heq => by injection heq) (by simp) ?_ ?_
  · intro resource other hneeds
    cases hneeds with
    | listening => exact Or.inr trivial
  · intro resource other hneeds
    cases hneeds

theorem clientEntries_accounts {trace : List Obs}
    {needs : ℕ → ℕ → Prop}
    (haccounts : Accounts needs clients (connectionEntries trace)
      clients') :
    Accounts Resource.Needs (holding databases sockets clients)
      (clientEntries trace) (holding databases sockets clients') := by
  have hsplit : ∀ set : Set ℕ, holding databases sockets set =
      Resource.client '' set ∪ holding databases sockets ∅ := by
    intro set
    ext resource
    cases resource <;> simp
  rw [hsplit clients, hsplit clients']
  refine haccounts.embed (fun _ _ heq => by injection heq) (by simp) ?_ ?_
  · intro connection other hneeds
    cases hneeds
  · intro connection other hneeds
    cases hneeds

theorem accounts_allocated : Accounts Resource.Needs ∅ [.acquired .state]
    (holding ∅ ∅ ∅) := by
  have hheld : holding ∅ ∅ ∅ = insert Resource.state ∅ := by
    ext resource
    cases resource <;> simp
  rw [hheld]
  refine .acquired (Set.notMem_empty _) ?_
  intro other hneeds
  cases hneeds

theorem accounts_freed : Accounts Resource.Needs (holding ∅ ∅ clients)
    [.released .state] (Resource.client '' clients) := by
  have hleft : Resource.client '' clients =
      holding ∅ ∅ clients \ {.state} := by
    ext resource
    cases resource <;> simp
  rw [hleft]
  refine .released trivial ?_
  intro other hother hneeds
  cases hneeds with
  | stored => exact hother
  | listening => exact hother

end Holding

/-! ## The connections -/

theorem entriesOf_connectionEntries (connection : ℕ) (trace : List Obs) :
    entriesOf connection (connectionEntries trace) =
      connectionEntries (about connection trace) := by
  unfold entriesOf connectionEntries about
  rw [List.filter_filterMap, List.filterMap_filter]
  congr 1
  funext obs
  cases obs with
  | accepted other socketFd =>
      by_cases hsame : other = connection <;>
        simp [Obs.entry, Obs.subject, Option.filter, Entry.resource, hsame]
  | closed other socketFd =>
      by_cases hsame : other = connection <;>
        simp [Obs.entry, Obs.subject, Option.filter, Entry.resource, hsame]
  | _ => simp [Obs.entry]

/-- What a stage of a connection has entered. -/
def Stage.entries (connection : ℕ) : Stage → List (Entry ℕ)
  | .unknown => []
  | .serving _ => [.acquired connection]
  | .parting _ => [.acquired connection]
  | .over => [.acquired connection, .released connection]

theorem Life.entries {connection : ℕ} {stage : Stage} {notes : List Obs}
    (hlife : Life connection stage notes) :
    connectionEntries notes = stage.entries connection := by
  unfold connectionEntries
  induction hlife with
  | unknown => rfl
  | accepted socketFd => rfl
  | @worked socketFd notes obs hlife hwork ih =>
      have hnone : obs.entry = none := by
        cases obs with
        | accepted => exact hwork.elim
        | closed => exact hwork.elim
        | _ => rfl
      rw [List.filterMap_append, ih, List.filterMap_cons_none hnone]
      rfl
  | parted hlife ih =>
      rw [List.filterMap_append, ih]
      rfl
  | closed hlife ih =>
      rw [List.filterMap_append, ih]
      rfl
  | expelled packet hlife ih =>
      rw [List.filterMap_append, ih]
      rfl
  | refused socketFd bytes => rfl

/-- The connections whose clients are in a slot. -/
def World.inSlots (w : World) : Set ℕ :=
  {connection | ∃ index, (w.clients index).active ∧
    w.connection index = connection}

theorem Lived.entries {w : World} (hlived : Lived none w)
    (connection : ℕ) :
    entriesOf connection (connectionEntries w.trace) =
        [.acquired connection] ∧ connection ∈ w.inSlots ∨
      (entriesOf connection (connectionEntries w.trace) = [] ∨
        entriesOf connection (connectionEntries w.trace) =
          [.acquired connection, .released connection]) ∧
        connection ∉ w.inSlots := by
  rw [entriesOf_connectionEntries]
  by_cases hhere : connection ∈ w.inSlots
  · obtain ⟨index, hactive, rfl⟩ := hhere
    left
    have hlife := hlived.present index hactive
    exact ⟨hlife.entries, index, hactive, rfl⟩
  · right
    refine ⟨?_, hhere⟩
    by_cases hlt : connection < w.connections
    · right
      refine (hlived.ended connection hlt ?_).entries
      exact fun index hactive heq => hhere ⟨index, hactive, heq⟩
    · left
      rw [hlived.fresh connection (not_lt.mp hlt)]
      rfl

/-- The sockets that are open are those of the clients in slots. -/
theorem Lived.accounts {w : World} (hlived : Lived none w) :
    Accounts (fun _ _ => False) ∅ (connectionEntries w.trace) w.inSlots := by
  have haccounts : Accounts (fun _ _ => False) ∅ (connectionEntries w.trace)
      {connection | entriesOf connection (connectionEntries w.trace) =
        [.acquired connection]} := by
    apply accounts_of_livesOnce
    · exact fun _ _ _ => ⟨id, id⟩
    · intro connection
      obtain ⟨hentries, -⟩ | ⟨hnone | htwo, -⟩ := hlived.entries connection
      · exact Or.inr (Or.inl hentries)
      · exact Or.inl hnone
      · exact Or.inr (Or.inr htwo)
  have hopen : {connection | entriesOf connection
      (connectionEntries w.trace) = [.acquired connection]} =
      w.inSlots := by
    ext connection
    rw [Set.mem_ofPred_eq]
    obtain ⟨hentries, hhere⟩ | ⟨hentries, hgone⟩ :=
      hlived.entries connection
    · exact ⟨fun _ => hhere, fun _ => hentries⟩
    · refine ⟨fun hone => ?_, fun hmem => absurd hmem hgone⟩
      rw [hone] at hentries
      simp at hentries
  rwa [hopen] at haccounts

/-! ## The loop and its end -/

/-- How a turn ends the loop. -/
def LoopTurn.stops (w : World) : LoopTurn → Option LoopEnd
  | .requested => some .shutDown
  | .pollFailed errno asked =>
      some (if asked then .shutDown else .pollFailed errno)
  | .ready calls =>
      match Process.pass w calls with
      | .running _ => none
      | .killed _ => some .killed

/-- None of the passes is cut short. -/
def Unbroken (w : World) (passes : List PassCalls) : Prop :=
  Along nsServerRunPass
    (fun w calls => Process.pass w calls = .running (nsServerRunPass w calls))
    w passes

def GoesOn (boot : World) (turns : List LoopTurn) : Prop :=
  ∃ passes, turns = passes.map .ready ∧ Unbroken boot passes

/-- After some passes a turn ends the loop. -/
def EndsBy (boot : World) (turns : List LoopTurn) (loopEnd : LoopEnd) :
    Prop :=
  ∃ passes turn rest, turns = passes.map .ready ++ turn :: rest ∧
    Unbroken boot passes ∧
    turn.stops (run nsServerRunPass boot passes) = some loopEnd

section Looping

variable {w : World} {turns rest : List LoopTurn} {calls : PassCalls}
  {loopEnd : LoopEnd}

theorem LoopTurn.stops_ne_running (w : World) (turn : LoopTurn) :
    turn.stops w ≠ some .running := by
  cases turn with
  | requested => simp [stops]
  | pollFailed errno asked => cases asked <;> simp [stops]
  | ready calls => cases hpass : Process.pass w calls <;> simp [stops, hpass]

theorem goesOn_ready :
    GoesOn w (.ready calls :: rest) ↔
      Process.pass w calls = .running (nsServerRunPass w calls) ∧
        GoesOn (nsServerRunPass w calls) rest := by
  constructor
  · rintro ⟨passes, hturns, hunbroken⟩
    cases passes with
    | nil => exact absurd hturns (by simp)
    | cons first passes =>
        simp only [List.map_cons, List.cons.injEq, LoopTurn.ready.injEq]
          at hturns
        obtain ⟨rfl, hrest⟩ := hturns
        exact ⟨hunbroken.1, passes, hrest, hunbroken.2⟩
  · rintro ⟨hpass, passes, rfl, hunbroken⟩
    exact ⟨calls :: passes, rfl, hpass, hunbroken⟩

theorem not_goesOn {turn : LoopTurn} (hstops : turn.stops w = some loopEnd) :
    ¬ GoesOn w (turn :: rest) := by
  rintro ⟨passes, hturns, hunbroken⟩
  cases passes with
  | nil => exact absurd hturns (by simp)
  | cons first passes =>
      obtain ⟨rfl, -⟩ := List.cons.inj hturns
      rw [LoopTurn.stops, hunbroken.1] at hstops
      cases hstops

theorem endsBy_ready
    (hpass : Process.pass w calls = .running (nsServerRunPass w calls)) :
    EndsBy w (.ready calls :: rest) loopEnd ↔
      EndsBy (nsServerRunPass w calls) rest loopEnd := by
  constructor
  · rintro ⟨passes, turn, later, hturns, hunbroken, hstops⟩
    cases passes with
    | nil =>
        obtain ⟨rfl, -⟩ := List.cons.inj hturns
        rw [run_nil, LoopTurn.stops, hpass] at hstops
        cases hstops
    | cons first passes =>
        simp only [List.map_cons, List.cons_append, List.cons.injEq,
          LoopTurn.ready.injEq] at hturns
        obtain ⟨rfl, hrest⟩ := hturns
        exact ⟨passes, turn, later, hrest, hunbroken.2, hstops⟩
  · rintro ⟨passes, turn, later, rfl, hunbroken, hstops⟩
    exact ⟨calls :: passes, turn, later, rfl, ⟨hpass, hunbroken⟩, hstops⟩

theorem endsBy_of_stops {turn : LoopTurn} {stopped : LoopEnd}
    (hstops : turn.stops w = some stopped) :
    EndsBy w (turn :: rest) loopEnd ↔ stopped = loopEnd := by
  constructor
  · rintro ⟨passes, turn', later, hturns, hunbroken, hstops'⟩
    cases passes with
    | nil =>
        obtain ⟨rfl, -⟩ := List.cons.inj hturns
        exact Option.some.inj (hstops.symm.trans hstops')
    | cons first passes =>
        obtain ⟨rfl, -⟩ := List.cons.inj hturns
        rw [LoopTurn.stops, hunbroken.1] at hstops
        cases hstops
  · rintro rfl
    exact ⟨[], turn, rest, rfl, trivial, hstops⟩

theorem serverLoop_stops {turn : LoopTurn}
    (hstops : turn.stops w = some loopEnd) :
    (serverLoop (turn :: rest) w).1 = loopEnd := by
  cases turn with
  | requested => exact Option.some.inj hstops
  | pollFailed errno asked => exact Option.some.inj hstops
  | ready calls =>
      cases hpass : Process.pass w calls with
      | running after =>
          rw [LoopTurn.stops, hpass] at hstops
          cases hstops
      | killed after =>
          rw [LoopTurn.stops, hpass] at hstops
          rw [serverLoop, hpass]
          exact Option.some.inj hstops

/-- The loop goes on as long as no turn ends it. -/
theorem serverLoop_fst (turns : List LoopTurn) (w : World) :
    ((serverLoop turns w).1 = .running ↔ GoesOn w turns) ∧
      ∀ loopEnd, loopEnd ≠ .running →
        ((serverLoop turns w).1 = loopEnd ↔ EndsBy w turns loopEnd) := by
  induction turns generalizing w with
  | nil =>
      refine ⟨⟨fun _ => ⟨[], rfl, trivial⟩, fun _ => rfl⟩, ?_⟩
      intro loopEnd hstops
      refine ⟨fun hend => absurd hend.symm hstops, ?_⟩
      rintro ⟨passes, turn, rest, hturns, -⟩
      exact absurd hturns (by simp)
  | cons turn rest ih =>
      cases hstops : turn.stops w with
      | some stopped =>
          rw [serverLoop_stops hstops]
          constructor
          · refine ⟨fun hrunning => ?_, fun hgoes => ?_⟩
            · exact absurd (hstops.trans (congrArg some hrunning))
                (turn.stops_ne_running w)
            · exact absurd hgoes (not_goesOn hstops)
          · exact fun loopEnd _ => (endsBy_of_stops hstops).symm
      | none =>
          cases turn with
          | requested => cases hstops
          | pollFailed errno asked => cases hstops
          | ready calls =>
              cases hpass : Process.pass w calls with
              | killed after =>
                  rw [LoopTurn.stops, hpass] at hstops
                  cases hstops
              | running after =>
                  obtain rfl := pass_running hpass
                  have hloop : serverLoop (.ready calls :: rest) w =
                      serverLoop rest (nsServerRunPass w calls) := by
                    rw [serverLoop, hpass]
                  rw [hloop, goesOn_ready, and_iff_right hpass]
                  refine ⟨(ih _).1, fun loopEnd hne => ?_⟩
                  rw [endsBy_ready hpass]
                  exact (ih _).2 loopEnd hne

/-- The state is the one after some passes; a process that is killed has got
some events further. -/
theorem serverLoop_snd (turns : List LoopTurn) (w : World) :
    ∃ passes events, (serverLoop turns w).2 =
        run World.step (run nsServerRunPass w passes) events ∧
      ((serverLoop turns w).1 ≠ .killed → events = []) := by
  induction turns generalizing w with
  | nil => exact ⟨[], [], rfl, fun _ => rfl⟩
  | cons turn rest ih =>
      cases turn with
      | requested => exact ⟨[], [], rfl, fun _ => rfl⟩
      | pollFailed errno requested => exact ⟨[], [], rfl, fun _ => rfl⟩
      | ready calls =>
          unfold serverLoop
          obtain ⟨events, hpass⟩ := from_pass w calls
          split
          · next after hrunning =>
              obtain rfl := pass_running hrunning
              obtain ⟨passes, later, heq, hcut⟩ := ih (nsServerRunPass w calls)
              exact ⟨calls :: passes, later, heq, hcut⟩
          · next after hkilled =>
              rw [hkilled] at hpass
              obtain ⟨before, hreached⟩ := reaches_of_run (Or.inr hpass.symm)
              exact ⟨[], before, hreached, fun hnot => absurd rfl hnot⟩

end Looping

/-! ## The ledger of a run -/

/-- Every call that the start depends on succeeds. -/
def StartAnswers.Succeed (answers : StartAnswers) (port : List UInt8) :
    Prop :=
  answers.allocated ∧ answers.database.Succeed ∧ answers.schema = .done ∧
    nsSocketIsValid (chosen (listenPlan 16)
      ((answers.lookup ⟨none, port, true⟩).toOption.getD []))

/-- An open database: the connection and all statements. -/
def openDatabase : Set DbResource := {resource | resource ≠ .message}

/-- What the process holds after the run, or in the course of it; what a
process holds that is killed is left to the kernel. -/
def ServerRun.held (result : ServerRun) : Set Resource :=
  match result.world with
  | none => ∅
  | some w =>
      if result.exitCode.isNone then
        holding openDatabase (openSockets result.listenSocket) w.inSlots
      else Resource.client '' w.inSlots

/-- What every run keeps to.  The loop begins in the world `boot`. -/
structure ServerRun.Orderly (port : List UInt8) (answers : StartAnswers)
    (turns : List LoopTurn) (boot : World) (result : ServerRun) : Prop where
  accounts : Accounts Resource.Needs ∅ result.entries result.held
  started : result.world.isSome ↔ answers.Succeed port
  running : result.exitCode = none ∧ result.killed = false ↔
    answers.Succeed port ∧ GoesOn boot turns
  succeeded : result.exitCode = some exitSuccess ↔
    answers.Succeed port ∧ EndsBy boot turns .shutDown
  killed : result.killed ↔ answers.Succeed port ∧ EndsBy boot turns .killed
  cut : result.killed → result.exitCode = none
  explained : result.diagnosis.isSome ↔ result.exitCode = some exitFailure
  served : ∀ w, result.world = some w → ∃ passes events,
    w = run World.step (run nsServerRunPass boot passes) events ∧
      (result.killed = false → events = [])

section Ledger

variable {port : List UInt8} {file : Option Tables} {clock : Clock}
  {answers : StartAnswers} {turns : List LoopTurn} {boot : World}

theorem aborted_orderly {diagnosis : List (List UInt8)}
    {entries : List (Entry Resource)} (hfails : ¬ answers.Succeed port)
    (haccounts : Accounts Resource.Needs ∅ entries ∅) :
    (ServerRun.aborted diagnosis entries).Orderly port answers turns
      boot where
  accounts := haccounts
  started := by simp [ServerRun.aborted, hfails]
  running := by simp [ServerRun.aborted, hfails]
  succeeded := by
    simp [ServerRun.aborted, hfails, exitFailure, exitSuccess]
  killed := by simp [ServerRun.aborted, hfails]
  cut := by simp [ServerRun.aborted]
  explained := by simp [ServerRun.aborted]
  served := by
    intro w hworld
    cases hworld

theorem held_of_complete {database : NsDatabaseHandles}
    (hhandle : database.handle) (hstmt : ∀ statement,
      database.stmt statement) : database.held = openDatabase := by
  ext resource
  cases resource <;> simp [openDatabase, hhandle, hstmt]

/-- What is given back when the database is open: the statements, the
connection and the state. -/
theorem accounts_closed_down {database : NsDatabaseHandles}
    {clients : Set ℕ} (hhandle : database.handle = true) :
    Accounts Resource.Needs (holding database.held ∅ clients)
      (databaseEntries (nsDbClose database).2 ++ [.released .state])
      (Resource.client '' clients) :=
  (databaseEntries_accounts (nsDbClose_accounts hhandle)).append
    accounts_freed

/-- The listening socket is given back before the database. -/
theorem accounts_shut_down {database : NsDatabaseHandles}
    {clients : Set ℕ} {socketFd : NsSocket}
    (hvalid : nsSocketIsValid socketFd) (hhandle : database.handle = true) :
    Accounts Resource.Needs
      (holding database.held (openSockets socketFd) clients)
      (.released (.net (.socket socketFd)) ::
        (databaseEntries (nsDbClose database).2 ++ [.released .state]))
      (Resource.client '' clients) := by
  have hheld : Resource.net (.socket socketFd) ∈
      holding database.held (openSockets socketFd) clients := ⟨hvalid, rfl⟩
  refine .release (Resource.net (.socket socketFd)) hheld ?_ ?_
  · intro other hother hneeds
    cases hneeds
  · have hleft : holding database.held (openSockets socketFd) clients \
          {.net (.socket socketFd)} = holding database.held ∅ clients := by
      ext resource
      cases resource <;> simp [openSockets, hvalid]
    rw [hleft]
    exact accounts_closed_down hhandle

theorem started_listenSocket (texts : ErrorTexts)
    (database : NsDatabaseHandles)
    (listening : NsSocket × List UInt8 × NetRun)
    (entries : List (Entry Resource)) (boot : World)
    (turns : List LoopTurn) :
    (ServerRun.started texts database listening entries boot
      turns).listenSocket = listening.1 := by
  unfold ServerRun.started
  dsimp only
  split <;> rfl

/-- From a start that succeeds on. -/
theorem started_orderly (texts : ErrorTexts)
    (hsucceed : answers.Succeed port) {database : NsDatabaseHandles}
    {listening : NsSocket × List UInt8 × NetRun}
    {entries : List (Entry Resource)} (hhandle : database.handle = true)
    (hstmt : ∀ statement, database.stmt statement)
    (hvalid : nsSocketIsValid listening.1)
    (hstarted : Accounts Resource.Needs ∅ entries
      (holding database.held (openSockets listening.1) ∅))
    {tables : Tables} {errno : Errno}
    (hboot : boot = World.boot tables listening.1 errno clock) :
    (ServerRun.started texts database listening entries boot turns).Orderly
      port answers turns boot := by
  obtain ⟨passes, events, hreached, hcut⟩ := serverLoop_snd turns boot
  have hlived : Lived none (serverLoop turns boot).2 := by
    have hpasses : Reaches boot (run nsServerRunPass boot passes) :=
      reaches_foldl reaches_nsServerRunPass boot passes
    obtain ⟨all, hall⟩ := hpasses.trans ⟨events, hreached⟩
    rw [hall, hboot]
    exact lived_run tables listening.1 errno clock all
  have hserved := hstarted.append (clientEntries_accounts hlived.accounts)
  have hshut := hserved.append (accounts_shut_down hvalid hhandle)
  rw [held_of_complete hhandle hstmt] at hserved
  obtain ⟨hruns, hends⟩ := serverLoop_fst turns boot
  have hkilled := hends .killed (by simp)
  have hshuts := hends .shutDown (by simp)
  unfold ServerRun.started
  dsimp only
  cases hend : (serverLoop turns boot).1 with
  | running =>
      rw [hend] at hruns hkilled hshuts
      refine ⟨hserved, by simp [hsucceed], ?_, ?_, ?_, by simp, by simp, ?_⟩
      · simp [hsucceed, ← hruns]
      · simp [← hshuts]
      · simp [← hkilled]
      · rintro w ⟨rfl⟩
        exact ⟨passes, events, hreached, fun _ => hcut (by simp [hend])⟩
  | shutDown =>
      rw [hend] at hruns hkilled hshuts
      refine ⟨hshut, by simp [hsucceed], ?_, ?_, ?_, by simp, ?_, ?_⟩
      · simp [← hruns]
      · simp [hsucceed, ← hshuts]
      · simp [← hkilled]
      · simp [exitSuccess, exitFailure]
      · rintro w ⟨rfl⟩
        exact ⟨passes, events, hreached, fun _ => hcut (by simp [hend])⟩
  | pollFailed errno =>
      rw [hend] at hruns hkilled hshuts
      refine ⟨hshut, by simp [hsucceed], ?_, ?_, ?_, by simp, by simp, ?_⟩
      · simp [← hruns]
      · simp [← hshuts, exitSuccess, exitFailure]
      · simp [← hkilled]
      · rintro w ⟨rfl⟩
        exact ⟨passes, events, hreached, fun _ => hcut (by simp [hend])⟩
  | killed =>
      rw [hend] at hruns hkilled hshuts
      refine ⟨hserved, by simp [hsucceed], ?_, ?_, ?_, by simp, by simp, ?_⟩
      · simp [← hruns]
      · simp [← hshuts]
      · simp [hsucceed, ← hkilled]
      · rintro w ⟨rfl⟩
        exact ⟨passes, events, hreached, by simp⟩

theorem nsServerRun_orderly (texts : ErrorTexts)
    (port databasePath : List UInt8) (file : Option Tables) (clock : Clock)
    (answers : StartAnswers) (turns : List LoopTurn) :
    let result := nsServerRun texts port databasePath file clock answers turns
    ∃ errno, result.Orderly port answers turns
      (World.boot (nsSchemaSql file) result.listenSocket errno clock) := by
  have hopened := nsDbOpenHandles_opens answers.database
  let opened := nsDbOpenHandles answers.database
  have hbefore : Accounts Resource.Needs ∅
      (.acquired .state :: databaseEntries opened.2.2)
      (holding opened.2.1.held ∅ ∅) :=
    accounts_allocated.append (databaseEntries_accounts hopened.accounts)
  unfold nsServerRun
  dsimp only
  cases hallocated : answers.allocated with
  | false =>
      rw [if_pos Bool.false_ne_true]
      refine ⟨answers.errno, aborted_orderly (fun hall => ?_) (.nil ∅)⟩
      exact Bool.false_ne_true (hallocated.symm.trans hall.1)
  | true =>
      rw [if_neg (not_not.mpr rfl)]
      by_cases hdatabase : opened.1 = 0
      · rw [if_neg (not_not.mpr hdatabase)]
        obtain ⟨hhandle, hstmt⟩ := hopened.complete hdatabase
        have hclose : Accounts Resource.Needs
            (holding opened.2.1.held ∅ ∅)
            (databaseEntries (nsDbClose opened.2.1).2 ++ [.released .state])
            (Resource.client '' ∅) := accounts_closed_down hhandle
        rw [Set.image_empty] at hclose
        let schema := nsDbInitSchemaCalls opened.2.1 answers.schema
        have hprepared := hbefore.append (databaseEntries_accounts
          (nsDbInitSchemaCalls_accounts opened.2.1 answers.schema))
        by_cases hschema : schema.1 = 0
        · rw [if_neg (not_not.mpr hschema)]
          let net : NetRun := ⟨answers.errno, []⟩
          let listening := nsListenTcp texts answers.lookup port 16
            (padded 256 []) net
          have hopens : OpensFirstViable texts (listenPlan 16)
              ⟨none, port, true⟩ (answers.lookup ⟨none, port, true⟩)
              (padded 256 []) net listening := openTcp_opens ..
          obtain ⟨made, hcalls, hsockets⟩ := hopens.calls
          rw [List.nil_append] at hcalls
          rw [← hcalls] at hsockets
          have hstarted := hprepared.append (socketEntries_accounts hsockets)
          by_cases hlistening : nsSocketIsValid listening.1 = true
          · rw [if_neg (not_not.mpr hlistening)]
            have hsucceed : answers.Succeed port := by
              refine ⟨hallocated, hopened.succeeds.mp hdatabase, ?_, ?_⟩
              · exact (nsDbInitSchemaCalls_fst hhandle).mp hschema
              · rw [← hopens.socket]
                exact hlistening
            refine ⟨listening.2.2.errno, ?_⟩
            rw [started_listenSocket]
            exact started_orderly texts hsucceed hhandle hstmt hlistening
              hstarted rfl
          · rw [if_pos hlistening]
            refine ⟨answers.errno, aborted_orderly (fun hall => hlistening ?_)
              ?_⟩
            · rw [hopens.socket]
              exact hall.2.2.2
            · rw [openSockets_of_invalid (by simpa using hlistening)]
                at hstarted
              exact hstarted.append hclose
        · rw [if_pos hschema]
          refine ⟨answers.errno, aborted_orderly (fun hall => hschema ?_) ?_⟩
          · exact (nsDbInitSchemaCalls_fst hhandle).mpr hall.2.2.1
          · exact hprepared.append hclose
      · rw [if_pos hdatabase]
        refine ⟨answers.errno, aborted_orderly (fun hall => hdatabase ?_) ?_⟩
        · exact hopened.succeeds.mpr hall.2.1
        · have hnothing : opened.2.1 = .zeroed := hopened.nothing hdatabase
          rw [hnothing, held_zeroed] at hbefore
          have hfreed := hbefore.append accounts_freed
          rwa [Set.image_empty] at hfreed

end Ledger

/-- However the process is started and however it ends: what it acquires it
gives back, in an order that nothing still needed suffers from, but for the
sockets of the clients that are in slots at the end.  Only a process that a
broken pipe kills gives nothing back. -/
theorem server_process_is_orderly (texts : ErrorTexts)
    (executable : List UInt8) (arguments : List (List UInt8))
    (files : List UInt8 → Option Tables) (clock : Clock)
    (answers : StartAnswers) (turns : List LoopTurn) :
    let port := (arguments[0]?).getD (literal "5555")
    let databasePath := (arguments[1]?).getD
      (defaultDatabasePath executable (padded 1024 []))
    let result := serverMain texts executable arguments files clock answers
      turns
    ∃ errno, result.Orderly port answers turns
      (World.boot (nsSchemaSql (files (text databasePath)))
        result.listenSocket errno clock) :=
  nsServerRun_orderly ..

end NodeSignal
