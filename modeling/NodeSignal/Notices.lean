import NodeSignal.Sessions

/-!
# The notices account for the sessions

A session that ends is announced if its LEAVE notice follows at once and is
offered to every other client present.  The JOIN and LEAVE notices of a
record then agree, one by one, with the sessions that started and ended.
Everything here is about the record alone; it grows by turns, each of which
starts a session, ends one or leaves the sessions as they are.
-/

namespace NodeSignal

open CStrings

/-- The client has joined and was not disconnected. -/
def Present (connection : ℕ) (trace : List Obs) : Prop :=
  (∃ userId name, .joined connection userId name ∈ trace) ∧
    .disconnected connection ∉ trace

structure IsLeaveNotice (packet : NsPacket) (userId : UInt32)
    (name : List UInt8) : Prop where
  type : packet.header.type = NsPacketType.leave.code
  senderId : packet.header.senderId = userId
  payload : packet.payload =
    literal "* " ++ name ++ literal " left the chat"

/-- The connection that was offered the packet, whether its buffer took it
or not. -/
def Obs.offered (packet : NsPacket) : Obs → Option ℕ
  | .enqueued connection offer =>
      if offer = packet then some connection else none
  | .overflowed connection offer =>
      if offer = packet then some connection else none
  | _ => none

/-- What follows the end of the session: its LEAVE notice, offered once to
everybody else who is present. -/
structure Announced (before : List Obs) (connection : ℕ)
    (userId : UInt32) (name : List UInt8) (notice : NsPacket)
    (offers : List Obs) : Prop where
  told : IsLeaveNotice notice userId name
  once : broadcasts offers = []
  distinct : (offers.filterMap (Obs.offered notice)).Nodup
  audience : ∀ other, other ∈ offers.filterMap (Obs.offered notice) ↔
    other ≠ connection ∧ Present other before

/-! ## The ledger -/

inductive Change where
  | started (userId : UInt32) (name : List UInt8)
  | ended (userId : UInt32) (name : List UInt8)

def Obs.identity (connection : ℕ) : Obs → Option (UInt32 × List UInt8)
  | .joined joining userId name =>
      if joining = connection then some (userId, name) else none
  | _ => none

def identityIn (trace : List Obs) (connection : ℕ) :
    Option (UInt32 × List UInt8) :=
  trace.findSome? (Obs.identity connection)

/-- The session that starts or ends.  The trace tells who had joined. -/
def Obs.change (trace : List Obs) : Obs → Option Change
  | .joined _ userId name => some (.started userId name)
  | .disconnected connection =>
      (identityIn trace connection).map fun who => .ended who.1 who.2
  | _ => none

def changes (trace notes : List Obs) : List Change :=
  notes.filterMap (Obs.change trace)

def Obs.notice : Obs → Option NsPacket
  | .broadcast packet =>
      if packet.header.type = NsPacketType.join.code ∨
          packet.header.type = NsPacketType.leave.code
      then some packet else none
  | _ => none

/-- The JOIN and LEAVE packets that were broadcast. -/
def notices (notes : List Obs) : List NsPacket :=
  notes.filterMap Obs.notice

def Reports (packet : NsPacket) : Change → Prop
  | .started userId name => IsJoinNotice packet userId name
  | .ended userId name => IsLeaveNotice packet userId name

/-- Every departure is announced, and from each JOIN on the notices tell of
the sessions that started or ended. -/
structure Accounted (trace : List Obs) : Prop where
  announced : ∀ before connection after userId name,
    trace = before ++ .disconnected connection :: after →
    .joined connection userId name ∈ before →
    ∃ notice offers rest, after = .broadcast notice :: (offers ++ rest) ∧
      Announced before connection userId name notice offers
  ledger : ∀ before connection userId name life,
    trace = before ++ .joined connection userId name :: life →
    List.Forall₂ Reports (notices life)
      (changes trace (.joined connection userId name :: life))

@[simp] theorem notices_append (before after : List Obs) :
    notices (before ++ after) = notices before ++ notices after :=
  List.filterMap_append

@[simp] theorem changes_append (trace before after : List Obs) :
    changes trace (before ++ after) =
      changes trace before ++ changes trace after :=
  List.filterMap_append

/-! ## Turns -/

/-- The note neither starts nor ends a session and is no notice of it. -/
def Obs.Calm : Obs → Prop
  | .joined _ _ _ => False
  | .disconnected _ => False
  | .broadcast packet =>
      packet.header.type ≠ NsPacketType.join.code ∧
        packet.header.type ≠ NsPacketType.leave.code
  | _ => True

def Calm (notes : List Obs) : Prop := ∀ obs ∈ notes, obs.Calm

/-- What one event adds to the record. -/
inductive Turn (trace : List Obs) : List Obs → Prop
  | quiet (notes : List Obs)
      (hquiet : ∀ obs ∈ notes, obs.Calm ∨ ∃ connection,
        obs = .disconnected connection ∧
          ∀ userId name, .joined connection userId name ∉ trace) :
      Turn trace notes
  | starts (connection : ℕ) (userId : UInt32) (name : List UInt8)
      (notice : NsPacket) (first middle rest : List Obs)
      (hfirst : Calm first) (hmiddle : Calm middle) (hrest : Calm rest)
      (hnotice : IsJoinNotice notice userId name)
      (hnew : .disconnected connection ∉ trace) :
      Turn trace (first ++ .joined connection userId name ::
        (middle ++ .broadcast notice :: rest))
  | ends (connection : ℕ) (userId : UInt32) (name : List UInt8)
      (notice : NsPacket) (first offers rest : List Obs)
      (hfirst : Calm first) (hoffers : Calm offers) (hrest : Calm rest)
      (hjoined : .joined connection userId name ∈ trace)
      (hunique : ∀ userId' name', .joined connection userId' name' ∈ trace →
        userId' = userId ∧ name' = name)
      (hannounced : Announced trace connection userId name notice offers) :
      Turn trace (first ++ .disconnected connection ::
        (.broadcast notice :: (offers ++ rest)))

theorem calm_nil : Calm [] := by simp [Calm]

theorem Calm.append {before after : List Obs} (hbefore : Calm before)
    (hafter : Calm after) : Calm (before ++ after) :=
  List.forall_mem_append.mpr ⟨hbefore, hafter⟩

theorem Obs.Calm.change {obs : Obs} (hcalm : obs.Calm)
    (trace : List Obs) : obs.change trace = none := by
  cases obs <;> first | rfl | exact hcalm.elim

theorem Obs.Calm.notice {obs : Obs} (hcalm : obs.Calm) :
    obs.notice = none := by
  cases obs with
  | broadcast packet => simpa [Obs.notice, Obs.Calm] using hcalm
  | _ => rfl

theorem Calm.changes {notes : List Obs} (hcalm : Calm notes)
    (trace : List Obs) : changes trace notes = [] :=
  List.filterMap_eq_nil_iff.mpr fun obs hobs => (hcalm obs hobs).change trace

theorem Calm.notices {notes : List Obs} (hcalm : Calm notes) :
    notices notes = [] :=
  List.filterMap_eq_nil_iff.mpr fun obs hobs => (hcalm obs hobs).notice

theorem Calm.not_joined {notes : List Obs} (hcalm : Calm notes)
    (connection : ℕ) (userId : UInt32) (name : List UInt8) :
    .joined connection userId name ∉ notes := hcalm _

theorem Calm.not_disconnected {notes : List Obs} (hcalm : Calm notes)
    (connection : ℕ) : .disconnected connection ∉ notes := hcalm _

/-! ## Who has joined -/

theorem identityIn_eq_none_iff {trace : List Obs} {connection : ℕ} :
    identityIn trace connection = none ↔
      ∀ userId name, .joined connection userId name ∉ trace := by
  rw [identityIn, List.findSome?_eq_none_iff]
  constructor
  · intro hnone userId name hmem
    simpa [Obs.identity] using hnone _ hmem
  · intro hnone obs hobs
    cases obs with
    | joined joining userId name =>
        simp only [Obs.identity]
        split_ifs with hsame
        · subst hsame
          exact absurd hobs (hnone userId name)
        · rfl
    | _ => rfl

theorem identityIn_of_mem {trace : List Obs} {connection : ℕ}
    {userId : UInt32} {name : List UInt8}
    (hjoined : .joined connection userId name ∈ trace)
    (hunique : ∀ userId' name', .joined connection userId' name' ∈ trace →
      userId' = userId ∧ name' = name) :
    identityIn trace connection = some (userId, name) := by
  cases hidentity : identityIn trace connection with
  | none =>
      exact absurd hjoined (identityIn_eq_none_iff.mp hidentity userId name)
  | some who =>
      rcases List.exists_of_findSome?_eq_some hidentity with
        ⟨obs, hobs, hwho⟩
      cases obs with
      | joined joining userId' name' =>
          simp only [Obs.identity] at hwho
          split_ifs at hwho with hsame
          subst hsame
          rcases hunique userId' name' hobs with ⟨rfl, rfl⟩
          exact hwho.symm
      | _ => simp [Obs.identity] at hwho

theorem identityIn_append (trace notes : List Obs) (connection : ℕ) :
    identityIn (trace ++ notes) connection =
      (identityIn trace connection).or (identityIn notes connection) :=
  List.findSome?_append

theorem Turn.not_joined_again {trace notes : List Obs}
    (hturn : Turn trace notes) {connection : ℕ}
    (hgone : .disconnected connection ∈ trace) (userId : UInt32)
    (name : List UInt8) : .joined connection userId name ∉ notes := by
  intro hjoined
  cases hturn with
  | quiet _ hquiet =>
      rcases hquiet _ hjoined with hcalm | ⟨_, hobs, _⟩
      · exact hcalm
      · exact absurd hobs (by simp)
  | starts joining _ _ notice first middle rest hfirst hmiddle hrest
      hnotice hnew =>
      simp only [List.mem_append, List.mem_cons, reduceCtorEq,
        false_or] at hjoined
      rcases hjoined with hjoined | hjoined | hjoined | hjoined
      · exact hfirst.not_joined _ _ _ hjoined
      · rw [(Obs.joined.inj hjoined).1] at hgone
        exact hnew hgone
      · exact hmiddle.not_joined _ _ _ hjoined
      · exact hrest.not_joined _ _ _ hjoined
  | ends _ _ _ notice first offers rest hfirst hoffers hrest =>
      simp only [List.mem_append, List.mem_cons, reduceCtorEq,
        false_or] at hjoined
      rcases hjoined with hjoined | hjoined | hjoined
      · exact hfirst.not_joined _ _ _ hjoined
      · exact hoffers.not_joined _ _ _ hjoined
      · exact hrest.not_joined _ _ _ hjoined

/-- A turn does not change what the notes before it meant. -/
theorem Turn.changes_before {trace notes before : List Obs}
    (hturn : Turn trace notes) (hbefore : ∀ obs ∈ before, obs ∈ trace) :
    changes (trace ++ notes) before = changes trace before := by
  apply List.filterMap_congr
  intro obs hobs
  cases obs with
  | disconnected connection =>
      have hnone : identityIn notes connection = none :=
        identityIn_eq_none_iff.mpr
          (hturn.not_joined_again (hbefore _ hobs))
      rw [Obs.change, Obs.change, identityIn_append, hnone, Option.or_none]
  | _ => rfl

/-! ## Where a note stands -/

theorem split_append {before after first second : List Obs} {obs : Obs}
    (hsplit : first ++ second = before ++ obs :: after) :
    (∃ rest, first = before ++ obs :: rest ∧ after = rest ++ second) ∨
      ∃ more, before = first ++ more ∧ second = more ++ obs :: after := by
  rcases List.append_eq_append_iff.mp hsplit with
    ⟨more, hbefore, hsecond⟩ | ⟨more, hfirst, hafter⟩
  · exact Or.inr ⟨more, hbefore, hsecond⟩
  · cases more with
    | nil =>
        refine Or.inr ⟨[], ?_, hafter.symm⟩
        rw [hfirst, List.append_nil, List.append_nil]
    | cons head rest =>
        rcases List.cons.inj hafter with ⟨rfl, hrest⟩
        exact Or.inl ⟨rest, hfirst, hrest⟩

/-- A note that does not occur elsewhere stands in one place. -/
theorem split_unique {before after first rest : List Obs}
    {obs other : Obs}
    (hsplit : first ++ obs :: rest = before ++ other :: after)
    (hfirst : other ∉ first) (hrest : other ∉ rest) :
    obs = other ∧ before = first ∧ after = rest := by
  rcases split_append hsplit with ⟨later, heq, -⟩ | ⟨more, hbefore, hmore⟩
  · rw [heq] at hfirst
    exact absurd (by simp) hfirst
  · cases more with
    | nil =>
        rw [List.append_nil] at hbefore
        rcases List.cons.inj hmore with ⟨hobs, hafter⟩
        exact ⟨hobs, hbefore, hafter.symm⟩
    | cons head tail =>
        rw [(List.cons.inj hmore).2] at hrest
        exact absurd (by simp) hrest

/-! ## The books -/

/-- The ledger is balanced between the turns. -/
structure Books (trace : List Obs) : Prop where
  announced : ∀ before connection after userId name,
    trace = before ++ .disconnected connection :: after →
    .joined connection userId name ∈ before →
    ∃ notice offers rest, after = .broadcast notice :: (offers ++ rest) ∧
      Announced before connection userId name notice offers
  balanced : List.Forall₂ Reports (notices trace) (changes trace trace)
  opened : ∀ before connection userId name life,
    trace = before ++ .joined connection userId name :: life →
    List.Forall₂ Reports (notices before) (changes trace before)

theorem books_nil : Books [] :=
  ⟨by simp, .nil, by simp⟩

theorem forall₂_cancel {α β : Type*} {relation : α → β → Prop}
    {left left' : List α} {right right' : List β}
    (hboth : List.Forall₂ relation (left ++ left') (right ++ right'))
    (hfirst : List.Forall₂ relation left right) :
    List.Forall₂ relation left' right' := by
  induction hfirst with
  | nil => exact hboth
  | cons _ _ ih => exact ih (List.forall₂_cons.mp hboth).2

theorem Books.accounted {trace : List Obs} (hbooks : Books trace) :
    Accounted trace := by
  refine ⟨hbooks.announced, ?_⟩
  intro before connection userId name life hsplit
  have hopened := hbooks.opened before connection userId name life hsplit
  have hbalanced := hbooks.balanced
  have hnotices : notices trace = notices before ++ notices life := by
    rw [hsplit, notices_append]
    rfl
  have hchanges : changes trace trace = changes trace before ++
      changes trace (.joined connection userId name :: life) := by
    rw [← changes_append, ← hsplit]
  rw [hnotices, hchanges] at hbalanced
  exact forall₂_cancel hbalanced hopened

section Turns

variable {trace notes : List Obs}

/-- What the turn adds to the notices is what it adds to the sessions. -/
theorem Turn.balanced (hturn : Turn trace notes) :
    List.Forall₂ Reports (notices notes) (changes (trace ++ notes) notes) := by
  cases hturn with
  | quiet _ hquiet =>
      have hnotices : notices notes = [] := by
        apply List.filterMap_eq_nil_iff.mpr
        intro obs hobs
        rcases hquiet obs hobs with hcalm | ⟨_, rfl, _⟩
        · exact hcalm.notice
        · rfl
      have hjoined : ∀ connection userId name,
          .joined connection userId name ∉ notes := by
        intro connection userId name hobs
        rcases hquiet _ hobs with hcalm | ⟨_, heq, _⟩
        · exact hcalm
        · exact absurd heq (by simp)
      have hchanges : changes (trace ++ notes) notes = [] := by
        apply List.filterMap_eq_nil_iff.mpr
        intro obs hobs
        rcases hquiet obs hobs with hcalm | ⟨connection, rfl, hnever⟩
        · exact hcalm.change _
        · have hnone := identityIn_eq_none_iff.mpr hnever
          have hnone' := identityIn_eq_none_iff.mpr (hjoined connection)
          rw [Obs.change, identityIn_append, hnone, hnone']
          rfl
      rw [hnotices, hchanges]
      exact .nil
  | starts connection userId name notice first middle rest hfirst hmiddle
      hrest hnotice hnew =>
      have hshown : (Obs.broadcast notice).notice = some notice := by
        simp [Obs.notice, hnotice.type]
      simp only [notices, changes, List.filterMap_append,
        List.filterMap_cons, hshown, Obs.change]
      rw [← changes, ← changes, ← changes, ← notices, ← notices, ← notices,
        hfirst.changes, hmiddle.changes, hrest.changes, hfirst.notices,
        hmiddle.notices, hrest.notices]
      exact .cons hnotice .nil
  | ends connection userId name notice first offers rest hfirst hoffers
      hrest hjoined hunique hannounced =>
      have hshown : (Obs.broadcast notice).notice = some notice := by
        simp [Obs.notice, hannounced.told.type]
      have hidentity : ∀ more, identityIn (trace ++ more) connection =
          some (userId, name) := by
        intro more
        rw [identityIn_append, identityIn_of_mem hjoined hunique,
          Option.some_or]
      simp only [notices, changes, List.filterMap_append,
        List.filterMap_cons, hshown, Obs.change, hidentity, Option.map_some]
      rw [← changes, ← changes, ← changes, ← notices, ← notices, ← notices,
        hfirst.changes, hoffers.changes, hrest.changes, hfirst.notices,
        hoffers.notices, hrest.notices]
      exact .cons hannounced.told .nil

theorem Announced.calm_first {connection : ℕ} {userId : UInt32}
    {name : List UInt8} {notice : NsPacket} {offers first : List Obs}
    (hannounced : Announced trace connection userId name notice offers)
    (hfirst : Calm first) :
    Announced (trace ++ first) connection userId name notice offers := by
  refine ⟨hannounced.told, hannounced.once, hannounced.distinct, ?_⟩
  intro other
  rw [hannounced.audience other]
  simp [Present, hfirst.not_joined, hfirst.not_disconnected]

theorem Books.announced_turn (hbooks : Books trace)
    (hturn : Turn trace notes) (before : List Obs) (connection : ℕ)
    (after : List Obs) (userId : UInt32) (name : List UInt8)
    (hsplit : trace ++ notes = before ++ .disconnected connection :: after)
    (hjoined : .joined connection userId name ∈ before) :
    ∃ notice offers rest, after = .broadcast notice :: (offers ++ rest) ∧
      Announced before connection userId name notice offers := by
  rcases split_append hsplit with
    ⟨later, htrace, rfl⟩ | ⟨more, rfl, hnotes⟩
  · rcases hbooks.announced before connection later userId name htrace
      hjoined with ⟨notice, offers, rest, rfl, hannounced⟩
    exact ⟨notice, offers, rest ++ notes, by simp, hannounced⟩
  · have hgone : .disconnected connection ∈ notes := by
      rw [hnotes]
      simp
    cases hturn with
    | quiet _ hquiet =>
        rcases hquiet _ hgone with hcalm | ⟨_, heq, hnever⟩
        · exact hcalm.elim
        · rw [← Obs.disconnected.inj heq] at hnever
          rcases List.mem_append.mp hjoined with hjoined | hjoined
          · exact absurd hjoined (hnever userId name)
          · have hmem : .joined connection userId name ∈ notes := by
              rw [hnotes]
              exact List.mem_append_left _ hjoined
            rcases hquiet _ hmem with hcalm | ⟨_, heq', _⟩
            · exact hcalm.elim
            · exact absurd heq' (by simp)
    | starts _ _ _ notice first middle rest hfirst hmiddle hrest =>
        simp [hfirst.not_disconnected, hmiddle.not_disconnected,
          hrest.not_disconnected] at hgone
    | ends leaving userId' name' notice first offers rest hfirst hoffers
        hrest hjoined' hunique hannounced =>
        have hrest' : .disconnected connection ∉
            .broadcast notice :: (offers ++ rest) := by
          simp [hoffers.not_disconnected, hrest.not_disconnected]
        rcases split_unique hnotes (hfirst.not_disconnected connection)
          hrest' with ⟨heq, rfl, rfl⟩
        obtain rfl := Obs.disconnected.inj heq
        have hold : .joined leaving userId name ∈ trace := by
          rcases List.mem_append.mp hjoined with hjoined | hjoined
          · exact hjoined
          · exact absurd hjoined (hfirst.not_joined _ _ _)
        rcases hunique userId name hold with ⟨rfl, rfl⟩
        exact ⟨notice, offers, rest, rfl, hannounced.calm_first hfirst⟩

theorem Books.opened_turn (hbooks : Books trace)
    (hturn : Turn trace notes) (before : List Obs) (connection : ℕ)
    (userId : UInt32) (name : List UInt8) (life : List Obs)
    (hsplit : trace ++ notes =
      before ++ .joined connection userId name :: life) :
    List.Forall₂ Reports (notices before)
      (changes (trace ++ notes) before) := by
  rcases split_append hsplit with
    ⟨later, htrace, rfl⟩ | ⟨more, rfl, hnotes⟩
  · rw [hturn.changes_before fun obs hobs => by
      rw [htrace]
      exact List.mem_append_left _ hobs]
    exact hbooks.opened before connection userId name later htrace
  · have hjoined : .joined connection userId name ∈ notes := by
      rw [hnotes]
      simp
    have hcalm : Calm more := by
      cases hturn with
      | quiet _ hquiet =>
          rcases hquiet _ hjoined with hcalm | ⟨_, heq, _⟩
          · exact hcalm.elim
          · exact absurd heq (by simp)
      | starts _ _ _ notice first middle rest hfirst hmiddle hrest =>
          have hrest' : .joined connection userId name ∉
              middle ++ .broadcast notice :: rest := by
            simp [hmiddle.not_joined, hrest.not_joined]
          rcases split_unique hnotes (hfirst.not_joined _ _ _) hrest' with
            ⟨-, rfl, -⟩
          exact hfirst
      | ends _ _ _ notice first offers rest hfirst hoffers hrest =>
          simp [hfirst.not_joined, hoffers.not_joined,
            hrest.not_joined] at hjoined
    rw [notices_append, changes_append, hcalm.notices, hcalm.changes,
      List.append_nil, List.append_nil,
      hturn.changes_before fun _ hobs => hobs]
    exact hbooks.balanced

theorem Books.turn (hbooks : Books trace) (hturn : Turn trace notes) :
    Books (trace ++ notes) := by
  refine ⟨hbooks.announced_turn hturn, ?_, hbooks.opened_turn hturn⟩
  rw [notices_append, changes_append,
    hturn.changes_before fun _ hobs => hobs]
  exact List.rel_append hbooks.balanced hturn.balanced

end Turns

end NodeSignal
