import NodeSignal.ServerMoves

/-!
# Identities of connected users

A joined slot carries an id and a name.  A slot gets its identity from a
JOIN, keeps it while the session lasts and loses it for good at the end.
The name is unused among the other slots when it is taken, and the id is
that of the row of the name, as far as 32 bits can hold it.
-/

namespace NodeSignal

open CStrings Runs

def NsClient.identity (client : NsClient) :
    Option (UInt32 × List UInt8) :=
  if client.joined then some (client.userId, text client.username)
  else none

def World.identity (w : World) (index : SlotIndex) :
    Option (UInt32 × List UInt8) :=
  (w.clients index).identity

theorem NsClient.identity_eq_some {client : NsClient} {userId : UInt32}
    {name : List UInt8} :
    client.identity = some (userId, name) ↔
      client.joined ∧ client.userId = userId ∧
        text client.username = name := by
  unfold NsClient.identity
  split_ifs with hjoined <;> simp [hjoined]

/-- No slot has gained or changed an identity. -/
def Narrows (w w' : World) : Prop :=
  ∀ index, w'.identity index = none ∨
    w'.identity index = w.identity index

section Narrowing

variable {w w' w'' : World} {index : SlotIndex}

theorem Narrows.of_clients (hclients : w'.clients = w.clients) :
    Narrows w w' := by
  intro index
  right
  rw [World.identity, hclients]
  rfl

theorem Narrows.trans (hfirst : Narrows w w') (hsecond : Narrows w' w'') :
    Narrows w w'' := by
  intro index
  rcases hsecond index with hnone | hsame
  · exact Or.inl hnone
  · rw [hsame]
    exact hfirst index

theorem Narrows.update {client : NsClient}
    (hclients : w'.clients = Function.update w.clients index client)
    (hidentity : client.identity = none ∨
      client.identity = w.identity index) : Narrows w w' := by
  intro other
  rw [World.identity, hclients]
  by_cases hother : other = index
  · subst hother
    rw [Function.update_self]
    exact hidentity
  · rw [Function.update_of_ne hother]
    exact Or.inr rfl

theorem narrows_release (w : World) (index : SlotIndex) :
    Narrows w (releaseSlot w index) :=
  .update (releaseSlot_clients w index) (Or.inl rfl)

theorem narrows_broadcast (w : World) {packet : NsPacket}
    (hlen : packet.header.bodyLen.toNat ≤ nsPacketBodyMax)
    (excludeIndex : Option SlotIndex) :
    Narrows w (nsServerBroadcast w packet excludeIndex) := by
  intro index
  rw [World.identity, nsServerBroadcast_clients packet hlen]
  unfold broadcastClient
  split_ifs
  · split
    · exact Or.inr rfl
    · exact Or.inl rfl
  · exact Or.inr rfl

theorem narrows_answered (w : World) (index : SlotIndex)
    {packet : NsPacket}
    (hlen : packet.header.bodyLen.toNat ≤ nsPacketBodyMax) :
    Narrows w (w.answered index packet) := by
  rcases (w.answered_frame index hlen).2.2.2 with ⟨buf, hclients⟩
  exact .update hclients (Or.inr rfl)

/-- A client takes the identity with a free name and the narrowed id of the
row of that name. -/
structure Joins (w : World) (index : SlotIndex) (userId : UInt32)
    (username : List UInt8) : Prop where
  unused : ∀ other userId', other ≠ index →
    w.identity other ≠ some (userId', text username)
  user : ∃ row ∈ w.database.tables.users,
    row.username = text username ∧ userId = UInt32.ofNat row.id

/-- A move either gives up identities only, or it seats one client. -/
theorem Move.narrows_or_joins {allow : World → NsSocket → Prop}
    (hmove : Move allow w w') (hsettled : Settled w) :
    Narrows w w' ∨
      ∃ index userId username, Joins w index userId username ∧
        Narrows (w.seated index userId username) w' := by
  cases hmove with
  | errno errno => exact Or.inl (.of_clients rfl)
  | clock clock => exact Or.inl (.of_clients rfl)
  | polled revents => exact Or.inl (.of_clients rfl)
  | dispatched index packet hactive => exact Or.inl (.of_clients rfl)
  | rebuked index packet hactive hjoined htype hlen =>
      exact Or.inl (narrows_answered w index hlen)
  | turnedAway index packet hactive hjoined htype hlen =>
      exact Or.inl ((narrows_answered w index hlen).trans
        (narrows_release _ index))
  | dropped index hactive => exact Or.inl (narrows_release _ index)
  | departed index timestamp notice hactive hjoined hnotice =>
      have hobserved : Narrows w
          (w.observe (.disconnected (w.connection index))) :=
        .of_clients rfl
      have hbroadcast := hobserved.trans (narrows_broadcast _
        (nsPacketSet_bodyLen hnotice) (some index))
      exact Or.inl (hbroadcast.trans (narrows_release _ index))
  | refused socketFd outcomes hvalid hallow =>
      exact Or.inl (.of_clients (turnDown_frame (w.greeted socketFd)
        w.connections socketFd outcomes).1)
  | occupied socketFd index hfree hvalid hallow =>
      exact Or.inl (.update
        (occupySlot_clients (w.greeted socketFd) index w.connections
          socketFd) (Or.inl rfl))
  | drained index outcomes hactive =>
      exact Or.inl (.update (w.flushed_clients index outcomes)
        (Or.inr rfl))
  | registered database hgrow => exact Or.inl (.of_clients rfl)
  | joined index username userId timestamp timestamp' ack notice hlen buf
      hactive hjoined hunused huser hshort hack henqueue hnotice =>
      right
      refine ⟨index, userId, username, ⟨?_, huser⟩, ?_⟩
      · intro other userId' hother hidentity
        rcases NsClient.identity_eq_some.mp hidentity with
          ⟨hother', -, hname⟩
        exact hunused other hother (hsettled.active other hother') hother'
          hname
      · have happended : Narrows (w.seated index userId username)
            ((w.seated index userId username).appended index ack buf) :=
          .update (World.appended_clients _ index ack buf) (Or.inr rfl)
        exact happended.trans (narrows_broadcast _
          (nsPacketSet_bodyLen hnotice) none)
  | texted index database row timestamp packet hactive hjoined hsaved
      husers hseq hmessages hsender hbody hsentAt hpacket =>
      have hstored : Narrows w { w with database := database } :=
        .of_clients rfl
      exact Or.inl (hstored.trans (narrows_broadcast _
        (nsPacketSet_bodyLen hpacket) none))

theorem Move.users {allow : World → NsSocket → Prop}
    (hmove : Move allow w w') :
    w.database.tables.users <+: w'.database.tables.users ∧
      w.database.tables.usersSeq ≤ w'.database.tables.usersSeq := by
  have hsame : ∀ {v : World}, v.database = w.database →
      w.database.tables.users <+: v.database.tables.users ∧
        w.database.tables.usersSeq ≤ v.database.tables.usersSeq := by
    intro v hdatabase
    rw [hdatabase]
    exact ⟨List.prefix_rfl, le_rfl⟩
  cases hmove with
  | errno errno => exact hsame rfl
  | clock clock => exact hsame rfl
  | polled revents => exact hsame rfl
  | dispatched index packet hactive => exact hsame rfl
  | rebuked index packet hactive hjoined htype hlen =>
      exact hsame (w.answered_frame index hlen).1
  | turnedAway index packet hactive hjoined htype hlen =>
      exact hsame (w.answered_frame index hlen).1
  | dropped index hactive => exact hsame rfl
  | departed index timestamp notice hactive hjoined hnotice =>
      exact hsame (nsServerBroadcast_frame notice
        (nsPacketSet_bodyLen hnotice) (some index) _).2.2
  | refused socketFd outcomes hvalid hallow =>
      exact hsame (turnDown_frame (w.greeted socketFd) w.connections
        socketFd outcomes).2.2.2.2.1
  | occupied socketFd index hfree hvalid hallow => exact hsame rfl
  | drained index outcomes hactive => exact hsame rfl
  | registered database hgrow => exact ⟨hgrow.users, hgrow.usersSeq⟩
  | joined index username userId timestamp timestamp' ack notice hlen buf
      hactive hjoined hunused huser hshort hack henqueue hnotice =>
      exact hsame (nsServerBroadcast_frame notice
        (nsPacketSet_bodyLen hnotice) none _).2.2
  | texted index database row timestamp packet hactive hjoined hsaved
      husers hseq hmessages hsender hbody hsentAt hpacket =>
      rw [(nsServerBroadcast_frame packet (nsPacketSet_bodyLen hpacket)
        none _).2.2]
      exact ⟨husers ▸ List.prefix_rfl, hseq.ge⟩

/-- Every identity belongs to a row, and no two slots share a name. -/
structure Identified (w : World) : Prop where
  user : ∀ index userId name, w.identity index = some (userId, name) →
    ∃ row ∈ w.database.tables.users,
      row.username = name ∧ userId = UInt32.ofNat row.id
  distinct : ∀ left right userId userId' name,
    w.identity left = some (userId, name) →
    w.identity right = some (userId', name) → left = right

theorem Identified.narrow (hidentified : Identified w)
    (husers : w.database.tables.users <+: w'.database.tables.users)
    (hnarrows : Narrows w w') : Identified w' := by
  have hkept : ∀ {index pair}, w'.identity index = some pair →
      w.identity index = some pair := by
    intro index pair hpair
    rcases hnarrows index with hnone | hsame
    · simp [hnone] at hpair
    · exact hsame.symm.trans hpair
  constructor
  · intro index userId name hidentity
    rcases hidentified.user index userId name (hkept hidentity) with
      ⟨row, hrow, hfields⟩
    exact ⟨row, husers.subset hrow, hfields⟩
  · intro left right userId userId' name hleft hright
    exact hidentified.distinct left right userId userId' name
      (hkept hleft) (hkept hright)

theorem Identified.seated (hidentified : Identified w)
    {userId : UInt32} {username : List UInt8}
    (hjoins : Joins w index userId username) :
    Identified (w.seated index userId username) := by
  have hown : (w.seated index userId username).identity index =
      some (userId, text username) := by
    simp [World.identity, World.seated, World.observe, NsClient.identity]
  have hother : ∀ other, other ≠ index →
      (w.seated index userId username).identity other =
        w.identity other := by
    intro other hne
    simp [World.identity, World.seated, World.observe, hne]
  constructor
  · intro other userId' name hidentity
    by_cases hne : other = index
    · subst hne
      rw [hown, Option.some.injEq, Prod.mk.injEq] at hidentity
      rw [← hidentity.1, ← hidentity.2]
      exact hjoins.user
    · rw [hother other hne] at hidentity
      exact hidentified.user other userId' name hidentity
  · intro left right userId₁ userId₂ name hleft hright
    by_cases hl : left = index
    · by_cases hr : right = index
      · rw [hl, hr]
      · rw [hl, hown, Option.some.injEq, Prod.mk.injEq] at hleft
        rw [hother right hr, ← hleft.2] at hright
        exact absurd hright (hjoins.unused right userId₂ hr)
    · rw [hother left hl] at hleft
      by_cases hr : right = index
      · rw [hr, hown, Option.some.injEq, Prod.mk.injEq] at hright
        rw [← hright.2] at hleft
        exact absurd hleft (hjoins.unused left userId₁ hl)
      · rw [hother right hr] at hright
        exact hidentified.distinct left right userId₁ userId₂ name hleft
          hright

theorem Move.identified {allow : World → NsSocket → Prop}
    (hmove : Move allow w w') (hsettled : Settled w)
    (hidentified : Identified w) : Identified w' := by
  have husers := hmove.users.1
  rcases hmove.narrows_or_joins hsettled with
    hnarrows | ⟨index, userId, username, hjoins, hnarrows⟩
  · exact hidentified.narrow husers hnarrows
  · exact (hidentified.seated hjoins).narrow husers hnarrows

end Narrowing

/-! ## Names and ids -/

theorem nsServerUsernameInUse_iff (w : World) (username : List UInt8)
    (skipIndex : SlotIndex) :
    nsServerUsernameInUse w username skipIndex ↔
      ∃ index, index ≠ skipIndex ∧ (w.clients index).active ∧
        (w.clients index).joined ∧
          text (w.clients index).username = text username := by
  unfold nsServerUsernameInUse
  rw [List.any_eq_true]
  constructor
  · intro hany
    rcases hany with ⟨index, -, hindex⟩
    refine ⟨index, ?_⟩
    simp only at hindex
    split_ifs at hindex with hskip
    simp only [Bool.or_eq_true, Bool.not_eq_true', decide_eq_true_eq,
      not_or, Bool.not_eq_false] at hskip
    exact ⟨hskip.2, hskip.1.1, hskip.1.2, by simpa [sameText] using hindex⟩
  · intro hexists
    rcases hexists with ⟨index, hskip, hactive, hjoined, hname⟩
    refine ⟨index, List.mem_finRange index, ?_⟩
    simp [hskip, hactive, hjoined, sameText, hname]

/-- After a disconnection the slot has no identity, and no other slot has
gained one. -/
theorem disconnect_narrows {w : World} {index : SlotIndex}
    (hactive : (w.clients index).active) (announceLeave : Bool) :
    Narrows w (nsServerDisconnectClient w index announceLeave) ∧
      (nsServerDisconnectClient w index announceLeave).identity index =
        none := by
  have hnone : ∀ v : World, (releaseSlot v index).identity index = none := by
    intro v
    rw [World.identity, releaseSlot_clients, Function.update_self]
    rfl
  rcases nsServerDisconnectClient_cases hactive announceLeave with
    heq | ⟨hjoined, notice, hnotice, heq⟩
  · rw [heq]
    exact ⟨narrows_release _ index, hnone _⟩
  · rw [heq]
    have hobserved : Narrows w (World.observe
        { w with clock := w.clock.rest }
          (.disconnected (w.connection index))) := .of_clients rfl
    have hbroadcast := hobserved.trans (narrows_broadcast _
      (nsPacketSet_bodyLen hnotice) (some index))
    exact ⟨hbroadcast.trans (narrows_release _ index), hnone _⟩

theorem Tables.user_eq_of_id {tables : Tables} {row other : UserRow}
    (hrow : row ∈ tables.users) (hother : other ∈ tables.users)
    (hid : row.id = other.id) : row = other :=
  List.inj_on_of_nodup_map
    (tables.users_increasing.imp fun hlt => ne_of_lt hlt) hrow hother hid

/-- Identities are unique, registered, and free again after use. -/
structure UniqueIdentities (w : World) : Prop where
  usernames : ∀ left right, left ≠ right →
    (w.clients left).active → (w.clients left).joined →
    (w.clients right).active → (w.clients right).joined →
      text (w.clients left).username ≠ text (w.clients right).username
  userIds : ∀ left right, left ≠ right →
    (w.clients left).active → (w.clients left).joined →
    (w.clients right).active → (w.clients right).joined →
      (w.clients left).userId ≠ (w.clients right).userId
  registered : ∀ index, (w.clients index).joined →
    ∃ row ∈ w.database.tables.users,
      row.username = text (w.clients index).username ∧
        row.id = (w.clients index).userId.toNat
  inUse : ∀ username skipIndex,
    nsServerUsernameInUse w username skipIndex ↔
      ∃ index, index ≠ skipIndex ∧ (w.clients index).active ∧
        (w.clients index).joined ∧
          text (w.clients index).username = text username
  released : ∀ index, (w.clients index).active →
    (w.clients index).joined → ∀ announceLeave skipIndex,
      nsServerUsernameInUse
        (nsServerDisconnectClient w index announceLeave)
        (w.clients index).username skipIndex = false

theorem uniqueIdentities_of_identified {w : World}
    (hidentified : Identified w)
    (hids : w.database.tables.usersSeq < 2 ^ 32) : UniqueIdentities w := by
  have hidentity : ∀ index, (w.clients index).joined →
      w.identity index = some ((w.clients index).userId,
        text (w.clients index).username) := by
    intro index hjoined
    exact NsClient.identity_eq_some.mpr ⟨hjoined, rfl, rfl⟩
  have hregistered : ∀ index, (w.clients index).joined →
      ∃ row ∈ w.database.tables.users,
        row.username = text (w.clients index).username ∧
          row.id = (w.clients index).userId.toNat := by
    intro index hjoined
    rcases hidentified.user index _ _ (hidentity index hjoined) with
      ⟨row, hrow, hname, hid⟩
    have hbound := (w.database.tables.users_id row hrow).2
    refine ⟨row, hrow, hname, ?_⟩
    rw [hid, UInt32.toNat_ofNat', Nat.mod_eq_of_lt (by omega)]
  have husernames : ∀ left right, left ≠ right →
      (w.clients left).joined → (w.clients right).joined →
        text (w.clients left).username ≠
          text (w.clients right).username := by
    intro left right hne hleft hright hname
    apply hne
    have hl := hidentity left hleft
    rw [hname] at hl
    exact hidentified.distinct left right _ _ _ hl (hidentity right hright)
  constructor
  · exact fun left right hne _ hleft _ hright =>
      husernames left right hne hleft hright
  · intro left right hne _ hleft _ hright hsame
    rcases hregistered left hleft with ⟨row, hrow, hname, hid⟩
    rcases hregistered right hright with ⟨other, hother, hname', hid'⟩
    have heq := Tables.user_eq_of_id hrow hother
      (by rw [hid, hid', hsame])
    apply husernames left right hne hleft hright
    rw [← hname, ← hname', heq]
  · exact hregistered
  · exact nsServerUsernameInUse_iff w
  · intro index hactive hjoined announceLeave skipIndex
    rcases disconnect_narrows hactive announceLeave with
      ⟨hnarrows, hnone⟩
    rw [← Bool.not_eq_true, nsServerUsernameInUse_iff]
    rintro ⟨other, -, -, hother, hname⟩
    have hafter := NsClient.identity_eq_some.mpr ⟨hother, rfl, rfl⟩
    rcases hnarrows other with hgone | hkept
    · exact absurd (hafter.symm.trans hgone) (Option.some_ne_none _)
    · have hbefore := hkept.symm.trans hafter
      rw [hname] at hbefore
      have heq := hidentified.distinct other index _ _ _ hbefore
        (hidentity index hjoined)
      subst heq
      exact absurd (hafter.symm.trans hnone) (Option.some_ne_none _)

theorem identified_boot (tables : Tables) (listenSocket : NsSocket)
    (errno : Errno) (clock : Clock) :
    Identified (World.boot tables listenSocket errno clock) := by
  have hnone : ∀ index,
      (World.boot tables listenSocket errno clock).identity index = none :=
    fun _ => rfl
  constructor
  · intro index userId name hidentity
    rw [hnone] at hidentity
    exact absurd hidentity.symm (Option.some_ne_none _)
  · intro left right userId userId' name hleft
    rw [hnone] at hleft
    exact absurd hleft.symm (Option.some_ne_none _)

theorem identified_run (tables : Tables) (listenSocket : NsSocket)
    (errno : Errno) (clock : Clock) (events : List Event) :
    Identified (run World.step
      (World.boot tables listenSocket errno clock) events) :=
  run_boot_invariant
    (fun _ _ hsettled hinv hmove => Move.identified hmove hsettled hinv)
    (identified_boot tables listenSocket errno clock) events

/-- Identities of connected users are unique in every run that uses up fewer
than 2^32 row ids of `users`. -/
theorem identities_unique (tables : Tables) (listenSocket : NsSocket)
    (errno : Errno) (clock : Clock) (events : List Event)
    (hids : (run World.step (World.boot tables listenSocket errno clock)
      events).database.tables.usersSeq < 2 ^ 32) :
    UniqueIdentities (run World.step
      (World.boot tables listenSocket errno clock) events) :=
  uniqueIdentities_of_identified
    (identified_run tables listenSocket errno clock events) hids

def joinRequest (letter : UInt8) : RecvSocket where
  pending := [1, 1, 0, 0, 0, 0, 0, 0, 0, 0, 0, 0, 0, 1, letter]
  ending := .failed .eagain
  chunks := []

/-- The JOIN that `joinRequest` holds. -/
def joinPacket (letter : UInt8) : NsPacket :=
  .filled ⟨nsProtocolVersion, NsPacketType.join.code, 0, 0, 1⟩ [letter]
    (by simp [nsPacketBodyMax])

set_option maxRecDepth 100000 in
theorem identities_unique_example :
    UniqueIdentities (run World.step
      (World.boot .empty 3 .eagain fun _ => 0)
      [.accept (.connection 4 []), .accept (.connection 5 []),
        .readable ⟨0, nsMaxClients_pos⟩ (joinRequest 97) fun _ => false,
        .readable ⟨1, by decide⟩ (joinRequest 98) fun _ => false]) :=
  identities_unique .empty 3 .eagain (fun _ => 0) _ (by decide +kernel)

/-- The only user "a" has joined so often that nearly all row ids of 32 bits
are used up. -/
def wornTables : Tables := .worn (2 ^ 32 - 3)

/-- Now "a", "b" and "c" join. -/
def wornEvents : List Event :=
  [.accept (.connection 4 []), .accept (.connection 5 []),
    .accept (.connection 6 []),
    .readable ⟨0, nsMaxClients_pos⟩ (joinRequest 97) fun _ => false,
    .readable ⟨1, one_lt_nsMaxClients⟩ (joinRequest 98) fun _ => false,
    .readable ⟨2, two_lt_nsMaxClients⟩ (joinRequest 99) fun _ => false]

def wornRun : World :=
  run World.step (World.boot wornTables 3 .eagain fun _ => 0) wornEvents

set_option maxRecDepth 100000 in
theorem wornRun_clients :
    wornRun.database.tables.users.map UserRow.id =
        [1, 2 ^ 32, 2 ^ 32 + 1] ∧
      (wornRun.clients ⟨0, nsMaxClients_pos⟩).joined ∧
      (wornRun.clients ⟨0, nsMaxClients_pos⟩).active ∧
      (wornRun.clients ⟨0, nsMaxClients_pos⟩).userId = 1 ∧
      (wornRun.clients ⟨2, by decide⟩).joined ∧
      (wornRun.clients ⟨2, by decide⟩).active ∧
      (wornRun.clients ⟨2, by decide⟩).userId = 1 := by
  decide +kernel

/-- Three users are enough for two of them to share an id. -/
theorem identities_not_always_unique :
    ¬ ∀ tables listenSocket errno clock events,
      (run World.step (World.boot tables listenSocket errno clock)
        events).database.tables.users.length < 2 ^ 32 →
      UniqueIdentities (run World.step
        (World.boot tables listenSocket errno clock) events) := by
  intro hall
  obtain ⟨hids, hjoined, hactive, huserId, hjoined', hactive', huserId'⟩ :=
    wornRun_clients
  have hfew : wornRun.database.tables.users.length < 2 ^ 32 := by
    have hlength := congrArg List.length hids
    rw [List.length_map] at hlength
    rw [hlength]
    decide
  have hunique := hall wornTables 3 .eagain (fun _ => 0) wornEvents
  rw [← wornRun] at hunique
  exact (hunique hfew).userIds _ _ (by decide) hactive hjoined hactive' hjoined'
    (huserId.trans huserId'.symm)

end NodeSignal
