import NodeSignal.ChatSegments
import NodeSignal.History
import NodeSignal.Rooms
import NodeSignal.Simulations

/-!
# The server keeps a chat room

Seen from its members, the server is a room: a joined slot is a seat, a
broadcast is an announcement, and a client whose buffer is full or whose
connection fails loses the seat without a word.  Every move of the server is
one step of the room or none.
-/

namespace NodeSignal

open CStrings Relation Rooms Runs Simulations

/-- The id and the name that a member is seated under. -/
abbrev Who := UInt32 × List UInt8

abbrev ChatNotice := Notice Who (List UInt8)

/-- The members are the connections. -/
abbrev ChatRoom := Room ℕ Who (List UInt8)

def ChatNotice.type : ChatNotice → NsPacketType
  | .entered _ => .join
  | .said _ _ => .text
  | .left _ => .leave

def ChatNotice.body : ChatNotice → List UInt8
  | .entered who => joinText who.2
  | .said who remark => who.2 ++ literal ": " ++ remark
  | .left who => leaveText who.2

/-- The packet is what `ns_packet_set` makes of the notice at some time. -/
def Shows (notice : ChatNotice) (packet : NsPacket) : Prop :=
  ∃ timestamp, nsPacketSet (ChatNotice.type notice).code notice.who.1
    timestamp (some (ChatNotice.body notice)) = some packet

/-- The notices among what was appended for the connection. -/
def noticesTo (connection : ℕ) (trace : List Obs) : List NsPacket :=
  (chat connection trace).filter fun packet =>
    packet.header.type ≠ NsPacketType.ack.code

/-- What has been said, by whom. -/
def remarks (log : List ChatNotice) : List (Who × List UInt8) :=
  log.filterMap fun notice =>
    match notice with
    | .said who remark => some (who, remark)
    | _ => none

/-- Who is seated on the connection. -/
def World.seats (w : World) (connection : ℕ) : Option Who :=
  (List.finRange nsMaxClients).findSome? fun index =>
    if w.connection index = connection then w.identity index else none

structure Depicts (w : World) (room : ChatRoom) : Prop where
  seats : room.seats = w.seats
  heard : ∀ connection,
    List.Forall₂ Shows (room.heard connection)
      (noticesTo connection w.trace)
  log : List.Forall₂ Shows room.log (broadcasts w.trace)

/-- The rows that were added are what has been said. -/
def Archived (before : Tables) (w : World) (log : List ChatNotice) : Prop :=
  ∃ rows, w.database.tables.messages = before.messages ++ rows ∧
    rows.map (fun row => (row.senderId, row.body)) =
      (remarks log).map fun remark => (remark.1.1.toNat, remark.2)

/-! ## Seats -/

section Seats

variable {w w' : World} {index : SlotIndex}

theorem World.seats_congr
    (hsame : ∀ index connection,
      (if w'.connection index = connection then w'.identity index
        else none) =
      if w.connection index = connection then w.identity index else none) :
    w'.seats = w.seats := by
  funext connection
  unfold World.seats
  simp only [hsame]

theorem World.seats_of_same (hconnection : w'.connection = w.connection)
    (hidentity : ∀ index, w'.identity index = w.identity index) :
    w'.seats = w.seats :=
  seats_congr fun index connection => by rw [hconnection, hidentity]

/-- No other slot with an identity has the connection of this one. -/
def World.Apart (w : World) (index : SlotIndex) : Prop :=
  ∀ other, w.connection other = w.connection index →
    w.identity other ≠ none → other = index

theorem World.seats_slot (hapart : w.Apart index) :
    w.seats (w.connection index) = w.identity index := by
  unfold World.seats
  cases hfound : (List.finRange nsMaxClients).findSome? fun other =>
      if w.connection other = w.connection index then w.identity other
      else none with
  | none =>
      have hnone := List.findSome?_eq_none_iff.mp hfound index
        (List.mem_finRange index)
      rw [if_pos rfl] at hnone
      exact hnone.symm
  | some who =>
      obtain ⟨other, -, hother⟩ := List.exists_of_findSome?_eq_some hfound
      split at hother
      · next hsame =>
          have heq := hapart other hsame (by simp [hother])
          rw [heq] at hother
          exact hother.symm
      · exact absurd hother (Option.some_ne_none who).symm

theorem World.seats_eq_none {connection : ℕ}
    (hnobody : ∀ index, w.connection index = connection →
      w.identity index = none) : w.seats connection = none := by
  unfold World.seats
  rw [List.findSome?_eq_none_iff]
  intro index _
  split
  · next hsame => exact hnobody index hsame
  · rfl

/-- Whoever is seated is seated in a slot. -/
theorem World.exists_of_seats {connection : ℕ} {who : Who}
    (hseat : w.seats connection = some who) :
    ∃ index, w.connection index = connection ∧
      w.identity index = some who := by
  obtain ⟨index, -, hindex⟩ := List.exists_of_findSome?_eq_some hseat
  split at hindex
  · next hsame => exact ⟨index, hsame, hindex⟩
  · exact absurd hindex (Option.some_ne_none who).symm

/-- One slot changes, and with it one seat. -/
theorem World.seats_update {who : Option Who}
    (hconnection : w'.connection = w.connection)
    (hself : w'.identity index = who)
    (hothers : ∀ other, other ≠ index →
      w'.identity other = w.identity other)
    (hapart : w.Apart index) :
    w'.seats = Function.update w.seats (w.connection index) who := by
  funext connection
  by_cases hsame : connection = w.connection index
  · rw [hsame, Function.update_self, ← hself, ← hconnection]
    apply World.seats_slot
    intro other hother hidentity
    by_contra hne
    rw [hconnection] at hother
    rw [hothers other hne] at hidentity
    exact hne (hapart other hother hidentity)
  · rw [Function.update_of_ne hsame]
    unfold World.seats
    congr 1
    funext other
    rw [hconnection]
    by_cases hother : other = index
    · rw [hother, if_neg fun h => hsame h.symm, if_neg fun h =>
        hsame h.symm]
    · rw [hothers other hother]

theorem identity_of_clients {client : NsClient}
    (hclients : w'.clients = Function.update w.clients index client) :
    w'.identity index = client.identity ∧
      ∀ other, other ≠ index → w'.identity other = w.identity other := by
  constructor
  · rw [World.identity, hclients, Function.update_self]
  · intro other hne
    rw [World.identity, hclients, Function.update_of_ne hne]
    rfl

theorem identity_eq_none_iff {client : NsClient} :
    client.identity = none ↔ client.joined = false := by
  unfold NsClient.identity
  split_ifs with hjoined <;> simp [hjoined]

theorem identity_of_joined (hjoined : (w.clients index).joined) :
    w.identity index =
      some ((w.clients index).userId, text (w.clients index).username) :=
  if_pos hjoined

end Seats

/-! ## Moves without a word -/

section Notices

variable {w w' : World} {room : ChatRoom}

@[simp] theorem noticesTo_append (connection : ℕ) (before after : List Obs) :
    noticesTo connection (before ++ after) =
      noticesTo connection before ++ noticesTo connection after := by
  simp [noticesTo]

theorem noticesTo_of_chat {connection : ℕ} {trace : List Obs}
    (hchat : chat connection trace = []) :
    noticesTo connection trace = [] := by
  rw [noticesTo, hchat]
  rfl

/-- Nothing is said, and nobody comes or goes but by losing a seat. -/
theorem Depicts.silent (hdepicts : Depicts w room) {notes : List Obs}
    (htrace : w'.trace = w.trace ++ notes)
    (hnotices : ∀ connection, noticesTo connection notes = [])
    (hlog : broadcasts notes = []) {room' : ChatRoom}
    (hseats : w'.seats = room'.seats) (hheard : room'.heard = room.heard)
    (hroomLog : room'.log = room.log) : Depicts w' room' where
  seats := hseats.symm
  heard := by
    intro connection
    rw [hheard, htrace, noticesTo_append, hnotices, List.append_nil]
    exact hdepicts.heard connection
  log := by
    rw [hroomLog, htrace, broadcasts_append, hlog, List.append_nil]
    exact hdepicts.log

theorem Depicts.same (hdepicts : Depicts w room) {notes : List Obs}
    (htrace : w'.trace = w.trace ++ notes)
    (hquiet : ∀ connection, Quiet connection notes)
    (hseats : w'.seats = w.seats) : Depicts w' room :=
  hdepicts.silent htrace
    (fun connection => noticesTo_of_chat (hquiet connection).chat)
    (hquiet 0).log (hseats.trans hdepicts.seats.symm) rfl rfl

theorem Archived.same {before : Tables} {log : List ChatNotice}
    (harchived : Archived before w log)
    (hmessages : w'.database.tables.messages = w.database.tables.messages) :
    Archived before w' log := by
  obtain ⟨rows, hrows, hremarks⟩ := harchived
  exact ⟨rows, hmessages.trans hrows, hremarks⟩

theorem Archived.notice {before : Tables} {log : List ChatNotice}
    (harchived : Archived before w log)
    (hmessages : w'.database.tables.messages = w.database.tables.messages)
    {notice : ChatNotice} (hturns : notice.Turns) :
    Archived before w' (log ++ [notice]) := by
  have hremarks : remarks (log ++ [notice]) = remarks log := by
    cases notice with
    | said who remark => exact hturns.elim
    | entered who => simp [remarks]
    | left who => simp [remarks]
  obtain ⟨rows, hrows, hsaid⟩ := harchived
  exact ⟨rows, hmessages.trans hrows, by rw [hremarks]; exact hsaid⟩

end Notices

/-! ## Announcements -/

section Announcements

variable {w : World} {room : ChatRoom} {notice : ChatNotice}
  {packet : NsPacket}

theorem Shows.header (hshows : Shows notice packet) :
    packet.header.bodyLen.toNat ≤ nsPacketBodyMax ∧
      packet.header.type = (ChatNotice.type notice).code := by
  obtain ⟨timestamp, hset⟩ := hshows
  exact ⟨nsPacketSet_bodyLen hset, (nsPacketSet_eq_some hset).2.1⟩

theorem Shows.type_ne (hshows : Shows notice packet) :
    packet.header.type ≠ NsPacketType.error.code ∧
      packet.header.type ≠ NsPacketType.ack.code := by
  rw [hshows.header.2]
  cases notice <;> simp [ChatNotice.type, NsPacketType.code]

/-- The slots in use have connections of their own, and a joined slot is in
use. -/
structure World.Seated (w : World) : Prop where
  distinct : ∀ left right, (w.clients left).active →
    (w.clients right).active →
      w.connection left = w.connection right → left = right
  active : ∀ index, (w.clients index).joined → (w.clients index).active

theorem World.Seated.apart (hseated : w.Seated) {index : SlotIndex}
    (hactive : (w.clients index).active) : w.Apart index := by
  intro other hsame hidentity
  have hjoined : (w.clients other).joined = true := by
    by_contra hunjoined
    exact hidentity (identity_eq_none_iff.mpr (by simpa using hunjoined))
  exact hseated.distinct other index (hseated.active other hjoined) hactive
    hsame

theorem joined_of_identity {index : SlotIndex} {who : Who}
    (hidentity : w.identity index = some who) :
    (w.clients index).joined :=
  (NsClient.identity_eq_some.mp hidentity).1

section Broadcast

variable (hlen : packet.header.bodyLen.toNat ≤ nsPacketBodyMax)
  {excludeIndex : Option SlotIndex} {index : SlotIndex}

include hlen

/-- Whoever the broadcast reaches keeps the seat. -/
theorem identity_of_enqueued {buf : NsSendBuf}
    (henqueue : nsClientEnqueueSend (w.clients index).sendBuf
      (wireBuffer packet hlen) = some buf) :
    (nsServerBroadcast w packet excludeIndex).identity index =
      w.identity index := by
  rw [World.identity, nsServerBroadcast_clients packet hlen,
    broadcastClient, henqueue]
  split <;> rfl

theorem identity_of_overflowed
    (hrecipient : Recipient excludeIndex index (w.clients index))
    (henqueue : nsClientEnqueueSend (w.clients index).sendBuf
      (wireBuffer packet hlen) = none) :
    (nsServerBroadcast w packet excludeIndex).identity index = none := by
  rw [World.identity, nsServerBroadcast_clients packet hlen,
    broadcastClient, if_pos hrecipient, henqueue]
  rfl

theorem World.Seated.broadcast_apart (hseated : w.Seated)
    (hactive : (w.clients index).active) :
    (nsServerBroadcast w packet excludeIndex).Apart index := by
  intro other hsame hidentity
  rw [(nsServerBroadcast_frame packet hlen excludeIndex w).1] at hsame
  refine hseated.apart hactive other hsame ?_
  rcases narrows_broadcast w hlen excludeIndex other with hnone | hkept
  · exact absurd hnone hidentity
  · rw [← hkept]
    exact hidentity

/-- Who is seated after the broadcast was seated before, in the same slot,
and received the packet unless excluded. -/
theorem seated_after_broadcast {connection : ℕ} {who : Who}
    (hseat : (nsServerBroadcast w packet excludeIndex).seats connection =
      some who) :
    ∃ index, w.connection index = connection ∧
      w.identity index = some who ∧
      (Recipient excludeIndex index (w.clients index) →
        ∃ buf, nsClientEnqueueSend (w.clients index).sendBuf
          (wireBuffer packet hlen) = some buf) := by
  obtain ⟨index, hconnection, hidentity⟩ := World.exists_of_seats hseat
  rw [(nsServerBroadcast_frame packet hlen excludeIndex w).1] at hconnection
  refine ⟨index, hconnection, ?_, ?_⟩
  · rcases narrows_broadcast w hlen excludeIndex index with hnone | hkept
    · exact absurd (hnone.symm.trans hidentity)
        (Option.some_ne_none who).symm
    · exact hkept.symm.trans hidentity
  · intro hrecipient
    cases henqueue : nsClientEnqueueSend (w.clients index).sendBuf
        (wireBuffer packet hlen) with
    | none =>
        have hnone := identity_of_overflowed hlen hrecipient henqueue
        exact absurd (hnone.symm.trans hidentity)
          (Option.some_ne_none who).symm
    | some buf => exact ⟨buf, rfl⟩

theorem chat_broadcast_fanout (connection : ℕ) :
    chat connection (.broadcast packet :: fanout packet hlen excludeIndex w) =
      chat connection (fanout packet hlen excludeIndex w) := by
  have hsilent : chat connection [.broadcast packet] = [] := rfl
  rw [chat_cons, hsilent, List.nil_append]

/-- Who keeps the seat and is not excluded gets the packet. -/
theorem noticesTo_seated (hseated : w.Seated)
    (htype : packet.header.type ≠ NsPacketType.error.code ∧
      packet.header.type ≠ NsPacketType.ack.code) {connection : ℕ}
    {who : Who}
    (hseat : (nsServerBroadcast w packet excludeIndex).seats connection =
      some who)
    (hincluded : some connection ≠ excludeIndex.map w.connection) :
    noticesTo connection
      (.broadcast packet :: fanout packet hlen excludeIndex w) =
        [packet] := by
  obtain ⟨index, rfl, hidentity, henqueued⟩ :=
    seated_after_broadcast hlen hseat
  have hjoined := joined_of_identity hidentity
  have hrecipient : Recipient excludeIndex index (w.clients index) := by
    refine ⟨hseated.active index hjoined, hjoined, ?_⟩
    rintro rfl
    exact hincluded rfl
  obtain ⟨buf, henqueue⟩ := henqueued hrecipient
  have hchat := (fanout_enqueued hlen excludeIndex hseated.distinct
    hrecipient henqueue htype.1).1
  rw [noticesTo, chat_broadcast_fanout hlen, hchat]
  simp [htype.2]

/-- Nobody else gets anything. -/
theorem noticesTo_others (hseated : w.Seated)
    (hexclude : ∀ index, excludeIndex = some index →
      (w.clients index).active) {connection : ℕ}
    (hmisses : (nsServerBroadcast w packet excludeIndex).seats connection =
        none ∨ some connection = excludeIndex.map w.connection) :
    noticesTo connection
      (.broadcast packet :: fanout packet hlen excludeIndex w) = [] := by
  apply noticesTo_of_chat
  rw [chat_broadcast_fanout hlen]
  by_cases hsome : ∃ index,
      Recipient excludeIndex index (w.clients index) ∧
        w.connection index = connection
  · obtain ⟨index, hrecipient, rfl⟩ := hsome
    cases henqueue : nsClientEnqueueSend (w.clients index).sendBuf
        (wireBuffer packet hlen) with
    | none =>
        exact (fanout_overflowed hlen excludeIndex hseated.distinct
          hrecipient henqueue).1
    | some buf =>
        exfalso
        rcases hmisses with hnone | hexcluded
        · have hapart : (nsServerBroadcast w packet excludeIndex).Apart
              index := hseated.broadcast_apart hlen hrecipient.1
          have hslot := World.seats_slot hapart
          rw [(nsServerBroadcast_frame packet hlen excludeIndex w).1,
            identity_of_enqueued hlen henqueue,
            identity_of_joined hrecipient.2.1, hnone] at hslot
          exact Option.some_ne_none _ hslot.symm
        · obtain ⟨other, hother, hsame⟩ :=
            Option.map_eq_some_iff.mp hexcluded.symm
          have heq := hseated.distinct index other hrecipient.1
            (hexclude other hother) hsame.symm
          exact hrecipient.2.2 (by rw [hother, heq])
  · exact (fanout_other hlen excludeIndex fun index hrecipient hsame =>
      hsome ⟨index, hrecipient, hsame⟩).1

end Broadcast

/-- A broadcast is an announcement. -/
theorem Depicts.announced (hdepicts : Depicts w room)
    (hseated : w.Seated) (hshows : Shows notice packet)
    {excludeIndex : Option SlotIndex}
    (hexclude : ∀ index, excludeIndex = some index →
      (w.clients index).active) :
    ∃ room',
      Rooms.Announced notice (excludeIndex.map w.connection) room room' ∧
      Depicts (nsServerBroadcast w packet excludeIndex) room' := by
  classical
  have hlen := hshows.header.1
  obtain ⟨seats, hseats⟩ : ∃ seats,
      (nsServerBroadcast w packet excludeIndex).seats = seats := ⟨_, rfl⟩
  let gets : ℕ → Prop := fun connection =>
    (seats connection).isSome ∧
      some connection ≠ excludeIndex.map w.connection
  let heard : ℕ → List ChatNotice := fun connection =>
    if gets connection then room.heard connection ++ [notice]
    else room.heard connection
  refine ⟨⟨seats, heard, room.log ++ [notice]⟩, ?_, ?_⟩
  · refine ⟨?_, ?_, ?_, rfl⟩
    · intro connection
      change seats connection = _ ∨ seats connection = none
      rw [hdepicts.seats]
      cases hseat : seats connection with
      | none => exact Or.inr rfl
      | some who =>
          left
          rw [← hseats] at hseat
          obtain ⟨index, rfl, hidentity, -⟩ :=
            seated_after_broadcast hlen hseat
          have hactive := hseated.active index
            (joined_of_identity hidentity)
          rw [World.seats_slot (hseated.apart hactive), hidentity]
    · exact fun connection hseat hexcept => if_pos ⟨hseat, hexcept⟩
    · intro connection hmisses
      refine if_neg fun hgets => ?_
      rcases hmisses with hnone | hexcept
      · change seats connection = none at hnone
        have hsome := hgets.1
        rw [hnone] at hsome
        exact absurd hsome Bool.false_ne_true
      · exact hgets.2 hexcept
  · refine ⟨hseats.symm, ?_, ?_⟩
    · intro connection
      rw [nsServerBroadcast_trace packet hlen, noticesTo_append]
      change List.Forall₂ Shows (heard connection) _
      by_cases hgets : gets connection
      · have hheard : heard connection =
            room.heard connection ++ [notice] := if_pos hgets
        obtain ⟨who, hseat⟩ := Option.isSome_iff_exists.mp hgets.1
        rw [← hseats] at hseat
        rw [noticesTo_seated hlen hseated hshows.type_ne hseat hgets.2,
          hheard]
        exact List.rel_append (hdepicts.heard connection)
          (.cons hshows .nil)
      · have hheard : heard connection = room.heard connection :=
          if_neg hgets
        have hmisses : seats connection = none ∨
            some connection = excludeIndex.map w.connection := by
          rw [not_and_or, not_not, Option.not_isSome_iff_eq_none] at hgets
          exact hgets
        rw [← hseats] at hmisses
        rw [noticesTo_others hlen hseated hexclude hmisses, hheard,
          List.append_nil]
        exact hdepicts.heard connection
    · rw [broadcasts_nsServerBroadcast packet hlen]
      exact List.rel_append hdepicts.log (.cons hshows .nil)

end Announcements

/-! ## Moves -/

section Moves

variable {w w' : World} {room : ChatRoom} {index : SlotIndex}
  {before : Tables}

theorem seated_of_order (hsettled : Settled w) (horder : ChatOrder w) :
    w.Seated :=
  ⟨horder.distinct, hsettled.active⟩

theorem Archived.said {log : List ChatNotice}
    (harchived : Archived before w log) {row : MessageRow}
    (hmessages : w'.database.tables.messages =
      w.database.tables.messages ++ [row]) {who : Who}
    {remark : List UInt8} (hsender : row.senderId = who.1.toNat)
    (hbody : row.body = remark) :
    Archived before w' (log ++ [.said who remark]) := by
  obtain ⟨rows, hrows, hsaid⟩ := harchived
  refine ⟨rows ++ [row], ?_, ?_⟩
  · rw [hmessages, hrows, List.append_assoc]
  · rw [List.map_append, hsaid]
    simp [remarks, hsender, hbody]

/-- A released slot is a seat that is empty, said or not. -/
theorem Depicts.released (hdepicts : Depicts w room)
    (hapart : w.Apart index) {notes : List Obs}
    (htrace : w'.trace = w.trace ++ notes)
    (hnotices : ∀ connection, noticesTo connection notes = [])
    (hlog : broadcasts notes = [])
    (hclients : w'.clients = Function.update w.clients index .reset)
    (hconnection : w'.connection = w.connection) :
    Depicts w' (room.seat (w.connection index) none) := by
  obtain ⟨hself, hothers⟩ := identity_of_clients hclients
  have hidentity : w'.identity index = none := hself
  refine hdepicts.silent htrace hnotices hlog ?_ rfl rfl
  rw [World.seats_update hconnection hidentity hothers hapart, Room.seat,
    hdepicts.seats]

theorem noticesTo_quiet {notes : List Obs}
    (hquiet : ∀ connection, Quiet connection notes) (connection : ℕ) :
    noticesTo connection notes = [] :=
  noticesTo_of_chat (hquiet connection).chat

theorem noticesTo_leaving (connection connection' : ℕ)
    (client : NsClient) :
    noticesTo connection (.disconnected connection' ::
      closingNotes client connection') = [] := by
  apply noticesTo_of_chat
  have hsilent : chat connection [.disconnected connection'] = [] := rfl
  rw [chat_cons, hsilent, chat_closingNotes]
  rfl

theorem broadcasts_leaving (connection : ℕ) (client : NsClient) :
    broadcasts (.disconnected connection ::
      closingNotes client connection) = [] := by
  rw [broadcasts_cons, broadcasts_closingNotes]
  rfl

theorem shows_joined {username : List UInt8} {userId timestamp : UInt32}
    {notice : NsPacket}
    (hnotice : nsPacketSet NsPacketType.join.code userId timestamp
      (some (joinText username)) = some notice) :
    Shows (.entered (userId, text username)) notice := by
  refine ⟨timestamp, ?_⟩
  have hname : text (text username) = text username :=
    text_of_zero_notMem (zero_notMem_text username)
  simp only [ChatNotice.body, joinText, hname]
  exact hnotice

theorem shows_departed {username : List UInt8} {userId timestamp : UInt32}
    {notice : NsPacket}
    (hnotice : nsPacketSet NsPacketType.leave.code userId timestamp
      (some (leaveText username)) = some notice) :
    Shows (.left (userId, text username)) notice := by
  refine ⟨timestamp, ?_⟩
  have hname : text (text username) = text username :=
    text_of_zero_notMem (zero_notMem_text username)
  simp only [ChatNotice.body, leaveText, hname]
  exact hnotice

/-- The newcomer is seated before anything is announced. -/
theorem Depicts.seated (hdepicts : Depicts w room)
    (hapart : w.Apart index) {username : List UInt8} {userId : UInt32}
    {ack : NsPacket} {buf : NsSendBuf}
    (hack : ack.header.type = NsPacketType.ack.code) :
    Depicts ((w.seated index userId username).appended index ack buf)
      (room.seat (w.connection index) (some (userId, text username))) := by
  obtain ⟨hclients, hconnection, -, htrace⟩ :=
    seated_appended w index userId username ack buf
  obtain ⟨hself, hothers⟩ := identity_of_clients hclients
  refine hdepicts.silent htrace ?_ ?_ ?_ rfl rfl
  · intro connection
    simp only [noticesTo, chat, received, Obs.receipt,
      List.filterMap_cons, List.filterMap_nil]
    split <;> simp_all
  · rfl
  · rw [World.seats_update hconnection (hself.trans rfl) hothers hapart,
      Room.seat, hdepicts.seats]
    rfl

theorem Depicts.joined (hdepicts : Depicts w room) (hsettled : Settled w)
    (horder : ChatOrder w) (harchived : Archived before w room.log)
    {username : List UInt8} {userId timestamp timestamp' : UInt32}
    {ack notice : NsPacket} {buf : NsSendBuf}
    (hactive : (w.clients index).active)
    (hjoined : (w.clients index).joined = false)
    (hunused : ∀ other, other ≠ index → (w.clients other).active →
      (w.clients other).joined →
        text (w.clients other).username ≠ text username)
    (hack : nsPacketSet NsPacketType.ack.code userId timestamp
      (some (statusText username)) = some ack)
    (hnotice : nsPacketSet NsPacketType.join.code userId timestamp'
      (some (joinText username)) = some notice) :
    ∃ room', Step Prod.snd room room' ∧
      Depicts (nsServerBroadcast
        ((w.seated index userId username).appended index ack buf) notice
          none) room' ∧
      Archived before (nsServerBroadcast
        ((w.seated index userId username).appended index ack buf) notice
          none) room'.log := by
  have hseated := seated_of_order hsettled horder
  have hapart := hseated.apart hactive
  have hidentity : w.identity index = none :=
    identity_eq_none_iff.mpr hjoined
  have hshows := shows_joined hnotice
  obtain ⟨hclients, hconnection, -, -⟩ :=
    seated_appended w index userId username ack buf
  have hslots : ∀ other,
      (((w.seated index userId username).appended index ack buf).clients
        other).active = (w.clients other).active := by
    intro other
    rw [hclients]
    by_cases hother : other = index
    · rw [hother, Function.update_self]
    · rw [Function.update_of_ne hother]
  have hthen : ((w.seated index userId username).appended index ack
      buf).Seated := by
    refine ⟨?_, ?_⟩
    · intro left right hleft hright
      rw [hconnection]
      rw [hslots] at hleft hright
      exact hseated.distinct left right hleft hright
    · intro other hother
      rw [hslots]
      by_cases hsame : other = index
      · rw [hsame]
        exact hactive
      · rw [hclients, Function.update_of_ne hsame] at hother
        exact hseated.active other hother
  have hnow : Depicts
      ((w.seated index userId username).appended index ack buf)
      (room.seat (w.connection index) (some (userId, text username))) :=
    hdepicts.seated hapart (nsPacketSet_eq_some hack).2.1
  have hnobody : ∀ other : SlotIndex, none = some other →
      (((w.seated index userId username).appended index ack buf).clients
        other).active :=
    fun other hnone => absurd hnone (Option.some_ne_none other).symm
  obtain ⟨room', hannounced, hafter⟩ :=
    hnow.announced hthen hshows hnobody
  refine ⟨room', ?_, hafter, ?_⟩
  · apply Step.enter room room' (w.connection index)
      (userId, text username) _ _ _ hannounced
    · rw [hdepicts.seats, World.seats_slot hapart, hidentity]
    · have hheard := hdepicts.heard (w.connection index)
      rw [noticesTo_of_chat (horder.waiting index hactive hjoined).nothing]
        at hheard
      exact List.forall₂_nil_right_iff.mp hheard
    · intro connection who hseat
      rw [hdepicts.seats] at hseat
      obtain ⟨other, -, hwho⟩ := World.exists_of_seats hseat
      obtain ⟨hjoined', -, hname⟩ := NsClient.identity_eq_some.mp hwho
      rw [← hname]
      refine hunused other ?_ (hseated.active other hjoined') hjoined'
      rintro rfl
      exact absurd (hidentity.symm.trans hwho) (Option.some_ne_none who).symm
  · have hturns : Notice.Turns
        (.entered (userId, text username) : ChatNotice) := trivial
    rw [hannounced.log]
    apply harchived.notice _ hturns
    rw [(nsServerBroadcast_frame notice (nsPacketSet_bodyLen hnotice) none
      _).2.2]
    rfl

theorem Depicts.texted (hdepicts : Depicts w room) (hsettled : Settled w)
    (horder : ChatOrder w) (harchived : Archived before w room.log)
    {database : NsDatabase} {row : MessageRow} {timestamp : UInt32}
    {packet : NsPacket} (hactive : (w.clients index).active)
    (hjoined : (w.clients index).joined)
    (hmessages : database.tables.messages =
      w.database.tables.messages ++ [row])
    (hsender : row.senderId = (w.clients index).userId.toNat)
    (hpacket : nsPacketSet NsPacketType.text.code
      (w.clients index).userId timestamp
      (some (text (w.clients index).username ++ literal ": " ++
        row.body)) = some packet) :
    ∃ room', Step Prod.snd room room' ∧
      Depicts (nsServerBroadcast { w with database := database } packet
        none) room' ∧
      Archived before (nsServerBroadcast { w with database := database }
        packet none) room'.log := by
  have hseated := seated_of_order hsettled horder
  have hnow : Depicts { w with database := database } room :=
    ⟨hdepicts.seats, hdepicts.heard, hdepicts.log⟩
  have hthen : ({ w with database := database } : World).Seated :=
    ⟨hseated.distinct, hseated.active⟩
  have hshows : Shows (.said ((w.clients index).userId,
      text (w.clients index).username) row.body) packet :=
    ⟨timestamp, hpacket⟩
  have hnobody : ∀ other : SlotIndex, none = some other →
      (w.clients other).active :=
    fun other hnone => absurd hnone (Option.some_ne_none other).symm
  obtain ⟨room', hannounced, hafter⟩ :=
    hnow.announced hthen hshows hnobody
  refine ⟨room', ?_, hafter, ?_⟩
  · apply Step.say room room' (w.connection index) _ _ _ hannounced
    rw [hdepicts.seats, World.seats_slot (hseated.apart hactive),
      identity_of_joined hjoined]
  · rw [hannounced.log]
    refine harchived.said ?_ hsender rfl
    rw [(nsServerBroadcast_frame packet (nsPacketSet_bodyLen hpacket) none
      _).2.2]
    exact hmessages

theorem Depicts.departed (hdepicts : Depicts w room)
    (hsettled : Settled w) (horder : ChatOrder w)
    (harchived : Archived before w room.log) {timestamp : UInt32}
    {notice : NsPacket} (hactive : (w.clients index).active)
    (hjoined : (w.clients index).joined)
    (hnotice : nsPacketSet NsPacketType.leave.code
      (w.clients index).userId timestamp
      (some (leaveText (w.clients index).username)) = some notice) :
    ∃ room', Step Prod.snd room room' ∧
      Depicts (w.departed index notice) room' ∧
      Archived before (w.departed index notice) room'.log := by
  have hlen := nsPacketSet_bodyLen hnotice
  have hseated := seated_of_order hsettled horder
  have hquiet : ∀ connection, noticesTo connection
      [.disconnected (w.connection index)] = [] := fun _ => rfl
  have hnow : Depicts (w.observe (.disconnected (w.connection index)))
      room :=
    hdepicts.silent rfl hquiet rfl hdepicts.seats.symm rfl rfl
  have hthen : (w.observe (.disconnected (w.connection index))).Seated :=
    ⟨hseated.distinct, hseated.active⟩
  have hshows := shows_departed hnotice
  have hself : ∀ other : SlotIndex, some index = some other →
      (w.clients other).active := by
    intro other hsame
    rw [← Option.some.inj hsame]
    exact hactive
  obtain ⟨middle, hannounced, hafter⟩ :=
    hnow.announced hthen hshows hself
  have hframe := nsServerBroadcast_frame notice hlen (some index)
    (w.observe (.disconnected (w.connection index)))
  have hapart : (nsServerBroadcast
      (w.observe (.disconnected (w.connection index))) notice
        (some index)).Apart index := hthen.broadcast_apart hlen hactive
  refine ⟨middle.seat (w.connection index) none, ?_, ?_, ?_⟩
  · apply Step.leave room middle (w.connection index) _ _ hannounced
    rw [hdepicts.seats, World.seats_slot (hseated.apart hactive),
      identity_of_joined hjoined]
  · have hreleased := hafter.released hapart (releaseSlot_trace _ index)
      (fun connection => noticesTo_of_chat (chat_closingNotes _ _ _))
      (broadcasts_closingNotes _ _) (releaseSlot_clients _ index) rfl
    rw [hframe.1] at hreleased
    exact hreleased
  · have hturns : Notice.Turns (.left ((w.clients index).userId,
        text (w.clients index).username) : ChatNotice) := trivial
    change Archived before _ middle.log
    rw [hannounced.log]
    apply harchived.notice _ hturns
    change (nsServerBroadcast _ _ _).database.tables.messages = _
    rw [hframe.2.2]
    rfl

/-- Every move of the server is a step of the room or none. -/
theorem Move.enacted {allow : World → NsSocket → Prop}
    (hmove : Move allow w w') (hsettled : Settled w)
    (horder : ChatOrder w) (hdepicts : Depicts w room)
    (harchived : Archived before w room.log) :
    ∃ room', ReflTransGen (Step Prod.snd) room room' ∧ Depicts w' room' ∧
      Archived before w' room'.log := by
  have hseated := seated_of_order hsettled horder
  have hstays : ∀ {v : World} (notes : List Obs),
      v.trace = w.trace ++ notes →
      (∀ connection, Quiet connection notes) → v.seats = w.seats →
      v.database.tables.messages = w.database.tables.messages →
      ∃ room', ReflTransGen (Step Prod.snd) room room' ∧ Depicts v room' ∧
        Archived before v room'.log := by
    intro v notes htrace hquiet hseats hmessages
    exact ⟨room, .refl, hdepicts.same htrace hquiet hseats,
      harchived.same hmessages⟩
  have hloses : ∀ {v : World} {index : SlotIndex} {notes : List Obs},
      (w.clients index).active → v.trace = w.trace ++ notes →
      (∀ connection, noticesTo connection notes = []) →
      broadcasts notes = [] →
      v.clients = Function.update w.clients index .reset →
      v.connection = w.connection →
      v.database.tables.messages = w.database.tables.messages →
      ∃ room', ReflTransGen (Step Prod.snd) room room' ∧ Depicts v room' ∧
        Archived before v room'.log := by
    intro v index notes hactive htrace hnotices hlog hclients hconnection
      hmessages
    exact ⟨_, .single (.vanish room (w.connection index)),
      hdepicts.released (hseated.apart hactive) htrace hnotices hlog
        hclients hconnection, harchived.same hmessages⟩
  have hnext : ∀ {v : World},
      (∃ room', Step Prod.snd room room' ∧ Depicts v room' ∧
        Archived before v room'.log) →
      ∃ room', ReflTransGen (Step Prod.snd) room room' ∧ Depicts v room' ∧
        Archived before v room'.log :=
    fun hstep => hstep.imp fun _ hthen => ⟨.single hthen.1, hthen.2⟩
  cases hmove with
  | errno errno =>
      exact hstays [] (List.append_nil _).symm quiet_nil rfl rfl
  | clock clock =>
      exact hstays [] (List.append_nil _).symm quiet_nil rfl rfl
  | polled revents =>
      exact hstays [] (List.append_nil _).symm quiet_nil rfl rfl
  | dispatched index packet hactive =>
      refine hstays [.dispatched _ packet] rfl ?_ rfl rfl
      intro connection
      exact ⟨rfl, rfl, by simp [Obs.joins], by simp [Obs.leaves]⟩
  | rebuked index packet hactive hjoined htype hlen =>
      obtain ⟨hdatabase, hconnection, -, buf, hclients⟩ :=
        w.answered_frame index hlen
      obtain ⟨notes, htrace, hquiet⟩ := answered_notes w index hlen htype
      obtain ⟨hself, hothers⟩ := identity_of_clients hclients
      refine hstays notes htrace hquiet (World.seats_of_same hconnection ?_)
        (by rw [hdatabase])
      intro other
      by_cases hsame : other = index
      · rw [hsame, hself]
        rfl
      · exact hothers other hsame
  | turnedAway index packet hactive hjoined htype hlen =>
      obtain ⟨hdatabase, hconnection, -, -⟩ := w.answered_frame index hlen
      obtain ⟨notes, htrace, hquiet⟩ := answered_notes w index hlen htype
      have htrace' : ((w.answered index packet).dropped index).trace =
          w.trace ++ (notes ++ .disconnected (w.connection index) ::
            closingNotes ((w.answered index packet).clients index)
              (w.connection index)) := by
        rw [World.dropped, releaseSlot_trace]
        simp only [World.observe, hconnection, htrace, List.append_assoc]
        rfl
      refine hloses hactive htrace' ?_ ?_
        (w.answered_dropped_clients index hlen) hconnection ?_
      · intro connection
        rw [noticesTo_append, noticesTo_quiet hquiet, noticesTo_leaving]
        rfl
      · rw [broadcasts_append, (hquiet 0).log, broadcasts_leaving]
        rfl
      · exact congrArg (fun database => database.tables.messages) hdatabase
  | dropped index hactive =>
      have htrace : (w.dropped index).trace =
          w.trace ++ (.disconnected (w.connection index) ::
            closingNotes (w.clients index) (w.connection index)) := by
        rw [World.dropped, releaseSlot_trace]
        simp only [World.observe, List.append_assoc]
        rfl
      exact hloses hactive htrace
        (fun connection => noticesTo_leaving connection _ _)
        (broadcasts_leaving _ _) (w.dropped_clients index) rfl rfl
  | departed index timestamp notice hactive hjoined hnotice =>
      exact hnext (hdepicts.departed hsettled horder harchived hactive
        hjoined hnotice)
  | refused socketFd outcomes hvalid hallow =>
      obtain ⟨bytes, htrace⟩ := turnDown_trace (w.greeted socketFd)
        w.connections socketFd outcomes
      have hframe := turnDown_frame (w.greeted socketFd) w.connections
        socketFd outcomes
      refine hstays _ (htrace.trans (List.append_assoc _ _ _)) ?_ ?_
        (congrArg (fun database => database.tables.messages)
          hframe.2.2.2.2.1)
      · intro connection
        exact ⟨rfl, rfl, by simp [Obs.joins], by simp [Obs.leaves]⟩
      · refine World.seats_of_same hframe.2.2.2.2.2.1 fun other => ?_
        rw [World.identity, hframe.1]
        rfl
  | occupied socketFd index hfree hvalid hallow =>
      have hclients := occupySlot_clients (w.greeted socketFd) index
        w.connections socketFd
      obtain ⟨hself, hothers⟩ := identity_of_clients hclients
      have hbefore : w.identity index = none := by
        refine identity_eq_none_iff.mpr ?_
        by_contra hjoined
        have hactive := hsettled.active index (by simpa using hjoined)
        exact absurd (hfree.symm.trans hactive) Bool.false_ne_true
      refine hstays [.accepted w.connections socketFd] rfl ?_ ?_ rfl
      · intro connection
        exact ⟨rfl, rfl, by simp [Obs.joins], by simp [Obs.leaves]⟩
      · refine World.seats_congr fun other connection => ?_
        by_cases hsame : other = index
        · rw [hsame, hself, hbefore]
          simp [NsClient.identity, NsClient.reset]
        · rw [hothers other hsame]
          have hkept : (occupySlot (w.greeted socketFd) w.connections
              socketFd index).connection other = w.connection other :=
            Function.update_of_ne hsame _ _
          rw [hkept]
          rfl
  | drained index outcomes hactive =>
      refine hstays [.sent (w.connection index) _] rfl ?_ ?_ rfl
      · intro connection
        exact ⟨rfl, rfl, by simp [Obs.joins], by simp [Obs.leaves]⟩
      · have hclients := w.flushed_clients index outcomes
        refine World.seats_of_same rfl fun other => ?_
        change (w.flushed index outcomes).identity other = _
        obtain ⟨hself, hothers⟩ := identity_of_clients hclients
        by_cases hsame : other = index
        · rw [hsame, hself]
          rfl
        · exact hothers other hsame
  | registered database hgrow =>
      exact hstays [] (List.append_nil _).symm quiet_nil rfl hgrow.messages
  | joined index username userId timestamp timestamp' ack notice hlen buf
      hactive hjoined hunused huser hshort hack henqueue hnotice =>
      exact hnext (hdepicts.joined hsettled horder harchived hactive
        hjoined hunused hack hnotice)
  | texted index database row timestamp packet hactive hjoined hsaved
      husers hseq hmessages hsender hbody hsentAt hpacket =>
      exact hnext (hdepicts.texted hsettled horder harchived hactive
        hjoined hmessages hsender hpacket)

end Moves

/-! ## Runs -/

/-- The server is between two moves, and the room is as it shows. -/
structure Enacts (before : Tables) (w : World) (room : ChatRoom) :
    Prop where
  settled : Settled w
  order : ChatOrder w
  depicts : Depicts w room
  archived : Archived before w room.log

theorem simulates_room (before : Tables) :
    Simulates (Move anySocket) (Step Prod.snd) (Enacts before) := by
  intro w w' room henacts hmove
  obtain ⟨room', hreaches, hdepicts, harchived⟩ :=
    hmove.enacted henacts.settled henacts.order henacts.depicts
      henacts.archived
  exact ⟨room', hreaches, hmove.settled henacts.settled,
    hmove.chatOrder henacts.settled henacts.order, hdepicts, harchived⟩

theorem enacts_boot (tables : Tables) (listenSocket : NsSocket)
    (errno : Errno) (clock : Clock) :
    Enacts tables (World.boot tables listenSocket errno clock) .empty where
  settled := settled_boot tables listenSocket errno clock
  order := chatOrder_boot tables listenSocket errno clock
  depicts :=
    { seats := by
        funext connection
        exact (World.seats_eq_none fun _ _ => rfl).symm
      heard := fun _ => .nil
      log := .nil }
  archived := ⟨[], (List.append_nil _).symm, rfl⟩

theorem enacted_run (tables : Tables) (listenSocket : NsSocket)
    (errno : Errno) (clock : Clock) (events : List Event) :
    ∃ room, ReflTransGen (Step Prod.snd) .empty room ∧
      Enacts tables (run World.step
        (World.boot tables listenSocket errno clock) events) room :=
  (simulates_room tables).reaches
    (enacts_boot tables listenSocket errno clock)
    (run_moves (settled_boot tables listenSocket errno clock)
      (along_of_forall admitted_anySocket _ events))

/-- Whatever happens to the server happens in a chat room. -/
theorem server_refines_room (tables : Tables) (listenSocket : NsSocket)
    (errno : Errno) (clock : Clock) (events : List Event) :
    let w := run World.step (World.boot tables listenSocket errno clock)
      events
    ∃ room, ReflTransGen (Step Prod.snd) .empty room ∧ Depicts w room ∧
      Archived tables w room.log := by
  intro w
  obtain ⟨room, hreaches, henacts⟩ :=
    enacted_run tables listenSocket errno clock events
  exact ⟨room, hreaches, henacts.depicts, henacts.archived⟩

/-- Nobody speaks or leaves under a name but the one who entered under it
last; the client in a joined slot has the last word on its own name, and has
heard the log from its own entrance on. -/
theorem chat_is_orderly (tables : Tables) (listenSocket : NsSocket)
    (errno : Errno) (clock : Clock) (events : List Event) :
    let w := run World.step (World.boot tables listenSocket errno clock)
      events
    ∃ log, List.Forall₂ Shows log (broadcasts w.trace) ∧
      Rooms.Orderly Prod.snd log ∧
      ∀ index who, w.identity index = some who →
        w.seats (w.connection index) = some who ∧
          Standing Prod.snd log who ∧
          ∃ before later, log = before ++ .entered who :: later ∧
            List.Forall₂ Shows (.entered who :: later)
              (noticesTo (w.connection index) w.trace) := by
  intro w
  obtain ⟨room, hreaches, henacts⟩ :=
    enacted_run tables listenSocket errno clock events
  obtain ⟨hordered, hheard⟩ := reached hreaches
  refine ⟨room.log, henacts.depicts.log, hordered.log, ?_⟩
  intro index who hidentity
  have hseated := seated_of_order henacts.settled henacts.order
  have hactive := hseated.active index (joined_of_identity hidentity)
  have hseat : w.seats (w.connection index) = some who :=
    (World.seats_slot (hseated.apart hactive)).trans hidentity
  have htaken := hseat
  rw [← henacts.depicts.seats] at htaken
  obtain ⟨⟨before, hlog⟩, later, hfirst⟩ :=
    hheard.seated (w.connection index) who htaken
  have hshown := henacts.depicts.heard (w.connection index)
  rw [hfirst] at hlog hshown
  exact ⟨hseat, hordered.standing (w.connection index) who htaken, before,
    later, hlog, hshown⟩

end NodeSignal
