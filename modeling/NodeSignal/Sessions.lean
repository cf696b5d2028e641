import NodeSignal.ChatLog

/-!
# Sessions in the record of a run

A session starts when its connection joins and ends when the client is
disconnected or when its buffer refuses a broadcast.  In between, what the
connection receives is its ACK and then the log.  Everything here is about
the record alone; the phases are extended as the record grows.
-/

namespace NodeSignal

open CStrings

def Obs.joins (connection : ℕ) : Obs → Bool
  | .joined joining _ _ => joining = connection
  | _ => false

def Obs.leaves (connection : ℕ) : Obs → Bool
  | .disconnected leaving => leaving = connection
  | _ => false

def NoJoin (connection : ℕ) (notes : List Obs) : Prop :=
  ∀ obs ∈ notes, obs.joins connection = false

def NoLeave (connection : ℕ) (notes : List Obs) : Prop :=
  ∀ obs ∈ notes, obs.leaves connection = false

@[simp] theorem noJoin_nil (connection : ℕ) : NoJoin connection [] := by
  simp [NoJoin]

@[simp] theorem noLeave_nil (connection : ℕ) : NoLeave connection [] := by
  simp [NoLeave]

@[simp] theorem noJoin_cons {connection : ℕ} {obs : Obs}
    {rest : List Obs} :
    NoJoin connection (obs :: rest) ↔
      obs.joins connection = false ∧ NoJoin connection rest :=
  List.forall_mem_cons

@[simp] theorem noLeave_cons {connection : ℕ} {obs : Obs}
    {rest : List Obs} :
    NoLeave connection (obs :: rest) ↔
      obs.leaves connection = false ∧ NoLeave connection rest :=
  List.forall_mem_cons

@[simp] theorem noJoin_append {connection : ℕ} {before after : List Obs} :
    NoJoin connection (before ++ after) ↔
      NoJoin connection before ∧ NoJoin connection after :=
  List.forall_mem_append

@[simp] theorem noLeave_append {connection : ℕ} {before after : List Obs} :
    NoLeave connection (before ++ after) ↔
      NoLeave connection before ∧ NoLeave connection after :=
  List.forall_mem_append

/-- The end of a session.  A client whose buffer is full misses the
broadcast on which it is disconnected. -/
inductive SessionEnd (connection : ℕ) : List Obs → Prop
  | disconnected (rest : List Obs) :
      SessionEnd connection (.disconnected connection :: rest)
  | overflowed (packet : NsPacket) (between rest : List Obs)
      (hbetween : broadcasts between = []) :
      SessionEnd connection
        (.broadcast packet :: (between ++
          .overflowed connection packet ::
            .disconnected connection :: rest))

theorem SessionEnd.append {connection : ℕ} {rest : List Obs}
    (hend : SessionEnd connection rest) (more : List Obs) :
    SessionEnd connection (rest ++ more) := by
  cases hend with
  | disconnected rest => exact .disconnected _
  | overflowed packet between rest hbetween =>
      rw [List.cons_append, List.append_assoc, List.cons_append,
        List.cons_append]
      exact .overflowed packet between _ hbetween

structure IsAck (packet : NsPacket) (userId : UInt32)
    (name : List UInt8) : Prop where
  type : packet.header.type = NsPacketType.ack.code
  senderId : packet.header.senderId = userId
  payload : packet.payload = literal "Connected as " ++ name

structure IsJoinNotice (packet : NsPacket) (userId : UInt32)
    (name : List UInt8) : Prop where
  type : packet.header.type = NsPacketType.join.code
  senderId : packet.header.senderId = userId
  payload : packet.payload =
    literal "* " ++ name ++ literal " joined the chat"

/-- The record splits into what precedes the join, the life of the session
and the rest.  The connection received its ACK and the log of its life,
which starts with its own JOIN notice. -/
structure Segment (connection : ℕ) (userId : UInt32) (name : List UInt8)
    (trace before life rest : List Obs) : Prop where
  split : trace =
    before ++ .joined connection userId name :: (life ++ rest)
  received : ∃ ack, IsAck ack userId name ∧
    chat connection trace = ack :: broadcasts life
  notice : ∃ notice later, IsJoinNotice notice userId name ∧
    broadcasts life = notice :: later
  joinsOnce : NoJoin connection (before ++ (life ++ rest))
  alive : NoLeave connection (before ++ life)

/-! ## Phases of a connection -/

structure Waiting (connection : ℕ) (trace : List Obs) : Prop where
  nothing : chat connection trace = []
  join : NoJoin connection trace
  leave : NoLeave connection trace

def Chatting (connection : ℕ) (userId : UInt32) (name : List UInt8)
    (trace : List Obs) : Prop :=
  ∃ before life, Segment connection userId name trace before life []

inductive Over (connection : ℕ) (trace : List Obs) : Prop
  | silent (hchat : chat connection trace = [])
      (hjoin : NoJoin connection trace)
  | ended (userId : UInt32) (name : List UInt8)
      (before life rest : List Obs)
      (hsegment : Segment connection userId name trace before life rest)
      (hend : SessionEnd connection rest)

section Phases

variable {connection : ℕ} {userId : UInt32} {name : List UInt8}
  {trace notes : List Obs}

theorem Waiting.append (hwaiting : Waiting connection trace)
    (hchat : chat connection notes = []) (hjoin : NoJoin connection notes)
    (hleave : NoLeave connection notes) :
    Waiting connection (trace ++ notes) := by
  constructor
  · rw [chat_append, hwaiting.nothing, hchat, List.append_nil]
  · exact noJoin_append.mpr ⟨hwaiting.join, hjoin⟩
  · exact noLeave_append.mpr ⟨hwaiting.leave, hleave⟩

theorem Waiting.over (hwaiting : Waiting connection trace)
    (hchat : chat connection notes = [])
    (hjoin : NoJoin connection notes) : Over connection (trace ++ notes) := by
  refine .silent ?_ (noJoin_append.mpr ⟨hwaiting.join, hjoin⟩)
  rw [chat_append, hwaiting.nothing, hchat, List.append_nil]

theorem Waiting.chatting (hwaiting : Waiting connection trace)
    {life : List Obs} {ack notice : NsPacket} {later : List NsPacket}
    (hack : IsAck ack userId name)
    (hchat : chat connection life = ack :: broadcasts life)
    (hnotice : IsJoinNotice notice userId name)
    (hlife : broadcasts life = notice :: later)
    (hjoin : NoJoin connection life) (hleave : NoLeave connection life) :
    Chatting connection userId name
      (trace ++ .joined connection userId name :: life) := by
  refine ⟨trace, life, ?_, ⟨ack, hack, ?_⟩, ⟨notice, later, hnotice, hlife⟩,
    ?_, ?_⟩
  · rw [List.append_nil]
  · rw [chat_append, chat_cons, hwaiting.nothing, hchat]
    rfl
  · rw [List.append_nil]
    exact noJoin_append.mpr ⟨hwaiting.join, hjoin⟩
  · exact noLeave_append.mpr ⟨hwaiting.leave, hleave⟩

theorem Chatting.append
    (hchatting : Chatting connection userId name trace)
    (hchat : chat connection notes = broadcasts notes)
    (hjoin : NoJoin connection notes)
    (hleave : NoLeave connection notes) :
    Chatting connection userId name (trace ++ notes) := by
  rcases hchatting with ⟨before, life, hsegment⟩
  rcases hsegment.received with ⟨ack, hack, hreceived⟩
  rcases hsegment.notice with ⟨notice, later, hnotice, hlife⟩
  have honce := hsegment.joinsOnce
  have halive := hsegment.alive
  simp only [noJoin_append, noLeave_append] at honce halive
  refine ⟨before, life ++ notes, ?_, ⟨ack, hack, ?_⟩,
    ⟨notice, later ++ broadcasts notes, hnotice, ?_⟩, ?_, ?_⟩
  · rw [hsegment.split]
    simp
  · rw [chat_append, hreceived, hchat, broadcasts_append,
      List.cons_append]
  · rw [broadcasts_append, hlife, List.cons_append]
  · simp [honce, hjoin]
  · simp [halive, hleave]

/-- The session ends, possibly after some notes without a broadcast. -/
theorem Chatting.over (hchatting : Chatting connection userId name trace)
    {more rest : List Obs} (hmore : broadcasts more = [])
    (hleave : NoLeave connection more) (hend : SessionEnd connection rest)
    (hchat : chat connection (more ++ rest) = [])
    (hjoin : NoJoin connection (more ++ rest)) :
    Over connection (trace ++ (more ++ rest)) := by
  rcases hchatting with ⟨before, life, hsegment⟩
  rcases hsegment.received with ⟨ack, hack, hreceived⟩
  rcases hsegment.notice with ⟨notice, later, hnotice, hlife⟩
  have honce := hsegment.joinsOnce
  have halive := hsegment.alive
  simp only [noJoin_append, noLeave_append] at honce halive hjoin
  refine .ended userId name before (life ++ more) rest ⟨?_, ⟨ack, hack, ?_⟩,
    ⟨notice, later, hnotice, ?_⟩, ?_, ?_⟩ hend
  · rw [hsegment.split]
    simp
  · rw [chat_append, hreceived, hchat, broadcasts_append, hmore]
    simp
  · rw [broadcasts_append, hlife, hmore, List.append_nil]
  · simp [honce, hjoin]
  · simp [halive, hleave]

theorem Over.append (hover : Over connection trace)
    (hchat : chat connection notes = [])
    (hjoin : NoJoin connection notes) : Over connection (trace ++ notes) := by
  cases hover with
  | silent hbefore hnojoin =>
      refine .silent ?_ (noJoin_append.mpr ⟨hnojoin, hjoin⟩)
      rw [chat_append, hbefore, hchat, List.append_nil]
  | ended userId name before life rest hsegment hend =>
      rcases hsegment.received with ⟨ack, hack, hreceived⟩
      have honce := hsegment.joinsOnce
      simp only [noJoin_append] at honce
      refine .ended userId name before life (rest ++ notes)
        ⟨?_, ⟨ack, hack, ?_⟩, hsegment.notice, ?_, hsegment.alive⟩
        (hend.append notes)
      · rw [hsegment.split]
        simp
      · rw [chat_append, hreceived, hchat, List.append_nil]
      · simp [honce, hjoin]

end Phases

end NodeSignal
