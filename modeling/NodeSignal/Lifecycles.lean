import NodeSignal.Network
import NodeSignal.Rejections

/-!
# The life of a connection

What the server records about one connection, from `accept()` to the closing
of its socket.  A connection is served until it is disconnected; then its
socket is closed, once, and nothing happens to it afterwards.  It joins once
if at all, and no two slots hold it.  A connection that found no free slot is
sent at most the refusal.
-/

namespace NodeSignal

open CStrings Runs

/-- The connection that an entry of the record is about. -/
def Obs.subject : Obs → Option ℕ
  | .accepted connection _ => some connection
  | .dispatched connection _ => some connection
  | .rejected connection _ => some connection
  | .enqueued connection _ => some connection
  | .broadcast _ => none
  | .overflowed connection _ => some connection
  | .joined connection _ _ => some connection
  | .sent connection _ => some connection
  | .disconnected connection => some connection
  | .closed connection _ => some connection

/-- The entries about one connection. -/
def about (connection : ℕ) (trace : List Obs) : List Obs :=
  trace.filter fun obs => obs.subject = some connection

/-- The entries of a connection that is being served. -/
def Obs.Work : Obs → Prop
  | .dispatched _ _ => True
  | .rejected _ _ => True
  | .enqueued _ _ => True
  | .joined _ _ _ => True
  | .sent _ _ => True
  | _ => False

/-- Before `accept()`, in a slot, disconnected with the socket still open,
and closed. -/
inductive Stage where
  | unknown
  | serving (socketFd : NsSocket)
  | parting (socketFd : NsSocket)
  | over

inductive Life (connection : ℕ) : Stage → List Obs → Prop
  | unknown : Life connection .unknown []
  | accepted (socketFd : NsSocket) :
      Life connection (.serving socketFd) [.accepted connection socketFd]
  | worked {socketFd : NsSocket} {notes : List Obs} (obs : Obs)
      (hlife : Life connection (.serving socketFd) notes)
      (hwork : obs.Work) :
      Life connection (.serving socketFd) (notes ++ [obs])
  | parted {socketFd : NsSocket} {notes : List Obs}
      (hlife : Life connection (.serving socketFd) notes) :
      Life connection (.parting socketFd)
        (notes ++ [.disconnected connection])
  | closed {socketFd : NsSocket} {notes : List Obs}
      (hlife : Life connection (.parting socketFd) notes) :
      Life connection .over (notes ++ [.closed connection socketFd])
  | expelled {socketFd : NsSocket} {notes : List Obs} (packet : NsPacket)
      (hlife : Life connection (.serving socketFd) notes) :
      Life connection .over
        (notes ++ [.overflowed connection packet, .disconnected connection,
          .closed connection socketFd])
  | refused (socketFd : NsSocket) (bytes : List UInt8) :
      Life connection .over
        [.accepted connection socketFd, .sent connection bytes,
          .closed connection socketFd]

section Lives

variable {connection : ℕ} {notes : List Obs}

theorem Life.not_closed {stage : Stage} (hlife : Life connection stage notes)
    (hstage : stage ≠ .over) (connection' : ℕ) (socketFd : NsSocket) :
    .closed connection' socketFd ∉ notes := by
  induction hlife with
  | unknown => simp
  | accepted socketFd' => simp
  | worked obs hlife hwork ih =>
      rw [List.mem_append, List.mem_singleton]
      rintro (hmem | rfl)
      · exact ih (by simp) hmem
      · exact hwork
  | parted hlife ih =>
      rw [List.mem_append, List.mem_singleton]
      rintro (hmem | heq)
      · exact ih (by simp) hmem
      · exact Obs.noConfusion heq
  | closed hlife ih => exact absurd rfl hstage
  | expelled packet hlife ih => exact absurd rfl hstage
  | refused socketFd' bytes => exact absurd rfl hstage

theorem append_eq_append_singleton {before after : List Obs} {obs last : Obs}
    {rest : List Obs} (hne : obs ∉ rest)
    (heq : rest ++ [last] = before ++ obs :: after) : after = [] := by
  cases List.eq_nil_or_concat after with
  | inl hnil => exact hnil
  | inr hconcat =>
      rcases hconcat with ⟨init, final, rfl⟩
      rw [List.concat_eq_append, ← List.cons_append, ← List.append_assoc]
        at heq
      have hrest := (List.append_inj' heq rfl).1
      exact absurd (by rw [hrest]; simp) hne

/-- Only the last entry closes a socket. -/
theorem Life.ends_closed (hlife : Life connection .over notes) :
    ∃ before socketFd, notes = before ++ [.closed connection socketFd] ∧
      ∀ connection' socketFd', .closed connection' socketFd' ∉ before := by
  cases hlife with
  | closed hlife => exact ⟨_, _, rfl, hlife.not_closed (by simp)⟩
  | @expelled socketFd rest packet hlife =>
      have hrest := hlife.not_closed (by simp)
      refine ⟨rest ++ [.overflowed connection packet,
        .disconnected connection], socketFd, by simp, ?_⟩
      intro connection' socketFd'
      simpa using hrest connection' socketFd'
  | refused socketFd bytes =>
      refine ⟨[.accepted connection socketFd, .sent connection bytes],
        socketFd, rfl, ?_⟩
      simp

/-- The closing of the socket is the last that happens. -/
theorem Life.closed_last {stage : Stage} {connection' : ℕ}
    {socketFd : NsSocket} {before after : List Obs}
    (hlife : Life connection stage
      (before ++ .closed connection' socketFd :: after)) :
    stage = .over ∧ after = [] := by
  have hover : stage = .over := by
    by_contra hstage
    exact hlife.not_closed hstage connection' socketFd (by simp)
  subst hover
  rcases hlife.ends_closed with ⟨before', socketFd', heq, hopen⟩
  exact ⟨rfl, append_eq_append_singleton (hopen _ _) heq.symm⟩

/-- Nothing follows when the life is over. -/
theorem Life.over_maximal (hlife : Life connection .over notes)
    {stage : Stage} {more : List Obs}
    (hlater : Life connection stage (notes ++ more)) : more = [] := by
  rcases hlife.ends_closed with ⟨before, socketFd, rfl, -⟩
  rw [List.append_assoc] at hlater
  exact hlater.closed_last.2

/-- The socket is the one that `accept()` returned, and it is closed at most
once. -/
theorem Life.head {stage : Stage} (hlife : Life connection stage notes) :
    stage = .unknown ∧ notes = [] ∨
      ∃ socketFd rest, notes = .accepted connection socketFd :: rest ∧
        (∀ socketFd', .closed connection socketFd' ∈ notes →
          socketFd' = socketFd) ∧
        (stage = .serving socketFd ∨ stage = .parting socketFd ∨
          stage = .over) := by
  induction hlife with
  | unknown => exact Or.inl ⟨rfl, rfl⟩
  | accepted socketFd =>
      exact Or.inr ⟨socketFd, [], rfl, by simp, Or.inl rfl⟩
  | @worked socketFd notes obs hlife hwork ih =>
      rcases ih with ⟨hstage, -⟩ | ⟨first, rest, rfl, -, hstage⟩
      · exact Stage.noConfusion hstage
      · refine Or.inr ⟨first, rest ++ [obs], rfl, ?_, hstage⟩
        intro socketFd' hmem
        exact absurd hmem
          ((Life.worked obs hlife hwork).not_closed (by simp) _ _)
  | @parted socketFd notes hlife ih =>
      rcases ih with ⟨hstage, -⟩ | ⟨first, rest, rfl, -, hstage⟩
      · exact Stage.noConfusion hstage
      · refine Or.inr ⟨first, rest ++ [.disconnected connection], rfl,
          ?_, Or.inr (Or.inl ?_)⟩
        · intro socketFd' hmem
          exact absurd hmem
            ((Life.parted hlife).not_closed (by simp) _ _)
        · simpa using hstage
  | @closed socketFd notes hlife ih =>
      have hopen := hlife.not_closed (by simp) connection
      rcases ih with ⟨hstage, -⟩ | ⟨first, rest, rfl, -, hstage⟩
      · exact Stage.noConfusion hstage
      · refine Or.inr ⟨first, rest ++ [.closed connection socketFd], rfl,
          ?_, Or.inr (Or.inr rfl)⟩
        have hsame : socketFd = first := by simpa using hstage
        intro socketFd' hmem
        rw [List.mem_append, List.mem_singleton] at hmem
        rcases hmem with hmem | heq
        · exact absurd hmem (hopen socketFd')
        · injection heq with _ heq
          rw [heq, hsame]
  | @expelled socketFd notes packet hlife ih =>
      have hopen := hlife.not_closed (by simp) connection
      rcases ih with ⟨hstage, -⟩ | ⟨first, rest, rfl, -, hstage⟩
      · exact Stage.noConfusion hstage
      · refine Or.inr ⟨first, rest ++ [.overflowed connection packet,
          .disconnected connection, .closed connection socketFd], rfl,
          ?_, Or.inr (Or.inr rfl)⟩
        have hsame : socketFd = first := by simpa using hstage
        intro socketFd' hmem
        rw [List.mem_append] at hmem
        rcases hmem with hmem | heq
        · exact absurd hmem (hopen socketFd')
        · have hlast : socketFd' = socketFd := by simpa using heq
          rw [hlast, hsame]
  | refused socketFd bytes =>
      exact Or.inr ⟨socketFd, [.sent connection bytes,
        .closed connection socketFd], rfl, by simp, Or.inr (Or.inr rfl)⟩

end Lives

/-! ## The lives of all connections -/

@[simp] theorem about_append (connection : ℕ) (before after : List Obs) :
    about connection (before ++ after) =
      about connection before ++ about connection after :=
  List.filter_append _ _

theorem about_eq_self {connection : ℕ} {notes : List Obs}
    (hown : ∀ obs ∈ notes, obs.subject = some connection) :
    about connection notes = notes :=
  List.filter_eq_self.mpr (by simpa using hown)

theorem about_singleton {connection : ℕ} {obs : Obs}
    (hsubject : obs.subject = some connection) :
    about connection [obs] = [obs] :=
  about_eq_self (List.forall_mem_singleton.mpr hsubject)

theorem about_eq_nil {connection : ℕ} {notes : List Obs}
    (hother : ∀ obs ∈ notes, obs.subject ≠ some connection) :
    about connection notes = [] :=
  List.filter_eq_nil_iff.mpr (by simpa using hother)

theorem subject_closingNotes (client : NsClient) (connection : ℕ) :
    ∀ obs ∈ closingNotes client connection,
      obs.subject = some connection := by
  unfold closingNotes
  split_ifs
  · simp [Obs.subject]
  · simp

/-- The stage of the connection in a slot; one slot may be about to be
released. -/
def slotStage (leaving : Option SlotIndex) (index : SlotIndex)
    (client : NsClient) : Stage :=
  if leaving = some index then .parting client.socketFd
  else .serving client.socketFd

structure Lived (leaving : Option SlotIndex) (w : World) : Prop where
  numbered : ∀ index, (w.clients index).active →
    w.connection index < w.connections
  distinct : Distinct w
  valid : ∀ index, (w.clients index).active →
    nsSocketIsValid (w.clients index).socketFd
  fresh : ∀ connection, w.connections ≤ connection →
    about connection w.trace = []
  present : ∀ index, (w.clients index).active →
    Life (w.connection index) (slotStage leaving index (w.clients index))
      (about (w.connection index) w.trace)
  ended : ∀ connection, connection < w.connections →
    (∀ index, (w.clients index).active →
      w.connection index ≠ connection) →
    Life connection .over (about connection w.trace)

theorem lived_boot (tables : Tables) (listenSocket : NsSocket)
    (errno : Errno) (clock : Clock) :
    Lived none (World.boot tables listenSocket errno clock) where
  numbered := by
    intro index hactive
    exact absurd hactive (by simp [World.boot, nsServerInit, NsClient.reset])
  distinct := by
    intro index other hactive
    exact absurd hactive (by simp [World.boot, nsServerInit, NsClient.reset])
  valid := by
    intro index hactive
    exact absurd hactive (by simp [World.boot, nsServerInit, NsClient.reset])
  fresh := fun _ _ => rfl
  present := by
    intro index hactive
    exact absurd hactive (by simp [World.boot, nsServerInit, NsClient.reset])
  ended := by
    intro connection hlt
    exact absurd hlt (by simp [World.boot])

section Living

variable {leaving : Option SlotIndex} {w w' : World} {index : SlotIndex}

/-- A change that keeps the slots in use, and records only what happens to
one of them. -/
theorem Lived.change (hlived : Lived leaving w) {notes : List Obs}
    {leaving' : Option SlotIndex}
    (htrace : w'.trace = w.trace ++ notes)
    (hconnection : w'.connection = w.connection)
    (hconnections : w'.connections = w.connections)
    (hclients : ∀ other, (w'.clients other).active =
        (w.clients other).active ∧
      (w'.clients other).socketFd = (w.clients other).socketFd)
    (hactive : (w.clients index).active)
    (hsubject : ∀ obs ∈ notes, ∀ connection,
      obs.subject = some connection → connection = w.connection index)
    (hstage : ∀ other, other ≠ index → (w.clients other).active →
      slotStage leaving' other (w.clients other) =
        slotStage leaving other (w.clients other))
    (hlife : Life (w.connection index)
        (slotStage leaving index (w.clients index))
        (about (w.connection index) w.trace) →
      Life (w.connection index)
        (slotStage leaving' index (w.clients index))
        (about (w.connection index) w.trace ++
          about (w.connection index) notes)) :
    Lived leaving' w' := by
  have hunrelated : ∀ connection, connection ≠ w.connection index →
      about connection w'.trace = about connection w.trace := by
    intro connection hne
    have hnone : ∀ obs ∈ notes, obs.subject ≠ some connection :=
      fun obs hobs heq => hne (hsubject obs hobs connection heq)
    rw [htrace, about_append, about_eq_nil hnone, List.append_nil]
  have hclient : ∀ other, (w'.clients other).active →
      (w.clients other).active := by
    intro other hother
    rwa [(hclients other).1] at hother
  have hslot : ∀ other, slotStage leaving' other (w'.clients other) =
      slotStage leaving' other (w.clients other) := by
    intro other
    unfold slotStage
    rw [(hclients other).2]
  refine ⟨?_, ?_, ?_, ?_, ?_, ?_⟩
  · intro other hother
    rw [hconnection, hconnections]
    exact hlived.numbered other (hclient other hother)
  · intro left right hleft hright heq
    rw [hconnection] at heq
    exact hlived.distinct left right (hclient left hleft)
      (hclient right hright) heq
  · intro other hother
    rw [(hclients other).2]
    exact hlived.valid other (hclient other hother)
  · intro connection hfresh
    rw [hconnections] at hfresh
    have hbound := hlived.numbered index hactive
    rw [hunrelated connection (hbound.trans_le hfresh).ne']
    exact hlived.fresh connection hfresh
  · intro other hother
    have hwas := hclient other hother
    rw [hslot, hconnection]
    by_cases heq : other = index
    · rw [heq, htrace, about_append]
      exact hlife (hlived.present index hactive)
    · have hne : w.connection other ≠ w.connection index := fun hsame =>
        heq (hlived.distinct other index hwas hactive hsame)
      rw [hunrelated _ hne, hstage other heq hwas]
      exact hlived.present other hwas
  · intro connection hlt hgone
    rw [hconnections] at hlt
    have hgone' : ∀ other, (w.clients other).active →
        w.connection other ≠ connection := by
      intro other hother
      rw [← hconnection]
      exact hgone other (by rw [(hclients other).1]; exact hother)
    rw [hunrelated connection (hgone' index hactive).symm]
    exact hlived.ended connection hlt hgone'

/-- What is not about a connection, and keeps the slots. -/
theorem Lived.same (hlived : Lived leaving w) {notes : List Obs}
    (htrace : w'.trace = w.trace ++ notes)
    (hsubject : ∀ obs ∈ notes, obs.subject = none)
    (hconnection : w'.connection = w.connection)
    (hconnections : w'.connections = w.connections)
    (hclients : w'.clients = w.clients) : Lived leaving w' := by
  have habout : ∀ connection,
      about connection w'.trace = about connection w.trace := by
    intro connection
    have hnone : ∀ obs ∈ notes, obs.subject ≠ some connection := by
      intro obs hobs
      rw [hsubject obs hobs]
      simp
    rw [htrace, about_append, about_eq_nil hnone, List.append_nil]
  constructor
  · rw [hclients, hconnection, hconnections]
    exact hlived.numbered
  · unfold Distinct
    rw [hclients, hconnection]
    exact hlived.distinct
  · rw [hclients]
    exact hlived.valid
  · intro connection hfresh
    rw [habout]
    exact hlived.fresh connection (hconnections ▸ hfresh)
  · intro other hother
    rw [hclients] at hother ⊢
    rw [hconnection, habout]
    exact hlived.present other hother
  · intro connection hlt hgone
    rw [habout]
    rw [hclients, hconnection] at hgone
    exact hlived.ended connection (hconnections ▸ hlt) hgone

/-- Work for a slot that is not about to be released. -/
theorem Lived.worked (hlived : Lived leaving w) {obs : Obs}
    (htrace : w'.trace = w.trace ++ [obs])
    (hconnection : w'.connection = w.connection)
    (hconnections : w'.connections = w.connections)
    (hclients : ∀ other, (w'.clients other).active =
        (w.clients other).active ∧
      (w'.clients other).socketFd = (w.clients other).socketFd)
    (hactive : (w.clients index).active) (hstays : leaving ≠ some index)
    (hsubject : obs.subject = some (w.connection index))
    (hwork : obs.Work) : Lived leaving w' := by
  refine hlived.change htrace hconnection hconnections hclients hactive
    ?_ (fun _ _ _ => rfl) fun hlife => ?_
  · intro obs' hobs connection hsubject'
    rw [List.mem_singleton.mp hobs, hsubject] at hsubject'
    exact (Option.some.inj hsubject').symm
  · rw [about_singleton hsubject]
    unfold slotStage at hlife ⊢
    rw [if_neg hstays] at hlife ⊢
    exact hlife.worked obs hwork

theorem Lived.observed (hlived : Lived leaving w) {obs : Obs}
    (hactive : (w.clients index).active) (hstays : leaving ≠ some index)
    (hsubject : obs.subject = some (w.connection index))
    (hwork : obs.Work) : Lived leaving (w.observe obs) :=
  hlived.worked rfl rfl rfl (fun _ => ⟨rfl, rfl⟩) hactive hstays hsubject
    hwork

theorem Lived.appended (hlived : Lived leaving w)
    (hactive : (w.clients index).active) (hstays : leaving ≠ some index)
    (packet : NsPacket) (buf : NsSendBuf) :
    Lived leaving (w.appended index packet buf) := by
  refine hlived.worked (World.appended_trace w index packet buf) rfl rfl
    (fun other => ?_) hactive hstays rfl trivial
  rw [World.appended_clients]
  by_cases heq : other = index
  · rw [heq, Function.update_self]
    exact ⟨rfl, rfl⟩
  · rw [Function.update_of_ne heq]
    exact ⟨rfl, rfl⟩

theorem Lived.parted (hlived : Lived none w)
    (hactive : (w.clients index).active) :
    Lived (some index)
      (w.observe (.disconnected (w.connection index))) := by
  refine hlived.change rfl rfl rfl (fun _ => ⟨rfl, rfl⟩) hactive ?_ ?_
    fun hlife => ?_
  · intro obs hobs connection hsubject
    rw [List.mem_singleton.mp hobs] at hsubject
    exact (Option.some.inj hsubject).symm
  · intro other hne _
    have hother : some index ≠ some other := fun heq =>
      hne (Option.some.inj heq).symm
    simp only [slotStage, if_neg hother, reduceCtorEq, if_false]
  · have hsubject : (Obs.disconnected (w.connection index)).subject =
        some (w.connection index) := rfl
    rw [about_singleton hsubject]
    simp only [slotStage, reduceCtorEq, if_false, if_true] at hlife ⊢
    exact hlife.parted

/-- A slot is released with the entries that end its connection. -/
theorem Lived.freed (hlived : Lived leaving w)
    {leaving' : Option SlotIndex} {notes : List Obs}
    (hclients : w'.clients = Function.update w.clients index .reset)
    (hconnection : w'.connection = w.connection)
    (hconnections : w'.connections = w.connections)
    (htrace : w'.trace = w.trace ++ notes)
    (hsubject : ∀ obs ∈ notes, obs.subject = some (w.connection index))
    (hactive : (w.clients index).active)
    (hstage : ∀ other, other ≠ index → (w.clients other).active →
      slotStage leaving' other (w.clients other) =
        slotStage leaving other (w.clients other))
    (hlife : Life (w.connection index)
        (slotStage leaving index (w.clients index))
        (about (w.connection index) w.trace) →
      Life (w.connection index) .over
        (about (w.connection index) w.trace ++ notes)) :
    Lived leaving' w' := by
  have hunrelated : ∀ connection, connection ≠ w.connection index →
      about connection w'.trace = about connection w.trace := by
    intro connection hne
    have hnone : ∀ obs ∈ notes, obs.subject ≠ some connection := by
      intro obs hobs heq
      rw [hsubject obs hobs] at heq
      exact hne (Option.some.inj heq).symm
    rw [htrace, about_append, about_eq_nil hnone, List.append_nil]
  have hothers : ∀ other, (w'.clients other).active →
      other ≠ index ∧ w'.clients other = w.clients other := by
    intro other hother
    rw [hclients] at hother ⊢
    by_cases heq : other = index
    · rw [heq, Function.update_self] at hother
      exact absurd hother (by simp [NsClient.reset])
    · exact ⟨heq, Function.update_of_ne heq _ _⟩
  refine ⟨?_, ?_, ?_, ?_, ?_, ?_⟩
  · intro other hother
    rcases hothers other hother with ⟨-, hsame⟩
    rw [hsame] at hother
    rw [hconnection, hconnections]
    exact hlived.numbered other hother
  · intro left right hleft hright heq
    rw [(hothers left hleft).2] at hleft
    rw [(hothers right hright).2] at hright
    rw [hconnection] at heq
    exact hlived.distinct left right hleft hright heq
  · intro other hother
    rcases hothers other hother with ⟨-, hsame⟩
    rw [hsame] at hother ⊢
    exact hlived.valid other hother
  · intro connection hfresh
    rw [hconnections] at hfresh
    have hbound := hlived.numbered index hactive
    rw [hunrelated connection (hbound.trans_le hfresh).ne']
    exact hlived.fresh connection hfresh
  · intro other hother
    rcases hothers other hother with ⟨hne, hsame⟩
    rw [hsame] at hother ⊢
    have hne' : w.connection other ≠ w.connection index := fun heq =>
      hne (hlived.distinct other index hother hactive heq)
    rw [hconnection, hunrelated _ hne', hstage other hne hother]
    exact hlived.present other hother
  · intro connection hlt hgone
    rw [hconnections] at hlt
    by_cases hown : connection = w.connection index
    · rw [hown, htrace, about_append, about_eq_self hsubject]
      exact hlife (hlived.present index hactive)
    · rw [hunrelated connection hown]
      refine hlived.ended connection hlt fun other hother hsame => ?_
      have hne : other ≠ index := by
        rintro rfl
        exact hown hsame.symm
      refine hgone other ?_ (by rw [hconnection]; exact hsame)
      rw [hclients, Function.update_of_ne hne]
      exact hother

theorem closingNotes_valid {client : NsClient}
    (hvalid : nsSocketIsValid client.socketFd) (connection : ℕ) :
    closingNotes client connection =
      [.closed connection client.socketFd] :=
  if_pos hvalid

theorem Lived.released (hlived : Lived (some index) w)
    (hactive : (w.clients index).active) :
    Lived none (releaseSlot w index) := by
  refine hlived.freed (releaseSlot_clients w index) rfl rfl
    (releaseSlot_trace w index) (subject_closingNotes _ _) hactive ?_
    fun hlife => ?_
  · intro other hne _
    have hother : some index ≠ some other := fun heq =>
      hne (Option.some.inj heq).symm
    simp only [slotStage, if_neg hother, reduceCtorEq, if_false]
  · rw [closingNotes_valid (hlived.valid index hactive)]
    simp only [slotStage, if_true] at hlife
    exact hlife.closed

theorem Lived.dropped (hlived : Lived none w)
    (hactive : (w.clients index).active) : Lived none (w.dropped index) :=
  (hlived.parted hactive).released hactive

theorem Lived.evicted (hlived : Lived leaving w)
    (hactive : (w.clients index).active) (hstays : leaving ≠ some index)
    (packet : NsPacket) : Lived leaving (w.evicted index packet) := by
  refine hlived.freed (World.evicted_clients w index packet) rfl rfl
    (World.evicted_trace w index packet) ?_ hactive (fun _ _ _ => rfl)
    fun hlife => ?_
  · simp only [List.forall_mem_cons]
    exact ⟨rfl, rfl, subject_closingNotes _ _⟩
  · rw [closingNotes_valid (hlived.valid index hactive)]
    unfold slotStage at hlife
    rw [if_neg hstays] at hlife
    exact hlife.expelled packet

/-- A broadcast leaves out the slot that is about to be released. -/
theorem Lived.broadcast (hlived : Lived leaving w) {packet : NsPacket}
    (hlen : packet.header.bodyLen.toNat ≤ nsPacketBodyMax) :
    Lived leaving (nsServerBroadcast w packet leaving) := by
  apply nsServerBroadcast_induction packet hlen leaving
    (motive := Lived leaving)
  · exact hlived.same rfl (by simp [Obs.subject]) rfl rfl rfl
  · intro v other buf hv hrecipient _
    exact hv.appended hrecipient.1 hrecipient.2.2.symm packet buf
  · intro v other hv hrecipient _
    exact hv.evicted hrecipient.1 hrecipient.2.2.symm packet

theorem Lived.answered (hlived : Lived none w)
    (hactive : (w.clients index).active) {packet : NsPacket}
    (hlen : packet.header.bodyLen.toNat ≤ nsPacketBodyMax) :
    Lived none (w.answered index packet) := by
  have hobserved : Lived none
      (w.observe (.rejected (w.connection index) packet)) :=
    hlived.observed hactive (by simp) rfl trivial
  rcases w.answered_cases index hlen with
    ⟨-, hafter⟩ | ⟨buf, henqueue, hafter⟩
  · rw [hafter]
    exact hobserved
  · rw [hafter]
    exact hobserved.appended hactive (by simp) packet buf

/-- A newcomer that finds a free slot. -/
theorem Lived.occupied (hlived : Lived none w) {socketFd : NsSocket}
    (hvalid : nsSocketIsValid socketFd)
    (hfree : (w.clients index).active = false) :
    Lived none (occupySlot (w.greeted socketFd) w.connections socketFd
      index) := by
  have hclients := occupySlot_clients (w.greeted socketFd) index
    w.connections socketFd
  generalize hv : occupySlot (w.greeted socketFd) w.connections socketFd
    index = v
  rw [hv] at hclients
  have htrace : v.trace = w.trace ++ [.accepted w.connections socketFd] := by
    rw [← hv]; rfl
  have hconnections : v.connections = w.connections + 1 := by
    rw [← hv]; rfl
  have hconnection : v.connection =
      Function.update w.connection index w.connections := by
    rw [← hv]; rfl
  have hothers : ∀ connection, connection ≠ w.connections →
      about connection v.trace = about connection w.trace := by
    intro connection hne
    have hnone : ∀ obs ∈ [Obs.accepted w.connections socketFd],
        obs.subject ≠ some connection := by
      simpa [Obs.subject] using Ne.symm hne
    rw [htrace, about_append, about_eq_nil hnone, List.append_nil]
  have hnew : about w.connections v.trace =
      [.accepted w.connections socketFd] := by
    have hsubject : (Obs.accepted w.connections socketFd).subject =
        some w.connections := rfl
    rw [htrace, about_append, hlived.fresh _ le_rfl,
      about_singleton hsubject, List.nil_append]
  have hown : v.connection index = w.connections := by
    rw [hconnection, Function.update_self]
  have hslots : ∀ other, other ≠ index →
      v.clients other = w.clients other ∧
        v.connection other = w.connection other := by
    intro other hne
    rw [hclients, hconnection]
    exact ⟨Function.update_of_ne hne _ _, Function.update_of_ne hne _ _⟩
  have hfreed : ∀ other, other ≠ index → (v.clients other).active →
      (w.clients other).active := by
    intro other hne hactive
    rwa [(hslots other hne).1] at hactive
  refine ⟨?_, ?_, ?_, ?_, ?_, ?_⟩
  · intro other hactive
    rw [hconnections]
    by_cases heq : other = index
    · rw [heq, hown]
      exact Nat.lt_succ_self _
    · rw [(hslots other heq).2]
      exact (hlived.numbered other (hfreed other heq hactive)).trans
        (Nat.lt_succ_self _)
  · have hfirst : ∀ other, other ≠ index → (v.clients other).active →
        v.connection other ≠ v.connection index := by
      intro other hne hactive
      rw [hown, (hslots other hne).2]
      exact (hlived.numbered other (hfreed other hne hactive)).ne
    intro left right hleft hright heq
    by_cases hl : left = index
    · by_cases hr : right = index
      · rw [hl, hr]
      · rw [hl] at heq
        exact absurd heq.symm (hfirst right hr hright)
    · by_cases hr : right = index
      · rw [hr] at heq
        exact absurd heq (hfirst left hl hleft)
      · rw [(hslots left hl).2, (hslots right hr).2] at heq
        exact hlived.distinct left right (hfreed left hl hleft)
          (hfreed right hr hright) heq
  · intro other hactive
    by_cases heq : other = index
    · rw [heq, hclients, Function.update_self]
      exact hvalid
    · rw [(hslots other heq).1]
      exact hlived.valid other (hfreed other heq hactive)
  · intro connection hfresh
    rw [hconnections] at hfresh
    rw [hothers connection (by omega)]
    exact hlived.fresh connection (by omega)
  · intro other hactive
    by_cases heq : other = index
    · rw [heq, hown, hnew, hclients, Function.update_self]
      exact Life.accepted socketFd
    · have hwas := hfreed other heq hactive
      rw [(hslots other heq).1, (hslots other heq).2,
        hothers _ (hlived.numbered other hwas).ne]
      exact hlived.present other hwas
  · intro connection hlt hgone
    rw [hconnections] at hlt
    have hne : connection ≠ w.connections := by
      rintro rfl
      refine hgone index ?_ hown
      rw [hclients, Function.update_self]
    rw [hothers connection hne]
    refine hlived.ended connection (by omega) fun other hother hsame => ?_
    have hne' : other ≠ index := by
      rintro rfl
      rw [hfree] at hother
      exact Bool.false_ne_true hother
    refine hgone other ?_ ?_
    · rw [(hslots other hne').1]
      exact hother
    · rw [(hslots other hne').2]
      exact hsame

/-- A newcomer that is turned down. -/
theorem Lived.refused (hlived : Lived none w) (socketFd : NsSocket)
    (outcomes : List SendOutcome) :
    Lived none (turnDown (w.greeted socketFd) w.connections socketFd
      outcomes) := by
  have hframe := turnDown_frame (w.greeted socketFd) w.connections socketFd
    outcomes
  rcases turnDown_trace (w.greeted socketFd) w.connections socketFd
    outcomes with ⟨bytes, htrace⟩
  generalize turnDown (w.greeted socketFd) w.connections socketFd
    outcomes = v at *
  rcases hframe with ⟨hclients, -, -, -, -, hconnection, hconnections⟩
  have hclients' : v.clients = w.clients := hclients
  have hconnection' : v.connection = w.connection := hconnection
  have hconnections' : v.connections = w.connections + 1 := hconnections
  have htrace' : v.trace = w.trace ++
      [.accepted w.connections socketFd, .sent w.connections bytes,
        .closed w.connections socketFd] := by
    rw [htrace]
    simp [World.greeted, World.observe]
  have hsubject : ∀ obs ∈ [Obs.accepted w.connections socketFd,
      .sent w.connections bytes, .closed w.connections socketFd],
      obs.subject = some w.connections := by
    simp [Obs.subject]
  have hothers : ∀ connection, connection ≠ w.connections →
      about connection v.trace = about connection w.trace := by
    intro connection hne
    have hnone : ∀ obs ∈ [Obs.accepted w.connections socketFd,
        .sent w.connections bytes, .closed w.connections socketFd],
        obs.subject ≠ some connection := by
      intro obs hobs heq
      rw [hsubject obs hobs] at heq
      exact hne (Option.some.inj heq).symm
    rw [htrace', about_append, about_eq_nil hnone, List.append_nil]
  refine ⟨?_, ?_, ?_, ?_, ?_, ?_⟩
  · intro other hactive
    rw [hclients'] at hactive
    rw [hconnection', hconnections']
    exact (hlived.numbered other hactive).trans (Nat.lt_succ_self _)
  · intro left right hleft hright heq
    rw [hclients'] at hleft hright
    rw [hconnection'] at heq
    exact hlived.distinct left right hleft hright heq
  · rw [hclients']
    exact hlived.valid
  · intro connection hfresh
    rw [hconnections'] at hfresh
    rw [hothers connection (by omega)]
    exact hlived.fresh connection (by omega)
  · intro other hactive
    rw [hclients'] at hactive ⊢
    rw [hconnection', hothers _ (hlived.numbered other hactive).ne]
    exact hlived.present other hactive
  · intro connection hlt hgone
    rw [hconnections'] at hlt
    rw [hclients', hconnection'] at hgone
    by_cases hnew : connection = w.connections
    · rw [hnew, htrace', about_append, hlived.fresh _ le_rfl,
        about_eq_self hsubject, List.nil_append]
      exact Life.refused socketFd bytes
    · rw [hothers connection hnew]
      exact hlived.ended connection (by omega) hgone

/-- Every move continues the lives of the connections. -/
theorem Move.lived {allow : World → NsSocket → Prop}
    (hmove : Move allow w w') (hlived : Lived none w) : Lived none w' := by
  have hquiet : ∀ {v : World}, v.trace = w.trace →
      v.connection = w.connection → v.connections = w.connections →
        v.clients = w.clients → Lived none v := by
    intro v htrace hconnection hconnections hclients
    have htrace' : v.trace = w.trace ++ [] := by rw [htrace, List.append_nil]
    exact hlived.same htrace' (by simp) hconnection hconnections hclients
  cases hmove with
  | errno errno => exact hquiet rfl rfl rfl rfl
  | clock clock => exact hquiet rfl rfl rfl rfl
  | polled revents => exact hquiet rfl rfl rfl rfl
  | dispatched index packet hactive =>
      exact hlived.observed hactive (by simp) rfl trivial
  | rebuked index packet hactive hjoined htype hlen =>
      exact hlived.answered hactive hlen
  | turnedAway index packet hactive hjoined htype hlen =>
      have hstays : ((w.answered index packet).clients index).active := by
        rcases (w.answered_frame index hlen).2.2.2 with ⟨buf, hclients⟩
        rw [hclients, Function.update_self]
        exact hactive
      exact (hlived.answered hactive hlen).dropped hstays
  | dropped index hactive => exact hlived.dropped hactive
  | departed index timestamp notice hactive hjoined hnotice =>
      have hparted := (hlived.parted hactive).broadcast
        (nsPacketSet_bodyLen hnotice)
      refine hparted.released ?_
      rw [nsServerBroadcast_clients notice (nsPacketSet_bodyLen hnotice),
        broadcastClient_excluded]
      exact hactive
  | refused socketFd outcomes hvalid hallow =>
      exact hlived.refused socketFd outcomes
  | occupied socketFd index hfree hvalid hallow =>
      exact hlived.occupied hvalid hfree
  | drained index outcomes hactive =>
      refine hlived.worked rfl rfl rfl (fun other => ?_) hactive (by simp)
        rfl trivial
      change (((w.flushed index outcomes).clients other).active = _ ∧
        ((w.flushed index outcomes).clients other).socketFd = _)
      rw [World.flushed_clients]
      by_cases heq : other = index
      · rw [heq, Function.update_self]
        exact ⟨rfl, rfl⟩
      · rw [Function.update_of_ne heq]
        exact ⟨rfl, rfl⟩
  | registered database hgrow => exact hquiet rfl rfl rfl rfl
  | joined index username userId timestamp timestamp' ack notice hlen buf
      hactive hjoined hunused huser hshort hack henqueue hnotice =>
      have hseated : Lived none (w.seated index userId username) := by
        refine hlived.worked rfl rfl rfl (fun other => ?_) hactive (by simp)
          rfl trivial
        rw [World.seated_clients]
        by_cases heq : other = index
        · rw [heq, Function.update_self]
          exact ⟨rfl, rfl⟩
        · rw [Function.update_of_ne heq]
          exact ⟨rfl, rfl⟩
      have hactive' : ((w.seated index userId username).clients
          index).active := by
        rw [World.seated_clients, Function.update_self]
        exact hactive
      exact (hseated.appended hactive' (by simp) ack buf).broadcast
        (nsPacketSet_bodyLen hnotice)
  | texted index database row timestamp packet hactive hjoined hsaved
      husers hseq hmessages hsender hbody hsentAt hpacket =>
      have hstored : Lived none { w with database := database } :=
        hquiet rfl rfl rfl rfl
      exact hstored.broadcast (nsPacketSet_bodyLen hpacket)

end Living

theorem lived_run (tables : Tables) (listenSocket : NsSocket)
    (errno : Errno) (clock : Clock) (events : List Event) :
    Lived none (run World.step
      (World.boot tables listenSocket errno clock) events) :=
  run_boot_invariant (fun _ _ _ hlived hmove => hmove.lived hlived)
    (lived_boot tables listenSocket errno clock) events

/-- A connection that is no longer in a slot is not heard of again. -/
theorem Lived.silent {w w' : World} (hlived : Lived none w)
    (hlived' : Lived none w') (hgrows : w.trace <+: w'.trace)
    (hle : w.connections ≤ w'.connections) {connection : ℕ}
    (hlt : connection < w.connections)
    (hgone : ∀ index, (w.clients index).active →
      w.connection index ≠ connection) :
    about connection w'.trace = about connection w.trace := by
  have hover := hlived.ended connection hlt hgone
  rcases hgrows with ⟨later, hlater⟩
  rw [← hlater, about_append]
  have hlife : ∃ stage, Life connection stage
      (about connection w.trace ++ about connection later) := by
    rw [← about_append, hlater]
    by_cases hback : ∃ index, (w'.clients index).active ∧
        w'.connection index = connection
    · rcases hback with ⟨index, hactive, rfl⟩
      exact ⟨_, hlived'.present index hactive⟩
    · refine ⟨_, hlived'.ended connection (hlt.trans_le hle) ?_⟩
      exact fun index hactive heq => hback ⟨index, hactive, heq⟩
  rcases hlife with ⟨stage, hlife⟩
  rw [hover.over_maximal hlife, List.append_nil]

/-! ## Joining once -/

theorem NoJoin.countP {connection : ℕ} {trace : List Obs}
    (hnone : NoJoin connection trace) :
    trace.countP (Obs.joins connection) = 0 := by
  rw [List.countP_eq_zero]
  intro obs hobs hjoins
  rw [hnone obs hobs] at hjoins
  exact Bool.false_ne_true hjoins

theorem Segment.countP_joins {connection : ℕ} {userId : UInt32}
    {name : List UInt8} {trace before life rest : List Obs}
    (hsegment : Segment connection userId name trace before life rest) :
    trace.countP (Obs.joins connection) = 1 := by
  have hothers : (before ++ (life ++ rest)).countP
      (Obs.joins connection) = 0 := hsegment.joinsOnce.countP
  rw [List.countP_append] at hothers
  rw [hsegment.split, List.countP_append, List.countP_cons]
  have hself : Obs.joins connection (.joined connection userId name) =
      true := by
    simp [Obs.joins]
  rw [if_pos hself]
  omega

/-- A connection joins once if at all. -/
theorem ChatOrder.countP_joins {w : World} (horder : ChatOrder w)
    (connection : ℕ) : w.trace.countP (Obs.joins connection) ≤ 1 := by
  rcases horder.phase connection with hwaiting |
    ⟨index, hactive, hsame, before, life, hsegment⟩ | hover
  · exact hwaiting.join.countP.le.trans (Nat.zero_le 1)
  · exact hsegment.countP_joins.le
  · cases hover with
    | silent hchat hjoin => exact hjoin.countP.le.trans (Nat.zero_le 1)
    | ended userId name before life rest hsegment hend =>
        exact hsegment.countP_joins.le

/-- What every run records about a connection. -/
structure Lifecycle (w : World) (connection : ℕ) : Prop where
  life : ∃ stage, Life connection stage (about connection w.trace)
  joinsOnce : w.trace.countP (Obs.joins connection) ≤ 1
  seat : ∀ left right, (w.clients left).active →
    (w.clients right).active → w.connection left = connection →
      w.connection right = connection → left = right
  served : ∀ index, (w.clients index).active →
    w.connection index = connection →
      Life connection (.serving (w.clients index).socketFd)
        (about connection w.trace)
  closed : connection < w.connections →
    (∀ index, (w.clients index).active → w.connection index ≠ connection) →
      ∃ socketFd, .accepted connection socketFd ∈ w.trace ∧
        ∃ before, about connection w.trace =
          before ++ [.closed connection socketFd]

theorem mem_of_mem_about {connection : ℕ} {obs : Obs} {trace : List Obs}
    (hmem : obs ∈ about connection trace) : obs ∈ trace :=
  (List.mem_filter.mp hmem).1

theorem Lived.lifecycle {w : World} (hlived : Lived none w)
    (horder : ChatOrder w) (connection : ℕ) :
    Lifecycle w connection where
  joinsOnce := horder.countP_joins connection
  seat := fun left right hleft hright hsame hsame' =>
    hlived.distinct left right hleft hright (hsame.trans hsame'.symm)
  life := by
    by_cases hlt : connection < w.connections
    · by_cases hhere : ∃ index, (w.clients index).active ∧
          w.connection index = connection
      · rcases hhere with ⟨index, hactive, rfl⟩
        exact ⟨_, hlived.present index hactive⟩
      · refine ⟨_, hlived.ended connection hlt ?_⟩
        exact fun index hactive heq => hhere ⟨index, hactive, heq⟩
    · rw [hlived.fresh connection (not_lt.mp hlt)]
      exact ⟨_, Life.unknown⟩
  served := by
    rintro index hactive rfl
    simpa [slotStage] using hlived.present index hactive
  closed := by
    intro hlt hgone
    have hover := hlived.ended connection hlt hgone
    rcases hover.ends_closed with ⟨before, socketFd, heq, -⟩
    rcases hover.head with ⟨hstage, -⟩ | ⟨first, rest, hhead, hsame, -⟩
    · exact Stage.noConfusion hstage
    · have hfirst : socketFd = first := by
        apply hsame
        rw [heq]
        simp
      have hmem : .accepted connection socketFd ∈
          about connection w.trace := by
        rw [hhead, hfirst]
        exact List.mem_cons_self
      exact ⟨socketFd, mem_of_mem_about hmem, before, heq⟩

theorem connection_lifecycles (tables : Tables) (listenSocket : NsSocket)
    (errno : Errno) (clock : Clock) (events : List Event)
    (connection : ℕ) :
    Lifecycle (run World.step
      (World.boot tables listenSocket errno clock) events) connection :=
  (lived_run tables listenSocket errno clock events).lifecycle
    (chatOrder_run tables listenSocket errno clock events) connection

end NodeSignal
