import NodeSignal.SocketOwners
import NodeSignal.ServerMoves

/-!
# What a client says on a socket

The first packet on a socket is the JOIN packet, and nothing else is sent
before an ACK came back on the same socket.  A LEAVE packet is the last one,
because it is sent on a socket that was taken before.
-/

namespace NodeSignal

open CStrings

/-! ## Scripts -/

/-- A JOIN packet with this name, then TEXT packets. -/
inductive Speaking (name : List UInt8) : List NsPacket → Prop
  | intro (join : NsPacket) (texts : List NsPacket)
      (hjoin : join.header.type = NsPacketType.join.code)
      (hname : text join.body = name)
      (htexts : ∀ packet ∈ texts,
        packet.header.type = NsPacketType.text.code) :
      Speaking name (join :: texts)

/-- JOIN, then any number of TEXT, then at most one LEAVE. -/
inductive Script : List NsPacket → Prop
  | silent : Script []
  | speaking (name : List UInt8) (packets : List NsPacket)
      (hspeaking : Speaking name packets) : Script packets
  | left (name : List UInt8) (packets : List NsPacket) (leave : NsPacket)
      (hspeaking : Speaking name packets)
      (hleave : leave.header.type = NsPacketType.leave.code) :
      Script (packets ++ [leave])

section Scripts

variable {name : List UInt8} {packets : List NsPacket} {packet : NsPacket}

theorem Speaking.ne_nil (hspeaking : Speaking name packets) :
    packets ≠ [] := by
  cases hspeaking
  simp

theorem Speaking.snoc (hspeaking : Speaking name packets)
    (htext : packet.header.type = NsPacketType.text.code) :
    Speaking name (packets ++ [packet]) := by
  cases hspeaking with
  | intro join texts hjoin hname htexts =>
      apply Speaking.intro join (texts ++ [packet]) hjoin hname
      exact List.forall_mem_append.mpr ⟨htexts, by simpa using htext⟩

theorem speaking_singleton
    (hjoin : packet.header.type = NsPacketType.join.code) :
    Speaking (text packet.body) [packet] :=
  .intro packet [] hjoin rfl (by simp)

/-- The beginning of a script is a script. -/
theorem Speaking.of_start (hspeaking : Speaking name packets)
    {first : List NsPacket} (hfirst : first <+: packets)
    (hne : first ≠ []) : Speaking name first := by
  cases hspeaking with
  | intro join texts hjoin hname htexts =>
      cases first with
      | nil => exact absurd rfl hne
      | cons head rest =>
          rcases List.cons_prefix_cons.mp hfirst with ⟨rfl, hrest⟩
          exact .intro head rest hjoin hname
            fun packet hmem => htexts packet (hrest.subset hmem)

theorem Script.of_start (hscript : Script packets)
    {first : List NsPacket} (hfirst : first <+: packets) :
    Script first := by
  by_cases hne : first = []
  · rw [hne]
    exact .silent
  cases hscript with
  | silent => exact absurd (List.prefix_nil.mp hfirst) hne
  | speaking name _ hspeaking =>
      exact .speaking name first (hspeaking.of_start hfirst hne)
  | left name packets leave hspeaking hleave =>
      rcases List.prefix_concat_iff.mp hfirst with hsame | hfirst
      · rw [hsame]
        exact .left name packets leave hspeaking hleave
      · exact .speaking name first (hspeaking.of_start hfirst hne)

/-- Only the first packet of a script is a JOIN packet. -/
theorem Script.cons {rest : List NsPacket} (hscript : Script packets)
    (hpackets : packets = packet :: rest) :
    packet.header.type = NsPacketType.join.code ∧
      ∀ later ∈ rest, later.header.type = NsPacketType.text.code ∨
        later.header.type = NsPacketType.leave.code := by
  cases hscript with
  | silent => simp at hpackets
  | speaking name _ hspeaking =>
      cases hspeaking with
      | intro join texts hjoin hname htexts =>
          rcases List.cons.inj hpackets with ⟨rfl, rfl⟩
          exact ⟨hjoin, fun later hlater => Or.inl (htexts later hlater)⟩
  | left name packets leave hspeaking hleave =>
      cases hspeaking with
      | intro join texts hjoin hname htexts =>
          rw [List.cons_append] at hpackets
          rcases List.cons.inj hpackets with ⟨rfl, rfl⟩
          refine ⟨hjoin, List.forall_mem_append.mpr ⟨?_, ?_⟩⟩
          · exact fun later hlater => Or.inl (htexts later hlater)
          · exact List.forall_mem_singleton.mpr (Or.inr hleave)

theorem Script.later {before after : List NsPacket}
    (hscript : Script packets)
    (hpackets : packets = before ++ packet :: after) (hne : before ≠ []) :
    packet.header.type = NsPacketType.text.code ∨
      packet.header.type = NsPacketType.leave.code := by
  cases before with
  | nil => exact absurd rfl hne
  | cons head rest => exact (hscript.cons hpackets).2 packet (by simp)

theorem Script.head_of_join (hscript : Script packets)
    (hmem : packet ∈ packets)
    (hjoin : packet.header.type = NsPacketType.join.code) :
    packets.head? = some packet := by
  rcases List.append_of_mem hmem with ⟨before, after, hsplit⟩
  cases before with
  | nil => rw [hsplit]; rfl
  | cons head rest =>
      rcases hscript.later hsplit (by simp) with htext | hleave
      · exact absurd (hjoin.symm.trans htext) (by decide)
      · exact absurd (hjoin.symm.trans hleave) (by decide)

theorem Script.type (hscript : Script packets) (hmem : packet ∈ packets) :
    packet.header.type = NsPacketType.join.code ∨
      packet.header.type = NsPacketType.text.code ∨
      packet.header.type = NsPacketType.leave.code := by
  rcases List.append_of_mem hmem with ⟨before, after, hsplit⟩
  cases before with
  | nil => exact Or.inl (hscript.cons hsplit).1
  | cons head rest => exact Or.inr (hscript.later hsplit (by simp))

end Scripts

/-! ## Stations -/

/-- A client with the packets that it has sent and received, per socket. -/
structure Station where
  app : NsClientApp
  sent : ℕ → List NsPacket
  received : ℕ → List NsPacket

def Station.boot : Station := ⟨.boot, fun _ => [], fun _ => []⟩

def record (log : ℕ → List NsPacket) :
    Option (ℕ × NsPacket) → ℕ → List NsPacket
  | none => log
  | some (socket, packet) =>
      Function.update log socket (log socket ++ [packet])

def Station.step (station : Station) (now : UInt32)
    (action : ClientAction) : Station where
  app := station.app.step action
  sent := record station.sent (station.app.outgoing now action)
  received := record station.received (station.app.incoming action)

/-- An ACK under this id came back. -/
def Acked (userId : UInt32) (packets : List NsPacket) : Prop :=
  ∃ ack ∈ packets, ack.header.type = NsPacketType.ack.code ∧
    ack.header.senderId = userId

namespace Station

/-- What is known where the main thread stands. -/
def Poised (station : Station) : MainThread → Prop
  | .storing socket login packet =>
      station.sent socket = [] ∧
        packet.header.type = NsPacketType.join.code ∧
        text packet.body = text login.kept.username
  | .sendingJoin socket packet =>
      station.sent socket = [] ∧
        packet.header.type = NsPacketType.join.code ∧
        text packet.body = text station.app.connectedLogin.username
  | .starting socket =>
      Speaking (text station.app.connectedLogin.username)
        (station.sent socket)
  | .sending socket packet =>
      packet.header.type = NsPacketType.text.code ∧
        (∃ userId, Acked userId (station.received socket)) ∧
        ∃ name, Speaking name (station.sent socket)
  | .taking notifyServer resume =>
      resume = .connectFailed → notifyServer = false
  | .leaving (some socket) true true _ _ =>
      ∃ name, Speaking name (station.sent socket)
  | _ => True

structure Mannered (station : Station) : Prop where
  owned : station.app.Owned
  script : ∀ socket, Script (station.sent socket)
  fresh : ∀ socket, station.app.sockets ≤ socket →
    station.sent socket = [] ∧ station.received socket = []
  texted : ∀ socket, ∀ packet ∈ station.sent socket,
    packet.header.type = NsPacketType.text.code →
      ∃ userId, Acked userId (station.received socket)
  poised : station.Poised station.app.main
  stored : ∀ socket, station.app.socketFd = some socket →
    Speaking (text station.app.connectedLogin.username)
        (station.sent socket) ∨
      station.sent socket = [] ∧ station.app.main.Launches socket
  joined : ∀ socket, station.app.socketFd = some socket →
    station.app.joined →
      Acked station.app.userId (station.received socket)
  handling : ∀ thread socket packet,
    station.app.threads thread = .handling socket packet →
      packet ∈ station.received socket

end Station

theorem mannered_boot : Station.boot.Mannered := by
  constructor
  · exact sockets_owned_boot
  · exact fun _ => .silent
  all_goals simp [Station.boot, NsClientApp.boot, Station.Poised]

section Manners

variable {station : Station} {app' : NsClientApp}

open Station NsClientApp

theorem record_self (log : ℕ → List NsPacket) (socket : ℕ)
    (packet : NsPacket) :
    record log (some (socket, packet)) socket = log socket ++ [packet] :=
  Function.update_self _ _ _

theorem record_of_ne (log : ℕ → List NsPacket) {socket other : ℕ}
    (packet : NsPacket) (hother : other ≠ socket) :
    record log (some (socket, packet)) other = log other :=
  Function.update_of_ne hother _ _

theorem mem_record (log : ℕ → List NsPacket) {socket : ℕ}
    {packet : NsPacket} (heard : Option (ℕ × NsPacket))
    (hmem : packet ∈ log socket) : packet ∈ record log heard socket := by
  cases heard with
  | none => exact hmem
  | some entry =>
      by_cases hsame : socket = entry.1
      · subst hsame
        rw [record_self]
        exact List.mem_append_left _ hmem
      · rw [record_of_ne _ _ hsame]
        exact hmem

theorem Acked.record {log : ℕ → List NsPacket} {socket : ℕ}
    {userId : UInt32} (hacked : Acked userId (log socket))
    (heard : Option (ℕ × NsPacket)) :
    Acked userId (record log heard socket) := by
  rcases hacked with ⟨ack, hmem, hack⟩
  exact ⟨ack, mem_record log heard hmem, hack⟩

/-- The main thread may stay where it stands while the client hears. -/
theorem Station.Poised.hears (hpoised : station.Poised station.app.main)
    (heard : Option (ℕ × NsPacket))
    (hlogin : app'.connectedLogin = station.app.connectedLogin)
    (hmain : app'.main = station.app.main) :
    Poised ⟨app', station.sent, record station.received heard⟩
      app'.main := by
  rw [hmain]
  revert hpoised
  unfold Poised
  simp only [hlogin]
  split
  · exact id
  · exact id
  · exact id
  · rintro ⟨htext, ⟨userId, hacked⟩, hname⟩
    exact ⟨htext, ⟨userId, hacked.record heard⟩, hname⟩
  · exact id
  · exact id
  · exact id

/-- Nothing is said, and no socket is stored. -/
theorem Station.Mannered.frame (hmannered : station.Mannered)
    (howned : app'.Owned) (hsockets : station.app.sockets ≤ app'.sockets)
    (hlogin : app'.connectedLogin = station.app.connectedLogin)
    (hsocketFd : ∀ socket, app'.socketFd = some socket →
      station.app.socketFd = some socket)
    (hjoined : ∀ socket, app'.socketFd = some socket → app'.joined →
      Acked app'.userId (station.received socket))
    (hthreads : ∀ thread socket packet,
      app'.threads thread = .handling socket packet →
        station.app.threads thread = .handling socket packet)
    (hpoised : Poised { station with app := app' } app'.main)
    (hlaunches : ∀ socket, app'.socketFd = some socket →
      station.sent socket = [] → station.app.main.Launches socket →
        app'.main.Launches socket) :
    Mannered { station with app := app' } := by
  constructor
  · exact howned
  · exact hmannered.script
  · exact fun socket hfresh =>
      hmannered.fresh socket (hsockets.trans hfresh)
  · exact hmannered.texted
  · exact hpoised
  · intro socket hsocket
    rcases hmannered.stored socket (hsocketFd socket hsocket) with
      hspeaking | ⟨hsilent, hlaunching⟩
    · left
      rw [hlogin]
      exact hspeaking
    · exact Or.inr ⟨hsilent, hlaunches socket hsocket hsilent hlaunching⟩
  · exact hjoined
  · exact fun thread socket packet hstate =>
      hmannered.handling thread socket packet
        (hthreads thread socket packet hstate)

/-- A step of a receiver thread that neither hears nor handles. -/
theorem Station.Mannered.advances (hmannered : station.Mannered)
    (howned : app'.Owned) (hsockets : app'.sockets = station.app.sockets)
    (hlogin : app'.connectedLogin = station.app.connectedLogin)
    (hmain : app'.main = station.app.main)
    (hsocketFd : ∀ socket, app'.socketFd = some socket →
      station.app.socketFd = some socket)
    (hjoined : ∀ socket, app'.socketFd = some socket → app'.joined →
      Acked app'.userId (station.received socket))
    {thread : ℕ} {state : ReceiverThread}
    (hthreads : app'.threads =
      Function.update station.app.threads thread state)
    (hstate : ∀ socket packet, state ≠ .handling socket packet) :
    Mannered { station with app := app' } := by
  apply hmannered.frame howned hsockets.ge hlogin hsocketFd hjoined
  · intro other socket packet hhandling
    rw [hthreads] at hhandling
    by_cases hsame : other = thread
    · subst hsame
      rw [Function.update_self] at hhandling
      exact absurd hhandling (hstate socket packet)
    · rwa [Function.update_of_ne hsame] at hhandling
  · exact hmannered.poised.hears none hlogin hmain
  · rw [hmain]
    exact fun _ _ _ hlaunches => hlaunches

/-- A step of a receiver thread that leaves the lock alone. -/
theorem Station.Mannered.setThread (hmannered : station.Mannered)
    {thread : ℕ} {state : ReceiverThread}
    (howned : (station.app.setThread thread state).Owned)
    (hstate : ∀ socket packet, state ≠ .handling socket packet) :
    Mannered { station with app := station.app.setThread thread state } :=
  hmannered.advances howned rfl rfl rfl (fun _ hsocket => hsocket)
    hmannered.joined rfl hstate

theorem Station.Mannered.hears (hmannered : station.Mannered)
    {thread socket : ℕ} {packet : NsPacket}
    (hstate : station.app.threads thread = .receiving socket)
    (howned : (station.app.setThread thread
      (.handling socket packet)).Owned) :
    Mannered
      { station with
        app := station.app.setThread thread (.handling socket packet)
        received := record station.received (some (socket, packet)) } := by
  rcases hmannered.owned.copies (by rw [hstate]; rfl) with
    ⟨hrunning, hsame⟩
  have hknown := hmannered.owned.known hrunning
  constructor
  · exact howned
  · exact hmannered.script
  · intro other hfresh
    have hne : other ≠ socket := by
      rw [hsame]
      exact (hknown.trans_le hfresh).ne'
    dsimp only
    rw [record_of_ne _ _ hne]
    exact hmannered.fresh other hfresh
  · intro other packet' hmem htext
    rcases hmannered.texted other packet' hmem htext with
      ⟨userId, hacked⟩
    exact ⟨userId, hacked.record (some (socket, packet))⟩
  · exact hmannered.poised.hears _ rfl rfl
  · exact hmannered.stored
  · exact fun other hsocket hjoined =>
      (hmannered.joined other hsocket hjoined).record (some (socket, packet))
  · intro other socket' packet' hhandling
    by_cases hother : other = thread
    · subst hother
      have hhandling' : ReceiverThread.handling socket packet =
          .handling socket' packet' :=
        (Function.update_self _ _ _).symm.trans hhandling
      rcases ReceiverThread.handling.inj hhandling' with ⟨rfl, rfl⟩
      dsimp only
      rw [record_self]
      simp
    · have hhandling' : station.app.threads other =
          .handling socket' packet' :=
        (Function.update_of_ne hother _ _).symm.trans hhandling
      exact mem_record _ (some (socket, packet))
        (hmannered.handling other socket' packet' hhandling')

/-- What a thread handles came in on the socket that is stored. -/
theorem Station.Mannered.acknowledges (hmannered : station.Mannered)
    {thread socket : ℕ} {packet : NsPacket}
    (hstate : station.app.threads thread = .handling socket packet)
    (htype : packet.header.type = NsPacketType.ack.code)
    {events : List NsUiEvent}
    (howned : ((station.app.acknowledge packet).setThread thread
      (.posting socket events)).Owned) :
    Mannered
      { station with
        app := (station.app.acknowledge packet).setThread thread
          (.posting socket events) } := by
  rcases hmannered.owned.copies (by rw [hstate]; rfl) with
    ⟨hrunning, hsame⟩
  refine hmannered.advances howned rfl rfl rfl (fun _ hsocket => hsocket)
    ?_ rfl (by simp)
  intro other hsocket _
  have hother : other = socket :=
    (hmannered.owned.stored_running hrunning hsocket).trans hsame.symm
  rw [hother]
  exact ⟨packet, hmannered.handling thread socket packet hstate, htype, rfl⟩

/-- A receiver thread makes its next step. -/
theorem Station.Mannered.receiveLoop (hmannered : station.Mannered)
    (thread : ℕ) (received : Option NsPacket)
    (hquiet : station.app.incoming (.receive thread received) = none) :
    Mannered
      { station with app := station.app.receiveLoop thread received } := by
  have howned := hmannered.owned.receiveLoop thread received
  cases hstate : station.app.threads thread with
  | absent =>
      simp only [NsClientApp.receiveLoop, hstate]
      exact hmannered
  | finished =>
      simp only [NsClientApp.receiveLoop, hstate]
      exact hmannered
  | starting =>
      cases hsocket : station.app.socketFd with
      | none =>
          simp only [NsClientApp.receiveLoop, hstate, hsocket] at howned ⊢
          exact hmannered.setThread howned (by simp)
      | some socket =>
          simp only [NsClientApp.receiveLoop, hstate, hsocket] at howned ⊢
          exact hmannered.setThread howned (by simp)
  | receiving socket =>
      cases received with
      | none =>
          simp only [NsClientApp.receiveLoop, hstate] at howned ⊢
          exact hmannered.setThread howned (by simp)
      | some packet => simp [incoming, hstate] at hquiet
  | handling socket packet =>
      simp only [NsClientApp.receiveLoop, hstate] at howned ⊢
      split_ifs at howned ⊢ with htype
      · exact hmannered.acknowledges hstate
          (NsPacketType.eq_code_of_ofCode? htype) howned
      · exact hmannered.setThread howned (by simp)
  | posting socket events =>
      cases events with
      | nil =>
          simp only [NsClientApp.receiveLoop, hstate] at howned ⊢
          exact hmannered.setThread howned (by simp)
      | cons event rest =>
          simp only [NsClientApp.receiveLoop, hstate] at howned ⊢
          exact hmannered.advances howned rfl rfl rfl
            (fun _ hsocket => hsocket) hmannered.joined rfl (by simp)
  | taking =>
      simp only [NsClientApp.receiveLoop, hstate] at howned ⊢
      have hnone : ∀ socket, (none : Option ℕ) ≠ some socket := by simp
      exact hmannered.advances howned rfl rfl rfl
        (fun socket hsocket => absurd hsocket (hnone socket))
        (fun socket hsocket => absurd hsocket (hnone socket)) rfl (by simp)
  | closing socket =>
      simp only [NsClientApp.receiveLoop, hstate] at howned ⊢
      exact hmannered.advances howned rfl rfl rfl
        (fun _ hsocket => hsocket) hmannered.joined rfl (by simp)
  | queueing =>
      simp only [NsClientApp.receiveLoop, hstate] at howned ⊢
      exact hmannered.advances howned rfl rfl rfl
        (fun _ hsocket => hsocket) hmannered.joined rfl (by simp)

theorem Station.Mannered.receives (hmannered : station.Mannered)
    (now : UInt32) (thread : ℕ) (received : Option NsPacket) :
    (station.step now (.receive thread received)).Mannered := by
  cases hincoming : station.app.incoming (.receive thread received) with
  | none =>
      have hstep : station.step now (.receive thread received) =
          { station with
            app := station.app.receiveLoop thread received } := by
        rw [Station.step, hincoming]
        rfl
      rw [hstep]
      exact hmannered.receiveLoop thread received hincoming
  | some entry =>
      have howned := hmannered.owned.receiveLoop thread received
      cases received with
      | none => simp [incoming] at hincoming
      | some packet =>
          cases hstate : station.app.threads thread with
          | receiving socket =>
              simp only [incoming, hstate, Option.some.injEq] at hincoming
              simp only [NsClientApp.receiveLoop, hstate] at howned
              have hstep : station.step now (.receive thread (some packet)) =
                  { station with
                    app := station.app.setThread thread
                      (.handling socket packet)
                    received := record station.received
                      (some (socket, packet)) } := by
                simp only [Station.step, NsClientApp.step,
                  NsClientApp.receiveLoop, incoming, hstate]
                rfl
              rw [hstep]
              exact hmannered.hears hstate howned
          | _ => simp [incoming, hstate] at hincoming

/-! ## The main thread -/

/-- The callback goes on without a packet being sent. -/
theorem Station.Mannered.goesOn (hmannered : station.Mannered)
    (howned : app'.Owned) (hsockets : app'.sockets = station.app.sockets)
    (hlogin : app'.connectedLogin = station.app.connectedLogin)
    (hsocketFd : app'.socketFd = station.app.socketFd)
    (hjoined : app'.joined = station.app.joined)
    (huserId : app'.userId = station.app.userId)
    (hthreads : app'.threads = station.app.threads)
    (hpoised : Poised { station with app := app' } app'.main)
    (hlaunches : ∀ socket, station.app.main.Launches socket →
      station.sent socket = [] → app'.main.Launches socket) :
    Mannered { station with app := app' } := by
  apply hmannered.frame howned hsockets.ge hlogin
  · rw [hsocketFd]
    exact fun _ hsocket => hsocket
  · rw [hsocketFd, hjoined, huserId]
    exact hmannered.joined
  · rw [hthreads]
    exact fun _ _ _ hstate => hstate
  · exact hpoised
  · exact fun socket _ hsilent hlaunching =>
      hlaunches socket hlaunching hsilent

/-- The callback goes on after a packet was sent. -/
theorem Station.Mannered.says (hmannered : station.Mannered)
    {socket : ℕ} {packet : NsPacket} {main : MainThread}
    (howned : ({ station.app with main := main } : NsClientApp).Owned)
    (hscript : Script (station.sent socket ++ [packet]))
    (hknown : socket < station.app.sockets)
    (htexted : packet.header.type = NsPacketType.text.code →
      ∃ userId, Acked userId (station.received socket))
    (hpoised : Poised
      { station with
        app := { station.app with main := main }
        sent := record station.sent (some (socket, packet)) } main)
    (hstored : station.app.socketFd = some socket →
      Speaking (text station.app.connectedLogin.username)
        (station.sent socket ++ [packet]))
    (hlaunches : ∀ other, station.app.main.Launches other →
      station.sent other = [] → other ≠ socket →
        main.Launches other) :
    Mannered
      { station with
        app := { station.app with main := main }
        sent := record station.sent (some (socket, packet)) } := by
  constructor
  · exact howned
  · intro other
    by_cases hother : other = socket
    · subst hother
      dsimp only
      rw [record_self]
      exact hscript
    · dsimp only
      rw [record_of_ne _ _ hother]
      exact hmannered.script other
  · intro other hfresh
    have hother : other ≠ socket := (hknown.trans_le hfresh).ne'
    dsimp only
    rw [record_of_ne _ _ hother]
    exact hmannered.fresh other hfresh
  · intro other packet' hmem htext
    by_cases hother : other = socket
    · subst hother
      dsimp only at hmem
      rw [record_self, List.mem_append, List.mem_singleton] at hmem
      rcases hmem with hmem | rfl
      · exact hmannered.texted other packet' hmem htext
      · exact htexted htext
    · dsimp only at hmem
      rw [record_of_ne _ _ hother] at hmem
      exact hmannered.texted other packet' hmem htext
  · exact hpoised
  · intro other hsocket
    by_cases hother : other = socket
    · subst hother
      dsimp only
      rw [record_self]
      exact Or.inl (hstored hsocket)
    · dsimp only
      rw [record_of_ne _ _ hother]
      rcases hmannered.stored other hsocket with
        hspeaking | ⟨hsilent, hlaunching⟩
      · exact Or.inl hspeaking
      · exact Or.inr
          ⟨hsilent, hlaunches other hlaunching hsilent hother⟩
  · exact hmannered.joined
  · exact hmannered.handling

theorem text_kept_username {login : LoginForm}
    (hshort : (text login.username).length ≤ nsUsernameMax) :
    text login.kept.username = text login.username := by
  have hfits : [text login.username].flatten.length < nsUsernameMax + 1 := by
    simpa [Nat.lt_succ_iff] using hshort
  rw [LoginForm.kept, snprintf_of_fits hfits]
  simp [text_of_zero_notMem (zero_notMem_text _)]

/-- `ns_client_store_connection` and the copies of the login. -/
theorem Station.Mannered.stores (hmannered : station.Mannered)
    {socket : ℕ} {login : LoginForm} {packet : NsPacket}
    (hmain : station.app.main = .storing socket login packet)
    (howned : app'.Owned) (hsockets : app'.sockets = station.app.sockets)
    (hlogin : app'.connectedLogin = login.kept)
    (hsocketFd : app'.socketFd = some socket)
    (hjoined : app'.joined = false)
    (hthreads : app'.threads = station.app.threads)
    (hmain' : app'.main = .sendingJoin socket packet) :
    Mannered { station with app := app' } := by
  have hpoised := hmannered.poised
  rw [hmain] at hpoised
  rcases hpoised with ⟨hsilent, hjoin, hname⟩
  constructor
  · exact howned
  · exact hmannered.script
  · dsimp only
    rw [hsockets]
    exact hmannered.fresh
  · exact hmannered.texted
  · dsimp only
    rw [hmain']
    refine ⟨hsilent, hjoin, ?_⟩
    dsimp only
    rw [hlogin]
    exact hname
  · intro other hother
    have hsame : socket = other :=
      Option.some.inj (hsocketFd.symm.trans hother)
    subst hsame
    right
    dsimp only
    rw [hmain']
    exact ⟨hsilent, rfl⟩
  · intro other _ hother
    dsimp only at hother
    rw [hjoined] at hother
    exact absurd hother Bool.false_ne_true
  · dsimp only
    rw [hthreads]
    exact hmannered.handling

/-- The stored socket, once the main thread has got past `g_thread_new`. -/
theorem Station.Mannered.speaking (hmannered : station.Mannered)
    {socket : ℕ} (hsocket : station.app.socketFd = some socket)
    (hlaunches : ¬ station.app.main.Launches socket) :
    Speaking (text station.app.connectedLogin.username)
      (station.sent socket) :=
  (hmannered.stored socket hsocket).resolve_right
    fun hlaunching => hlaunches hlaunching.2

theorem Station.Mannered.taken (hmannered : station.Mannered)
    {notifyServer : Bool} {resume : Resume}
    (hmain : station.app.main = .taking notifyServer resume)
    {socket : ℕ} (hsocket : station.app.socketFd = some socket)
    (hnotify : notifyServer = true) :
    ∃ name, Speaking name (station.sent socket) := by
  refine ⟨_, hmannered.speaking hsocket ?_⟩
  have hpoised := hmannered.poised
  rw [hmain] at hpoised ⊢
  intro hlaunches
  cases resume with
  | connectFailed =>
      rw [hpoised rfl] at hnotify
      exact Bool.false_ne_true hnotify
  | _ => exact hlaunches

/-- The callback ends. -/
theorem Station.Mannered.resumes (hmannered : station.Mannered)
    (resume : Resume) {app : NsClientApp}
    (howned : (app.resume resume).Owned)
    (hsockets : app.sockets = station.app.sockets)
    (hlogin : app.connectedLogin = station.app.connectedLogin)
    (hsocketFd : app.socketFd = station.app.socketFd)
    (hjoined : app.joined = station.app.joined)
    (huserId : app.userId = station.app.userId)
    (hthreads : app.threads = station.app.threads)
    (hlaunches : ∀ socket, ¬ station.app.main.Launches socket) :
    Mannered { station with app := app.resume resume } := by
  cases resume <;>
    exact hmannered.goesOn howned hsockets hlogin hsocketFd hjoined huserId
      hthreads trivial fun socket hlaunching _ =>
        absurd hlaunching (hlaunches socket)

theorem Station.Mannered.unlinks (hmannered : station.Mannered)
    {resume : Resume} (hmain : station.app.main = .unlinking resume)
    (howned : (station.app.unlinkReceiverThread resume).Owned) :
    Mannered
      { station with app := station.app.unlinkReceiverThread resume } := by
  have hlaunches : ∀ socket, ¬ station.app.main.Launches socket := by
    simp [hmain, MainThread.Launches]
  unfold unlinkReceiverThread at howned ⊢
  split_ifs at howned ⊢
  · exact hmannered.resumes resume howned rfl rfl rfl rfl rfl rfl hlaunches
  · cases hreceiver : station.app.receiverThread with
    | none =>
        simp only [hreceiver] at howned ⊢
        exact hmannered.resumes resume howned rfl rfl rfl rfl rfl rfl
          hlaunches
    | some thread =>
        simp only [hreceiver] at howned ⊢
        exact hmannered.goesOn howned rfl rfl rfl rfl rfl rfl trivial
          fun socket hlaunching _ => absurd hlaunching (hlaunches socket)

theorem Station.Mannered.starts (hmannered : station.Mannered)
    {socket : ℕ} (hmain : station.app.main = .starting socket)
    (howned : (station.app.continueCallback true).Owned) :
    Mannered { station with app := station.app.continueCallback true } := by
  have hpoised := hmannered.poised
  rw [hmain] at hpoised
  simp only [continueCallback, hmain] at howned ⊢
  refine hmannered.frame howned le_rfl rfl (fun _ hsocket => hsocket)
    hmannered.joined ?_ trivial ?_
  · intro thread other packet hstate
    by_cases hsame : thread = socket
    · subst hsame
      simp [NsClientApp.setThread] at hstate
    · simpa [NsClientApp.setThread, Function.update_of_ne hsame]
        using hstate
  · intro other _ hsilent hlaunching
    rw [hmain] at hlaunching
    rw [← hlaunching] at hsilent
    exact absurd hsilent (Speaking.ne_nil hpoised)

/-- The callback makes a step in which nothing is sent. -/
theorem Station.Mannered.continueCallback (hmannered : station.Mannered)
    {now : UInt32} {sendOk : Bool}
    (hquiet : station.app.outgoing now (.proceed sendOk) = none) :
    Mannered
      { station with app := station.app.continueCallback sendOk } := by
  have howned := hmannered.owned.continueCallback sendOk
  cases hmain : station.app.main with
  | idle =>
      simp only [NsClientApp.continueCallback, hmain]
      exact hmannered
  | storing socket login packet =>
      simp only [NsClientApp.continueCallback, hmain] at howned ⊢
      exact hmannered.stores hmain howned rfl rfl rfl rfl rfl rfl
  | sendingJoin socket packet =>
      cases sendOk with
      | true => simp [outgoing, hmain] at hquiet
      | false =>
          simp only [NsClientApp.continueCallback, hmain, Bool.false_eq_true,
            if_false] at howned ⊢
          exact hmannered.goesOn howned rfl rfl rfl rfl rfl rfl
            (fun _ => rfl) fun _ _ _ => trivial
  | starting socket =>
      have hsame : station.app.continueCallback sendOk =
          station.app.continueCallback true := by
        simp only [NsClientApp.continueCallback, hmain]
      rw [hsame] at howned ⊢
      exact hmannered.starts hmain howned
  | sending socket packet =>
      cases sendOk with
      | true => simp [outgoing, hmain] at hquiet
      | false =>
          simp only [NsClientApp.continueCallback, hmain, Bool.false_eq_true,
            if_false] at howned ⊢
          refine hmannered.goesOn howned rfl rfl rfl rfl rfl rfl ?_ ?_
          · exact fun hresume => absurd hresume (by simp)
          · simp [hmain, MainThread.Launches]
  | taking notifyServer resume =>
      simp only [NsClientApp.continueCallback, hmain] at howned ⊢
      have hnone : ∀ socket, (none : Option ℕ) ≠ some socket := by simp
      refine hmannered.frame howned le_rfl rfl
        (fun socket hsocket => absurd hsocket (hnone socket))
        (fun socket hsocket => absurd hsocket (hnone socket))
        (fun _ _ _ hstate => hstate) ?_
        (fun socket hsocket => absurd hsocket (hnone socket))
      dsimp only
      cases hsocket : station.app.socketFd with
      | none => trivial
      | some socket =>
          cases hnotify : notifyServer with
          | false => trivial
          | true =>
              cases station.app.joined with
              | false => trivial
              | true => exact hmannered.taken hmain hsocket hnotify
  | leaving socket notifyServer wasJoined userId resume =>
      simp only [NsClientApp.continueCallback, hmain] at howned ⊢
      refine hmannered.goesOn howned rfl rfl rfl rfl rfl rfl trivial ?_
      simp [hmain, MainThread.Launches]
  | closing socket resume =>
      simp only [NsClientApp.continueCallback, hmain] at howned ⊢
      refine hmannered.goesOn howned rfl rfl rfl rfl rfl rfl trivial ?_
      simp [hmain, MainThread.Launches]
  | unlinking resume =>
      simp only [NsClientApp.continueCallback, hmain] at howned ⊢
      exact hmannered.unlinks hmain howned
  | joining thread resume =>
      simp only [NsClientApp.continueCallback, hmain] at howned ⊢
      split_ifs at howned ⊢ with hfinished
      · exact hmannered.resumes resume howned rfl rfl rfl rfl rfl rfl
          (by simp [hmain, MainThread.Launches])
      · exact hmannered

theorem Station.Mannered.sendsJoin (hmannered : station.Mannered)
    {socket : ℕ} {packet : NsPacket}
    (hmain : station.app.main = .sendingJoin socket packet)
    (howned : ({ station.app with main := .starting socket } :
      NsClientApp).Owned) :
    Mannered
      { station with
        app := { station.app with main := .starting socket }
        sent := record station.sent (some (socket, packet)) } := by
  have hpoised := hmannered.poised
  rw [hmain] at hpoised
  rcases hpoised with ⟨hsilent, hjoin, hname⟩
  have hspeaking : Speaking (text station.app.connectedLogin.username)
      (station.sent socket ++ [packet]) := by
    rw [hsilent, ← hname]
    exact speaking_singleton hjoin
  have hknown := (hmannered.owned.target socket (by rw [hmain]; rfl)).1
  refine hmannered.says howned (.speaking _ _ hspeaking) hknown ?_ ?_
    (fun _ => hspeaking) ?_
  · intro htext
    exact absurd (hjoin.symm.trans htext) (by decide)
  · unfold Poised
    dsimp only
    rw [record_self]
    exact hspeaking
  · intro other hlaunching _ hne
    rw [hmain] at hlaunching
    exact absurd hlaunching.symm hne

theorem Station.Mannered.sendsText (hmannered : station.Mannered)
    {socket : ℕ} {packet : NsPacket}
    (hmain : station.app.main = .sending socket packet)
    (howned : ({ station.app with main := .idle } : NsClientApp).Owned) :
    Mannered
      { station with
        app := { station.app with main := .idle }
        sent := record station.sent (some (socket, packet)) } := by
  have hpoised := hmannered.poised
  rw [hmain] at hpoised
  rcases hpoised with ⟨htext, hacked, name, hspeaking⟩
  have hlaunches : ∀ other, ¬ station.app.main.Launches other := by
    simp [hmain, MainThread.Launches]
  have hknown : socket < station.app.sockets := by
    by_contra hfresh
    exact hspeaking.ne_nil
      (hmannered.fresh socket (not_lt.mp hfresh)).1
  refine hmannered.says howned (.speaking name _ (hspeaking.snoc htext))
    hknown (fun _ => hacked) trivial ?_ ?_
  · exact fun hsocket =>
      (hmannered.speaking hsocket (hlaunches socket)).snoc htext
  · exact fun other hlaunching => absurd hlaunching (hlaunches other)

/-- The socket on which a LEAVE packet is sent is not stored any more. -/
theorem Station.Mannered.sendsLeave (hmannered : station.Mannered)
    {socket : ℕ} {userId : UInt32} {resume : Resume}
    (hmain : station.app.main = .leaving (some socket) true true userId
      resume) {packet : NsPacket}
    (hleave : packet.header.type = NsPacketType.leave.code)
    (howned : ({ station.app with main := .closing (some socket) resume } :
      NsClientApp).Owned) :
    Mannered
      { station with
        app := { station.app with main := .closing (some socket) resume }
        sent := record station.sent (some (socket, packet)) } := by
  have hpoised := hmannered.poised
  rw [hmain] at hpoised
  rcases hpoised with ⟨name, hspeaking⟩
  have hknown : socket < station.app.sockets := by
    by_contra hfresh
    exact hspeaking.ne_nil
      (hmannered.fresh socket (not_lt.mp hfresh)).1
  refine hmannered.says howned (.left name _ packet hspeaking hleave) hknown
    ?_ trivial ?_ ?_
  · intro htext
    exact absurd (hleave.symm.trans htext) (by decide)
  · intro hsocket
    have hnodup := hmannered.owned.nodup
    simp [tokens, hsocket, hmain, MainThread.held] at hnodup
  · simp [hmain, MainThread.Launches]

theorem leavePacketIfNeeded_eq_some {notifyServer wasJoined : Bool}
    {userId now : UInt32} {packet : NsPacket}
    (hpacket : leavePacketIfNeeded notifyServer wasJoined userId now =
      some packet) :
    notifyServer = true ∧ wasJoined = true ∧
      packet.header.type = NsPacketType.leave.code := by
  unfold leavePacketIfNeeded at hpacket
  split_ifs at hpacket with hneeded
  simp only [Bool.or_eq_true, Bool.not_eq_true', not_or,
    Bool.not_eq_false] at hneeded
  exact ⟨hneeded.1, hneeded.2, (nsPacketSet_eq_some hpacket).2.1⟩

theorem Station.Mannered.proceeds (hmannered : station.Mannered)
    (now : UInt32) (sendOk : Bool) :
    (station.step now (.proceed sendOk)).Mannered := by
  have hstep : station.step now (.proceed sendOk) =
      { station with
        app := station.app.continueCallback sendOk
        sent := record station.sent
          (station.app.outgoing now (.proceed sendOk)) } := rfl
  rw [hstep]
  cases houtgoing : station.app.outgoing now (.proceed sendOk) with
  | none => exact hmannered.continueCallback houtgoing
  | some entry =>
      have howned := hmannered.owned.continueCallback sendOk
      cases sendOk with
      | false => simp [outgoing] at houtgoing
      | true =>
          cases hmain : station.app.main with
          | sendingJoin socket packet =>
              simp only [outgoing, hmain, Option.some.injEq] at houtgoing
              simp only [NsClientApp.continueCallback, hmain, if_true]
                at howned ⊢
              rw [← houtgoing]
              exact hmannered.sendsJoin hmain howned
          | sending socket packet =>
              simp only [outgoing, hmain, Option.some.injEq] at houtgoing
              simp only [NsClientApp.continueCallback, hmain, if_true]
                at howned ⊢
              rw [← houtgoing]
              exact hmannered.sendsText hmain howned
          | leaving socket notifyServer wasJoined userId resume =>
              cases socket with
              | none => simp [outgoing, hmain] at houtgoing
              | some socket =>
                  simp only [outgoing, hmain, Option.map_eq_some_iff]
                    at houtgoing
                  rcases houtgoing with ⟨packet, hpacket, rfl⟩
                  rcases leavePacketIfNeeded_eq_some hpacket with
                    ⟨rfl, rfl, hleave⟩
                  simp only [NsClientApp.continueCallback, hmain]
                    at howned ⊢
                  exact hmannered.sendsLeave hmain hleave howned
          | _ => simp [outgoing, hmain] at houtgoing

/-! ## Callbacks -/

/-- Nothing is sent when a callback starts. -/
theorem Station.Mannered.begins (hmannered : station.Mannered)
    (hmain : station.app.main = .idle) (howned : app'.Owned)
    (hsockets : station.app.sockets ≤ app'.sockets)
    (hlogin : app'.connectedLogin = station.app.connectedLogin)
    (hsocketFd : app'.socketFd = station.app.socketFd)
    (hjoined : app'.joined = station.app.joined)
    (huserId : app'.userId = station.app.userId)
    (hthreads : app'.threads = station.app.threads)
    (hpoised : Poised { station with app := app' } app'.main) :
    Mannered { station with app := app' } := by
  apply hmannered.frame howned hsockets hlogin
  · rw [hsocketFd]
    exact fun _ hsocket => hsocket
  · rw [hsocketFd, hjoined, huserId]
    exact hmannered.joined
  · rw [hthreads]
    exact fun _ _ _ hstate => hstate
  · exact hpoised
  · simp [hmain, MainThread.Launches]

theorem Station.Mannered.setStatus (hmannered : station.Mannered)
    (hmain : station.app.main = .idle) (text : List UInt8) :
    Mannered { station with app := station.app.setStatus text } := by
  refine hmannered.begins hmain (hmannered.owned.setStatus hmain text)
    le_rfl rfl rfl rfl rfl rfl ?_
  have hmain' : (station.app.setStatus text).main = .idle := hmain
  rw [hmain']
  trivial

theorem Station.Mannered.onConnectClicked (hmannered : station.Mannered)
    (hmain : station.app.main = .idle) (login : LoginForm)
    (failure : Option (List UInt8)) (now : UInt32)
    (howned : (station.app.onConnectClicked login failure now).Owned) :
    Mannered
      { station with
        app := station.app.onConnectClicked login failure now } := by
  unfold NsClientApp.onConnectClicked at howned ⊢
  cases hvalid : validateLogin login with
  | some message =>
      exact hmannered.setStatus hmain message
  | none =>
      cases failure with
      | some error =>
          exact hmannered.setStatus hmain error
      | none =>
          simp only [hvalid] at howned ⊢
          cases hpacket : nsPacketSet NsPacketType.join.code 0 now
              (some login.username) with
          | none =>
              simp only [hpacket] at howned ⊢
              refine hmannered.begins hmain howned (Nat.le_succ _) rfl rfl
                rfl rfl rfl ?_
              have hmain' : (({ station.app with
                  sockets := station.app.sockets + 1 } :
                  NsClientApp).closeSocket (some station.app.sockets)
                  |>.setStatus (literal "That username is too long.")).main =
                  .idle := hmain
              rw [hmain']
              trivial
          | some packet =>
              simp only [hpacket] at howned ⊢
              rcases nsPacketSet_eq_some hpacket with
                ⟨-, htype, -, -, -, hpayload, hbody⟩
              have hname : text packet.body = text login.username := by
                rw [hbody, text_padded, hpayload, Option.getD_some,
                  text_of_zero_notMem (zero_notMem_text _)]
              have hshort : (text login.username).length ≤
                  nsUsernameMax := by
                unfold validateLogin at hvalid
                split_ifs at hvalid with hempty hlong
                exact not_lt.mp hlong
              refine hmannered.begins hmain howned (Nat.le_succ _) rfl rfl
                rfl rfl rfl ?_
              exact ⟨(hmannered.fresh _ le_rfl).1, htype,
                hname.trans (text_kept_username hshort).symm⟩

theorem Station.Mannered.onSendClicked (hmannered : station.Mannered)
    (hmain : station.app.main = .idle) (message : List UInt8)
    (now : UInt32) (howned : (station.app.onSendClicked message now).Owned) :
    Mannered
      { station with app := station.app.onSendClicked message now } := by
  unfold NsClientApp.onSendClicked at howned ⊢
  split_ifs at howned ⊢ with hempty
  · exact hmannered
  cases hsocket : station.app.socketFd with
  | none =>
      exact hmannered.setStatus hmain _
  | some socket =>
      cases hjoined : station.app.joined with
      | false =>
          exact hmannered.setStatus hmain _
      | true =>
          simp only [hsocket, hjoined] at howned ⊢
          cases hpacket : nsPacketSet NsPacketType.text.code
              station.app.userId now (some message) with
          | none =>
              exact hmannered.setStatus hmain _
          | some packet =>
              simp only [hpacket] at howned ⊢
              refine hmannered.begins hmain howned le_rfl rfl hsocket.symm
                hjoined.symm rfl rfl ?_
              refine ⟨(nsPacketSet_eq_some hpacket).2.1,
                ⟨_, hmannered.joined socket hsocket hjoined⟩, _,
                hmannered.speaking hsocket ?_⟩
              simp [hmain, MainThread.Launches]

theorem Station.Mannered.dispatchUiEvent (hmannered : station.Mannered)
    (hmain : station.app.main = .idle)
    (howned : station.app.dispatchUiEvent.Owned) :
    Mannered { station with app := station.app.dispatchUiEvent } := by
  cases hevents : station.app.events with
  | nil =>
      simp only [NsClientApp.dispatchUiEvent, hevents] at howned ⊢
      exact hmannered
  | cons event rest =>
      cases htype : event.type with
      | disconnected =>
          simp only [NsClientApp.dispatchUiEvent, hevents, htype]
            at howned ⊢
          exact hmannered.begins hmain howned le_rfl rfl rfl rfl rfl rfl
            trivial
      | appendLine | connected | status =>
          simp only [NsClientApp.dispatchUiEvent, hevents, htype]
            at howned ⊢
          refine hmannered.begins hmain howned le_rfl rfl rfl rfl rfl rfl ?_
          simp [NsClientApp.appendLine, NsClientApp.setStatus, hmain, Poised]

/-- A callback of the user or of the main loop starts, or nothing
happens. -/
theorem Station.Mannered.calls (hmannered : station.Mannered)
    {action : ClientAction} (hproceed : ∀ sendOk, action ≠ .proceed sendOk)
    (hreceive : ∀ thread received, action ≠ .receive thread received) :
    Mannered { station with app := station.app.step action } := by
  have howned := hmannered.owned
  apply step_cases (motive := fun app => Mannered { station with app := app })
    station.app action hmannered
  · intro login failure now hmain hlogin
    exact hmannered.onConnectClicked hmain login failure now
      (howned.onConnectClicked hmain hlogin login failure now)
  · intro message now hmain
    exact hmannered.onSendClicked hmain message now
      (howned.onSendClicked hmain message now)
  · intro hmain
    exact hmannered.begins hmain (howned.closeRequest hmain) le_rfl rfl rfl
      rfl rfl rfl fun hresume => absurd hresume (by simp)
  · intro hmain
    exact hmannered.dispatchUiEvent hmain (howned.dispatchUiEvent hmain)
  · exact fun sendOk hsame => absurd hsame (hproceed sendOk)
  · exact fun thread received hsame =>
      absurd hsame (hreceive thread received)

theorem Station.Mannered.step (hmannered : station.Mannered)
    (now : UInt32) (action : ClientAction) :
    (station.step now action).Mannered := by
  cases action with
  | proceed sendOk => exact hmannered.proceeds now sendOk
  | receive thread received => exact hmannered.receives now thread received
  | connectClicked login failure now' =>
      exact hmannered.calls (by simp) (by simp)
  | sendClicked message now' => exact hmannered.calls (by simp) (by simp)
  | closeRequest => exact hmannered.calls (by simp) (by simp)
  | dispatch => exact hmannered.calls (by simp) (by simp)

end Manners

end NodeSignal
