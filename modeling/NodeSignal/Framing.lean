import NodeSignal.Identity
import NodeSignal.Segments

/-!
# Framing and the segments of the stream

A wakeup of `ns_server_handle_client_readable` keeps nothing of a packet
that has not arrived as a whole: the bytes it read are gone when it returns.
The server therefore frames the stream of a client correctly exactly when
every wakeup finds a whole packet, or a header it refuses.
-/

namespace NodeSignal

open Runs Segments

/-- One wakeup for a client: what the server did since the last one, how
`recv()` hands over the bytes, and the faults of the database. -/
structure Wakeup where
  others : List Event
  chunks : List ℕ
  faults : SqliteFaults

structure Service where
  world : World
  wakeups : ℕ
  gone : Bool
  packets : List NsPacket
  violated : Bool
  lost : List UInt8

def Service.start (w : World) : Service := ⟨w, 0, false, [], false, []⟩

def NsRecv.packets : NsRecv → List NsPacket
  | .ok packet => [packet]
  | _ => []

def World.Serves (w : World) (index : SlotIndex) (connection : ℕ) : Prop :=
  (w.clients index).active ∧ w.connection index = connection

instance (w : World) (index : SlotIndex) (connection : ℕ) :
    Decidable (w.Serves index connection) :=
  inferInstanceAs (Decidable (_ ∧ _))

section Reader

variable (index : SlotIndex) (connection : ℕ) (schedule : ℕ → Wakeup)

def Service.found (service : Service) : World :=
  run World.step service.world (schedule service.wakeups).others

/-- A wakeup with these bytes to read.  What a wakeup has read when `recv()`
reports `EAGAIN` is in none of the variables that outlive it. -/
def Service.wake (service : Service) (unread : List UInt8) :
    Service × List UInt8 :=
  let wakeup := schedule service.wakeups
  let w := service.found schedule
  if w.Serves index connection then
    let sock : RecvSocket := ⟨unread, .failed .eagain, wakeup.chunks⟩
    let report := nsRecvPacket (w.clients index).socketFd sock
    let served := nsServerHandleClientReadable w index sock wakeup.faults
    let gone := !(served.1.clients index).active
    let consumed := unread.length - served.2.pending.length
    ({ world := served.1
       wakeups := service.wakeups + 1
       gone := gone
       packets := service.packets ++ report.result.packets
       violated := service.violated || (report.result = .error && gone)
       lost := service.lost ++
        if report.reported = some .eagain then unread.take consumed
        else [] }, served.2.pending)
  else
    ({ service with
       world := w
       wakeups := service.wakeups + 1
       gone := true }, unread)

def clientReader : Reader Service UInt8 where
  stopped := Service.gone
  wake := Service.wake index connection schedule

/-- If the wakeup is for the client, the bytes show a whole packet or a
header that is refused. -/
def FindsFrame (service : Service) (unread : List UInt8) : Prop :=
  (service.found schedule).Serves index connection → scan unread ≠ .more

def FramesFound (w : World) (pieces : List (List UInt8)) : Prop :=
  Along (clientReader index connection schedule).round
    ((clientReader index connection schedule).Guard
      (FindsFrame index connection schedule)) (Service.start w, [])
    (pieces ++ List.replicate pieces.flatten.length [])

/-- The client is served as if everything had arrived before the first
wakeup, and nothing is lost. -/
def SegmentsInvisible (w : World) (pieces : List (List UInt8)) : Prop :=
  let reader := clientReader index connection schedule
  let later := List.replicate pieces.flatten.length []
  let cut := run reader.round (Service.start w, []) (pieces ++ later)
  let whole := run reader.round (Service.start w, [])
    (pieces.flatten :: later)
  cut.1.packets = whole.1.packets ∧ cut.1.violated = whole.1.violated ∧
    cut.1.lost = []

end Reader

/-! ## What a wakeup reads -/

/-- Bytes behind a frame change nothing. -/
theorem nsRecvPacket_of_shown {socketFd : NsSocket}
    (hsocket : nsSocketIsValid socketFd) {unread : List UInt8}
    (hshown : scan unread ≠ .more) :
    ∃ result taken, 0 < taken ∧ taken ≤ unread.length ∧
      ∀ (more : List UInt8) (ending : RecvEnd) (chunks : List ℕ),
        let report := nsRecvPacket socketFd
          ⟨unread ++ more, ending, chunks⟩
        report.result = result ∧ report.reported = none ∧
          report.sock.pending = unread.drop taken ++ more := by
  cases hscan : scan unread with
  | more => exact absurd hscan hshown
  | refused =>
      have hheader := (scan_refused_iff.mp hscan).1
      refine ⟨.error, nsPacketHeaderSize, by decide, hheader, ?_⟩
      intro more ending chunks
      have happended : scan (unread ++ more) = .refused := by
        rw [scan_append hshown, hscan]
      rcases nsRecvPacket_of_refused hsocket
        ⟨unread ++ more, ending, chunks⟩ happended with ⟨left, hrecv⟩
      rw [hrecv]
      exact ⟨rfl, rfl, List.drop_append_of_le_length hheader⟩
  | packet packet =>
      have hframe : packet.header.frameLength ≤ unread.length ∧
          0 < packet.header.frameLength := by
        rcases scan_packet_iff.mp hscan with ⟨-, hframe, haccepted, rfl⟩
        exact ⟨hframe, Nat.add_pos_left (by decide) _⟩
      refine ⟨.ok packet, _, hframe.2, hframe.1, ?_⟩
      intro more ending chunks
      have happended : scan (unread ++ more) = .packet packet := by
        rw [scan_append hshown, hscan]
      rcases nsRecvPacket_of_packet hsocket
        ⟨unread ++ more, ending, chunks⟩ happended with ⟨left, hrecv⟩
      rw [hrecv]
      exact ⟨rfl, rfl, List.drop_append_of_le_length hframe.1⟩

theorem nsRecvPacket_of_blocked {socketFd : NsSocket}
    (hsocket : nsSocketIsValid socketFd) {unread : List UInt8}
    (hblocked : scan unread = .more) (chunks : List ℕ) :
    let report := nsRecvPacket socketFd ⟨unread, .failed .eagain, chunks⟩
    report.reported = some .eagain ∧ report.sock.pending = [] := by
  rcases nsRecvPacket_of_more hsocket ⟨unread, .failed .eagain, chunks⟩
    hblocked with ⟨left, hrecv⟩
  rw [hrecv]
  exact ⟨rfl, rfl⟩

theorem nsServerHandleClientReadable_sock (w : World) (index : SlotIndex)
    (sock : RecvSocket) (faults : SqliteFaults) :
    (nsServerHandleClientReadable w index sock faults).2 =
      (nsRecvPacket (w.clients index).socketFd sock).sock := by
  unfold nsServerHandleClientReadable
  simp only
  split
  · rfl
  · split <;> rfl
  · rfl

theorem nsServerHandleClientReadable_congr (w : World) (index : SlotIndex)
    {sock sock' : RecvSocket} (faults : SqliteFaults)
    (hresult : (nsRecvPacket (w.clients index).socketFd sock).result =
      (nsRecvPacket (w.clients index).socketFd sock').result)
    (hreported : (nsRecvPacket (w.clients index).socketFd sock).reported =
      (nsRecvPacket (w.clients index).socketFd sock').reported) :
    (nsServerHandleClientReadable w index sock faults).1 =
      (nsServerHandleClientReadable w index sock' faults).1 := by
  unfold nsServerHandleClientReadable
  simp only [hresult, hreported]
  split
  · rfl
  · split <;> rfl
  · rfl

/-! ## The service as a regular reader -/

section Service

variable {index : SlotIndex} {connection : ℕ} {schedule : ℕ → Wakeup}
  {service : Service} {unread : List UInt8}

theorem Service.settled_found (schedule : ℕ → Wakeup)
    (hsettled : Settled service.world) :
    Settled (service.found schedule) :=
  (run_moves hsettled (along_of_forall admitted_anySocket _ _)).settled
    hsettled

theorem Service.wake_gone
    (hgone : ¬ (service.found schedule).Serves index connection) :
    service.wake index connection schedule unread =
      ({ service with
         world := service.found schedule
         wakeups := service.wakeups + 1
         gone := true }, unread) := by
  simp only [Service.wake, hgone, if_false]

theorem Service.wake_world
    (hserves : (service.found schedule).Serves index connection) :
    (service.wake index connection schedule unread).1.world =
      (nsServerHandleClientReadable (service.found schedule) index
        ⟨unread, .failed .eagain, (schedule service.wakeups).chunks⟩
        (schedule service.wakeups).faults).1 := by
  simp only [Service.wake, hserves, if_true]

theorem Service.wake_unread
    (hserves : (service.found schedule).Serves index connection) :
    (service.wake index connection schedule unread).2 =
      (nsRecvPacket ((service.found schedule).clients index).socketFd
        ⟨unread, .failed .eagain,
          (schedule service.wakeups).chunks⟩).sock.pending := by
  simp only [Service.wake, hserves, if_true,
    nsServerHandleClientReadable_sock]

theorem Service.settled_wake (hsettled : Settled service.world) :
    Settled (service.wake index connection schedule unread).1.world := by
  have hfound := Service.settled_found schedule hsettled
  by_cases hserves : (service.found schedule).Serves index connection
  · rw [Service.wake_world hserves]
    have hmoves : ∀ sock faults, Moves anySocket (service.found schedule)
        (nsServerHandleClientReadable (service.found schedule) index sock
          faults).1 :=
      nsServerHandleClientReadable_moves hfound hserves.1
    exact (hmoves _ _).settled hfound
  · rw [Service.wake_gone hserves]
    exact hfound

theorem Service.wake_shrinks (hsettled : Settled service.world)
    (hunread : unread ≠ []) :
    (service.wake index connection schedule unread).1.gone ∨
      (service.wake index connection schedule unread).2.length <
        unread.length := by
  have hfound := Service.settled_found schedule hsettled
  by_cases hserves : (service.found schedule).Serves index connection
  · right
    have hsocket := hfound.valid index hserves.1
    rw [Service.wake_unread hserves]
    have hpositive := List.length_pos_of_ne_nil hunread
    by_cases hshown : scan unread = .more
    · rw [(nsRecvPacket_of_blocked hsocket hshown _).2]
      exact hpositive
    · rcases nsRecvPacket_of_shown hsocket hshown with
        ⟨result, taken, htaken, hle, hread⟩
      have hpending := (hread [] (.failed .eagain)
        (schedule service.wakeups).chunks).2.2
      rw [List.append_nil, List.append_nil] at hpending
      rw [hpending, List.length_drop]
      omega
  · left
    rw [Service.wake_gone hserves]

theorem Service.wake_append (hsettled : Settled service.world)
    (hready : FindsFrame index connection schedule service unread)
    (more : List UInt8) :
    service.wake index connection schedule (unread ++ more) =
      ((service.wake index connection schedule unread).1,
        (service.wake index connection schedule unread).2 ++ more) := by
  have hfound := Service.settled_found schedule hsettled
  by_cases hserves : (service.found schedule).Serves index connection
  · have hsocket := hfound.valid index hserves.1
    rcases nsRecvPacket_of_shown hsocket (hready hserves) with
      ⟨result, taken, -, -, hread⟩
    have halone := hread [] (.failed .eagain)
      (schedule service.wakeups).chunks
    have hbehind := hread more (.failed .eagain)
      (schedule service.wakeups).chunks
    simp only [List.append_nil] at halone
    have hworld := nsServerHandleClientReadable_congr
      (service.found schedule) index (schedule service.wakeups).faults
      (hbehind.1.trans halone.1.symm)
      (hbehind.2.1.trans halone.2.1.symm)
    simp only [Service.wake, hserves, if_true,
      nsServerHandleClientReadable_sock, hworld, hbehind, halone]
    simp
  · rw [Service.wake_gone hserves, Service.wake_gone hserves]

theorem clientReader_regular (index : SlotIndex) (connection : ℕ)
    (schedule : ℕ → Wakeup) :
    (clientReader index connection schedule).Regular
      (fun service => Settled service.world)
      (FindsFrame index connection schedule) where
  keeps := fun _ _ hsettled _ => Service.settled_wake hsettled
  shrinks := fun _ _ hsettled hunread =>
    Service.wake_shrinks hsettled hunread
  stable := fun _ _ more hsettled _ hready =>
    Service.wake_append hsettled hready more

/-! ## What is lost -/

/-- A wakeup loses bytes if and only if it finds no frame. -/
theorem Service.wake_lost (hsettled : Settled service.world)
    (hunread : unread ≠ []) :
    (service.wake index connection schedule unread).1.lost = [] ↔
      service.lost = [] ∧
        FindsFrame index connection schedule service unread := by
  have hfound := Service.settled_found schedule hsettled
  by_cases hserves : (service.found schedule).Serves index connection
  · have hsocket := hfound.valid index hserves.1
    simp only [Service.wake, hserves, if_true,
      nsServerHandleClientReadable_sock, FindsFrame, forall_const]
    by_cases hblocked : scan unread = .more
    · have hread := nsRecvPacket_of_blocked hsocket hblocked
        (schedule service.wakeups).chunks
      simp only [hread, if_true, List.length_nil, Nat.sub_zero,
        List.take_length, hblocked, List.append_eq_nil_iff, hunread,
        ne_eq, not_true_eq_false, and_false]
    · rcases nsRecvPacket_of_shown hsocket hblocked with
        ⟨result, taken, -, -, hread⟩
      have halone := hread [] (.failed .eagain)
        (schedule service.wakeups).chunks
      simp only [List.append_nil] at halone
      simp [halone.2.1, hblocked]
  · rw [Service.wake_gone hserves]
    exact (and_iff_left fun hserves' => absurd hserves' hserves).symm

theorem lost_iff_along {now : Service × List UInt8}
    (hsettled : Settled now.1.world) (rounds : List (List UInt8)) :
    (run (clientReader index connection schedule).round now
        rounds).1.lost = [] ↔
      now.1.lost = [] ∧
        Along (clientReader index connection schedule).round
          ((clientReader index connection schedule).Guard
            (FindsFrame index connection schedule)) now rounds := by
  induction rounds generalizing now with
  | nil => exact (and_iff_left trivial).symm
  | cons piece rest ih =>
      rw [run_cons, Along]
      by_cases hwoken :
          (clientReader index connection schedule).Woken now piece
      · have hround := Reader.round_woken hwoken
        have hlost : ((clientReader index connection schedule).round now
            piece).1.lost = [] ↔ now.1.lost = [] ∧
              FindsFrame index connection schedule now.1
                (now.2 ++ piece) := by
          rw [hround]
          exact Service.wake_lost hsettled hwoken.2
        have hguard : (clientReader index connection schedule).Guard
            (FindsFrame index connection schedule) now piece ↔
              FindsFrame index connection schedule now.1
                (now.2 ++ piece) :=
          ⟨fun hall => hall hwoken, fun hfinds _ => hfinds⟩
        rw [ih (hround ▸ Service.settled_wake hsettled), hlost, hguard,
          and_assoc]
      · have hround := Reader.round_not_woken hwoken
        have hguard : (clientReader index connection schedule).Guard
            (FindsFrame index connection schedule) now piece :=
          fun hwoken' => absurd hwoken' hwoken
        have hnext : Settled (now.1, now.2 ++ piece).1.world := hsettled
        rw [hround, ih hnext]
        exact and_congr_right fun _ => (and_iff_right hguard).symm

theorem segmentsInvisible_iff {w : World} (hsettled : Settled w)
    (index : SlotIndex) (connection : ℕ) (schedule : ℕ → Wakeup)
    (pieces : List (List UInt8)) :
    SegmentsInvisible index connection schedule w pieces ↔
      FramesFound index connection schedule w pieces := by
  have hregular := clientReader_regular index connection schedule
  have hstart : Settled (Service.start w, ([] : List UInt8)).1.world :=
    hsettled
  unfold SegmentsInvisible FramesFound
  constructor
  · intro hinvisible
    exact ((lost_iff_along hstart _).mp hinvisible.2.2).2
  · intro hfound
    have hsame := hregular.run_at_once hsettled hfound
    have hnothing := (lost_iff_along hstart _).mpr ⟨rfl, hfound⟩
    exact ⟨by rw [hsame], by rw [hsame], hnothing⟩

end Service

/-! ## Runs -/

/-- From every state that the server reaches, and whatever it does between
the wakeups, the service of a client does not depend on the segments of its
stream, and loses nothing, if and only if every wakeup finds a frame. -/
theorem segments_invisible_iff (tables : Tables) (listenSocket : NsSocket)
    (errno : Errno) (clock : Clock) (events : List Event)
    (index : SlotIndex) (connection : ℕ) (schedule : ℕ → Wakeup)
    (pieces : List (List UInt8)) :
    SegmentsInvisible index connection schedule
        (run World.step (World.boot tables listenSocket errno clock)
          events) pieces ↔
      FramesFound index connection schedule
        (run World.step (World.boot tables listenSocket errno clock)
          events) pieces :=
  segmentsInvisible_iff (settled_run tables listenSocket errno clock events)
    index connection schedule pieces

def quietSchedule (_ : ℕ) : Wakeup := ⟨[], [], fun _ => false⟩

/-- The JOIN packet of a user with the name "a", cut after its first
byte. -/
def cutJoin : List (List UInt8) :=
  [[1], [1, 0, 0, 0, 0, 0, 0, 0, 0, 0, 0, 0, 1, 97]]

def serveFirst (w : World) (rounds : List (List UInt8)) : Service :=
  (run (clientReader ⟨0, nsMaxClients_pos⟩ 0 quietSchedule).round
    (Service.start w, []) rounds).1

theorem serveFirst_packets {w : World} {pieces : List (List UInt8)}
    (hinvisible : SegmentsInvisible ⟨0, nsMaxClients_pos⟩ 0 quietSchedule w
      pieces) :
    (serveFirst w (pieces ++
        List.replicate pieces.flatten.length [])).packets =
      (serveFirst w (pieces.flatten ::
        List.replicate pieces.flatten.length [])).packets :=
  hinvisible.1

set_option maxRecDepth 100000 in
theorem serveFirst_cutJoin :
    let w := run World.step (World.boot .empty 3 (.other 0) fun _ => 0)
      [.accept (.connection 4 [])]
    (serveFirst w (cutJoin ++
        List.replicate cutJoin.flatten.length [])).packets.length = 0 ∧
      (serveFirst w (cutJoin.flatten ::
        List.replicate cutJoin.flatten.length [])).packets.length = 1 := by
  decide +kernel

/-- The packet that arrives in two segments is never dispatched. -/
theorem segments_not_always_invisible :
    ¬ ∀ tables listenSocket errno clock events index connection schedule
        pieces,
      SegmentsInvisible index connection schedule
        (run World.step (World.boot tables listenSocket errno clock)
          events) pieces := by
  intro hall
  have hinvisible := hall .empty 3 (.other 0) (fun _ => 0)
    [.accept (.connection 4 [])] ⟨0, nsMaxClients_pos⟩ 0 quietSchedule cutJoin
  have hlength := congrArg List.length (serveFirst_packets hinvisible)
  rw [serveFirst_cutJoin.1, serveFirst_cutJoin.2] at hlength
  exact absurd hlength (by decide)

end NodeSignal
