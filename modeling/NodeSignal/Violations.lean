import NodeSignal.ChatSegments
import NodeSignal.Identity

/-!
# Protocol violations

`ns_server_handle_client_readable` tells a violation from a read that would
block by `errno`, which nothing resets.  A violation therefore ends the
connection exactly when the last failing call of the program, whatever
connection it was about, did not report that it would block.  Any call may
have been the last one to fail, a `shutdown()` whose result nobody looks at
included, so `errno` may hold any value on entry.
-/

namespace NodeSignal

open Runs

/-- The bytes make `ns_recv_packet` fail by themselves: a header that is
refused, or a packet that the peer cut off. -/
def Violates (sock : RecvSocket) : Prop :=
  scan sock.pending = .refused ∨
    scan sock.pending = .more ∧ sock.ending = .eof ∧
      sock.pending.length ≠ 0 ∧ sock.pending.length ≠ nsPacketHeaderSize

instance (sock : RecvSocket) : Decidable (Violates sock) :=
  inferInstanceAs (Decidable (_ ∨ _))

/-- If `ns_recv_packet` fails, the client is disconnected, or the `recv()`
of this very call reported that it would block. -/
def FailureHandled (w : World) (index : SlotIndex) (sock : RecvSocket)
    (faults : SqliteFaults) : Prop :=
  (nsRecvPacket (w.clients index).socketFd sock).result = .error →
    (((nsServerHandleClientReadable w index sock faults).1.clients
        index).active = false ∨
      ∃ errno, (nsRecvPacket (w.clients index).socketFd sock).reported =
        some errno ∧ errno.wouldBlock)

theorem nsServerDisconnectClient_clients (w : World) (index : SlotIndex)
    (announceLeave : Bool) :
    ((nsServerDisconnectClient w index announceLeave).clients index).active =
      false := by
  cases hactive : (w.clients index).active with
  | false => rw [nsServerDisconnectClient_inactive _ _ _ hactive, hactive]
  | true =>
      rcases nsServerDisconnectClient_cases hactive announceLeave with
        heq | ⟨hjoined, notice, hnotice, heq⟩
      · rw [heq, World.dropped_clients, Function.update_self]
        rfl
      · rw [heq, World.departed, releaseSlot_clients, Function.update_self]
        rfl

section Failures

theorem nsRecvPacket_error_cases (sock : RecvSocket) {socketFd : NsSocket}
    (hsocket : nsSocketIsValid socketFd) :
    (Violates sock ∧ (nsRecvPacket socketFd sock).result = .error ∧
      (nsRecvPacket socketFd sock).reported = none) ∨
    (¬ Violates sock ∧ ((nsRecvPacket socketFd sock).result = .error →
      ∃ errno, (nsRecvPacket socketFd sock).reported = some errno)) := by
  cases hscan : scan sock.pending with
  | refused =>
      rcases nsRecvPacket_of_refused hsocket sock hscan with ⟨chunks, hrecv⟩
      rw [hrecv]
      exact Or.inl ⟨Or.inl hscan, rfl, rfl⟩
  | packet packet =>
      rcases nsRecvPacket_of_packet hsocket sock hscan with ⟨chunks, hrecv⟩
      rw [hrecv]
      right
      refine ⟨?_, fun herror => NsRecv.noConfusion herror⟩
      simp [Violates, hscan]
  | more =>
      rcases nsRecvPacket_of_more hsocket sock hscan with ⟨chunks, hrecv⟩
      rw [hrecv]
      cases hending : sock.ending with
      | failed errno =>
          right
          refine ⟨?_, fun _ => ⟨errno, rfl⟩⟩
          simp [Violates, hscan, hending]
      | eof =>
          by_cases hclean : sock.pending.length = 0 ∨
              sock.pending.length = nsPacketHeaderSize
          · right
            rw [if_pos hclean]
            refine ⟨?_, fun herror => NsRecv.noConfusion herror⟩
            simp only [Violates, hscan, hending]
            tauto
          · left
            rw [if_neg hclean]
            rw [not_or] at hclean
            exact ⟨Or.inr ⟨hscan, hending, hclean⟩, rfl, rfl⟩

variable {w : World} {index : SlotIndex} {sock : RecvSocket}

theorem failureHandled_iff (hsettled : Settled w)
    (hactive : (w.clients index).active) (faults : SqliteFaults) :
    FailureHandled w index sock faults ↔
      ¬ (Violates sock ∧ w.errno.wouldBlock) := by
  have hstill : ∀ errno,
      ((World.setErrno w errno).clients index).active = true :=
    fun _ => hactive
  unfold FailureHandled nsServerHandleClientReadable
  rcases nsRecvPacket_error_cases sock (hsettled.valid index hactive) with
    ⟨hviolates, herror, hreported⟩ | ⟨hobeys, herror⟩
  · have hsame : w.setErrno none = w := rfl
    simp only [herror, hreported, hsame, hviolates, true_and]
    constructor
    · intro hhandled hblock
      rw [if_pos hblock] at hhandled
      rcases hhandled trivial with hinactive | ⟨errno, hnone, -⟩
      · rw [hactive] at hinactive
        exact Bool.noConfusion hinactive
      · exact absurd hnone.symm (Option.some_ne_none errno)
    · intro hblock _
      rw [if_neg hblock]
      exact Or.inl (nsServerDisconnectClient_clients w index _)
  · apply iff_of_true _ fun hboth => hobeys hboth.1
    intro hfailed
    rcases herror hfailed with ⟨errno, hreported⟩
    have herrno : (w.setErrno (some errno)).errno = errno := rfl
    simp only [hfailed, hreported, herrno]
    split
    · next hblock => exact Or.inr ⟨errno, rfl, hblock⟩
    · exact Or.inl (nsServerDisconnectClient_clients _ index _)

/-- What counts is what `errno` holds on entry. -/
theorem failureHandled_entry_iff (hsettled : Settled w)
    (hactive : (w.clients index).active) (entry : Errno)
    (faults : SqliteFaults) :
    FailureHandled (w.setErrno (some entry)) index sock faults ↔
      ¬ (Violates sock ∧ entry.wouldBlock) := by
  have hsettled' : Settled (w.setErrno (some entry)) :=
    hsettled.congr rfl rfl
  exact failureHandled_iff hsettled' hactive faults

end Failures

/-- In every state that the server reaches, and for every value of `errno`
on entry, a failing `ns_recv_packet` is handled as it should be unless a
violation finds `errno` left over from a call that would have blocked. -/
theorem violation_disconnects_iff (tables : Tables)
    (listenSocket : NsSocket) (errno : Errno) (clock : Clock)
    (events : List Event) (entry : Errno) (index : SlotIndex)
    (sock : RecvSocket) (faults : SqliteFaults)
    (hactive : ((run World.step (World.boot tables listenSocket errno clock)
      events).clients index).active) :
    FailureHandled
        ((run World.step (World.boot tables listenSocket errno clock)
          events).setErrno (some entry)) index sock faults ↔
      ¬ (Violates sock ∧ entry.wouldBlock) :=
  failureHandled_entry_iff
    (settled_run tables listenSocket errno clock events) hactive entry faults

def partialHeader : RecvSocket where
  pending := [1]
  ending := .failed .eagain
  chunks := []

def wrongVersion : RecvSocket where
  pending := [9, 1, 0, 0, 0, 0, 0, 0, 0, 0, 0, 0, 0, 0]
  ending := .failed .eagain
  chunks := []

def staleErrnoEvents : List Event :=
  [.accept (.connection 4 []), .accept (.connection 5 []),
    .readable ⟨0, nsMaxClients_pos⟩ partialHeader fun _ => false]

set_option maxRecDepth 100000 in
theorem violation_disconnects_iff_example :
    FailureHandled
        ((run World.step (World.boot .empty 3 (.other 0) fun _ => 0)
          [.accept (.connection 4 [])]).setErrno (some (.other 107)))
        ⟨0, nsMaxClients_pos⟩ wrongVersion (fun _ => false) ↔
      ¬ (Violates wrongVersion ∧ (Errno.other 107).wouldBlock) :=
  violation_disconnects_iff .empty 3 (.other 0) (fun _ => 0) _
    (.other 107) _ _ _ (by decide +kernel)

set_option maxRecDepth 100000 in
/-- The wrong version of the second client goes unpunished. -/
theorem violation_not_always_disconnects :
    ¬ ∀ tables listenSocket errno clock events index sock faults,
      ((run World.step (World.boot tables listenSocket errno clock)
        events).clients index).active →
      FailureHandled
        (run World.step (World.boot tables listenSocket errno clock)
          events) index sock faults := by
  intro hall
  have hhandled := hall .empty 3 (.other 0) (fun _ => 0) staleErrnoEvents
    ⟨1, by decide⟩ wrongVersion (fun _ => false) (by decide +kernel)
  rw [failureHandled_iff (settled_run .empty 3 (.other 0) (fun _ => 0) _)
    (by decide +kernel)] at hhandled
  exact hhandled (by decide +kernel)

end NodeSignal
