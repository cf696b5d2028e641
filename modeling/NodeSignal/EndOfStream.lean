import NodeSignal.WireGrammar

/-!
# Where a stream ends

A peer that closes between two packets has left cleanly; one that closes
inside a packet has not.  `ns_recv_packet` calls `ns_recv_all` twice, and
each call takes the end before its own first byte for a clean one, so the
cut exactly between header and body is told as if nothing had begun.
-/

namespace NodeSignal

/-- The stream has begun a packet and ends inside its header or inside the
body that the header announces. -/
def EndsInside (stream : List UInt8) : Prop :=
  stream ≠ [] ∧
    (stream.length < nsPacketHeaderSize ∨
      stream.length < (headerFields stream).frameLength)

/-- The result of `ns_recv_packet` on the stream and the end behind it. -/
def receivedBeforeEnd (socketFd : NsSocket) (stream : List UInt8)
    (chunks : List ℕ) : NsRecv :=
  (nsRecvPacket socketFd ⟨stream, .eof, chunks⟩).result

/-- Only the end before the first byte counts as closed, and the end inside
a packet is an error. -/
structure EndClassified (socketFd : NsSocket) (stream : List UInt8)
    (chunks : List ℕ) : Prop where
  closed : receivedBeforeEnd socketFd stream chunks = .closed ↔ stream = []
  inside : EndsInside stream →
    receivedBeforeEnd socketFd stream chunks = .error

/-- The stream is a header that is accepted and announces a body, and
nothing more. -/
def CutBeforeBody (stream : List UInt8) : Prop :=
  stream.length = nsPacketHeaderSize ∧ (headerFields stream).Accepted ∧
    0 < (headerFields stream).bodyLen.toNat

section Ends

variable {socketFd : NsSocket} {stream : List UInt8}

theorem receivedBeforeEnd_of_more (hsocket : nsSocketIsValid socketFd)
    (hscan : scan stream = .more) (chunks : List ℕ) :
    receivedBeforeEnd socketFd stream chunks =
      if stream.length = 0 ∨ stream.length = nsPacketHeaderSize then .closed
      else .error := by
  rcases nsRecvPacket_of_more hsocket ⟨stream, .eof, chunks⟩ hscan with
    ⟨chunks', hrecv⟩
  exact congrArg RecvPacketReport.result hrecv

theorem receivedBeforeEnd_of_refused (hsocket : nsSocketIsValid socketFd)
    (hscan : scan stream = .refused) (chunks : List ℕ) :
    receivedBeforeEnd socketFd stream chunks = .error := by
  rcases nsRecvPacket_of_refused hsocket ⟨stream, .eof, chunks⟩ hscan with
    ⟨chunks', hrecv⟩
  exact congrArg RecvPacketReport.result hrecv

theorem receivedBeforeEnd_of_packet (hsocket : nsSocketIsValid socketFd)
    {packet : NsPacket} (hscan : scan stream = .packet packet)
    (chunks : List ℕ) :
    receivedBeforeEnd socketFd stream chunks = .ok packet := by
  rcases nsRecvPacket_of_packet hsocket ⟨stream, .eof, chunks⟩ hscan with
    ⟨chunks', hrecv⟩
  exact congrArg RecvPacketReport.result hrecv

/-- A stream that is too short for its packet is cut before the body when it
has as many bytes as a header. -/
theorem cutBeforeBody_iff_of_more (hscan : scan stream = .more) :
    CutBeforeBody stream ↔ stream.length = nsPacketHeaderSize := by
  refine ⟨And.left, fun hlength => ⟨hlength, ?_⟩⟩
  rcases (scan_more_iff.mp hscan).resolve_left hlength.not_lt with
    ⟨haccepted, hframe⟩
  rw [NsPacketHeader.frameLength] at hframe
  exact ⟨haccepted, by omega⟩

end Ends

/-- The end of a stream is classified exactly when it is not a cut between a
header and its body. -/
theorem endOfStream_classified_iff {socketFd : NsSocket}
    (hsocket : nsSocketIsValid socketFd) (stream : List UInt8)
    (chunks : List ℕ) :
    EndClassified socketFd stream chunks ↔ ¬ CutBeforeBody stream := by
  cases hscan : scan stream with
  | more =>
      have hreceived := receivedBeforeEnd_of_more hsocket hscan chunks
      rw [cutBeforeBody_iff_of_more hscan]
      by_cases hcut : stream.length = nsPacketHeaderSize
      · refine iff_of_false (fun hclassified => ?_) (not_not.mpr hcut)
        rw [if_pos (Or.inr hcut)] at hreceived
        rw [hclassified.closed.mp hreceived] at hcut
        exact absurd hcut (by decide)
      · refine iff_of_true ⟨?_, fun hinside => ?_⟩ hcut
        · rw [hreceived, ← List.length_eq_zero_iff]
          simp only [hcut, or_false, ite_eq_left_iff, reduceCtorEq,
            imp_false, not_not]
        · rw [hreceived, if_neg]
          rw [List.length_eq_zero_iff]
          exact not_or.mpr ⟨hinside.1, hcut⟩
  | refused =>
      have hreceived := receivedBeforeEnd_of_refused hsocket hscan chunks
      rcases scan_refused_iff.mp hscan with ⟨hheader, hrefused⟩
      refine iff_of_true ⟨?_, fun _ => hreceived⟩
        fun hcut => hrefused hcut.2.1
      rw [hreceived]
      refine iff_of_false (by decide) ?_
      rintro rfl
      exact absurd hheader (by decide)
  | packet packet =>
      have hreceived := receivedBeforeEnd_of_packet hsocket hscan chunks
      rcases scan_packet_iff.mp hscan with ⟨hheader, hframe, -, -⟩
      refine iff_of_true ⟨?_, ?_⟩ ?_
      · rw [hreceived]
        refine iff_of_false (by simp) ?_
        rintro rfl
        exact absurd hheader (by decide)
      · rintro ⟨-, hshort⟩
        rcases hshort with hshort | hshort
        · exact absurd hshort hheader.not_gt
        · exact absurd hshort hframe.not_gt
      · rintro ⟨hlength, -, hbody⟩
        rw [NsPacketHeader.frameLength] at hframe
        omega

/-- A header of which the last byte is missing. -/
theorem endOfStream_classified_iff_example :
    EndClassified 4 [1, 2, 0, 0, 0, 0, 0, 0, 0, 0, 0, 0, 0] [5] :=
  (endOfStream_classified_iff (by decide) _ _).mpr
    fun hcut => absurd hcut.1 (by decide)

/-- A TEXT header that announces five bytes, and the end right behind it. -/
theorem endOfStream_not_always_classified :
    ¬ ∀ socketFd stream chunks, nsSocketIsValid socketFd →
      EndClassified socketFd stream chunks := by
  intro hall
  have hclassified :=
    hall 4 [1, 2, 0, 0, 0, 0, 0, 0, 0, 0, 0, 0, 0, 5] [] (by decide)
  exact absurd (hclassified.closed.mp (by decide)) (by decide)

end NodeSignal
