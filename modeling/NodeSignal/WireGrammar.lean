import NodeSignal.Comm

/-!
# The wire grammar

A packet on the wire is fourteen header bytes and as many body bytes as the
header announces.  `scan` states this grammar on byte lists, without any
socket: a stream either shows a whole packet, or a whole header that is
refused, or too few bytes to tell.  `ns_recv_packet` computes `scan`,
whatever parts the bytes arrive in.
-/

namespace NodeSignal

open BigEndian CStrings RingWindow

structure NsPacketHeader.Accepted (header : NsPacketHeader) : Prop where
  version : header.version = nsProtocolVersion
  type : (NsPacketType.ofCode? header.type).isSome
  bodyLen : header.bodyLen.toNat ≤ nsPacketBodyMax

instance (header : NsPacketHeader) : Decidable header.Accepted :=
  decidable_of_iff
    (header.version = nsProtocolVersion ∧
      (NsPacketType.ofCode? header.type).isSome ∧
      header.bodyLen.toNat ≤ nsPacketBodyMax)
    ⟨fun h => ⟨h.1, h.2.1, h.2.2⟩,
      fun h => ⟨h.version, h.type, h.bodyLen⟩⟩

def NsPacketHeader.frameLength (header : NsPacketHeader) : ℕ :=
  nsPacketHeaderSize + header.bodyLen.toNat

inductive Scan where
  | more
  | refused
  | packet (packet : NsPacket)
  deriving DecidableEq

theorem bodySlice_length_le (stream : List UInt8) {count : ℕ}
    (hcount : count ≤ nsPacketBodyMax) :
    ((stream.drop nsPacketHeaderSize).take count).length ≤
      nsPacketBodyMax :=
  (List.length_take_le _ _).trans hcount

/-- What the front of a byte stream shows. -/
def scan (stream : List UInt8) : Scan :=
  if stream.length < nsPacketHeaderSize then .more
  else if haccepted : (headerFields stream).Accepted then
    if stream.length < (headerFields stream).frameLength then .more
    else
      .packet (.filled (headerFields stream)
        ((stream.drop nsPacketHeaderSize).take
          (headerFields stream).bodyLen.toNat)
        (bodySlice_length_le stream haccepted.bodyLen))
  else .refused

theorem nsLoadU32_take (stream : List UInt8) {size offset : ℕ}
    (hinside : offset + 4 ≤ size) :
    nsLoadU32 (stream.take size) offset = nsLoadU32 stream offset := by
  unfold nsLoadU32
  rw [List.drop_take, List.take_take, min_eq_left (by omega)]

theorem headerFields_take {stream : List UInt8} {size : ℕ}
    (hsize : nsPacketHeaderSize ≤ size) :
    headerFields (stream.take size) = headerFields stream := by
  simp only [nsPacketHeaderSize] at hsize
  have hfirst : 0 < size := by omega
  have hsecond : 1 < size := by omega
  simp [headerFields, List.getD_eq_getElem?_getD, hfirst, hsecond,
    nsLoadU32_take stream (show 2 + 4 ≤ size by omega),
    nsLoadU32_take stream (show 6 + 4 ≤ size by omega),
    nsLoadU32_take stream (show 10 + 4 ≤ size by omega)]

theorem headerFields_append {stream : List UInt8} (more : List UInt8)
    (hheader : nsPacketHeaderSize ≤ stream.length) :
    headerFields (stream ++ more) = headerFields stream := by
  rw [← headerFields_take hheader, List.take_left]

theorem scan_refused_iff {stream : List UInt8} :
    scan stream = .refused ↔
      nsPacketHeaderSize ≤ stream.length ∧
        ¬ (headerFields stream).Accepted := by
  unfold scan
  split_ifs <;> simp_all

theorem scan_more_iff {stream : List UInt8} :
    scan stream = .more ↔
      stream.length < nsPacketHeaderSize ∨
        ((headerFields stream).Accepted ∧
          stream.length < (headerFields stream).frameLength) := by
  unfold scan
  split_ifs <;> simp_all

theorem scan_packet_iff {stream : List UInt8} {packet : NsPacket} :
    scan stream = .packet packet ↔
      nsPacketHeaderSize ≤ stream.length ∧
        (headerFields stream).frameLength ≤ stream.length ∧
        ∃ haccepted : (headerFields stream).Accepted,
          packet = .filled (headerFields stream)
            ((stream.drop nsPacketHeaderSize).take
              (headerFields stream).bodyLen.toNat)
            (bodySlice_length_le stream haccepted.bodyLen) := by
  unfold scan
  split_ifs with hshort haccepted hbody
  · simp only [false_iff, not_and]
    omega
  · simp only [false_iff, not_and]
    omega
  · simp only [Scan.packet.injEq, not_lt.mp hshort, not_lt.mp hbody,
      haccepted, exists_true_left, true_and]
    exact eq_comm
  · simp [haccepted]

theorem scan_append {stream more : List UInt8}
    (hshown : scan stream ≠ .more) :
    scan (stream ++ more) = scan stream := by
  cases hscan : scan stream with
  | more => exact absurd hscan hshown
  | refused =>
      rw [scan_refused_iff] at hscan ⊢
      rw [headerFields_append more hscan.1, List.length_append]
      exact ⟨hscan.1.trans (Nat.le_add_right _ _), hscan.2⟩
  | packet packet =>
      rw [scan_packet_iff] at hscan ⊢
      obtain ⟨hheader, hframe, haccepted, rfl⟩ := hscan
      have hfields := headerFields_append more hheader
      have hbody : ((stream ++ more).drop nsPacketHeaderSize).take
            (headerFields stream).bodyLen.toNat =
          (stream.drop nsPacketHeaderSize).take
            (headerFields stream).bodyLen.toNat := by
        rw [List.drop_append_of_le_length hheader,
          List.take_append_of_le_length]
        simp only [NsPacketHeader.frameLength] at hframe
        simp only [List.length_drop]
        omega
      rw [List.length_append]
      refine ⟨by omega, by rw [hfields]; omega, hfields ▸ haccepted, ?_⟩
      simp only [hfields, hbody]

/-! ## `ns_recv_packet` computes the grammar -/

theorem nsRecvPacket_of_refused {socketFd : NsSocket}
    (hsocket : nsSocketIsValid socketFd) (sock : RecvSocket)
    (hscan : scan sock.pending = .refused) :
    ∃ chunks, nsRecvPacket socketFd sock =
      ⟨.error, ⟨sock.pending.drop nsPacketHeaderSize, sock.ending, chunks⟩,
        none⟩ := by
  obtain ⟨hheader, hrefused⟩ := scan_refused_iff.mp hscan
  obtain ⟨chunks, hrecv⟩ := nsRecvAll_enough sock _ hheader
  refine ⟨chunks, ?_⟩
  unfold nsRecvPacket
  simp only [hsocket, Bool.not_true, Bool.false_eq_true, if_false, hrecv,
    show ¬ (1 : ℤ) ≤ 0 by decide, headerFields_take le_rfl]
  by_cases hversion :
      (headerFields sock.pending).version = nsProtocolVersion
  · by_cases htype :
        NsPacketType.ofCode? (headerFields sock.pending).type = none
    · simp [hversion, htype]
    · have hlong : (headerFields sock.pending).bodyLen.toNat >
          nsPacketBodyMax := by
        by_contra hshort
        exact hrefused
          ⟨hversion, Option.isSome_iff_ne_none.mpr htype, not_lt.mp hshort⟩
      simp only [hversion, ne_eq, not_true_eq_false, htype, hlong,
        if_false, if_true]
  · simp [hversion]

theorem nsRecvPacket_of_accepted {socketFd : NsSocket}
    (hsocket : nsSocketIsValid socketFd) (sock : RecvSocket)
    (hheader : nsPacketHeaderSize ≤ sock.pending.length)
    (haccepted : (headerFields sock.pending).Accepted) :
    ∃ chunks,
      let rest : RecvSocket :=
        ⟨sock.pending.drop nsPacketHeaderSize, sock.ending, chunks⟩
      let fields := headerFields sock.pending
      let body := nsRecvAll rest fields.bodyLen.toNat
      nsRecvPacket socketFd sock =
        if fields.bodyLen.toNat = 0 then
          ⟨.ok (.filled fields [] (Nat.zero_le _)), rest, none⟩
        else if body.status ≤ 0 then
          ⟨.ofStatus body.status, body.sock, body.reported⟩
        else if hfits : body.bytes.length ≤ nsPacketBodyMax then
          ⟨.ok (.filled fields body.bytes hfits), body.sock, none⟩
        else ⟨.error, body.sock, none⟩ := by
  obtain ⟨chunks, hrecv⟩ := nsRecvAll_enough sock _ hheader
  refine ⟨chunks, ?_⟩
  have htype := Option.isSome_iff_ne_none.mp haccepted.type
  have hwithin : ¬ (headerFields sock.pending).bodyLen.toNat >
      nsPacketBodyMax := not_lt.mpr haccepted.bodyLen
  unfold nsRecvPacket
  simp only [hsocket, Bool.not_true, Bool.false_eq_true, if_false, hrecv,
    show ¬ (1 : ℤ) ≤ 0 by decide, headerFields_take le_rfl,
    haccepted.version, ne_eq, not_true_eq_false, htype, hwithin]

theorem nsRecvPacket_of_packet {socketFd : NsSocket}
    (hsocket : nsSocketIsValid socketFd) (sock : RecvSocket)
    {packet : NsPacket}
    (hscan : scan sock.pending = .packet packet) :
    ∃ chunks, nsRecvPacket socketFd sock =
      ⟨.ok packet, ⟨sock.pending.drop packet.header.frameLength,
        sock.ending, chunks⟩, none⟩ := by
  obtain ⟨hheader, hframe, haccepted, rfl⟩ := scan_packet_iff.mp hscan
  obtain ⟨chunks, hpacket⟩ :=
    nsRecvPacket_of_accepted hsocket sock hheader haccepted
  simp only [NsPacketHeader.frameLength] at hframe
  rw [hpacket]
  by_cases hzero : (headerFields sock.pending).bodyLen.toNat = 0
  · refine ⟨chunks, ?_⟩
    simp only [hzero, if_true, NsPacket.filled,
      NsPacketHeader.frameLength, Nat.add_zero, List.take_zero]
  · obtain ⟨chunks', hbody⟩ := nsRecvAll_enough
      ⟨sock.pending.drop nsPacketHeaderSize, sock.ending, chunks⟩
      (headerFields sock.pending).bodyLen.toNat
      (by simp only [List.length_drop]; omega)
    refine ⟨chunks', ?_⟩
    have hfits := bodySlice_length_le sock.pending
      haccepted.bodyLen
    simp only [hzero, if_false, hbody, show ¬ (1 : ℤ) ≤ 0 by decide,
      hfits, dite_true, List.drop_drop, NsPacket.filled,
      NsPacketHeader.frameLength]

/-- A call that finds too few bytes consumes them all.  The cut exactly
between header and body is reported like the end before the first byte,
because the second loop has read nothing yet. -/
theorem nsRecvPacket_of_more {socketFd : NsSocket}
    (hsocket : nsSocketIsValid socketFd) (sock : RecvSocket)
    (hscan : scan sock.pending = .more) :
    ∃ chunks, nsRecvPacket socketFd sock =
      match sock.ending with
      | .eof =>
          ⟨if sock.pending.length = 0 ∨
              sock.pending.length = nsPacketHeaderSize
            then .closed else .error, ⟨[], .eof, chunks⟩, none⟩
      | .failed errno => ⟨.error, ⟨[], .failed errno, chunks⟩, some errno⟩ := by
  by_cases hheader : sock.pending.length < nsPacketHeaderSize
  · obtain ⟨chunks, hrecv⟩ := nsRecvAll_short sock _ hheader
    refine ⟨chunks, ?_⟩
    have hne : sock.pending.length ≠ nsPacketHeaderSize := by omega
    unfold nsRecvPacket
    simp only [hsocket, Bool.not_true, Bool.false_eq_true, if_false, hrecv,
      RecvEnd.report_status_nonpos, if_true]
    cases sock.ending with
    | eof =>
        by_cases hempty : sock.pending.length = 0
        · simp [RecvEnd.report, hempty, NsRecv.ofStatus]
        · simp only [nsPacketHeaderSize] at hne
          simp [RecvEnd.report, hempty, hne, NsRecv.ofStatus]
    | failed errno => simp [RecvEnd.report, NsRecv.ofStatus]
  · obtain ⟨haccepted, hframe⟩ :=
      (scan_more_iff.mp hscan).resolve_left hheader
    obtain ⟨chunks, hpacket⟩ := nsRecvPacket_of_accepted hsocket
      sock (not_lt.mp hheader) haccepted
    simp only [NsPacketHeader.frameLength] at hframe
    have hnonzero : (headerFields sock.pending).bodyLen.toNat ≠ 0 := by omega
    obtain ⟨chunks', hbody⟩ := nsRecvAll_short
      ⟨sock.pending.drop nsPacketHeaderSize, sock.ending, chunks⟩
      (headerFields sock.pending).bodyLen.toNat
      (by simp only [List.length_drop]; omega)
    refine ⟨chunks', ?_⟩
    rw [hpacket]
    simp only [hnonzero, if_false, hbody, RecvEnd.report_status_nonpos,
      if_true]
    cases sock.ending with
    | eof =>
        have hsome : sock.pending.length ≠ 0 := by
          simp only [nsPacketHeaderSize] at hheader
          omega
        by_cases hcut : sock.pending.length = nsPacketHeaderSize
        · simp [RecvEnd.report, hcut, NsRecv.ofStatus]
        · have hrest : (sock.pending.drop nsPacketHeaderSize).length ≠ 0 := by
            simp only [List.length_drop]
            omega
          simp only [RecvEnd.report, hrest, if_false, hsome, hcut,
            NsRecv.ofStatus, or_self, show ¬ (-1 : ℤ) = 0 by decide]
    | failed errno => simp [RecvEnd.report, NsRecv.ofStatus]

end NodeSignal
