import NodeSignal.WireGrammar

/-!
# Encoding and decoding packets

The wire form of a packet is read back as that packet, and a packet that was
read is written back as the bytes it was read from.  Both directions go
through the grammar of `WireGrammar`, so they hold for every way of splitting
the bytes into `send()` and `recv()` calls.
-/

namespace NodeSignal

open BigEndian CStrings RingWindow

theorem headerFields_wire (packet : NsPacket) (rest : List UInt8) :
    headerFields (packet.wire ++ rest) = packet.header := by
  have hload : ∀ word : UInt32,
      wordOfBytes (bytesOfWord word) = word := wordOfBytes_bytesOfWord
  have hsender : nsLoadU32 (packet.wire ++ rest) 2 =
      packet.header.senderId := hload _
  have htime : nsLoadU32 (packet.wire ++ rest) 6 =
      packet.header.timestamp := hload _
  have hlen : nsLoadU32 (packet.wire ++ rest) 10 =
      packet.header.bodyLen := hload _
  rw [headerFields, hsender, htime, hlen]
  rfl

theorem drop_wire (packet : NsPacket) (rest : List UInt8) :
    (packet.wire ++ rest).drop nsPacketHeaderSize =
      packet.payload ++ rest := rfl

theorem NsPacket.Canonical.accepted {packet : NsPacket}
    (hcanonical : packet.Canonical) : packet.header.Accepted :=
  ⟨hcanonical.version, hcanonical.type, hcanonical.bodyLen⟩

/-- The wire form of a canonical packet shows that packet. -/
theorem scan_wire {packet : NsPacket} (hcanonical : packet.Canonical)
    (rest : List UInt8) :
    scan (packet.wire ++ rest) = .packet packet := by
  have hfields := headerFields_wire packet rest
  have hlength := NsPacket.wire_length hcanonical.bodyLen
  have hpayload := NsPacket.payload_length hcanonical.bodyLen
  rw [scan_packet_iff]
  refine ⟨?_, ?_, hfields ▸ hcanonical.accepted, ?_⟩
  · rw [List.length_append, hlength]
    omega
  · rw [hfields, List.length_append, hlength, NsPacketHeader.frameLength]
    omega
  · have hbody : ((packet.wire ++ rest).drop nsPacketHeaderSize).take
        packet.header.bodyLen.toNat = packet.payload := by
      rw [drop_wire, ← hpayload, List.take_left]
    have heq := hcanonical.body
    simp only [hfields, hbody, NsPacket.filled]
    cases packet with
    | mk header body hlength =>
        rw [NsPacket.mk.injEq]
        exact ⟨rfl, heq⟩

theorem header_split {stream : List UInt8}
    (hheader : nsPacketHeaderSize ≤ stream.length) :
    stream.getD 0 0 :: stream.getD 1 0 ::
        (bytesOfWord (nsLoadU32 stream 2) ++
          bytesOfWord (nsLoadU32 stream 6) ++
          bytesOfWord (nsLoadU32 stream 10)) =
      stream.take nsPacketHeaderSize := by
  simp only [nsPacketHeaderSize] at hheader
  have hword : ∀ offset, offset + 4 ≤ stream.length →
      bytesOfWord (nsLoadU32 stream offset) =
        (stream.drop offset).take 4 := by
    intro offset hoffset
    apply bytesOfWord_wordOfBytes
    simp only [List.length_take, List.length_drop]
    omega
  rw [hword 2 (by omega), hword 6 (by omega), hword 10 (by omega)]
  match stream, hheader with
  | _ :: _ :: _ :: _ :: _ :: _ :: _ :: _ :: _ :: _ :: _ :: _ :: _ :: _ :: _,
    _ => rfl

theorem filled_scan_payload {stream : List UInt8}
    (hframe : (headerFields stream).frameLength ≤ stream.length)
    (haccepted : (headerFields stream).Accepted) :
    (NsPacket.filled (headerFields stream)
        ((stream.drop nsPacketHeaderSize).take
          (headerFields stream).bodyLen.toNat)
        (bodySlice_length_le stream haccepted.bodyLen)).payload =
      (stream.drop nsPacketHeaderSize).take
        (headerFields stream).bodyLen.toNat := by
  apply NsPacket.filled_payload
  simp only [NsPacketHeader.frameLength] at hframe
  rw [List.length_take, List.length_drop, min_eq_left (by omega),
    UInt32.ofNat_toNat]

/-- A packet shown by a stream is canonical, and its wire form is the part
of the stream that showed it. -/
theorem wire_of_scan {stream : List UInt8} {packet : NsPacket}
    (hscan : scan stream = .packet packet) :
    packet.Canonical ∧
      packet.wire = stream.take packet.header.frameLength ∧
      packet.header.frameLength ≤ stream.length := by
  obtain ⟨hheader, hframe, haccepted, rfl⟩ := scan_packet_iff.mp hscan
  have hpayload := filled_scan_payload hframe haccepted
  refine ⟨⟨haccepted.version, haccepted.type, haccepted.bodyLen, ?_⟩,
    ?_, hframe⟩
  · rw [hpayload]
    rfl
  · rw [NsPacket.wire, hpayload]
    simp only [NsPacket.filled]
    have hsplit := header_split hheader
    simp only [headerFields, NsPacketHeader.frameLength, List.take_add]
    rw [← hsplit]
    simp

/-! ## Streams of packets -/

/-- Send the packets one after the other: the return values and the bytes
that reach the connection. -/
def sendPackets (socketFd : NsSocket) :
    List NsPacket → List SendOutcome → List ℤ × List UInt8
  | [], _ => ([], [])
  | packet :: rest, outcomes =>
      let report := nsSendPacket socketFd packet outcomes
      let later := sendPackets socketFd rest report.outcomes
      (report.status :: later.1, report.sent ++ later.2)

def recvPackets (socketFd : NsSocket) : ℕ → RecvSocket → List NsRecv
  | 0, _ => []
  | calls + 1, sock =>
      let report := nsRecvPacket socketFd sock
      report.result :: recvPackets socketFd calls report.sock

theorem sendPackets_took {socketFd : NsSocket}
    (hsocket : nsSocketIsValid socketFd) {packets : List NsPacket}
    (hlen : ∀ packet ∈ packets,
      packet.header.bodyLen.toNat ≤ nsPacketBodyMax)
    (counts : List ℕ) :
    sendPackets socketFd packets (counts.map .took) =
      (packets.map fun _ => 0, (packets.map NsPacket.wire).flatten) := by
  induction packets generalizing counts with
  | nil => rfl
  | cons packet rest ih =>
      obtain ⟨left, hsend⟩ :=
        nsSendPacket_took hsocket (hlen packet (by simp)) counts
      have hrest := ih (fun other hmem => hlen other (by simp [hmem])) left
      simp [sendPackets, hsend, hrest]

theorem recvPackets_wires {socketFd : NsSocket}
    (hsocket : nsSocketIsValid socketFd) {packets : List NsPacket}
    (hcanonical : ∀ packet ∈ packets, packet.Canonical)
    (chunks : List ℕ) :
    recvPackets socketFd (packets.length + 1)
        ⟨(packets.map NsPacket.wire).flatten, .eof, chunks⟩ =
      packets.map .ok ++ [.closed] := by
  induction packets generalizing chunks with
  | nil =>
      obtain ⟨chunks', hrecv⟩ := nsRecvPacket_of_more hsocket
        ⟨[], .eof, chunks⟩ rfl
      simp [recvPackets, hrecv]
  | cons packet rest ih =>
      have hpacket := hcanonical packet (by simp)
      obtain ⟨chunks', hrecv⟩ := nsRecvPacket_of_packet hsocket
        ⟨((packet :: rest).map NsPacket.wire).flatten, .eof, chunks⟩
        (by simpa using scan_wire hpacket (rest.map NsPacket.wire).flatten)
      have hlength : packet.header.frameLength = packet.wire.length := by
        rw [NsPacket.wire_length hpacket.bodyLen, NsPacketHeader.frameLength]
      have hrest := ih (fun other hmem => hcanonical other (by simp [hmem]))
        chunks'
      rw [List.length_cons, recvPackets, hrecv]
      simp only [hlength, List.map_cons, List.flatten_cons, List.drop_left,
        hrest, List.cons_append]

/-- The packet comes from a successful `ns_packet_set` with a known type. -/
def NsPacket.Built (packet : NsPacket) : Prop :=
  ∃ type senderId timestamp body, 1 ≤ type ∧ type ≤ 5 ∧
    nsPacketSet type senderId timestamp body = some packet

theorem NsPacket.Built.canonical {packet : NsPacket}
    (hbuilt : packet.Built) : packet.Canonical := by
  obtain ⟨type, senderId, timestamp, body, hlow, hhigh, hset⟩ := hbuilt
  exact nsPacketSet_canonical ⟨hlow, hhigh⟩ hset

/-- Whatever parts the kernel takes and hands over, the receiver gets the
packets that were sent, in order, and then the end of the stream. -/
theorem packetStream_roundTrip (sender receiver : NsSocket)
    (hsender : nsSocketIsValid sender)
    (hreceiver : nsSocketIsValid receiver)
    (packets : List NsPacket) (hbuilt : ∀ packet ∈ packets, packet.Built)
    (counts chunks : List ℕ) :
    (∀ status ∈ (sendPackets sender packets (counts.map .took)).1,
        status = 0) ∧
      recvPackets receiver (packets.length + 1)
          ⟨(sendPackets sender packets (counts.map .took)).2, .eof,
            chunks⟩ =
        packets.map .ok ++ [.closed] := by
  have hcanonical : ∀ packet ∈ packets, packet.Canonical :=
    fun packet hmem => (hbuilt packet hmem).canonical
  rw [sendPackets_took hsender
    (fun packet hmem => (hcanonical packet hmem).bodyLen)]
  exact ⟨by simp, recvPackets_wires hreceiver hcanonical chunks⟩

theorem packetStream_roundTrip_example :
    recvPackets 4 3
        ⟨(sendPackets 3
            [.filled ⟨1, 2, 7, 90, 2⟩ [104, 105] (by decide),
              .filled ⟨1, 3, 7, 91, 0⟩ [] (by decide)]
            ([5, 1, 3].map .took)).2, .eof, [2, 20, 1]⟩ =
      [.ok (.filled ⟨1, 2, 7, 90, 2⟩ [104, 105] (by decide)),
        .ok (.filled ⟨1, 3, 7, 91, 0⟩ [] (by decide)), .closed] := by
  refine (packetStream_roundTrip 3 4 rfl rfl
    [.filled ⟨1, 2, 7, 90, 2⟩ [104, 105] (by decide),
      .filled ⟨1, 3, 7, 91, 0⟩ [] (by decide)]
    ?_ [5, 1, 3] [2, 20, 1]).2
  intro packet hmem
  simp only [List.mem_cons, List.not_mem_nil, or_false] at hmem
  rcases hmem with rfl | rfl
  · exact ⟨2, 7, 90, some [104, 105], by decide, by decide, rfl⟩
  · exact ⟨3, 7, 91, none, by decide, by decide, rfl⟩

/-! ## The grammar on bytes -/

/-- Fourteen header bytes that announce a body of the given length. -/
structure HeaderWellFormed (stream : List UInt8) (length : ℕ) : Prop where
  header : 14 ≤ stream.length
  version : stream[0]? = some 1
  type : ∃ code, stream[1]? = some code ∧ 1 ≤ code ∧ code ≤ 5
  bodyLen : natOfBytes ((stream.drop 10).take 4) = length
  bound : length ≤ 512

/-- The stream starts with a well-formed packet of the given body length. -/
structure StartsWithPacket (stream : List UInt8) (length : ℕ) : Prop
    extends HeaderWellFormed stream length where
  body : 14 + length ≤ stream.length

theorem headerFields_bodyLen_toNat {stream : List UInt8}
    (hheader : 14 ≤ stream.length) :
    (headerFields stream).bodyLen.toNat =
      natOfBytes ((stream.drop 10).take 4) := by
  apply wordOfBytes_toNat
  simp only [List.length_take, List.length_drop]
  omega

theorem headerWellFormed_iff {stream : List UInt8} {length : ℕ} :
    HeaderWellFormed stream length ↔
      14 ≤ stream.length ∧ (headerFields stream).Accepted ∧
        (headerFields stream).bodyLen.toNat = length := by
  constructor
  · rintro ⟨hheader, hversion, ⟨code, hcode, hknown⟩, hlen, hbound⟩
    have hnat := headerFields_bodyLen_toNat hheader
    refine ⟨hheader, ⟨?_, ?_, ?_⟩, hnat.trans hlen⟩
    · simp [headerFields, List.getD_eq_getElem?_getD, hversion,
        nsProtocolVersion]
    · rw [NsPacketType.ofCode?_isSome_iff]
      simpa [headerFields, List.getD_eq_getElem?_getD, hcode] using hknown
    · rw [hnat, hlen]
      exact hbound
  · rintro ⟨hheader, haccepted, hlen⟩
    have hzero : 0 < stream.length := by omega
    have hone : 1 < stream.length := by omega
    have hnat := headerFields_bodyLen_toNat hheader
    have hversion := haccepted.version
    have htype := (NsPacketType.ofCode?_isSome_iff _).mp haccepted.type
    simp only [headerFields, List.getD_eq_getElem?_getD,
      List.getElem?_eq_getElem hzero, List.getElem?_eq_getElem hone,
      Option.getD_some] at hversion htype
    refine ⟨hheader, ?_, ⟨_, List.getElem?_eq_getElem hone, htype⟩,
      hnat.symm.trans hlen, ?_⟩
    · rw [List.getElem?_eq_getElem hzero, hversion]
      rfl
    · rw [← hlen]
      exact haccepted.bodyLen

theorem startsWithPacket_iff {stream : List UInt8} {length : ℕ} :
    StartsWithPacket stream length ↔
      ∃ packet, scan stream = .packet packet ∧
        packet.header.bodyLen.toNat = length := by
  constructor
  · rintro ⟨hwell, hbody⟩
    obtain ⟨hheader, haccepted, hlen⟩ := headerWellFormed_iff.mp hwell
    refine ⟨_, scan_packet_iff.mpr ⟨hheader, ?_, haccepted, rfl⟩, hlen⟩
    rw [NsPacketHeader.frameLength, hlen]
    exact hbody
  · rintro ⟨packet, hscan, hlen⟩
    obtain ⟨hheader, hframe, haccepted, rfl⟩ := scan_packet_iff.mp hscan
    refine ⟨headerWellFormed_iff.mpr ⟨hheader, haccepted, hlen⟩, ?_⟩
    rw [← hlen]
    exact hframe

theorem scan_refused_iff_not_wellFormed {stream : List UInt8} :
    scan stream = .refused ↔
      14 ≤ stream.length ∧ ¬ ∃ length, HeaderWellFormed stream length := by
  rw [scan_refused_iff]
  apply and_congr_right
  intro hheader
  apply not_congr
  simp only [headerWellFormed_iff]
  constructor
  · exact fun haccepted => ⟨_, hheader, haccepted, rfl⟩
  · exact fun ⟨_, _, haccepted, _⟩ => haccepted

/-- `ns_recv_packet` accepts exactly the streams that start with a
well-formed packet, consumes that packet, and `ns_send_packet` writes the
result back as the bytes consumed; a refused header costs fourteen bytes. -/
theorem recvPacket_exact (socketFd : NsSocket)
    (hsocket : nsSocketIsValid socketFd)
    (stream : List UInt8) (chunks : List ℕ) :
    ((∃ packet, (nsRecvPacket socketFd ⟨stream, .eof, chunks⟩).result =
        .ok packet) ↔ ∃ length, StartsWithPacket stream length) ∧
    (∀ length, StartsWithPacket stream length →
      (nsRecvPacket socketFd ⟨stream, .eof, chunks⟩).sock.pending =
          stream.drop (14 + length) ∧
        ∃ packet, (nsRecvPacket socketFd ⟨stream, .eof, chunks⟩).result =
            .ok packet ∧
          (∀ index, length ≤ index → index ≤ 512 →
            packet.body[index]? = some 0) ∧
          ∀ sender, nsSocketIsValid sender → ∀ counts : List ℕ,
            (nsSendPacket sender packet (counts.map .took)).status = 0 ∧
              (nsSendPacket sender packet (counts.map .took)).sent =
                stream.take (14 + length)) ∧
    (14 ≤ stream.length → (¬ ∃ length, HeaderWellFormed stream length) →
      (nsRecvPacket socketFd ⟨stream, .eof, chunks⟩).result = .error ∧
        (nsRecvPacket socketFd ⟨stream, .eof, chunks⟩).sock.pending =
          stream.drop 14) := by
  refine ⟨⟨?_, ?_⟩, ?_, ?_⟩
  · rintro ⟨packet, hok⟩
    cases hscan : scan stream with
    | more =>
        obtain ⟨chunks', hrecv⟩ := nsRecvPacket_of_more hsocket
          ⟨stream, .eof, chunks⟩ hscan
        rw [hrecv] at hok
        simp only at hok
        split at hok <;> simp at hok
    | refused =>
        obtain ⟨chunks', hrecv⟩ := nsRecvPacket_of_refused hsocket
          ⟨stream, .eof, chunks⟩ hscan
        simp [hrecv] at hok
    | packet shown =>
        exact ⟨_, startsWithPacket_iff.mpr ⟨shown, hscan, rfl⟩⟩
  · rintro ⟨length, hstarts⟩
    obtain ⟨packet, hscan, -⟩ := startsWithPacket_iff.mp hstarts
    obtain ⟨chunks', hrecv⟩ := nsRecvPacket_of_packet hsocket
      ⟨stream, .eof, chunks⟩ hscan
    exact ⟨packet, by rw [hrecv]⟩
  · intro length hstarts
    obtain ⟨packet, hscan, hlen⟩ := startsWithPacket_iff.mp hstarts
    obtain ⟨hcanonical, hwire, -⟩ := wire_of_scan hscan
    obtain ⟨chunks', hrecv⟩ := nsRecvPacket_of_packet hsocket
      ⟨stream, .eof, chunks⟩ hscan
    have hframe : packet.header.frameLength = 14 + length := by
      rw [NsPacketHeader.frameLength, hlen]
      rfl
    refine ⟨by simp only [hrecv, hframe], packet, by rw [hrecv], ?_, ?_⟩
    · intro index hpast hindex
      rw [hcanonical.body]
      apply CStrings.getElem?_padded
      · rw [NsPacket.payload_length hcanonical.bodyLen, hlen]
        exact hpast
      · simp only [nsPacketBodyMax]
        omega
    · intro sender hvalid counts
      obtain ⟨left, hsend⟩ :=
        nsSendPacket_took hvalid hcanonical.bodyLen counts
      rw [hsend, hwire, hframe]
      exact ⟨rfl, rfl⟩
  · intro hheader hbad
    obtain ⟨chunks', hrecv⟩ := nsRecvPacket_of_refused hsocket
      ⟨stream, .eof, chunks⟩
      (scan_refused_iff_not_wellFormed.mpr ⟨hheader, hbad⟩)
    rw [hrecv]
    exact ⟨rfl, rfl⟩

theorem recvPacket_exact_example :
    (nsRecvPacket 3
      ⟨[1, 2, 0, 0, 0, 7, 0, 0, 0, 90, 0, 0, 0, 2, 0, 105, 44], .eof,
        [3, 1]⟩).sock.pending = [44] :=
  ((recvPacket_exact 3 rfl
    [1, 2, 0, 0, 0, 7, 0, 0, 0, 90, 0, 0, 0, 2, 0, 105, 44]
    [3, 1]).2.1 2
    ⟨⟨by decide, by decide, ⟨2, by decide⟩, by decide, by decide⟩,
      by decide⟩).1

end NodeSignal
