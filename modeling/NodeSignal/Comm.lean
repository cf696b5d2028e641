import NodeSignal.Packet
import NodeSignal.Sockets

/-!
# Sending and receiving packets

The two transfer loops of the networking module and the packet functions on
top of them.  A packet travels as its header, serialized field by field, and
then the announced part of its body.  The closing lemmas of each half say
what a whole call does, whatever parts the kernel splits the bytes into.
-/

namespace NodeSignal

open BigEndian CStrings RingWindow

/-- `ns_store_u32` into a buffer from the given offset on. -/
def nsStoreU32 (buffer : List UInt8) (offset : ℕ) (value : UInt32) :
    List UInt8 :=
  blit buffer offset (bytesOfWord value)

/-- `ns_load_u32` from the given offset of a buffer. -/
def nsLoadU32 (buffer : List UInt8) (offset : ℕ) : UInt32 :=
  wordOfBytes ((buffer.drop offset).take 4)

/-! ## Sending -/

/-- The result of a sending call: its return value, the bytes handed to the
kernel, the outcomes of later `send()` calls, and the `errno` that a failing
`send()` set. -/
structure SendReport where
  status : ℤ
  sent : List UInt8
  outcomes : List SendOutcome
  reported : Option Errno

/-- `ns_send_all`.  When the schedule of outcomes is used up, the kernel
takes what is left in one call. -/
def nsSendAll : List SendOutcome → List UInt8 → SendReport
  | [], buffer => ⟨0, buffer, [], none⟩
  | outcome :: rest, buffer =>
      if buffer = [] then ⟨0, [], outcome :: rest, none⟩
      else
        match outcome with
        | .took count =>
            let sentNow := sendCount count buffer.length
            let later := nsSendAll rest (buffer.drop sentNow)
            { later with sent := buffer.take sentNow ++ later.sent }
        | .failed errno => ⟨-1, [], rest, some errno⟩

/-- The header buffer of `ns_send_packet`. -/
def sendHeaderBuffer (packet : NsPacket) : List UInt8 :=
  let buffer := List.replicate nsPacketHeaderSize 0
  let buffer := buffer.set 0 packet.header.version
  let buffer := buffer.set 1 packet.header.type
  let buffer := nsStoreU32 buffer 2 packet.header.senderId
  let buffer := nsStoreU32 buffer 6 packet.header.timestamp
  nsStoreU32 buffer 10 packet.header.bodyLen

def nsSendPacket (socketFd : NsSocket) (packet : NsPacket)
    (outcomes : List SendOutcome) : SendReport :=
  if !nsSocketIsValid socketFd then ⟨-1, [], outcomes, none⟩
  else if packet.header.bodyLen.toNat > nsPacketBodyMax then
    ⟨-1, [], outcomes, none⟩
  else
    let header := nsSendAll outcomes (sendHeaderBuffer packet)
    if header.status ≠ 0 then { header with status := -1 }
    else if packet.header.bodyLen.toNat = 0 then { header with status := 0 }
    else
      let body := nsSendAll header.outcomes packet.payload
      { body with sent := header.sent ++ body.sent }

/-- The wire form of a packet: the header fields in order, big-endian, and
the announced body. -/
def NsPacket.wire (packet : NsPacket) : List UInt8 :=
  packet.header.version :: packet.header.type ::
    (bytesOfWord packet.header.senderId ++
      bytesOfWord packet.header.timestamp ++
      bytesOfWord packet.header.bodyLen ++ packet.payload)

theorem sendHeaderBuffer_append_payload (packet : NsPacket) :
    sendHeaderBuffer packet ++ packet.payload = packet.wire := rfl

@[simp] theorem sendHeaderBuffer_length (packet : NsPacket) :
    (sendHeaderBuffer packet).length = nsPacketHeaderSize := rfl

theorem NsPacket.wire_length {packet : NsPacket}
    (hlen : packet.header.bodyLen.toNat ≤ nsPacketBodyMax) :
    packet.wire.length =
      nsPacketHeaderSize + packet.header.bodyLen.toNat := by
  rw [← sendHeaderBuffer_append_payload, List.length_append,
    sendHeaderBuffer_length, NsPacket.payload_length hlen]

theorem nsPacketSet_wire_length {type : UInt8}
    {senderId timestamp : UInt32} {body : List UInt8} {packet : NsPacket}
    (hset : nsPacketSet type senderId timestamp (some body) =
      some packet) :
    packet.wire.length = nsPacketHeaderSize + (text body).length := by
  rcases nsPacketSet_eq_some hset with ⟨-, -, -, -, hlen, hpayload, -⟩
  rw [NsPacket.wire_length hlen, ← NsPacket.payload_length hlen, hpayload,
    Option.getD_some]

/-- Whatever parts the kernel takes, `ns_send_all` hands over the whole
buffer. -/
theorem nsSendAll_took (counts : List ℕ) (buffer : List UInt8) :
    ∃ left : List ℕ, nsSendAll (counts.map .took) buffer =
      ⟨0, buffer, left.map .took, none⟩ := by
  induction counts generalizing buffer with
  | nil => exact ⟨[], rfl⟩
  | cons count rest ih =>
      by_cases hempty : buffer = []
      · exact ⟨count :: rest, by simp [nsSendAll, hempty]⟩
      · obtain ⟨left, hleft⟩ :=
          ih (buffer.drop (sendCount count buffer.length))
        refine ⟨left, ?_⟩
        simp only [List.map_cons, nsSendAll, hempty, if_false, hleft,
          List.take_append_drop]

/-- A packet within the size limit goes out as its wire form. -/
theorem nsSendPacket_took {socketFd : NsSocket} {packet : NsPacket}
    (hsocket : nsSocketIsValid socketFd)
    (hlen : packet.header.bodyLen.toNat ≤ nsPacketBodyMax)
    (counts : List ℕ) :
    ∃ left : List ℕ, nsSendPacket socketFd packet (counts.map .took) =
      ⟨0, packet.wire, left.map .took, none⟩ := by
  obtain ⟨afterHeader, hheader⟩ :=
    nsSendAll_took counts (sendHeaderBuffer packet)
  have hwithin : ¬ packet.header.bodyLen.toNat > nsPacketBodyMax := by omega
  unfold nsSendPacket
  simp only [hsocket, Bool.not_true, Bool.false_eq_true, hwithin, if_false,
    hheader, ne_eq, not_true_eq_false]
  by_cases hzero : packet.header.bodyLen.toNat = 0
  · refine ⟨afterHeader, ?_⟩
    have hpayload : packet.payload = [] := by
      simp [NsPacket.payload, hzero]
    simp only [hzero, if_true]
    rw [← sendHeaderBuffer_append_payload, hpayload, List.append_nil]
  · obtain ⟨left, hbody⟩ := nsSendAll_took afterHeader packet.payload
    refine ⟨left, ?_⟩
    simp only [hzero, if_false, hbody, sendHeaderBuffer_append_payload]

/-! ## Receiving -/

/-- The result of `ns_recv_all`: its return value, the bytes stored in the
destination, the socket afterwards, and the `errno` that a failing `recv()`
set. -/
structure RecvReport where
  status : ℤ
  bytes : List UInt8
  sock : RecvSocket
  reported : Option Errno

/-- The loop of `ns_recv_all`.  Every pass stores at least one byte, so as
many passes as the buffer has bytes are enough. -/
def nsRecvAllLoop (bufferSize : ℕ) :
    ℕ → List UInt8 → RecvSocket → RecvReport
  | 0, received, sock => ⟨1, received, sock, none⟩
  | passes + 1, received, sock =>
      if received.length < bufferSize then
        match sock.recv (bufferSize - received.length) with
        | (.closed, sock) =>
            ⟨if received.length = 0 then 0 else -1, received, sock, none⟩
        | (.failed errno, sock) => ⟨-1, received, sock, some errno⟩
        | (.received bytes, sock) =>
            nsRecvAllLoop bufferSize passes (received ++ bytes) sock
      else ⟨1, received, sock, none⟩

def nsRecvAll (sock : RecvSocket) (bufferSize : ℕ) : RecvReport :=
  nsRecvAllLoop bufferSize bufferSize [] sock

/-- `NS_RECV_ERROR`, `NS_RECV_CLOSED`, or `NS_RECV_OK` with the packet. -/
inductive NsRecv where
  | error
  | closed
  | ok (packet : NsPacket)
  deriving DecidableEq

/-- A `recv_status` of at most zero returned as the result of
`ns_recv_packet`. -/
def NsRecv.ofStatus (status : ℤ) : NsRecv :=
  if status = 0 then .closed else .error

structure RecvPacketReport where
  result : NsRecv
  sock : RecvSocket
  reported : Option Errno

/-- The header fields read from the header buffer. -/
def headerFields (buffer : List UInt8) : NsPacketHeader where
  version := buffer.getD 0 0
  type := buffer.getD 1 0
  senderId := nsLoadU32 buffer 2
  timestamp := nsLoadU32 buffer 6
  bodyLen := nsLoadU32 buffer 10

def nsRecvPacket (socketFd : NsSocket) (sock : RecvSocket) :
    RecvPacketReport :=
  if !nsSocketIsValid socketFd then ⟨.error, sock, none⟩
  else
    let header := nsRecvAll sock nsPacketHeaderSize
    if header.status ≤ 0 then
      ⟨.ofStatus header.status, header.sock, header.reported⟩
    else
      let fields := headerFields header.bytes
      if fields.version ≠ nsProtocolVersion then
        ⟨.error, header.sock, none⟩
      else if NsPacketType.ofCode? fields.type = none then
        ⟨.error, header.sock, none⟩
      else if fields.bodyLen.toNat > nsPacketBodyMax then
        ⟨.error, header.sock, none⟩
      else if fields.bodyLen.toNat = 0 then
        ⟨.ok (.filled fields [] (Nat.zero_le _)), header.sock, none⟩
      else
        let body := nsRecvAll header.sock fields.bodyLen.toNat
        if body.status ≤ 0 then
          ⟨.ofStatus body.status, body.sock, body.reported⟩
        else if hfits : body.bytes.length ≤ nsPacketBodyMax then
          ⟨.ok (.filled fields body.bytes hfits), body.sock, none⟩
        else ⟨.error, body.sock, none⟩

/-! ## What a receiving call does -/

/-- A `recv()` that finds bytes hands over a positive part of them. -/
theorem RecvSocket.recv_of_pending (sock : RecvSocket) (size : ℕ)
    (hpending : sock.pending ≠ []) (hsize : 0 < size) :
    ∃ count chunks, 0 < count ∧ count ≤ size ∧
      sock.recv size =
        (.received (sock.pending.take count),
          ⟨sock.pending.drop count, sock.ending, chunks⟩) := by
  refine ⟨min (max 1 (sock.chunks.headD size)) size, sock.chunks.tail,
    ?_, min_le_right _ _, ?_⟩
  · exact lt_min (lt_of_lt_of_le Nat.one_pos (le_max_left _ _)) hsize
  · simp [recv, hpending]

private theorem nsRecvAllLoop_enough
    (bufferSize passes : ℕ) (received : List UInt8) (sock : RecvSocket)
    (hpasses : bufferSize ≤ received.length + passes)
    (hroom : received.length ≤ bufferSize)
    (henough : bufferSize - received.length ≤ sock.pending.length) :
    ∃ chunks, nsRecvAllLoop bufferSize passes received sock =
      ⟨1, received ++ sock.pending.take (bufferSize - received.length),
        ⟨sock.pending.drop (bufferSize - received.length), sock.ending,
          chunks⟩, none⟩ := by
  induction passes generalizing received sock with
  | zero =>
      have hfull : bufferSize - received.length = 0 := by omega
      exact ⟨sock.chunks, by simp [nsRecvAllLoop, hfull]⟩
  | succ passes ih =>
      by_cases hmore : received.length < bufferSize
      · have hpending : sock.pending ≠ [] := by
          rintro hnil
          simp [hnil] at henough
          omega
        obtain ⟨count, chunks, hpos, hle, hrecv⟩ :=
          sock.recv_of_pending (bufferSize - received.length) hpending
            (by omega)
        have hlength : (received ++ sock.pending.take count).length =
            received.length + count := by
          simp only [List.length_append, List.length_take]
          omega
        obtain ⟨chunks', hrest⟩ := ih
          (received ++ sock.pending.take count)
          ⟨sock.pending.drop count, sock.ending, chunks⟩
          (by omega) (by omega)
          (by simp only [List.length_drop, hlength]; omega)
        refine ⟨chunks', ?_⟩
        rw [nsRecvAllLoop, if_pos hmore, hrecv]
        simp only [hrest, hlength]
        rw [show bufferSize - received.length =
            count + (bufferSize - (received.length + count)) by omega,
          List.take_add, List.drop_drop, List.append_assoc]
      · have hfull : bufferSize - received.length = 0 := by omega
        exact ⟨sock.chunks, by simp [nsRecvAllLoop, hmore, hfull]⟩

/-- What a receiving call reports when the bytes run out. -/
def RecvEnd.report (ending : RecvEnd) (received : List UInt8)
    (chunks : List ℕ) : RecvReport :=
  match ending with
  | .eof =>
      ⟨if received.length = 0 then 0 else -1, received,
        ⟨[], .eof, chunks⟩, none⟩
  | .failed errno =>
      ⟨-1, received, ⟨[], .failed errno, chunks⟩, some errno⟩

theorem RecvEnd.report_status_nonpos (ending : RecvEnd)
    (received : List UInt8) (chunks : List ℕ) :
    (ending.report received chunks).status ≤ 0 := by
  cases ending with
  | eof =>
      simp only [report]
      split_ifs <;> decide
  | failed errno => simp [report]

private theorem nsRecvAllLoop_short
    (bufferSize passes : ℕ) (received : List UInt8) (sock : RecvSocket)
    (hpasses : bufferSize ≤ received.length + passes)
    (hshort : received.length + sock.pending.length < bufferSize) :
    ∃ chunks, nsRecvAllLoop bufferSize passes received sock =
      sock.ending.report (received ++ sock.pending) chunks := by
  induction passes generalizing received sock with
  | zero => omega
  | succ passes ih =>
      have hmore : received.length < bufferSize := by omega
      rw [nsRecvAllLoop, if_pos hmore]
      by_cases hpending : sock.pending = []
      · refine ⟨sock.chunks, ?_⟩
        cases hending : sock.ending with
        | eof =>
            cases sock
            simp_all [RecvSocket.recv, RecvEnd.report]
        | failed errno =>
            cases sock
            simp_all [RecvSocket.recv, RecvEnd.report]
      · obtain ⟨count, chunks, hpos, hle, hrecv⟩ :=
          sock.recv_of_pending (bufferSize - received.length) hpending
            (by omega)
        have hnonempty := List.length_pos_of_ne_nil hpending
        obtain ⟨chunks', hrest⟩ := ih
          (received ++ sock.pending.take count)
          ⟨sock.pending.drop count, sock.ending, chunks⟩
          (by simp only [List.length_append, List.length_take]; omega)
          (by
            simp only [List.length_append, List.length_take,
              List.length_drop]
            omega)
        refine ⟨chunks', ?_⟩
        rw [hrecv]
        simp only [hrest, List.append_assoc, List.take_append_drop]

/-- With enough bytes to come, `ns_recv_all` fills the buffer and leaves the
rest of the stream alone. -/
theorem nsRecvAll_enough (sock : RecvSocket) (bufferSize : ℕ)
    (henough : bufferSize ≤ sock.pending.length) :
    ∃ chunks, nsRecvAll sock bufferSize =
      ⟨1, sock.pending.take bufferSize,
        ⟨sock.pending.drop bufferSize, sock.ending, chunks⟩, none⟩ := by
  simpa [nsRecvAll] using
    nsRecvAllLoop_enough bufferSize bufferSize [] sock (by simp) (by simp)
      (by simpa using henough)

/-- With too few bytes, `ns_recv_all` consumes all of them and reports how
the stream ended. -/
theorem nsRecvAll_short (sock : RecvSocket) (bufferSize : ℕ)
    (hshort : sock.pending.length < bufferSize) :
    ∃ chunks, nsRecvAll sock bufferSize =
      sock.ending.report sock.pending chunks := by
  simpa [nsRecvAll] using
    nsRecvAllLoop_short bufferSize bufferSize [] sock (by simp)
      (by simpa using hshort)

end NodeSignal
