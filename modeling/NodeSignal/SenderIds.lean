import NodeSignal.ChatSegments
import NodeSignal.History
import NodeSignal.WireGrammar

/-!
# Clients cannot choose their sender id

The header of a client packet has a `sender_id` and a `timestamp`, which the
server does not read.  Two wakeups whose bytes differ in these two fields only
therefore lead to the same state, up to the record of what was dispatched.
What the server broadcasts carries the id that it assigned.
-/

namespace NodeSignal

open CStrings Runs

/-! ## Packets that differ in the two fields -/

/-- The packets agree in all but `sender_id` and `timestamp`. -/
structure SameRequest (packet packet' : NsPacket) : Prop where
  version : packet.header.version = packet'.header.version
  type : packet.header.type = packet'.header.type
  bodyLen : packet.header.bodyLen = packet'.header.bodyLen
  body : packet.body = packet'.body

/-- The bytes agree outside `sender_id` and `timestamp`. -/
structure SameBytes (bytes bytes' : List UInt8) : Prop where
  length : bytes.length = bytes'.length
  start : bytes.take 2 = bytes'.take 2
  rest : bytes.drop 10 = bytes'.drop 10

/-- Two byte streams of a client, packet by packet.  The header of a packet
need not be one that the server accepts, and the last packet may be cut
short. -/
inductive SameStream : List UInt8 → List UInt8 → Prop
  | last (stream stream' : List UInt8) (hsame : SameBytes stream stream') :
      SameStream stream stream'
  | packet (packet packet' rest rest' : List UInt8)
      (hsame : SameBytes packet packet')
      (hframe : packet.length = (headerFields packet).frameLength)
      (hrest : SameStream rest rest') :
      SameStream (packet ++ rest) (packet' ++ rest')

def NsPacket.unsigned (packet : NsPacket) : NsPacket :=
  { packet with
    header := { packet.header with senderId := 0, timestamp := 0 } }

theorem SameRequest.unsigned {packet packet' : NsPacket}
    (hsame : SameRequest packet packet') :
    packet.unsigned = packet'.unsigned := by
  rcases packet with ⟨⟨version, type, senderId, timestamp, bodyLen⟩, body, _⟩
  rcases packet' with
    ⟨⟨version', type', senderId', timestamp', bodyLen'⟩, body', _⟩
  rcases hsame with ⟨hversion, htype, hbodyLen, hbody⟩
  simp only at hversion htype hbodyLen hbody
  subst hversion htype hbodyLen hbody
  rfl

theorem nsLoadU32_ten {stream stream' : List UInt8}
    (hrest : stream.drop 10 = stream'.drop 10) :
    nsLoadU32 stream 10 = nsLoadU32 stream' 10 := by
  rw [nsLoadU32, nsLoadU32, hrest]

namespace SameBytes

variable {stream stream' : List UInt8}

theorem refl (stream : List UInt8) : SameBytes stream stream :=
  ⟨rfl, rfl, rfl⟩

theorem header (hsame : SameBytes stream stream') :
    (headerFields stream).version = (headerFields stream').version ∧
      (headerFields stream).type = (headerFields stream').type ∧
      (headerFields stream).bodyLen = (headerFields stream').bodyLen := by
  have hbyte : ∀ offset, offset < 2 →
      stream.getD offset 0 = stream'.getD offset 0 := by
    intro offset hoffset
    have htake := congrArg (·.getD offset 0) hsame.start
    simpa [List.getD_eq_getElem?_getD, List.getElem?_take, hoffset]
      using htake
  exact ⟨hbyte 0 (by decide), hbyte 1 (by decide),
    nsLoadU32_ten hsame.rest⟩

theorem frameLength (hsame : SameBytes stream stream') :
    (headerFields stream).frameLength =
      (headerFields stream').frameLength := by
  rw [NsPacketHeader.frameLength, hsame.header.2.2]
  rfl

theorem accepted (hsame : SameBytes stream stream') :
    (headerFields stream).Accepted ↔ (headerFields stream').Accepted := by
  rcases hsame.header with ⟨hversion, htype, hbodyLen⟩
  constructor
  · exact fun h => ⟨hversion ▸ h.version, htype ▸ h.type,
      hbodyLen ▸ h.bodyLen⟩
  · exact fun h => ⟨hversion ▸ h.version, htype ▸ h.type,
      hbodyLen ▸ h.bodyLen⟩

theorem take (hsame : SameBytes stream stream') (count : ℕ) :
    SameBytes (stream.take count) (stream'.take count) where
  length := by rw [List.length_take, List.length_take, hsame.length]
  start := by rw [List.take_take, List.take_take, Nat.min_comm,
    ← List.take_take, ← List.take_take, hsame.start]
  rest := by rw [List.drop_take, List.drop_take, hsame.rest]

end SameBytes

/-- Both streams show the same, up to the two fields. -/
inductive SameScan (stream stream' : List UInt8) : Prop
  | more (hmore : scan stream = .more) (hmore' : scan stream' = .more)
      (hlength : stream.length = stream'.length)
  | refused (hrefused : scan stream = .refused)
      (hrefused' : scan stream' = .refused)
  | packet (packet packet' : NsPacket)
      (hpacket : scan stream = .packet packet)
      (hpacket' : scan stream' = .packet packet')
      (hsame : SameRequest packet packet')

theorem SameBytes.scan {stream stream' : List UInt8}
    (hsame : SameBytes stream stream') : SameScan stream stream' := by
  have hlength := hsame.length
  have hframe := hsame.frameLength
  have haccepted := hsame.accepted
  cases hscan : NodeSignal.scan stream with
  | more =>
      refine .more hscan ?_ hlength
      rw [scan_more_iff] at hscan ⊢
      rwa [← hlength, ← hframe, ← haccepted]
  | refused =>
      refine .refused hscan ?_
      rw [scan_refused_iff] at hscan ⊢
      rwa [← hlength, ← haccepted]
  | packet packet =>
      rcases scan_packet_iff.mp hscan with ⟨hheader, hwhole, haccept, heq⟩
      refine .packet packet _ hscan (scan_packet_iff.mpr
        ⟨hlength ▸ hheader, hframe ▸ hlength ▸ hwhole,
          haccepted.mp haccept, rfl⟩) ?_
      have hbody : stream.drop nsPacketHeaderSize =
          stream'.drop nsPacketHeaderSize := by
        have hdrop := congrArg (List.drop 4) hsame.rest
        rwa [List.drop_drop, List.drop_drop] at hdrop
      rcases hsame.header with ⟨hversion, htype, hbodyLen⟩
      subst heq
      refine ⟨hversion, htype, hbodyLen, ?_⟩
      simp only [NsPacket.filled, hbody, hbodyLen]

/-- A frame shows a packet or a header that is refused. -/
theorem scan_frame {packet : List UInt8}
    (hframe : packet.length = (headerFields packet).frameLength) :
    nsPacketHeaderSize ≤ packet.length ∧ scan packet ≠ .more := by
  have hheader : nsPacketHeaderSize ≤ packet.length := by
    rw [hframe]
    exact Nat.le_add_right _ _
  refine ⟨hheader, fun hmore => ?_⟩
  rcases scan_more_iff.mp hmore with hshort | ⟨-, hshort⟩
  · exact absurd hheader hshort.not_ge
  · exact absurd hframe hshort.ne

namespace SameStream

variable {stream stream' : List UInt8}

theorem refl (stream : List UInt8) : SameStream stream stream :=
  .last _ _ (.refl stream)

theorem length (hstream : SameStream stream stream') :
    stream.length = stream'.length := by
  induction hstream with
  | last _ _ hsame => exact hsame.length
  | packet _ _ _ _ hsame _ _ ih =>
      rw [List.length_append, List.length_append, hsame.length, ih]

/-- What has arrived of two such streams is two such streams. -/
theorem take (hstream : SameStream stream stream') (count : ℕ) :
    SameStream (stream.take count) (stream'.take count) := by
  induction hstream generalizing count with
  | last _ _ hsame => exact .last _ _ (hsame.take count)
  | packet packet packet' rest rest' hsame hframe _ ih =>
      by_cases hcount : count ≤ packet.length
      · rw [List.take_append_of_le_length hcount,
          List.take_append_of_le_length (hsame.length ▸ hcount)]
        exact .last _ _ (hsame.take count)
      · have hle := Nat.le_of_not_ge hcount
        have hle' : packet'.length ≤ count := hsame.length ▸ hle
        rw [List.take_append, List.take_append, List.take_of_length_le hle,
          List.take_of_length_le hle', ← hsame.length]
        exact .packet _ _ _ _ hsame hframe (ih _)

theorem bodyLen (hstream : SameStream stream stream') :
    (headerFields stream).bodyLen = (headerFields stream').bodyLen := by
  cases hstream with
  | last _ _ hsame => exact hsame.header.2.2
  | packet packet packet' rest rest' hsame hframe hrest =>
      have hheader := (scan_frame hframe).1
      rw [headerFields_append rest hheader,
        headerFields_append rest' (hsame.length ▸ hheader)]
      exact hsame.header.2.2

/-- So is what is left of them after the first frame. -/
theorem drop_frame (hstream : SameStream stream stream') :
    SameStream (stream.drop (headerFields stream).frameLength)
      (stream'.drop (headerFields stream).frameLength) := by
  cases hstream with
  | last _ _ hsame =>
      have hdrop : stream.drop (headerFields stream).frameLength =
          stream'.drop (headerFields stream).frameLength := by
        rw [NsPacketHeader.frameLength, nsPacketHeaderSize,
          show 14 + (headerFields stream).bodyLen.toNat =
            10 + (4 + (headerFields stream).bodyLen.toNat) by omega,
          ← List.drop_drop, hsame.rest, List.drop_drop]
      rw [hdrop]
      exact .refl _
  | packet packet packet' rest rest' hsame hframe hrest =>
      rw [headerFields_append rest (scan_frame hframe).1, ← hframe,
        List.drop_left, hsame.length, List.drop_left]
      exact hrest

theorem scan (hstream : SameStream stream stream') :
    SameScan stream stream' := by
  cases hstream with
  | last _ _ hsame => exact hsame.scan
  | packet packet packet' rest rest' hsame hframe hrest =>
      have hshown := (scan_frame hframe).2
      have hframe' : packet'.length = (headerFields packet').frameLength := by
        rw [← hsame.length, hframe, hsame.frameLength]
      have hscan : NodeSignal.scan (packet ++ rest) =
          NodeSignal.scan packet := scan_append hshown
      have hscan' : NodeSignal.scan (packet' ++ rest') =
          NodeSignal.scan packet' := scan_append (scan_frame hframe').2
      cases hsame.scan with
      | more hmore _ _ => exact absurd hmore hshown
      | refused hrefused hrefused' =>
          exact .refused (hscan.trans hrefused) (hscan'.trans hrefused')
      | packet request request' hrequest hrequest' hsame =>
          exact .packet request request' (hscan.trans hrequest)
            (hscan'.trans hrequest') hsame

end SameStream

/-- What `ns_recv_packet` reports on both streams. -/
inductive SameRead : RecvPacketReport → RecvPacketReport → Prop
  | other (report report' : RecvPacketReport)
      (hresult : report.result = report'.result)
      (hreported : report.reported = report'.reported) :
      SameRead report report'
  | packet (report report' : RecvPacketReport) (packet packet' : NsPacket)
      (hresult : report.result = .ok packet)
      (hresult' : report'.result = .ok packet')
      (hreported : report.reported = report'.reported)
      (hsame : SameRequest packet packet') :
      SameRead report report'

theorem nsRecvPacket_same (socketFd : NsSocket) {sock sock' : RecvSocket}
    (hending : sock.ending = sock'.ending)
    (hstream : SameStream sock.pending sock'.pending) :
    SameRead (nsRecvPacket socketFd sock)
      (nsRecvPacket socketFd sock') := by
  cases hsocket : nsSocketIsValid socketFd with
  | false =>
      apply SameRead.other
      · simp [nsRecvPacket, hsocket]
      · simp [nsRecvPacket, hsocket]
  | true =>
      cases hstream.scan with
      | more hmore hmore' hlength =>
          rcases nsRecvPacket_of_more hsocket sock hmore with ⟨_, hrecv⟩
          rcases nsRecvPacket_of_more hsocket sock' hmore' with ⟨_, hrecv'⟩
          rw [hrecv, hrecv', ← hending, ← hlength]
          cases sock.ending <;> exact .other _ _ rfl rfl
      | refused hrefused hrefused' =>
          rcases nsRecvPacket_of_refused hsocket sock hrefused with
            ⟨_, hrecv⟩
          rcases nsRecvPacket_of_refused hsocket sock' hrefused' with
            ⟨_, hrecv'⟩
          rw [hrecv, hrecv']
          exact .other _ _ rfl rfl
      | packet packet packet' hpacket hpacket' hsame =>
          rcases nsRecvPacket_of_packet hsocket sock hpacket with
            ⟨_, hrecv⟩
          rcases nsRecvPacket_of_packet hsocket sock' hpacket' with
            ⟨_, hrecv'⟩
          rw [hrecv, hrecv']
          exact .packet _ _ packet packet' rfl rfl rfl hsame

/-! ## The handlers do not read the two fields -/

theorem nsServerHandleJoin_same (w : World) (index : SlotIndex)
    {packet packet' : NsPacket} (hsame : SameRequest packet packet')
    (faults : SqliteFaults) :
    nsServerHandleJoin w index packet faults =
      nsServerHandleJoin w index packet' faults := by
  unfold nsServerHandleJoin nsServerJoinValidate nsServerJoinFinalize
    storeUsername
  rw [hsame.bodyLen, hsame.body]

theorem nsServerHandleText_same (w : World) (index : SlotIndex)
    {packet packet' : NsPacket} (hsame : SameRequest packet packet')
    (faults : SqliteFaults) :
    nsServerHandleText w index packet faults =
      nsServerHandleText w index packet' faults := by
  unfold nsServerHandleText nsServerBuildDisplayText
  rw [hsame.bodyLen, hsame.body]

theorem dispatchPacket_same (w : World) (index : SlotIndex)
    {packet packet' : NsPacket} (hsame : SameRequest packet packet')
    (faults : SqliteFaults) :
    dispatchPacket w index packet faults =
      dispatchPacket w index packet' faults := by
  unfold dispatchPacket
  rw [hsame.type, nsServerHandleJoin_same w index hsame,
    nsServerHandleText_same w index hsame]

/-! ## The record without the two fields -/

def Obs.unsigned : Obs → Obs
  | .dispatched connection packet => .dispatched connection packet.unsigned
  | obs => obs

/-- The state of affairs with the two fields erased from the record. -/
def World.unsigned (w : World) : World :=
  { w with trace := w.trace.map Obs.unsigned }

/-- The notes show nothing of what a client sent. -/
def Unmarked (notes : List Obs) : Prop :=
  notes.map Obs.unsigned = notes

section Blindness

variable (w : World) (index : SlotIndex)

theorem unsigned_observe {obs : Obs} (hobs : obs.unsigned = obs) :
    (w.observe obs).unsigned = w.unsigned.observe obs := by
  simp [World.unsigned, World.observe, hobs]

theorem unmarked_closingNotes (client : NsClient) (connection : ℕ) :
    Unmarked (closingNotes client connection) := by
  unfold Unmarked closingNotes
  split_ifs <;> rfl

theorem unsigned_releaseSlot :
    (releaseSlot w index).unsigned = releaseSlot w.unsigned index := by
  have hnotes : (closingNotes (w.clients index) (w.connection index)).map
      Obs.unsigned = closingNotes (w.clients index) (w.connection index) :=
    unmarked_closingNotes _ _
  simp only [releaseSlot, World.unsigned, List.map_append, hnotes]
  rfl

theorem unsigned_appended (packet : NsPacket) (buf : NsSendBuf) :
    (w.appended index packet buf).unsigned =
      w.unsigned.appended index packet buf := by
  simp only [World.appended, World.unsigned, World.observe,
    nsServerUpdatePollEvents, World.setPollFd, List.map_append]
  rfl

theorem unsigned_evicted (packet : NsPacket) :
    (w.evicted index packet).unsigned =
      w.unsigned.evicted index packet := by
  unfold World.evicted
  rw [unsigned_releaseSlot, unsigned_observe, unsigned_observe]
  · rfl
  · rfl
  · rfl

theorem unsigned_nsServerEnqueuePacket (packet : NsPacket) :
    (nsServerEnqueuePacket w index packet).map World.unsigned =
      nsServerEnqueuePacket w.unsigned index packet := by
  by_cases hlen : packet.header.bodyLen.toNat ≤ nsPacketBodyMax
  · rw [nsServerEnqueuePacket_eq _ _ _ hlen,
      nsServerEnqueuePacket_eq _ _ _ hlen]
    have hclients : w.unsigned.clients = w.clients := rfl
    rw [hclients]
    cases nsClientEnqueueSend (w.clients index).sendBuf
        (wireBuffer packet hlen) with
    | none => rfl
    | some buf =>
        exact congrArg some (unsigned_appended w index packet buf)
  · rw [nsServerEnqueuePacket, nsServerEnqueuePacket, dif_neg hlen,
      dif_neg hlen]
    rfl

theorem unsigned_broadcastVisit {packet : NsPacket}
    (hlen : packet.header.bodyLen.toNat ≤ nsPacketBodyMax)
    (excludeIndex : Option SlotIndex) :
    (broadcastVisit nsServerDisconnectClient packet hlen excludeIndex w
        index).unsigned =
      broadcastVisit nsServerDisconnectClient packet hlen excludeIndex
        w.unsigned index := by
  rw [broadcastVisit_eq, broadcastVisit_eq]
  have hclients : w.unsigned.clients = w.clients := rfl
  rw [hclients]
  split
  · cases nsClientEnqueueSend (w.clients index).sendBuf
        (wireBuffer packet hlen) with
    | none => exact unsigned_evicted w index packet
    | some buf => exact unsigned_appended w index packet buf
  · rfl

theorem unsigned_nsServerBroadcast (packet : NsPacket)
    (excludeIndex : Option SlotIndex) :
    (nsServerBroadcast w packet excludeIndex).unsigned =
      nsServerBroadcast w.unsigned packet excludeIndex := by
  rw [nsServerBroadcast_eq, broadcastBody, broadcastBody]
  split
  · next hlen =>
      rw [← unsigned_observe w rfl]
      exact (List.foldl_hom World.unsigned fun v other =>
        (unsigned_broadcastVisit v other hlen excludeIndex).symm).symm
  · rfl

theorem unsigned_nsServerDisconnectClient (announceLeave : Bool) :
    (nsServerDisconnectClient w index announceLeave).unsigned =
      nsServerDisconnectClient w.unsigned index announceLeave := by
  have hclients : w.unsigned.clients = w.clients := rfl
  have hconnection : w.unsigned.connection = w.connection := rfl
  have hdisconnected :
      (w.observe (.disconnected (w.connection index))).unsigned =
        w.unsigned.observe (.disconnected (w.connection index)) :=
    unsigned_observe w rfl
  have htime : nsUnixTimeNow (w.unsigned.observe
      (.disconnected (w.connection index))) =
        nsUnixTimeNow (w.observe (.disconnected (w.connection index))) := rfl
  unfold nsServerDisconnectClient disconnectBody
  simp only [hclients, hconnection, htime]
  split
  · rfl
  rw [unsigned_releaseSlot]
  split
  · split
    · rw [unsigned_nsServerBroadcast]
      exact congrArg (releaseSlot · index) (congrArg
        (nsServerBroadcast · _ (some index)) (congrArg World.tick
          hdisconnected))
    · exact congrArg (releaseSlot · index)
        (congrArg World.tick hdisconnected)
  · exact congrArg (releaseSlot · index) hdisconnected

theorem unsigned_nsServerSendError (message : String) :
    (nsServerSendError w index message).unsigned =
      nsServerSendError w.unsigned index message := by
  have hclients : w.unsigned.clients = w.clients := rfl
  have hconnection : w.unsigned.connection = w.connection := rfl
  have htime : nsUnixTimeNow w.unsigned = nsUnixTimeNow w := rfl
  unfold nsServerSendError
  simp only [hclients, htime]
  split
  · rfl
  split
  · rfl
  · next packet _ =>
      have hrejected :
          (w.tick.observe (.rejected (w.connection index) packet)).unsigned =
            w.unsigned.tick.observe (.rejected (w.connection index) packet) :=
        unsigned_observe w.tick rfl
      simp only [hconnection]
      rw [← hrejected, ← unsigned_nsServerEnqueuePacket]
      cases nsServerEnqueuePacket (w.tick.observe
        (.rejected (w.connection index) packet)) index packet <;> rfl

/-! ## Handlers -/

/-- The result of a handler with the two fields erased from the record. -/
def unsignedResult {α : Type*} (result : α × World) : α × World :=
  (result.1, result.2.unsigned)

@[simp] theorem unsignedResult_mk {α : Type*} (value : α) (v : World) :
    unsignedResult (value, v) = (value, v.unsigned) := rfl

theorem unsigned_nsServerJoinValidate (packet : NsPacket) :
    unsignedResult (nsServerJoinValidate w index packet) =
      nsServerJoinValidate w.unsigned index packet := by
  have hclients : w.unsigned.clients = w.clients := rfl
  have hinUse : nsServerUsernameInUse w.unsigned packet.body index =
      nsServerUsernameInUse w packet.body index := rfl
  unfold nsServerJoinValidate
  rw [hclients, hinUse]
  split_ifs
  · rw [unsignedResult_mk, unsigned_nsServerSendError]
  · rw [unsignedResult_mk, unsigned_nsServerSendError]
  · rw [unsignedResult_mk, unsigned_nsServerSendError]
  · rfl

theorem unsigned_seated (userId : UInt32) (username : List UInt8) :
    (w.seated index userId username).unsigned =
      w.unsigned.seated index userId username :=
  unsigned_observe _ rfl

theorem unsigned_welcomeClient (userId : UInt32)
    (username : List UInt8) :
    unsignedResult (welcomeClient w index userId username) =
      welcomeClient w.unsigned index userId username := by
  unfold welcomeClient
  rw [← unsigned_seated]
  generalize w.seated index userId username = v
  have htime : nsUnixTimeNow v.unsigned = nsUnixTimeNow v := rfl
  have htick : v.unsigned.tick = v.tick.unsigned := rfl
  simp only [htime, htick]
  split
  · rfl
  rw [← unsigned_nsServerEnqueuePacket]
  cases nsServerEnqueuePacket v.tick index _ with
  | none => rfl
  | some after =>
      have htime' : nsUnixTimeNow after.unsigned = nsUnixTimeNow after := rfl
      simp only [Option.map_some, htime']
      split
      · exact congrArg (Prod.mk NsHandle.ok)
          (unsigned_nsServerBroadcast after.tick _ none)
      · rfl

theorem unsigned_nsServerJoinFinalize (packet : NsPacket)
    (faults : SqliteFaults) :
    unsignedResult (nsServerJoinFinalize w index packet faults) =
      nsServerJoinFinalize w.unsigned index packet faults := by
  have hregistered : nsDbGetOrCreateUser w.unsigned.database faults
      w.unsigned.clock packet.body =
        nsDbGetOrCreateUser w.database faults w.clock packet.body := rfl
  unfold nsServerJoinFinalize
  simp only [hregistered]
  split
  · rw [unsignedResult_mk, unsigned_nsServerSendError]
    rfl
  · exact unsigned_welcomeClient _ index _ _

theorem unsigned_nsServerHandleJoin (packet : NsPacket)
    (faults : SqliteFaults) :
    unsignedResult (nsServerHandleJoin w index packet faults) =
      nsServerHandleJoin w.unsigned index packet faults := by
  unfold nsServerHandleJoin
  rw [← unsigned_nsServerJoinValidate]
  rcases nsServerJoinValidate w index packet with ⟨valid, validated⟩
  cases valid with
  | false => rfl
  | true => exact unsigned_nsServerJoinFinalize validated index packet faults

theorem unsigned_nsServerHandleText (packet : NsPacket)
    (faults : SqliteFaults) :
    unsignedResult (nsServerHandleText w index packet faults) =
      nsServerHandleText w.unsigned index packet faults := by
  have hclients : w.unsigned.clients = w.clients := rfl
  have htime : nsUnixTimeNow w.unsigned = nsUnixTimeNow w := rfl
  have htick : w.unsigned.tick = w.tick.unsigned := rfl
  have hdatabase : w.tick.unsigned.database = w.tick.database := rfl
  unfold nsServerHandleText
  simp only [hclients, htime, htick, hdatabase]
  split
  · rw [unsignedResult_mk, unsigned_nsServerSendError]
  split
  · rw [unsignedResult_mk, unsigned_nsServerSendError]
  split
  · rw [unsignedResult_mk, unsigned_nsServerSendError]
  split
  · rw [unsignedResult_mk, unsigned_nsServerSendError]
    rfl
  split
  · rw [unsignedResult_mk, unsigned_nsServerSendError]
    rfl
  · rw [unsignedResult_mk, unsigned_nsServerBroadcast]
    rfl

/-- What the dispatcher makes of the result of a handler. -/
theorem unsigned_conclude (handled : NsHandle × World) :
    (if handled.1 ≠ .ok then
        nsServerDisconnectClient handled.2 index false
      else handled.2).unsigned =
      if (unsignedResult handled).1 ≠ .ok then
        nsServerDisconnectClient (unsignedResult handled).2 index false
      else (unsignedResult handled).2 := by
  rcases handled with ⟨handle, after⟩
  cases handle with
  | ok => rfl
  | disconnect => exact unsigned_nsServerDisconnectClient after index false

theorem unsigned_dispatchPacket (packet : NsPacket)
    (faults : SqliteFaults) :
    (dispatchPacket w index packet faults).unsigned =
      dispatchPacket w.unsigned index packet faults := by
  unfold dispatchPacket
  rw [← unsigned_nsServerHandleJoin, ← unsigned_nsServerHandleText]
  split
  · exact unsigned_conclude index _
  · exact unsigned_conclude index _
  · exact unsigned_nsServerDisconnectClient w index true
  · rw [unsigned_nsServerDisconnectClient, unsigned_nsServerSendError]

/-! ## Events -/

theorem unsigned_reapVisit (now : ℤ) :
    (reapVisit now w index).unsigned = reapVisit now w.unsigned index := by
  have hclients : w.unsigned.clients = w.clients := rfl
  unfold reapVisit
  simp only [hclients]
  split
  · rfl
  split
  · rw [unsigned_nsServerDisconnectClient, unsigned_nsServerSendError]
  · rfl

theorem unsigned_nsServerReapAuthTimeouts :
    (nsServerReapAuthTimeouts w).unsigned =
      nsServerReapAuthTimeouts w.unsigned :=
  (List.foldl_hom World.unsigned fun v index =>
    (unsigned_reapVisit v index _).symm).symm

theorem unsigned_turnDown (connection : ℕ) (socketFd : NsSocket)
    (outcomes : List SendOutcome) :
    (turnDown w connection socketFd outcomes).unsigned =
      turnDown w.unsigned connection socketFd outcomes := by
  have htime : nsUnixTimeNow w.unsigned = nsUnixTimeNow w := rfl
  unfold turnDown
  simp only [htime]
  rw [unsigned_observe _ rfl]
  split
  · rfl
  · rw [unsigned_observe _ rfl]
    rfl

theorem unsigned_nsServerAcceptClient (outcome : AcceptOutcome) :
    (nsServerAcceptClient w outcome).unsigned =
      nsServerAcceptClient w.unsigned outcome := by
  cases outcome with
  | failed errno => rfl
  | connection socketFd outcomes =>
      have hgreeted :
          ({ w with connections := w.connections + 1 }.observe
            (.accepted w.connections socketFd)).unsigned =
          { w.unsigned with connections := w.unsigned.connections + 1 }.observe
            (.accepted w.unsigned.connections socketFd) :=
        unsigned_observe _ rfl
      have hfree : ∀ v : World,
          nsServerFindFreeSlot v.unsigned = nsServerFindFreeSlot v :=
        fun _ => rfl
      unfold nsServerAcceptClient
      dsimp only
      rw [← hgreeted, hfree]
      split_ifs
      · rfl
      split
      · rw [unsigned_turnDown]
        rfl
      · rfl

theorem unsigned_drainSlot (outcomes : List SendOutcome) :
    (drainSlot w index outcomes).1.unsigned =
      (drainSlot w.unsigned index outcomes).1 := by
  have hclients : w.unsigned.clients = w.clients := rfl
  have hflushed : (w.flushed index outcomes).unsigned =
      w.unsigned.flushed index outcomes :=
    congrArg (World.setErrno · _) (unsigned_observe _ rfl)
  unfold drainSlot
  simp only [hclients, ← hflushed]
  split
  · exact unsigned_nsServerDisconnectClient _ index _
  · rfl

end Blindness

/-- The two runs get the same event, or a wakeup that finds bytes which differ
in the two fields only. -/
inductive SameEvent : Event → Event → Prop
  | same (event : Event) : SameEvent event event
  | readable (index : SlotIndex) (sock sock' : RecvSocket)
      (faults : SqliteFaults) (hending : sock.ending = sock'.ending)
      (hstream : SameStream sock.pending sock'.pending) :
      SameEvent (.readable index sock faults) (.readable index sock' faults)

/-- What a readable client leads to, by what was received. -/
def blindRead (v : World) (index : SlotIndex) (faults : SqliteFaults)
    (report : RecvPacketReport) : World :=
  let after := v.setErrno report.reported
  match report.result with
  | .closed => nsServerDisconnectClient after index (v.clients index).joined
  | .error =>
      if after.errno.wouldBlock then after
      else nsServerDisconnectClient after index (v.clients index).joined
  | .ok packet =>
      dispatchPacket
        (after.observe (.dispatched (v.connection index) packet.unsigned))
        index packet faults

theorem blindRead_same (v : World) (index : SlotIndex)
    (faults : SqliteFaults) {report report' : RecvPacketReport}
    (hread : SameRead report report') :
    blindRead v index faults report = blindRead v index faults report' := by
  cases hread with
  | other hresult hreported =>
      unfold blindRead
      rw [hresult, hreported]
  | packet packet packet' hresult hresult' hreported hsame =>
      unfold blindRead
      simp only [hresult, hresult', hreported, hsame.unsigned]
      exact dispatchPacket_same _ index hsame faults

theorem unsigned_readable (w : World) (index : SlotIndex)
    (sock : RecvSocket) (faults : SqliteFaults) :
    (nsServerHandleClientReadable w index sock faults).1.unsigned =
      blindRead w.unsigned index faults
        (nsRecvPacket (w.clients index).socketFd sock) := by
  unfold nsServerHandleClientReadable blindRead
  generalize nsRecvPacket (w.clients index).socketFd sock = report
  have herrno : (w.unsigned.setErrno report.reported).errno =
      (w.setErrno report.reported).errno := rfl
  cases hresult : report.result with
  | closed =>
      simp only [hresult]
      exact unsigned_nsServerDisconnectClient _ index _
  | error =>
      simp only [hresult, herrno]
      split
      · rfl
      · exact unsigned_nsServerDisconnectClient _ index _
  | ok packet =>
      simp only [hresult]
      rw [unsigned_dispatchPacket]
      congr 1
      simp [World.unsigned, World.observe, World.setErrno, Obs.unsigned]

theorem unsigned_step {w w' : World} (hsame : w.unsigned = w'.unsigned)
    {event event' : Event} (hevent : SameEvent event event') :
    (w.step event).unsigned = (w'.step event').unsigned := by
  have hclients : w.clients = w'.clients := by
    have hunsigned : w.unsigned.clients = w'.unsigned.clients := by rw [hsame]
    exact hunsigned
  cases hevent with
  | same =>
      cases event with
      | poll revents =>
          exact congrArg (pollRevents · revents) hsame
      | sweep =>
          have hswept := congrArg nsServerReapAuthTimeouts hsame
          rwa [← unsigned_nsServerReapAuthTimeouts,
            ← unsigned_nsServerReapAuthTimeouts] at hswept
      | accept outcome =>
          have haccepted := congrArg (nsServerAcceptClient · outcome) hsame
          rwa [← unsigned_nsServerAcceptClient,
            ← unsigned_nsServerAcceptClient] at haccepted
      | drain index outcomes =>
          have hdrained := congrArg (fun v => (drainSlot v index outcomes).1)
            hsame
          rw [← unsigned_drainSlot, ← unsigned_drainSlot] at hdrained
          simp only [World.step, ← hclients]
          split
          · exact hdrained
          · exact hsame
      | readable index sock faults =>
          simp only [World.step, ← hclients]
          split
          · rw [unsigned_readable, unsigned_readable, hsame, hclients]
          · exact hsame
      | pollError index =>
          have hgone := congrArg (fun v => nsServerDisconnectClient v index
            (w.clients index).joined) hsame
          rw [← unsigned_nsServerDisconnectClient,
            ← unsigned_nsServerDisconnectClient] at hgone
          simp only [World.step, ← hclients]
          exact hgone
  | readable index sock sock' faults hending hstream =>
      simp only [World.step, ← hclients]
      split
      · rw [unsigned_readable, unsigned_readable, hsame, hclients]
        exact blindRead_same _ index faults
          (nsRecvPacket_same _ hending hstream)
      · exact hsame

theorem received_unsigned (connection : ℕ) (trace : List Obs) :
    received connection (trace.map Obs.unsigned) =
      received connection trace := by
  rw [received, received, List.filterMap_map]
  congr 1
  funext obs
  cases obs <;> rfl

/-! ## Whose id a broadcast carries -/

def Event.slot : Event → Option SlotIndex
  | .drain index _ => some index
  | .readable index _ _ => some index
  | .pollError index => some index
  | _ => none

/-- What was broadcast because of the slot: nothing, or one packet that
carries the id of the slot, from before or from a JOIN just now. -/
inductive Spoken (w : World) (index : SlotIndex) (after : World) : Prop
  | silent (hsilent : broadcasts after.trace = broadcasts w.trace)
  | own (packet : NsPacket) (hjoined : (w.clients index).joined)
      (hsender : packet.header.senderId = (w.clients index).userId)
      (hspoken : broadcasts after.trace = broadcasts w.trace ++ [packet])
  | seated (packet : NsPacket) (name : List UInt8)
      (hseated : .joined (w.connection index) packet.header.senderId name ∈
        after.trace)
      (hspoken : broadcasts after.trace = broadcasts w.trace ++ [packet])

section Speaking

variable {w : World} {index : SlotIndex}

theorem broadcasts_observe {obs : Obs} (hobs : obs.announced = none) :
    broadcasts (w.observe obs).trace = broadcasts w.trace := by
  simp [World.observe, hobs]

theorem spoken_disconnect (w : World) (index : SlotIndex)
    (announceLeave : Bool) :
    Spoken w index (nsServerDisconnectClient w index announceLeave) := by
  cases hactive : (w.clients index).active with
  | false =>
      rw [nsServerDisconnectClient_inactive _ _ _ hactive]
      exact .silent rfl
  | true =>
      rcases nsServerDisconnectClient_cases hactive announceLeave with
        heq | ⟨hjoined, notice, hnotice, heq⟩
      · rw [heq]
        apply Spoken.silent
        rw [World.dropped, broadcasts_release, broadcasts_observe rfl]
      · rw [heq]
        apply Spoken.own notice hjoined (nsPacketSet_eq_some hnotice).2.2.1
        rw [World.departed, broadcasts_release,
          broadcasts_nsServerBroadcast notice (nsPacketSet_bodyLen hnotice),
          broadcasts_observe rfl]

theorem broadcasts_disconnect_silent (w : World) (index : SlotIndex) :
    broadcasts (nsServerDisconnectClient w index false).trace =
      broadcasts w.trace := by
  cases hactive : (w.clients index).active with
  | false => rw [nsServerDisconnectClient_inactive _ _ _ hactive]
  | true =>
      rw [nsServerDisconnectClient_false _ _ hactive, broadcasts_release,
        broadcasts_observe rfl]

theorem broadcasts_nsServerSendError (w : World) (index : SlotIndex)
    (message : String) :
    broadcasts (nsServerSendError w index message).trace =
      broadcasts w.trace := by
  rcases nsServerSendError_cases w index message with
    heq | heq | ⟨packet, hset, heq⟩
  · rw [heq]
  · rw [heq]
    rfl
  · rw [heq]
    exact broadcasts_answered w.tick index (nsPacketSet_bodyLen hset)

/-- What comes before the broadcast does not matter. -/
theorem Spoken.of_same {v after : World} (hspoken : Spoken v index after)
    (hclients : v.clients index = w.clients index)
    (hconnection : v.connection = w.connection)
    (hlog : broadcasts v.trace = broadcasts w.trace) :
    Spoken w index after := by
  cases hspoken with
  | silent hsilent => exact .silent (hsilent.trans hlog)
  | own packet hjoined hsender hspoken =>
      rw [hclients] at hjoined hsender
      exact .own packet hjoined hsender (hlog ▸ hspoken)
  | seated packet name hseated hspoken =>
      exact .seated packet name (hconnection ▸ hseated) (hlog ▸ hspoken)

/-- A handler that has the client disconnected broadcast nothing. -/
def HandlerSpoken (w : World) (index : SlotIndex)
    (handled : NsHandle × World) : Prop :=
  broadcasts handled.2.trace = broadcasts w.trace ∨
    handled.1 = .ok ∧ Spoken w index handled.2

theorem HandlerSpoken.of_same {v : World} {handled : NsHandle × World}
    (hhandled : HandlerSpoken v index handled)
    (hclients : v.clients index = w.clients index)
    (hconnection : v.connection = w.connection)
    (hlog : broadcasts v.trace = broadcasts w.trace) :
    HandlerSpoken w index handled := by
  rcases hhandled with hsilent | ⟨hok, hspoken⟩
  · exact Or.inl (hsilent.trans hlog)
  · exact Or.inr ⟨hok, hspoken.of_same hclients hconnection hlog⟩

theorem HandlerSpoken.concluded {handled : NsHandle × World}
    (hhandled : HandlerSpoken w index handled) :
    Spoken w index
      (if handled.1 ≠ .ok then
        nsServerDisconnectClient handled.2 index false
      else handled.2) := by
  rcases hhandled with hsilent | ⟨hok, hspoken⟩
  · split
    · exact .silent ((broadcasts_disconnect_silent _ index).trans hsilent)
    · exact .silent hsilent
  · rw [if_neg (not_not.mpr hok)]
    exact hspoken

theorem welcomeClient_spoken (hbuf : (w.clients index).sendBuf = .reset)
    (userId : UInt32) (username : List UInt8) :
    HandlerSpoken w index (welcomeClient w index userId username) := by
  rcases welcomeClient_eq hbuf userId username with
    ⟨_, _, ack, notice, hlen, buf, hack, henqueue, hnotice, hwelcome⟩
  rw [hwelcome]
  refine Or.inr ⟨rfl, .seated notice (text username) ?_ ?_⟩
  · rw [nsServerBroadcast_trace notice (nsPacketSet_bodyLen hnotice),
      World.appended_trace, (nsPacketSet_eq_some hnotice).2.2.1]
    simp [World.seated, World.observe]
  · rw [broadcasts_nsServerBroadcast notice (nsPacketSet_bodyLen hnotice),
      World.appended_trace]
    simp [World.seated, World.observe, World.setClient, Obs.announced]

theorem HandlerSpoken.rejected {before : World}
    (hprepared : Prepared w before) (handle : NsHandle) (message : String) :
    HandlerSpoken w index
      (handle, nsServerSendError before index message) := by
  rcases hprepared with ⟨database, clock, rfl⟩
  left
  dsimp only
  rw [broadcasts_nsServerSendError]

theorem nsServerHandleJoin_spoken (hsettled : Settled w)
    (packet : NsPacket) (faults : SqliteFaults) :
    HandlerSpoken w index (nsServerHandleJoin w index packet faults) := by
  have hcases := nsServerHandleJoin_cases w index packet faults
  generalize nsServerHandleJoin w index packet faults = handled at *
  cases hcases with
  | refused message hrefused hfits => exact .rejected ⟨_, _, rfl⟩ _ _
  | unregistered hvalid hunknown => exact .rejected ⟨_, _, rfl⟩ _ _
  | welcomed userId hvalid hknown =>
      have hjoined := (nsServerJoinValidate_eq_true.mp hvalid).1
      have hbuf : ((w.registered faults packet.body).clients
          index).sendBuf = .reset := (hsettled.unjoined index hjoined).1
      exact (welcomeClient_spoken hbuf userId _).of_same rfl rfl rfl

theorem nsServerHandleText_spoken (packet : NsPacket)
    (faults : SqliteFaults) :
    HandlerSpoken w index (nsServerHandleText w index packet faults) := by
  have hcases := nsServerHandleText_cases w index packet faults
  generalize nsServerHandleText w index packet faults = handled at *
  cases hcases with
  | unjoined hjoined => exact .rejected ⟨_, _, rfl⟩ _ _
  | empty hjoined hempty => exact .rejected ⟨_, _, rfl⟩ _ _
  | long hjoined hlen hlong => exact .rejected ⟨_, _, rfl⟩ _ _
  | unstored displayText hjoined hlen hdisplay hstored =>
      exact .rejected ⟨_, _, rfl⟩ _ _
  | broadcast displayText notice hjoined hlen hdisplay hstored hnotice =>
      refine Or.inr ⟨rfl, .own notice hjoined
        (nsPacketSet_eq_some hnotice).2.2.1 ?_⟩
      exact broadcasts_nsServerBroadcast notice
        (nsPacketSet_bodyLen hnotice) none
          (w.stored index faults packet.body)

theorem dispatchPacket_spoken (hsettled : Settled w) (packet : NsPacket)
    (faults : SqliteFaults) :
    Spoken w index (dispatchPacket w index packet faults) := by
  unfold dispatchPacket
  split
  · exact (nsServerHandleJoin_spoken hsettled packet faults).concluded
  · exact (nsServerHandleText_spoken packet faults).concluded
  · exact spoken_disconnect w index true
  · apply Spoken.silent
    rw [broadcasts_disconnect_silent, broadcasts_nsServerSendError]

theorem readable_spoken (hsettled : Settled w) (sock : RecvSocket)
    (faults : SqliteFaults) :
    Spoken w index
      (nsServerHandleClientReadable w index sock faults).1 := by
  have hgone : ∀ reported announceLeave, Spoken w index
      (nsServerDisconnectClient (w.setErrno reported) index
        announceLeave) := by
    intro reported announceLeave
    exact (spoken_disconnect _ index announceLeave).of_same rfl rfl rfl
  unfold nsServerHandleClientReadable
  simp only
  split
  · exact hgone _ _
  · split
    · exact .silent rfl
    · exact hgone _ _
  · next packet _ =>
      have hread : Settled ((w.setErrno (nsRecvPacket
          (w.clients index).socketFd sock).reported).observe
            (.dispatched (w.connection index) packet)) :=
        hsettled.congr rfl rfl
      exact (dispatchPacket_spoken hread packet faults).of_same rfl rfl
        (broadcasts_observe rfl)

theorem drainSlot_spoken (w : World) (index : SlotIndex)
    (outcomes : List SendOutcome) :
    Spoken w index (drainSlot w index outcomes).1 := by
  have hlog : broadcasts (w.flushed index outcomes).trace =
      broadcasts w.trace := by
    simp [World.flushed, World.setErrno, World.observe, World.setClient,
      Obs.announced]
  unfold drainSlot
  simp only
  split
  · cases spoken_disconnect (w.flushed index outcomes) index
        (w.clients index).joined with
    | silent hsilent => exact .silent (hsilent.trans hlog)
    | own packet hjoined hsender hspoken =>
        rw [World.flushed_clients, Function.update_self] at hjoined hsender
        exact .own packet hjoined hsender (hlog ▸ hspoken)
    | seated packet name hseated hspoken =>
        exact .seated packet name hseated (hlog ▸ hspoken)
  · exact .silent hlog

theorem broadcasts_nsServerReapAuthTimeouts (w : World) :
    broadcasts (nsServerReapAuthTimeouts w).trace = broadcasts w.trace := by
  have htick : broadcasts w.tick.trace = broadcasts w.trace := rfl
  unfold nsServerReapAuthTimeouts
  apply List.foldlRecOn (motive := fun after : World =>
    broadcasts after.trace = broadcasts w.trace) _ _ htick
  intro v hv index _
  unfold reapVisit
  simp only
  split
  · exact hv
  · split
    · rw [broadcasts_disconnect_silent, broadcasts_nsServerSendError, hv]
    · exact hv

theorem broadcasts_nsServerAcceptClient (w : World)
    (outcome : AcceptOutcome) :
    broadcasts (nsServerAcceptClient w outcome).trace =
      broadcasts w.trace := by
  rcases nsServerAcceptClient_notes w outcome with ⟨notes, htrace, hnotes⟩
  have hnone : broadcasts notes = [] := by
    apply List.filterMap_eq_nil_iff.mpr
    intro obs hobs
    rcases hnotes obs hobs with
      ⟨connection, socketFd, rfl | ⟨bytes, rfl⟩ | rfl⟩ <;> rfl
  rw [htrace, broadcasts_append, hnone, List.append_nil]

/-- An event broadcasts because of its slot, or not at all. -/
theorem step_spoken (hsettled : Settled w) (event : Event) :
    broadcasts (w.step event).trace = broadcasts w.trace ∨
      ∃ index, event.slot = some index ∧ Spoken w index (w.step event) := by
  cases event with
  | poll revents => exact Or.inl rfl
  | sweep => exact Or.inl (broadcasts_nsServerReapAuthTimeouts w)
  | accept outcome => exact Or.inl (broadcasts_nsServerAcceptClient w outcome)
  | drain index outcomes =>
      refine Or.inr ⟨index, rfl, ?_⟩
      simp only [World.step]
      split
      · exact drainSlot_spoken w index outcomes
      · exact .silent rfl
  | readable index sock faults =>
      refine Or.inr ⟨index, rfl, ?_⟩
      simp only [World.step]
      split
      · exact readable_spoken hsettled sock faults
      · exact .silent rfl
  | pollError index =>
      exact Or.inr ⟨index, rfl, spoken_disconnect w index _⟩

end Speaking

/-- A connection has one identity for good. -/
theorem ChatOrder.joined_unique {w : World} (horder : ChatOrder w)
    {connection : ℕ} {userId userId' : UInt32} {name name' : List UInt8}
    (hjoined : .joined connection userId name ∈ w.trace)
    (hjoined' : .joined connection userId' name' ∈ w.trace) :
    userId' = userId ∧ name' = name := by
  rcases horder.phase connection with hwaiting |
    ⟨index, hactive, hsame, before, life, hsegment⟩ | hover
  · exact absurd hjoined (not_mem_of_noJoin hwaiting.join)
  · rcases hsegment.unique hjoined with ⟨rfl, rfl⟩
    exact hsegment.unique hjoined'
  · cases hover with
    | silent hchat hjoin => exact absurd hjoined (not_mem_of_noJoin hjoin)
    | ended _ _ before life rest hsegment hend =>
        rcases hsegment.unique hjoined with ⟨rfl, rfl⟩
        exact hsegment.unique hjoined'

/-- The server assigned this id to the connection of the slot at its JOIN,
and no other. -/
structure Assigned (w after : World) (index : SlotIndex)
    (userId : UInt32) : Prop where
  joined : ∃ name, .joined (w.connection index) userId name ∈ after.trace
  unique : ∀ userId' name, .joined (w.connection index) userId' name ∈
    after.trace → userId' = userId

/-- What a step broadcasts carries the id of the slot it was broadcast for. -/
theorem step_assigned {w : World} (hsettled : Settled w)
    (horder : ChatOrder w) {event : Event}
    (horder' : ChatOrder (w.step event)) {packets : List NsPacket}
    (hpackets : broadcasts (w.step event).trace =
      broadcasts w.trace ++ packets) :
    ∀ packet ∈ packets, ∃ index, event.slot = some index ∧
      Assigned w (w.step event) index packet.header.senderId := by
  intro packet hpacket
  have hassigned : ∀ {index : SlotIndex} {name : List UInt8},
      .joined (w.connection index) packet.header.senderId name ∈
        (w.step event).trace →
      Assigned w (w.step event) index packet.header.senderId := by
    intro index name hjoined
    refine ⟨⟨name, hjoined⟩, ?_⟩
    intro userId' name' hjoined'
    exact (horder'.joined_unique hjoined hjoined').1
  have hsilent : broadcasts (w.step event).trace ≠ broadcasts w.trace := by
    intro hsame
    rw [hsame, List.self_eq_append_right] at hpackets
    rw [hpackets] at hpacket
    exact absurd hpacket List.not_mem_nil
  rcases step_spoken hsettled event with hsame | ⟨index, hslot, hspoken⟩
  · exact absurd hsame hsilent
  refine ⟨index, hslot, ?_⟩
  cases hspoken with
  | silent hsame => exact absurd hsame hsilent
  | own spoken hjoined hsender hspoken =>
      rw [hpackets, List.append_cancel_left_eq] at hspoken
      rw [hspoken, List.mem_singleton] at hpacket
      subst hpacket
      rcases horder.chatting index (hsettled.active index hjoined) hjoined
        with ⟨before, life, hsegment⟩
      have hmem := hsegment.joined_mem
      rw [← hsender] at hmem
      have hmoves := step_moves hsettled (admitted_anySocket w event)
      exact hassigned ((Moves.trace_grows hmoves).subset hmem)
  | seated spoken name hseated hspoken =>
      rw [hpackets, List.append_cancel_left_eq] at hspoken
      rw [hspoken, List.mem_singleton] at hpacket
      subst hpacket
      exact hassigned hseated

end NodeSignal
