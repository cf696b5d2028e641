import NodeSignal.Client
import NodeSignal.ServerMoves

/-!
# Sender names in the transcript

The server puts the name of the sender and a colon in front of a message,
and the client takes what stands before the first colon of a line for the
name.  The two agree for the names without a colon.
-/

namespace NodeSignal

open CStrings

def bytesWhere (tagged : Bool) (spans : List Span) : List UInt8 :=
  (spans.filter fun span => span.tagged = tagged).flatMap Span.bytes

/-- What a client adds to its transcript for a TEXT that the server
accepts. -/
structure Shown (client : NsClient) (packet : NsPacket)
    (spans : List Span) : Prop where
  nonempty : packet.header.bodyLen.toNat ≠ 0
  shown : ∃ displayText senderId timestamp notice,
    nsServerBuildDisplayText client packet (nsPacketBodyMax + 1) =
        some displayText ∧
      nsPacketSet NsPacketType.text.code senderId timestamp
        (some displayText) = some notice ∧
      spans = nsClientAppendLine true notice.body

/-- The tagged piece is the name and the rest is the message. -/
structure SplitsBack (client : NsClient) (packet : NsPacket)
    (spans : List Span) : Prop where
  name : bytesWhere true spans = text client.username
  message : bytesWhere false spans =
    literal ": " ++ text packet.body ++ newline

/-- A name that the server keeps for some JOIN it lets through. -/
def AdmittedName (name : List UInt8) : Prop :=
  ∃ w index packet, packet.Canonical ∧
    packet.header.type = NsPacketType.join.code ∧
    (nsServerJoinValidate w index packet).1 ∧
    name = text (storeUsername NsClient.reset.username packet)

/-! ## Splitting at the first colon -/

section Splitting

variable {name rest : List UInt8}

theorem splits_iff (hzero : 0 ∉ name ++ colon :: rest) :
    bytesWhere true (nsClientAppendLine true (name ++ colon :: rest)) =
          name ∧
        bytesWhere false (nsClientAppendLine true (name ++ colon :: rest)) =
          colon :: rest ++ newline ↔
      colon ∉ name := by
  have hline : name ++ colon :: rest ≠ [] := by simp
  have hfirst := strchr_append hzero
  unfold nsClientAppendLine
  simp only [text_of_zero_notMem hzero, if_neg hline]
  constructor
  · intro hsplit
    split at hsplit
    · next offset hfound =>
        split_ifs at hsplit with hoffset
        · -- the untagged piece starts with the colon right after the name
          have hdrop : (name ++ colon :: rest).drop offset =
              colon :: rest := by
            have happended : (name ++ colon :: rest).drop offset ++ newline =
                colon :: rest ++ newline := by
              simpa [bytesWhere] using hsplit.2
            exact List.append_cancel_right happended
          have hlength := congrArg List.length hdrop
          simp only [List.length_drop, List.length_append,
            List.length_cons] at hlength
          rw [← hfirst, hfound]
          congr 1
          omega
        · have hname : [] = name := by simpa [bytesWhere] using hsplit.1
          rw [← hname]
          exact List.not_mem_nil
    · have hname : [] = name := by simpa [bytesWhere] using hsplit.1
      rw [← hname]
      exact List.not_mem_nil
  · intro hcolon
    rw [hfirst.mpr hcolon]
    cases name with
    | nil => simp [bytesWhere]
    | cons first later => simp [bytesWhere]

theorem flatMap_nsClientAppendLine {line : List UInt8} (hzero : 0 ∉ line)
    (hline : line ≠ []) :
    (nsClientAppendLine true line).flatMap Span.bytes = line ++ newline := by
  unfold nsClientAppendLine
  simp only [text_of_zero_notMem hzero, if_neg hline]
  split
  · next offset _ =>
      split_ifs
      · simp [← List.append_assoc]
      · simp
  · simp

end Splitting

theorem nsClientAppendLine_congr (usernameTag : Bool)
    {left right : List UInt8} (htext : text left = text right) :
    nsClientAppendLine usernameTag left =
      nsClientAppendLine usernameTag right := by
  unfold nsClientAppendLine
  rw [htext]

/-! ## The lines of a client -/

/-- The line that the server builds for a message. -/
def displayLine (client : NsClient) (message : List UInt8) : List UInt8 :=
  text client.username ++ literal ": " ++ message

theorem displayLine_eq (client : NsClient) (message : List UInt8) :
    displayLine client message =
      text client.username ++ colon :: ([32] ++ message) := by
  rw [displayLine, List.append_assoc]
  rfl

theorem zero_notMem_displayLine (client : NsClient)
    {message : List UInt8} (hzero : 0 ∉ message) :
    0 ∉ displayLine client message := by
  have hname := zero_notMem_text client.username
  have hseparator : 0 ∉ literal ": " := by decide
  simp only [displayLine, List.mem_append, not_or]
  exact ⟨⟨hname, hseparator⟩, hzero⟩

section Lines

variable {client : NsClient} {packet : NsPacket} {spans : List Span}

theorem Shown.spans_eq (hshown : Shown client packet spans) :
    spans =
      nsClientAppendLine true (displayLine client (text packet.body)) := by
  rcases hshown.shown with
    ⟨displayText, senderId, timestamp, notice, hbuild, hset, hspans⟩
  have hbody := (nsPacketSet_eq_some hset).2.2.2.2.2
  rw [hspans]
  apply nsClientAppendLine_congr
  rw [hbody.2, text_padded, hbody.1, Option.getD_some,
    (nsServerBuildDisplayText_eq_some hbuild).1]
  exact text_of_zero_notMem (zero_notMem_text _)

/-- A client shows a message that fits. -/
theorem exists_shown (client : NsClient) {message : List UInt8}
    (hzero : 0 ∉ message)
    (hmessage : message ≠ [])
    (hfits : (displayLine client message).length ≤ nsPacketBodyMax) :
    ∃ packet, Shown client packet
      (nsClientAppendLine true (displayLine client message)) := by
  have hline := zero_notMem_displayLine client hzero
  have hshort : message.length ≤ nsPacketBodyMax := by
    refine le_trans ?_ hfits
    simp only [displayLine, List.length_append]
    omega
  rcases nsPacketSet_isSome NsPacketType.text.code 0 0
    ((text_length_le message).trans hshort) with ⟨packet, hset⟩
  rcases nsPacketSet_isSome NsPacketType.text.code 0 0
    ((text_length_le (displayLine client message)).trans hfits) with
    ⟨notice, hnotice⟩
  have hpacket := (nsPacketSet_eq_some hset).2.2.2.2
  have hpayload : packet.payload = message := by
    rw [hpacket.2.1, Option.getD_some, text_of_zero_notMem hzero]
  have hbody : text packet.body = message := by
    rw [hpacket.2.2, text_padded, hpayload, text_of_zero_notMem hzero]
  have hbuild : nsServerBuildDisplayText client packet
      (nsPacketBodyMax + 1) = some (displayLine client message) := by
    have hpieces : [text client.username, literal ": ",
        text packet.body].flatten = displayLine client message := by
      simp [displayLine, hbody]
    have hroom : [text client.username, literal ": ",
        text packet.body].flatten.length < nsPacketBodyMax + 1 := by
      rw [hpieces]
      exact Nat.lt_succ_of_le hfits
    unfold nsServerBuildDisplayText
    rw [if_neg (by simpa only [snprintf, not_le] using hroom),
      snprintf_of_fits hroom, hpieces]
  have hnoticeBody : text notice.body =
      text (displayLine client message) := by
    have hset' := (nsPacketSet_eq_some hnotice).2.2.2.2.2
    rw [hset'.2, text_padded, hset'.1, Option.getD_some,
      text_of_zero_notMem (zero_notMem_text _)]
  refine ⟨packet, ?_, _, 0, 0, notice, hbuild, hnotice,
    nsClientAppendLine_congr true hnoticeBody.symm⟩
  rw [← NsPacket.payload_length hpacket.1, hpayload]
  exact (List.length_pos_of_ne_nil hmessage).ne'

/-- A name and the separator after it. -/
def labelOf (client : NsClient) : List UInt8 :=
  text client.username ++ literal ": "

theorem displayLine_eq_labelOf (client : NsClient)
    (message : List UInt8) :
    displayLine client message = labelOf client ++ message := rfl

/-- If one label starts with the other, the longer name can be imitated. -/
theorem exists_same_line {left right : NsClient}
    (hright : (text right.username).length ≤ nsUsernameMax)
    (hstart : labelOf left <+: labelOf right) :
    ∃ packet packet' spans,
      Shown left packet spans ∧ Shown right packet' spans := by
  rcases hstart with ⟨missing, hlabel⟩
  have hmissing : 0 ∉ missing := by
    intro hmem
    have hlabel' := zero_notMem_displayLine right List.not_mem_nil
    rw [displayLine_eq_labelOf, List.append_nil, ← hlabel] at hlabel'
    exact hlabel' (List.mem_append_right _ hmem)
  have hsame : displayLine left (missing ++ [120]) =
      displayLine right [120] := by
    rw [displayLine_eq_labelOf, displayLine_eq_labelOf, ← hlabel,
      List.append_assoc]
  have hfits : (displayLine right [120]).length ≤ nsPacketBodyMax := by
    have hseparator : (literal ": ").length = 2 := rfl
    simp only [displayLine, List.length_append, hseparator,
      List.length_singleton]
    exact (Nat.add_le_add_right (Nat.add_le_add_right hright _) _).trans
      (by decide)
  have hzero : 0 ∉ missing ++ [120] := by simpa using hmissing
  have hzero' : 0 ∉ [(120 : UInt8)] := by decide
  rcases exists_shown left hzero (by simp) (hsame ▸ hfits) with
    ⟨packet, hshown⟩
  rcases exists_shown right hzero' (by simp) hfits with
    ⟨packet', hshown'⟩
  exact ⟨packet, packet', _, hshown, hsame ▸ hshown'⟩

/-- Two clients can be shown with one and the same line if and only if one
of the two labels starts with the other. -/
theorem exists_same_line_iff {left right : NsClient}
    (hleft : (text left.username).length ≤ nsUsernameMax)
    (hright : (text right.username).length ≤ nsUsernameMax) :
    (∃ packet packet' spans,
        Shown left packet spans ∧ Shown right packet' spans) ↔
      labelOf left <+: labelOf right ∨ labelOf right <+: labelOf left := by
  constructor
  · rintro ⟨packet, packet', spans, hshown, hshown'⟩
    have hspans := hshown.spans_eq.symm.trans hshown'.spans_eq
    have hlines := congrArg (List.flatMap Span.bytes) hspans
    rw [flatMap_nsClientAppendLine
        (zero_notMem_displayLine left (zero_notMem_text _)) (by simp
          [displayLine_eq]),
      flatMap_nsClientAppendLine
        (zero_notMem_displayLine right (zero_notMem_text _)) (by simp
          [displayLine_eq])] at hlines
    have hline := List.append_cancel_right hlines
    rw [displayLine_eq_labelOf, displayLine_eq_labelOf] at hline
    have hright : labelOf right <+: labelOf left ++ text packet.body := by
      rw [hline]
      exact List.prefix_append _ _
    exact List.prefix_or_prefix_of_prefix (List.prefix_append _ _) hright
  · rintro (hstart | hstart)
    · exact exists_same_line hright hstart
    · rcases exists_same_line hleft hstart with
        ⟨packet, packet', spans, hshown, hshown'⟩
      exact ⟨packet', packet, spans, hshown', hshown⟩

theorem AdmittedName.length_le {name : List UInt8}
    (hadmitted : AdmittedName name) : name.length ≤ nsUsernameMax := by
  rcases hadmitted with ⟨w, index, packet, hcanonical, _, hvalid, rfl⟩
  have hlen := (nsServerJoinValidate_eq_true.mp hvalid).2.2.1
  rw [text_storeUsername hcanonical hlen]
  exact text_username_length_le hcanonical hlen

end Lines

/-- The tagged piece is the name of the sender exactly for the names without
a colon, and two different names are never shown with the same line exactly
if neither label starts with the other. -/
theorem sender_names_unambiguous_iff (client : NsClient) :
    (∀ packet spans, Shown client packet spans →
      (SplitsBack client packet spans ↔ colon ∉ text client.username)) ∧
    ∀ other : NsClient, AdmittedName (text client.username) →
      AdmittedName (text other.username) →
      text client.username ≠ text other.username →
      ((∀ packet packet' spans, Shown client packet spans →
          ¬ Shown other packet' spans) ↔
        ¬ labelOf client <+: labelOf other ∧
          ¬ labelOf other <+: labelOf client) := by
  constructor
  · intro packet spans hshown
    have hspans := hshown.spans_eq
    have hzero := zero_notMem_displayLine client
      (zero_notMem_text packet.body)
    rw [displayLine_eq] at hspans hzero
    rw [← splits_iff hzero, hspans]
    exact ⟨fun h => ⟨h.name, h.message⟩, fun h => ⟨h.1, h.2⟩⟩
  · intro other hclient hother _
    have hsame := exists_same_line_iff hclient.length_le hother.length_le
    rw [← not_or, ← hsame]
    simp only [not_exists, not_and]

/-! ## A name with a colon -/

def colonJoin : NsPacket :=
  .filled ⟨nsProtocolVersion, NsPacketType.join.code, 0, 0, 3⟩
    (literal "a:b") (by decide)

theorem nsServerUsernameInUse_boot (tables : Tables)
    (listenSocket : NsSocket) (errno : Errno) (clock : Clock)
    (username : List UInt8) (index : SlotIndex) :
    nsServerUsernameInUse (World.boot tables listenSocket errno clock)
      username index = false :=
  List.any_eq_false.mpr fun _ _ => Bool.false_ne_true

theorem admittedName_colonJoin : AdmittedName (literal "a:b") := by
  have hpayload : colonJoin.payload = literal "a:b" :=
    NsPacket.filled_payload _ _ rfl
  refine ⟨World.boot .empty 3 .eagain fun _ => 0, ⟨0, nsMaxClients_pos⟩,
    colonJoin, ?_, rfl, ?_, by decide⟩
  · exact ⟨rfl, rfl, by decide, by rw [hpayload]; rfl⟩
  · rw [nsServerJoinValidate_eq_true]
    exact ⟨rfl, by decide, by decide,
      nsServerUsernameInUse_boot _ _ _ _ _ _⟩

/-- The client shows "a" for the user "a:b". -/
theorem sender_names_not_always_unambiguous :
    ¬ ∀ client packet spans, AdmittedName (text client.username) →
      Shown client packet spans → SplitsBack client packet spans := by
  intro hall
  have hname : text (literal "a:b") = literal "a:b" := by decide
  have hzero : 0 ∉ literal "x" := by decide
  rcases exists_shown { NsClient.reset with username := literal "a:b" }
    hzero (by decide) (by decide) with ⟨packet, hshown⟩
  have hsplit := (hall _ packet _ (by
    rw [hname]
    exact admittedName_colonJoin) hshown).name
  exact absurd hsplit (by decide)

end NodeSignal
