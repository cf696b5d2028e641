import Mathlib.Data.List.Infix
import Mathlib.Tactic

/-!
# Messages on a byte stream

A code whose words are recognized at the front of any stream, whatever
follows them.  Words can then be written one behind the other without
separators: a stream that breaks off still shows its first words, and the
stump behind them shows nothing.
-/

namespace Frames

variable {α μ : Type*}

/-- `decode` reads the message at the front of a stream, if a whole word
stands there. -/
structure Code (α μ : Type*) where
  Valid : μ → Prop
  encode : μ → List α
  decode : List α → Option μ
  decode_encode : ∀ message rest, Valid message →
    decode (encode message ++ rest) = some message
  encode_decode : ∀ stream message, decode stream = some message →
    Valid message ∧ encode message <+: stream
  encode_ne_nil : ∀ message, encode message ≠ []

namespace Code

variable (code : Code α μ)

/-- The words of the messages, one behind the other. -/
def stream (messages : List μ) : List α := messages.flatMap code.encode

@[simp] theorem stream_nil : code.stream [] = [] := rfl

@[simp] theorem stream_cons (message : μ) (messages : List μ) :
    code.stream (message :: messages) =
      code.encode message ++ code.stream messages := rfl

@[simp] theorem stream_append (before after : List μ) :
    code.stream (before ++ after) =
      code.stream before ++ code.stream after :=
  List.flatMap_append

theorem decode_nil : code.decode [] = none := by
  cases hdecode : code.decode [] with
  | none => rfl
  | some message =>
      have hword := (code.encode_decode [] message hdecode).2
      exact absurd (List.prefix_nil.mp hword) (code.encode_ne_nil message)

/-- A message that shows at the front of a stream shows at the front of
every longer one. -/
theorem decode_of_prefix {short long : List α} {message : μ}
    (hbegins : short <+: long) (hdecode : code.decode short = some message) :
    code.decode long = some message := by
  rcases code.encode_decode short message hdecode with ⟨hvalid, hword⟩
  rcases hword.trans hbegins with ⟨rest, rfl⟩
  exact code.decode_encode message rest hvalid

/-- Whatever initial part of a stream has arrived, it is the stream of the
first messages and a stump that shows none. -/
theorem exists_stump {messages : List μ}
    (hvalid : ∀ message ∈ messages, code.Valid message) {arrived : List α}
    (harrived : arrived <+: code.stream messages) :
    ∃ whole stump, whole <+: messages ∧
      arrived = code.stream whole ++ stump ∧ code.decode stump = none := by
  induction messages generalizing arrived with
  | nil =>
      have hnil := List.prefix_nil.mp harrived
      exact ⟨[], [], List.nil_prefix, hnil, code.decode_nil⟩
  | cons message messages ih =>
      rw [List.forall_mem_cons] at hvalid
      cases hdecode : code.decode arrived with
      | none => exact ⟨[], arrived, List.nil_prefix, rfl, hdecode⟩
      | some shown =>
          have hshown := code.decode_of_prefix harrived hdecode
          have hfirst := code.decode_encode message
            (code.stream messages) hvalid.1
          rw [stream_cons, hfirst, Option.some.injEq] at hshown
          subst hshown
          rcases (code.encode_decode arrived message hdecode).2 with
            ⟨later, rfl⟩
          rw [stream_cons, List.prefix_append_right_inj] at harrived
          rcases ih hvalid.2 harrived with
            ⟨whole, stump, hwhole, rfl, hstump⟩
          refine ⟨message :: whole, stump, ?_, ?_, hstump⟩
          · exact List.cons_prefix_cons.mpr ⟨rfl, hwhole⟩
          · rw [stream_cons, List.append_assoc]

/-- The messages that show on an initial part of a stream are the first ones
of the stream. -/
theorem prefix_of_stream_prefix {whole messages : List μ}
    (hwhole : ∀ message ∈ whole, code.Valid message)
    (hvalid : ∀ message ∈ messages, code.Valid message)
    (hbegins : code.stream whole <+: code.stream messages) :
    whole <+: messages := by
  induction whole generalizing messages with
  | nil => exact List.nil_prefix
  | cons shown whole ih =>
      rw [List.forall_mem_cons] at hwhole
      have hshown := code.decode_encode shown (code.stream whole) hwhole.1
      have hthere := code.decode_of_prefix hbegins hshown
      cases messages with
      | nil =>
          rw [stream_nil, decode_nil] at hthere
          exact absurd hthere (by simp)
      | cons message messages =>
          rw [List.forall_mem_cons] at hvalid
          have hfirst := code.decode_encode message
            (code.stream messages) hvalid.1
          rw [stream_cons, hfirst, Option.some.injEq] at hthere
          subst hthere
          rw [stream_cons, stream_cons, List.prefix_append_right_inj]
            at hbegins
          exact List.cons_prefix_cons.mpr
            ⟨rfl, ih hwhole.2 hvalid.2 hbegins⟩

end Code

end Frames
