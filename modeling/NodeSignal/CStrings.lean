import Mathlib.Data.List.TakeWhile
import Mathlib.Tactic

/-!
# C strings inside byte arrays

A C string is whatever precedes the first zero byte of the memory it starts
in.  This file fixes the reading of such memory as a list of bytes, the
truncating formatter `snprintf`, and arrays of a fixed size that hold some
bytes followed by zeros.
-/

namespace CStrings

/-- The bytes of the C string that starts at the head of the memory. -/
def text (memory : List UInt8) : List UInt8 :=
  memory.takeWhile (· ≠ 0)

/-- `strcmp(left, right) == 0`. -/
def sameText (left right : List UInt8) : Bool := text left = text right

/-- `strchr`, with the offset of the byte in place of a pointer. -/
def strchr (memory : List UInt8) (byte : UInt8) : Option ℕ :=
  (text memory).idxOf? byte

/-- The bytes of an ASCII string literal, its terminator left out. -/
def literal (source : String) : List UInt8 :=
  source.toList.map fun character => character.val.toUInt8

/-- What `snprintf` leaves in a buffer of the given size, the terminator left
out, together with the length it returns, which is that of the whole text. -/
def snprintf (size : ℕ) (pieces : List (List UInt8)) :
    List UInt8 × ℕ :=
  (pieces.flatten.take (size - 1), pieces.flatten.length)

/-- An array of the given size that starts with the bytes and is zero after
them. -/
def padded (size : ℕ) (bytes : List UInt8) : List UInt8 :=
  bytes ++ List.replicate (size - bytes.length) 0

theorem padded_length {size : ℕ} {bytes : List UInt8}
    (hfits : bytes.length ≤ size) : (padded size bytes).length = size := by
  simp only [padded, List.length_append, List.length_replicate]
  omega

@[simp] theorem take_padded (size : ℕ) (bytes : List UInt8) :
    (padded size bytes).take bytes.length = bytes := by
  rw [padded, List.take_left]

theorem getElem?_padded {size index : ℕ} {bytes : List UInt8}
    (hpast : bytes.length ≤ index) (hindex : index < size) :
    (padded size bytes)[index]? = some 0 := by
  rw [padded, List.getElem?_append_right hpast, List.getElem?_replicate,
    if_pos (by omega)]

theorem text_length_le (memory : List UInt8) :
    (text memory).length ≤ memory.length :=
  (List.takeWhile_sublist _).length_le

theorem zero_notMem_text (memory : List UInt8) : 0 ∉ text memory := by
  intro hmem
  simpa using List.mem_takeWhile_imp hmem

theorem zero_notMem_of_text_eq {memory before rest : List UInt8}
    (htext : text memory = before ++ rest) : 0 ∉ before := by
  intro hmem
  apply zero_notMem_text memory
  rw [htext]
  exact List.mem_append_left _ hmem

theorem text_of_zero_notMem {bytes : List UInt8} (hzero : 0 ∉ bytes) :
    text bytes = bytes := by
  apply List.takeWhile_eq_self_iff.mpr
  intro byte hmem
  simp only [ne_eq, decide_eq_true_eq]
  rintro rfl
  exact hzero hmem

theorem text_replicate_zero (count : ℕ) :
    text (List.replicate count 0) = [] := by
  cases count <;> simp [text, List.replicate_succ]

@[simp] theorem text_append_zeros (bytes : List UInt8) (count : ℕ) :
    text (bytes ++ List.replicate count 0) = text bytes := by
  induction bytes with
  | nil => exact text_replicate_zero count
  | cons byte rest ih =>
      by_cases hbyte : byte = 0
      · simp [text, hbyte]
      · simpa [text, hbyte] using ih

@[simp] theorem text_padded (size : ℕ) (bytes : List UInt8) :
    text (padded size bytes) = text bytes :=
  text_append_zeros bytes _

@[simp] theorem text_append_zero (bytes rest : List UInt8) :
    text (bytes ++ 0 :: rest) = text bytes := by
  induction bytes with
  | nil => simp [text]
  | cons byte bytes ih =>
      by_cases hbyte : byte = 0
      · simp [text, hbyte]
      · simpa [text, hbyte] using ih

/-- The first occurrence is the end of the part without the byte. -/
theorem strchr_append {name rest : List UInt8} {byte : UInt8}
    (hzero : 0 ∉ name ++ byte :: rest) :
    strchr (name ++ byte :: rest) byte = some name.length ↔
      byte ∉ name := by
  rw [strchr, text_of_zero_notMem hzero, List.idxOf?,
    List.findIdx?_eq_some_iff_getElem]
  constructor
  · rintro ⟨_, _, hbefore⟩ hmem
    rcases List.mem_iff_getElem.mp hmem with ⟨position, hlt, hget⟩
    apply hbefore position hlt
    rw [List.getElem_append_left hlt, hget]
    exact beq_self_eq_true byte
  · intro hbyte
    refine ⟨by simp, by simp, ?_⟩
    intro position hlt hfound
    rw [List.getElem_append_left hlt, beq_iff_eq] at hfound
    exact hbyte (hfound ▸ List.getElem_mem hlt)

theorem snprintf_of_fits {size : ℕ} {pieces : List (List UInt8)}
    (hfits : pieces.flatten.length < size) :
    (snprintf size pieces).1 = pieces.flatten := by
  apply List.take_of_length_le
  omega

end CStrings
