import Mathlib.Data.List.TakeDrop
import Mathlib.Tactic

/-!
# Circular windows over a fixed array

A ring buffer stores a queue in the cells from `head` up to `tail`, reading
on from the front of the array once the end is passed.  The window below is
that queue, written with list slices.  Writing at `tail` appends to the
window and moving `head` takes from its front; the lemmas record exactly
which bounds each of the two needs.
-/

namespace RingWindow

variable {α : Type*}

/-- Overwrite the cells from position `start` on with `source`. -/
def blit (cells : List α) (start : ℕ) (source : List α) : List α :=
  cells.take start ++ source ++ cells.drop (start + source.length)

/-- The cells from `head` up to `tail`, wrapping at the end of the array. -/
def window (cells : List α) (head tail : ℕ) : List α :=
  if head ≤ tail then (cells.drop head).take (tail - head)
  else cells.drop head ++ cells.take tail

@[simp] theorem blit_nil (cells : List α) (start : ℕ) :
    blit cells start [] = cells := by
  simp [blit]

theorem blit_length {cells source : List α} {start : ℕ}
    (hfits : start + source.length ≤ cells.length) :
    (blit cells start source).length = cells.length := by
  simp only [blit, List.length_append, List.length_take, List.length_drop]
  omega

theorem take_blit (cells source : List α) {start : ℕ}
    (hstart : start ≤ cells.length) :
    (blit cells start source).take (start + source.length) =
      cells.take start ++ source := by
  have hlength : (cells.take start ++ source).length =
      start + source.length := by
    simp [hstart]
  rw [blit, ← hlength, List.take_left]

theorem drop_blit_of_le {cells source : List α} {start position : ℕ}
    (hstart : start ≤ cells.length)
    (hposition : start + source.length ≤ position) :
    (blit cells start source).drop position = cells.drop position := by
  have hlength : (cells.take start ++ source).length =
      start + source.length := by
    simp [hstart]
  rw [blit, List.drop_append, hlength, List.drop_drop]
  rw [List.drop_eq_nil_of_le (by rw [hlength]; exact hposition)]
  simp only [List.nil_append]
  congr 1
  omega

theorem drop_blit_of_head_le {cells source : List α} {start position : ℕ}
    (hstart : start ≤ cells.length) (hposition : position ≤ start) :
    (blit cells start source).drop position =
      (cells.drop position).take (start - position) ++ source ++
        cells.drop (start + source.length) := by
  rw [blit, List.append_assoc, List.drop_append_of_le_length (by simp; omega),
    List.drop_take, List.append_assoc]

theorem window_length {cells : List α} {head tail : ℕ}
    (hhead : head ≤ cells.length) (htail : tail ≤ cells.length) :
    (window cells head tail).length =
      if head ≤ tail then tail - head else cells.length - head + tail := by
  unfold window
  split_ifs with hle
  · simp only [List.length_take, List.length_drop]
    omega
  · simp only [List.length_append, List.length_take, List.length_drop]
    omega

/-- With `head` inside the array, an empty window means equal indices. -/
theorem window_eq_nil_iff {cells : List α} {head tail : ℕ}
    (hhead : head < cells.length) (htail : tail ≤ cells.length) :
    window cells head tail = [] ↔ head = tail := by
  rw [← List.length_eq_zero_iff, window_length hhead.le htail]
  split_ifs <;> omega

/-! ## Writing at the tail -/

/-- A write that stays in front of the end of the array and, when the window
is wrapped, strictly behind `head`. -/
theorem window_blit {cells source : List α} {head tail : ℕ}
    (hfits : tail + source.length ≤ cells.length)
    (hroom : head ≤ tail ∨ tail + source.length < head) :
    window (blit cells tail source) head (tail + source.length) =
      window cells head tail ++ source := by
  have htail : tail ≤ cells.length := by omega
  rcases hroom with hle | hlt
  · have hnext : head ≤ tail + source.length := by omega
    have hlength : ((cells.drop head).take (tail - head) ++ source).length =
        tail + source.length - head := by
      simp only [List.length_append, List.length_take, List.length_drop]
      omega
    simp only [window, hle, hnext, if_true]
    rw [drop_blit_of_head_le htail hle, ← hlength, List.take_left]
  · have hwrapped : ¬ head ≤ tail := by omega
    have hnext : ¬ head ≤ tail + source.length := by omega
    simp only [window, hwrapped, hnext, if_false]
    rw [take_blit cells source htail, drop_blit_of_le htail (by omega),
      List.append_assoc]

/-- A write that runs over the end of the array and continues at its front,
staying strictly behind `head`. -/
theorem window_blit_wrap (cells source : List α) {head tail : ℕ}
    (htail : tail ≤ cells.length) (hle : head ≤ tail)
    (hover : cells.length - tail ≤ source.length)
    (hroom : source.length - (cells.length - tail) < head) :
    window
        (blit (blit cells tail (source.take (cells.length - tail))) 0
          (source.drop (cells.length - tail)))
        head (source.length - (cells.length - tail)) =
      window cells head tail ++ source := by
  have hfirst : (source.take (cells.length - tail)).length =
      cells.length - tail := by
    simp only [List.length_take]
    omega
  have hsecond : (source.drop (cells.length - tail)).length =
      source.length - (cells.length - tail) := by
    simp
  have hwrapped :
      ¬ head ≤ source.length - (cells.length - tail) := by omega
  have htake :
      (blit (blit cells tail (source.take (cells.length - tail))) 0
        (source.drop (cells.length - tail))).take
          (source.length - (cells.length - tail)) =
        source.drop (cells.length - tail) := by
    have h := take_blit
      (blit cells tail (source.take (cells.length - tail)))
      (source.drop (cells.length - tail)) (Nat.zero_le _)
    simpa [hsecond] using h
  have hend : cells.drop
      (tail + (source.take (cells.length - tail)).length) = [] := by
    apply List.drop_eq_nil_of_le
    omega
  simp only [window, hwrapped, hle, if_true, if_false]
  rw [htake, drop_blit_of_le (Nat.zero_le _) (by omega),
    drop_blit_of_head_le htail hle, hend, List.append_nil,
    List.append_assoc, List.take_append_drop]

/-! ## Taking from the head -/

/-- The longest run of window cells that are contiguous in the array. -/
def contiguous (size head tail : ℕ) : ℕ :=
  if head < tail then tail - head else size - head

/-- Taking part of the contiguous run moves `head` on, modulo the array
size.  The run must not end at the end of the array while `tail` rests
there as well: `head` would return to the front and find the window full
again. -/
theorem window_advance (cells : List α) {head tail count : ℕ}
    (hhead : head < cells.length) (hne : head ≠ tail)
    (hcount : count ≤ contiguous cells.length head tail)
    (hend : head + count < cells.length ∨ tail < cells.length) :
    window cells head tail =
      (cells.drop head).take count ++
        window cells ((head + count) % cells.length) tail := by
  unfold contiguous at hcount
  rcases Nat.lt_or_ge head tail with hlt | hge
  · have hbound : count ≤ tail - head := by simpa [hlt] using hcount
    have hinside : head + count < cells.length := by omega
    have hnext : head + count ≤ tail := by omega
    rw [Nat.mod_eq_of_lt hinside]
    simp only [window, hlt.le, hnext, if_true]
    rw [← List.drop_drop, show tail - head = count + (tail - (head + count))
      by omega, List.take_add]
  · have hwrapped : ¬ head ≤ tail := by omega
    have hbound : count ≤ cells.length - head := by
      simpa [show ¬ head < tail by omega] using hcount
    rcases Nat.lt_or_ge (head + count) cells.length with hin | hout
    · have hnext : ¬ head + count ≤ tail := by omega
      rw [Nat.mod_eq_of_lt hin]
      simp only [window, hwrapped, hnext, if_false]
      rw [← List.append_assoc, ← List.drop_drop, List.take_append_drop]
    · have hexact : head + count = cells.length := by omega
      have hall : (cells.drop head).take count = cells.drop head := by
        apply List.take_of_length_le
        simp only [List.length_drop]
        omega
      rw [hexact, Nat.mod_self, hall]
      simp [window, hwrapped]

end RingWindow
