import Mathlib.Data.List.Basic

/-!
A buffer as the function from positions to cells: the cells that stand in a row
from a position on, and `memcpy` into the buffer. Bounds are the user's matter.
-/

namespace CircleStdlib.ByteMemory

variable {Cell : Type}

def slice (memory : Nat → Cell) (start count : Nat) : List Cell :=
  (List.range' start count).map memory

def write (memory : Nat → Cell) (start : Nat) (cells : List Cell) : Nat → Cell :=
  fun position =>
    if position < start then memory position
    else (cells[position - start]?).getD (memory position)

@[simp]
theorem slice_length (memory : Nat → Cell) (start count : Nat) :
    (slice memory start count).length = count := by
  simp [slice]

@[simp]
theorem slice_zero (memory : Nat → Cell) (start : Nat) : slice memory start 0 = [] := rfl

theorem slice_succ (memory : Nat → Cell) (start count : Nat) :
    slice memory start (count + 1) = memory start :: slice memory (start + 1) count := by
  simp [slice, List.range'_succ]

theorem slice_add (memory : Nat → Cell) (start left right : Nat) :
    slice memory start (left + right) =
      slice memory start left ++ slice memory (start + left) right := by
  simp only [slice, ← List.map_append, List.range'_append_1]

theorem slice_congr (memory other : Nat → Cell) (start place count : Nat)
    (same : ∀ index < count, memory (start + index) = other (place + index)) :
    slice memory start count = slice other place count := by
  apply List.ext_getElem
  · simp
  · intro index left right
    have bound : index < count := by simpa using left
    simpa [slice] using same index bound

theorem slice_write_same (memory : Nat → Cell) (start : Nat) (cells : List Cell) :
    slice (write memory start cells) start cells.length = cells := by
  apply List.ext_getElem
  · simp
  · intro index left right
    have inside : ¬ start + index < start := by omega
    simp [slice, write, inside, List.getElem?_eq_getElem right]

theorem write_before (memory : Nat → Cell) (start position : Nat) (cells : List Cell)
    (before : position < start) : write memory start cells position = memory position := by
  simp [write, before]

theorem write_after (memory : Nat → Cell) (start position : Nat) (cells : List Cell)
    (after : start + cells.length ≤ position) :
    write memory start cells position = memory position := by
  have right : ¬ position < start := by omega
  have beyond : cells[position - start]? = none := List.getElem?_eq_none (by omega)
  simp [write, right, beyond]

theorem slice_write_before (memory : Nat → Cell) (start count position : Nat) (cells : List Cell)
    (before : start + count ≤ position) :
    slice (write memory position cells) start count = slice memory start count := by
  apply slice_congr
  intro index bound
  exact write_before memory position (start + index) cells (by omega)

theorem slice_write_after (memory : Nat → Cell) (start count position : Nat) (cells : List Cell)
    (after : position + cells.length ≤ start) :
    slice (write memory position cells) start count = slice memory start count := by
  apply slice_congr
  intro index bound
  exact write_after memory position (start + index) cells (by omega)

end CircleStdlib.ByteMemory
