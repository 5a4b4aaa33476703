import Mathlib.Algebra.Ring.Nat
import Mathlib.Data.List.Basic

set_option autoImplicit false

/- A circular buffer with a reading and a writing index, and the bounded queue it stands for. One cell stays unused, so
   that equal indices mean an empty buffer. -/
namespace Circular

variable {Item : Type}

def occupied (size rd wr : Nat) : Nat := (wr + size - rd) % size

def contents (size : Nat) (cells : Nat → Item) (rd wr : Nat) : List Item :=
  (List.range (occupied size rd wr)).map fun offset => cells ((rd + offset) % size)

-- The queue keeps what came last.
def newest (limit : Nat) (queue : List Item) : List Item := queue.drop (queue.length - limit)

variable (size rd wr : Nat) (readable : rd < size) (writable : wr < size)
include readable writable

theorem occupied_cases : (rd ≤ wr ∧ occupied size rd wr = wr - rd) ∨ (wr < rd ∧ occupied size rd wr = wr + size - rd) := by
  by_cases ordered : rd ≤ wr
  · have value : wr + size - rd = wr - rd + size := by omega
    refine Or.inl ⟨ordered, ?_⟩
    rw [occupied, value, Nat.add_mod_right]
    exact Nat.mod_eq_of_lt (by omega)
  · refine Or.inr ⟨by omega, ?_⟩
    exact Nat.mod_eq_of_lt (by omega)

theorem occupied_bound : occupied size rd wr ≤ size - 1 := by
  have cases := occupied_cases size rd wr readable writable
  omega

theorem occupied_empty : occupied size rd wr = 0 ↔ rd = wr := by
  have cases := occupied_cases size rd wr readable writable
  omega

omit readable writable in
theorem next_index (index : Nat) (bound : index < size) :
    (index + 1) % size = if index + 1 = size then 0 else index + 1 := by
  by_cases last : index + 1 = size
  · rw [if_pos last, last, Nat.mod_self]
  · rw [if_neg last]
    exact Nat.mod_eq_of_lt (by omega)

theorem occupied_after_read (filled : rd ≠ wr) : occupied size rd wr = occupied size ((rd + 1) % size) wr + 1 := by
  have next := next_index size rd readable
  have inside : (rd + 1) % size < size := Nat.mod_lt _ (by omega)
  have before := occupied_cases size rd wr readable writable
  have after := occupied_cases size ((rd + 1) % size) wr inside writable
  rw [next] at after ⊢
  split at after
  · rw [if_pos (by assumption)]
    omega
  · rw [if_neg (by assumption)]
    omega

theorem occupied_after_write (room : (wr + 1) % size ≠ rd) :
    occupied size rd ((wr + 1) % size) = occupied size rd wr + 1 := by
  have next := next_index size wr writable
  have inside : (wr + 1) % size < size := Nat.mod_lt _ (by omega)
  have before := occupied_cases size rd wr readable writable
  have after := occupied_cases size rd ((wr + 1) % size) readable inside
  rw [next] at after room ⊢
  split at after
  · rw [if_pos (by assumption)] at room ⊢
    omega
  · rw [if_neg (by assumption)] at room ⊢
    omega

theorem occupied_full : (wr + 1) % size = rd ↔ occupied size rd wr = size - 1 := by
  have next := next_index size wr writable
  have before := occupied_cases size rd wr readable writable
  rw [next]
  split <;> omega

-- The cell behind the last one occupied is the one that the writer fills.
theorem write_index : (rd + occupied size rd wr) % size = wr := by
  rcases occupied_cases size rd wr readable writable with ⟨ordered, value⟩ | ⟨wrapped, value⟩
  · rw [value, show rd + (wr - rd) = wr by omega]
    exact Nat.mod_eq_of_lt writable
  · rw [value, show rd + (wr + size - rd) = wr + size by omega, Nat.add_mod_right]
    exact Nat.mod_eq_of_lt writable

theorem occupied_offset (offset : Nat) (bound : offset < occupied size rd wr) :
    (rd + offset) % size ≠ wr := by
  rcases occupied_cases size rd wr readable writable with ⟨ordered, value⟩ | ⟨wrapped, value⟩
  · rw [Nat.mod_eq_of_lt (by omega)]
    omega
  · by_cases low : rd + offset < size
    · rw [Nat.mod_eq_of_lt low]
      omega
    · rw [Nat.mod_eq_sub_mod (by omega), Nat.mod_eq_of_lt (by omega)]
      omega

omit readable writable in
@[simp] theorem contents_length (cells : Nat → Item) : (contents size cells rd wr).length = occupied size rd wr := by
  simp [contents]

theorem contents_empty (cells : Nat → Item) (empty : rd = wr) : contents size cells rd wr = [] := by
  have none := (occupied_empty size rd wr readable writable).mpr empty
  rw [contents, none]
  rfl

theorem contents_read (cells : Nat → Item) (filled : rd ≠ wr) :
    contents size cells rd wr = cells rd :: contents size cells ((rd + 1) % size) wr := by
  rw [contents, occupied_after_read size rd wr readable writable filled, List.range_succ_eq_map, List.map_cons, List.map_map]
  congr 1
  · exact congrArg cells (Nat.mod_eq_of_lt readable)
  · apply List.map_congr_left
    intro offset _
    show cells ((rd + (offset + 1)) % size) = cells (((rd + 1) % size + offset) % size)
    rw [Nat.mod_add_mod, Nat.add_right_comm, Nat.add_assoc]

theorem contents_write (cells : Nat → Item) (item : Item) (room : (wr + 1) % size ≠ rd) :
    contents size (fun index => if index = wr then item else cells index) rd ((wr + 1) % size) =
      contents size cells rd wr ++ [item] := by
  rw [contents, occupied_after_write size rd wr readable writable room, List.range_succ, List.map_append, List.map_singleton]
  congr 1
  · apply List.map_congr_left
    intro offset member
    exact if_neg (occupied_offset size rd wr readable writable offset (List.mem_range.mp member))
  · rw [if_pos (write_index size rd wr readable writable)]

omit readable writable
variable (limit : Nat)

@[simp] theorem newest_length (queue : List Item) : (newest limit queue).length = min queue.length limit := by
  rw [newest, List.length_drop]
  omega

theorem newest_whole (queue : List Item) (fits : queue.length ≤ limit) : newest limit queue = queue := by
  rw [newest, Nat.sub_eq_zero_of_le fits, List.drop_zero]

-- What is dropped early would have been dropped late.
theorem newest_append (queue more : List Item) : newest limit (newest limit queue ++ more) = newest limit (queue ++ more) := by
  have cut : queue.length - limit ≤ queue.length := Nat.sub_le _ _
  rw [newest, newest, newest, ← List.drop_append_of_le_length cut, List.drop_drop, List.length_drop]
  congr 1
  simp only [List.length_append]
  omega

end Circular
