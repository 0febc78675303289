import Mathlib.Data.List.Basic

/-!
Owns a memory that is programmed cell by cell: `program` carries out a list of writes, and a power
loss leaves a prefix of them. `program_take` says what is in the memory when an image that starts at
its first cell is cut off.
-/

namespace Thingsee.Support

open List

universe u

variable {α : Type u}

/-- The cells after the writes, each a value and the cell that it goes into. -/
def program (cells : List α) (writes : List (α × Nat)) : List α :=
  writes.foldl (fun cells write => cells.set write.2 write.1) cells

@[simp] theorem program_nil (cells : List α) : program cells [] = cells := rfl

@[simp] theorem length_program (cells : List α) (writes : List (α × Nat)) :
    (program cells writes).length = cells.length := by
  induction writes generalizing cells with
  | nil => rfl
  | cons write rest ih =>
    exact (ih (cells.set write.2 write.1)).trans length_set

variable (values : List α) (start : Nat) {cells : List α}

theorem program_zipIdx (room : start + values.length ≤ cells.length) :
    program cells (values.zipIdx start) =
      cells.take start ++ values ++ cells.drop (start + values.length) := by
  induction values generalizing start cells with
  | nil => simp
  | cons value rest ih =>
    rw [length_cons] at room
    have inside : start < cells.length := by omega
    rw [zipIdx_cons]
    change program (cells.set start value) (rest.zipIdx (start + 1)) = _
    rw [ih (start + 1) (by rw [length_set]; omega)]
    have front : (cells.set start value).take (start + 1) = cells.take start ++ [value] := by
      rw [set_eq_take_append_cons_drop, if_pos inside, take_append,
        take_of_length_le (by rw [length_take]; omega), length_take,
        Nat.min_eq_left (Nat.le_of_lt inside), Nat.add_sub_cancel_left, take_succ_cons, take_zero]
    have behind : (cells.set start value).drop (start + 1 + rest.length) =
        cells.drop (start + 1 + rest.length) :=
      drop_set_of_lt (by omega)
    rw [front, behind, length_cons, append_assoc (cells.take start), Nat.add_assoc start,
      Nat.add_comm 1]
    rfl

theorem take_zipIdx (count : Nat) :
    (values.zipIdx start).take count = (values.take count).zipIdx start := by
  induction values generalizing start count with
  | nil => simp
  | cons value rest ih =>
    cases count with
    | zero => rfl
    | succ count =>
      rw [zipIdx_cons, take_succ_cons, take_succ_cons, zipIdx_cons,
        ih]

theorem program_take (image : List α) (count : Nat) (room : image.length ≤ cells.length) :
    program cells ((image.zipIdx 0).take count) =
      image.take count ++ cells.drop (image.take count).length := by
  have shorter : (image.take count).length ≤ image.length := length_take_le' count image
  rw [take_zipIdx, program_zipIdx (image.take count) 0 (by omega), take_zero,
    nil_append, Nat.zero_add]

end Thingsee.Support
