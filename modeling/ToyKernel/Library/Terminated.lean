import Mathlib.Algebra.Notation.Defs
import Mathlib.Data.List.Basic

/-!
# Terminated strings

A string in a sequence of cells is a list of cells other than zero that is followed by a
zero.  A loop that reads it cell by cell follows the recursion on the list.
-/

namespace ToyKernel

variable {Cell : Type*} [Zero Cell]

/-- The cells from an offset on are these, and then there is a zero. -/
def IsString (cells : Nat → Cell) : Nat → List Cell → Prop
  | offset, [] => cells offset = 0
  | offset, cell :: text => cells offset = cell ∧ cell ≠ 0 ∧ IsString cells (offset + 1) text

instance decidableIsString [DecidableEq Cell] (cells : Nat → Cell) :
    ∀ offset text, Decidable (IsString cells offset text)
  | offset, [] => inferInstanceAs (Decidable (cells offset = 0))
  | offset, _ :: text =>
      letI : Decidable (IsString cells (offset + 1) text) := decidableIsString cells _ text
      inferInstanceAs (Decidable (_ ∧ _ ∧ _))

namespace IsString

variable {cells other : Nat → Cell} {offset : Nat} {text left right : List Cell} {cell : Cell}

@[simp] theorem nil_iff : IsString cells offset [] ↔ cells offset = 0 := Iff.rfl

@[simp] theorem cons_iff :
    IsString cells offset (cell :: text) ↔
      cells offset = cell ∧ cell ≠ 0 ∧ IsString cells (offset + 1) text := Iff.rfl

/-- The terminator. -/
theorem ends (isString : IsString cells offset text) : cells (offset + text.length) = 0 := by
  induction text generalizing offset with
  | nil => exact isString
  | cons cell text inductionHypothesis =>
      rw [List.length_cons, Nat.add_comm text.length 1, ← Nat.add_assoc]
      exact inductionHypothesis isString.2.2

theorem ne_zero (isString : IsString cells offset text) : ∀ cell ∈ text, cell ≠ 0 := by
  induction text generalizing offset with
  | nil => exact fun _ absent => absurd absent List.not_mem_nil
  | cons first text inductionHypothesis =>
      intro cell present
      rcases List.mem_cons.mp present with rfl | behind
      · exact isString.2.1
      · exact inductionHypothesis isString.2.2 cell behind

/-- The cells of the string. -/
theorem getElem (isString : IsString cells offset text) {i : Nat} (inside : i < text.length) :
    cells (offset + i) = text[i] := by
  induction text generalizing offset i with
  | nil => exact absurd inside (Nat.not_lt_zero i)
  | cons cell text inductionHypothesis =>
      cases i with
      | zero => exact isString.1
      | succ i =>
          rw [← Nat.add_assoc, Nat.add_right_comm]
          exact inductionHypothesis isString.2.2 (Nat.lt_of_succ_lt_succ inside)

/-- The end of a string is a string. -/
theorem behind (isString : IsString cells offset (left ++ right)) :
    IsString cells (offset + left.length) right := by
  induction left generalizing offset with
  | nil => exact isString
  | cons cell left inductionHypothesis =>
      rw [List.length_cons, Nat.add_comm left.length 1, ← Nat.add_assoc]
      exact inductionHypothesis isString.2.2

/-- Only the cells of the string and its terminator matter. -/
theorem congr (isString : IsString cells offset text)
    (same : ∀ i, offset ≤ i → i ≤ offset + text.length → other i = cells i) :
    IsString other offset text := by
  induction text generalizing offset with
  | nil => exact (same offset (Nat.le_refl _) (Nat.le_add_right ..)).trans isString
  | cons cell text inductionHypothesis =>
      rw [List.length_cons] at same
      have here := same offset (Nat.le_refl _) (Nat.le_add_right ..)
      refine ⟨here.trans isString.1, isString.2.1, ?_⟩
      exact inductionHypothesis isString.2.2 fun i low high => same i (by omega) (by omega)

/-- At most one string starts at an offset. -/
theorem unique (isLeft : IsString cells offset left) (isRight : IsString cells offset right) :
    left = right := by
  induction left generalizing offset right with
  | nil =>
      cases right with
      | nil => rfl
      | cons cell right => exact absurd (isRight.1.symm.trans isLeft) isRight.2.1
  | cons cell left inductionHypothesis =>
      cases right with
      | nil => exact absurd (isLeft.1.symm.trans isRight) isLeft.2.1
      | cons second right =>
          rw [← isLeft.1, ← isRight.1, inductionHypothesis isLeft.2.2 isRight.2.2]

/-- A string starts at each offset that is followed by a zero. -/
theorem exists_of_zero {count : Nat} (zero : cells (offset + count) = 0) :
    ∃ text, IsString cells offset text := by
  induction count generalizing offset with
  | zero => exact ⟨[], zero⟩
  | succ count inductionHypothesis =>
      rw [Nat.add_comm count 1, ← Nat.add_assoc] at zero
      obtain ⟨text, isString⟩ := inductionHypothesis zero
      by_cases ended : cells offset = 0
      · exact ⟨[], ended⟩
      · exact ⟨cells offset :: text, rfl, ended, isString⟩

/-- The string of given cells, whose terminator follows. -/
theorem of_getElem (spelled : ∀ i (inside : i < text.length), cells (offset + i) = text[i])
    (notZero : ∀ cell ∈ text, cell ≠ 0) (zero : cells (offset + text.length) = 0) :
    IsString cells offset text := by
  induction text generalizing offset with
  | nil => exact zero
  | cons cell text inductionHypothesis =>
      refine ⟨spelled 0 (Nat.zero_lt_succ _), notZero cell List.mem_cons_self, ?_⟩
      refine inductionHypothesis (fun i inside => ?_)
        (fun other present => notZero other (List.mem_cons_of_mem _ present)) ?_
      · rw [Nat.add_assoc, Nat.add_comm 1 i]
        exact spelled (i + 1) (Nat.succ_lt_succ inside)
      · rw [Nat.add_assoc, Nat.add_comm 1]
        exact zero

end IsString

end ToyKernel
