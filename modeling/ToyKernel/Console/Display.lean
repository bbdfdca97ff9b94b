import ToyKernel.Console.Defs
import Mathlib.Algebra.Order.Ring.Int

/-!
# The display, cell by cell

What the loops of `vga.c` leave in each cell.  A row is an interval of offsets, so the inner
loops treat an interval, and the outer ones the intervals of rows that follow each other.
-/

namespace ToyKernel
namespace Console

/-- A loop that stores upwards from a start, and takes what it stores from the same cell or
from one ahead, treats each cell of an interval once. -/
theorem foldl_update_range {α : Type*} (change : α → α) (start : Int) (ahead count : Nat)
    (memory : Int → α) (offset : Int) :
    (List.range count).foldl (fun memory (k : Nat) =>
        Function.update memory (start + k) (change (memory (start + k + ahead))))
      memory offset =
      if start ≤ offset ∧ offset < start + count then change (memory (offset + ahead))
      else memory offset := by
  induction count generalizing offset with
  | zero =>
      have empty : ¬ (start ≤ offset ∧ offset < start + (0 : Nat)) := by omega
      rw [if_neg empty]
      rfl
  | succ count inductionHypothesis =>
      rw [List.range_succ, List.foldl_append, List.foldl_cons, List.foldl_nil]
      by_cases last : offset = start + count
      · subst last
        have unread : ¬ (start ≤ start + (count : Int) + ahead ∧
            start + (count : Int) + ahead < start + count) := by omega
        have stored : start ≤ start + (count : Int) ∧
            start + (count : Int) < start + (count + 1 : Nat) := by omega
        rw [Function.update_self, inductionHypothesis, if_neg unread, if_pos stored]
      · rw [Function.update_of_ne last, inductionHypothesis]
        congr 1
        apply propext
        omega

variable (memory : VideoMemory)

/-- The first offset of a row. -/
def rowStart (row : Int) : Int := row * vgaCols

theorem getCell_eq (row col : Int) : getCell row col = rowStart row + col := rfl

theorem rowStart_succ (rows : Nat) : rowStart (rows + 1 : Nat) = rowStart rows + vgaCols := by
  simp only [rowStart, vgaCols]
  omega

theorem rowStart_nonneg (rows : Nat) : 0 ≤ rowStart rows := by
  simp only [rowStart, vgaCols]
  omega

/-- Copying columns of a row changes an interval of the row above. -/
theorem copyRow_apply (row : Int) (cols : Nat) (offset : Int) :
    copyRow memory row cols offset =
      if rowStart (row - 1) ≤ offset ∧ offset < rowStart (row - 1) + cols then
        memory (offset + vgaCols)
      else memory offset := by
  have source (col : Nat) : rowStart row + col = rowStart (row - 1) + col + vgaCols := by
    simp only [rowStart, vgaCols]
    omega
  simp only [copyRow, getCell_eq, source]
  exact foldl_update_range id (rowStart (row - 1)) vgaCols cols memory offset

/-- Copying rows moves what lies below the first row up by one row. -/
theorem copyRows_apply (rows : Nat) (offset : Int) :
    copyRows memory rows offset =
      if 0 ≤ offset ∧ offset < rowStart rows then memory (offset + vgaCols)
      else memory offset := by
  induction rows generalizing offset with
  | zero =>
      have empty : ¬ (0 ≤ offset ∧ offset < rowStart (0 : Nat)) := by
        simp only [rowStart]
        omega
      rw [if_neg empty]
      rfl
  | succ rows inductionHypothesis =>
      have next : copyRows memory (rows + 1) =
          copyRow (copyRows memory rows) (1 + rows : Nat) vgaCols := by
        simp [copyRows, List.range'_concat]
      have above : rowStart ((1 + rows : Nat) - 1) = rowStart rows := by
        simp [rowStart]
      have after : rowStart (rows + 1 : Nat) = rowStart rows + vgaCols := rowStart_succ rows
      have start : 0 ≤ rowStart rows := rowStart_nonneg rows
      rw [next, copyRow_apply, above, after]
      by_cases last : rowStart rows ≤ offset ∧ offset < rowStart rows + vgaCols
      · rw [if_pos last, inductionHypothesis, if_neg (by omega), if_pos (by omega)]
      · rw [if_neg last, inductionHypothesis]
        congr 1
        apply propext
        omega

/-- Clearing columns of the last row clears their characters. -/
theorem clearLastRow_apply (cols : Nat) (offset : Int) :
    clearLastRow memory cols offset =
      if rowStart (vgaRows - 1) ≤ offset ∧ offset < rowStart (vgaRows - 1) + cols then
        { memory offset with chr := 0 }
      else memory offset := by
  have loop := foldl_update_range (fun cell : VgaCell => { cell with chr := 0 })
    (rowStart (vgaRows - 1)) 0 cols memory offset
  simpa only [clearLastRow, setDisplayChar, getCell_eq, Int.ofNat_zero, Int.add_zero] using loop

/-- `__shift_display_rows` moves all rows up by one and leaves no characters in the last. -/
theorem shiftDisplayRows_chr {row col : Int} (rowFits : 0 ≤ row ∧ row < vgaRows)
    (colFits : 0 ≤ col ∧ col < vgaCols) :
    (shiftDisplayRows memory (getCell row col)).chr =
      if row + 1 < vgaRows then (memory (getCell (row + 1) col)).chr else 0 := by
  rw [shiftDisplayRows, clearLastRow_apply, copyRows_apply]
  by_cases notLast : row + 1 < vgaRows
  · have outside : ¬ (rowStart (vgaRows - 1) ≤ getCell row col ∧
        getCell row col < rowStart (vgaRows - 1) + vgaCols) := by
      simp only [getCell, rowStart, vgaRows, vgaCols] at *
      omega
    have inside : 0 ≤ getCell row col ∧ getCell row col < rowStart (vgaRows - 1 : Nat) := by
      simp only [getCell, rowStart, vgaRows, vgaCols] at *
      omega
    have below : getCell row col + vgaCols = getCell (row + 1) col := by
      simp only [getCell, vgaCols]
      omega
    rw [if_neg outside, if_pos inside, if_pos notLast, below]
  · have inside : rowStart (vgaRows - 1) ≤ getCell row col ∧
        getCell row col < rowStart (vgaRows - 1) + vgaCols := by
      simp only [getCell, rowStart, vgaRows, vgaCols] at *
      omega
    rw [if_pos inside, if_neg notLast]

/-- Clearing columns of a row blanks an interval of it. -/
theorem clearRow_apply (row : Int) (cols : Nat) (offset : Int) :
    clearRow memory row cols offset =
      if rowStart row ≤ offset ∧ offset < rowStart row + cols then blankCell
      else memory offset :=
  foldl_update_range (fun _ => blankCell) (rowStart row) 0 cols memory offset

/-- Clearing rows blanks the start of the display. -/
theorem clearRows_apply (rows : Nat) (offset : Int) :
    clearRows memory rows offset =
      if 0 ≤ offset ∧ offset < rowStart rows then blankCell else memory offset := by
  induction rows generalizing offset with
  | zero =>
      have empty : ¬ (0 ≤ offset ∧ offset < rowStart (0 : Nat)) := by
        simp only [rowStart]
        omega
      rw [if_neg empty]
      rfl
  | succ rows inductionHypothesis =>
      have next : clearRows memory (rows + 1) =
          clearRow (clearRows memory rows) rows vgaCols := by
        simp [clearRows, List.range_succ]
      have after : rowStart (rows + 1 : Nat) = rowStart rows + vgaCols := rowStart_succ rows
      have start : 0 ≤ rowStart rows := rowStart_nonneg rows
      rw [next, clearRow_apply, after]
      by_cases last : rowStart rows ≤ offset ∧ offset < rowStart rows + vgaCols
      · rw [if_pos last, if_pos (by omega)]
      · rw [if_neg last, inductionHypothesis]
        congr 1
        apply propext
        omega

/-- `__clear_display` blanks all cells of the display. -/
theorem clearDisplay_apply {row col : Int} (rowFits : 0 ≤ row ∧ row < vgaRows)
    (colFits : 0 ≤ col ∧ col < vgaCols) :
    clearDisplay memory (getCell row col) = blankCell := by
  rw [clearDisplay, clearRows_apply, if_pos]
  simp only [getCell, rowStart, vgaRows, vgaCols] at *
  omega

/-- `__set_display_char` changes one character of the display. -/
theorem setDisplayChar_chr {row col otherRow otherCol : Int} (chr : BitVec 8)
    (colFits : 0 ≤ col ∧ col < vgaCols) (otherFits : 0 ≤ otherCol ∧ otherCol < vgaCols) :
    (setDisplayChar memory row col chr (getCell otherRow otherCol)).chr =
      if otherRow = row ∧ otherCol = col then chr
      else (memory (getCell otherRow otherCol)).chr := by
  have same : getCell otherRow otherCol = getCell row col ↔ otherRow = row ∧ otherCol = col := by
    simp only [getCell, vgaCols] at *
    omega
  rw [setDisplayChar, Function.update_apply]
  by_cases hit : otherRow = row ∧ otherCol = col
  · rw [if_pos (same.mpr hit), if_pos hit]
  · rw [if_neg (mt same.mp hit), if_neg hit]

end Console
end ToyKernel
