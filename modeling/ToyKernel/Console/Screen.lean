import ToyKernel.Console.Kprintf
import Mathlib.Logic.Relation

/-!
# The screen, one statement at a time

`put_char`, `kclear` and `set_vga_cursor` as machines, whose loops treat one cell in a round,
together with the ports of the controller that shows the cursor.
-/

namespace ToyKernel
namespace Console

open StateTransition

/-! ## The controller -/

/-- The registers that are read and written through an index port and a data port. -/
structure Crtc where
  index : BitVec 8
  registers : BitVec 8 → BitVec 8

namespace Crtc

/-- `outb`, as far as the ports of the controller are concerned. -/
def outb (crtc : Crtc) (port : BitVec 16) (value : BitVec 8) : Crtc :=
  if port = 0x3D4 then
    { crtc with index := value }
  else if port = 0x3D5 then
    { crtc with registers := Function.update crtc.registers crtc.index value }
  else
    crtc

/-- What `set_vga_cursor` writes. -/
def setLocation (crtc : Crtc) (off : BitVec 32) : Crtc :=
  let crtc := (crtc.outb 0x3D4 0x0F).outb 0x3D5 ((off &&& 0xFF).setWidth 8)
  (crtc.outb 0x3D4 0x0E).outb 0x3D5 ((off.sshiftRight 8 &&& 0xFF).setWidth 8)

/-- Where the controller shows the cursor: the offset of a cell. -/
def location (crtc : Crtc) : BitVec 16 :=
  crtc.registers 0x0E ++ crtc.registers 0x0F

end Crtc

/-- The static data of `common.c` and `vga.c`, with the display and its controller. -/
structure Screen where
  console : State
  crtc : Crtc

/-! ## Statements -/

/-- The points of control of `put_char`, of `kclear` and of `set_vga_cursor`, each before a
statement or before the test of a loop. -/
inductive Work
  /-- The `switch` of `put_char`. -/
  | character (chr : BitVec 8)
  /-- `++display_col == cols`. -/
  | advance
  /-- `display_col = 0`. -/
  | newLine
  /-- `display_row++` and the test of it. -/
  | nextRow
  /-- The loops of `__shift_display_rows` that copy. -/
  | copy (row col : Nat)
  /-- Its loop over the last row. -/
  | erase (col : Nat)
  /-- `display_row--`. -/
  | previousRow
  /-- The loops of `__clear_display`. -/
  | clear (row col : Nat)
  /-- `__set_display_cursor(0, 0)` in `kclear`. -/
  | origin
  /-- `display_row = display_col = 0`. -/
  | home
  /-- `__set_display_cursor(display_row, display_col)`. -/
  | cursor
  /-- The statements of `set_vga_cursor`; `home` stands for what `kclear` does afterwards. -/
  | setCursor (row col : Int) (andHome : Bool)
  | selectLow (off : BitVec 32) (andHome : Bool)
  | writeLow (off : BitVec 32) (andHome : Bool)
  | selectHigh (off : BitVec 32) (andHome : Bool)
  | writeHigh (off : BitVec 32) (andHome : Bool)
  deriving DecidableEq

namespace Screen

/-- Change the memory of the display. -/
def withMemory (screen : Screen) (memory : VideoMemory) : Screen :=
  { screen with console := { screen.console with memory := memory } }

/-- A write to a port. -/
def outb (screen : Screen) (port : BitVec 16) (value : BitVec 8) : Screen :=
  { screen with crtc := screen.crtc.outb port value }

end Screen

namespace Work

/-- One statement; `none` instead of a point ends the function. -/
def perform (screen : Screen) : Work → Option Work × Screen
  | .character chr =>
      if chr = 13 then
        (none, { screen with console := { screen.console with displayCol := 0 } })
      else if chr = 10 then
        (some .newLine, screen)
      else
        (some .advance, screen.withMemory (setDisplayChar screen.console.memory
          screen.console.displayRow screen.console.displayCol chr))
  | .advance =>
      let col := screen.console.displayCol + 1
      (if col = (vgaCols : Int) then some .newLine else none,
        { screen with console := { screen.console with displayCol := col } })
  | .newLine =>
      (some .nextRow, { screen with console := { screen.console with displayCol := 0 } })
  | .nextRow =>
      let row := screen.console.displayRow + 1
      (if row = (vgaRows : Int) then some (.copy 1 0) else none,
        { screen with console := { screen.console with displayRow := row } })
  | .copy row col =>
      if row < vgaRows then
        if col < vgaCols then
          (some (.copy row (col + 1)), screen.withMemory (Function.update screen.console.memory
            (getCell (row - 1) col) (screen.console.memory (getCell row col))))
        else
          (some (.copy (row + 1) 0), screen)
      else
        (some (.erase 0), screen)
  | .erase col =>
      if col < vgaCols then
        (some (.erase (col + 1)),
          screen.withMemory (setDisplayChar screen.console.memory (vgaRows - 1) col 0))
      else
        (some .previousRow, screen)
  | .previousRow =>
      (none, { screen with
        console := { screen.console with displayRow := screen.console.displayRow - 1 } })
  | .clear row col =>
      if row < vgaRows then
        if col < vgaCols then
          (some (.clear row (col + 1)), screen.withMemory
            (Function.update screen.console.memory (getCell row col) blankCell))
        else
          (some (.clear (row + 1) 0), screen)
      else
        (some .origin, screen)
  | .origin => (some (.setCursor 0 0 true), screen)
  | .home =>
      (none, { screen with console := { screen.console with displayRow := 0, displayCol := 0 } })
  | .cursor =>
      (some (.setCursor screen.console.displayRow screen.console.displayCol false), screen)
  | .setCursor row col andHome =>
      (some (.selectLow (BitVec.ofInt 32 (row * vgaCols + col)) andHome),
        { screen with console := setDisplayCursor screen.console row col })
  | .selectLow off andHome => (some (.writeLow off andHome), screen.outb 0x3D4 0x0F)
  | .writeLow off andHome =>
      (some (.selectHigh off andHome), screen.outb 0x3D5 ((off &&& 0xFF).setWidth 8))
  | .selectHigh off andHome => (some (.writeHigh off andHome), screen.outb 0x3D4 0x0E)
  | .writeHigh off andHome =>
      (if andHome then some .home else none,
        screen.outb 0x3D5 ((off.sshiftRight 8 &&& 0xFF).setWidth 8))

/-- One statement of a function that has not ended. -/
def step : Option Work × Screen → Option (Option Work × Screen)
  | (some work, screen) => some (work.perform screen)
  | (none, _) => none

/-- Some statements lead from one point to another. -/
abbrev Runs (before after : Option Work × Screen) : Prop :=
  Reaches step before after

theorem runs_perform (work : Work) (screen : Screen) :
    Runs (some work, screen) (work.perform screen) :=
  .single rfl

/-! ## Loops -/

/-- Rounds of a loop. -/
theorem runs_rounds (point : Nat → Option Work × Screen) (rounds : Nat)
    (round : ∀ k < rounds, step (point k) = some (point (k + 1))) :
    Runs (point 0) (point rounds) := by
  induction rounds with
  | zero => exact .refl
  | succ rounds inductionHypothesis =>
      exact .tail (inductionHypothesis fun k small => round k (Nat.lt_succ_of_lt small))
        (round rounds (Nat.lt_succ_self rounds))

variable (screen : Screen)

theorem copyRow_succ (memory : VideoMemory) (row : Int) (cols : Nat) :
    copyRow memory row (cols + 1) = Function.update (copyRow memory row cols)
      (getCell (row - 1) cols) (copyRow memory row cols (getCell row cols)) := by
  rw [copyRow, List.range_succ, List.foldl_append]
  rfl

theorem clearRow_succ (memory : VideoMemory) (row : Int) (cols : Nat) :
    clearRow memory row (cols + 1) =
      Function.update (clearRow memory row cols) (getCell row cols) blankCell := by
  rw [clearRow, List.range_succ, List.foldl_append]
  rfl

theorem clearLastRow_succ (memory : VideoMemory) (cols : Nat) :
    clearLastRow memory (cols + 1) =
      setDisplayChar (clearLastRow memory cols) (vgaRows - 1) cols 0 := by
  rw [clearLastRow, List.range_succ, List.foldl_append]
  rfl

theorem copyRows_succ (memory : VideoMemory) (rows : Nat) :
    copyRows memory (rows + 1) = copyRow (copyRows memory rows) (rows + 1 : Nat) vgaCols := by
  rw [copyRows, List.range'_concat, List.foldl_append, Nat.one_mul, Nat.add_comm 1]
  rfl

theorem clearRows_succ (memory : VideoMemory) (rows : Nat) :
    clearRows memory (rows + 1) = clearRow (clearRows memory rows) rows vgaCols := by
  rw [clearRows, List.range_succ, List.foldl_append]
  rfl

/-- The inner loop that copies, with the step to the next row. -/
theorem runs_copyRow {row : Nat} (inside : row < vgaRows) (memory : VideoMemory) :
    Runs (some (.copy row 0), screen.withMemory memory)
      (some (.copy (row + 1) 0), screen.withMemory (copyRow memory row vgaCols)) := by
  have rounds := runs_rounds
    (fun col => (some (.copy row col), screen.withMemory (copyRow memory row col))) vgaCols
    fun col small => by
      simp only [step, perform, if_pos inside, if_pos small, copyRow_succ]
      rfl
  refine rounds.tail ?_
  simp only [step, perform, if_pos inside, if_neg (Nat.lt_irrefl vgaCols)]
  rfl

theorem runs_copyRows (memory : VideoMemory) {rows : Nat} (inside : rows < vgaRows) :
    Runs (some (.copy 1 0), screen.withMemory memory)
      (some (.copy (rows + 1) 0), screen.withMemory (copyRows memory rows)) := by
  induction rows with
  | zero => exact .refl
  | succ rows inductionHypothesis =>
      rw [copyRows_succ]
      exact (inductionHypothesis (Nat.lt_of_succ_lt inside)).trans
        (runs_copyRow screen inside _)

/-- The loop over the last row. -/
theorem runs_clearLastRow (memory : VideoMemory) :
    Runs (some (.erase 0), screen.withMemory memory)
      (some .previousRow, screen.withMemory (clearLastRow memory vgaCols)) := by
  have rounds := runs_rounds
    (fun col => (some (.erase col), screen.withMemory (clearLastRow memory col))) vgaCols
    fun col small => by
      simp only [step, perform, if_pos small, clearLastRow_succ]
      rfl
  refine rounds.tail ?_
  simp only [step, perform, if_neg (Nat.lt_irrefl vgaCols)]
  rfl

/-- `__shift_display_rows`. -/
theorem runs_shiftDisplayRows (memory : VideoMemory) :
    Runs (some (.copy 1 0), screen.withMemory memory)
      (some .previousRow, screen.withMemory (shiftDisplayRows memory)) := by
  have copied := runs_copyRows screen memory (Nat.sub_lt (Nat.succ_pos 24) Nat.one_pos)
  refine (copied.tail ?_).trans (runs_clearLastRow screen (copyRows memory (vgaRows - 1)))
  simp only [step, perform]
  rfl

theorem runs_clearRow {row : Nat} (inside : row < vgaRows) (memory : VideoMemory) :
    Runs (some (.clear row 0), screen.withMemory memory)
      (some (.clear (row + 1) 0), screen.withMemory (clearRow memory row vgaCols)) := by
  have rounds := runs_rounds
    (fun col => (some (.clear row col), screen.withMemory (clearRow memory row col))) vgaCols
    fun col small => by
      simp only [step, perform, if_pos inside, if_pos small, clearRow_succ]
      rfl
  refine rounds.tail ?_
  simp only [step, perform, if_pos inside, if_neg (Nat.lt_irrefl vgaCols)]
  rfl

theorem runs_clearRows (memory : VideoMemory) {rows : Nat} (inside : rows ≤ vgaRows) :
    Runs (some (.clear 0 0), screen.withMemory memory)
      (some (.clear rows 0), screen.withMemory (clearRows memory rows)) := by
  induction rows with
  | zero => exact .refl
  | succ rows inductionHypothesis =>
      rw [clearRows_succ]
      exact (inductionHypothesis (Nat.le_of_succ_le inside)).trans
        (runs_clearRow screen inside _)

/-! ## Functions -/

/-- The branch of `put_char` for a new line. -/
theorem runs_newLine :
    Runs (some .newLine, screen)
      (none, { screen with console := Console.newLine screen.console }) := by
  have started : Runs (some .newLine, screen) (perform { screen with
      console := { screen.console with displayCol := 0 } } .nextRow) :=
    .tail (runs_perform .newLine screen) rfl
  by_cases full : screen.console.displayRow + 1 = (vgaRows : Int)
  · simp only [perform, if_pos full] at started
    rw [Console.newLine, if_pos full]
    exact (started.trans (runs_shiftDisplayRows { screen with console := { screen.console with
      displayCol := 0, displayRow := screen.console.displayRow + 1 } }
        screen.console.memory)).tail rfl
  · simp only [perform, if_neg full] at started
    rw [Console.newLine, if_neg full]
    exact started

/-- `put_char`. -/
theorem runs_putChar (chr : BitVec 8) :
    Runs (some (.character chr), screen)
      (none, { screen with console := putChar screen.console chr }) := by
  have started := runs_perform (.character chr) screen
  rw [putChar]
  by_cases carriageReturn : chr = 13
  · rw [if_pos carriageReturn]
    simpa only [perform, if_pos carriageReturn] using started
  rw [if_neg carriageReturn]
  by_cases lineFeed : chr = 10
  · rw [if_pos lineFeed]
    simp only [perform, if_neg carriageReturn, if_pos lineFeed] at started
    exact started.trans (runs_newLine screen)
  rw [if_neg lineFeed]
  simp only [perform, if_neg carriageReturn, if_neg lineFeed] at started
  have advanced := started.trans (runs_perform .advance (screen.withMemory (setDisplayChar
    screen.console.memory screen.console.displayRow screen.console.displayCol chr)))
  by_cases full : screen.console.displayCol + 1 = (vgaCols : Int)
  · have full' : (screen.withMemory (setDisplayChar screen.console.memory
        screen.console.displayRow screen.console.displayCol chr)).console.displayCol + 1 =
          (vgaCols : Int) := full
    simp only [perform, if_pos full'] at advanced
    simp only [if_pos full]
    exact advanced.trans (runs_newLine _)
  · have full' : ¬ (screen.withMemory (setDisplayChar screen.console.memory
        screen.console.displayRow screen.console.displayCol chr)).console.displayCol + 1 =
          (vgaCols : Int) := full
    simp only [perform, if_neg full'] at advanced
    simp only [if_neg full]
    exact advanced

end Work

/-! ## The cursor -/

/-- `set_vga_cursor`. -/
def Screen.setVgaCursor (screen : Screen) (row col : Int) : Screen where
  console := setDisplayCursor screen.console row col
  crtc := screen.crtc.setLocation (BitVec.ofInt 32 (row * vgaCols + col))

/-- `kclear`. -/
def Screen.kclear (screen : Screen) : Screen :=
  let screen := (screen.withMemory (clearDisplay screen.console.memory)).setVgaCursor 0 0
  { screen with console := { screen.console with displayRow := 0, displayCol := 0 } }

/-- `outw` to the index port writes the data port as well. -/
def Screen.outw (screen : Screen) (value : BitVec 16) : Screen :=
  (screen.outb 0x3D4 (value.setWidth 8)).outb 0x3D5 ((value >>> 8).setWidth 8)

/-- `init_vga`, but for the lock. -/
def Screen.initVga (screen : Screen) : Screen :=
  ((screen.outw 0xE0A).outw 0xF0B).kclear

namespace Work

variable (screen : Screen)

theorem runs_setVgaCursor (row col : Int) (andHome : Bool) :
    Runs (some (.setCursor row col andHome), screen)
      (if andHome then some .home else none, screen.setVgaCursor row col) :=
  ((((runs_perform (.setCursor row col andHome) screen).tail rfl).tail rfl).tail rfl).tail rfl

theorem runs_cursor : Runs (some .cursor, screen) (none,
    screen.setVgaCursor screen.console.displayRow screen.console.displayCol) :=
  .head rfl (runs_setVgaCursor screen _ _ false)

theorem runs_kclear : Runs (some (.clear 0 0), screen) (none, screen.kclear) := by
  have cleared := runs_clearRows screen screen.console.memory (le_refl vgaRows)
  exact ((cleared.tail rfl).tail rfl).trans
    ((runs_setVgaCursor (screen.withMemory (clearDisplay screen.console.memory)) 0 0 true).tail
      rfl)

end Work

theorem low_byte (word : BitVec 32) : (word &&& 0xFF).setWidth 8 = word.setWidth 8 := by
  have ones : ∀ i < 8, (0xFF : BitVec 32).getLsbD i = true := by decide
  apply BitVec.eq_of_getLsbD_eq
  intro i inside
  rw [BitVec.getLsbD_setWidth, BitVec.getLsbD_setWidth, BitVec.getLsbD_and, ones i inside,
    Bool.and_true]

/-- The two bytes that are written for an offset make the offset. -/
theorem bytes_of_word (word : BitVec 32) (small : word.toNat < 2 ^ 16) :
    (word.sshiftRight 8 &&& 0xFF).setWidth 8 ++ (word &&& 0xFF).setWidth 8 =
      word.setWidth 16 := by
  have positive : word.msb = false := by
    rw [BitVec.msb_eq_false_iff_two_mul_lt]
    omega
  rw [low_byte, low_byte, BitVec.sshiftRight_eq_of_msb_false positive]
  apply BitVec.eq_of_getLsbD_eq
  intro i inside
  rw [BitVec.getLsbD_append, BitVec.getLsbD_setWidth, BitVec.getLsbD_setWidth,
    BitVec.getLsbD_setWidth, BitVec.getLsbD_ushiftRight]
  by_cases low : i < 8
  · simp [low, inside]
  · have high : i - 8 < 8 := by omega
    have whole : 8 + (i - 8) = i := by omega
    simp [low, high, whole]
    omega

/-- The cursor of the controller is where `set_vga_cursor` puts it. -/
theorem location_setLocation (crtc : Crtc) {row col : Int}
    (rowFits : 0 ≤ row ∧ row < vgaRows) (colFits : 0 ≤ col ∧ col < vgaCols) :
    ((crtc.setLocation (BitVec.ofInt 32 (row * vgaCols + col))).location.toNat : Int) =
      row * vgaCols + col := by
  obtain ⟨off, isOff⟩ := Int.eq_ofNat_of_zero_le (show 0 ≤ row * vgaCols + col by
    simp only [vgaCols] at *
    omega)
  have small : off < 2000 := by
    simp only [vgaRows, vgaCols] at *
    omega
  have word : (BitVec.ofInt 32 (row * vgaCols + col)).toNat = off := by
    rw [isOff, BitVec.ofInt_natCast, BitVec.toNat_ofNat, Nat.mod_eq_of_lt (by omega)]
  have location : (crtc.setLocation (BitVec.ofInt 32 (row * vgaCols + col))).location =
      (BitVec.ofInt 32 (row * vgaCols + col)).setWidth 16 :=
    bytes_of_word _ (by omega)
  rw [location, BitVec.toNat_setWidth, word, Nat.mod_eq_of_lt (by omega), isOff]

end Console
end ToyKernel
