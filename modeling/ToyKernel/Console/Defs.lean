import Mathlib.Logic.Function.Basic

/-!
# The console

`put_char` and `kclear` of `common.c` over the text display of `vga.c`.  The cells of the
display are an array of memory in which rows follow each other; a cell is known by its offset
from `VIDEO_ADDR`.
-/

namespace ToyKernel
namespace Console

/-- `VGA_ROWS`. -/
def vgaRows : Nat := 25

/-- `VGA_COLS`. -/
def vgaCols : Nat := 80

/-- `VGA_BLACK`. -/
def vgaBlack : BitVec 4 := 0

/-- `VGA_LIGHT_GRAY`. -/
def vgaLightGray : BitVec 4 := 7

/-- `struct vga_cell`. -/
structure VgaCell where
  chr : BitVec 8
  fcolor : BitVec 4
  bcolor : BitVec 4
  deriving DecidableEq

/-- The memory from `VIDEO_ADDR` on, by cells. -/
abbrev VideoMemory := Int → VgaCell

/-- The offset of `get_cell(row, col)`. -/
def getCell (row col : Int) : Int :=
  row * vgaCols + col

/-- `__set_display_char`. -/
def setDisplayChar (memory : VideoMemory) (row col : Int) (chr : BitVec 8) : VideoMemory :=
  Function.update memory (getCell row col) { memory (getCell row col) with chr := chr }

/-- The inner loop of `__shift_display_rows`, which copies the first columns of a row to the
row above. -/
def copyRow (memory : VideoMemory) (row : Int) (cols : Nat) : VideoMemory :=
  (List.range cols).foldl
    (fun memory (col : Nat) =>
      Function.update memory (getCell (row - 1) col) (memory (getCell row col)))
    memory

/-- The outer loop of `__shift_display_rows`, which copies rows from row 1 on. -/
def copyRows (memory : VideoMemory) (rows : Nat) : VideoMemory :=
  (List.range' 1 rows).foldl (fun memory (row : Nat) => copyRow memory row vgaCols) memory

/-- The last loop of `__shift_display_rows`, over the first columns of the last row. -/
def clearLastRow (memory : VideoMemory) (cols : Nat) : VideoMemory :=
  (List.range cols).foldl
    (fun memory (col : Nat) => setDisplayChar memory (vgaRows - 1) col 0) memory

/-- `__shift_display_rows`. -/
def shiftDisplayRows (memory : VideoMemory) : VideoMemory :=
  clearLastRow (copyRows memory (vgaRows - 1)) vgaCols

/-- What `__clear_display` stores. -/
def blankCell : VgaCell where
  chr := 0
  fcolor := vgaLightGray
  bcolor := vgaBlack

/-- The inner loop of `__clear_display`. -/
def clearRow (memory : VideoMemory) (row : Int) (cols : Nat) : VideoMemory :=
  (List.range cols).foldl
    (fun memory (col : Nat) => Function.update memory (getCell row col) blankCell) memory

/-- The loop of `__clear_display` over the first rows. -/
def clearRows (memory : VideoMemory) (rows : Nat) : VideoMemory :=
  (List.range rows).foldl (fun memory (row : Nat) => clearRow memory row vgaCols) memory

/-- `__clear_display`. -/
def clearDisplay (memory : VideoMemory) : VideoMemory :=
  clearRows memory vgaRows

/-- The static data of `common.c` and `vga.c`. -/
structure State where
  memory : VideoMemory
  displayRow : Int
  displayCol : Int
  cursorRow : Int
  cursorCol : Int

/-- The branch of `put_char` for a new line, which a full row jumps to as well. -/
def newLine (state : State) : State :=
  let state := { state with displayCol := 0, displayRow := state.displayRow + 1 }
  if state.displayRow = (vgaRows : Int) then
    { state with
      memory := shiftDisplayRows state.memory
      displayRow := state.displayRow - 1 }
  else
    state

/-- `put_char`. -/
def putChar (state : State) (chr : BitVec 8) : State :=
  if chr = 13 then
    { state with displayCol := 0 }
  else if chr = 10 then
    newLine state
  else
    let state :=
      { state with
        memory := setDisplayChar state.memory state.displayRow state.displayCol chr
        displayCol := state.displayCol + 1 }
    if state.displayCol = (vgaCols : Int) then newLine state else state

/-- Calls of `put_char` in sequence. -/
def putChars (state : State) (chars : List (BitVec 8)) : State :=
  chars.foldl putChar state

/-- `kclear`. -/
def kclear (state : State) : State where
  memory := clearDisplay state.memory
  displayRow := 0
  displayCol := 0
  cursorRow := 0
  cursorCol := 0

end Console
end ToyKernel
