import ToyKernel.Console.Display

/-!
# The console shows the tail of the transcript

A terminal with rows without end is the reference.  The display shows the last rows of what
was typed on it, and its cursor is at the place of the terminal's.
-/

namespace ToyKernel
namespace Console

/-! ### The reference terminal -/

/-- A terminal with as many rows as it needs; cells without a character hold zero. -/
structure Terminal where
  cells : Nat → Nat → BitVec 8
  row : Nat
  col : Nat

namespace Terminal

/-- A terminal on which nothing has been typed. -/
def blank : Terminal where
  cells := fun _ _ => 0
  row := 0
  col := 0

/-- Go to the start of the next row. -/
def nextRow (terminal : Terminal) : Terminal :=
  { terminal with row := terminal.row + 1, col := 0 }

/-- Store a character at the cursor. -/
def store (terminal : Terminal) (chr : BitVec 8) : Terminal :=
  { terminal with
    cells := fun row col =>
      if row = terminal.row ∧ col = terminal.col then chr else terminal.cells row col }

/-- Type a character. -/
def type (terminal : Terminal) (chr : BitVec 8) : Terminal :=
  if chr = 13 then
    { terminal with col := 0 }
  else if chr = 10 then
    terminal.nextRow
  else if terminal.col + 1 = vgaCols then
    (terminal.store chr).nextRow
  else
    { terminal.store chr with col := terminal.col + 1 }

/-- The terminal after a transcript. -/
def typed (chars : List (BitVec 8)) : Terminal :=
  chars.foldl type blank

/-- The first row that a display of `vgaRows` rows shows. -/
def top (terminal : Terminal) : Nat :=
  terminal.row - (vgaRows - 1)

/-- The cursor is within the columns, and nothing is below it. -/
structure Tidy (terminal : Terminal) : Prop where
  colFits : terminal.col < vgaCols
  unwritten : ∀ row col, terminal.row < row → terminal.cells row col = 0

theorem vgaCols_pos : 0 < vgaCols := by
  decide

theorem tidy_blank : Tidy blank :=
  ⟨vgaCols_pos, fun _ _ _ => rfl⟩

/-- Storing a character writes nothing below the cursor. -/
theorem Tidy.store {terminal : Terminal} (tidy : Tidy terminal) (chr : BitVec 8) :
    Tidy (terminal.store chr) := by
  refine ⟨tidy.colFits, ?_⟩
  intro row col below
  have elsewhere : ¬ (row = terminal.row ∧ col = terminal.col) := by
    rintro ⟨rfl, -⟩
    exact absurd below (Nat.lt_irrefl _)
  exact (if_neg elsewhere).trans (tidy.unwritten row col below)

theorem Tidy.nextRow {terminal : Terminal} (tidy : Tidy terminal) : Tidy terminal.nextRow :=
  ⟨vgaCols_pos, fun row col below => tidy.unwritten row col (Nat.lt_of_succ_lt below)⟩

/-- Typing keeps a terminal tidy. -/
theorem Tidy.type {terminal : Terminal} (tidy : Tidy terminal) (chr : BitVec 8) :
    Tidy (terminal.type chr) := by
  rw [Terminal.type]
  split
  · exact ⟨vgaCols_pos, tidy.unwritten⟩
  · split
    · exact tidy.nextRow
    · split
      · exact (tidy.store chr).nextRow
      · have colFits := tidy.colFits
        exact ⟨by simp only; omega, (tidy.store chr).unwritten⟩

end Terminal

/-! ### The display shows its last rows -/

/-- The display shows the rows of the terminal from its top on, and its cursor is in the row
of the terminal's cursor. -/
structure ShowsRows (state : State) (terminal : Terminal) : Prop where
  rowFits : 0 ≤ state.displayRow ∧ state.displayRow < vgaRows
  sameRow : state.displayRow = terminal.row - terminal.top
  screen : ∀ row col : Nat, row < vgaRows → col < vgaCols →
    (state.memory (getCell row col)).chr = terminal.cells (terminal.top + row) col

/-- The display shows the rows of the terminal from its top on, and its cursor is at the
place of the terminal's cursor. -/
structure Shows (state : State) (terminal : Terminal) : Prop extends
    ShowsRows state terminal where
  colFits : 0 ≤ state.displayCol ∧ state.displayCol < vgaCols
  sameCol : state.displayCol = terminal.col

variable {state : State} {terminal : Terminal}

/-- A cleared display shows a blank terminal. -/
theorem shows_kclear (state : State) : Shows (kclear state) Terminal.blank := by
  have rows : (0 : Int) ≤ 0 ∧ (0 : Int) < vgaRows := by decide
  have cols : (0 : Int) ≤ 0 ∧ (0 : Int) < vgaCols := by decide
  refine ⟨⟨rows, rfl, ?_⟩, cols, rfl⟩
  intro row col rowFits colFits
  have blank : clearDisplay state.memory (getCell row col) = blankCell :=
    clearDisplay_apply state.memory (by omega) (by omega)
  exact congrArg VgaCell.chr blank

/-- A new line of the display shows the next row of the terminal. -/
theorem ShowsRows.newLine (shows : ShowsRows state terminal) (tidy : terminal.Tidy) :
    Shows (newLine state) terminal.nextRow := by
  have rowFits := shows.rowFits
  have sameRow := shows.sameRow
  have cols : (0 : Int) ≤ 0 ∧ (0 : Int) < vgaCols := by decide
  have top : terminal.top = terminal.row - (vgaRows - 1) := rfl
  have nextRow : terminal.nextRow.row = terminal.row + 1 := rfl
  have nextTop : terminal.nextRow.top = terminal.row + 1 - (vgaRows - 1) := rfl
  simp only [vgaRows] at rowFits top nextTop
  rw [Console.newLine]
  by_cases full : state.displayRow + 1 = (vgaRows : Int)
  · -- the display scrolls with the terminal
    rw [if_pos full]
    simp only [vgaRows] at full
    have scrolled : terminal.nextRow.top = terminal.top + 1 := by omega
    refine ⟨⟨?_, ?_, ?_⟩, cols, rfl⟩
    · simp only [vgaRows]
      omega
    · change state.displayRow + 1 - 1 = (terminal.nextRow.row : Int) - terminal.nextRow.top
      omega
    · intro row col rowSmall colSmall
      have moved : (shiftDisplayRows state.memory (getCell row col)).chr =
          if (row : Int) + 1 < vgaRows then (state.memory (getCell (row + 1) col)).chr else 0 :=
        shiftDisplayRows_chr state.memory (by omega) (by omega)
      rw [moved, scrolled]
      by_cases last : row + 1 < vgaRows
      · have shown := shows.screen (row + 1) col last colSmall
        rw [if_pos (by omega), Nat.add_assoc, Nat.add_comm 1 row]
        exact shown
      · -- the new row of the terminal is below all that was written
        simp only [vgaRows] at rowSmall last
        rw [if_neg (by simp only [vgaRows]; omega)]
        exact (tidy.unwritten (terminal.top + 1 + row) col (by omega)).symm
  · -- the terminal is not yet larger than the display
    rw [if_neg full]
    simp only [vgaRows] at full
    have still : terminal.nextRow.top = terminal.top := by omega
    refine ⟨⟨?_, ?_, ?_⟩, cols, rfl⟩
    · simp only [vgaRows]
      omega
    · change state.displayRow + 1 = (terminal.nextRow.row : Int) - terminal.nextRow.top
      omega
    · intro row col rowSmall colSmall
      rw [still]
      exact shows.screen row col rowSmall colSmall

/-- Storing a character at the cursor of the display stores it on the terminal. -/
theorem Shows.store (shows : Shows state terminal) (chr : BitVec 8) (col : Int) :
    ShowsRows
      { state with
        memory := setDisplayChar state.memory state.displayRow state.displayCol chr
        displayCol := col }
      (terminal.store chr) := by
  refine ⟨shows.rowFits, shows.sameRow, ?_⟩
  intro row other rowSmall otherSmall
  have stored : (setDisplayChar state.memory state.displayRow state.displayCol chr
      (getCell row other)).chr =
      if (row : Int) = state.displayRow ∧ (other : Int) = state.displayCol then chr
      else (state.memory (getCell row other)).chr :=
    setDisplayChar_chr state.memory chr shows.colFits (by omega)
  have sameRow := shows.sameRow
  have sameCol := shows.sameCol
  have place : (row : Int) = state.displayRow ∧ (other : Int) = state.displayCol ↔
      terminal.top + row = terminal.row ∧ other = terminal.col := by
    simp only [Terminal.top] at *
    omega
  rw [stored]
  simp only [place, shows.screen row other rowSmall otherSmall]
  rfl

/-- A character has the same effect on the display and on the terminal. -/
theorem Shows.putChar (shows : Shows state terminal) (tidy : terminal.Tidy) (chr : BitVec 8) :
    Shows (putChar state chr) (terminal.type chr) := by
  have cols : (0 : Int) ≤ 0 ∧ (0 : Int) < vgaCols := by decide
  rw [Console.putChar, Terminal.type]
  by_cases carriageReturn : chr = 13
  · rw [if_pos carriageReturn, if_pos carriageReturn]
    exact ⟨⟨shows.rowFits, shows.sameRow, shows.screen⟩, cols, rfl⟩
  rw [if_neg carriageReturn, if_neg carriageReturn]
  by_cases lineFeed : chr = 10
  · rw [if_pos lineFeed, if_pos lineFeed]
    exact shows.toShowsRows.newLine tidy
  rw [if_neg lineFeed, if_neg lineFeed]
  have sameCol := shows.sameCol
  have colFits := shows.colFits
  have stored := shows.store chr (state.displayCol + 1)
  by_cases full : terminal.col + 1 = vgaCols
  · have displayFull : state.displayCol + 1 = (vgaCols : Int) := by omega
    rw [if_pos full]
    simp only [displayFull, if_true]
    rw [displayFull] at stored
    exact stored.newLine (tidy.store chr)
  · have displayNotFull : ¬ state.displayCol + 1 = (vgaCols : Int) := by omega
    rw [if_neg full]
    simp only [displayNotFull, if_false]
    refine ⟨⟨stored.rowFits, stored.sameRow, stored.screen⟩, ?_, ?_⟩
    · simp only
      omega
    · simp only
      omega

/-- A sequence of characters has the same effect on the display and on the terminal. -/
theorem Shows.putChars (shows : Shows state terminal) (tidy : terminal.Tidy)
    (chars : List (BitVec 8)) :
    Shows (putChars state chars) (chars.foldl Terminal.type terminal) := by
  induction chars generalizing state terminal with
  | nil => exact shows
  | cons chr chars inductionHypothesis =>
      exact inductionHypothesis (shows.putChar tidy chr) (tidy.type chr)

/-- **The console shows the tail of the transcript**: whatever is put after `kclear`, the
cursor is on the display, the display holds the last rows of the terminal on which the same
was typed, and the cursor is at the same place. -/
theorem shows_putChars (state : State) (chars : List (BitVec 8)) :
    Shows (putChars (kclear state) chars) (Terminal.typed chars) :=
  (shows_kclear state).putChars Terminal.tidy_blank chars

end Console
end ToyKernel
