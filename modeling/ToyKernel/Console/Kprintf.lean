import ToyKernel.Console.Defs
import ToyKernel.Console.Strings
import Mathlib.Computability.StateTransition

/-!
# `kprintf`

`kprintf` of `common.c` as a machine: its labels are the points of control, and a step goes
from one to the next.  The lock of the display is held from the first step to the last.
-/

namespace ToyKernel
namespace Console

/-- A call of `kprintf`: the memory, the address of the format and the slots of the arguments
behind it. -/
structure Call where
  memory : BitVec 64 → BitVec 8
  format : BitVec 64
  vargs : Nat → BitVec 64

/-- A byte behind an address. -/
def Call.byteAt (call : Call) (address : BitVec 64) (offset : Nat) : BitVec 8 :=
  call.memory (address + BitVec.ofNat 64 offset)

/-- A byte of the format. -/
def Call.formatByte (call : Call) (offset : Nat) : BitVec 8 := call.byteAt call.format offset

/-- What `str` points into. -/
inductive Source
  | memory (address : BitVec 64)
  | buf
  deriving DecidableEq

/-- The points of control: the condition of the loop over the format, `next_attr_type`,
`puts` with the number of characters that `str` has passed, and the end of the loop. -/
inductive Point
  | format
  | nextAttrType
  | puts (source : Source) (offset : Nat)
  | done
  deriving DecidableEq

/-- The local variables of `kprintf`, with the data of the display.  The pointer `format` is
the number of bytes that have been read through it, and `vargs` the number of slots taken.
The characters that have been passed to `put_char` are a history. -/
structure Kprintf where
  point : Point
  format : Nat
  vargs : Nat
  num : BitVec 32
  sizeLong : Bool
  buf : Buffer
  console : State
  passed : List (BitVec 8)

/-- `__set_display_cursor`. -/
def setDisplayCursor (state : State) (row col : Int) : State :=
  { state with cursorRow := row, cursorCol := col }

/-- An upper bound for the rounds of the loops of `ultoa`, for there are at most 64 digits. -/
def ultoaRounds : Nat := 65

namespace Kprintf

/-- `put_char(chr)` with `num++`. -/
def put (state : Kprintf) (chr : BitVec 8) : Kprintf :=
  { state with
    num := state.num + 1
    console := putChar state.console chr
    passed := state.passed ++ [chr] }

/-- The branch for `d`. -/
def decimal (call : Call) (state : Kprintf) : Option Kprintf := do
  let lint := call.vargs state.vargs
  let state := { state with vargs := state.vargs + 1 }
  let lint := if state.sizeLong then lint else (lint.setWidth 32).signExtend 64
  let negative := lint.slt 0
  let state := if negative then state.put 0x2D else state
  let lint := if negative then -lint else lint
  let buf ← ultoa ultoaRounds lint state.buf 10
  some { state with buf := buf, point := .puts .buf 0 }

/-- The branch for `x` and `X`. -/
def hexadecimal (call : Call) (state : Kprintf) (radix : Int) : Option Kprintf := do
  let lint := call.vargs state.vargs
  let state := { state with vargs := state.vargs + 1 }
  let lint := if state.sizeLong then lint else (lint.setWidth 32).setWidth 64
  let buf ← ultoa ultoaRounds lint state.buf radix
  some { state with buf := buf, point := .puts .buf 0 }

/-- The `switch` over the type of a conversion. -/
def switch (call : Call) (state : Kprintf) (chr : BitVec 8) : Option Kprintf :=
  if chr = 0x6C then
    some { state with sizeLong := true }
  else if chr = 0x25 then
    some { state.put 0x25 with point := .format }
  else if chr = 0x73 then
    some { state with
      vargs := state.vargs + 1
      point := .puts (.memory (call.vargs state.vargs)) 0 }
  else if chr = 0x64 then
    state.decimal call
  else if chr = 0x78 ∨ chr = 0x58 then
    state.hexadecimal call (if chr = 0x78 then 16 else -16)
  else if chr = 0x63 then
    some { state with
      vargs := state.vargs + 1
      buf := (state.buf.store 0 ((call.vargs state.vargs).setWidth 8)).store 1 0
      point := .puts .buf 0 }
  else
    some { state with point := .format }

/-- `*str`. -/
def load (call : Call) (state : Kprintf) : Source → Nat → BitVec 8
  | .memory address => call.byteAt address
  | .buf => state.buf.bytes

/-- One step. -/
def step (call : Call) (state : Kprintf) : Option Kprintf :=
  match state.point with
  | .format =>
      let chr := call.formatByte state.format
      let state := { state with format := state.format + 1 }
      if chr = 0 then
        some { state with
          point := .done
          console := setDisplayCursor state.console state.console.displayRow
            state.console.displayCol }
      else if chr = 0x25 then
        some { state with sizeLong := false, point := .nextAttrType }
      else
        some (state.put chr)
  | .nextAttrType =>
      let chr := call.formatByte state.format
      let state := { state with format := state.format + 1 }
      state.switch call chr
  | .puts source offset =>
      let chr := state.load call source offset
      if chr ≠ 0 then
        some { state.put chr with point := .puts source (offset + 1) }
      else
        some { state with point := .format }
  | .done => none

/-- The start of a call, with what is in the place of `buf` before. -/
def start (stack : Nat → BitVec 8) (console : State) : Kprintf where
  point := .format
  format := 0
  vargs := 0
  num := 0
  sizeLong := false
  buf := ⟨stack, 0⟩
  console := console
  passed := []

/-- Some steps lead from one state to another. -/
abbrev Runs (call : Call) (state next : Kprintf) : Prop :=
  StateTransition.Reaches (step call) state next

/-- The call returns in a state. -/
structure Returns (call : Call) (stack : Nat → BitVec 8) (console : State) (final : Kprintf) :
    Prop where
  runs : Runs call (start stack console) final
  done : final.point = .done

/-! ## Steps -/

section Steps

variable {call : Call} {state next final : Kprintf} {stack : Nat → BitVec 8} {console : State}
  {text : List (BitVec 8)} {chr : BitVec 8}

/-- A call returns at most once. -/
theorem Returns.unique {other : Kprintf} (returns : Returns call stack console final)
    (alsoReturns : Returns call stack console other) : final = other := by
  have ends : ∀ {state : Kprintf}, state.point = .done → step call state = none := by
    intro state done
    rw [step, done]
  have isFinal := StateTransition.mem_eval.mpr ⟨returns.runs, ends returns.done⟩
  have isOther := StateTransition.mem_eval.mpr ⟨alsoReturns.runs, ends alsoReturns.done⟩
  exact Part.mem_unique isFinal isOther

theorem Runs.single (taken : step call state = some next) : Runs call state next :=
  Relation.ReflTransGen.single taken

/-- No step goes back in the format. -/
theorem format_le_of_step (taken : step call state = some next) : state.format ≤ next.format := by
  have switched : ∀ {state next : Kprintf} {chr : BitVec 8},
      state.switch call chr = some next → next.format = state.format := by
    intro state next chr taken
    simp only [switch] at taken
    split at taken
    · exact (Option.some.inj taken) ▸ rfl
    · split at taken
      · exact (Option.some.inj taken) ▸ rfl
      · split at taken
        · exact (Option.some.inj taken) ▸ rfl
        · split at taken
          · obtain ⟨buf, -, taken⟩ := Option.bind_eq_some_iff.mp taken
            obtain rfl := Option.some.inj taken
            exact (apply_ite Kprintf.format ..).trans (ite_self _)
          · split at taken
            · obtain ⟨buf, -, taken⟩ := Option.bind_eq_some_iff.mp taken
              exact (Option.some.inj taken) ▸ rfl
            · split at taken <;> exact (Option.some.inj taken) ▸ rfl
  simp only [step] at taken
  split at taken
  · split at taken
    · exact (Option.some.inj taken) ▸ Nat.le_succ _
    · split at taken <;> exact (Option.some.inj taken) ▸ Nat.le_succ _
  · rw [switched taken]
    exact Nat.le_succ _
  · split at taken <;> exact (Option.some.inj taken) ▸ le_refl _
  · cases taken

theorem Runs.format_le (runs : Runs call state next) : state.format ≤ next.format := by
  induction runs with
  | refl => exact le_refl _
  | tail _ taken inductionHypothesis =>
      exact inductionHypothesis.trans (format_le_of_step taken)

end Steps

end Kprintf

end Console
end ToyKernel
