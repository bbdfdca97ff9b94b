import ToyKernel.Mutex.Defs
import Mathlib.Logic.Function.Basic
import Mathlib.Tactic.Simps.Basic

/-!
# Spinlocks that mask interrupts

`acquire_spinlock` and `release_spinlock` of `x86_64/sync.inc`, one access of
shared memory or of the interrupt flag at a time.  Each CPU has an interrupt flag
and an entry of `__outer_spinlocks`.  A call addresses the entry once, by the CPU
it runs on then, so a thread that is moved afterwards keeps using the entry it
chose.

A frame is the part of a thread or of a timer procedure that the discipline is
about: the spinlocks that it holds, the newest first, and its position.
-/

namespace ToyKernel
namespace Masking

/-- The spinlocks of the kernel: those of the scheduler, and any others. -/
inductive Lock
  /-- `all.lock`. -/
  | all
  /-- `inactive.lock`. -/
  | inactive
  /-- `cpus[cpu].lock`. -/
  | cpu (cpu : Nat)
  /-- Any other spinlock, such as the `ilock` of a mutex. -/
  | other (address : BitVec 64)
  deriving DecidableEq

/-- The values of an entry of `__outer_spinlocks`. -/
inductive OuterSpinlock
  /-- `NULL`. -/
  | null
  /-- `(struct spinlock*)1`, which `set_outer_spinlock(true)` writes. -/
  | handler
  /-- The address of a spinlock. -/
  | lock (lock : Lock)
  deriving DecidableEq

/-- The functions that end by clearing the entry of their outermost spinlock. -/
inductive Caller
  | acquire
  | release
  deriving DecidableEq

/-- Positions in `acquire_spinlock` and `release_spinlock`, each before one
access; `outer` is the CPU whose entry the call has addressed. -/
inductive Position
  /-- Outside both functions. -/
  | idle
  /-- Before the `cmpxchgq` of `acquire_spinlock`. -/
  | recording (lock : Lock) (tries : BitVec 64) (outer : Nat)
  /-- The entry was `NULL`; before `cli`. -/
  | masking (lock : Lock) (tries : BitVec 64) (outer : Nat)
  /-- Before an `xchgb` of `acquire_spinlock_int`. -/
  | trying (lock : Lock) (tries : BitVec 64) (outer : Nat)
  /-- After the `xchgb` of `release_spinlock`, before it addresses the entry. -/
  | locating (lock : Lock)
  /-- Before the test `*outer == lock`. -/
  | testing (caller : Caller) (lock : Lock) (outer : Nat)
  /-- The test succeeded; before `*outer = NULL`. -/
  | clearing (caller : Caller) (outer : Nat)
  /-- Before `sti`. -/
  | unmasking (caller : Caller)
  deriving DecidableEq

/-- Inside `acquire_spinlock`. -/
def Position.acquires : Position → Bool
  | .recording _ _ _ | .masking _ _ _ | .trying _ _ _ => true
  | .testing caller _ _ | .clearing caller _ | .unmasking caller => caller = .acquire
  | .idle | .locating _ => false

/-- Inside `release_spinlock`. -/
def Position.releases : Position → Bool
  | .locating _ => true
  | .testing caller _ _ | .clearing caller _ | .unmasking caller => caller = .release
  | .idle | .recording _ _ _ | .masking _ _ _ | .trying _ _ _ => false

/-- Between the `cmpxchgq` that recorded the outermost spinlock and `cli`. -/
def Position.isMasking : Position → Bool
  | .masking _ _ _ => true
  | _ => false

/-- The entry that the `cmpxchgq` to come will access. -/
def Position.recordsIn : Position → Option Nat
  | .recording _ _ outer => some outer
  | _ => none

/-- A thread or a timer procedure, as far as its spinlocks are concerned. -/
structure Frame where
  /-- Spinlocks obtained and not yet freed, the newest first. -/
  held : List Lock
  position : Position
  deriving DecidableEq

namespace Frame

/-- Code that holds no spinlock and is in neither function. -/
def empty : Frame where
  held := []
  position := .idle

@[simp] theorem empty_held : empty.held = [] := rfl

@[simp] theorem empty_position : empty.position = .idle := rfl

/-- A spinlock is held until `release_spinlock` has returned. -/
def Holds (frame : Frame) : Prop :=
  frame.held ≠ [] ∨ frame.position.releases = true

/-- In a call of `acquire_spinlock`. -/
def Acquires (frame : Frame) : Prop :=
  frame.position.acquires = true

instance (frame : Frame) : Decidable frame.Holds :=
  inferInstanceAs (Decidable (_ ∨ _))

instance (frame : Frame) : Decidable frame.Acquires :=
  inferInstanceAs (Decidable (_ = _))

end Frame

/-- The entry that records the outermost of the given spinlocks. -/
def outermost (held : List Lock) : OuterSpinlock :=
  match held.getLast? with
  | none => .null
  | some lock => .lock lock

@[simp] theorem outermost_nil : outermost [] = .null := rfl

@[simp] theorem outermost_singleton (lock : Lock) : outermost [lock] = .lock lock := rfl

theorem outermost_cons {held : List Lock} (nonempty : held ≠ []) (lock : Lock) :
    outermost (lock :: held) = outermost held := by
  cases held with
  | nil => exact absurd rfl nonempty
  | cons newest older => simp [outermost]

@[simp] theorem outermost_ne_handler (held : List Lock) : outermost held ≠ .handler := by
  unfold outermost
  split <;> simp

theorem outermost_eq_null_iff {held : List Lock} : outermost held = .null ↔ held = [] := by
  unfold outermost
  split
  next empty => simpa using empty
  next lock last =>
      have nonempty : held ≠ [] := by
        rintro rfl
        simp at last
      simp [nonempty]

/-- A spinlock recorded as the outermost one is among those held. -/
theorem mem_of_outermost_eq {held : List Lock} {lock : Lock}
    (records : outermost held = .lock lock) : lock ∈ held := by
  unfold outermost at records
  split at records
  next => exact absurd records (by simp)
  next last found =>
      obtain rfl : last = lock := by simpa using records
      exact List.mem_of_getLast? found

variable {Thread : Type}

/-- What a CPU executes below its interrupt handlers. -/
inductive Code (Thread : Type)
  /-- The loop at `__halt`. -/
  | halt
  | thread (thread : Thread)
  deriving DecidableEq

/-- The interrupt handlers that take more than one step. -/
inductive Handler
  /-- `handle_timer` calling `timer_proc_`. -/
  | timer
  /-- `do_self_halt_task` releasing the spinlocks handed to it. -/
  | selfHalt
  deriving DecidableEq

/-- One CPU. -/
structure Core (Thread : Type) where
  /-- The interrupt flag. -/
  enabled : Bool
  /-- What is executed, or continued when the handler returns. -/
  code : Code Thread
  handler : Option Handler
  /-- The interrupt flag in the stack frame of the handler. -/
  saved : Bool
  deriving DecidableEq

/-- Those who hold spinlocks: the threads, and the interrupt handlers of the CPUs. -/
inductive Agent (Thread : Type)
  | thread (thread : Thread)
  | handler (cpu : Nat)
  deriving DecidableEq

structure State (Thread : Type) where
  /-- `__outer_spinlocks`. -/
  outer : Nat → OuterSpinlock
  locks : Lock → Spinlock
  cores : Nat → Core Thread
  frames : Agent Thread → Frame
  /-- The interrupt flags in the contexts of the threads. -/
  flags : Thread → Bool

namespace State

variable [DecidableEq Thread]

/-- Write an entry of `__outer_spinlocks`. -/
@[simps]
def setOuter (state : State Thread) (cpu : Nat) (value : OuterSpinlock) : State Thread :=
  { state with outer := Function.update state.outer cpu value }

@[simps]
def setLock (state : State Thread) (lock : Lock) (value : Spinlock) : State Thread :=
  { state with locks := Function.update state.locks lock value }

@[simps]
def setCore (state : State Thread) (cpu : Nat) (core : Core Thread) : State Thread :=
  { state with cores := Function.update state.cores cpu core }

@[simps]
def setFrame (state : State Thread) (agent : Agent Thread) (frame : Frame) : State Thread :=
  { state with frames := Function.update state.frames agent frame }

/-- Move an agent to another position. -/
@[simps!]
def goto (state : State Thread) (agent : Agent Thread) (position : Position) : State Thread :=
  state.setFrame agent { state.frames agent with position := position }

/-- `cli` and `sti`. -/
@[simps!]
def setEnabled (state : State Thread) (cpu : Nat) (enabled : Bool) : State Thread :=
  state.setCore cpu { state.cores cpu with enabled := enabled }

@[simp] theorem goto_held (state : State Thread) (agent other : Agent Thread)
    (position : Position) :
    ((state.goto agent position).frames other).held = (state.frames other).held := by
  rw [goto_frames, Function.update_apply]
  split
  · rename_i same
    rw [same]
  · rfl

/-- The agent whose code a CPU executes, if that code may call `acquire_spinlock`. -/
def agent (state : State Thread) (cpu : Nat) : Option (Agent Thread) :=
  match (state.cores cpu).handler, (state.cores cpu).code with
  | some .timer, _ => some (.handler cpu)
  | some .selfHalt, _ => none
  | none, .thread thread => some (.thread thread)
  | none, .halt => none

/-- Call `acquire_spinlock`: the entry of the present CPU is addressed. -/
def acquireSpinlock (state : State Thread) (cpu : Nat) (agent : Agent Thread) (lock : Lock)
    (tries : BitVec 64) : Option (State Thread) :=
  match (state.frames agent).position with
  | .idle => some (state.goto agent (.recording lock tries cpu))
  | _ => none

/-- Call `release_spinlock` for the newest spinlock held, which frees it. -/
def releaseSpinlock (state : State Thread) (agent : Agent Thread) : Option (State Thread) :=
  match (state.frames agent).position, (state.frames agent).held with
  | .idle, lock :: older =>
      some ((state.setLock lock (state.locks lock).release).setFrame agent
        { held := older, position := .locating lock })
  | _, _ => none

/-- The next access of a call of `acquire_spinlock` or `release_spinlock` by an
agent on a CPU. -/
def advance (state : State Thread) (cpu : Nat) (agent : Agent Thread) : Option (State Thread) :=
  match (state.frames agent).position with
  | .idle => none
  | .recording lock tries outer =>
      if state.outer outer = .null then
        some ((state.setOuter outer (.lock lock)).goto agent (.masking lock tries outer))
      else
        some (state.goto agent (.trying lock tries outer))
  | .masking lock tries outer =>
      some ((state.setEnabled cpu false).goto agent (.trying lock tries outer))
  | .trying lock tries outer =>
      let (acquired, value) := (state.locks lock).exchange
      let state := state.setLock lock value
      if acquired then
        some (state.setFrame agent
          { held := lock :: (state.frames agent).held, position := .idle })
      else if tries - 1 ≠ 0 then
        some (state.goto agent (.trying lock (tries - 1) outer))
      else
        some (state.goto agent (.testing .acquire lock outer))
  | .locating lock => some (state.goto agent (.testing .release lock cpu))
  | .testing caller lock outer =>
      if state.outer outer = .lock lock then
        some (state.goto agent (.clearing caller outer))
      else
        some (state.goto agent .idle)
  | .clearing caller outer =>
      some ((state.setOuter outer .null).goto agent (.unmasking caller))
  | .unmasking _ => some ((state.setEnabled cpu true).goto agent .idle)

/-! ## Interrupts -/

/-- The code of a CPU can be interrupted from outside.  Interrupt gates clear the flag,
so handlers are not interrupted. -/
def Interruptible (state : State Thread) (cpu : Nat) : Prop :=
  (state.cores cpu).enabled = true ∧ (state.cores cpu).handler = none

instance (state : State Thread) (cpu : Nat) : Decidable (state.Interruptible cpu) :=
  inferInstanceAs (Decidable (_ ∧ _))

/-- Save the interrupt flag of the interrupted thread in its context. -/
def saveContext (state : State Thread) (cpu : Nat) : State Thread :=
  match (state.cores cpu).code with
  | .halt => state
  | .thread thread =>
      { state with
        flags := Function.update state.flags thread (state.cores cpu).enabled }

/-- Store the context of a thread into the stack frame of the timer interrupt, if
another thread is to run. -/
def switchThread (state : State Thread) (cpu : Nat) : Option Thread → State Thread
  | none =>
      state.setCore cpu { state.cores cpu with saved := (state.cores cpu).enabled }
  | some thread =>
      (state.saveContext cpu).setCore cpu
        { state.cores cpu with code := .thread thread, saved := state.flags thread }

/-- The call of `timer_proc_` with `set_outer_spinlock(true)` before it. -/
def enterTimerProc (state : State Thread) (cpu : Nat) : State Thread :=
  (state.setOuter cpu .handler).setCore cpu
    { state.cores cpu with enabled := false, handler := some .timer }

/-- `iretq`. -/
def returnToCode (state : State Thread) (cpu : Nat) : State Thread :=
  state.setCore cpu
    { state.cores cpu with enabled := (state.cores cpu).saved, handler := none }

/-- The timer interrupt, up to the call of `timer_proc_` if it fires. -/
def timerInterrupt (cpus : Nat) (state : State Thread) (cpu : Nat) (dispatch : Option Thread)
    (fires : Bool) : Option (State Thread) :=
  if state.Interruptible cpu ∧
      ∀ thread ∈ dispatch, ∀ other < cpus, (state.cores other).code ≠ .thread thread then
    if fires then
      some ((state.switchThread cpu dispatch).enterTimerProc cpu)
    else
      some ((state.switchThread cpu dispatch).returnToCode cpu)
  else
    none

/-- The context of the interrupted thread is saved, and the stack frame sent to
`__halt`. -/
def haltThread (state : State Thread) (cpu : Nat) : State Thread :=
  (state.saveContext cpu).setCore cpu { state.cores cpu with code := .halt }

/-- The task interrupt that another CPU issues: `pauses` tells whether `do_pause_task`
finds the thread that this CPU executes. -/
def taskInterrupt (state : State Thread) (cpu : Nat) (pauses : Bool) : Option (State Thread) :=
  if state.Interruptible cpu then
    if pauses then some (state.haltThread cpu) else some state
  else
    none

/-- The spinlocks that `do_self_halt_task` releases. -/
def givenLocks (cpu : Nat) (lockToRelease : Option Lock) : List Lock :=
  .cpu cpu :: .inactive :: lockToRelease.toList

/-- The handler takes over the spinlocks that it is going to release, and the thread is
halted with interrupts enabled in its context. -/
def enterSelfHalt (state : State Thread) (cpu : Nat) (thread : Thread)
    (lockToRelease : Option Lock) : State Thread :=
  let frame := state.frames (.thread thread)
  let given := givenLocks cpu lockToRelease
  let state := state.setFrame (.thread thread)
    { frame with held := frame.held.drop given.length }
  let state := state.setFrame (.handler cpu) { held := given, position := .idle }
  let state := { state with flags := Function.update state.flags thread true }
  (state.setOuter cpu .null).setCore cpu
    { enabled := false, code := .halt, handler := some .selfHalt, saved := true }

/-- The task interrupt that a thread issues at the end of `pause_this_thread`, up
to `set_outer_spinlock(false)`. -/
def selfHalt (state : State Thread) (cpu : Nat) (lockToRelease : Option Lock) :
    Option (State Thread) :=
  match (state.cores cpu).handler, (state.cores cpu).code with
  | none, .thread thread =>
      if (state.frames (.thread thread)).position = .idle ∧
          givenLocks cpu lockToRelease <+: (state.frames (.thread thread)).held then
        some (state.enterSelfHalt cpu thread lockToRelease)
      else
        none
  | _, _ => none

/-- The next `release_spinlock_int` of `do_self_halt_task`. -/
def handOver (state : State Thread) (cpu : Nat) : Option (State Thread) :=
  match (state.cores cpu).handler, (state.frames (.handler cpu)).held with
  | some .selfHalt, lock :: older =>
      some ((state.setLock lock (state.locks lock).release).setFrame (.handler cpu)
        { state.frames (.handler cpu) with held := older })
  | _, _ => none

/-- The end of a handler, with `set_outer_spinlock(false)` after the timer procedure. -/
def returnFromInterrupt (state : State Thread) (cpu : Nat) : Option (State Thread) :=
  if state.frames (.handler cpu) = .empty then
    match (state.cores cpu).handler with
    | none => none
    | some .timer => some ((state.setOuter cpu .null).returnToCode cpu)
    | some .selfHalt => some (state.returnToCode cpu)
  else
    none

end State
end Masking
end ToyKernel
