import ToyKernel.Masking.Defs
import ToyKernel.Library.Transition

/-!
# The masking discipline

Threads and timer procedures acquire and release spinlocks in nested order, and
interrupts arrive wherever the interrupt flag is set.  The scheduler is free to
dispatch any thread that no CPU executes.

Code that holds a spinlock should run with interrupts masked, and code that holds
none with interrupts enabled.  `acquire_spinlock` writes the record of the
outermost spinlock before it masks interrupts, and the record belongs to the CPU
rather than to the thread.  The discipline breaks exactly where something happens
in between that uses the record.
-/

namespace ToyKernel
namespace Masking

variable {Thread : Type} [DecidableEq Thread]

/-- The steps of the CPUs. -/
inductive Action (Thread : Type)
  /-- The code on a CPU calls `acquire_spinlock`. -/
  | acquire (cpu : Nat) (lock : Lock) (tries : BitVec 64)
  /-- The code on a CPU calls `release_spinlock` for its newest spinlock. -/
  | release (cpu : Nat)
  /-- The next access in one of the two functions. -/
  | advance (cpu : Nat)
  | timer (cpu : Nat) (dispatch : Option Thread) (fires : Bool)
  | task (cpu : Nat) (pauses : Bool)
  /-- The thread on a CPU halts in `pause_this_thread`. -/
  | selfHalt (cpu : Nat) (lockToRelease : Option Lock)
  | handOver (cpu : Nat)
  | returnFromInterrupt (cpu : Nat)
  deriving DecidableEq

/-- The CPU that takes the step. -/
def Action.cpu : Action Thread → Nat
  | .acquire cpu _ _ | .release cpu | .advance cpu | .timer cpu _ _ | .task cpu _
  | .selfHalt cpu _ | .handOver cpu | .returnFromInterrupt cpu => cpu

namespace State

/-- One step of the code or the hardware of a CPU. -/
def act (cpus : Nat) (state : State Thread) : Action Thread → Option (State Thread)
  | .acquire cpu lock tries => do
      state.acquireSpinlock cpu (← state.agent cpu) lock tries
  | .release cpu => do
      state.releaseSpinlock (← state.agent cpu)
  | .advance cpu => do
      state.advance cpu (← state.agent cpu)
  | .timer cpu dispatch fires => state.timerInterrupt cpus cpu dispatch fires
  | .task cpu pauses => state.taskInterrupt cpu pauses
  | .selfHalt cpu lockToRelease => state.selfHalt cpu lockToRelease
  | .handOver cpu => state.handOver cpu
  | .returnFromInterrupt cpu => state.returnFromInterrupt cpu

/-- After boot all CPUs wait for their timers, and nobody holds a spinlock. -/
def initial : State Thread where
  outer := fun _ => .null
  locks := fun _ => { busy := false }
  cores := fun _ => { enabled := true, code := .halt, handler := none, saved := false }
  frames := fun _ => .empty
  flags := fun _ => true

end State

/-- The system of the given number of CPUs. -/
def system (Thread : Type) [DecidableEq Thread] (cpus : Nat) :
    TransitionSystem (State Thread) (Action Thread) where
  initial := fun state => state = .initial
  step := fun state action => if action.cpu < cpus then state.act cpus action else none

namespace State

/-- The frame of the thread whose code a CPU executes outside interrupt handlers. -/
def threadFrame (state : State Thread) (cpu : Nat) : Option Frame :=
  match (state.cores cpu).handler, (state.cores cpu).code with
  | none, .thread thread => some (state.frames (.thread thread))
  | _, _ => none

/-- Thread code holds spinlocks with interrupts masked only, and otherwise runs with
interrupts enabled and no record of an outermost spinlock. -/
def Disciplined (state : State Thread) : Prop :=
  ∀ cpu frame, state.threadFrame cpu = some frame →
    (frame.Holds → (state.cores cpu).enabled = false) ∧
      (¬ frame.Holds → ¬ frame.Acquires →
        (state.cores cpu).enabled = true ∧ state.outer cpu = .null)

/-- The thread on a CPU has recorded its outermost spinlock, and not yet masked
interrupts. -/
def InWindow (state : State Thread) (cpu : Nat) : Prop :=
  ∃ frame, state.threadFrame cpu = some frame ∧ frame.position.isMasking = true

/-- A call of `acquire_spinlock` that the thread has begun will access the entry of this
CPU. -/
def Addresses (state : State Thread) (thread : Thread) (cpu : Nat) : Prop :=
  ∀ outer, (state.frames (.thread thread)).position.recordsIn = some outer → outer = cpu

/-- A step that leaves the record of an outermost spinlock to the thread that wrote it.
No interrupt dispatches a thread, calls the timer procedure or halts the CPU between the
record and `cli`.  No thread is dispatched on another CPU than the one whose entry it is
going to access.  No thread tries to acquire its outermost spinlock again, and a thread
that halts has handed over all its spinlocks. -/
def Spares (state : State Thread) : Action Thread → Prop
  | .acquire cpu lock _ =>
      ∀ frame, state.threadFrame cpu = some frame → outermost frame.held ≠ .lock lock
  | .timer cpu dispatch fires =>
      (dispatch ≠ none ∨ fires = true → ¬ state.InWindow cpu) ∧
        ∀ thread, dispatch = some thread → state.Addresses thread cpu
  | .task cpu pauses => pauses = true → ¬ state.InWindow cpu
  | .selfHalt cpu lockToRelease =>
      ∀ frame, state.threadFrame cpu = some frame →
        frame.held = .cpu cpu :: .inactive :: lockToRelease.toList
  | .release _ | .advance _ | .handOver _ | .returnFromInterrupt _ => True

instance (state : State Thread) (cpu : Nat) : Decidable (state.InWindow cpu) :=
  decidable_of_iff ((state.threadFrame cpu).any (·.position.isMasking) = true) (by
    simp [InWindow, Option.any_eq_true])

instance (state : State Thread) (thread : Thread) (cpu : Nat) :
    Decidable (state.Addresses thread cpu) :=
  Option.decidableForallMem (state.frames (.thread thread)).position.recordsIn

instance (state : State Thread) (action : Action Thread) : Decidable (state.Spares action) :=
  match action with
  | .acquire cpu _ _ => Option.decidableForallMem (state.threadFrame cpu)
  | .timer _ dispatch _ =>
      @instDecidableAnd _ _ inferInstance (Option.decidableForallMem dispatch)
  | .task _ _ => inferInstanceAs (Decidable (_ → _))
  | .selfHalt cpu _ => Option.decidableForallMem (state.threadFrame cpu)
  | .release _ | .advance _ | .handOver _ | .returnFromInterrupt _ => .isTrue trivial

end State
end Masking
end ToyKernel
