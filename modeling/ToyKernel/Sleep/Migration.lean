import ToyKernel.Sleep.Lists
import ToyKernel.Sleep.WakeUp

/-!
# Sleeping threads that are moved

`sleep` chooses the list of the CPU it is on before it takes the lock of the list and
disables interrupts.  In between the thread may be paused and resumed on another CPU.
Here the choice and the locked section are two steps.
-/

namespace ToyKernel
namespace Sleep

open Scheduler (Platform World)

/-- The part of `sleep` that links the node and sets the timer, with the list of one CPU on
another. -/
def insertInto (platform : Platform) (state : State) (list cpu : Nat) (node : Address)
    (rounds : Nat) : Option State :=
  if isFirst state list (state.nodes node).ticks then
    let state := state.setNode node ({ · with next := (state.sleeping list).tail })
    let state := state.setTail list (some node)
    state.act platform (.setTimerTicks cpu (state.nodes node).ticks)
  else do
    let tail ← (state.sleeping list).tail
    let prev ← lastNotLater state.nodes (state.nodes node).ticks rounds tail
    let state := state.setNode node ({ · with next := (state.nodes prev).next })
    some (state.setNode prev ({ · with next := some node }))

/-- `sleep` from where it takes the lock of the list that it has chosen. -/
def sleepLocked (platform : Platform) (state : State) (list cpu : Nat) (period : BitVec 64)
    (block : Option Address) (rounds : Nat) : Option (State × ErrCode) := do
  let thread ← (state.world.state.machines cpu).fsBase
  match block with
  | none => some (state, .errOutOfMemory)
  | some node =>
      let deadline := state.world.state.ticks + period / BitVec.ofNat 64 configSchedulerTickInterval
      let state := state.setAllocated node true
      let state := state.setNode node fun data =>
        { data with thread := Scheduler.getThread state.world.state cpu, ticks := deadline }
      let state ← insertInto platform state list cpu node rounds
      let state := state.record thread list deadline
      let state ← state.act platform (.pauseThis cpu (some (state.sleeping list).lock))
      some (state, .errNone)

/-- On the CPU whose list was chosen this is `sleep` as one step. -/
theorem sleepLocked_self (platform : Platform) (state : State) (cpu : Nat) (period : BitVec 64)
    (block : Option Address) (rounds : Nat) :
    sleepLocked platform state cpu cpu period block rounds =
      sleep platform state cpu period block rounds := rfl

/-- A call of `sleep` that has chosen a list: the CPU that it was on, and its argument. -/
structure Choice where
  cpu : Nat
  period : BitVec 64
  deriving DecidableEq

/-- The sleep queues with the choices of the threads that are between the choice and the
locked section. -/
structure Migrating where
  queues : State
  chosen : Address → Option Choice

namespace Migrating

/-- The steps.  Threads are moved by steps of the scheduler. -/
inductive Action
  | choose (cpu : Nat) (period : BitVec 64)
  | lock (cpu : Nat) (block : Option Address) (rounds : Nat)
  | timer (cpu : Nat)
  | other (action : Scheduler.Action)

/-- One step.  A thread whose context is set anew is in no call. -/
def step (platform : Platform) (state : Migrating) : Action → Option Migrating
  | .choose cpu period =>
      if state.queues.world.Runs platform cpu then do
        let thread ← (state.queues.world.state.machines cpu).fsBase
        some { state with chosen := Function.update state.chosen thread (some ⟨cpu, period⟩) }
      else
        none
  | .lock cpu block rounds =>
      if state.queues.world.Runs platform cpu then do
        let thread ← (state.queues.world.state.machines cpu).fsBase
        let choice ← state.chosen thread
        let (queues, _) ← sleepLocked platform state.queues choice.cpu cpu choice.period block
          rounds
        some { queues := queues, chosen := Function.update state.chosen thread none }
      else
        none
  | .timer cpu => do
      let queues ← timerInterrupt platform state.queues cpu
      some { state with queues := queues }
  | .other action => do
      let queues ← state.queues.act platform action
      some
        { queues := queues
          chosen := fun thread => if action.prepares thread then none else state.chosen thread }

/-- Nobody sleeps yet. -/
structure Initial (state : Migrating) : Prop where
  queues : state.queues.Initial
  chosen : ∀ thread, state.chosen thread = none

/-- All lists are empty. -/
theorem Initial.chained {state : Migrating} (starts : state.Initial) :
    Chained state.queues fun _ => [] where
  chain := starts.queues.tail
  nodup _ := List.nodup_nil
  allocated _ _ absent := absurd absent List.not_mem_nil
  apart _ _ _ _ absent := absurd absent List.not_mem_nil

/-- Calls of `sleep` in two steps as a transition system. -/
def system (platform : Platform) : TransitionSystem Migrating Action where
  initial := Initial
  step := step platform

/-- Only the code of `sync.c` sets timers and installs a timer procedure. -/
def keepsTimers : Scheduler.Action → Bool
  | .setTimerTicks _ _ => false
  | .timer _ => false
  | _ => true

/-- What the pools and the code around see to. -/
def Allowed (state : Migrating) : Action → Prop
  | .lock _ block _ => ∀ node ∈ block, state.queues.allocated node = false
  | .other action => keepsTimers action = true
  | _ => True

instance (state : Migrating) : ∀ action, Decidable (Allowed state action)
  | .choose _ _ => .isTrue trivial
  | .lock _ block _ =>
      letI : Decidable (∀ node ∈ block, state.queues.allocated node = false) :=
        Option.decidableForallMem _
      inferInstanceAs (Decidable (∀ node ∈ block, state.queues.allocated node = false))
  | .timer _ => .isTrue trivial
  | .other action => inferInstanceAs (Decidable (keepsTimers action = true))

/-- A thread that may run on both CPUs. -/
def freeThread : Scheduler.ThreadData := { Scheduler.bootThread with affinity := [3] }

end Migrating

end Sleep
end ToyKernel
