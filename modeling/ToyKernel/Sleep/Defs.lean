import ToyKernel.Scheduler.System

/-!
# Sleeping

The sleep queues of `sync.c`: each CPU has a list of the threads that sleep on it, the
first one to wake up first, and its timer is set for the first one.  The code runs on
the scheduler, and a step of it is one atomic step.
-/

namespace ToyKernel
namespace Sleep

open Scheduler (Platform World)

/-- `struct sleep_node`. -/
structure SleepNode where
  next : Option Address
  thread : BitVec 64
  ticks : BitVec 64
  deriving DecidableEq

/-- `struct sleep_data`, except for its pool; the lock is the address of its spinlock. -/
structure SleepData where
  tail : Option Address
  lock : Address
  deriving DecidableEq

/-- A call of `sleep` that has not ended: the CPU on which it was made, the tick at which
it may end, and the number of calls before it. -/
structure Call where
  cpu : Nat
  deadline : BitVec 64
  number : Nat
  deriving DecidableEq

/-- The state of the sleep queues and of the scheduler under them.  `allocated` are the
blocks of the pools in use.  Two fields are histories: the call of `sleep` in which each
thread is blocked, and the number of all calls so far. -/
structure State where
  world : World
  nodes : Address → SleepNode
  sleeping : Nat → SleepData
  allocated : Address → Bool
  calls : Address → Option Call
  total : Nat

namespace State

/-- Assign to fields of a node. -/
def setNode (state : State) (node : Address) (change : SleepNode → SleepNode) : State :=
  { state with nodes := Function.update state.nodes node (change (state.nodes node)) }

/-- Assign to `sleeping[cpu].tail`. -/
def setTail (state : State) (cpu : Nat) (tail : Option Address) : State :=
  { state with
    sleeping := Function.update state.sleeping cpu { state.sleeping cpu with tail := tail } }

/-- The pool hands out a block, or takes it back. -/
def setAllocated (state : State) (block : Address) (used : Bool) : State :=
  { state with allocated := Function.update state.allocated block used }

/-- Note that a thread is in a call of `sleep`. -/
def record (state : State) (thread : Address) (cpu : Nat) (deadline : BitVec 64) : State :=
  { state with
    calls := Function.update state.calls thread (some ⟨cpu, deadline, state.total⟩)
    total := state.total + 1 }

/-- A step of the scheduler.  A thread that is not paused any more is not blocked. -/
def act (platform : Platform) (state : State) (action : Scheduler.Action) : Option State := do
  let world ← state.world.step platform action
  some { state with
    world := world
    calls := fun thread =>
      if (world.state.threads thread).state = .paused then state.calls thread else none }

end State

/-! ## Waking up -/

/-- The part of `sleep_timer_proc` that sets the timer for the next node. -/
def rearm (platform : Platform) (state : State) (cpu : Nat) : Option State :=
  match (state.sleeping cpu).tail with
  | some tail => state.act platform (.setTimerTicks cpu (state.nodes tail).ticks)
  | none => some state

/-- `sleep_timer_proc`. -/
def sleepTimerProc (platform : Platform) (state : State) (cpu : Nat) : Option State :=
  match (state.sleeping cpu).tail with
  | none => some state
  | some node => do
      let state := state.setTail cpu (state.nodes node).next
      let state ← rearm platform state cpu
      let state ← state.act platform (.resume cpu (state.nodes node).thread)
      some (state.setAllocated node false)

/-- Whether `handle_timer` calls the timer procedure: the timer of the CPU was set, and it
has expired when the tick has been counted. -/
def expires (before after : Scheduler.State) (cpu : Nat) : Prop :=
  (after.machines cpu).panicked = false ∧
    before.timerTicks cpu ≠ 0 ∧ before.timerTicks cpu ≤ after.ticks

instance (before after : Scheduler.State) (cpu : Nat) : Decidable (expires before after cpu) :=
  inferInstanceAs (Decidable (_ ∧ _ ∧ _))

/-- The timer interrupt with the timer procedure that `init_sync` installs. -/
def timerInterrupt (platform : Platform) (state : State) (cpu : Nat) : Option State := do
  let interrupted ← state.act platform (.timer cpu)
  if expires state.world.state interrupted.world.state cpu then
    sleepTimerProc platform interrupted cpu
  else
    some interrupted

/-! ## Falling asleep -/

/-- The loop of `sleep`: the last node that does not wake up later. -/
def lastNotLater (nodes : Address → SleepNode) (ticks : BitVec 64) :
    Nat → Address → Option Address
  | 0, _ => none
  | rounds + 1, prev =>
      match (nodes prev).next with
      | none => some prev
      | some next =>
          if (nodes next).ticks ≤ ticks then lastNotLater nodes ticks rounds next else some prev

/-- Whether a node is the first one to wake up. -/
def isFirst (state : State) (cpu : Nat) (ticks : BitVec 64) : Bool :=
  match (state.sleeping cpu).tail with
  | none => true
  | some tail => (state.nodes tail).ticks > ticks

/-- The part of `sleep` that links the node and sets the timer. -/
def insertNode (platform : Platform) (state : State) (cpu : Nat) (node : Address)
    (rounds : Nat) : Option State :=
  if isFirst state cpu (state.nodes node).ticks then
    let state := state.setNode node ({ · with next := (state.sleeping cpu).tail })
    let state := state.setTail cpu (some node)
    state.act platform (.setTimerTicks cpu (state.nodes node).ticks)
  else do
    let tail ← (state.sleeping cpu).tail
    let prev ← lastNotLater state.nodes (state.nodes node).ticks rounds tail
    let state := state.setNode node ({ · with next := (state.nodes prev).next })
    some (state.setNode prev ({ · with next := some node }))

/-- `sleep`, called by the thread that the CPU executes, with the block that the pool gives
and an upper bound for the rounds of the loop. -/
def sleep (platform : Platform) (state : State) (cpu : Nat) (period : BitVec 64)
    (block : Option Address) (rounds : Nat) : Option (State × ErrCode) := do
  let thread ← (state.world.state.machines cpu).fsBase
  match block with
  | none => some (state, .errOutOfMemory)
  | some node =>
      let deadline := state.world.state.ticks + period / BitVec.ofNat 64 configSchedulerTickInterval
      let state := state.setAllocated node true
      let state := state.setNode node fun data =>
        { data with thread := Scheduler.getThread state.world.state cpu, ticks := deadline }
      let state ← insertNode platform state cpu node rounds
      let state := state.record thread cpu deadline
      let state ← state.act platform (.pauseThis cpu (some (state.sleeping cpu).lock))
      some (state, .errNone)

end Sleep
end ToyKernel
