import ToyKernel.Tasks.Defs

/-!
# The CPUs with their tasks

Each step is one of the spinlocks and the code on the CPUs, as `Masking` has it, together
with what it does to the threads and to the task messages.
-/

namespace ToyKernel
namespace Tasks

open Masking (Agent Lock)
open Scheduler (IntStackFrame Platform)

variable {Thread : Type}

/-- The steps of the CPUs. -/
inductive Action (Thread : Type)
  /-- The code on a CPU calls `acquire_spinlock` for a spinlock outside the scheduler. -/
  | acquire (cpu : Nat) (lock : Address)
  /-- The code on a CPU releases its newest spinlock, which is outside the scheduler. -/
  | release (cpu : Nat)
  /-- The next access in `acquire_spinlock` or `release_spinlock`. -/
  | spin (cpu : Nat)
  /-- The code on a CPU calls the scheduler. -/
  | call (cpu : Nat) (request : Request Thread)
  /-- The next step of the call; `target` is what `find_least_loaded_cpu` returns, and `next`
  the thread that `do_pause_task` chooses. -/
  | advance (cpu target : Nat) (next : Option Thread)
  /-- The code of a thread changes its registers. -/
  | execute (cpu : Nat) (frame : IntStackFrame)
  | timer (cpu : Nat) (next : Option Thread) (fires : Bool)
  /-- The task interrupt that another CPU has issued. -/
  | task (cpu : Nat) (next : Option Thread)
  /-- The next step of `do_self_halt_task`. -/
  | selfHalt (cpu : Nat)
  /-- The timer procedure returns. -/
  | timerReturns (cpu : Nat)
  deriving DecidableEq

/-- The CPU that takes the step. -/
def Action.cpu : Action Thread → Nat
  | .acquire cpu _ | .release cpu | .spin cpu | .call cpu _ | .advance cpu _ _
  | .execute cpu _ | .timer cpu _ _ | .task cpu _ | .selfHalt cpu | .timerReturns cpu => cpu

/-- Where a call begins. -/
def Request.start : Request Thread → Stage Thread
  | .attachThread _ | .detachThread _ => .lockAll
  | .resumeThread _ | .deactivateThread _ _ _ => .lockInactive

/-- The spinlock that a position acquires. -/
def Stage.acquires : Stage Thread → Option Lock
  | .lockAll => some .all
  | .lockInactive => some .inactive
  | .lockCpu cpu _ => some (.cpu cpu)
  | _ => none

/-- The spinlock that a position releases. -/
def Stage.releases : Stage Thread → Option Lock
  | .unlockCpu cpu _ => some (.cpu cpu)
  | .unlockInactive _ => some .inactive
  | .unlockAll _ => some .all
  | _ => none

/-- The spinlock given to `pause_this_thread`. -/
def Request.given : Request Thread → Option Lock
  | .deactivateThread _ _ lockToRelease => lockToRelease.map .other
  | _ => none

/-- A spinlock outside the scheduler. -/
def isOther : Lock → Bool
  | .other _ => true
  | _ => false

variable [DecidableEq Thread]

/-- Who may call what: timer procedures call `resume_thread`, and a spinlock is given to
`pause_this_thread` only. -/
def Request.permits (request : Request Thread) (agent : Agent Thread) : Bool :=
  match agent, request with
  | .handler _, .resumeThread _ => true
  | .handler _, _ => false
  | .thread thread, .deactivateThread stop id lockToRelease =>
      lockToRelease = none ∨ (stop = false ∧ id = thread)
  | .thread _, _ => true

namespace State

/-- An agent that has returned from `acquire_spinlock` and `release_spinlock`. -/
def ready (state : State Thread) (agent : Agent Thread) : Bool :=
  (state.masking.frames agent).position = .idle

/-- The agent on a CPU, if it is in no call of the scheduler. -/
def caller (state : State Thread) (cpu : Nat) : Option (Agent Thread) := do
  let agent ← state.masking.agent cpu
  if state.calls agent = none then some agent else none

/-- The agent on a CPU and its call of the scheduler. -/
def calling (state : State Thread) (cpu : Nat) : Option (Agent Thread × Call Thread) := do
  let agent ← state.masking.agent cpu
  let call ← state.calls agent
  if state.ready agent then some (agent, call) else none

/-- The next access in `acquire_spinlock` or `release_spinlock`. -/
def spin (state : State Thread) (cpu : Nat) (agent : Agent Thread) :
    Option (Masking.State Thread) :=
  match (state.masking.frames agent).position with
  | .trying lock 1 _ =>
      -- the last of all tries, which is not reached
      if (state.masking.locks lock).busy then none else state.masking.advance cpu agent
  | _ => state.masking.advance cpu agent

/-- `release_spinlock_int` at the end of `do_self_halt_task`, for the spinlock that is now in
the message. -/
def freeGiven (state : State Thread) (cpu : Nat) : Option (Masking.State Thread) :=
  match (state.cpus cpu).task.lock with
  | none => some state.masking
  | some lock =>
      if (state.masking.frames (.handler cpu)).held = [.other lock] then
        state.masking.handOver cpu
      else
        some (state.masking.setLock (.other lock) (state.masking.locks (.other lock)).release)

/-- What a step does to the spinlocks and to the code on the CPUs. -/
def actMasking (platform : Platform) (state : State Thread) :
    Action Thread → Option (Masking.State Thread)
  | .acquire cpu lock => do
      state.masking.acquireSpinlock cpu (← state.caller cpu) (.other lock) 0
  | .release cpu => do
      let agent ← state.caller cpu
      let lock ← (state.masking.frames agent).held.head?
      if isOther lock then state.masking.releaseSpinlock agent else none
  | .spin cpu => do
      state.spin cpu (← state.masking.agent cpu)
  | .call _ _ | .execute _ _ => some state.masking
  | .advance cpu _ _ => do
      let (agent, call) ← state.calling cpu
      match call.stage.acquires, call.stage.releases with
      | some lock, _ => state.masking.acquireSpinlock cpu agent lock 0
      | none, some lock =>
          if (state.masking.frames agent).held.head? = some lock then
            state.masking.releaseSpinlock agent
          else
            none
      | none, none =>
          if call.stage = .interrupt then state.masking.selfHalt cpu call.request.given
          else some state.masking
  | .timer cpu next fires =>
      state.masking.timerInterrupt platform.cpus cpu (state.dispatched cpu next) fires
  | .task cpu _ => state.masking.taskInterrupt cpu (state.pauses cpu)
  | .selfHalt cpu => do
      let halt ← state.halts cpu
      if (state.masking.cores cpu).handler = some .selfHalt then
        match halt.stage with
        | .save | .test => some state.masking
        | .freeCpu | .freeInactive => state.masking.handOver cpu
        | .free => state.freeGiven cpu
        -- a spinlock that has not been released is lost
        | .done => (state.masking.setFrame (.handler cpu) .empty).returnFromInterrupt cpu
      else
        none
  | .timerReturns cpu =>
      if (state.masking.cores cpu).handler = some .timer then
        state.masking.returnFromInterrupt cpu
      else
        none

/-- What a step does to the rest. -/
def actTasks (platform : Platform) (state : State Thread) :
    Action Thread → Option (State Thread)
  | .acquire _ _ | .release _ | .spin _ => some state
  | .call cpu request => do
      let agent ← state.caller cpu
      if state.ready agent ∧ request.permits agent then
        some (state.setCall agent (some
          { request := request, tries := Scheduler.taskRetryCount, stage := request.start }))
      else
        none
  | .advance cpu target next => do
      let (agent, call) ← state.calling cpu
      state.advance platform cpu agent call target next
  | .execute cpu frame => do
      match ← state.masking.agent cpu with
      | .thread _ => some (state.setCpu cpu ({ · with frame := frame }))
      | .handler _ => none
  | .timer cpu next _ => state.schedule cpu next
  | .task cpu next => do
      if (state.cpus cpu).pending then
        let state ← handleTask platform state cpu true next
        some (state.setCpu cpu ({ · with pending := false }))
      else
        none
  | .selfHalt cpu => state.doSelfHaltTask platform cpu
  | .timerReturns cpu => if state.calls (.handler cpu) = none then some state else none

/-- One step. -/
def act (platform : Platform) (state : State Thread) (action : Action Thread) :
    Option (State Thread) := do
  let masking ← state.actMasking platform action
  let after ← state.actTasks platform action
  some { after with masking := masking }

/-- After boot threads are in the run queues, and all CPUs wait for their timers. -/
structure Initial (state : State Thread) : Prop where
  masking : state.masking = .initial
  queued : ∀ cpu, ∀ thread ∈ (state.cpus cpu).queue, (state.threads thread).attached = true ∧
    (state.threads thread).state = .running ∧ (state.threads thread).cpu = cpu
  current : ∀ cpu, (state.cpus cpu).current = (state.cpus cpu).queue.head?
  loadContext : ∀ cpu, (state.cpus cpu).loadContext = true
  nodup : ∀ cpu, (state.cpus cpu).queue.Nodup
  pending : ∀ cpu, (state.cpus cpu).pending = false
  calls : ∀ agent, state.calls agent = none
  halts : ∀ cpu, state.halts cpu = none
  history : state.history = []

end State

/-- The CPUs as a transition system. -/
def system (Thread : Type) [DecidableEq Thread] (platform : Platform) :
    TransitionSystem (State Thread) (Action Thread) where
  initial := State.Initial
  step := fun state action => if action.cpu < platform.cpus then state.act platform action else none

end Tasks
end ToyKernel
