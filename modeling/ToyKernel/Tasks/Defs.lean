import ToyKernel.Masking.System
import ToyKernel.Scheduler.Defs

/-!
# Tasks for other CPUs

`run_cpu_task` and the calls of the scheduler that use it, one access of a spinlock or of a
task message at a time.  The spinlocks, the interrupt flags and the code on the CPUs are
those of `Masking`.

The run queues of a CPU are one list here, with the thread that is the first of the current
priority.  Which thread is the next one, and which CPU a resumed thread gets, is left to the
action.  An id is the thread it belongs to; a stale one is like that of a thread that is not
attached.  `attach_thread` checks under its spinlocks what it checks before it acquires them;
two calls for one thread are the subject of `Attaching`.  `acquire_spinlock` with zero tries
does not give up.
-/

namespace ToyKernel
namespace Tasks

open Masking (Agent Lock)
open Scheduler (IntStackFrame Platform TaskType ThreadState)

variable {Thread : Type}

/-- `struct cpu_task`. -/
structure CpuTask (Thread : Type) where
  type : TaskType
  error : ErrCode
  thread : Option Thread
  lock : Option Address
  deriving DecidableEq

/-- `struct thread_data`, as far as the tasks are concerned. -/
structure ThreadData where
  attached : Bool
  state : ThreadState
  cpu : Nat
  context : IntStackFrame

/-- `struct cpu_data`, and the registers of the code that the CPU executes. -/
structure CpuData (Thread : Type) where
  /-- The threads in the run queues. -/
  queue : List Thread
  /-- The first thread of the current priority. -/
  current : Option Thread
  loadContext : Bool
  task : CpuTask Thread
  /-- The task interrupt has been issued and not been taken. -/
  pending : Bool
  frame : IntStackFrame

/-- A thread enters the run queues of a CPU.  It is the current one if there is no other. -/
def CpuData.enqueue [DecidableEq Thread] (cpud : CpuData Thread) (thread : Thread) :
    CpuData Thread :=
  if cpud.queue = [] then
    { cpud with queue := [thread], current := some thread, loadContext := true }
  else
    { cpud with queue := cpud.queue ++ [thread] }

/-- The calls. -/
inductive Request (Thread : Type)
  | attachThread (thread : Thread)
  | detachThread (id : Thread)
  | resumeThread (id : Thread)
  | deactivateThread (stop : Bool) (id : Thread) (lockToRelease : Option Address)
  deriving DecidableEq

/-- The positions in a call.  A step is taken when the call of `acquire_spinlock` or
`release_spinlock` before it has returned. -/
inductive Stage (Thread : Type)
  /-- Before `all.lock` is acquired. -/
  | lockAll
  /-- Before `inactive.lock` is acquired. -/
  | lockInactive
  /-- Before `WITH_STAMP_ID`, or before `attach_thread` links the thread. -/
  | body
  /-- At the head of the loop of `deactivate_thread`. -/
  | attempt
  /-- In `run_cpu_task`, before the spinlock of the CPU is acquired. -/
  | lockCpu (cpu : Nat) (task : CpuTask Thread)
  /-- Before the message is written. -/
  | post (cpu : Nat) (task : CpuTask Thread)
  /-- In the loop that waits for `error` to change. -/
  | wait (cpu : Nat)
  /-- Before the message is read back. -/
  | copy (cpu : Nat)
  /-- Before the spinlock of the CPU is released. -/
  | unlockCpu (cpu : Nat) (task : CpuTask Thread)
  /-- After `run_cpu_task`. -/
  | finish (task : CpuTask Thread)
  /-- Before `__issue_local_task_interrupt`. -/
  | interrupt
  /-- After it. -/
  | halted
  /-- Before `inactive.lock` is released. -/
  | unlockInactive (err : ErrCode)
  /-- Before `all.lock` is released. -/
  | unlockAll (err : ErrCode)
  deriving DecidableEq

/-- A call with the rounds that the loop of `deactivate_thread` has left. -/
structure Call (Thread : Type) where
  request : Request Thread
  tries : Nat
  stage : Stage Thread
  deriving DecidableEq

/-- `goto`. -/
def Call.goto (call : Call Thread) (stage : Stage Thread) : Call Thread :=
  { call with stage := stage }

/-- Positions in `do_self_halt_task`. -/
inductive HaltStage
  /-- Before the context is saved. -/
  | save
  /-- Before `cpus[cpu].lock` is released. -/
  | freeCpu
  /-- Before `inactive.lock` is released. -/
  | freeInactive
  /-- Before the test of `task->lock`. -/
  | test
  /-- Before `task->lock` is released. -/
  | free
  /-- Before the return from the interrupt. -/
  | done
  deriving DecidableEq

/-- What `do_self_halt_task` does to the others. -/
inductive Effect (Thread : Type)
  | saved (thread : Thread) (context : IntStackFrame)
  | freed (lock : Lock)
  deriving DecidableEq

/-- A run of `do_self_halt_task`.  The fields after the first one are not in memory: the
thread that has issued the interrupt, the argument of its call, its registers, whether it
was in the `inactive` list and not running, the messages that have been read, and the
effects. -/
structure Halt (Thread : Type) where
  stage : HaltStage
  thread : Thread
  lockToRelease : Option Address
  frame : IntStackFrame
  parked : Bool
  reads : List (CpuTask Thread)
  effects : List (Effect Thread)
  deriving DecidableEq

/-- What the history records. -/
inductive Event (Thread : Type)
  /-- A run of `do_self_halt_task` has ended. -/
  | halted (cpu : Nat) (halt : Halt Thread)
  /-- A call has returned that has not halted its thread. -/
  | returned (agent : Agent Thread) (request : Request Thread) (err : ErrCode)
  deriving DecidableEq

structure State (Thread : Type) where
  masking : Masking.State Thread
  threads : Thread → ThreadData
  /-- The list `inactive`. -/
  inactive : List Thread
  cpus : Nat → CpuData Thread
  calls : Agent Thread → Option (Call Thread)
  halts : Nat → Option (Halt Thread)
  history : List (Event Thread)

namespace State

variable [DecidableEq Thread]

@[simps]
def setThread (state : State Thread) (thread : Thread) (change : ThreadData → ThreadData) :
    State Thread :=
  { state with
    threads := Function.update state.threads thread (change (state.threads thread)) }

@[simps]
def setCpu (state : State Thread) (cpu : Nat) (change : CpuData Thread → CpuData Thread) :
    State Thread :=
  { state with cpus := Function.update state.cpus cpu (change (state.cpus cpu)) }

@[simps!]
def setTask (state : State Thread) (cpu : Nat) (change : CpuTask Thread → CpuTask Thread) :
    State Thread :=
  state.setCpu cpu fun cpud => { cpud with task := change cpud.task }

@[simps]
def setInactive (state : State Thread) (change : List Thread → List Thread) : State Thread :=
  { state with inactive := change state.inactive }

@[simps]
def setCall (state : State Thread) (agent : Agent Thread) (call : Option (Call Thread)) :
    State Thread :=
  { state with calls := Function.update state.calls agent call }

@[simps]
def setHalt (state : State Thread) (cpu : Nat) (halt : Option (Halt Thread)) : State Thread :=
  { state with halts := Function.update state.halts cpu halt }

@[simps]
def record (state : State Thread) (event : Event Thread) : State Thread :=
  { state with history := state.history ++ [event] }

/-- Move an agent to another position of its call. -/
@[simps!]
def goto (state : State Thread) (agent : Agent Thread) (call : Call Thread)
    (stage : Stage Thread) : State Thread :=
  state.setCall agent (some (call.goto stage))

/-! ## The tasks -/

/-- `do_resume_task`. -/
def doResumeTask (state : State Thread) (cpu : Nat) : Option (State Thread) := do
  let thread ← (state.cpus cpu).task.thread
  let state := state.setThread thread ({ · with state := .running, cpu := cpu })
  let state := state.setCpu cpu (CpuData.enqueue · thread)
  some (state.setTask cpu ({ · with error := .errNone }))

/-- The choice of the next thread in `do_pause_task`, if threads remain. -/
def chooseNext (state : State Thread) (cpu : Nat) (next : Option Thread) :
    Option (State Thread) :=
  if (state.cpus cpu).queue = [] then
    some (state.setCpu cpu ({ · with current := none }))
  else do
    let thread ← next
    if thread ∈ (state.cpus cpu).queue then
      some (state.setCpu cpu ({ · with current := some thread, loadContext := true }))
    else
      none

/-- `__store_halt`. -/
def storeHalt (platform : Platform) (frame : IntStackFrame) : IntStackFrame :=
  { frame with rip := platform.halt }

/-- `__store_int_enabled`. -/
def storeIntEnabled (frame : IntStackFrame) : IntStackFrame :=
  { frame with rflags := frame.rflags ||| Scheduler.rflagsIf }

/-- The part of `do_pause_task` for the current thread of a CPU.  Without a stack frame the
context is saved later. -/
def haltCurrent (platform : Platform) (state : State Thread) (cpu : Nat) (thread : Thread)
    (stackFrame : Bool) : State Thread :=
  if stackFrame then
    (state.setThread thread ({ · with context := (state.cpus cpu).frame })).setCpu cpu
      fun cpud => { cpud with frame := storeHalt platform cpud.frame }
  else
    state.setTask cpu ({ · with type := .selfHalt })

/-- Whether the message of a CPU asks for a thread that runs there, and whether it is the
current one. -/
def finds (state : State Thread) (cpu : Nat) (thread : Thread) : Bool :=
  (state.threads thread).state = .running ∧ (state.threads thread).cpu = cpu

/-- `do_pause_task`. -/
def doPauseTask (platform : Platform) (state : State Thread) (cpu : Nat) (stackFrame : Bool)
    (next : Option Thread) : Option (State Thread) := do
  let thread ← (state.cpus cpu).task.thread
  if state.finds cpu thread then
    let removed := state.setCpu cpu fun cpud => { cpud with queue := cpud.queue.erase thread }
    if (state.cpus cpu).current = some thread then
      let chosen ← removed.chooseNext cpu next
      some ((haltCurrent platform chosen cpu thread stackFrame).setTask cpu
        ({ · with error := .errNone }))
    else
      some (removed.setTask cpu ({ · with error := .errNone }))
  else
    some (state.setTask cpu ({ · with error := .errNotFound }))

/-- The task interrupt for the tasks that other CPUs issue, also called without a stack
frame. -/
def handleTask (platform : Platform) (state : State Thread) (cpu : Nat) (stackFrame : Bool)
    (next : Option Thread) : Option (State Thread) :=
  match (state.cpus cpu).task.type with
  | .resume => state.doResumeTask cpu
  | .pause => doPauseTask platform state cpu stackFrame next
  | .selfHalt => none

/-- Whether the message of a CPU pauses the current thread. -/
def pauses (state : State Thread) (cpu : Nat) : Bool :=
  match (state.cpus cpu).task.type, (state.cpus cpu).task.thread with
  | .pause, some thread => state.finds cpu thread ∧ (state.cpus cpu).current = some thread
  | _, _ => false

/-- The next step of `do_self_halt_task`. -/
def doSelfHaltTask (platform : Platform) (state : State Thread) (cpu : Nat) :
    Option (State Thread) := do
  let halt ← state.halts cpu
  let task := (state.cpus cpu).task
  match halt.stage with
  | .save => do
      let thread ← task.thread
      let frame := storeIntEnabled (state.cpus cpu).frame
      let state := state.setThread thread ({ · with context := frame })
      let state := state.setCpu cpu ({ · with frame := storeHalt platform frame })
      some (state.setHalt cpu (some { halt with
        stage := .freeCpu
        reads := halt.reads ++ [task]
        effects := halt.effects ++ [.saved thread frame] }))
  | .freeCpu =>
      some (state.setHalt cpu (some { halt with
        stage := .freeInactive
        effects := halt.effects ++ [.freed (.cpu cpu)] }))
  | .freeInactive =>
      some (state.setHalt cpu (some { halt with
        stage := .test
        effects := halt.effects ++ [.freed .inactive] }))
  | .test =>
      some (state.setHalt cpu (some { halt with
        stage := if task.lock.isSome then .free else .done
        reads := halt.reads ++ [task] }))
  | .free =>
      some (state.setHalt cpu (some { halt with
        stage := .done
        reads := halt.reads ++ [task]
        effects := halt.effects ++ (task.lock.map fun lock => .freed (.other lock)).toList }))
  | .done => some ((state.setHalt cpu none).record (.halted cpu halt))

/-! ## The calls -/

/-- `attach_thread` under its spinlocks. -/
def attachThread (state : State Thread) (thread : Thread) : State Thread × ErrCode :=
  if (state.threads thread).attached then
    (state, .errBadState)
  else
    let state := state.setThread thread ({ · with attached := true, state := .paused })
    (state.setInactive (thread :: ·), .errNone)

/-- `detach_thread` under its spinlocks. -/
def detachThread (state : State Thread) (id : Thread) : State Thread × ErrCode :=
  if (state.threads id).attached then
    if (state.threads id).state = .paused ∨ (state.threads id).state = .stopped then
      ((state.setInactive (·.erase id)).setThread id ({ · with attached := false }), .errNone)
    else
      (state, .errBadState)
  else
    (state, .errNotFound)

/-- What the calls do after they have acquired `inactive.lock`; `target` is what
`find_least_loaded_cpu` returns. -/
def enterBody (platform : Platform) (state : State Thread) (agent : Agent Thread)
    (call : Call Thread) (target : Nat) : Option (State Thread) :=
  match call.request with
  | .attachThread thread =>
      let result := state.attachThread thread
      some (result.1.goto agent call (.unlockInactive result.2))
  | .detachThread id =>
      let result := state.detachThread id
      some (result.1.goto agent call (.unlockInactive result.2))
  | .resumeThread id =>
      if (state.threads id).attached then
        if (state.threads id).state = .paused then
          if target < platform.cpus then
            some ((state.setInactive (·.erase id)).goto agent call (.lockCpu target
              { type := .resume, error := .errNone, thread := some id, lock := none }))
          else
            none
        else
          some (state.goto agent call (.unlockInactive .errBadState))
      else
        some (state.goto agent call (.unlockInactive .errNotFound))
  | .deactivateThread _ id _ =>
      if (state.threads id).attached then
        some (state.goto agent call .attempt)
      else
        some (state.goto agent call (.unlockInactive .errNotFound))

/-- A round of the loop of `deactivate_thread` up to `run_cpu_task`. -/
def attempt (state : State Thread) (agent : Agent Thread) (call : Call Thread) :
    Option (State Thread) :=
  match call.request, call.tries with
  | .deactivateThread _ _ _, 0 => some (state.goto agent call (.unlockInactive .errBusy))
  | .deactivateThread stop id lockToRelease, tries + 1 =>
      match (state.threads id).state with
      | .running =>
          let task : CpuTask Thread :=
            { type := .pause, error := .errNone, thread := some id, lock := lockToRelease }
          some (state.setCall agent (some { call with
            tries := tries, stage := .lockCpu (state.threads id).cpu task }))
      | .paused =>
          if stop then
            some ((state.setThread id ({ · with state := .stopped })).goto agent call
              (.unlockInactive .errNone))
          else
            some (state.goto agent call (.unlockInactive .errBadState))
      | .stopped => some (state.goto agent call (.unlockInactive .errBadState))
      | .unknown =>
          -- no case of the `switch`, so that `err` is what the last round has left
          let err := if tries + 1 = Scheduler.taskRetryCount then .errNone else .errBusy
          some (state.goto agent call (.unlockInactive err))
  | _, _ => none

/-- `run_cpu_task` from the message to the handler, or to the loop that waits for it. -/
def post (platform : Platform) (state : State Thread) (cpu : Nat) (agent : Agent Thread)
    (call : Call Thread) (target : Nat) (task : CpuTask Thread) (next : Option Thread) :
    Option (State Thread) :=
  if target = cpu then do
    let state ← handleTask platform (state.setTask cpu fun _ => task) cpu false next
    some (state.goto agent call (.copy cpu))
  else
    let state := state.setCpu target fun cpud =>
      { cpud with task := { task with error := .errBusy }, pending := true }
    some (state.goto agent call (.wait target))

/-- The thread goes to the `inactive` list in `deactivate_running`. -/
def parkThread (state : State Thread) (thread : Thread) (stop : Bool) : State Thread :=
  (state.setThread thread ({ · with state := if stop then .stopped else .paused })).setInactive
    (thread :: ·)

/-- What the calls do after `run_cpu_task`. -/
def finish (state : State Thread) (agent : Agent Thread) (call : Call Thread)
    (task : CpuTask Thread) : Option (State Thread) :=
  match call.request with
  | .resumeThread _ => some (state.goto agent call (.unlockInactive .errNone))
  | .deactivateThread stop id _ =>
      if task.error = .errNone then
        let state := state.parkThread id stop
        if task.type = .selfHalt then
          some (state.goto agent call .interrupt)
        else
          some (state.goto agent call (.unlockInactive .errNone))
      else if task.error = .errNotFound then
        some (state.goto agent call .attempt)
      else
        some (state.goto agent call (.unlockInactive task.error))
  | _ => none

/-- `__issue_local_task_interrupt`, up to the call of `do_self_halt_task`. -/
def issueLocalTask (state : State Thread) (cpu : Nat) (agent : Agent Thread)
    (call : Call Thread) : Option (State Thread) :=
  match agent, call.request, (state.cpus cpu).task.type with
  | .thread thread, .deactivateThread _ _ lockToRelease, .selfHalt =>
      let halt : Halt Thread :=
        { stage := .save
          thread := thread
          lockToRelease := lockToRelease
          frame := (state.cpus cpu).frame
          parked := thread ∈ state.inactive ∧ (state.threads thread).state ≠ .running
          reads := [(state.cpus cpu).task]
          effects := [] }
      some ((state.setHalt cpu (some halt)).goto agent call .halted)
  | _, _, _ => none

/-- A call returns without having halted its thread. -/
def leave (state : State Thread) (agent : Agent Thread) (call : Call Thread) (err : ErrCode) :
    State Thread :=
  (state.setCall agent none).record (.returned agent call.request err)

/-- The next step of a call. -/
def advance (platform : Platform) (state : State Thread) (cpu : Nat) (agent : Agent Thread)
    (call : Call Thread) (target : Nat) (next : Option Thread) : Option (State Thread) :=
  match call.stage with
  | .lockAll => some (state.goto agent call .lockInactive)
  | .lockInactive => some (state.goto agent call .body)
  | .body => enterBody platform state agent call target
  | .attempt => state.attempt agent call
  | .lockCpu target task => some (state.goto agent call (.post target task))
  | .post target task => post platform state cpu agent call target task next
  | .wait target =>
      if (state.cpus target).task.error = .errBusy then none
      else some (state.goto agent call (.copy target))
  | .copy target =>
      let task := (state.cpus target).task
      if task.type = .selfHalt then some (state.goto agent call (.finish task))
      else some (state.goto agent call (.unlockCpu target task))
  | .unlockCpu _ task => some (state.goto agent call (.finish task))
  | .finish task => state.finish agent call task
  | .interrupt => state.issueLocalTask cpu agent call
  | .halted => some (state.setCall agent none)
  | .unlockInactive err =>
      match call.request with
      | .attachThread _ | .detachThread _ => some (state.goto agent call (.unlockAll err))
      | _ => some (state.leave agent call err)
  | .unlockAll err => some (state.leave agent call err)

/-! ## The timer interrupt -/

/-- The thread whose context the timer interrupt stores into its stack frame, if any. -/
def dispatched (state : State Thread) (cpu : Nat) (next : Option Thread) : Option Thread :=
  if (state.cpus cpu).queue = [] then none
  else if (state.cpus cpu).loadContext then (state.cpus cpu).current
  else next

/-- The timer interrupt before its label `exit`. -/
def schedule (state : State Thread) (cpu : Nat) (next : Option Thread) :
    Option (State Thread) :=
  if (state.cpus cpu).queue = [] then
    some state
  else do
    let thread ← (state.cpus cpu).current
    if (state.cpus cpu).loadContext then
      some (state.setCpu cpu ({ · with
        frame := (state.threads thread).context, loadContext := false }))
    else
      match next with
      | none => some state
      | some thread2 =>
          if thread2 ∈ (state.cpus cpu).queue ∧ thread2 ≠ thread then
            let state := state.setThread thread ({ · with context := (state.cpus cpu).frame })
            some (state.setCpu cpu ({ · with
              frame := (state.threads thread2).context, current := some thread2 }))
          else
            none

end State

end Tasks
end ToyKernel
