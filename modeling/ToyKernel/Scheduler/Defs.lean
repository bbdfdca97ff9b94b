import ToyKernel.BitArray
import ToyKernel.Common
import ToyKernel.StampId
import Mathlib.Logic.Function.Basic

/-!
# The scheduler

The data of `schedule.h` and `schedule.c`, with the registers of each CPU.  A C
pointer is an optional address, and a step that would follow a null pointer has
no result.
-/

namespace ToyKernel
namespace Scheduler

/-- `THREAD_MAGIC`. -/
def threadMagic : BitVec 64 := 0x3141592653589793

/-- `STACK_OVERRUN_MAGIC`. -/
def stackOverrunMagic : BitVec 64 := 0x2384626433832795

/-- `THREAD_STACK_SIZE_MIN`. -/
def threadStackSizeMin : BitVec 64 := 16

/-- `PRIORITY_MASK_SIZE`. -/
def priorityMaskSize : Nat := (configSchedulerPriorities + 63) / 64

/-- `TASK_RETRY_COUNT`. -/
def taskRetryCount : Nat := 3

/-- `INT32_MAX`. -/
def int32Max : Int := 0x7FFFFFFF

/-- `RFLAGS_IF`. -/
def rflagsIf : BitVec 64 := 0x200

/-- `struct int_stack_frame`; the registers that the scheduler only copies are one
field. -/
structure IntStackFrame where
  rdi : BitVec 64
  rip : BitVec 64
  cs : BitVec 16
  rflags : BitVec 64
  rsp : BitVec 64
  ss : BitVec 16
  others : List (BitVec 8)
  deriving DecidableEq

/-- `THREAD_STATE_*`. -/
inductive ThreadState
  | unknown
  | running
  | paused
  | stopped
  deriving DecidableEq, Repr

/-- `struct thread_data`. -/
structure ThreadData where
  magic : BitVec 64
  prev : Option Address
  next : Option Address
  allPrev : Option Address
  allNext : Option Address
  context : IntStackFrame
  stack : Option Address
  stackSize : BitVec 64
  affinity : List (BitVec 64)
  output : BitVec 64
  runTime : BitVec 64
  priority : Nat
  realPriority : Nat
  quantum : Nat
  stamp : Nat
  cpu : Nat
  state : ThreadState
  deriving DecidableEq

/-- `struct cpu_priority`. -/
structure CpuPriority where
  expiredHead : Option Address
  expiredTail : Option Address
  activeTail : Option Address
  totalThreads : Int
  deriving DecidableEq

/-- `CPU_TASK_*`. -/
inductive TaskType
  | resume
  | pause
  | selfHalt
  deriving DecidableEq, Repr

/-- `struct cpu_task`. -/
structure CpuTask where
  type : TaskType
  error : ErrCode
  thread : Option Address
  lock : Option Address
  deriving DecidableEq

/-- `struct cpu_data`, except for its spinlock. -/
structure CpuData where
  totalThreads : Int
  currentPriority : Nat
  priorities : Nat → CpuPriority
  priorityMask : List (BitVec 64)
  task : CpuTask
  loadContext : Bool

/-- `struct thread_list`, except for its spinlock. -/
structure ThreadList where
  totalThreads : Int
  tail : Option Address
  deriving DecidableEq

/-- A CPU as the scheduler sees it in an interrupt: the registers of the code it
interrupted, the register that holds the current thread, and whether it was
stopped by `__panic_stack_overrun`.  `executing` is not in memory: it names the
thread whose code the CPU runs, from the moment its context is stored into the
frame until the frame is sent to the halt loop. -/
structure Machine where
  frame : IntStackFrame
  fsBase : Option Address
  executing : Option Address
  panicked : Bool
  deriving DecidableEq

/-- What the build and the boot code fix: the address of `__halt` and of
`__exit_thread`, the number of CPUs and the boot CPU. -/
structure Platform where
  halt : Address
  exitThread : Address
  segmentCode : BitVec 16
  segmentData : BitVec 16
  cpus : Nat
  bspCpu : Nat

/-- The state of the scheduler and of the CPUs.  `memory` holds the words at the
ends of the stacks. -/
structure State where
  threads : Address → ThreadData
  memory : Address → BitVec 64
  cpus : Nat → CpuData
  all : ThreadList
  inactive : ThreadList
  stamp : Nat
  ticks : BitVec 64
  timerTicks : Nat → BitVec 64
  machines : Nat → Machine

namespace State

/-- Assign to fields of a thread. -/
def setThread (state : State) (thread : Address) (change : ThreadData → ThreadData) : State :=
  { state with
    threads := Function.update state.threads thread (change (state.threads thread)) }

/-- Assign to fields of `cpus[cpu]`. -/
def setCpu (state : State) (cpu : Nat) (change : CpuData → CpuData) : State :=
  { state with cpus := Function.update state.cpus cpu (change (state.cpus cpu)) }

/-- Assign to fields of `cpus[cpu].priorities[priority]`. -/
def setPriority (state : State) (cpu priority : Nat) (change : CpuPriority → CpuPriority) :
    State :=
  state.setCpu cpu fun cpud =>
    { cpud with
      priorities := Function.update cpud.priorities priority
        (change (cpud.priorities priority)) }

/-- Assign to fields of `cpus[cpu].task`. -/
def setTask (state : State) (cpu : Nat) (change : CpuTask → CpuTask) : State :=
  state.setCpu cpu fun cpud => { cpud with task := change cpud.task }

/-- Assign to `cpus[cpu].priority_mask`. -/
def setMask (state : State) (cpu : Nat) (change : List (BitVec 64) → List (BitVec 64)) :
    State :=
  state.setCpu cpu fun cpud => { cpud with priorityMask := change cpud.priorityMask }

/-- Change the registers of a CPU. -/
def setMachine (state : State) (cpu : Nat) (change : Machine → Machine) : State :=
  { state with machines := Function.update state.machines cpu (change (state.machines cpu)) }

/-- Assign to fields of `inactive`. -/
def setInactive (state : State) (change : ThreadList → ThreadList) : State :=
  { state with inactive := change state.inactive }

/-- Assign to fields of `all`. -/
def setAll (state : State) (change : ThreadList → ThreadList) : State :=
  { state with all := change state.all }

end State

/-! ## The platform -/

/-- `__set_thread`. -/
def setThreadRegister (state : State) (cpu : Nat) (thread : Option Address) : State :=
  state.setMachine cpu ({ · with fsBase := thread })

/-- `__load_thread_context`. -/
def loadThreadContext (state : State) (cpu : Nat) (thread : Address) : State :=
  state.setThread thread ({ · with context := (state.machines cpu).frame })

/-- `__store_thread_context`. -/
def storeThreadContext (state : State) (cpu : Nat) (thread : Address) : State :=
  state.setMachine cpu
    ({ · with frame := (state.threads thread).context, executing := some thread })

/-- `__store_halt`. -/
def storeHalt (platform : Platform) (state : State) (cpu : Nat) : State :=
  state.setMachine cpu fun machine =>
    { machine with frame := { machine.frame with rip := platform.halt }, executing := none }

/-- `__store_int_enabled`. -/
def storeIntEnabled (state : State) (cpu : Nat) : State :=
  state.setMachine cpu fun machine =>
    { machine with frame := { machine.frame with rflags := machine.frame.rflags ||| rflagsIf } }

/-- `get_thread`. -/
def getThread (state : State) (cpu : Nat) : BitVec 64 :=
  match (state.machines cpu).fsBase with
  | some thread => getStampId thread (state.threads thread).stamp
  | none => 0

/-- The context that `set_thread_context` installs. -/
def initialContext (platform : Platform) (thread : ThreadData) (stack proc input : BitVec 64) :
    IntStackFrame :=
  { thread.context with
    rflags := rflagsIf
    cs := platform.segmentCode
    ss := platform.segmentData
    rsp := stack + thread.stackSize - 8
    rip := proc
    rdi := input }

/-- `set_thread_context`. -/
def setThreadContext (platform : Platform) (state : State) (thread : Address)
    (proc input : BitVec 64) : State × ErrCode :=
  match (state.threads thread).stack with
  | none => (state, .errBadInput)
  | some stack =>
      if (state.threads thread).stackSize < threadStackSizeMin then
        (state, .errBadInput)
      else
        let top := stack + (state.threads thread).stackSize - 8
        let memory := Function.update state.memory stack stackOverrunMagic
        let memory := Function.update memory top platform.exitThread
        let state := { state with memory := memory }
        (state.setThread thread fun data =>
          { data with context := initialContext platform data stack proc input }, .errNone)

/-! ## Attaching and detaching -/

/-- `if (target) target->next = value`. -/
def setNextOf (state : State) (target value : Option Address) : State :=
  match target with
  | some thread => state.setThread thread ({ · with next := value })
  | none => state

/-- `if (target) target->prev = value`. -/
def setPrevOf (state : State) (target value : Option Address) : State :=
  match target with
  | some thread => state.setThread thread ({ · with prev := value })
  | none => state

/-- `if (target) target->all_next = value`. -/
def setAllNextOf (state : State) (target value : Option Address) : State :=
  match target with
  | some thread => state.setThread thread ({ · with allNext := value })
  | none => state

/-- `if (target) target->all_prev = value`. -/
def setAllPrevOf (state : State) (target value : Option Address) : State :=
  match target with
  | some thread => state.setThread thread ({ · with allPrev := value })
  | none => state

/-- `WITH_STAMP_ID`: the object of an id, or the error. -/
def withStampId (state : State) (id : BitVec 64) : Except ErrCode Address :=
  stampIdTarget (fun thread => (state.threads thread).magic)
    (fun thread => (state.threads thread).stamp) threadMagic id

/-- Put a thread in front of the `inactive` list. -/
def linkInactive (state : State) (thread : Address) : State :=
  let state := state.setThread thread ({ · with next := state.inactive.tail })
  let state := setPrevOf state state.inactive.tail (some thread)
  state.setInactive fun list =>
    { list with tail := some thread, totalThreads := list.totalThreads + 1 }

/-- Put a thread in front of the `all` list. -/
def linkAll (state : State) (thread : Address) : State :=
  let state := state.setThread thread ({ · with allNext := state.all.tail })
  let state := setAllPrevOf state state.all.tail (some thread)
  state.setAll fun list =>
    { list with tail := some thread, totalThreads := list.totalThreads + 1 }

/-- Take a thread out of the list it is in. -/
def unlink (state : State) (thread : Address) : State :=
  let state := setPrevOf state (state.threads thread).next (state.threads thread).prev
  setNextOf state (state.threads thread).prev (state.threads thread).next

/-- Take a thread out of the `inactive` list. -/
def unlinkInactive (state : State) (thread : Address) : State :=
  let state := unlink state thread
  let state :=
    if state.inactive.tail = some thread then
      state.setInactive ({ · with tail := (state.threads thread).next })
    else
      state
  state.setInactive fun list => { list with totalThreads := list.totalThreads - 1 }

/-- The same for the links of the `all` list. -/
def unlinkFromAll (state : State) (thread : Address) : State :=
  let state :=
    setAllPrevOf state (state.threads thread).allNext (state.threads thread).allPrev
  setAllNextOf state (state.threads thread).allPrev (state.threads thread).allNext

/-- Take a thread out of the `all` list. -/
def unlinkAll (state : State) (thread : Address) : State :=
  let state := unlinkFromAll state thread
  let state :=
    if state.all.tail = some thread then
      state.setAll ({ · with tail := (state.threads thread).allNext })
    else
      state
  state.setAll fun list => { list with totalThreads := list.totalThreads - 1 }

/-- The checks of `attach_thread`. -/
def checkAttach (platform : Platform) (state : State) (thread : Address) : ErrCode :=
  let data := state.threads thread
  if data.magic = threadMagic then
    .errBadState
  else
    match data.stack with
    | none => .errBadInput
    | some stack =>
        if data.stackSize < threadStackSizeMin ∨ state.memory stack ≠ stackOverrunMagic ∨
            configSchedulerPriorities ≤ data.priority then
          .errBadInput
        else
          match BitArray.findMaskBsf data.affinity with
          | none => .errBadInput
          | some bsf => if platform.cpus ≤ bsf then .errBadInput else .errNone

/-- The part of `attach_thread` that sets fields of the thread. -/
def initAttached (state : State) (thread : Address) : State :=
  let state := state.setThread thread
    ({ · with prev := none, allPrev := none, state := .paused, runTime := 0 })
  let (stamp, globalStamp) := assignStampIdStamp state.stamp
  let state := state.setThread thread ({ · with magic := threadMagic, stamp := stamp })
  { state with stamp := globalStamp }

/-- `attach_thread`; the last component is what it stores into `*id`. -/
def attachThread (platform : Platform) (state : State) (thread : Address) :
    State × ErrCode × Option (BitVec 64) :=
  match checkAttach platform state thread with
  | .errNone =>
      let state := initAttached state thread
      let state := linkAll state thread
      let state := linkInactive state thread
      (state, .errNone, some (getStampId thread (state.threads thread).stamp))
  | err => (state, err, none)

/-- `detach_thread`; the last component is the thread. -/
def detachThread (state : State) (id : BitVec 64) : State × ErrCode × Option Address :=
  match withStampId state id with
  | .error err => (state, err, none)
  | .ok thread =>
      if (state.threads thread).state = .paused ∨ (state.threads thread).state = .stopped then
        let state := unlinkInactive state thread
        let state := unlinkAll state thread
        let state := state.setThread thread
          ({ · with magic := 0, prev := none, next := none, allPrev := none, allNext := none })
        (state, .errNone, some thread)
      else
        (state, .errBadState, none)

/-! ## Run queues -/

/-- `update_priority_quantum`. -/
def updatePriorityQuantum (state : State) (thread : Address) : State :=
  state.setThread thread fun data =>
    { data with realPriority := data.priority, quantum := 10 }

/-- The part of `add_expired` that links the thread. -/
def linkExpired (state : State) (cpu : Nat) (thread : Address) : State :=
  let priority := (state.threads thread).realPriority
  let prio := (state.cpus cpu).priorities priority
  let state := state.setThread thread ({ · with prev := none, next := none })
  if prio.totalThreads ≠ 0 then
    let state :=
      match prio.expiredHead with
      | some head =>
          (state.setThread head ({ · with next := some thread })).setThread thread
            ({ · with prev := some head })
      | none => state.setPriority cpu priority ({ · with expiredTail := some thread })
    state.setPriority cpu priority ({ · with expiredHead := some thread })
  else
    state.setPriority cpu priority ({ · with activeTail := some thread })

/-- `add_expired`. -/
def addExpired (state : State) (cpu : Nat) (thread : Address) : State :=
  let priority := (state.threads thread).realPriority
  let state := linkExpired state cpu thread
  let state := state.setMask cpu fun mask => BitArray.set mask priority
  state.setPriority cpu priority fun prio =>
    { prio with totalThreads := prio.totalThreads + 1 }

/-- One thread less has a priority. -/
def countRemoved (state : State) (cpu priority : Nat) : State :=
  let state := state.setPriority cpu priority fun prio =>
    { prio with totalThreads := prio.totalThreads - 1 }
  if ((state.cpus cpu).priorities priority).totalThreads = 0 then
    state.setMask cpu fun mask => BitArray.reset mask priority
  else
    state

/-- The expired threads become the active ones. -/
def CpuPriority.takeExpired (prio : CpuPriority) : CpuPriority :=
  { prio with activeTail := prio.expiredTail, expiredTail := none, expiredHead := none }

/-- The list heads in `do_pause_task`, given the links of the removed thread. -/
def CpuPriority.dropThread (prio : CpuPriority) (thread : Address)
    (next prev : Option Address) : CpuPriority :=
  if prio.activeTail = some thread then
    let prio := { prio with activeTail := next }
    if prio.activeTail = none then prio.takeExpired else prio
  else
    { prio with
      expiredHead := if prio.expiredHead = some thread then prev else prio.expiredHead
      expiredTail := if prio.expiredTail = some thread then next else prio.expiredTail }

/-- The part of `do_pause_task` that takes a thread out of its run queue. -/
def removeQueued (state : State) (cpu : Nat) (thread : Address) : State :=
  let priority := (state.threads thread).realPriority
  let state := unlink state thread
  let state := state.setPriority cpu priority fun prio =>
    prio.dropThread thread (state.threads thread).next (state.threads thread).prev
  countRemoved state cpu priority

/-- The part of the timer interrupt that moves the current thread to the expired
list of its priority. -/
def moveCurrent (state : State) (cpu : Nat) (thread : Address) : State :=
  let priority := (state.cpus cpu).currentPriority
  let state := state.setPriority cpu priority
    ({ · with activeTail := (state.threads thread).next })
  let state := countRemoved state cpu priority
  let state := loadThreadContext state cpu thread
  let state := updatePriorityQuantum state thread
  addExpired state cpu thread

/-- The same with the adjustment of the active list. -/
def rotate (state : State) (cpu : Nat) (thread : Address) : State :=
  let priority := (state.cpus cpu).currentPriority
  let state := moveCurrent state cpu thread
  match ((state.cpus cpu).priorities priority).activeTail with
  | some tail => state.setThread tail ({ · with prev := none })
  | none => state.setPriority cpu priority CpuPriority.takeExpired

/-! ## Tasks -/

/-- `do_resume_task`. -/
def doResumeTask (state : State) (cpu : Nat) : Option State := do
  let thread ← (state.cpus cpu).task.thread
  let state := state.setThread thread ({ · with state := .running, cpu := cpu })
  let state := addExpired state cpu thread
  let state :=
    if (state.cpus cpu).totalThreads = 0 then
      state.setCpu cpu fun cpud =>
        { cpud with
          currentPriority := (state.threads thread).realPriority, loadContext := true }
    else
      state
  let state := state.setCpu cpu fun cpud =>
    { cpud with totalThreads := cpud.totalThreads + 1 }
  some (state.setTask cpu ({ · with error := .errNone }))

/-- The choice of the next priority in `do_pause_task`, if threads remain. -/
def chooseHighest (state : State) (cpu : Nat) : Option State :=
  if (state.cpus cpu).totalThreads ≠ 0 then do
    let highest ← BitArray.findMaskBsf (state.cpus cpu).priorityMask
    some (state.setCpu cpu ({ · with currentPriority := highest, loadContext := true }))
  else
    some state

/-- The part of `do_pause_task` for the current thread of a CPU.  Without a stack
frame the context is saved later. -/
def haltCurrent (platform : Platform) (state : State) (cpu : Nat) (thread : Address)
    (stackFrame : Bool) : Option State := do
  let state ← chooseHighest state cpu
  let state := setThreadRegister state cpu none
  if stackFrame then
    some (storeHalt platform (loadThreadContext state cpu thread) cpu)
  else
    some (state.setTask cpu ({ · with type := .selfHalt }))

/-- `do_pause_task`. -/
def doPauseTask (platform : Platform) (state : State) (cpu : Nat) (stackFrame : Bool) :
    Option State := do
  let thread ← (state.cpus cpu).task.thread
  if (state.threads thread).state ≠ .running ∨ (state.threads thread).cpu ≠ cpu then
    some (state.setTask cpu ({ · with error := .errNotFound }))
  else
    let cpud := state.cpus cpu
    let current := (cpud.priorities cpud.currentPriority).activeTail = some thread
    let state := removeQueued state cpu thread
    let state := state.setCpu cpu fun cpud =>
      { cpud with totalThreads := cpud.totalThreads - 1 }
    let state ← if current then haltCurrent platform state cpu thread stackFrame else some state
    some (state.setTask cpu ({ · with error := .errNone }))

/-- `do_self_halt_task`, without the locks that it releases. -/
def doSelfHaltTask (platform : Platform) (state : State) (cpu : Nat) : Option State := do
  let state := storeIntEnabled state cpu
  let thread ← (state.cpus cpu).task.thread
  some (storeHalt platform (loadThreadContext state cpu thread) cpu)

/-- The task interrupt, also called without a stack frame. -/
def handleTask (platform : Platform) (state : State) (cpu : Nat) (stackFrame : Bool) :
    Option State :=
  match (state.cpus cpu).task.type with
  | .resume => doResumeTask state cpu
  | .pause => doPauseTask platform state cpu stackFrame
  | .selfHalt => doSelfHaltTask platform state cpu

/-- `run_cpu_task`.  A CPU that has panicked never answers. -/
def runCpuTask (platform : Platform) (state : State) (caller cpu : Nat) (task : CpuTask) :
    Option (State × CpuTask) := do
  let state := state.setTask cpu fun _ => task
  let state ←
    if caller = cpu then
      handleTask platform state cpu false
    else if (state.machines cpu).panicked then
      none
    else
      handleTask platform (state.setTask cpu ({ · with error := .errBusy })) cpu true
  some (state, (state.cpus cpu).task)

/-! ## Resuming, pausing and stopping -/

/-- The loop of `find_least_loaded_cpu` over the first CPUs. -/
def leastLoaded (state : State) (affinity : List (BitVec 64)) : Nat → Option Nat × Int
  | 0 => (none, int32Max)
  | i + 1 =>
      let (cpu, total) := leastLoaded state affinity i
      if BitArray.get affinity i then
        let temp := (state.cpus i).totalThreads
        if temp < total then (some i, temp) else (cpu, total)
      else
        (cpu, total)

/-- `find_least_loaded_cpu`. -/
def findLeastLoadedCpu (platform : Platform) (state : State) (affinity : List (BitVec 64)) :
    Option Nat :=
  (leastLoaded state affinity platform.cpus).1

/-- The part of `resume_thread` that takes the thread out of the `inactive` list. -/
def unparkThread (state : State) (thread : Address) : State :=
  let state := unlinkInactive state thread
  let state := state.setThread thread fun data =>
    { data with realPriority := data.priority, quantum := 0 }
  updatePriorityQuantum state thread

/-- `resume_thread`, called on a CPU. -/
def resumeThread (platform : Platform) (state : State) (caller : Nat) (id : BitVec 64) :
    Option (State × ErrCode) :=
  match withStampId state id with
  | .error err => some (state, err)
  | .ok thread =>
      if (state.threads thread).state = .paused then do
        let state := unparkThread state thread
        let cpu ← findLeastLoadedCpu platform state (state.threads thread).affinity
        let (state, _) ← runCpuTask platform state caller cpu
          { type := .resume, error := .errNone, thread := some thread, lock := none }
        some (state, .errNone)
      else
        some (state, .errBadState)

/-- The part of `deactivate_running` that puts the thread into the `inactive` list. -/
def parkThread (state : State) (thread : Address) (stop : Bool) (output : BitVec 64) : State :=
  let state := state.setThread thread
    ({ · with prev := none, state := if stop then .stopped else .paused })
  let state := linkInactive state thread
  if stop then state.setThread thread ({ · with output := output }) else state

/-- `deactivate_running`; the flag is `*self_halt`. -/
def deactivateRunning (platform : Platform) (state : State) (caller : Nat) (stop : Bool)
    (thread : Address) (output : BitVec 64) (lockToRelease : Option Address) :
    Option (State × ErrCode × Bool) := do
  let (state, task) ← runCpuTask platform state caller (state.threads thread).cpu
    { type := .pause, error := .errNone, thread := some thread, lock := lockToRelease }
  if task.error ≠ .errNone then
    some (state, task.error, false)
  else
    let state := parkThread state thread stop output
    if task.type = .selfHalt then
      let state ← handleTask platform state caller true
      some (state, .errNone, true)
    else
      some (state, .errNone, false)

/-- One round of the loop of `deactivate_thread`. -/
def deactivateOnce (platform : Platform) (caller : Nat) (stop : Bool) (thread : Address)
    (output : BitVec 64) (lockToRelease : Option Address) (state : State) (err : ErrCode) :
    Option (State × ErrCode) :=
  match (state.threads thread).state with
  | .running => do
      let (state, err, _) ←
        deactivateRunning platform state caller stop thread output lockToRelease
      some (state, err)
  | .paused =>
      if stop then
        some (state.setThread thread ({ · with state := .stopped, output := output }), .errNone)
      else
        some (state, .errBadState)
  | .stopped => some (state, .errBadState)
  | .unknown => some (state, err)

/-- The loop of `deactivate_thread`. -/
def deactivateLoop (platform : Platform) (caller : Nat) (stop : Bool) (thread : Address)
    (output : BitVec 64) (lockToRelease : Option Address) :
    Nat → State → ErrCode → Option (State × ErrCode)
  | 0, state, err => some (state, err)
  | tries + 1, state, err => do
      let (state, err) ←
        deactivateOnce platform caller stop thread output lockToRelease state err
      if err ≠ .errNotFound then
        some (state, err)
      else
        deactivateLoop platform caller stop thread output lockToRelease tries state err

/-- `deactivate_thread`, called on a CPU. -/
def deactivateThread (platform : Platform) (state : State) (caller : Nat) (stop : Bool)
    (id : BitVec 64) (output : BitVec 64) (lockToRelease : Option Address) :
    Option (State × ErrCode) :=
  match withStampId state id with
  | .error err => some (state, err)
  | .ok thread => do
      let (state, err) ← deactivateLoop platform caller stop thread output lockToRelease
        taskRetryCount state .errNone
      some (state, if err = .errNotFound then .errBusy else err)

/-- `pause_thread`. -/
def pauseThread (platform : Platform) (state : State) (caller : Nat) (id : BitVec 64) :
    Option (State × ErrCode) :=
  deactivateThread platform state caller false id 0 none

/-- `stop_thread`. -/
def stopThread (platform : Platform) (state : State) (caller : Nat) (id output : BitVec 64) :
    Option (State × ErrCode) :=
  deactivateThread platform state caller true id output none

/-- `pause_this_thread`. -/
def pauseThisThread (platform : Platform) (state : State) (caller : Nat)
    (lockToRelease : Option Address) : Option (State × ErrCode) :=
  deactivateThread platform state caller false (getThread state caller) 0 lockToRelease

/-! ## The timer interrupt -/

/-- `handle_timer`.  What the timer procedure does, it does in the steps that
follow. -/
def handleTimer (platform : Platform) (state : State) (cpu : Nat) : State :=
  let state :=
    if cpu = platform.bspCpu then { state with ticks := state.ticks + 1 } else state
  if state.timerTicks cpu ≠ 0 ∧ state.timerTicks cpu ≤ state.ticks then
    { state with timerTicks := Function.update state.timerTicks cpu 0 }
  else
    state

/-- The timer interrupt before its label `exit`. -/
def schedule (state : State) (cpu : Nat) : Option State :=
  let cpud := state.cpus cpu
  if cpud.totalThreads = 0 then
    some state
  else do
    let thread ← (cpud.priorities cpud.currentPriority).activeTail
    if cpud.loadContext then
      let state := storeThreadContext state cpu thread
      let state := setThreadRegister state cpu (some thread)
      some (state.setCpu cpu ({ · with loadContext := false }))
    else
      let stack ← (state.threads thread).stack
      if state.memory stack ≠ stackOverrunMagic then
        some (state.setMachine cpu ({ · with panicked := true }))
      else
        let state := state.setThread thread fun data => { data with runTime := data.runTime + 1 }
        let highest ← BitArray.findMaskBsf (state.cpus cpu).priorityMask
        if (state.cpus cpu).currentPriority ≤ highest ∧ (state.threads thread).quantum ≠ 0 then
          some (state.setThread thread fun data => { data with quantum := data.quantum - 1 })
        else
          let state := rotate state cpu thread
          let state := state.setCpu cpu ({ · with currentPriority := highest })
          let thread2 ← ((state.cpus cpu).priorities highest).activeTail
          if thread2 ≠ thread then
            let state := storeThreadContext state cpu thread2
            some (setThreadRegister state cpu (some thread2))
          else
            some state

/-- The timer interrupt. -/
def timerInterrupt (platform : Platform) (state : State) (cpu : Nat) : Option State := do
  let state ← schedule state cpu
  if (state.machines cpu).panicked then some state else some (handleTimer platform state cpu)

end Scheduler
end ToyKernel
