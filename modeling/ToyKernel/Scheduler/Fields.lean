import ToyKernel.Library.DoublyLinked
import ToyKernel.Scheduler.Defs

/-!
# What the assignments change

The links of the threads as two sets of intrusive links, the effect of each
assignment on them, and the frame of the list operations: they change links,
list heads, counters and priority masks only.
-/

namespace ToyKernel
namespace Scheduler

namespace State

/-- The `next` and `prev` fields. -/
def links (state : State) : Links Address where
  next thread := (state.threads thread).next
  prev thread := (state.threads thread).prev

/-- The `all_next` and `all_prev` fields. -/
def allLinks (state : State) : Links Address where
  next thread := (state.threads thread).allNext
  prev thread := (state.threads thread).allPrev

section Setters

variable (state : State) (thread other : Address) (cpu otherCpu priority : Nat)

section

variable (change : ThreadData → ThreadData)

@[simp] theorem setThread_threads :
    (state.setThread thread change).threads other =
      if other = thread then change (state.threads thread) else state.threads other := by
  simp [setThread, Function.update_apply]

@[simp] theorem setThread_memory : (state.setThread thread change).memory = state.memory := rfl
@[simp] theorem setThread_cpus : (state.setThread thread change).cpus = state.cpus := rfl
@[simp] theorem setThread_all : (state.setThread thread change).all = state.all := rfl
@[simp] theorem setThread_inactive :
    (state.setThread thread change).inactive = state.inactive := rfl
@[simp] theorem setThread_stamp : (state.setThread thread change).stamp = state.stamp := rfl
@[simp] theorem setThread_ticks : (state.setThread thread change).ticks = state.ticks := rfl
@[simp] theorem setThread_timerTicks :
    (state.setThread thread change).timerTicks = state.timerTicks := rfl
@[simp] theorem setThread_machines :
    (state.setThread thread change).machines = state.machines := rfl

/-- The links after an assignment to fields of a thread. -/
theorem setThread_links :
    (state.setThread thread change).links =
      (state.links.setNext thread (change (state.threads thread)).next).setPrev thread
        (change (state.threads thread)).prev := by
  ext other : 2
  · simp only [links, setThread_threads, Links.setPrev_next, Links.setNext_next]
    split <;> rfl
  · simp only [links, setThread_threads, Links.setPrev_prev, Links.setNext_prev]
    split <;> rfl

theorem setThread_allLinks :
    (state.setThread thread change).allLinks =
      (state.allLinks.setNext thread (change (state.threads thread)).allNext).setPrev thread
        (change (state.threads thread)).allPrev := by
  ext other : 2
  · simp only [allLinks, setThread_threads, Links.setPrev_next, Links.setNext_next]
    split <;> rfl
  · simp only [allLinks, setThread_threads, Links.setPrev_prev, Links.setNext_prev]
    split <;> rfl

end

section

variable (change : CpuData → CpuData)

@[simp] theorem setCpu_cpus :
    (state.setCpu cpu change).cpus otherCpu =
      if otherCpu = cpu then change (state.cpus cpu) else state.cpus otherCpu := by
  simp [setCpu, Function.update_apply]

@[simp] theorem setCpu_threads : (state.setCpu cpu change).threads = state.threads := rfl
@[simp] theorem setCpu_memory : (state.setCpu cpu change).memory = state.memory := rfl
@[simp] theorem setCpu_all : (state.setCpu cpu change).all = state.all := rfl
@[simp] theorem setCpu_inactive : (state.setCpu cpu change).inactive = state.inactive := rfl
@[simp] theorem setCpu_stamp : (state.setCpu cpu change).stamp = state.stamp := rfl
@[simp] theorem setCpu_ticks : (state.setCpu cpu change).ticks = state.ticks := rfl
@[simp] theorem setCpu_timerTicks :
    (state.setCpu cpu change).timerTicks = state.timerTicks := rfl
@[simp] theorem setCpu_machines : (state.setCpu cpu change).machines = state.machines := rfl
@[simp] theorem setCpu_links : (state.setCpu cpu change).links = state.links := rfl
@[simp] theorem setCpu_allLinks : (state.setCpu cpu change).allLinks = state.allLinks := rfl

end

section

variable (change : CpuPriority → CpuPriority)

/-- One record of one CPU changes. -/
theorem setPriority_priorities (otherPriority : Nat) :
    ((state.setPriority cpu priority change).cpus otherCpu).priorities otherPriority =
      if otherCpu = cpu ∧ otherPriority = priority then
        change ((state.cpus cpu).priorities priority)
      else
        (state.cpus otherCpu).priorities otherPriority := by
  simp only [setPriority, setCpu_cpus]
  split
  · rename_i sameCpu
    subst sameCpu
    simp [Function.update_apply]
  · rename_i otherCpu
    simp [otherCpu]

@[simp] theorem setPriority_priorities_self :
    ((state.setPriority cpu priority change).cpus cpu).priorities priority =
      change ((state.cpus cpu).priorities priority) := by
  simp [setPriority_priorities]

@[simp] theorem setPriority_totalThreads :
    ((state.setPriority cpu priority change).cpus otherCpu).totalThreads =
      (state.cpus otherCpu).totalThreads := by
  simp only [setPriority, setCpu_cpus]
  split <;> simp_all

@[simp] theorem setPriority_currentPriority :
    ((state.setPriority cpu priority change).cpus otherCpu).currentPriority =
      (state.cpus otherCpu).currentPriority := by
  simp only [setPriority, setCpu_cpus]
  split <;> simp_all

@[simp] theorem setPriority_priorityMask :
    ((state.setPriority cpu priority change).cpus otherCpu).priorityMask =
      (state.cpus otherCpu).priorityMask := by
  simp only [setPriority, setCpu_cpus]
  split <;> simp_all

@[simp] theorem setPriority_task :
    ((state.setPriority cpu priority change).cpus otherCpu).task =
      (state.cpus otherCpu).task := by
  simp only [setPriority, setCpu_cpus]
  split <;> simp_all

@[simp] theorem setPriority_loadContext :
    ((state.setPriority cpu priority change).cpus otherCpu).loadContext =
      (state.cpus otherCpu).loadContext := by
  simp only [setPriority, setCpu_cpus]
  split <;> simp_all

@[simp] theorem setPriority_threads :
    (state.setPriority cpu priority change).threads = state.threads := rfl
@[simp] theorem setPriority_memory :
    (state.setPriority cpu priority change).memory = state.memory := rfl
@[simp] theorem setPriority_all :
    (state.setPriority cpu priority change).all = state.all := rfl
@[simp] theorem setPriority_inactive :
    (state.setPriority cpu priority change).inactive = state.inactive := rfl
@[simp] theorem setPriority_stamp :
    (state.setPriority cpu priority change).stamp = state.stamp := rfl
@[simp] theorem setPriority_ticks :
    (state.setPriority cpu priority change).ticks = state.ticks := rfl
@[simp] theorem setPriority_timerTicks :
    (state.setPriority cpu priority change).timerTicks = state.timerTicks := rfl
@[simp] theorem setPriority_machines :
    (state.setPriority cpu priority change).machines = state.machines := rfl
@[simp] theorem setPriority_links :
    (state.setPriority cpu priority change).links = state.links := rfl
@[simp] theorem setPriority_allLinks :
    (state.setPriority cpu priority change).allLinks = state.allLinks := rfl

end

section

variable (change : CpuTask → CpuTask)

@[simp] theorem setTask_priorities :
    ((state.setTask cpu change).cpus otherCpu).priorities =
      (state.cpus otherCpu).priorities := by
  simp only [setTask, setCpu_cpus]
  split <;> simp_all

@[simp] theorem setTask_totalThreads :
    ((state.setTask cpu change).cpus otherCpu).totalThreads =
      (state.cpus otherCpu).totalThreads := by
  simp only [setTask, setCpu_cpus]
  split <;> simp_all

@[simp] theorem setTask_currentPriority :
    ((state.setTask cpu change).cpus otherCpu).currentPriority =
      (state.cpus otherCpu).currentPriority := by
  simp only [setTask, setCpu_cpus]
  split <;> simp_all

@[simp] theorem setTask_priorityMask :
    ((state.setTask cpu change).cpus otherCpu).priorityMask =
      (state.cpus otherCpu).priorityMask := by
  simp only [setTask, setCpu_cpus]
  split <;> simp_all

@[simp] theorem setTask_loadContext :
    ((state.setTask cpu change).cpus otherCpu).loadContext =
      (state.cpus otherCpu).loadContext := by
  simp only [setTask, setCpu_cpus]
  split <;> simp_all

@[simp] theorem setTask_task_self :
    ((state.setTask cpu change).cpus cpu).task = change (state.cpus cpu).task := by
  simp [setTask]

@[simp] theorem setTask_threads : (state.setTask cpu change).threads = state.threads := rfl
@[simp] theorem setTask_memory : (state.setTask cpu change).memory = state.memory := rfl
@[simp] theorem setTask_all : (state.setTask cpu change).all = state.all := rfl
@[simp] theorem setTask_inactive : (state.setTask cpu change).inactive = state.inactive := rfl
@[simp] theorem setTask_machines : (state.setTask cpu change).machines = state.machines := rfl
@[simp] theorem setTask_links : (state.setTask cpu change).links = state.links := rfl
@[simp] theorem setTask_allLinks : (state.setTask cpu change).allLinks = state.allLinks := rfl

end

section

variable (change : List (BitVec 64) → List (BitVec 64))

@[simp] theorem setMask_priorities :
    ((state.setMask cpu change).cpus otherCpu).priorities =
      (state.cpus otherCpu).priorities := by
  simp only [setMask, setCpu_cpus]
  split <;> simp_all

theorem setMask_priorityMask :
    ((state.setMask cpu change).cpus otherCpu).priorityMask =
      if otherCpu = cpu then change (state.cpus cpu).priorityMask
      else (state.cpus otherCpu).priorityMask := by
  simp only [setMask, setCpu_cpus]
  split <;> simp_all

@[simp] theorem setMask_totalThreads :
    ((state.setMask cpu change).cpus otherCpu).totalThreads =
      (state.cpus otherCpu).totalThreads := by
  simp only [setMask, setCpu_cpus]
  split <;> simp_all

@[simp] theorem setMask_currentPriority :
    ((state.setMask cpu change).cpus otherCpu).currentPriority =
      (state.cpus otherCpu).currentPriority := by
  simp only [setMask, setCpu_cpus]
  split <;> simp_all

@[simp] theorem setMask_task :
    ((state.setMask cpu change).cpus otherCpu).task = (state.cpus otherCpu).task := by
  simp only [setMask, setCpu_cpus]
  split <;> simp_all

@[simp] theorem setMask_loadContext :
    ((state.setMask cpu change).cpus otherCpu).loadContext =
      (state.cpus otherCpu).loadContext := by
  simp only [setMask, setCpu_cpus]
  split <;> simp_all

@[simp] theorem setMask_threads : (state.setMask cpu change).threads = state.threads := rfl
@[simp] theorem setMask_all : (state.setMask cpu change).all = state.all := rfl
@[simp] theorem setMask_inactive : (state.setMask cpu change).inactive = state.inactive := rfl
@[simp] theorem setMask_links : (state.setMask cpu change).links = state.links := rfl
@[simp] theorem setMask_allLinks : (state.setMask cpu change).allLinks = state.allLinks := rfl

end

section

variable (change : Machine → Machine)

@[simp] theorem setMachine_machines :
    (state.setMachine cpu change).machines otherCpu =
      if otherCpu = cpu then change (state.machines cpu) else state.machines otherCpu := by
  simp [setMachine, Function.update_apply]

@[simp] theorem setMachine_threads :
    (state.setMachine cpu change).threads = state.threads := rfl
@[simp] theorem setMachine_memory : (state.setMachine cpu change).memory = state.memory := rfl
@[simp] theorem setMachine_cpus : (state.setMachine cpu change).cpus = state.cpus := rfl
@[simp] theorem setMachine_all : (state.setMachine cpu change).all = state.all := rfl
@[simp] theorem setMachine_inactive :
    (state.setMachine cpu change).inactive = state.inactive := rfl
@[simp] theorem setMachine_links : (state.setMachine cpu change).links = state.links := rfl
@[simp] theorem setMachine_allLinks :
    (state.setMachine cpu change).allLinks = state.allLinks := rfl

end

section

variable (change : ThreadList → ThreadList)

@[simp] theorem setInactive_inactive :
    (state.setInactive change).inactive = change state.inactive := rfl
@[simp] theorem setInactive_threads : (state.setInactive change).threads = state.threads := rfl
@[simp] theorem setInactive_cpus : (state.setInactive change).cpus = state.cpus := rfl
@[simp] theorem setInactive_all : (state.setInactive change).all = state.all := rfl
@[simp] theorem setInactive_machines :
    (state.setInactive change).machines = state.machines := rfl
@[simp] theorem setInactive_links : (state.setInactive change).links = state.links := rfl
@[simp] theorem setInactive_allLinks :
    (state.setInactive change).allLinks = state.allLinks := rfl

@[simp] theorem setAll_all : (state.setAll change).all = change state.all := rfl
@[simp] theorem setAll_threads : (state.setAll change).threads = state.threads := rfl
@[simp] theorem setAll_cpus : (state.setAll change).cpus = state.cpus := rfl
@[simp] theorem setAll_inactive : (state.setAll change).inactive = state.inactive := rfl
@[simp] theorem setAll_machines : (state.setAll change).machines = state.machines := rfl
@[simp] theorem setAll_links : (state.setAll change).links = state.links := rfl
@[simp] theorem setAll_allLinks : (state.setAll change).allLinks = state.allLinks := rfl

end

end Setters
end State

section Targets

variable (state : State) (thread : Address) (value : Option Address)

@[simp] theorem setNextOf_none : setNextOf state none value = state := rfl
@[simp] theorem setPrevOf_none : setPrevOf state none value = state := rfl
@[simp] theorem setAllNextOf_none : setAllNextOf state none value = state := rfl
@[simp] theorem setAllPrevOf_none : setAllPrevOf state none value = state := rfl

@[simp] theorem setNextOf_some :
    setNextOf state (some thread) value =
      state.setThread thread ({ · with next := value }) := rfl

@[simp] theorem setPrevOf_some :
    setPrevOf state (some thread) value =
      state.setThread thread ({ · with prev := value }) := rfl

@[simp] theorem setAllNextOf_some :
    setAllNextOf state (some thread) value =
      state.setThread thread ({ · with allNext := value }) := rfl

@[simp] theorem setAllPrevOf_some :
    setAllPrevOf state (some thread) value =
      state.setThread thread ({ · with allPrev := value }) := rfl

end Targets

/-! ## List operations -/

/-- A thread without its links. -/
def ThreadData.core (thread : ThreadData) : ThreadData :=
  { thread with prev := none, next := none, allPrev := none, allNext := none }

@[simp] theorem ThreadData.core_magic (thread : ThreadData) :
    thread.core.magic = thread.magic := rfl

@[simp] theorem ThreadData.core_context (thread : ThreadData) :
    thread.core.context = thread.context := rfl

@[simp] theorem ThreadData.core_stack (thread : ThreadData) :
    thread.core.stack = thread.stack := rfl

@[simp] theorem ThreadData.core_stackSize (thread : ThreadData) :
    thread.core.stackSize = thread.stackSize := rfl

@[simp] theorem ThreadData.core_affinity (thread : ThreadData) :
    thread.core.affinity = thread.affinity := rfl

@[simp] theorem ThreadData.core_output (thread : ThreadData) :
    thread.core.output = thread.output := rfl

@[simp] theorem ThreadData.core_runTime (thread : ThreadData) :
    thread.core.runTime = thread.runTime := rfl

@[simp] theorem ThreadData.core_priority (thread : ThreadData) :
    thread.core.priority = thread.priority := rfl

@[simp] theorem ThreadData.core_realPriority (thread : ThreadData) :
    thread.core.realPriority = thread.realPriority := rfl

@[simp] theorem ThreadData.core_quantum (thread : ThreadData) :
    thread.core.quantum = thread.quantum := rfl

@[simp] theorem ThreadData.core_stamp (thread : ThreadData) :
    thread.core.stamp = thread.stamp := rfl

@[simp] theorem ThreadData.core_cpu (thread : ThreadData) :
    thread.core.cpu = thread.cpu := rfl

@[simp] theorem ThreadData.core_state (thread : ThreadData) :
    thread.core.state = thread.state := rfl

/-- Two states that differ in links, list heads, counters and masks only. -/
structure OnlyLists (before after : State) : Prop where
  core : ∀ thread, (after.threads thread).core = (before.threads thread).core
  memory : after.memory = before.memory
  stamp : after.stamp = before.stamp
  ticks : after.ticks = before.ticks
  timerTicks : after.timerTicks = before.timerTicks
  machines : after.machines = before.machines
  totalThreads : ∀ cpu, (after.cpus cpu).totalThreads = (before.cpus cpu).totalThreads
  currentPriority : ∀ cpu,
    (after.cpus cpu).currentPriority = (before.cpus cpu).currentPriority
  task : ∀ cpu, (after.cpus cpu).task = (before.cpus cpu).task
  loadContext : ∀ cpu, (after.cpus cpu).loadContext = (before.cpus cpu).loadContext

namespace OnlyLists

variable {before middle after : State}

theorem refl (state : State) : OnlyLists state state :=
  ⟨fun _ => rfl, rfl, rfl, rfl, rfl, rfl, fun _ => rfl, fun _ => rfl, fun _ => rfl,
    fun _ => rfl⟩

theorem trans (left : OnlyLists before middle) (right : OnlyLists middle after) :
    OnlyLists before after where
  core thread := (right.core thread).trans (left.core thread)
  memory := right.memory.trans left.memory
  stamp := right.stamp.trans left.stamp
  ticks := right.ticks.trans left.ticks
  timerTicks := right.timerTicks.trans left.timerTicks
  machines := right.machines.trans left.machines
  totalThreads cpu := (right.totalThreads cpu).trans (left.totalThreads cpu)
  currentPriority cpu := (right.currentPriority cpu).trans (left.currentPriority cpu)
  task cpu := (right.task cpu).trans (left.task cpu)
  loadContext cpu := (right.loadContext cpu).trans (left.loadContext cpu)

theorem setThread (prior : OnlyLists before after) {thread : Address}
    {change : ThreadData → ThreadData}
    (links : (change (after.threads thread)).core = (after.threads thread).core) :
    OnlyLists before (after.setThread thread change) where
  core other := by
    rw [State.setThread_threads]
    split
    · rename_i same
      rw [links, same, prior.core]
    · exact prior.core other
  memory := prior.memory
  stamp := prior.stamp
  ticks := prior.ticks
  timerTicks := prior.timerTicks
  machines := prior.machines
  totalThreads := prior.totalThreads
  currentPriority := prior.currentPriority
  task := prior.task
  loadContext := prior.loadContext

/-- The same assignment on both sides. -/
theorem setThread_congr (prior : OnlyLists before after) {thread : Address}
    {change : ThreadData → ThreadData}
    (congruent : ∀ left right : ThreadData, left.core = right.core →
      (change left).core = (change right).core) :
    OnlyLists (before.setThread thread change) (after.setThread thread change) where
  core other := by
    rw [State.setThread_threads, State.setThread_threads]
    split
    · exact congruent _ _ (prior.core thread)
    · exact prior.core other
  memory := prior.memory
  stamp := prior.stamp
  ticks := prior.ticks
  timerTicks := prior.timerTicks
  machines := prior.machines
  totalThreads := prior.totalThreads
  currentPriority := prior.currentPriority
  task := prior.task
  loadContext := prior.loadContext

theorem setPriority (prior : OnlyLists before after) {cpu priority : Nat}
    {change : CpuPriority → CpuPriority} :
    OnlyLists before (after.setPriority cpu priority change) where
  core := prior.core
  memory := prior.memory
  stamp := prior.stamp
  ticks := prior.ticks
  timerTicks := prior.timerTicks
  machines := prior.machines
  totalThreads _ := by rw [State.setPriority_totalThreads, prior.totalThreads]
  currentPriority _ := by rw [State.setPriority_currentPriority, prior.currentPriority]
  task _ := by rw [State.setPriority_task, prior.task]
  loadContext _ := by rw [State.setPriority_loadContext, prior.loadContext]

theorem setMask (prior : OnlyLists before after) {cpu : Nat}
    {change : List (BitVec 64) → List (BitVec 64)} :
    OnlyLists before (after.setMask cpu change) where
  core := prior.core
  memory := prior.memory
  stamp := prior.stamp
  ticks := prior.ticks
  timerTicks := prior.timerTicks
  machines := prior.machines
  totalThreads _ := by rw [State.setMask_totalThreads, prior.totalThreads]
  currentPriority _ := by rw [State.setMask_currentPriority, prior.currentPriority]
  task _ := by rw [State.setMask_task, prior.task]
  loadContext _ := by rw [State.setMask_loadContext, prior.loadContext]

theorem setInactive (prior : OnlyLists before after) {change : ThreadList → ThreadList} :
    OnlyLists before (after.setInactive change) := ⟨prior.core, prior.memory, prior.stamp,
  prior.ticks, prior.timerTicks, prior.machines, prior.totalThreads, prior.currentPriority,
  prior.task, prior.loadContext⟩

theorem setAll (prior : OnlyLists before after) {change : ThreadList → ThreadList} :
    OnlyLists before (after.setAll change) := ⟨prior.core, prior.memory, prior.stamp,
  prior.ticks, prior.timerTicks, prior.machines, prior.totalThreads, prior.currentPriority,
  prior.task, prior.loadContext⟩

theorem setNextOf (prior : OnlyLists before after) (target value : Option Address) :
    OnlyLists before (setNextOf after target value) := by
  cases target with
  | none => exact prior
  | some thread =>
      rw [setNextOf_some]
      exact prior.setThread rfl

theorem setPrevOf (prior : OnlyLists before after) (target value : Option Address) :
    OnlyLists before (setPrevOf after target value) := by
  cases target with
  | none => exact prior
  | some thread =>
      rw [setPrevOf_some]
      exact prior.setThread rfl

theorem setAllNextOf (prior : OnlyLists before after) (target value : Option Address) :
    OnlyLists before (setAllNextOf after target value) := by
  cases target with
  | none => exact prior
  | some thread =>
      rw [setAllNextOf_some]
      exact prior.setThread rfl

theorem setAllPrevOf (prior : OnlyLists before after) (target value : Option Address) :
    OnlyLists before (setAllPrevOf after target value) := by
  cases target with
  | none => exact prior
  | some thread =>
      rw [setAllPrevOf_some]
      exact prior.setThread rfl

theorem linkInactive (state : State) (thread : Address) :
    OnlyLists state (linkInactive state thread) := by
  simp only [Scheduler.linkInactive]
  apply setInactive
  apply setPrevOf
  exact setThread (refl state) (by rfl)

theorem linkAll (state : State) (thread : Address) :
    OnlyLists state (linkAll state thread) := by
  simp only [Scheduler.linkAll]
  apply setAll
  apply setAllPrevOf
  exact setThread (refl state) (by rfl)

theorem unlink (state : State) (thread : Address) :
    OnlyLists state (unlink state thread) := by
  apply setNextOf
  exact setPrevOf (refl state) _ _

theorem unlinkInactive (state : State) (thread : Address) :
    OnlyLists state (unlinkInactive state thread) := by
  simp only [Scheduler.unlinkInactive]
  apply setInactive
  split
  · exact setInactive (unlink state thread)
  · exact unlink state thread

theorem linkExpired (state : State) (cpu : Nat) (thread : Address) :
    OnlyLists state (linkExpired state cpu thread) := by
  simp only [Scheduler.linkExpired]
  have cleared : OnlyLists state
      (state.setThread thread ({ · with prev := none, next := none })) :=
    setThread (refl state) rfl
  split
  · apply setPriority
    split
    · apply setThread _ rfl
      exact setThread cleared rfl
    · exact setPriority cleared
  · exact setPriority cleared

theorem addExpired (state : State) (cpu : Nat) (thread : Address) :
    OnlyLists state (addExpired state cpu thread) := by
  simp only [Scheduler.addExpired]
  apply setPriority
  apply setMask
  exact linkExpired state cpu thread

theorem countRemoved (state : State) (cpu priority : Nat) :
    OnlyLists state (countRemoved state cpu priority) := by
  simp only [Scheduler.countRemoved]
  split
  · exact setMask (setPriority (refl state))
  · exact setPriority (refl state)

theorem removeQueued (state : State) (cpu : Nat) (thread : Address) :
    OnlyLists state (removeQueued state cpu thread) := by
  simp only [Scheduler.removeQueued]
  refine trans ?_ (countRemoved _ _ _)
  exact setPriority (unlink state thread)

theorem loadThreadContext (prior : OnlyLists before after) (cpu : Nat) (thread : Address) :
    OnlyLists (loadThreadContext before cpu thread) (loadThreadContext after cpu thread) := by
  simp only [Scheduler.loadThreadContext, prior.machines]
  apply setThread_congr prior
  intro left right same
  simp only [ThreadData.core, ThreadData.mk.injEq] at same ⊢
  simp [same]

theorem updatePriorityQuantum (prior : OnlyLists before after) (thread : Address) :
    OnlyLists (updatePriorityQuantum before thread) (updatePriorityQuantum after thread) := by
  apply setThread_congr prior
  intro left right same
  simp only [ThreadData.core, ThreadData.mk.injEq] at same ⊢
  simp [same]

theorem moveCurrent (state : State) (cpu : Nat) (thread : Address) :
    OnlyLists
      (Scheduler.updatePriorityQuantum (Scheduler.loadThreadContext state cpu thread) thread)
      (moveCurrent state cpu thread) := by
  simp only [Scheduler.moveCurrent]
  refine trans ?_ (addExpired _ cpu thread)
  apply updatePriorityQuantum
  apply loadThreadContext
  refine trans ?_ (countRemoved _ cpu _)
  exact setPriority (refl state)

/-- Besides lists, a rotation changes the context and the priority data of the
rotated thread. -/
theorem rotate (state : State) (cpu : Nat) (thread : Address) :
    OnlyLists
      (Scheduler.updatePriorityQuantum (Scheduler.loadThreadContext state cpu thread) thread)
      (rotate state cpu thread) := by
  simp only [Scheduler.rotate]
  split
  · exact setThread (moveCurrent state cpu thread) rfl
  · exact setPriority (moveCurrent state cpu thread)

theorem unlinkFromAll (state : State) (thread : Address) :
    OnlyLists state (unlinkFromAll state thread) := by
  apply setAllNextOf
  exact setAllPrevOf (refl state) _ _

theorem unlinkAll (state : State) (thread : Address) :
    OnlyLists state (unlinkAll state thread) := by
  simp only [Scheduler.unlinkAll]
  apply setAll
  split
  · exact setAll (unlinkFromAll state thread)
  · exact unlinkFromAll state thread

end OnlyLists

section Links

variable (state : State) (thread : Address)

/-- An assignment to other fields keeps the links. -/
theorem links_setThread {change : ThreadData → ThreadData}
    (next : (change (state.threads thread)).next = (state.threads thread).next)
    (prev : (change (state.threads thread)).prev = (state.threads thread).prev) :
    (state.setThread thread change).links = state.links := by
  rw [State.setThread_links, next, prev]
  have sameNext : state.links.setNext thread (state.threads thread).next = state.links :=
    Links.setNext_self state.links thread
  rw [sameNext]
  exact Links.setPrev_self state.links thread

theorem allLinks_setThread {change : ThreadData → ThreadData}
    (next : (change (state.threads thread)).allNext = (state.threads thread).allNext)
    (prev : (change (state.threads thread)).allPrev = (state.threads thread).allPrev) :
    (state.setThread thread change).allLinks = state.allLinks := by
  rw [State.setThread_allLinks, next, prev]
  have sameNext :
      state.allLinks.setNext thread (state.threads thread).allNext = state.allLinks :=
    Links.setNext_self state.allLinks thread
  rw [sameNext]
  exact Links.setPrev_self state.allLinks thread

variable (value : Option Address)

theorem links_setNext :
    (state.setThread thread ({ · with next := value })).links =
      state.links.setNext thread value := by
  rw [State.setThread_links]
  exact Links.setPrev_self (state.links.setNext thread value) thread

theorem links_setPrev :
    (state.setThread thread ({ · with prev := value })).links =
      state.links.setPrev thread value := by
  rw [State.setThread_links]
  have sameNext : state.links.setNext thread (state.threads thread).next = state.links :=
    Links.setNext_self state.links thread
  rw [sameNext]

theorem allLinks_setNext :
    (state.setThread thread ({ · with allNext := value })).allLinks =
      state.allLinks.setNext thread value := by
  rw [State.setThread_allLinks]
  exact Links.setPrev_self (state.allLinks.setNext thread value) thread

theorem allLinks_setPrev :
    (state.setThread thread ({ · with allPrev := value })).allLinks =
      state.allLinks.setPrev thread value := by
  rw [State.setThread_allLinks]
  have sameNext :
      state.allLinks.setNext thread (state.threads thread).allNext = state.allLinks :=
    Links.setNext_self state.allLinks thread
  rw [sameNext]

variable (target : Option Address)

@[simp] theorem setNextOf_links :
    (setNextOf state target value).links = state.links.setNextOf target value := by
  cases target with
  | none => rfl
  | some thread => exact links_setNext state thread value

@[simp] theorem setPrevOf_links :
    (setPrevOf state target value).links = state.links.setPrevOf target value := by
  cases target with
  | none => rfl
  | some thread => exact links_setPrev state thread value

@[simp] theorem setAllNextOf_allLinks :
    (setAllNextOf state target value).allLinks = state.allLinks.setNextOf target value := by
  cases target with
  | none => rfl
  | some thread => exact allLinks_setNext state thread value

@[simp] theorem setAllPrevOf_allLinks :
    (setAllPrevOf state target value).allLinks = state.allLinks.setPrevOf target value := by
  cases target with
  | none => rfl
  | some thread => exact allLinks_setPrev state thread value

@[simp] theorem setNextOf_allLinks :
    (setNextOf state target value).allLinks = state.allLinks := by
  cases target with
  | none => rfl
  | some thread =>
      rw [setNextOf_some]
      exact allLinks_setThread state thread rfl rfl

@[simp] theorem setPrevOf_allLinks :
    (setPrevOf state target value).allLinks = state.allLinks := by
  cases target with
  | none => rfl
  | some thread =>
      rw [setPrevOf_some]
      exact allLinks_setThread state thread rfl rfl

@[simp] theorem setAllNextOf_links :
    (setAllNextOf state target value).links = state.links := by
  cases target with
  | none => rfl
  | some thread =>
      rw [setAllNextOf_some]
      exact links_setThread state thread rfl rfl

@[simp] theorem setAllPrevOf_links :
    (setAllPrevOf state target value).links = state.links := by
  cases target with
  | none => rfl
  | some thread =>
      rw [setAllPrevOf_some]
      exact links_setThread state thread rfl rfl

@[simp] theorem setNextOf_cpus : (setNextOf state target value).cpus = state.cpus := by
  cases target <;> rfl

@[simp] theorem setNextOf_all : (setNextOf state target value).all = state.all := by
  cases target <;> rfl

@[simp] theorem setNextOf_inactive : (setNextOf state target value).inactive = state.inactive := by
  cases target <;> rfl

@[simp] theorem setPrevOf_cpus : (setPrevOf state target value).cpus = state.cpus := by
  cases target <;> rfl

@[simp] theorem setPrevOf_all : (setPrevOf state target value).all = state.all := by
  cases target <;> rfl

@[simp] theorem setPrevOf_inactive : (setPrevOf state target value).inactive = state.inactive := by
  cases target <;> rfl

@[simp] theorem setAllNextOf_cpus : (setAllNextOf state target value).cpus = state.cpus := by
  cases target <;> rfl

@[simp] theorem setAllNextOf_all : (setAllNextOf state target value).all = state.all := by
  cases target <;> rfl

@[simp] theorem setAllNextOf_inactive :
    (setAllNextOf state target value).inactive = state.inactive := by
  cases target <;> rfl

@[simp] theorem setAllPrevOf_cpus : (setAllPrevOf state target value).cpus = state.cpus := by
  cases target <;> rfl

@[simp] theorem setAllPrevOf_all : (setAllPrevOf state target value).all = state.all := by
  cases target <;> rfl

@[simp] theorem setAllPrevOf_inactive :
    (setAllPrevOf state target value).inactive = state.inactive := by
  cases target <;> rfl

/-- `unlink` is the unlinking of the intrusive list. -/
theorem unlink_links : (unlink state thread).links = state.links.unlink thread := by
  rw [unlink, setNextOf_links, setPrevOf_links]
  change (state.links.setPrevOf _ _).setNextOf
    ((setPrevOf state _ _).links.prev thread) ((setPrevOf state _ _).links.next thread) = _
  rw [setPrevOf_links]
  rfl

theorem unlinkFromAll_allLinks :
    (unlinkFromAll state thread).allLinks = state.allLinks.unlink thread := by
  rw [unlinkFromAll, setAllNextOf_allLinks, setAllPrevOf_allLinks]
  change (state.allLinks.setPrevOf _ _).setNextOf
    ((setAllPrevOf state _ _).allLinks.prev thread)
    ((setAllPrevOf state _ _).allLinks.next thread) = _
  rw [setAllPrevOf_allLinks]
  rfl

/-- Each kind of links is left alone by the operations on the other. -/
theorem unlink_allLinks : (unlink state thread).allLinks = state.allLinks := by
  rw [unlink, setNextOf_allLinks, setPrevOf_allLinks]

theorem unlinkFromAll_links : (unlinkFromAll state thread).links = state.links := by
  rw [unlinkFromAll, setAllNextOf_links, setAllPrevOf_links]

@[simp] theorem unlink_cpus : (unlink state thread).cpus = state.cpus := by
  rw [unlink, setNextOf_cpus, setPrevOf_cpus]

@[simp] theorem unlink_all : (unlink state thread).all = state.all := by
  rw [unlink, setNextOf_all, setPrevOf_all]

@[simp] theorem unlink_inactive : (unlink state thread).inactive = state.inactive := by
  rw [unlink, setNextOf_inactive, setPrevOf_inactive]

@[simp] theorem unlinkFromAll_cpus : (unlinkFromAll state thread).cpus = state.cpus := by
  rw [unlinkFromAll, setAllNextOf_cpus, setAllPrevOf_cpus]

@[simp] theorem unlinkFromAll_all : (unlinkFromAll state thread).all = state.all := by
  rw [unlinkFromAll, setAllNextOf_all, setAllPrevOf_all]

@[simp] theorem unlinkFromAll_inactive :
    (unlinkFromAll state thread).inactive = state.inactive := by
  rw [unlinkFromAll, setAllNextOf_inactive, setAllPrevOf_inactive]

end Links
end Scheduler
end ToyKernel
