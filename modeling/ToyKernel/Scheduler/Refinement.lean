import ToyKernel.Scheduler.Summary

/-!
# The scheduler refines its summaries

`Refines` says that a state has a given summary.  Each part of the scheduler takes
a state with a summary to a state with the summary that the operation of the same
name gives.
-/

namespace ToyKernel
namespace Scheduler

namespace State

/-- The threads without their links. -/
def cores (state : State) (thread : Address) : ThreadData := (state.threads thread).core

/-- The control fields of the CPUs. -/
def controls (state : State) (cpu : Nat) : CpuControl := (state.cpus cpu).control

section Setters

variable (state : State) (thread : Address) (cpu : Nat)

/-- An assignment that does not depend on links. -/
theorem setThread_cores {change : ThreadData → ThreadData}
    (changeCore : ThreadData → ThreadData)
    (commutes : ∀ data, (change data).core = changeCore data.core) :
    (state.setThread thread change).cores =
      Function.update state.cores thread (changeCore (state.cores thread)) := by
  funext other
  simp only [cores, setThread_threads, Function.update_apply]
  split
  · exact commutes _
  · rfl

@[simp] theorem setThread_controls (change : ThreadData → ThreadData) :
    (state.setThread thread change).controls = state.controls := rfl

@[simp] theorem setCpu_cores (change : CpuData → CpuData) :
    (state.setCpu cpu change).cores = state.cores := rfl

/-- Two assignments to one CPU. -/
theorem setCpu_setCpu (first second : CpuData → CpuData) :
    (state.setCpu cpu first).setCpu cpu second =
      state.setCpu cpu fun cpud => second (first cpud) := by
  simp [setCpu]

theorem setTask_setTask (first second : CpuTask → CpuTask) :
    (state.setTask cpu first).setTask cpu second =
      state.setTask cpu fun task => second (first task) := by
  simp [setTask, setCpu_setCpu]

@[simp] theorem setTask_cores (change : CpuTask → CpuTask) :
    (state.setTask cpu change).cores = state.cores := rfl

@[simp] theorem setTask_controls (change : CpuTask → CpuTask) :
    (state.setTask cpu change).controls = state.controls := by
  funext other
  simp only [controls, CpuData.control, setTask_totalThreads, setTask_currentPriority,
    setTask_loadContext]

@[simp] theorem setMachine_cores (change : Machine → Machine) :
    (state.setMachine cpu change).cores = state.cores := rfl

@[simp] theorem setMachine_controls (change : Machine → Machine) :
    (state.setMachine cpu change).controls = state.controls := rfl

end Setters

end State

namespace OnlyLists

variable {before after : State}

theorem cores (only : OnlyLists before after) : after.cores = before.cores :=
  funext only.core

theorem controls (only : OnlyLists before after) : after.controls = before.controls := by
  funext cpu
  simp only [State.controls, CpuData.control, only.totalThreads, only.currentPriority,
    only.loadContext]

end OnlyLists

/-- Change the links of a thread. -/
def ThreadData.relink (data : ThreadData) (prev next allPrev allNext : Option Address) :
    ThreadData :=
  { data with prev := prev, next := next, allPrev := allPrev, allNext := allNext }

/-- What `run_cpu_task` amounts to when the CPU answers. -/
theorem runCpuTask_eq {platform : Platform} {state : State} {caller cpu : Nat} {task : CpuTask}
    (answers : caller = cpu ∨ (state.machines cpu).panicked = false) :
    runCpuTask platform state caller cpu task =
      (handleTask platform
        (state.setTask cpu fun _ =>
          if caller = cpu then task else { task with error := .errBusy })
        cpu (caller ≠ cpu)).map fun after => (after, (after.cpus cpu).task) := by
  by_cases own : caller = cpu
  · simp [runCpuTask, own, Option.map_eq_bind]
  · have responds := answers.resolve_left own
    simp [runCpuTask, own, responds, Option.map_eq_bind, State.setTask_setTask]

/-- A timer interrupt on this CPU ends the slice of its current thread: the thread has
been loaded, its stack is intact, and it has used up its quantum or a thread of a
higher priority is queued. -/
def State.endsSlice (state : State) (cpu : Nat) : Bool :=
  let cpud := state.cpus cpu
  match (cpud.priorities cpud.currentPriority).activeTail,
      BitArray.findMaskBsf cpud.priorityMask with
  | some thread, some highest =>
      cpud.totalThreads ≠ 0 && !cpud.loadContext &&
        (state.threads thread).stack.any (fun stack => state.memory stack = stackOverrunMagic) &&
        !(cpud.currentPriority ≤ highest && (state.threads thread).quantum ≠ 0)
  | _, _ => false

/-- A state has a summary. -/
structure Refines (state : State) (summary : Summary) : Prop where
  lists : Lists state summary.view
  threads : state.cores = summary.threads
  cpus : state.controls = summary.cpus
  machines : state.machines = summary.machines

namespace Refines

variable {state : State} {summary : Summary}

theorem thread (refines : Refines state summary) (thread : Address) :
    (state.threads thread).core = summary.threads thread :=
  congrFun refines.threads thread

theorem cpu (refines : Refines state summary) (cpu : Nat) :
    (state.cpus cpu).control = summary.cpus cpu :=
  congrFun refines.cpus cpu

theorem machine (refines : Refines state summary) (cpu : Nat) :
    state.machines cpu = summary.machines cpu :=
  congrFun refines.machines cpu

theorem totalThreads (refines : Refines state summary) (cpu : Nat) :
    (state.cpus cpu).totalThreads = (summary.cpus cpu).totalThreads := by
  rw [← refines.cpu]
  rfl

theorem currentPriority (refines : Refines state summary) (cpu : Nat) :
    (state.cpus cpu).currentPriority = (summary.cpus cpu).currentPriority := by
  rw [← refines.cpu]
  rfl

theorem loadContext (refines : Refines state summary) (cpu : Nat) :
    (state.cpus cpu).loadContext = (summary.cpus cpu).loadContext := by
  rw [← refines.cpu]
  rfl

/-- `active_tail` is the first active thread. -/
theorem activeTail (refines : Refines state summary) (cpu priority : Nat) :
    ((state.cpus cpu).priorities priority).activeTail =
      (summary.view.queue cpu priority).active.head? :=
  (refines.lists.queue cpu priority).active.first_eq

/-- The current thread of a CPU in both models. -/
theorem first (refines : Refines state summary) (cpu : Nat) :
    ((state.cpus cpu).priorities (state.cpus cpu).currentPriority).activeTail =
      summary.first cpu := by
  rw [refines.activeTail, refines.currentPriority]
  rfl

/-! ## Attaching and detaching -/

/-- `attach_thread`. -/
theorem attachThread {platform : Platform} {thread : Address}
    (refines : Refines state summary)
    (accepted : checkAttach platform state thread = .errNone)
    (unplaced : summary.view.place thread = .nowhere) (unlisted : thread ∉ summary.view.all) :
    Refines (attachThread platform state thread).1 (summary.attach thread state.stamp) := by
  simp only [Scheduler.attachThread, accepted]
  have data : (initAttached state thread).threads thread =
      { state.threads thread with
        prev := none, allPrev := none, state := .paused, runTime := 0
        magic := threadMagic, stamp := state.stamp } := by
    simp [initAttached, assignStampIdStamp]
  have others : ∀ other, other ≠ thread →
      (initAttached state thread).threads other = state.threads other := by
    intro other different
    simp [initAttached, different]
  have cores : (initAttached state thread).cores = (summary.attach thread state.stamp).threads := by
    funext other
    simp only [State.cores, Summary.attach, Summary.setThread_threads]
    split
    · rename_i same
      rw [same, data, ← refines.thread]
      rfl
    · rename_i different
      rw [others other different, refines.thread]
      rfl
  have lists : Lists (initAttached state thread) summary.view := by
    apply refines.lists.transport
    · intro other placed
      have different : other ≠ thread := fun same => placed (same ▸ unplaced)
      simp [State.links, others other different]
    · intro other present
      have different : other ≠ thread := fun same => unlisted (same ▸ present)
      simp [State.allLinks, others other different]
    all_goals
      first
      | rfl
      | exact fun _ => rfl
  have listed := lists.linkAll unlisted (by rw [data])
  have prev : ((linkAll (initAttached state thread) thread).threads thread).prev = none := by
    have sameLinks := linkAll_links (initAttached state thread) thread
    have samePrev := congrFun (congrArg Links.prev sameLinks) thread
    exact samePrev.trans (by simp only [State.links, data])
  have only := (OnlyLists.linkAll (initAttached state thread) thread).trans
    (OnlyLists.linkInactive (linkAll (initAttached state thread) thread) thread)
  refine ⟨listed.linkInactive unplaced prev, only.cores.trans cores, ?_, ?_⟩
  · rw [only.controls]
    exact refines.cpus
  · rw [only.machines]
    exact refines.machines

/-- `detach_thread`, once it has found the thread. -/
theorem detached {thread : Address} (refines : Refines state summary)
    (place : summary.view.place thread = .inactive) (present : thread ∈ summary.view.all) :
    Refines ((unlinkAll (unlinkInactive state thread) thread).setThread thread
        ({ · with magic := 0, prev := none, next := none, allPrev := none, allNext := none }))
      (summary.detach thread) := by
  have lists := (refines.lists.unlinkInactive place).unlinkAll present
  have only := (OnlyLists.unlinkInactive state thread).trans
    (OnlyLists.unlinkAll (unlinkInactive state thread) thread)
  refine ⟨?_, ?_, ?_, ?_⟩
  · have others : ∀ (change : ThreadData → ThreadData) other, other ≠ thread →
        ((unlinkAll (unlinkInactive state thread) thread).setThread thread
          change).threads other =
          (unlinkAll (unlinkInactive state thread) thread).threads other := by
      intro change other different
      simp [different]
    apply lists.transport
    · intro other placed
      have different : other ≠ thread := by
        rintro rfl
        apply placed
        simp [View.leaveAll, View.leaveInactive, View.setPlace]
      simp [State.links, different]
    · intro other listed
      have different : other ≠ thread := by
        rintro rfl
        exact refines.lists.all.nodup.not_mem_erase listed
      simp [State.allLinks, different]
    all_goals
      first
      | rfl
      | exact fun _ => rfl
  · rw [State.setThread_cores _ _ ({ · with magic := 0 }) fun _ => rfl,
      only.cores, refines.threads]
    rfl
  · rw [State.setThread_controls, only.controls]
    exact refines.cpus
  · rw [State.setThread_machines, only.machines]
    exact refines.machines

/-! ## Resuming -/

/-- An assignment to fields other than links. -/
theorem setThread {thread : Address} {change : ThreadData → ThreadData}
    (refines : Refines state summary) (commutes : ∀ data prev next allPrev allNext,
      change (data.relink prev next allPrev allNext) =
        (change data).relink prev next allPrev allNext) :
    Refines (state.setThread thread change)
      (summary.setThread thread (change (summary.threads thread))) where
  lists := by
    have same : change (state.threads thread) = (change (state.threads thread)).relink
        (state.threads thread).prev (state.threads thread).next
        (state.threads thread).allPrev (state.threads thread).allNext :=
      commutes (state.threads thread) _ _ _ _
    have next := congrArg ThreadData.next same
    have prev := congrArg ThreadData.prev same
    have allNext := congrArg ThreadData.allNext same
    have allPrev := congrArg ThreadData.allPrev same
    apply refines.lists.congr
    · exact links_setThread state thread next prev
    · exact allLinks_setThread state thread allNext allPrev
    all_goals
      first
      | rfl
      | exact fun _ => rfl
  threads := by
    rw [State.setThread_cores state thread change fun data =>
      (commutes data none none none none).symm, refines.threads]
    rfl
  cpus := refines.cpus
  machines := refines.machines

/-- An assignment to the task of a CPU. -/
theorem setTask {cpu : Nat} {change : CpuTask → CpuTask} (refines : Refines state summary) :
    Refines (state.setTask cpu change) summary where
  lists := by
    apply refines.lists.congr
    · rfl
    · rfl
    · rfl
    · rfl
    · intro other
      funext priority
      simp
    · intro other
      simp [State.setTask]
      split <;> simp_all
  threads := refines.threads
  cpus := by
    rw [State.setTask_controls]
    exact refines.cpus
  machines := refines.machines

/-- An assignment to control fields of a CPU. -/
theorem setCpu {cpu : Nat} {change : CpuData → CpuData} {control : CpuControl}
    (refines : Refines state summary)
    (changed : (change (state.cpus cpu)).control = control)
    (priorities : (change (state.cpus cpu)).priorities = (state.cpus cpu).priorities)
    (mask : (change (state.cpus cpu)).priorityMask = (state.cpus cpu).priorityMask) :
    Refines (state.setCpu cpu change) (summary.setCpu cpu control) where
  lists := by
    apply refines.lists.congr
    · rfl
    · rfl
    · rfl
    · rfl
    · intro other
      rw [State.setCpu_cpus]
      split
      · rename_i same
        rw [same, priorities]
      · rfl
    · intro other
      rw [State.setCpu_cpus]
      split
      · rename_i same
        rw [same, mask]
      · rfl
  threads := refines.threads
  cpus := by
    funext other
    rw [State.controls, State.setCpu_cpus, Summary.setCpu_cpus]
    split
    · exact changed
    · exact refines.cpu other
  machines := refines.machines

/-- An assignment to the registers of a CPU. -/
theorem setMachine {cpu : Nat} {change : Machine → Machine} {machine : Machine}
    (refines : Refines state summary)
    (changed : change (summary.machines cpu) = machine) :
    Refines (state.setMachine cpu change) (summary.setMachine cpu machine) where
  lists := by
    apply refines.lists.congr
    all_goals
      first
      | rfl
      | exact fun _ => rfl
  threads := refines.threads
  cpus := refines.cpus
  machines := by
    simp only [State.setMachine, Summary.setMachine, refines.machines, changed]

/-- A step on lists alone. -/
theorem onlyLists {after : State} {view : View} (refines : Refines state summary)
    (only : OnlyLists state after) (lists : Lists after view) :
    Refines after (summary.setView view) where
  lists := lists
  threads := only.cores.trans refines.threads
  cpus := only.controls.trans refines.cpus
  machines := only.machines.trans refines.machines

/-- The data of a thread in no list is replaced. -/
theorem replace {thread : Address} (refines : Refines state summary) (data : ThreadData)
    (unplaced : summary.view.place thread = .nowhere) (unlisted : thread ∉ summary.view.all) :
    Refines (state.setThread thread fun _ => data) (summary.setThread thread data.core) where
  lists := by
    apply refines.lists.transport
    · intro other placed
      have different : other ≠ thread := fun same => placed (same ▸ unplaced)
      simp [State.links, different]
    · intro other present
      have different : other ≠ thread := fun same => unlisted (same ▸ present)
      simp [State.allLinks, different]
    all_goals
      first
      | rfl
      | exact fun _ => rfl
  threads := by
    rw [State.setThread_cores state thread (fun _ => data.core) fun _ => rfl, refines.threads]
    rfl
  cpus := refines.cpus
  machines := refines.machines

/-- Stacks and clocks are not part of the summary. -/
theorem outside {memory : Address → BitVec 64} {ticks : BitVec 64}
    {timerTicks : Nat → BitVec 64} (refines : Refines state summary) :
    Refines { state with memory := memory, ticks := ticks, timerTicks := timerTicks }
      summary where
  lists := refines.lists.congr rfl rfl rfl rfl (fun _ => rfl) (fun _ => rfl)
  threads := refines.threads
  cpus := refines.cpus
  machines := refines.machines

/-! ## Resuming -/

/-- The part of `resume_thread` before the task. -/
theorem unparkThread {thread : Address} (refines : Refines state summary)
    (place : summary.view.place thread = .inactive) :
    Refines (unparkThread state thread) (summary.unpark thread) := by
  have unlinked := refines.onlyLists (OnlyLists.unlinkInactive state thread)
    (refines.lists.unlinkInactive place)
  have result : Refines (updatePriorityQuantum ((unlinkInactive state thread).setThread thread
      fun data => { data with realPriority := data.priority, quantum := 0 }) thread) _ :=
    (unlinked.setThread fun _ _ _ _ _ => rfl).setThread fun _ _ _ _ _ => rfl
  simpa [Scheduler.unparkThread, Summary.unpark] using result

/-- `do_resume_task`. -/
theorem doResumeTask {thread : Address} {cpu : Nat} (refines : Refines state summary)
    (task : (state.cpus cpu).task.thread = some thread)
    (unplaced : summary.view.place thread = .nowhere)
    (inRange : (summary.threads thread).realPriority < configSchedulerPriorities) :
    ∃ after, Scheduler.doResumeTask state cpu = some after ∧
      Refines after (summary.enroll thread cpu) := by
  have running : Refines (state.setThread thread ({ · with state := .running, cpu := cpu })) _ :=
    refines.setThread fun _ _ _ _ _ => rfl
  generalize runningEq :
    state.setThread thread ({ · with state := .running, cpu := cpu }) = middle at running
  have realPriority : (middle.threads thread).realPriority =
      (summary.threads thread).realPriority := by
    rw [← ThreadData.core_realPriority, running.thread]
    simp
  have queued := running.onlyLists (OnlyLists.addExpired middle cpu thread)
    (running.lists.addExpired unplaced realPriority inRange)
  generalize queuedEq : addExpired middle cpu thread = linked at queued
  have total : (linked.cpus cpu).totalThreads = (summary.cpus cpu).totalThreads :=
    queued.totalThreads cpu
  have current : (linked.threads thread).realPriority =
      (summary.threads thread).realPriority := by
    rw [← ThreadData.core_realPriority, queued.thread]
    simp
  simp only [Scheduler.doResumeTask, task, Option.bind_eq_bind, Option.bind_some, runningEq,
    queuedEq, total, current]
  refine ⟨_, rfl, ?_⟩
  apply setTask
  have control : (linked.cpus cpu).control = summary.cpus cpu := queued.cpu cpu
  split
  · rename_i idle
    rw [State.setCpu_setCpu]
    apply queued.setCpu _ rfl rfl
    rw [CpuControl.enroll, if_pos idle, ← total]
    rfl
  · rename_i busy
    apply queued.setCpu _ rfl rfl
    rw [CpuControl.enroll, if_neg busy, ← control]
    rfl

theorem unparkThread_machines (state : State) (thread : Address) :
    (Scheduler.unparkThread state thread).machines = state.machines :=
  (OnlyLists.unlinkInactive state thread).machines

/-- `resume_thread`, once it has found a paused thread and a CPU. -/
theorem resumed {thread : Address} {caller cpu : Nat} (refines : Refines state summary)
    (platform : Platform) (place : summary.view.place thread = .inactive)
    (inRange : (summary.threads thread).priority < configSchedulerPriorities)
    (answers : caller = cpu ∨ (state.machines cpu).panicked = false) :
    ∃ after task, runCpuTask platform (Scheduler.unparkThread state thread) caller cpu
        { type := .resume, error := .errNone, thread := some thread, lock := none } =
          some (after, task) ∧
      Refines after (summary.resume thread cpu) := by
  have unparked := refines.unparkThread place
  rw [← unparkThread_machines state thread] at answers
  generalize Scheduler.unparkThread state thread = middle at unparked answers ⊢
  have unplaced : (summary.unpark thread).view.place thread = .nowhere := by
    simp [Summary.unpark, View.leaveInactive, View.setPlace]
  have realPriority : ((summary.unpark thread).threads thread).realPriority <
      configSchedulerPriorities := by
    simpa [Summary.unpark] using inRange
  rw [runCpuTask_eq answers]
  have posted : ∀ task : CpuTask, task.type = .resume → task.thread = some thread →
      ∃ after, handleTask platform (middle.setTask cpu fun _ => task) cpu (caller ≠ cpu) =
        some after ∧ Refines after (summary.resume thread cpu) := by
    intro task type target
    have refinesPosted : Refines (middle.setTask cpu fun _ => task) (summary.unpark thread) :=
      unparked.setTask
    simp only [handleTask, State.setTask_task_self, type]
    exact refinesPosted.doResumeTask (by simpa using target) unplaced realPriority
  obtain ⟨after, done, refinesAfter⟩ := posted
    (if caller = cpu then
      { type := .resume, error := .errNone, thread := some thread, lock := none }
    else
      { type := .resume, error := .errBusy, thread := some thread, lock := none })
    (by split <;> rfl) (by split <;> rfl)
  exact ⟨after, _, by rw [done, Option.map_some], refinesAfter⟩

/-! ## Pausing and stopping -/

/-- The part of `do_pause_task` that takes the thread out of its queue and counts
it. -/
theorem dequeued {thread : Address} {cpu priority : Nat} (refines : Refines state summary)
    (place : summary.view.place thread = .queued cpu priority)
    (realPriority : (summary.threads thread).realPriority = priority)
    (inRange : priority < configSchedulerPriorities) :
    Refines ((removeQueued state cpu thread).setCpu cpu
        fun cpud => { cpud with totalThreads := cpud.totalThreads - 1 })
      ((summary.setView (summary.view.dequeue cpu priority thread)).setCpu cpu
        { summary.cpus cpu with totalThreads := (summary.cpus cpu).totalThreads - 1 }) := by
  have samePriority : (state.threads thread).realPriority = priority := by
    rw [← ThreadData.core_realPriority, refines.thread, realPriority]
  have removed := refines.onlyLists (OnlyLists.removeQueued state cpu thread)
    (refines.lists.removeQueued place samePriority inRange)
  apply removed.setCpu _ rfl rfl
  rw [← show _ = summary.cpus cpu from removed.cpu cpu]
  rfl

/-- `__set_thread(NULL)`. -/
theorem cleared (refines : Refines state summary) (cpu : Nat) :
    Refines (setThreadRegister state cpu none)
      (summary.setMachine cpu { summary.machines cpu with fsBase := none }) :=
  refines.setMachine rfl

/-- `__load_thread_context` and `__store_halt`. -/
theorem saved {platform : Platform} {thread : Address} {cpu : Nat} {machine : Machine}
    (refines : Refines state (summary.setMachine cpu machine))
    (unset : machine.fsBase = none) {selfHalt : Bool}
    (frame : machine.frame = (summary.machines cpu).interrupted selfHalt)
    (panicked : machine.panicked = (summary.machines cpu).panicked) :
    Refines (storeHalt platform (loadThreadContext state cpu thread) cpu)
      (summary.save platform cpu thread selfHalt) := by
  have loaded : Refines (loadThreadContext state cpu thread) _ :=
    refines.setThread fun _ _ _ _ _ => rfl
  have sameMachine := refines.machine cpu
  rw [Summary.setMachine_machines, if_pos rfl] at sameMachine
  have result : Refines (storeHalt platform (loadThreadContext state cpu thread) cpu) _ :=
    loaded.setMachine rfl
  have halted : ({ machine with
      frame := { machine.frame with rip := platform.halt }, executing := none } : Machine) =
      (summary.machines cpu).halt platform selfHalt := by
    simp only [Machine.halt, ← frame, ← unset, ← panicked]
  simpa [Summary.save, sameMachine, frame, ← halted] using result

/-- The choice of the next priority in `do_pause_task`. -/
theorem chosen (refines : Refines state summary) (cpu : Nat)
    (someActive : (summary.cpus cpu).totalThreads ≠ 0 →
      ∃ priority, (summary.view.queue cpu priority).active ≠ []) :
    ∃ after highest,
      chooseHighest state cpu = some after ∧
      ((summary.cpus cpu).totalThreads ≠ 0 → summary.view.Highest cpu highest) ∧
      Refines after (summary.setCpu cpu
        (if (summary.cpus cpu).totalThreads ≠ 0 then
          ⟨(summary.cpus cpu).totalThreads, highest, true⟩
        else
          summary.cpus cpu)) ∧
      (after.cpus cpu).task = (state.cpus cpu).task := by
  rw [chooseHighest, refines.totalThreads]
  by_cases idle : (summary.cpus cpu).totalThreads = 0
  · refine ⟨state, 0, by simp [idle], fun busy => absurd idle busy, ?_, rfl⟩
    simpa [idle, Summary.setCpu] using refines
  · obtain ⟨highest, found⟩ := refines.lists.exists_findMaskBsf (someActive idle)
    refine ⟨state.setCpu cpu ({ · with currentPriority := highest, loadContext := true }),
      highest, by simp [idle, found], fun _ => refines.lists.findMaskBsf_eq_some_iff.mp found,
      ?_, by simp⟩
    apply refines.setCpu _ rfl rfl
    rw [if_pos idle, ← refines.totalThreads]
    rfl

/-- `do_pause_task` for a thread that runs on the CPU. -/
theorem doPauseTask {thread : Address} {cpu : Nat} (refines : Refines state summary)
    (platform : Platform) (stackFrame : Bool)
    (task : (state.cpus cpu).task.thread = some thread)
    (running : (summary.threads thread).state = .running)
    (onCpu : (summary.threads thread).cpu = cpu)
    (place : summary.view.place thread =
      .queued cpu (summary.threads thread).realPriority)
    (inRange : (summary.threads thread).realPriority < configSchedulerPriorities)
    (someActive : (summary.cpus cpu).totalThreads - 1 ≠ 0 →
      ∃ priority, ((summary.dismiss thread 0).view.queue cpu priority).active ≠ []) :
    ∃ after highest, Scheduler.doPauseTask platform state cpu stackFrame = some after ∧
      (summary.first cpu = some thread → (summary.cpus cpu).totalThreads - 1 ≠ 0 →
        (summary.dismiss thread highest).view.Highest cpu highest) ∧
      (after.cpus cpu).task =
        { (state.cpus cpu).task with
          error := .errNone
          type :=
            if summary.first cpu = some thread ∧ stackFrame = false then .selfHalt
            else (state.cpus cpu).task.type } ∧
      Refines after (summary.pauseTask platform thread stackFrame highest) := by
  have removed := refines.dequeued place rfl inRange
  generalize removedEq : (removeQueued state cpu thread).setCpu cpu
    (fun cpud => { cpud with totalThreads := cpud.totalThreads - 1 }) = middle at removed
  have sameTask : (middle.cpus cpu).task = (state.cpus cpu).task := by
    rw [← removedEq, State.setCpu_cpus, if_pos rfl]
    exact (OnlyLists.removeQueued state cpu thread).task cpu
  have accepted : ¬ ((state.threads thread).state ≠ .running ∨
      (state.threads thread).cpu ≠ cpu) := by
    rw [← ThreadData.core_state, ← ThreadData.core_cpu, refines.thread]
    simp [running, onCpu]
  simp only [Scheduler.doPauseTask, task, Option.bind_eq_bind, Option.bind_some,
    if_neg accepted, refines.first, removedEq, Summary.pauseTask, onCpu]
  by_cases current : summary.first cpu = some thread
  · obtain ⟨chosen, highest, choice, isHighest, refinesChosen, chosenTask⟩ :=
      removed.chosen cpu (by simpa [Summary.dismiss, onCpu] using someActive)
    have dismissed : Refines chosen (summary.dismiss thread highest) := by
      simpa [Summary.dismiss, CpuControl.dismiss, onCpu, current] using refinesChosen
    have cleared := dismissed.cleared cpu
    simp only [current, if_true, Scheduler.haltCurrent, choice, Option.bind_eq_bind,
      Option.bind_some]
    cases stackFrame with
    | true =>
        refine ⟨_, highest, rfl, fun _ => ?_, ?_, ?_⟩
        · simpa [Summary.dismiss, onCpu] using isHighest
        · rw [State.setTask_task_self]
          simp [storeHalt, loadThreadContext, setThreadRegister, chosenTask, sameTask, task]
        · exact (cleared.saved rfl rfl rfl).setTask
    | false =>
        refine ⟨_, highest, rfl, fun _ => ?_, ?_, ?_⟩
        · simpa [Summary.dismiss, onCpu] using isHighest
        · rw [State.setTask_task_self]
          simp [setThreadRegister, chosenTask, sameTask, task]
        · exact cleared.setTask.setTask
  · simp only [current, if_false]
    refine ⟨_, 0, rfl, fun isCurrent => isCurrent.elim, ?_, ?_⟩
    · simp [sameTask, task]
    · apply setTask
      simpa [Summary.dismiss, CpuControl.dismiss, onCpu, current] using removed

/-- The part of `deactivate_running` that puts the thread into the `inactive`
list. -/
theorem parkThread {thread : Address} (refines : Refines state summary) (stop : Bool)
    (output : BitVec 64) (unplaced : summary.view.place thread = .nowhere) :
    Refines (parkThread state thread stop output) (summary.park thread stop output) := by
  generalize changedEq : state.setThread thread
    ({ · with prev := none, state := if stop then .stopped else .paused }) = changed
  have refinesChanged : Refines changed (summary.setThread thread
      { summary.threads thread with state := if stop then .stopped else .paused }) := by
    rw [← changedEq]
    refine ⟨?_, ?_, refines.cpus, refines.machines⟩
    · apply refines.lists.transport
      · intro other placed
        have different : other ≠ thread := fun same => placed (same ▸ unplaced)
        simp [State.links, different]
      · rw [allLinks_setThread state thread rfl rfl]
        exact fun _ _ => ⟨rfl, rfl⟩
      all_goals
        first
        | rfl
        | exact fun _ => rfl
    · rw [State.setThread_cores state thread
        ({ · with state := if stop then .stopped else .paused }) fun _ => rfl,
        refines.threads]
      rfl
  have linked := refinesChanged.onlyLists (OnlyLists.linkInactive changed thread)
    (refinesChanged.lists.linkInactive unplaced (by simp [← changedEq]))
  rw [Scheduler.parkThread, changedEq]
  cases stop with
  | true =>
      have result : Refines ((Scheduler.linkInactive changed thread).setThread thread
          ({ · with output := output })) _ :=
        linked.setThread fun _ _ _ _ _ => rfl
      simpa [Summary.park] using result
  | false => simpa [Summary.park] using linked

theorem parkThread_task (state : State) (thread : Address) (stop : Bool) (output : BitVec 64)
    (cpu : Nat) :
    ((Scheduler.parkThread state thread stop output).cpus cpu).task =
      (state.cpus cpu).task := by
  rw [Scheduler.parkThread]
  split <;> simp [linkInactive_cpus]

/-- `deactivate_running` for a running thread whose CPU answers. -/
theorem deactivateRunning {thread : Address} {caller cpu : Nat} (refines : Refines state summary)
    (platform : Platform) (stop : Bool) (output : BitVec 64) (lockToRelease : Option Address)
    (running : (summary.threads thread).state = .running)
    (onCpu : (summary.threads thread).cpu = cpu)
    (place : summary.view.place thread =
      .queued cpu (summary.threads thread).realPriority)
    (inRange : (summary.threads thread).realPriority < configSchedulerPriorities)
    (someActive : (summary.cpus cpu).totalThreads - 1 ≠ 0 →
      ∃ priority, ((summary.dismiss thread 0).view.queue cpu priority).active ≠ [])
    (answers : caller = cpu ∨ (state.machines cpu).panicked = false) :
    ∃ after highest selfHalt,
      Scheduler.deactivateRunning platform state caller stop thread output lockToRelease =
        some (after, .errNone, selfHalt) ∧
      (summary.first cpu = some thread → (summary.cpus cpu).totalThreads - 1 ≠ 0 →
        (summary.dismiss thread highest).view.Highest cpu highest) ∧
      Refines after
        (summary.deactivate platform thread (caller = cpu) stop output highest) := by
  have sameCpu : (state.threads thread).cpu = cpu := by
    rw [← ThreadData.core_cpu, refines.thread, onCpu]
  generalize taskEq :
    (if caller = cpu then
      ({ type := .pause, error := .errNone, thread := some thread, lock := lockToRelease } :
        CpuTask)
    else
      { type := .pause, error := .errBusy, thread := some thread, lock := lockToRelease }) =
      task
  have taskFields : task.type = .pause ∧ task.thread = some thread := by
    rw [← taskEq]
    split <;> exact ⟨rfl, rfl⟩
  have refinesPosted : Refines (state.setTask cpu fun _ => task) summary := refines.setTask
  obtain ⟨paused, highest, done, isHighest, pausedTask, refinesPaused⟩ :=
    refinesPosted.doPauseTask platform (caller ≠ cpu) (by simp [taskFields]) running onCpu place
      inRange someActive
  have unplaced :
      (summary.pauseTask platform thread (caller ≠ cpu) highest).view.place thread =
        .nowhere := by
    have gone : (summary.dismiss thread highest).view.place thread = .nowhere := by
      simp [Summary.dismiss, View.dequeue, View.setPlace, View.setQueue]
    simp only [Summary.pauseTask]
    split
    · split <;> exact gone
    · exact gone
  have refinesParked := refinesPaused.parkThread stop output unplaced
  rw [Scheduler.deactivateRunning, sameCpu, runCpuTask_eq answers, taskEq]
  simp only [handleTask, State.setTask_task_self, taskFields, done, Option.map_some,
    Option.bind_eq_bind, Option.bind_some, pausedTask]
  by_cases halts : summary.first cpu = some thread ∧ caller = cpu
  · obtain ⟨current, own⟩ := halts
    subst own
    have target : ((Scheduler.parkThread paused thread stop output).cpus caller).task.thread =
        some thread := by
      rw [parkThread_task, pausedTask, State.setTask_task_self]
      exact taskFields.2
    have cleared : Refines (Scheduler.parkThread paused thread stop output)
        (((summary.dismiss thread highest).park thread stop output).setMachine caller
          { summary.machines caller with fsBase := none }) := by
      simpa [Summary.pauseTask, Summary.park, onCpu, current] using refinesParked
    have halted : Refines (storeHalt platform (loadThreadContext
        (storeIntEnabled (Scheduler.parkThread paused thread stop output) caller) caller thread)
        caller) (((summary.dismiss thread highest).park thread stop output).save platform caller
          thread true) := by
      have enabled : Refines
          (storeIntEnabled (Scheduler.parkThread paused thread stop output) caller) _ :=
        cleared.setMachine rfl
      rw [Summary.setMachine_machines, if_pos rfl, Summary.setMachine_setMachine] at enabled
      exact enabled.saved rfl rfl rfl
    refine ⟨storeHalt platform (loadThreadContext
      (storeIntEnabled (Scheduler.parkThread paused thread stop output) caller) caller thread)
      caller, highest, true, ?_, isHighest, ?_⟩
    · have haltTask :
          ((Scheduler.parkThread paused thread stop output).cpus caller).task.type =
            .selfHalt := by
        rw [parkThread_task, pausedTask]
        simp [current]
      have stillTarget : ((storeIntEnabled (Scheduler.parkThread paused thread stop output)
          caller).cpus caller).task.thread = some thread := target
      simp [current, haltTask, doSelfHaltTask, stillTarget]
    · simpa [Summary.deactivate, onCpu, current] using halted
  · refine ⟨Scheduler.parkThread paused thread stop output, highest, false, ?_, isHighest, ?_⟩
    · simp [halts]
    · by_cases current : summary.first cpu = some thread
      · have remote : caller ≠ cpu := fun own => halts ⟨current, own⟩
        simpa [Summary.deactivate, Summary.pauseTask, Summary.park, Summary.save, onCpu, current,
          remote] using refinesParked
      · simpa [Summary.deactivate, Summary.pauseTask, onCpu, current] using refinesParked

/-! ## The timer interrupt -/

/-- The rotation in the timer interrupt, after the run time is counted. -/
theorem rotated {thread : Address} {cpu : Nat} (refines : Refines state summary)
    (highest : Nat) (first : summary.first cpu = some thread)
    (samePriority : (summary.threads thread).priority = (summary.cpus cpu).currentPriority)
    (inRange : (summary.cpus cpu).currentPriority < configSchedulerPriorities) :
    Refines ((Scheduler.rotate (state.setThread thread
        fun data => { data with runTime := data.runTime + 1 }) cpu thread).setCpu cpu
          ({ · with currentPriority := highest }))
      (summary.rotate cpu thread highest) := by
  have counted : Refines (state.setThread thread
      fun data => { data with runTime := data.runTime + 1 }) _ :=
    refines.setThread fun _ _ _ _ _ => rfl
  generalize (state.setThread thread fun data => { data with runTime := data.runTime + 1 }) =
    ticked at counted
  have current : (ticked.cpus cpu).currentPriority = (summary.cpus cpu).currentPriority :=
    counted.currentPriority cpu
  obtain ⟨rest, active⟩ := List.head?_eq_some_iff.mp first
  have lists : Lists (Scheduler.rotate ticked cpu thread)
      (summary.view.rotate cpu (ticked.cpus cpu).currentPriority) := by
    apply counted.lists.rotate
    · rw [current]
      exact active
    · rw [← ThreadData.core_priority, counted.thread, current]
      simpa using samePriority
    · rw [current]
      exact inRange
  have loaded : Refines (updatePriorityQuantum (loadThreadContext ticked cpu thread) thread) _ :=
    (counted.setThread fun _ _ _ _ _ => rfl).setThread fun _ _ _ _ _ => rfl
  have moved := loaded.onlyLists (OnlyLists.rotate ticked cpu thread) lists
  have frame := counted.machine cpu
  have control : ((Scheduler.rotate ticked cpu thread).cpus cpu).control = summary.cpus cpu :=
    moved.cpu cpu
  have result : Refines ((Scheduler.rotate ticked cpu thread).setCpu cpu
      ({ · with currentPriority := highest })) _ :=
    moved.setCpu
      (show _ = { summary.cpus cpu with currentPriority := highest } by rw [← control]; rfl)
      rfl rfl
  simpa [Summary.rotate, current, frame] using result

/-- A rotation leaves the highest priority of a CPU the same. -/
theorem highest_rotate {cpu highest current : Nat} (refines : Refines state summary)
    (isHighest : summary.view.Highest cpu highest) :
    (summary.view.rotate cpu current).Highest cpu highest := by
  have filled := (refines.lists.queue cpu current).filled
  refine ⟨?_, fun lower below => ?_⟩
  · rw [View.rotate, View.setQueue_queue]
    split
    · rename_i same
      exact filled.rotate_active_ne_nil (same.2 ▸ isHighest.1)
    · exact isHighest.1
  · have inactive := isHighest.2 lower below
    rw [View.rotate, View.setQueue_queue]
    split
    · rename_i same
      rw [same.2] at inactive
      simp [TwoListQueue.rotate, inactive]
    · exact inactive

/-- After a rotation the highest priority still has active threads. -/
theorem exists_first_rotate {cpu highest : Nat} (refines : Refines state summary)
    (thread : Address) (isHighest : summary.view.Highest cpu highest) :
    ∃ thread2, (summary.rotate cpu thread highest).first cpu = some thread2 := by
  have rotated : (summary.view.rotate cpu (summary.cpus cpu).currentPriority).Highest cpu
      highest := refines.highest_rotate isHighest
  obtain ⟨thread2, rest, isFirst⟩ := List.exists_cons_of_ne_nil rotated.1
  exact ⟨thread2, by simp [Summary.first, Summary.rotate, isFirst]⟩

/-- When a slice ends on a busy CPU. -/
theorem endsSlice_eq {thread : Address} {cpu highest : Nat} {stack : Address}
    (activeTail : ((state.cpus cpu).priorities (state.cpus cpu).currentPriority).activeTail =
      some thread)
    (found : BitArray.findMaskBsf (state.cpus cpu).priorityMask = some highest)
    (hasStack : (state.threads thread).stack = some stack)
    (total : (state.cpus cpu).totalThreads ≠ 0) :
    state.endsSlice cpu =
      (!(state.cpus cpu).loadContext && decide (state.memory stack = stackOverrunMagic) &&
        !decide ((state.cpus cpu).currentPriority ≤ highest ∧
          (state.threads thread).quantum ≠ 0)) := by
  simp [State.endsSlice, activeTail, found, hasStack, total]

section Schedule

variable {thread : Address} {cpu highest : Nat} {stack : Address}

/-- What the timer interrupt reads before it counts the run time of the current thread. -/
theorem schedule_counted (refines : Refines state summary)
    (busy : (summary.cpus cpu).totalThreads ≠ 0)
    (first : summary.first cpu = some thread)
    (hasStack : (summary.threads thread).stack = some stack)
    (loaded : (summary.cpus cpu).loadContext = false)
    (intact : state.memory stack = stackOverrunMagic)
    (found : BitArray.findMaskBsf (state.cpus cpu).priorityMask = some highest) :
    Scheduler.schedule state cpu =
      let counted := state.setThread thread fun data => { data with runTime := data.runTime + 1 }
      if (summary.cpus cpu).currentPriority ≤ highest ∧ (state.threads thread).quantum ≠ 0 then
        some (counted.setThread thread fun data => { data with quantum := data.quantum - 1 })
      else
        let switched := (Scheduler.rotate counted cpu thread).setCpu cpu
          ({ · with currentPriority := highest })
        ((switched.cpus cpu).priorities highest).activeTail.bind fun thread2 =>
          if thread2 ≠ thread then
            some (setThreadRegister (storeThreadContext switched cpu thread2) cpu (some thread2))
          else
            some switched := by
  have threadStack : (state.threads thread).stack = some stack := by
    rw [← ThreadData.core_stack, refines.thread, hasStack]
  have total : (state.cpus cpu).totalThreads ≠ 0 := by
    rwa [refines.totalThreads]
  have activeTail := refines.first cpu
  rw [first] at activeTail
  have sameQuantum : ((state.setThread thread
      fun data => { data with runTime := data.runTime + 1 }).threads thread).quantum =
        (state.threads thread).quantum := by
    simp
  simp only [Scheduler.schedule, if_neg total, activeTail, Option.bind_eq_bind, Option.bind_some,
    refines.loadContext, loaded, Bool.false_eq_true, if_false, threadStack,
    if_neg (not_not.mpr intact), State.setThread_cpus, found]
  rw [refines.currentPriority, sameQuantum]

/-- The timer interrupt that loads the current thread. -/
theorem schedule_loaded (refines : Refines state summary)
    (busy : (summary.cpus cpu).totalThreads ≠ 0)
    (first : summary.first cpu = some thread)
    (pending : (summary.cpus cpu).loadContext = true) :
    ∃ after, Scheduler.schedule state cpu = some after ∧
      Refines after (summary.load cpu thread) := by
  have total : (state.cpus cpu).totalThreads ≠ 0 := by
    rwa [refines.totalThreads]
  have activeTail := refines.first cpu
  rw [first] at activeTail
  simp only [Scheduler.schedule, if_neg total, activeTail, Option.bind_eq_bind,
    Option.bind_some, refines.loadContext, pending, if_true]
  refine ⟨_, rfl, ?_⟩
  have context : (state.threads thread).context = (summary.threads thread).context := by
    rw [← ThreadData.core_context, refines.thread]
  have stored : Refines (setThreadRegister (storeThreadContext state cpu thread) cpu
      (some thread)) _ :=
    (refines.setMachine rfl).setMachine rfl
  have result : Refines ((setThreadRegister (storeThreadContext state cpu thread) cpu
      (some thread)).setCpu cpu ({ · with loadContext := false })) _ :=
    stored.setCpu
      (show _ = { summary.cpus cpu with loadContext := false } by
        rw [← refines.cpu cpu]
        rfl)
      rfl rfl
  simpa [Summary.load, Machine.run, context] using result

/-- The timer interrupt that finds the stack of the current thread overrun. -/
theorem schedule_panicked (refines : Refines state summary)
    (busy : (summary.cpus cpu).totalThreads ≠ 0)
    (first : summary.first cpu = some thread)
    (hasStack : (summary.threads thread).stack = some stack)
    (loaded : (summary.cpus cpu).loadContext = false)
    (overrun : state.memory stack ≠ stackOverrunMagic) :
    ∃ after, Scheduler.schedule state cpu = some after ∧ Refines after (summary.panic cpu) := by
  have threadStack : (state.threads thread).stack = some stack := by
    rw [← ThreadData.core_stack, refines.thread, hasStack]
  have total : (state.cpus cpu).totalThreads ≠ 0 := by
    rwa [refines.totalThreads]
  have activeTail := refines.first cpu
  rw [first] at activeTail
  simp only [Scheduler.schedule, if_neg total, activeTail, Option.bind_eq_bind,
    Option.bind_some, refines.loadContext, loaded, Bool.false_eq_true, if_false, threadStack,
    if_pos overrun]
  exact ⟨_, rfl, refines.setMachine rfl⟩

/-- The timer interrupt in which the current thread keeps the CPU. -/
theorem schedule_kept (refines : Refines state summary)
    (busy : (summary.cpus cpu).totalThreads ≠ 0)
    (first : summary.first cpu = some thread)
    (hasStack : (summary.threads thread).stack = some stack)
    (loaded : (summary.cpus cpu).loadContext = false)
    (intact : state.memory stack = stackOverrunMagic)
    (found : BitArray.findMaskBsf (state.cpus cpu).priorityMask = some highest)
    (remains : (summary.cpus cpu).currentPriority ≤ highest ∧
      (state.threads thread).quantum ≠ 0) :
    ∃ after, Scheduler.schedule state cpu = some after ∧ Refines after (summary.tick thread) := by
  rw [refines.schedule_counted busy first hasStack loaded intact found, if_pos remains]
  have counted : Refines (state.setThread thread
      fun data => { data with runTime := data.runTime + 1 }) _ :=
    refines.setThread fun _ _ _ _ _ => rfl
  have ticked : Refines ((state.setThread thread
      fun data => { data with runTime := data.runTime + 1 }).setThread thread
        fun data => { data with quantum := data.quantum - 1 }) _ :=
    counted.setThread fun _ _ _ _ _ => rfl
  exact ⟨_, rfl, by simpa [Summary.tick] using ticked⟩

/-- The timer interrupt that ends the slice of the current thread. -/
theorem schedule_switched (refines : Refines state summary)
    (busy : (summary.cpus cpu).totalThreads ≠ 0)
    (first : summary.first cpu = some thread)
    (hasStack : (summary.threads thread).stack = some stack)
    (loaded : (summary.cpus cpu).loadContext = false)
    (intact : state.memory stack = stackOverrunMagic)
    (found : BitArray.findMaskBsf (state.cpus cpu).priorityMask = some highest)
    (ended : ¬ ((summary.cpus cpu).currentPriority ≤ highest ∧
      (state.threads thread).quantum ≠ 0))
    (samePriority : (summary.threads thread).priority = (summary.cpus cpu).currentPriority)
    (inRange : (summary.cpus cpu).currentPriority < configSchedulerPriorities) :
    ∃ after thread2, Scheduler.schedule state cpu = some after ∧
      (summary.rotate cpu thread highest).first cpu = some thread2 ∧
      Refines after (summary.switch cpu thread thread2 highest) := by
  have rotated := refines.rotated highest first samePriority inRange
  obtain ⟨thread2, first2⟩ :=
    refines.exists_first_rotate thread (refines.lists.findMaskBsf_eq_some_iff.mp found)
  rw [refines.schedule_counted busy first hasStack loaded intact found, if_neg ended]
  generalize (Scheduler.rotate (state.setThread thread
    fun data => { data with runTime := data.runTime + 1 }) cpu thread).setCpu cpu
      ({ · with currentPriority := highest }) = switched at rotated ⊢
  have activeTail2 : ((switched.cpus cpu).priorities highest).activeTail = some thread2 := by
    rw [rotated.activeTail, ← first2]
    simp [Summary.first, Summary.rotate]
  simp only [activeTail2, Option.bind_some]
  by_cases same : thread2 = thread
  · refine ⟨switched, thread2, if_neg (not_not.mpr same), first2, ?_⟩
    simpa [Summary.switch, same] using rotated
  · refine ⟨_, thread2, if_pos same, first2, ?_⟩
    have context : (switched.threads thread2).context =
        ((summary.rotate cpu thread highest).threads thread2).context := by
      rw [← ThreadData.core_context, rotated.thread]
    have stored : Refines (setThreadRegister (storeThreadContext switched cpu thread2) cpu
        (some thread2)) _ :=
      (rotated.setMachine rfl).setMachine rfl
    have machine : (summary.rotate cpu thread highest).machines cpu =
        summary.machines cpu := rfl
    simpa [Summary.switch, same, Machine.run, context, machine] using stored

/-- The timer interrupt on a CPU that has threads. -/
theorem schedule (refines : Refines state summary)
    (busy : (summary.cpus cpu).totalThreads ≠ 0)
    (first : summary.first cpu = some thread)
    (hasStack : (summary.threads thread).stack = some stack)
    (samePriority : (summary.threads thread).priority = (summary.cpus cpu).currentPriority)
    (inRange : (summary.cpus cpu).currentPriority < configSchedulerPriorities) :
    ∃ after scheduled, Scheduler.schedule state cpu = some after ∧
      Refines after scheduled ∧ summary.Scheduled cpu thread scheduled ∧
      scheduled.view =
        (if state.endsSlice cpu then summary.view.rotate cpu (summary.cpus cpu).currentPriority
        else summary.view) ∧
      ((summary.cpus cpu).loadContext = false → (scheduled.machines cpu).panicked = false →
        scheduled.view.Highest cpu (scheduled.cpus cpu).currentPriority) := by
  have threadStack : (state.threads thread).stack = some stack := by
    rw [← ThreadData.core_stack, refines.thread, hasStack]
  have total : (state.cpus cpu).totalThreads ≠ 0 := by
    rwa [refines.totalThreads]
  have activeTail := refines.first cpu
  rw [first] at activeTail
  obtain ⟨rest, active⟩ := List.head?_eq_some_iff.mp first
  obtain ⟨highest, found⟩ := refines.lists.exists_findMaskBsf
    ⟨(summary.cpus cpu).currentPriority, by rw [active]; simp⟩
  have isHighest := refines.lists.findMaskBsf_eq_some_iff.mp found
  rw [endsSlice_eq activeTail found threadStack total]
  cases pending : (summary.cpus cpu).loadContext with
  | true =>
      obtain ⟨after, done, refinesAfter⟩ := refines.schedule_loaded busy first pending
      exact ⟨after, _, done, refinesAfter, .load pending,
        by simp [Summary.load, refines.loadContext, pending], by simp⟩
  | false =>
      by_cases intact : state.memory stack = stackOverrunMagic
      · by_cases remains : (summary.cpus cpu).currentPriority ≤ highest ∧
            (state.threads thread).quantum ≠ 0
        · obtain ⟨after, done, refinesAfter⟩ :=
            refines.schedule_kept busy first hasStack pending intact found remains
          have isLowest : highest = (summary.cpus cpu).currentPriority := by
            by_contra different
            have inactive := isHighest.2 (summary.cpus cpu).currentPriority (by omega)
            rw [active] at inactive
            cases inactive
          refine ⟨after, _, done, refinesAfter, .tick pending, ?_, fun _ _ => ?_⟩
          · simp [Summary.tick, refines.currentPriority, remains]
          · simpa [Summary.tick, ← isLowest] using isHighest
        · obtain ⟨after, thread2, done, first2, refinesAfter⟩ :=
            refines.schedule_switched busy first hasStack pending intact found remains
              samePriority inRange
          have rotatedPriority : ((summary.switch cpu thread thread2 highest).cpus
              cpu).currentPriority = highest := by
            simp [Summary.rotate]
          refine ⟨after, _, done, refinesAfter, .switch thread2 highest pending isHighest first2,
            ?_, fun _ _ => ?_⟩
          · rw [Summary.switch_view, refines.loadContext, pending, refines.currentPriority]
            simp [intact, remains]
          · rw [Summary.switch_view, rotatedPriority]
            exact refines.highest_rotate isHighest
      · obtain ⟨after, done, refinesAfter⟩ :=
          refines.schedule_panicked busy first hasStack pending intact
        exact ⟨after, _, done, refinesAfter, .panic pending,
          by simp [Summary.panic, intact], by simp [Summary.panic]⟩

end Schedule

end Refines

end Scheduler
end ToyKernel
