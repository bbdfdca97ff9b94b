import ToyKernel.Scheduler.Refinement
import Mathlib.Algebra.Order.BigOperators.Group.Finset

/-!
# The invariant of the scheduler

Every attached thread is where its state says, every CPU counts its threads, and
the CPU executes its current thread unless it waits for the next tick.  Each
operation on summaries keeps this.
-/

namespace ToyKernel
namespace Scheduler

/-- The list in which a thread with this state belongs. -/
def placeOf (data : ThreadData) : Place :=
  match data.state with
  | .running => .queued data.cpu data.realPriority
  | .paused => .inactive
  | .stopped => .inactive
  | .unknown => .nowhere

/-- A thread is in the lists where it belongs. -/
structure ThreadFits (platform : Platform) (attached : Bool) (data : ThreadData)
    (listed : Prop) (place : Place) : Prop where
  listed : listed ↔ attached = true
  magic : data.magic = threadMagic ↔ attached = true
  place : place = if attached then placeOf data else .nowhere
  known : attached = true → data.state ≠ .unknown
  priority : attached = true → data.priority < configSchedulerPriorities
  stack : attached = true → data.stack ≠ none
  running : attached = true → data.state = .running →
    data.realPriority = data.priority ∧ data.cpu < platform.cpus

/-- Only these fields of a thread matter. -/
theorem ThreadFits.congr {platform : Platform} {attached : Bool} {data after : ThreadData}
    {listed : Prop} {place : Place} (fits : ThreadFits platform attached data listed place)
    (magic : after.magic = data.magic) (state : after.state = data.state)
    (cpu : after.cpu = data.cpu) (realPriority : after.realPriority = data.realPriority)
    (priority : after.priority = data.priority) (stack : after.stack = data.stack) :
    ThreadFits platform attached after listed place where
  listed := fits.listed
  magic := by
    rw [magic]
    exact fits.magic
  place := by
    rw [fits.place, placeOf, placeOf, state, cpu, realPriority]
  known := by
    rw [state]
    exact fits.known
  priority := by
    rw [priority]
    exact fits.priority
  stack := by
    rw [stack]
    exact fits.stack
  running := by
    rw [state, cpu, realPriority, priority]
    exact fits.running

/-- The number of threads in the run queues of a CPU. -/
def queuedThreads (queue : Nat → TwoListQueue Address) : Int :=
  ∑ priority ∈ Finset.range configSchedulerPriorities, ((queue priority).toList.length : Int)

/-- What a CPU executes: its current thread, unless it has none or waits for the
next tick to load it. -/
def executes (control : CpuControl) (queue : Nat → TwoListQueue Address) : Option Address :=
  if control.totalThreads ≠ 0 ∧ control.loadContext = false then
    (queue control.currentPriority).active.head?
  else
    none

/-- The control fields and the registers of a CPU agree with its run queues. -/
structure CpuFits (control : CpuControl) (machine : Machine)
    (queue : Nat → TwoListQueue Address) : Prop where
  total : control.totalThreads = queuedThreads queue
  current : control.totalThreads ≠ 0 → (queue control.currentPriority).active ≠ []
  executing : machine.executing = executes control queue
  fsBase : machine.fsBase = machine.executing

/-- The invariant. -/
structure Invariant (platform : Platform) (attached : Address → Bool) (summary : Summary) :
    Prop where
  threads : ∀ thread, ThreadFits platform (attached thread) (summary.threads thread)
    (thread ∈ summary.view.all) (summary.view.place thread)
  cpus : ∀ cpu, CpuFits (summary.cpus cpu) (summary.machines cpu) (summary.view.queue cpu)

/-! ## Counting -/

section Counting

variable {queue : Nat → TwoListQueue Address} {priority : Nat}

/-- A change of one queue changes the count by its length. -/
theorem queuedThreads_update (inRange : priority < configSchedulerPriorities)
    (changed : TwoListQueue Address) :
    queuedThreads (Function.update queue priority changed) =
      queuedThreads queue - (queue priority).toList.length + changed.toList.length := by
  have member : priority ∈ Finset.range configSchedulerPriorities :=
    Finset.mem_range.mpr inRange
  simp only [queuedThreads]
  rw [← Finset.add_sum_erase _ _ member, ← Finset.add_sum_erase _ _ member]
  have rest : ∀ other ∈ (Finset.range configSchedulerPriorities).erase priority,
      ((Function.update queue priority changed other).toList.length : Int) =
        (queue other).toList.length := by
    intro other isOther
    rw [Function.update_of_ne (Finset.ne_of_mem_erase isOther)]
  rw [Finset.sum_congr rfl rest, Function.update_self]
  omega

/-- Some queue holds a thread if the count is not zero. -/
theorem exists_active_of_queuedThreads_ne_zero (filled : ∀ priority, (queue priority).Filled)
    (counted : queuedThreads queue ≠ 0) : ∃ priority, (queue priority).active ≠ [] := by
  by_contra noActive
  simp only [not_exists, not_not] at noActive
  apply counted
  apply Finset.sum_eq_zero
  intro priority _
  rw [(filled priority).toList_eq_nil_iff.mpr (noActive priority)]
  rfl

/-- The count is positive if some queue holds a thread. -/
theorem queuedThreads_pos_of_mem (inRange : priority < configSchedulerPriorities)
    {thread : Address} (queued : thread ∈ (queue priority).toList) :
    0 < queuedThreads queue := by
  have positive := List.length_pos_of_mem queued
  have nonneg : ∀ other ∈ Finset.range configSchedulerPriorities,
      (0 : Int) ≤ (queue other).toList.length := fun _ _ => Int.natCast_nonneg _
  have part : ((queue priority).toList.length : Int) ≤ queuedThreads queue :=
    Finset.single_le_sum nonneg (Finset.mem_range.mpr inRange)
  omega

end Counting

namespace CpuFits

variable {control : CpuControl} {machine : Machine} {queue : Nat → TwoListQueue Address}
  {priority : Nat} {thread : Address}

/-- A thread arrives in a run queue of the CPU. -/
theorem enroll (fits : CpuFits control machine queue)
    (filled : ∀ priority, (queue priority).Filled)
    (inRange : priority < configSchedulerPriorities) (thread : Address) :
    CpuFits (control.enroll priority) machine
      (Function.update queue priority ((queue priority).push thread)) := by
  have counted : control.totalThreads + 1 =
      queuedThreads (Function.update queue priority ((queue priority).push thread)) := by
    rw [queuedThreads_update inRange, fits.total, TwoListQueue.toList_push, List.length_append,
      List.length_singleton]
    omega
  by_cases idle : control.totalThreads = 0
  · have active : ((queue priority).push thread).active ≠ [] := by
      rw [ne_eq, ← (TwoListQueue.filled_push _ _).toList_eq_nil_iff, TwoListQueue.toList_push]
      simp
    have executing := fits.executing
    simp only [executes, idle, ne_eq, not_true_eq_false, false_and, if_false] at executing
    rw [CpuControl.enroll, if_pos idle]
    exact ⟨counted, fun _ => by simpa using active, by simp [executes, executing], fits.fsBase⟩
  · have current := fits.current idle
    have head : (Function.update queue priority ((queue priority).push thread)
        control.currentPriority).active.head? =
          (queue control.currentPriority).active.head? := by
      obtain ⟨first, rest, active⟩ := List.exists_cons_of_ne_nil current
      by_cases same : control.currentPriority = priority
      · subst same
        rw [Function.update_self, (filled _).head?_push, active]
        rfl
      · rw [Function.update_of_ne same]
    have executing := fits.executing
    have busy : control.totalThreads + 1 ≠ 0 := by
      rw [counted]
      have pushed : thread ∈ (Function.update queue priority
          ((queue priority).push thread) priority).toList := by
        simp
      have positive := queuedThreads_pos_of_mem inRange pushed
      omega
    rw [CpuControl.enroll, if_neg idle]
    refine ⟨counted, fun _ => ?_, ?_, fits.fsBase⟩
    · rw [ne_eq, ← List.head?_eq_none_iff] at current ⊢
      rwa [head]
    · rw [executing]
      simp only [executes, head, idle, busy, ne_eq, not_false_eq_true, true_and]

/-- A thread leaves its run queue and the CPU is sent to the halt loop if it was
the current one. -/
theorem dismiss (fits : CpuFits control machine queue) (platform : Platform)
    (selfHalt : Bool) (highest : Nat)
    (inRange : priority < configSchedulerPriorities)
    (currentInRange : (queue control.currentPriority).active ≠ [] →
      control.currentPriority < configSchedulerPriorities)
    (nodup : (queue priority).toList.Nodup) (queued : thread ∈ (queue priority).toList)
    (isHighest : (queue control.currentPriority).active.head? = some thread →
      control.totalThreads - 1 ≠ 0 →
      (Function.update queue priority ((queue priority).remove thread) highest).active ≠ []) :
    CpuFits
      (control.dismiss ((queue control.currentPriority).active.head? = some thread) highest)
      (if (queue control.currentPriority).active.head? = some thread then
        machine.halt platform selfHalt
      else machine)
      (Function.update queue priority ((queue priority).remove thread)) := by
  have counted : control.totalThreads - 1 =
      queuedThreads (Function.update queue priority ((queue priority).remove thread)) := by
    have positive := List.length_pos_of_mem queued
    rw [queuedThreads_update inRange, fits.total, TwoListQueue.toList_remove nodup,
      List.length_erase_of_mem queued]
    omega
  have busy : control.totalThreads ≠ 0 := by
    have positive := queuedThreads_pos_of_mem inRange queued
    rw [fits.total]
    omega
  by_cases current : (queue control.currentPriority).active.head? = some thread
  · simp only [current, decide_true, if_true, CpuControl.dismiss, true_and]
    split
    · rename_i remain
      exact ⟨counted, fun _ => isHighest current remain, by simp [executes, Machine.halt], rfl⟩
    · rename_i last
      rw [not_not] at last
      exact ⟨counted, fun remain => absurd last remain,
        by simp [executes, Machine.halt, last], rfl⟩
  · obtain ⟨first, rest, active⟩ := List.exists_cons_of_ne_nil (fits.current busy)
    have isFirst : (queue control.currentPriority).active.head? = some first := by
      rw [active]
      rfl
    have different : thread ≠ first := by
      rintro rfl
      exact current isFirst
    -- somebody else is the current thread, and stays it
    have head : (Function.update queue priority ((queue priority).remove thread)
        control.currentPriority).active.head? = some first := by
      by_cases same : control.currentPriority = priority
      · subst same
        rw [Function.update_self]
        exact TwoListQueue.head?_remove_of_ne isFirst different
      · rw [Function.update_of_ne same]
        exact isFirst
    have stillActive : (Function.update queue priority ((queue priority).remove thread)
        control.currentPriority).active ≠ [] := by
      intro noActive
      rw [noActive] at head
      cases head
    have remain : control.totalThreads - 1 ≠ 0 := by
      have present := TwoListQueue.mem_toList.mpr (.inl (List.mem_of_head? head))
      have positive := queuedThreads_pos_of_mem (currentInRange (fits.current busy)) present
      rw [counted]
      omega
    have executing := fits.executing
    simp only [current, decide_false, if_false, CpuControl.dismiss, Bool.false_eq_true,
      false_and]
    refine ⟨counted, fun _ => stillActive, ?_, fits.fsBase⟩
    rw [executing]
    simp only [executes, head, isFirst, busy, remain, ne_eq, not_false_eq_true, true_and]

/-- The timer interrupt loads the current thread. -/
theorem load (fits : CpuFits control machine queue) (busy : control.totalThreads ≠ 0)
    (first : (queue control.currentPriority).active.head? = some thread)
    (context : IntStackFrame) :
    CpuFits { control with loadContext := false } (machine.run thread context) queue :=
  ⟨fits.total, fits.current, by simp [executes, Machine.run, busy, first], rfl⟩

/-- The timer interrupt switches to the first thread of the highest priority. -/
theorem switch {thread2 : Address} {highest : Nat} (fits : CpuFits control machine queue)
    (loaded : control.loadContext = false) (busy : control.totalThreads ≠ 0)
    (inRange : control.currentPriority < configSchedulerPriorities)
    (first : (queue control.currentPriority).active.head? = some thread)
    (first2 : (Function.update queue control.currentPriority
      (queue control.currentPriority).rotate highest).active.head? = some thread2)
    (context : IntStackFrame) :
    CpuFits { control with currentPriority := highest }
      (if thread2 = thread then machine else machine.run thread2 context)
      (Function.update queue control.currentPriority
        (queue control.currentPriority).rotate) := by
  have executing := fits.executing
  simp only [executes, busy, loaded, ne_eq, not_false_eq_true, and_self, if_true, first]
    at executing
  refine ⟨?_, fun _ => ?_, ?_, ?_⟩
  · rw [queuedThreads_update inRange, (TwoListQueue.perm_rotate _).length_eq]
    have total := fits.total
    simp only
    omega
  · intro noActive
    simp only at noActive
    rw [noActive] at first2
    cases first2
  · simp only [executes, busy, loaded, ne_eq, not_false_eq_true, and_self, if_true, first2]
    split
    · rename_i same
      rw [executing, same]
    · rfl
  · split
    · exact fits.fsBase
    · rfl

end CpuFits

namespace Invariant

variable {platform : Platform} {attached : Address → Bool} {summary : Summary} {state : State}
  {thread : Address} {cpu : Nat}

/-- A thread that is attached is where its state says. -/
theorem place_of_attached (invariant : Invariant platform attached summary)
    (isAttached : attached thread = true) :
    summary.view.place thread = placeOf (summary.threads thread) := by
  rw [(invariant.threads thread).place, if_pos isAttached]

/-- A running thread is in the run queue of its priority and its CPU. -/
theorem place_of_running (invariant : Invariant platform attached summary)
    (isAttached : attached thread = true)
    (running : (summary.threads thread).state = .running) :
    summary.view.place thread =
      .queued (summary.threads thread).cpu (summary.threads thread).realPriority := by
  rw [invariant.place_of_attached isAttached, placeOf, running]

/-- The priorities of running threads are in range. -/
theorem realPriority_lt (invariant : Invariant platform attached summary)
    (isAttached : attached thread = true)
    (running : (summary.threads thread).state = .running) :
    (summary.threads thread).realPriority < configSchedulerPriorities := by
  rw [((invariant.threads thread).running isAttached running).1]
  exact (invariant.threads thread).priority isAttached

/-- A queued thread is attached, running, and in the queue that it names. -/
theorem of_queued (invariant : Invariant platform attached summary)
    (lists : Lists state summary.view) {priority : Nat}
    (queued : thread ∈ (summary.view.queue cpu priority).toList) :
    attached thread = true ∧ (summary.threads thread).state = .running ∧
      (summary.threads thread).cpu = cpu ∧ (summary.threads thread).realPriority = priority := by
  have place := (lists.queuePlace thread cpu priority).mp queued
  rw [(invariant.threads thread).place] at place
  split at place
  · rename_i isAttached
    simp only [placeOf] at place
    split at place
    · rename_i running
      cases place
      exact ⟨isAttached, running, rfl, rfl⟩
    all_goals cases place
  · cases place

/-- The current thread of a busy CPU. -/
theorem exists_first (invariant : Invariant platform attached summary)
    (busy : (summary.cpus cpu).totalThreads ≠ 0) :
    ∃ current, summary.first cpu = some current := by
  obtain ⟨current, rest, active⟩ :=
    List.exists_cons_of_ne_nil ((invariant.cpus cpu).current busy)
  exact ⟨current, by simp [Summary.first, active]⟩

theorem of_first (invariant : Invariant platform attached summary)
    (lists : Lists state summary.view) (first : summary.first cpu = some thread) :
    attached thread = true ∧ (summary.threads thread).state = .running ∧
      (summary.threads thread).cpu = cpu ∧
      (summary.threads thread).realPriority = (summary.cpus cpu).currentPriority := by
  obtain ⟨rest, active⟩ := List.head?_eq_some_iff.mp first
  apply invariant.of_queued lists
  exact TwoListQueue.mem_toList.mpr (.inl (by simp [active]))

/-- The current priority of a CPU is in range if it has active threads. -/
theorem currentPriority_lt (invariant : Invariant platform attached summary)
    (lists : Lists state summary.view)
    (active : (summary.view.queue cpu (summary.cpus cpu).currentPriority).active ≠ []) :
    (summary.cpus cpu).currentPriority < configSchedulerPriorities := by
  obtain ⟨current, rest, isFirst⟩ := List.exists_cons_of_ne_nil active
  have first : summary.first cpu = some current := by
    rw [Summary.first, isFirst]
    rfl
  obtain ⟨isAttached, running, -, realPriority⟩ := invariant.of_first lists first
  rw [← realPriority]
  exact invariant.realPriority_lt isAttached running

/-- If a thread is not the last one of its CPU, another one is left when it goes. -/
theorem exists_active_dismiss (invariant : Invariant platform attached summary)
    (lists : Lists state summary.view) (isAttached : attached thread = true)
    (running : (summary.threads thread).state = .running)
    (onCpu : (summary.threads thread).cpu = cpu)
    (remain : (summary.cpus cpu).totalThreads - 1 ≠ 0) :
    ∃ priority, ((summary.dismiss thread 0).view.queue cpu priority).active ≠ [] := by
  have place := invariant.place_of_running isAttached running
  have inRange := invariant.realPriority_lt isAttached running
  rw [onCpu] at place
  have queued := (lists.queuePlace thread cpu _).mpr place
  have positive := List.length_pos_of_mem queued
  have queues : (summary.dismiss thread 0).view.queue cpu =
      Function.update (summary.view.queue cpu) (summary.threads thread).realPriority
        ((summary.view.queue cpu (summary.threads thread).realPriority).remove thread) := by
    simp [Summary.dismiss, View.dequeue, View.setQueue, View.setPlace, onCpu]
  apply exists_active_of_queuedThreads_ne_zero
  · intro priority
    rw [queues, Function.update_apply]
    split
    · exact TwoListQueue.filled_remove _ thread
    · exact (lists.queue cpu priority).filled
  · rw [queues, queuedThreads_update inRange,
      TwoListQueue.toList_remove (lists.queue cpu _).nodup, List.length_erase_of_mem queued]
    have total := (invariant.cpus cpu).total
    omega

/-! ## The operations -/

theorem attach {stamp : Nat} (invariant : Invariant platform attached summary)
    (priority : (summary.threads thread).priority < configSchedulerPriorities)
    (stack : (summary.threads thread).stack ≠ none) :
    Invariant platform (Function.update attached thread true) (summary.attach thread stamp) := by
  refine ⟨fun other => ?_, fun other => invariant.cpus other⟩
  have fits := invariant.threads other
  by_cases same : other = thread
  · subst same
    constructor <;>
      simp [Summary.attach, View.enterAll, View.enterInactive, View.setPlace, placeOf, priority,
        stack]
  · simpa [Summary.attach, View.enterAll, View.enterInactive, View.setPlace, same] using fits

theorem detach (invariant : Invariant platform attached summary)
    (lists : Lists state summary.view) :
    Invariant platform (Function.update attached thread false) (summary.detach thread) := by
  refine ⟨fun other => ?_, fun other => invariant.cpus other⟩
  have fits := invariant.threads other
  by_cases same : other = thread
  · subst same
    constructor <;>
      simp [Summary.detach, View.leaveAll, View.leaveInactive, View.setPlace,
        lists.all.nodup.not_mem_erase, threadMagic]
  · simpa [Summary.detach, View.leaveAll, View.leaveInactive, View.setPlace, same,
      List.mem_erase_of_ne same] using fits

theorem resume (invariant : Invariant platform attached summary)
    (lists : Lists state summary.view) (isAttached : attached thread = true)
    (onPlatform : cpu < platform.cpus) :
    Invariant platform attached (summary.resume thread cpu) := by
  have priority := (invariant.threads thread).priority isAttached
  constructor
  · intro other
    have fits := invariant.threads other
    by_cases same : other = thread
    · subst same
      have stack := fits.stack isAttached
      have magic := fits.magic
      have listed := fits.listed
      constructor <;>
        simp_all [Summary.resume, Summary.unpark, Summary.enroll, View.enqueue, View.setQueue,
          View.leaveInactive, View.setPlace, placeOf]
    · simpa [Summary.resume, Summary.unpark, Summary.enroll, View.enqueue, View.setQueue,
        View.leaveInactive, View.setPlace, same] using fits
  · intro other
    by_cases same : other = cpu
    · subst same
      have fits := (invariant.cpus other).enroll (fun priority =>
        (lists.queue other priority).filled) priority thread
      simpa [Summary.resume, Summary.unpark, Summary.enroll, View.enqueue, View.setQueue,
        View.leaveInactive, View.setPlace] using fits
    · simpa [Summary.resume, Summary.unpark, Summary.enroll, View.enqueue, View.setQueue,
        View.leaveInactive, View.setPlace, same] using invariant.cpus other

theorem stop {output : BitVec 64} (invariant : Invariant platform attached summary)
    (isAttached : attached thread = true) (paused : (summary.threads thread).state = .paused) :
    Invariant platform attached (summary.stop thread output) := by
  refine ⟨fun other => ?_, fun other => invariant.cpus other⟩
  have fits := invariant.threads other
  by_cases same : other = thread
  · subst same
    have place := fits.place
    constructor <;>
      simp_all [Summary.stop, placeOf, fits.listed, fits.magic, fits.priority, fits.stack]
  · simpa [Summary.stop, same] using fits

theorem deactivate {selfHalt stop : Bool} {output : BitVec 64} {highest : Nat}
    (invariant : Invariant platform attached summary)
    (lists : Lists state summary.view) (isAttached : attached thread = true)
    (running : (summary.threads thread).state = .running)
    (isHighest : summary.first (summary.threads thread).cpu = some thread →
      (summary.cpus (summary.threads thread).cpu).totalThreads - 1 ≠ 0 →
      (summary.dismiss thread highest).view.Highest (summary.threads thread).cpu highest) :
    Invariant platform attached
      (summary.deactivate platform thread selfHalt stop output highest) := by
  have place := invariant.place_of_running isAttached running
  generalize cpuEq : (summary.threads thread).cpu = cpu at place isHighest
  generalize priorityEq : (summary.threads thread).realPriority = priority at place
  have inRange : priority < configSchedulerPriorities :=
    priorityEq ▸ invariant.realPriority_lt isAttached running
  have queued := (lists.queuePlace thread cpu priority).mpr place
  constructor
  · intro other
    have fits := invariant.threads other
    by_cases same : other = thread
    · subst same
      have stack := fits.stack isAttached
      have magic := fits.magic
      have listed := fits.listed
      have allowed := fits.priority isAttached
      simp only [Summary.deactivate]
      split <;> cases stop <;> constructor <;>
        simp_all [Summary.dismiss, Summary.park, Summary.save, View.dequeue, View.setQueue,
          View.enterInactive, View.setPlace, placeOf]
    · simp only [Summary.deactivate]
      split <;>
        simpa [Summary.dismiss, Summary.park, Summary.save, View.dequeue, View.setQueue,
          View.enterInactive, View.setPlace, same] using fits
  · intro other
    by_cases same : other = cpu
    · subst same
      have fits := (invariant.cpus other).dismiss platform selfHalt highest inRange
        (invariant.currentPriority_lt lists) (lists.queue other priority).nodup queued
        (by simpa [Summary.first, Summary.dismiss, View.Highest, View.dequeue, View.setQueue,
              View.setPlace, cpuEq, priorityEq] using
            fun current remain => (isHighest current remain).1)
      simp only [Summary.deactivate, cpuEq, Summary.first]
      split <;> rename_i current <;>
        simpa [Summary.dismiss, Summary.park, Summary.save, View.dequeue, View.setQueue,
          View.enterInactive, View.setPlace, cpuEq, priorityEq, Summary.first, current] using fits
    · simp only [Summary.deactivate]
      split <;>
        simpa [Summary.dismiss, Summary.park, Summary.save, View.dequeue, View.setQueue,
          View.enterInactive, View.setPlace, cpuEq, same] using invariant.cpus other

/-- The timer interrupt on a busy CPU. -/
theorem schedule {scheduled : Summary} (invariant : Invariant platform attached summary)
    (lists : Lists state summary.view)
    (busy : (summary.cpus cpu).totalThreads ≠ 0) (first : summary.first cpu = some thread)
    (ended : summary.Scheduled cpu thread scheduled) :
    Invariant platform attached scheduled := by
  obtain ⟨isAttached, running, onCpu, realPriority⟩ := invariant.of_first lists first
  obtain ⟨samePriority, -⟩ := (invariant.threads thread).running isAttached running
  cases ended with
  | load pending =>
      refine ⟨fun other => invariant.threads other, fun other => ?_⟩
      by_cases same : other = cpu
      · subst same
        simpa [Summary.load] using (invariant.cpus other).load busy first _
      · simpa [Summary.load, same] using invariant.cpus other
  | panic loaded =>
      refine ⟨fun other => invariant.threads other, fun other => ?_⟩
      have fits := invariant.cpus other
      by_cases same : other = cpu
      · subst same
        exact ⟨fits.total, fits.current, by simpa [Summary.panic] using fits.executing,
          by simpa [Summary.panic] using fits.fsBase⟩
      · simpa [Summary.panic, same] using fits
  | tick loaded =>
      refine ⟨fun other => ?_, fun other => invariant.cpus other⟩
      have fits := invariant.threads other
      by_cases same : other = thread
      · subst same
        apply fits.congr <;> simp [Summary.tick]
      · simpa [Summary.tick, same] using fits
  | switch thread2 highest loaded isHighest first2 =>
      constructor
      · intro other
        have fits := invariant.threads other
        simp only [Summary.switch]
        by_cases same : other = thread
        · subst same
          split <;> apply fits.congr <;> simp [Summary.rotate, samePriority]
        · split <;> simpa [Summary.rotate, View.rotate, View.setQueue, same] using fits
      · intro other
        by_cases same : other = cpu
        · subst same
          have inRange := realPriority ▸ invariant.realPriority_lt isAttached running
          have result := (invariant.cpus other).switch loaded busy inRange first
            (by simpa [Summary.first, Summary.rotate, View.rotate, View.setQueue] using first2)
            ((summary.rotate other thread highest).threads thread2).context
          simp only [Summary.switch]
          split <;> rename_i sameThread <;>
            simpa [Summary.rotate, View.rotate, View.setQueue, sameThread] using result
        · simp only [Summary.switch]
          split <;>
            simpa [Summary.rotate, View.rotate, View.setQueue, same] using invariant.cpus other

end Invariant
end Scheduler
end ToyKernel
