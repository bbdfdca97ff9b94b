import ToyKernel.Scheduler.QueueOrder

/-!
# Dispatching

On a busy CPU the current priority has an active thread, no queued thread has a
higher priority than the mask says, and `get_thread` names the current thread once
it has been loaded.  The timer interrupt therefore always finds a thread, and it
leaves the CPU to one of the highest priority that is queued there.
-/

namespace ToyKernel
namespace Scheduler

/-- The control fields of a CPU, its mask and its thread register fit together. -/
structure Dispatches (state : State) (cpu : Nat) : Prop where
  /-- The current priority is in the mask and has an active thread. -/
  current : 0 < (state.cpus cpu).totalThreads →
    BitArray.get (state.cpus cpu).priorityMask (state.cpus cpu).currentPriority = true ∧
      ((state.cpus cpu).priorities (state.cpus cpu).currentPriority).activeTail ≠ none
  /-- The lowest bit of the mask is no lower priority than the current one. -/
  lowest : 0 < (state.cpus cpu).totalThreads →
    ∃ highest, BitArray.findMaskBsf (state.cpus cpu).priorityMask = some highest ∧
      highest ≤ (state.cpus cpu).currentPriority
  /-- A loaded CPU reports its first active thread. -/
  loaded : 0 < (state.cpus cpu).totalThreads → (state.cpus cpu).loadContext = false →
    ∃ thread, ((state.cpus cpu).priorities (state.cpus cpu).currentPriority).activeTail =
        some thread ∧
      (state.machines cpu).fsBase = some thread ∧
      getThread state cpu = getStampId thread (state.threads thread).stamp
  /-- Any other CPU reports no thread. -/
  unloaded : (state.cpus cpu).totalThreads = 0 ∨ (state.cpus cpu).loadContext = true →
    (state.machines cpu).fsBase = none ∧ getThread state cpu = 0

/-- After a timer interrupt a CPU reports a thread of the numerically lowest priority of
all that are queued on it. -/
def SelectsHighest (state : State) (cpu : Nat) : Prop :=
  ∃ thread, (state.machines cpu).fsBase = some thread ∧
    ((state.cpus cpu).priorities (state.cpus cpu).currentPriority).activeTail = some thread ∧
    ∀ queues, state.RunQueues queues → ∀ priority other, other ∈ queues cpu priority →
      (state.threads thread).priority ≤ (state.threads other).priority

section Invariants

variable {platform : Platform} {state : State} {attached : Address → Bool} {summary : Summary}
  {thread : Address} {cpu : Nat}

/-- The priority of a queued thread is that of its queue. -/
theorem priority_of_queued (refines : Refines state summary)
    (invariant : Invariant platform attached summary) {priority : Nat}
    (queued : thread ∈ summary.view.fifo cpu priority) :
    (state.threads thread).priority = priority := by
  obtain ⟨isAttached, running, -, realPriority⟩ := invariant.of_queued refines.lists queued
  rw [← ThreadData.core_priority, refines.thread,
    ← ((invariant.threads thread).running isAttached running).1, realPriority]

theorem dispatches (refines : Refines state summary)
    (invariant : Invariant platform attached summary) (cpu : Nat) : Dispatches state cpu := by
  have fits := invariant.cpus cpu
  have registers : (state.machines cpu).fsBase =
      executes (summary.cpus cpu) (summary.view.queue cpu) := by
    rw [refines.machine, fits.fsBase, fits.executing]
  have active : 0 < (state.cpus cpu).totalThreads →
      (summary.view.queue cpu (state.cpus cpu).currentPriority).active ≠ [] := by
    intro busy
    rw [refines.totalThreads] at busy
    rw [refines.currentPriority]
    exact fits.current (by omega)
  constructor
  · intro busy
    refine ⟨(refines.lists.mask cpu _).mpr (active busy), ?_⟩
    rw [refines.activeTail, ne_eq, List.head?_eq_none_iff]
    exact active busy
  · intro busy
    obtain ⟨highest, found⟩ := refines.lists.exists_findMaskBsf ⟨_, active busy⟩
    refine ⟨highest, found, ?_⟩
    by_contra above
    have isHighest := refines.lists.findMaskBsf_eq_some_iff.mp found
    exact active busy (isHighest.2 _ (by omega))
  · intro busy loadedContext
    obtain ⟨thread, rest, first⟩ := List.exists_cons_of_ne_nil (active busy)
    have activeTail : ((state.cpus cpu).priorities (state.cpus cpu).currentPriority).activeTail =
        some thread := by
      rw [refines.activeTail, first]
      rfl
    rw [refines.totalThreads] at busy
    rw [refines.loadContext] at loadedContext
    have reported : (state.machines cpu).fsBase = some thread := by
      rw [registers, executes, if_pos ⟨by omega, loadedContext⟩, ← refines.currentPriority, first]
      rfl
    exact ⟨thread, activeTail, reported, by simp only [getThread, reported]⟩
  · intro idle
    rw [refines.totalThreads, refines.loadContext] at idle
    have reported : (state.machines cpu).fsBase = none := by
      rw [registers, executes, if_neg]
      rintro ⟨busy, loadedContext⟩
      rcases idle with noThreads | pending
      · exact busy noThreads
      · rw [loadedContext] at pending
        cases pending
    exact ⟨reported, by simp only [getThread, reported]⟩

/-- The current thread of a CPU has the highest priority if its priority is the highest
of the view. -/
theorem selectsHighest (refines : Refines state summary)
    (invariant : Invariant platform attached summary)
    (busy : 0 < (state.cpus cpu).totalThreads)
    (loadedContext : (state.cpus cpu).loadContext = false)
    (isHighest : summary.view.Highest cpu (summary.cpus cpu).currentPriority) :
    SelectsHighest state cpu := by
  obtain ⟨thread, activeTail, reported, -⟩ :=
    (dispatches refines invariant cpu).loaded busy loadedContext
  refine ⟨thread, reported, activeTail, ?_⟩
  intro queues represents priority other queued
  rw [refines.lists.runQueues_iff] at represents
  rw [represents] at queued
  have current : (state.threads thread).priority = (summary.cpus cpu).currentPriority := by
    apply priority_of_queued refines invariant
    rw [refines.first] at activeTail
    exact TwoListQueue.mem_toList.mpr (.inl (List.mem_of_head? activeTail))
  rw [current, priority_of_queued refines invariant queued]
  by_contra above
  have inactive := isHighest.2 priority (by omega)
  rw [View.fifo, (refines.lists.queue cpu priority).filled.toList_eq_nil_iff.mpr inactive]
    at queued
  cases queued

/-- A timer interrupt that is not stopped by a stack overrun selects a thread of the
highest priority. -/
theorem schedule_selectsHighest {after : State} (refines : Refines state summary)
    (invariant : Invariant platform attached summary)
    (busy : 0 < (state.cpus cpu).totalThreads)
    (loadedContext : (state.cpus cpu).loadContext = false)
    (done : schedule state cpu = some after)
    (survives : (after.machines cpu).panicked = false) : SelectsHighest after cpu := by
  obtain ⟨final, scheduled, done', refinesAfter, ticked⟩ := schedule_ticked refines invariant cpu
  obtain rfl := Option.some.inj (done.symm.trans done')
  rw [refines.totalThreads] at busy
  rw [refines.loadContext] at loadedContext
  rw [refinesAfter.machine] at survives
  cases ticked with
  | idle noThreads => omega
  | busy thread scheduled hasThreads first ended view isHighest =>
      have stillInvariant := invariant.schedule refines.lists hasThreads first ended
      have control : (scheduled.cpus cpu).totalThreads = (summary.cpus cpu).totalThreads ∧
          (scheduled.cpus cpu).loadContext = false := by
        cases ended with
        | load pending => simp [pending] at loadedContext
        | panic => exact ⟨rfl, loadedContext⟩
        | tick => exact ⟨rfl, loadedContext⟩
        | switch thread2 highest =>
            simp only [Summary.switch]
            split <;> simp [Summary.rotate, loadedContext]
      refine selectsHighest refinesAfter stillInvariant ?_ ?_ (isHighest loadedContext survives)
      · rw [refinesAfter.totalThreads, control.1]
        exact busy
      · rw [refinesAfter.loadContext, control.2]

end Invariants

/-- In every reachable state every CPU can dispatch: its fields fit together, the timer
interrupt never follows a null pointer, and on a CPU whose thread is loaded it selects a
thread of the highest priority, unless the stack of the current thread has overrun. -/
theorem dispatches_of_reachable (platform : Platform) {world : World}
    (reached : (system platform).Reachable world) (cpu : Nat) :
    Dispatches world.state cpu ∧
      (∃ after, schedule world.state cpu = some after) ∧
      (∃ after, timerInterrupt platform world.state cpu = some after) ∧
      ∀ after, 0 < (world.state.cpus cpu).totalThreads →
        (world.state.cpus cpu).loadContext = false →
        schedule world.state cpu = some after → (after.machines cpu).panicked = false →
        SelectsHighest after cpu := by
  obtain ⟨summary, refines, invariant⟩ := sound_of_reachable reached
  obtain ⟨scheduled, -, done, -, -⟩ := schedule_ticked refines invariant cpu
  obtain ⟨interrupted, -, done', -, -⟩ := timerInterrupt_ticked refines invariant cpu
  exact ⟨dispatches refines invariant cpu, ⟨scheduled, done⟩, ⟨interrupted, done'⟩,
    fun after busy loadedContext ran survives =>
      schedule_selectsHighest refines invariant busy loadedContext ran survives⟩

/-- CPU 1 has loaded one of two threads. -/
theorem dispatches_of_reachable_loaded :
    ∃ world, (system twoCpus).exec bootWorld
        [.attach 0 0x10000, .attach 0 0x20000, .resume 0 0x10000, .resume 0 0x10000000020000,
          .timer 1] = some world ∧
      Dispatches world.state 1 ∧
      (∃ after, schedule world.state 1 = some after) ∧
      (∃ after, timerInterrupt twoCpus world.state 1 = some after) ∧
      ∀ after, 0 < (world.state.cpus 1).totalThreads →
        (world.state.cpus 1).loadContext = false →
        schedule world.state 1 = some after → (after.machines 1).panicked = false →
        SelectsHighest after 1 := by
  obtain ⟨world, executed⟩ := Option.isSome_iff_exists.mp
    (show ((system twoCpus).exec bootWorld
      [.attach 0 0x10000, .attach 0 0x20000, .resume 0 0x10000, .resume 0 0x10000000020000,
        .timer 1]).isSome = true by decide +kernel)
  exact ⟨world, executed, dispatches_of_reachable twoCpus
    (TransitionSystem.reachable_of_exec bootWorld_initial executed) 1⟩

end Scheduler
end ToyKernel
