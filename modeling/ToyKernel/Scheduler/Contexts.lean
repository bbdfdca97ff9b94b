import ToyKernel.Scheduler.Conservation

/-!
# Integrity of the thread contexts

A thread that no CPU executes has the registers saved that it last had on a CPU,
as long as nobody pauses or stops a thread that its CPU has yet to load.
-/

namespace ToyKernel
namespace Scheduler

/-- The step pauses or stops the current thread of a CPU that has not loaded it: the
CPU is still in the halt loop, and the registers saved for the thread are those of
the halt loop. -/
def Action.HaltsUnloaded (state : State) (action : Action) : Prop :=
  ∃ thread, action.target state = .ok thread ∧ (state.threads thread).state = .running ∧
    (state.cpus (state.threads thread).cpu).loadContext = true ∧
    ((state.cpus (state.threads thread).cpu).priorities
      (state.cpus (state.threads thread).cpu).currentPriority).activeTail = some thread

/-- A thread that no CPU executes. -/
def State.Suspended (state : State) (thread : Address) : Prop :=
  ∀ cpu, (state.machines cpu).executing ≠ some thread

/-- The context of each suspended thread is what it last had on a CPU. -/
def World.Saved (world : World) : Prop :=
  ∀ thread, world.state.Suspended thread →
    (world.state.threads thread).context = world.captured thread

/-- A thread that a CPU begins to execute gets the registers it last had. -/
def DispatchesCaptured (world next : World) : Prop :=
  ∀ cpu thread, (next.state.machines cpu).executing = some thread →
    (world.state.machines cpu).executing ≠ some thread →
    (next.state.machines cpu).frame = world.captured thread ∧
      next.captured thread = world.captured thread

/-- A step leaves the contexts of suspended threads alone, unless it prepares them. -/
def KeepsSuspended (world : World) (action : Action) (next : World) : Prop :=
  ∀ thread, world.state.Suspended thread → action.prepares thread = false →
    (next.state.threads thread).context = (world.state.threads thread).context

section Executing

variable {platform : Platform} {state : State} {attached : Address → Bool}
  {summary : Summary} {thread : Address} {cpu : Nat}

/-- What a CPU executes is its current thread. -/
theorem Invariant.of_executing (invariant : Invariant platform attached summary)
    (executing : (summary.machines cpu).executing = some thread) :
    summary.first cpu = some thread ∧ (summary.cpus cpu).totalThreads ≠ 0 ∧
      (summary.cpus cpu).loadContext = false := by
  rw [(invariant.cpus cpu).executing, executes] at executing
  split at executing
  · rename_i loaded
    exact ⟨executing, loaded⟩
  · cases executing

/-- The current thread of a CPU is executed unless it waits to be loaded. -/
theorem Invariant.executing_of_first (invariant : Invariant platform attached summary)
    (lists : Lists state summary.view) (first : summary.first cpu = some thread)
    (loaded : (summary.cpus cpu).loadContext = false) :
    (summary.machines cpu).executing = some thread := by
  have busy : (summary.cpus cpu).totalThreads ≠ 0 := by
    obtain ⟨rest, active⟩ := List.head?_eq_some_iff.mp first
    have queued := TwoListQueue.mem_toList.mpr (.inl (show thread ∈ (summary.view.queue cpu
      (summary.cpus cpu).currentPriority).active by simp [active]))
    have inRange : (summary.cpus cpu).currentPriority < configSchedulerPriorities :=
      invariant.currentPriority_lt lists (by simp [active])
    have positive := queuedThreads_pos_of_mem inRange queued
    rw [(invariant.cpus cpu).total]
    omega
  rw [(invariant.cpus cpu).executing, executes, if_pos ⟨busy, loaded⟩]
  exact first

/-- A thread executes on its CPU only. -/
theorem Invariant.cpu_of_executing (invariant : Invariant platform attached summary)
    (lists : Lists state summary.view)
    (executing : (summary.machines cpu).executing = some thread) :
    (summary.threads thread).cpu = cpu ∧ cpu < platform.cpus := by
  obtain ⟨first, -, -⟩ := invariant.of_executing executing
  obtain ⟨isAttached, running, onCpu, -⟩ := invariant.of_first lists first
  exact ⟨onCpu, onCpu ▸ ((invariant.threads thread).running isAttached running).2⟩

end Executing

section Capture

variable {platform : Platform} {world : World} {summary : Summary} {thread : Address}
  {cpu : Nat} {action : Action} {after : State}

/-- The search for the CPU that executes a thread finds it. -/
theorem executor_eq_some (refines : Refines world.state summary)
    (invariant : Invariant platform world.attached summary)
    (executing : (summary.machines cpu).executing = some thread) :
    world.executor platform thread = some cpu := by
  obtain ⟨onCpu, onPlatform⟩ := invariant.cpu_of_executing refines.lists executing
  cases found : world.executor platform thread with
  | none =>
      have nowhere := List.find?_eq_none.mp found cpu (List.mem_range.mpr onPlatform)
      rw [refines.machine, executing] at nowhere
      simp at nowhere
  | some other =>
      have executes := List.find?_some found
      rw [refines.machine, decide_eq_true_iff] at executes
      rw [← (invariant.cpu_of_executing refines.lists executes).1, onCpu]

theorem executor_eq_none (refines : Refines world.state summary)
    (suspended : ∀ cpu, (summary.machines cpu).executing ≠ some thread) :
    world.executor platform thread = none := by
  apply List.find?_eq_none.mpr
  intro cpu _
  rw [refines.machine]
  simpa using suspended cpu

theorem capture_of_executing (refines : Refines world.state summary)
    (invariant : Invariant platform world.attached summary)
    (executing : (summary.machines cpu).executing = some thread)
    (unprepared : action.prepares thread = false) :
    world.capture platform action after thread =
      (summary.machines cpu).interrupted (action.selfHalts cpu) := by
  simp only [World.capture, unprepared, Bool.false_eq_true, if_false,
    executor_eq_some refines invariant executing, refines.machine]

theorem capture_of_suspended (refines : Refines world.state summary)
    (suspended : ∀ cpu, (summary.machines cpu).executing ≠ some thread)
    (unprepared : action.prepares thread = false) :
    world.capture platform action after thread = world.captured thread := by
  simp only [World.capture, unprepared, Bool.false_eq_true, if_false,
    executor_eq_none refines suspended]

end Capture

section Steps

variable {platform : Platform} {state : State} {attached attached' : Address → Bool}
  {summary summary' : Summary} {thread : Address} {cpu : Nat} {action : Action}

/-- Where a pause or a stop finds a current thread, the CPU executes it. -/
def HaltsLoaded (state : State) (summary : Summary) (action : Action) : Prop :=
  ∀ thread, action.target state = .ok thread → (summary.threads thread).state = .running →
    summary.first (summary.threads thread).cpu = some thread →
    (summary.cpus (summary.threads thread).cpu).loadContext = false

/-- What a step does to a thread: it saves the registers if it takes the thread off its
CPU, and otherwise leaves the context alone. -/
theorem Moves.context
    (moves : Moves platform state attached summary action attached' summary')
    (lists : Lists state summary.view) (invariant : Invariant platform attached summary)
    (halts : HaltsLoaded state summary action) (unprepared : action.prepares thread = false) :
    ((summary'.threads thread).context = (summary.threads thread).context ∧
      ∀ cpu, (summary.machines cpu).executing = some thread →
        (summary'.machines cpu).executing = some thread) ∨
      ∃ cpu, (summary.machines cpu).executing = some thread ∧
        (summary'.threads thread).context =
          (summary.machines cpu).interrupted (action.selfHalts cpu) := by
  cases moves with
  | stay => exact .inl ⟨rfl, fun _ => id⟩
  | prepare unattached magic =>
      have different : thread ≠ _ := Ne.symm (of_decide_eq_false unprepared)
      exact .inl ⟨by simp [different], fun _ => id⟩
  | setContext context unattached =>
      have different : thread ≠ _ := Ne.symm (of_decide_eq_false unprepared)
      exact .inl ⟨by simp [different], fun _ => id⟩
  | execute =>
      refine .inl ⟨rfl, fun cpu executing => ?_⟩
      rw [Summary.setMachine_machines]
      split <;> simp_all
  | attach stamp unattached priority stack =>
      refine .inl ⟨?_, fun _ => id⟩
      simp only [Summary.attach, Summary.setThread_threads, Summary.setView_threads]
      split <;> simp_all
  | detach target isAttached idle =>
      refine .inl ⟨?_, fun _ => id⟩
      simp only [Summary.detach, Summary.setThread_threads, Summary.setView_threads]
      split <;> simp_all
  | resume target onCpu isAttached paused onPlatform =>
      refine .inl ⟨?_, fun _ => id⟩
      simp only [Summary.resume, Summary.unpark, Summary.enroll, Summary.setThread_threads,
        Summary.setView_threads, Summary.setCpu_threads, if_true]
      split <;> simp_all
  | stop target output isAttached paused =>
      refine .inl ⟨?_, fun _ => id⟩
      simp only [Summary.stop, Summary.setThread_threads]
      split <;> simp_all
  | deactivate target stop output highest found isAttached running isHighest =>
      by_cases current : summary.first (summary.threads target).cpu = some target
      · have executing := invariant.executing_of_first lists current
          (halts target found running current)
        by_cases same : thread = target
        · subst same
          exact .inr ⟨_, executing, by
            simp [Summary.deactivate, current, Summary.save, Summary.park, Summary.dismiss]⟩
        · left
          simp only [Summary.deactivate, current, if_true, Summary.save, Summary.park,
            Summary.dismiss, Summary.setMachine_threads, Summary.setThread_threads, same,
            if_false, Summary.setMachine_machines]
          refine ⟨rfl, fun cpu executes => ?_⟩
          split
          · rename_i isCpu
            rw [isCpu, executing] at executes
            exact absurd (Option.some.inj executes).symm same
          · exact executes
      · left
        simp only [Summary.deactivate, current, if_false, Summary.park, Summary.dismiss,
          Summary.setThread_threads, Summary.setView_threads, Summary.setCpu_threads]
        refine ⟨?_, fun _ => id⟩
        split <;> simp_all
  | schedule current scheduled busy first ended =>
      cases ended with
      | load pending =>
          refine .inl ⟨rfl, fun cpu executes => ?_⟩
          simp only [Summary.load, Summary.setMachine_machines]
          split
          · rename_i isCpu
            subst isCpu
            rw [(invariant.of_executing executes).2.2] at pending
            cases pending
          · exact executes
      | panic loaded =>
          refine .inl ⟨rfl, fun cpu executes => ?_⟩
          simp only [Summary.panic, Summary.setMachine_machines]
          split <;> simp_all
      | tick loaded =>
          refine .inl ⟨?_, fun _ => id⟩
          simp only [Summary.tick, Summary.setThread_threads]
          split <;> simp_all
      | switch thread2 highest loaded isHighest first2 =>
          have executing := invariant.executing_of_first lists first loaded
          simp only [Summary.switch]
          by_cases same : thread = current
          · subst same
            refine .inr ⟨_, executing, ?_⟩
            split <;> simp [Summary.rotate, Action.selfHalts, Machine.interrupted]
          · refine .inl ⟨?_, fun cpu executes => ?_⟩
            · split <;> simp [Summary.rotate, same]
            · split
              · exact executes
              · rw [Summary.setMachine_machines]
                split
                · rename_i isCpu
                  rw [isCpu, executing] at executes
                  exact absurd (Option.some.inj executes).symm same
                · exact executes

/-- The thread to which the timer interrupt switches was in a run queue before. -/
theorem mem_queue_of_first_rotate {thread2 : Address} {highest : Nat}
    (first2 : (summary.rotate cpu thread highest).first cpu = some thread2) :
    thread2 ∈ (summary.view.queue cpu highest).toList := by
  have inRotated : thread2 ∈ ((summary.view.rotate cpu
      (summary.cpus cpu).currentPriority).queue cpu highest).toList := by
    apply TwoListQueue.mem_toList.mpr
    left
    apply List.mem_of_head?
    simpa [Summary.first, Summary.rotate] using first2
  rw [View.rotate, View.setQueue_queue] at inRotated
  split at inRotated
  · rename_i same
    rw [same.2]
    exact (TwoListQueue.perm_rotate _).mem_iff.mp inRotated
  · exact inRotated

/-- A step that makes a CPU execute another thread loads the context of a suspended
one. -/
theorem Moves.dispatch
    (moves : Moves platform state attached summary action attached' summary')
    (lists : Lists state summary.view) (invariant : Invariant platform attached summary)
    (executing : (summary'.machines cpu).executing = some thread)
    (begins : (summary.machines cpu).executing ≠ some thread) :
    (summary'.machines cpu).frame = (summary.threads thread).context ∧
      (∀ other, (summary.machines other).executing ≠ some thread) ∧
      action.prepares thread = false := by
  have elsewhere : (summary.threads thread).cpu = cpu →
      ∀ other, (summary.machines other).executing ≠ some thread := by
    rintro rfl other isExecuting
    rw [(invariant.cpu_of_executing lists isExecuting).1] at begins
    exact begins isExecuting
  cases moves with
  | stay => exact absurd executing begins
  | prepare unattached magic => exact absurd executing begins
  | setContext context unattached => exact absurd executing begins
  | execute =>
      rw [Summary.setMachine_machines] at executing
      split at executing <;> simp_all
  | attach stamp unattached priority stack => exact absurd executing begins
  | detach target isAttached idle => exact absurd executing begins
  | resume target onCpu isAttached paused onPlatform => exact absurd executing begins
  | stop target output isAttached paused => exact absurd executing begins
  | deactivate target stop output highest found isAttached running isHighest =>
      simp only [Summary.deactivate] at executing
      split at executing
      · simp only [Summary.save, Summary.setMachine_machines] at executing
        split at executing
        · cases executing
        · exact absurd executing begins
      · exact absurd executing begins
  | schedule current scheduled busy first ended =>
      rename_i timerCpu
      cases ended with
      | load pending =>
          simp only [Summary.load, Summary.setMachine_machines] at executing ⊢
          split at executing
          · rename_i same
            subst same
            obtain rfl := Option.some.inj executing
            rw [if_pos rfl]
            exact ⟨rfl, elsewhere (invariant.of_first lists first).2.2.1, rfl⟩
          · exact absurd executing begins
      | panic loaded =>
          simp only [Summary.panic, Summary.setMachine_machines] at executing
          split at executing
          · rename_i same
            subst same
            exact absurd executing begins
          · exact absurd executing begins
      | tick loaded => exact absurd executing begins
      | switch thread2 highest loaded isHighest first2 =>
          simp only [Summary.switch] at executing ⊢
          split at executing
          · exact absurd executing begins
          · rename_i different
            rw [if_neg different]
            simp only [Summary.setMachine_machines] at executing ⊢
            split at executing
            · rename_i same
              subst same
              obtain rfl := Option.some.inj executing
              rw [if_pos rfl]
              have onCpu := (invariant.of_queued lists (mem_queue_of_first_rotate first2)).2.2.1
              exact ⟨by simp [Machine.run, Summary.rotate, different], elsewhere onCpu, rfl⟩
            · exact absurd executing begins

/-- A step does not change what the histories say about suspended threads. -/
theorem World.Saved.step {world next : World} (saved : world.Saved)
    (refines : Refines world.state summary)
    (invariant : Invariant platform world.attached summary)
    (allowed : ¬ action.HaltsUnloaded world.state)
    (taken : world.step platform action = some next) :
    next.Saved ∧ DispatchesCaptured world next ∧ KeepsSuspended world action next := by
  obtain ⟨captured, summary', refinesNext, moves⟩ := step_moves refines invariant taken
  have halts : HaltsLoaded world.state summary action := by
    intro thread target running first
    have sameCpu : (world.state.threads thread).cpu = (summary.threads thread).cpu := by
      rw [← ThreadData.core_cpu, refines.thread]
    rw [← Bool.not_eq_true, ← refines.loadContext, ← sameCpu]
    intro pending
    refine allowed ⟨thread, target, (threadState refines thread).trans running, pending, ?_⟩
    rw [refines.first, sameCpu, first]
  have context : ∀ thread, (next.state.threads thread).context =
      (summary'.threads thread).context := fun thread => by
    rw [← ThreadData.core_context, refinesNext.thread]
  have contextBefore : ∀ thread, (world.state.threads thread).context =
      (summary.threads thread).context := fun thread => by
    rw [← ThreadData.core_context, refines.thread]
  have suspended : ∀ thread, world.state.Suspended thread →
      ∀ cpu, (summary.machines cpu).executing ≠ some thread := fun thread idle cpu => by
    rw [← refines.machine]
    exact idle cpu
  have keeps : KeepsSuspended world action next := by
    intro thread idle unprepared
    rw [context, contextBefore]
    rcases moves.context refines.lists invariant halts unprepared with same | saves
    · exact same.1
    · obtain ⟨cpu, executing, -⟩ := saves
      exact absurd executing (suspended thread idle cpu)
  refine ⟨?_, ?_, keeps⟩
  · intro thread idle
    rw [captured]
    cases prepared : action.prepares thread with
    | true => simp [World.capture, prepared]
    | false =>
        rcases moves.context refines.lists invariant halts prepared with same | saves
        · have before : ∀ cpu, (summary.machines cpu).executing ≠ some thread := by
            intro cpu executing
            apply idle cpu
            rw [refinesNext.machine]
            exact same.2 cpu executing
          rw [capture_of_suspended refines before prepared, context, same.1, ← contextBefore]
          apply saved
          intro cpu
          rw [refines.machine]
          exact before cpu
        · obtain ⟨cpu, executing, saves⟩ := saves
          rw [capture_of_executing refines invariant executing prepared, context, saves]
  · intro cpu thread executing begins
    rw [refinesNext.machine] at executing
    rw [refines.machine] at begins
    obtain ⟨frame, before, unprepared⟩ :=
      moves.dispatch refines.lists invariant executing begins
    have idle : world.state.Suspended thread := fun cpu => by
      rw [refines.machine]
      exact before cpu
    rw [refinesNext.machine, frame, ← contextBefore, captured,
      capture_of_suspended refines before unprepared]
    exact ⟨saved thread idle, rfl⟩

end Steps

/-- The contexts of suspended threads are what they last had on a CPU, and every
allowed step keeps them and loads them. -/
def ContextIntegrity (platform : Platform) (allowed : World → Action → Prop)
    (world : World) : Prop :=
  world.Saved ∧ ∀ action next, allowed world action → world.step platform action = some next →
    DispatchesCaptured world next ∧ KeepsSuspended world action next

/-- The contexts are intact in every run in which no thread is paused or stopped while
it is the current one of a CPU that has yet to load it. -/
theorem contextIntegrity_of_notHaltsUnloaded (platform : Platform) {world : World}
    (reached : (system platform).ReachableUnder
      (fun world action => ¬ action.HaltsUnloaded world.state) world) :
    ContextIntegrity platform (fun world action => ¬ action.HaltsUnloaded world.state)
      world := by
  have saved : Sound platform world ∧ world.Saved := by
    refine invariant_of_reachable ?_ ?_ reached
    · exact fun world initially thread _ => (initially.captured thread).symm
    · exact fun _ _ _ _ refines invariant saved allowed taken =>
        (saved.step refines invariant allowed taken).1
  obtain ⟨⟨summary, refines, invariant⟩, intact⟩ := saved
  exact ⟨intact, fun action next allowed taken =>
    (intact.step refines invariant allowed taken).2⟩

/-- CPU 1 loads a thread that nobody has paused. -/
theorem contextIntegrity_of_notHaltsUnloaded_loaded :
    ∃ world, (system twoCpus).exec bootWorld
        [.attach 0 0x10000, .resume 0 0x10000, .timer 1] = some world ∧
      ContextIntegrity twoCpus (fun world action => ¬ action.HaltsUnloaded world.state)
        world := by
  obtain ⟨world, executed⟩ := Option.isSome_iff_exists.mp
    (show ((system twoCpus).exec bootWorld
      [.attach 0 0x10000, .resume 0 0x10000, .timer 1]).isSome = true by decide +kernel)
  have starts : (system twoCpus).ReachableUnder
      (fun world action => ¬ action.HaltsUnloaded world.state) bootWorld :=
    .initial bootWorld_initial
  refine ⟨world, executed, contextIntegrity_of_notHaltsUnloaded twoCpus
    (starts.exec ?_ executed)⟩
  intro action present current
  simp only [List.mem_cons, List.not_mem_nil, or_false] at present
  rcases present with rfl | rfl | rfl <;> simp [Action.HaltsUnloaded, Action.target]

/-- CPU 0 pauses a thread before CPU 1 has loaded it and resumes it.  The next tick of
CPU 1 loads the registers of its halt loop for the thread. -/
theorem contextIntegrity_fails :
    ¬ ∀ world, (system twoCpus).Reachable world →
      ContextIntegrity twoCpus (fun _ _ => True) world := by
  intro claimed
  have dispatched : ∃ world next,
      (system twoCpus).exec bootWorld
        [.attach 0 0x10000, .resume 0 0x10000, .pause 0 0x10000, .resume 0 0x10000] =
          some world ∧
      world.step twoCpus (.timer 1) = some next ∧
      (next.state.machines 1).executing = some 0x10000 ∧
      (world.state.machines 1).executing ≠ some 0x10000 ∧
      (next.state.machines 1).frame.rip = twoCpus.halt ∧
      (world.captured 0x10000).rip = 0x4000 := by
    have checked : (do
        let world ← (system twoCpus).exec bootWorld
          [.attach 0 0x10000, .resume 0 0x10000, .pause 0 0x10000, .resume 0 0x10000]
        let next ← world.step twoCpus (.timer 1)
        some (decide ((next.state.machines 1).executing = some 0x10000 ∧
          (world.state.machines 1).executing ≠ some 0x10000 ∧
          (next.state.machines 1).frame.rip = twoCpus.halt ∧
          (world.captured 0x10000).rip = 0x4000))) = some true := by
      decide +kernel
    obtain ⟨world, executed, rest⟩ := Option.bind_eq_some_iff.mp checked
    obtain ⟨next, taken, holds⟩ := Option.bind_eq_some_iff.mp rest
    exact ⟨world, next, executed, taken, of_decide_eq_true (Option.some.inj holds)⟩
  obtain ⟨world, next, executed, taken, executing, begins, frame, captured⟩ := dispatched
  have reached := TransitionSystem.reachable_of_exec bootWorld_initial executed
  have same := (((claimed world reached).2 _ next trivial taken).1 1 0x10000 executing begins).1
  rw [same, captured] at frame
  exact absurd frame (by decide)

end Scheduler
end ToyKernel
