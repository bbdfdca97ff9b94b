import ToyKernel.Scheduler.System

/-!
# Conservation of threads

In every state that the scheduler reaches, each attached thread is in the lists
where it belongs, once, and all lists, counters and masks describe the same threads.
-/

namespace ToyKernel
namespace Scheduler

/-- Every move keeps the invariant. -/
theorem Moves.invariant {platform : Platform} {state : State}
    {attached attached' : Address → Bool} {summary summary' : Summary} {action : Action}
    (moves : Moves platform state attached summary action attached' summary')
    (refines : Refines state summary) (invariant : Invariant platform attached summary) :
    Invariant platform attached' summary' := by
  cases moves with
  | stay => exact invariant
  | prepare unattached magic =>
      rename_i thread data
      refine ⟨fun other => ?_, invariant.cpus⟩
      have fits := invariant.threads other
      by_cases same : other = thread
      · subst same
        have place := fits.place
        have listed := fits.listed
        constructor <;> simp_all
      · simpa [same] using fits
  | setContext context unattached =>
      rename_i thread proc input
      refine ⟨fun other => ?_, invariant.cpus⟩
      have fits := invariant.threads other
      by_cases same : other = thread
      · subst same
        apply fits.congr <;> simp
      · simpa [same] using fits
  | execute =>
      rename_i cpu frame
      refine ⟨invariant.threads, fun other => ?_⟩
      have fits := invariant.cpus other
      by_cases same : other = cpu
      · subst same
        exact ⟨fits.total, fits.current, by simpa using fits.executing,
          by simpa using fits.fsBase⟩
      · simpa [same] using fits
  | attach stamp unattached priority stack => exact invariant.attach priority stack
  | detach thread isAttached idle => exact invariant.detach refines.lists
  | resume thread cpu isAttached paused onPlatform =>
      exact invariant.resume refines.lists isAttached onPlatform
  | deactivate thread stop output highest target isAttached running isHighest =>
      exact invariant.deactivate refines.lists isAttached running isHighest
  | stop thread output isAttached paused => exact invariant.stop isAttached paused
  | schedule thread scheduled busy first ended =>
      exact invariant.schedule refines.lists busy first ended

/-- The lists before the first thread. -/
def View.none : View := ⟨[], [], fun _ _ => .empty, fun _ => .nowhere⟩

/-- The summary of an initial state. -/
theorem World.Initial.refines {world : World} (starts : world.Initial) :
    Refines world.state
      ⟨.none, world.state.cores, world.state.controls, world.state.machines⟩ where
  lists :=
    { all := by
        rw [starts.all]
        exact Links.represents_nil _
      allTotal := by
        rw [starts.all]
        rfl
      inactive := by
        rw [starts.inactive]
        exact Links.represents_nil _
      inactiveTotal := by
        rw [starts.inactive]
        rfl
      queue := fun cpu priority => by
        rw [starts.cpus]
        exact CpuPriority.represents_empty _
      maskLength := fun cpu => by
        rw [starts.cpus]
        rfl
      mask := fun cpu priority => by
        rw [starts.cpus]
        have noBits : BitArray.findMaskBsf (List.replicate priorityMaskSize 0) = none := by
          decide
        have unset := (BitArray.findMaskBsf_eq_none_iff _).mp noBits priority
        simpa [CpuData.zero, View.none, TwoListQueue.empty] using unset
      inactivePlace := fun thread => by simp [View.none]
      queuePlace := fun thread cpu priority => by simp [View.none] }
  threads := rfl
  cpus := rfl
  machines := rfl

theorem World.Initial.invariant {world : World} (starts : world.Initial)
    (platform : Platform) :
    Invariant platform world.attached
      ⟨.none, world.state.cores, world.state.controls, world.state.machines⟩ where
  threads thread := by
    have unattached := starts.attached thread
    have magic := starts.magic thread
    constructor <;> simp_all [View.none, State.cores]
  cpus cpu := by
    obtain ⟨fsBase, executing, -⟩ := starts.machines cpu
    have control : (world.state.cpus cpu).control = ⟨0, 0, false⟩ := by
      rw [starts.cpus]
      rfl
    constructor
    · simp [State.controls, control, queuedThreads, View.none]
    · simp [State.controls, control]
    · simpa [State.controls, control, executes] using executing
    · rw [fsBase, executing]

/-- A summary that satisfies the invariant. -/
def Sound (platform : Platform) (world : World) : Prop :=
  ∃ summary, Refines world.state summary ∧ Invariant platform world.attached summary

/-- A property that no allowed step from a sound state loses holds in every reachable state,
and all of them are sound. -/
theorem invariant_of_reachable {platform : Platform} {guard : World → Action → Prop}
    {property : World → Prop} {world : World}
    (starts : ∀ world : World, world.Initial → property world)
    (keeps : ∀ world action next summary, Refines world.state summary →
      Invariant platform world.attached summary → property world → guard world action →
      world.step platform action = some next → property next)
    (reached : (system platform).ReachableUnder guard world) :
    Sound platform world ∧ property world := by
  have initial : ∀ world, (system platform).initial world →
      Sound platform world ∧ property world := fun world initially =>
    ⟨⟨_, World.Initial.refines initially, World.Initial.invariant initially platform⟩,
      starts world initially⟩
  refine reached.invariant initial ?_
  rintro world action next ⟨⟨summary, refines, invariant⟩, holds⟩ allowed taken
  obtain ⟨-, summary', refinesNext, moves⟩ := step_moves refines invariant taken
  exact ⟨⟨summary', refinesNext, moves.invariant refines invariant⟩,
    keeps world action next summary refines invariant holds allowed taken⟩

/-- Every reachable state is sound. -/
theorem sound_of_reachable {platform : Platform} {guard : World → Action → Prop} {world : World}
    (reached : (system platform).ReachableUnder guard world) : Sound platform world :=
  (invariant_of_reachable (fun _ _ => trivial) (fun _ _ _ _ _ _ holds _ _ => holds) reached).1

/-- The lists of the scheduler hold the attached threads as they should. -/
structure Conserved (world : World) (members parked : List Address)
    (queue : Nat → Nat → TwoListQueue Address) : Prop where
  /-- The `all` list holds the attached threads. -/
  all : world.state.allLinks.Represents world.state.all.tail members
  attached : ∀ thread, thread ∈ members ↔ world.attached thread = true
  allTotal : world.state.all.totalThreads = members.length
  /-- The `inactive` list holds the paused and stopped threads. -/
  inactive : world.state.links.Represents world.state.inactive.tail parked
  idle : ∀ thread, thread ∈ parked ↔ world.attached thread = true ∧
    ((world.state.threads thread).state = .paused ∨
      (world.state.threads thread).state = .stopped)
  inactiveTotal : world.state.inactive.totalThreads = parked.length
  /-- Each run queue is kept in the two lists of its priority and counted there. -/
  queues : ∀ cpu priority,
    ((world.state.cpus cpu).priorities priority).Represents world.state.links
      (queue cpu priority)
  /-- A run queue holds the running threads of its CPU and priority. -/
  running : ∀ thread cpu priority, thread ∈ (queue cpu priority).toList ↔
    world.attached thread = true ∧ (world.state.threads thread).state = .running ∧
      (world.state.threads thread).cpu = cpu ∧
      (world.state.threads thread).realPriority = priority
  /-- There are no other states. -/
  states : ∀ thread, world.attached thread = true →
    (world.state.threads thread).state ≠ .unknown
  /-- A priority has active threads if it has threads, and then it is in the mask. -/
  active : ∀ cpu priority,
    0 < ((world.state.cpus cpu).priorities priority).totalThreads ↔
      (queue cpu priority).active ≠ []
  mask : ∀ cpu priority,
    BitArray.get (world.state.cpus cpu).priorityMask priority = true ↔
      0 < ((world.state.cpus cpu).priorities priority).totalThreads
  /-- A CPU counts its threads, and its current priority has some if it has some. -/
  total : ∀ cpu, (world.state.cpus cpu).totalThreads =
    ∑ priority ∈ Finset.range configSchedulerPriorities,
      ((world.state.cpus cpu).priorities priority).totalThreads
  current : ∀ cpu, (world.state.cpus cpu).totalThreads ≠ 0 →
    0 < ((world.state.cpus cpu).priorities
      (world.state.cpus cpu).currentPriority).totalThreads

/-- In every reachable state all threads are conserved. -/
theorem conserved_of_reachable (platform : Platform) {world : World}
    (reached : (system platform).Reachable world) :
    ∃ members parked queue, Conserved world members parked queue := by
  obtain ⟨summary, refines, invariant⟩ := sound_of_reachable reached
  have lists := refines.lists
  have state := threadState refines
  have counted : ∀ cpu priority,
      0 < ((world.state.cpus cpu).priorities priority).totalThreads ↔
        (summary.view.queue cpu priority).active ≠ [] := by
    intro cpu priority
    rw [ne_eq, ← (lists.queue cpu priority).totalThreads_eq_zero_iff,
      (lists.queue cpu priority).totalThreads]
    omega
  refine ⟨summary.view.all, summary.view.inactive, summary.view.queue, ?_⟩
  exact
    { all := lists.all
      attached := fun thread => (invariant.threads thread).listed
      allTotal := lists.allTotal
      inactive := lists.inactive
      idle := fun thread => by
        rw [lists.inactivePlace, (invariant.threads thread).place, state]
        split
        · rename_i isAttached
          have known := (invariant.threads thread).known isAttached
          cases threadIs : (summary.threads thread).state <;>
            simp_all [placeOf]
        · rename_i unattached
          simp [unattached]
      inactiveTotal := lists.inactiveTotal
      queues := lists.queue
      running := fun thread cpu priority => by
        rw [state, ← ThreadData.core_cpu, ← ThreadData.core_realPriority, refines.thread]
        constructor
        · exact invariant.of_queued lists
        · rintro ⟨isAttached, running, rfl, rfl⟩
          exact (lists.queuePlace _ _ _).mpr (invariant.place_of_running isAttached running)
      states := fun thread isAttached => by
        rw [state]
        exact (invariant.threads thread).known isAttached
      active := counted
      mask := fun cpu priority => by
        rw [lists.mask, counted]
      total := fun cpu => by
        rw [refines.totalThreads, (invariant.cpus cpu).total, queuedThreads]
        exact Finset.sum_congr rfl fun priority _ =>
          ((lists.queue cpu priority).totalThreads).symm
      current := fun cpu busy => by
        rw [refines.totalThreads] at busy
        rw [counted, refines.currentPriority]
        exact (invariant.cpus cpu).current busy }

/-! ## A machine with two CPUs -/

/-- Two CPUs. -/
def twoCpus : Platform where
  halt := 0x1000
  exitThread := 0x2000
  segmentCode := 8
  segmentData := 16
  cpus := 2
  bspCpu := 0

/-- A thread that may run on CPU 1 only. -/
def bootThread : ThreadData where
  magic := 0
  prev := none
  next := none
  allPrev := none
  allNext := none
  context := ⟨0, 0x4000, 8, rflagsIf, 0x8FF8, 16, []⟩
  stack := some 0x8000
  stackSize := 0x1000
  affinity := [2]
  output := 0
  runTime := 0
  priority := 1
  realPriority := 0
  quantum := 0
  stamp := 0
  cpu := 0
  state := .unknown

/-- Both CPUs are in the halt loop. -/
def bootWorld : World where
  state :=
    { threads := fun _ => bootThread
      memory := fun _ => stackOverrunMagic
      cpus := fun _ => .zero
      all := ⟨0, none⟩
      inactive := ⟨0, none⟩
      stamp := 0
      ticks := 0
      timerTicks := fun _ => 0
      machines := fun _ =>
        { frame := ⟨0, 0x1000, 8, rflagsIf, 0x7000, 16, []⟩
          fsBase := none
          executing := none
          panicked := false } }
  attached := fun _ => false
  captured := fun _ => bootThread.context

theorem bootWorld_initial : bootWorld.Initial where
  cpus _ := rfl
  all := rfl
  inactive := rfl
  magic _ := show bootThread.magic ≠ threadMagic by decide
  machines _ := ⟨rfl, rfl, rfl⟩
  attached _ := rfl
  captured _ := rfl

/-- A thread is attached and resumed, CPU 1 loads it, and CPU 0 stops it. -/
theorem conserved_of_reachable_stopped :
    ∃ world, (system twoCpus).exec bootWorld
        [.attach 0 0x10000, .resume 0 0x10000, .timer 1, .stop 0 0x10000 7] = some world ∧
      ∃ members parked queue, Conserved world members parked queue := by
  obtain ⟨world, executed⟩ := Option.isSome_iff_exists.mp
    (show ((system twoCpus).exec bootWorld
      [.attach 0 0x10000, .resume 0 0x10000, .timer 1, .stop 0 0x10000 7]).isSome = true by
        decide +kernel)
  exact ⟨world, executed,
    conserved_of_reachable twoCpus (TransitionSystem.reachable_of_exec bootWorld_initial executed)⟩

end Scheduler
end ToyKernel
