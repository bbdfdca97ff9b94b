import ToyKernel.Scheduler.Conservation
import ToyKernel.Scheduler.Counters
import Mathlib.Algebra.BigOperators.Ring.Finset

/-!
# The life cycle of a thread

A call with a valid id succeeds exactly in the states of the thread that it is meant
for, and any call that fails leaves everything as it was.  A call that needs a CPU
returns if that CPU has not been stopped by a stack overrun.
-/

namespace ToyKernel
namespace Scheduler

/-! ## A CPU for every thread -/

section LeastLoaded

variable {state : State} {affinity : List (BitVec 64)} {cpus cpu : Nat}

/-- The loop of `find_least_loaded_cpu` keeps the minimum in the range of the counters, and
it is the maximum of the range only as long as no CPU is found. -/
theorem leastLoaded_total (state : State) (affinity : List (BitVec 64)) (cpus : Nat) :
    (leastLoaded state affinity cpus).2 ≤ int32Max ∧
      ((leastLoaded state affinity cpus).1 = none →
        (leastLoaded state affinity cpus).2 = int32Max) := by
  induction cpus with
  | zero => exact ⟨le_refl _, fun _ => rfl⟩
  | succ i inductionHypothesis =>
      obtain ⟨inRange, untouched⟩ := inductionHypothesis
      simp only [leastLoaded]
      split
      · split
        · rename_i less
          refine ⟨by omega, fun none => ?_⟩
          cases none
        · exact ⟨inRange, untouched⟩
      · exact ⟨inRange, untouched⟩

/-- Some CPU is found if one of those allowed is not full. -/
theorem exists_leastLoaded (allowed : BitArray.get affinity cpu = true) (below : cpu < cpus)
    (notFull : (state.cpus cpu).totalThreads < int32Max) :
    ∃ found, (leastLoaded state affinity cpus).1 = some found := by
  induction cpus with
  | zero => omega
  | succ i inductionHypothesis =>
      obtain ⟨-, untouched⟩ := leastLoaded_total state affinity i
      simp only [leastLoaded]
      by_cases last : cpu = i
      · subst last
        rw [if_pos allowed]
        split
        · exact ⟨cpu, rfl⟩
        · rename_i notLess
          rw [← Option.ne_none_iff_exists']
          intro notFound
          have total := untouched notFound
          omega
      · obtain ⟨found, isFound⟩ := inductionHypothesis (by omega)
        split
        · split
          · exact ⟨i, rfl⟩
          · exact ⟨found, isFound⟩
        · exact ⟨found, isFound⟩

end LeastLoaded

section Counting

variable {platform : Platform} {state : State} {attached : Address → Bool} {summary : Summary}
  {thread : Address}

/-- The run queues of a CPU share no threads. -/
theorem Lists.disjoint_queues {view : View} (lists : Lists state view) (cpu : Nat)
    {left right : Nat} (different : left ≠ right) :
    Disjoint (view.queue cpu left).toList.toFinset (view.queue cpu right).toList.toFinset := by
  rw [Finset.disjoint_left]
  intro thread inLeft inRight
  rw [List.mem_toFinset, lists.queuePlace] at inLeft inRight
  rw [inLeft, Place.queued.injEq] at inRight
  exact different inRight.2

/-- A CPU has less threads than are attached if some thread does not run. -/
theorem totalThreads_lt_all (refines : Refines state summary)
    (invariant : Invariant platform attached summary) (isAttached : attached thread = true)
    (idle : (summary.threads thread).state ≠ .running) (cpu : Nat) :
    (summary.cpus cpu).totalThreads < state.all.totalThreads := by
  have listed := (invariant.threads thread).listed.mpr isAttached
  have queues : (Finset.range configSchedulerPriorities).biUnion
      (fun priority => (summary.view.queue cpu priority).toList.toFinset) ⊆
        summary.view.all.toFinset.erase thread := by
    intro other queued
    rw [Finset.mem_biUnion] at queued
    obtain ⟨priority, -, queued⟩ := queued
    obtain ⟨otherAttached, running, -⟩ :=
      invariant.of_queued refines.lists (List.mem_toFinset.mp queued)
    rw [Finset.mem_erase, List.mem_toFinset, (invariant.threads other).listed]
    exact ⟨fun same => idle (same ▸ running), otherAttached⟩
  have bound := Finset.card_le_card queues
  rw [Finset.card_biUnion fun left _ right _ different =>
      refines.lists.disjoint_queues cpu different,
    Finset.card_erase_of_mem (List.mem_toFinset.mpr listed),
    List.toFinset_card_of_nodup refines.lists.all.nodup] at bound
  have lengths : ∀ priority ∈ Finset.range configSchedulerPriorities,
      (summary.view.queue cpu priority).toList.toFinset.card =
        (summary.view.queue cpu priority).toList.length := fun priority _ =>
    List.toFinset_card_of_nodup (refines.lists.queue cpu priority).nodup
  rw [Finset.sum_congr rfl lengths] at bound
  have positive := List.length_pos_of_mem listed
  rw [(invariant.cpus cpu).total, queuedThreads, refines.lists.allTotal, ← Nat.cast_sum,
    Int.ofNat_lt]
  omega

end Counting

/-- A thread may run on some CPU. -/
def HasCpu (platform : Platform) (affinity : List (BitVec 64)) : Prop :=
  ∃ cpu, cpu < platform.cpus ∧ BitArray.get affinity cpu = true

/-- What `attach_thread` asks of a thread. -/
structure Acceptable (platform : Platform) (state : State) (thread : Address) : Prop where
  stack : ∃ stack, (state.threads thread).stack = some stack ∧
    threadStackSizeMin ≤ (state.threads thread).stackSize ∧
    state.memory stack = stackOverrunMagic
  priority : (state.threads thread).priority < configSchedulerPriorities
  affinity : HasCpu platform (state.threads thread).affinity

section Attach

variable {platform : Platform} {state : State} {thread : Address}

/-- The search for the first CPU of a thread finds one that exists. -/
theorem hasCpu_iff (platform : Platform) (affinity : List (BitVec 64)) :
    HasCpu platform affinity ↔
      ∃ bsf, BitArray.findMaskBsf affinity = some bsf ∧ bsf < platform.cpus := by
  constructor
  · rintro ⟨cpu, exists_, allowed⟩
    cases found : BitArray.findMaskBsf affinity with
    | none =>
        rw [BitArray.findMaskBsf_eq_none_iff] at found
        rw [found cpu] at allowed
        cases allowed
    | some bsf =>
        refine ⟨bsf, rfl, ?_⟩
        obtain ⟨-, unset⟩ := (BitArray.findMaskBsf_eq_some_iff _ _).mp found
        by_contra beyond
        rw [unset cpu (by omega)] at allowed
        cases allowed
  · rintro ⟨bsf, found, exists_⟩
    exact ⟨bsf, exists_, ((BitArray.findMaskBsf_eq_some_iff _ _).mp found).1⟩

theorem checkAttach_acceptable (magic : (state.threads thread).magic ≠ threadMagic)
    (acceptable : Acceptable platform state thread) :
    checkAttach platform state thread = .errNone := by
  obtain ⟨stack, hasStack, size, intact⟩ := acceptable.stack
  obtain ⟨bsf, found, exists_⟩ := (hasCpu_iff _ _).mp acceptable.affinity
  have priority := acceptable.priority
  simp [checkAttach, magic, hasStack, intact, found, Nat.not_le.mpr exists_,
    Nat.not_le.mpr priority, BitVec.not_lt.mpr size]

theorem checkAttach_unacceptable (magic : (state.threads thread).magic ≠ threadMagic)
    (unacceptable : ¬ Acceptable platform state thread) :
    checkAttach platform state thread = .errBadInput := by
  simp only [checkAttach, if_neg magic]
  split
  · rfl
  · rename_i stack hasStack
    split
    · rfl
    · rename_i checks
      simp only [not_or, Nat.not_le, not_not, BitVec.not_lt] at checks
      obtain ⟨size, intact, priority⟩ := checks
      split
      · rfl
      · rename_i bsf found
        split
        · rfl
        · rename_i exists_
          exact absurd ⟨⟨stack, hasStack, size, intact⟩, priority,
            (hasCpu_iff _ _).mpr ⟨bsf, found, Nat.not_le.mp exists_⟩⟩ unacceptable

theorem acceptable_of_checkAttach (accepted : checkAttach platform state thread = .errNone) :
    Acceptable platform state thread := by
  by_contra unacceptable
  obtain ⟨magic, -, -⟩ := of_checkAttach accepted
  rw [checkAttach_unacceptable magic unacceptable] at accepted
  cases accepted

theorem checkAttach_attached (magic : (state.threads thread).magic = threadMagic) :
    checkAttach platform state thread = .errBadState := by
  simp [checkAttach, magic]

end Attach

/-! ## Attached threads keep a CPU -/

/-- Attached threads may run on some CPU. -/
def World.HaveCpus (platform : Platform) (world : World) : Prop :=
  ∀ thread, world.attached thread = true →
    HasCpu platform (world.state.threads thread).affinity

section Affinity

variable {platform : Platform} {state : State} {attached attached' : Address → Bool}
  {summary summary' : Summary} {thread : Address} {action : Action}

/-- No step changes the affinity or the stamp of a thread that was attached before. -/
theorem Moves.kept (moves : Moves platform state attached summary action attached' summary')
    (isAttached : attached thread = true) :
    (summary'.threads thread).affinity = (summary.threads thread).affinity ∧
      (summary'.threads thread).stamp = (summary.threads thread).stamp := by
  have different : ∀ {other : Address}, attached other = false → thread ≠ other := by
    rintro other unattached rfl
    rw [isAttached] at unattached
    cases unattached
  cases moves with
  | stay => exact ⟨rfl, rfl⟩
  | prepare unattached => simp [different unattached]
  | setContext context unattached => simp [different unattached]
  | execute => exact ⟨rfl, rfl⟩
  | attach stamp unattached => simp [Summary.attach, different unattached]
  | detach =>
      rw [Summary.detach, Summary.setThread_threads]
      split <;> simp [*]
  | resume resumed =>
      by_cases same : thread = resumed <;>
        simp [Summary.resume, Summary.enroll, Summary.unpark, same]
  | deactivate halted =>
      simp only [Summary.deactivate]
      by_cases same : thread = halted <;> split <;>
        simp [Summary.save, Summary.park, Summary.dismiss, same]
  | stop =>
      rw [Summary.stop, Summary.setThread_threads]
      split <;> simp [*]
  | schedule current scheduled busy first ended =>
      cases ended with
      | load => exact ⟨rfl, rfl⟩
      | panic => exact ⟨rfl, rfl⟩
      | tick =>
          rw [Summary.tick, Summary.setThread_threads]
          split <;> simp [*]
      | switch =>
          simp only [Summary.switch]
          by_cases same : thread = current <;> split <;> simp [Summary.rotate, same]

/-- Only `attach_thread` attaches threads. -/
theorem Moves.attaches (moves : Moves platform state attached summary action attached' summary')
    (unattached : attached thread = false) (isAttached : attached' thread = true) :
    ∃ cpu, action = .attach cpu thread := by
  cases moves with
  | attach =>
      rename_i cpu added stamp priority isUnattached hasStack
      by_cases same : thread = added
      · exact ⟨cpu, same ▸ rfl⟩
      · rw [Function.update_of_ne same, unattached] at isAttached
        cases isAttached
  | detach removed =>
      by_cases same : thread = removed
      · rw [same, Function.update_self] at isAttached
        cases isAttached
      · rw [Function.update_of_ne same, unattached] at isAttached
        cases isAttached
  | _ =>
      rw [unattached] at isAttached
      cases isAttached

theorem World.HaveCpus.step {world next : World} (haveCpus : world.HaveCpus platform)
    (refines : Refines world.state summary)
    (invariant : Invariant platform world.attached summary)
    (taken : world.step platform action = some next) : next.HaveCpus platform := by
  obtain ⟨-, summary', refinesNext, moves⟩ := step_moves refines invariant taken
  intro thread isAttached
  rw [← ThreadData.core_affinity, refinesNext.thread]
  cases before : world.attached thread with
  | true =>
      rw [(moves.kept before).1, ← refines.thread]
      exact haveCpus thread before
  | false =>
      obtain ⟨cpu, rfl⟩ := moves.attaches before isAttached
      obtain ⟨sameState, sameAttached⟩ := World.step_attach taken
      have accepted : checkAttach platform world.state thread = .errNone := by
        by_contra refused
        rw [sameAttached, attachThread_refused refused, if_neg refused, before] at isAttached
        cases isAttached
      obtain ⟨-, -, refinesAttached⟩ := attachThread_accepted refines invariant accepted
      rw [← sameState] at refinesAttached
      have sameThread := (refinesNext.thread thread).symm.trans (refinesAttached.thread thread)
      rw [sameThread, Summary.attach, Summary.setThread_threads, if_pos rfl, ← refines.thread]
      exact (acceptable_of_checkAttach accepted).affinity

theorem haveCpus_of_reachable {guard : World → Action → Prop} {world : World}
    (reached : (system platform).ReachableUnder guard world) :
    Sound platform world ∧ world.HaveCpus platform := by
  refine invariant_of_reachable (fun world initially thread isAttached => ?_) ?_ reached
  · rw [initially.attached] at isAttached
    cases isAttached
  · exact fun _ _ _ _ refines invariant haveCpus _ taken => haveCpus.step refines invariant taken

end Affinity

/-! ## The life cycle -/

/-- What the calls do to a thread in each of its states. -/
structure LifeCycle (platform : Platform) (world : World) : Prop where
  /-- `resume_thread` makes paused threads run, and only these. -/
  resume : ∀ caller id thread, withStampId world.state id = .ok thread →
    ((world.state.threads thread).state = .paused →
      ∃ after, resumeThread platform world.state caller id = some (after, .errNone) ∧
        (after.threads thread).state = .running) ∧
    ((world.state.threads thread).state ≠ .paused →
      resumeThread platform world.state caller id = some (world.state, .errBadState))
  /-- `pause_thread` pauses running threads, and only these. -/
  pause : ∀ caller id thread, withStampId world.state id = .ok thread →
    ((world.state.threads thread).state = .running →
      ∃ after, pauseThread platform world.state caller id = some (after, .errNone) ∧
        (after.threads thread).state = .paused) ∧
    ((world.state.threads thread).state ≠ .running →
      pauseThread platform world.state caller id = some (world.state, .errBadState))
  /-- `stop_thread` stops running and paused threads and records their output. -/
  stop : ∀ caller id output thread, withStampId world.state id = .ok thread →
    ((world.state.threads thread).state = .running ∨
        (world.state.threads thread).state = .paused →
      ∃ after, stopThread platform world.state caller id output = some (after, .errNone) ∧
        (after.threads thread).state = .stopped ∧ (after.threads thread).output = output) ∧
    (¬ ((world.state.threads thread).state = .running ∨
        (world.state.threads thread).state = .paused) →
      stopThread platform world.state caller id output = some (world.state, .errBadState))
  /-- `detach_thread` detaches paused and stopped threads. -/
  detach : ∀ id thread, withStampId world.state id = .ok thread →
    ((world.state.threads thread).state = .paused ∨
        (world.state.threads thread).state = .stopped →
      ∃ after, detachThread world.state id = (after, .errNone, some thread) ∧
        (after.threads thread).magic ≠ threadMagic) ∧
    (¬ ((world.state.threads thread).state = .paused ∨
        (world.state.threads thread).state = .stopped) →
      detachThread world.state id = (world.state, .errBadState, none))
  /-- No call does anything with an id that is not valid. -/
  unknown : ∀ caller id output err, withStampId world.state id = .error err →
    err ≠ .errNone ∧
    resumeThread platform world.state caller id = some (world.state, err) ∧
    pauseThread platform world.state caller id = some (world.state, err) ∧
    stopThread platform world.state caller id output = some (world.state, err) ∧
    detachThread world.state id = (world.state, err, none)
  /-- `attach_thread` accepts detached threads with a good stack, priority and affinity. -/
  attach : ∀ thread,
    (world.attached thread = true →
      attachThread platform world.state thread = (world.state, .errBadState, none)) ∧
    (world.attached thread = false → ¬ Acceptable platform world.state thread →
      attachThread platform world.state thread = (world.state, .errBadInput, none)) ∧
    (world.attached thread = false → Acceptable platform world.state thread →
      ∃ after id, attachThread platform world.state thread = (after, .errNone, some id) ∧
        (after.threads thread).state = .paused)
  /-- The loop of `deactivate_thread` never gives up. -/
  notBusy : ∀ caller stop id output lockToRelease after err,
    deactivateThread platform world.state caller stop id output lockToRelease =
      some (after, err) → err ≠ .errBusy

section LifeCycle

variable {platform : Platform} {world : World} {summary : Summary} {thread : Address}
  {caller : Nat} {id output : BitVec 64}

/-- The two reasons for which an id is not valid. -/
theorem err_of_withStampId {state : State} {err : ErrCode}
    (found : withStampId state id = .error err) : err = .errNotFound ∨ err = .errExpired :=
  err_of_stampIdTarget found

/-- A paused thread always has a CPU to be resumed on. -/
theorem exists_cpu_of_paused (refines : Refines world.state summary)
    (invariant : Invariant platform world.attached summary) (haveCpus : world.HaveCpus platform)
    (counted : world.state.all.totalThreads ≤ int32Max) (isAttached : world.attached thread = true)
    (paused : (summary.threads thread).state = .paused) :
    ∃ cpu, findLeastLoadedCpu platform (unparkThread world.state thread)
      ((unparkThread world.state thread).threads thread).affinity = some cpu := by
  have place : summary.view.place thread = .inactive := by
    rw [invariant.place_of_attached isAttached, placeOf, paused]
  have unparked := refines.unparkThread place
  obtain ⟨cpu, exists_, allowed⟩ := haveCpus thread isAttached
  have sameAffinity : ((unparkThread world.state thread).threads thread).affinity =
      (world.state.threads thread).affinity := by
    rw [← ThreadData.core_affinity, unparked.thread]
    simp [Summary.unpark, ← refines.thread]
  have notFull : ((unparkThread world.state thread).cpus cpu).totalThreads < int32Max := by
    have less := totalThreads_lt_all refines invariant isAttached (by simp [paused]) cpu
    rw [unparked.totalThreads]
    exact lt_of_lt_of_le less counted
  rw [sameAffinity]
  exact exists_leastLoaded allowed exists_ notFull

/-- The thread of a running thread's summary after it has been paused or stopped. -/
theorem deactivate_thread (summary : Summary) (platform : Platform) (thread : Address)
    (selfHalt stop : Bool) (output : BitVec 64) (highest : Nat) :
    ((summary.deactivate platform thread selfHalt stop output highest).threads thread).state =
        (if stop then .stopped else .paused) ∧
      (stop = true →
        ((summary.deactivate platform thread selfHalt stop output highest).threads
          thread).output = output) := by
  simp only [Summary.deactivate]
  split <;> cases stop <;> simp [Summary.save, Summary.park, Summary.dismiss]

/-- A running thread is paused or stopped if no CPU has panicked. -/
theorem deactivateThread_of_running (stop : Bool) (output : BitVec 64)
    (refines : Refines world.state summary)
    (invariant : Invariant platform world.attached summary)
    (survive : ∀ cpu, cpu < platform.cpus → (world.state.machines cpu).panicked = false)
    (found : withStampId world.state id = .ok thread)
    (running : (world.state.threads thread).state = .running) :
    ∃ after, deactivateThread platform world.state caller stop id output none =
        some (after, .errNone) ∧
      (after.threads thread).state = (if stop then .stopped else .paused) ∧
      (stop = true → (after.threads thread).output = output) := by
  rw [threadState refines] at running
  have isAttached := attached_of_withStampId refines invariant found
  obtain ⟨-, exists_⟩ := (invariant.threads thread).running isAttached running
  obtain ⟨after, highest, done, -, refinesAfter⟩ :=
    deactivateThread_running refines invariant found running (.inr (survive _ exists_))
  obtain ⟨state, recorded⟩ := deactivate_thread summary platform thread
    (caller = (summary.threads thread).cpu) stop output highest
  refine ⟨after, done, ?_, fun stops => ?_⟩
  · rw [threadState refinesAfter]
    exact state
  · rw [← ThreadData.core_output, refinesAfter.thread]
    exact recorded stops

/-- The states of an attached thread. -/
theorem state_cases (refines : Refines world.state summary)
    (invariant : Invariant platform world.attached summary)
    (found : withStampId world.state id = .ok thread) :
    (world.state.threads thread).state = .running ∨
      (world.state.threads thread).state = .paused ∨
      (world.state.threads thread).state = .stopped := by
  have known := (invariant.threads thread).known (attached_of_withStampId refines invariant found)
  rw [threadState refines]
  cases threadIs : (summary.threads thread).state with
  | unknown => exact absurd threadIs known
  | running => exact .inl rfl
  | paused => exact .inr (.inl rfl)
  | stopped => exact .inr (.inr rfl)

theorem lifeCycle (refines : Refines world.state summary)
    (invariant : Invariant platform world.attached summary) (haveCpus : world.HaveCpus platform)
    (survive : ∀ cpu, cpu < platform.cpus → (world.state.machines cpu).panicked = false)
    (counted : world.state.all.totalThreads ≤ int32Max) : LifeCycle platform world where
  resume caller id thread found := by
    simp only [threadState refines]
    refine ⟨fun paused => ?_, fun busy => resumeThread_refused refines found busy⟩
    have isAttached := attached_of_withStampId refines invariant found
    obtain ⟨cpu, foundCpu⟩ :=
      exists_cpu_of_paused refines invariant haveCpus counted isAttached paused
    obtain ⟨after, done, refinesAfter⟩ :=
      resumeThread_paused refines invariant found paused foundCpu
        (.inr (survive cpu (leastLoaded_lt _ _ _ cpu foundCpu)))
    refine ⟨after, done, ?_⟩
    rw [threadState refinesAfter]
    simp [Summary.resume, Summary.enroll, Summary.unpark]
  pause caller id thread found := by
    refine ⟨fun running => ?_, fun idle => ?_⟩
    · obtain ⟨after, done, state, -⟩ :=
        deactivateThread_of_running false 0 refines invariant survive found running
      exact ⟨after, done, state⟩
    · apply deactivateThread_refused refines found
      rw [← threadState refines]
      rcases state_cases refines invariant found with running | paused | stopped
      · exact absurd running idle
      · exact .inr ⟨paused, rfl⟩
      · exact .inl stopped
  stop caller id output thread found := by
    refine ⟨fun live => ?_, fun notLive => ?_⟩
    · rcases live with running | paused
      · obtain ⟨after, done, state, recorded⟩ :=
          deactivateThread_of_running true output refines invariant survive found running
        exact ⟨after, done, state, recorded rfl⟩
      · rw [threadState refines] at paused
        obtain ⟨after, done, refinesAfter⟩ := deactivateThread_paused refines found paused
        refine ⟨after, done, ?_, ?_⟩
        · rw [threadState refinesAfter]
          simp [Summary.stop]
        · rw [← ThreadData.core_output, refinesAfter.thread]
          simp [Summary.stop]
    · apply deactivateThread_refused refines found
      rw [← threadState refines]
      rcases state_cases refines invariant found with running | paused | stopped
      · exact absurd (.inl running) notLive
      · exact absurd (.inr paused) notLive
      · exact .inl stopped
  detach id thread found := by
    simp only [threadState refines]
    refine ⟨fun idle => ?_, fun busy => detachThread_refused refines found busy⟩
    obtain ⟨after, done, refinesAfter⟩ := detachThread_accepted refines invariant found idle
    refine ⟨after, done, ?_⟩
    rw [← ThreadData.core_magic, refinesAfter.thread]
    simp [Summary.detach, threadMagic]
  unknown caller id output err found := by
    refine ⟨?_, ?_, ?_, ?_, ?_⟩
    · rcases err_of_withStampId found with rfl | rfl <;> simp
    · simp only [resumeThread, found]
    · simp only [pauseThread, deactivateThread, found]
    · simp only [stopThread, deactivateThread, found]
    · simp only [detachThread, found]
  attach thread := by
    have magic := (invariant.threads thread).magic
    rw [← refines.thread, ThreadData.core_magic] at magic
    refine ⟨fun isAttached => ?_, fun unattached unacceptable => ?_,
      fun unattached acceptable => ?_⟩
    · have refused : checkAttach platform world.state thread = .errBadState :=
        checkAttach_attached (magic.mpr isAttached)
      rw [attachThread_refused (by simp [refused]), refused]
    · have noMagic : (world.state.threads thread).magic ≠ threadMagic := by
        rw [ne_eq, magic, unattached]
        simp
      have refused := checkAttach_unacceptable noMagic unacceptable
      rw [attachThread_refused (by simp [refused]), refused]
    · have noMagic : (world.state.threads thread).magic ≠ threadMagic := by
        rw [ne_eq, magic, unattached]
        simp
      have accepted := checkAttach_acceptable noMagic acceptable
      obtain ⟨-, -, refinesAfter⟩ := attachThread_accepted refines invariant accepted
      have attaches : attachThread platform world.state thread =
          ((attachThread platform world.state thread).1, .errNone,
            some (getStampId thread
              ((attachThread platform world.state thread).1.threads thread).stamp)) := by
        simp only [attachThread, accepted]
      refine ⟨_, _, attaches, ?_⟩
      rw [threadState refinesAfter]
      simp [Summary.attach]
  notBusy caller stop id output lockToRelease after err done := by
    obtain ⟨summary', -, deactivated⟩ := deactivateThread_deactivated refines invariant done
    cases deactivated with
    | unknown found => rcases err_of_withStampId found with rfl | rfl <;> simp
    | refused => simp
    | stopped => simp
    | halted => simp

end LifeCycle

/-- The threads have this life cycle in every reachable state, as long as no CPU has been
stopped by a stack overrun and the attached threads can be counted. -/
theorem lifeCycle_of_survive (platform : Platform) {world : World}
    (reached : (system platform).Reachable world)
    (survive : ∀ cpu, cpu < platform.cpus → (world.state.machines cpu).panicked = false)
    (counted : world.state.all.totalThreads ≤ int32Max) : LifeCycle platform world := by
  obtain ⟨⟨summary, refines, invariant⟩, haveCpus⟩ := haveCpus_of_reachable reached
  exact lifeCycle refines invariant haveCpus survive counted

/-- One thread runs on CPU 1 and another one is paused. -/
theorem lifeCycle_of_survive_loaded :
    ∃ world, (system twoCpus).exec bootWorld
        [.attach 0 0x10000, .attach 0 0x20000, .resume 0 0x10000, .timer 1] = some world ∧
      LifeCycle twoCpus world := by
  have checked : (do
      let world ← (system twoCpus).exec bootWorld
        [.attach 0 0x10000, .attach 0 0x20000, .resume 0 0x10000, .timer 1]
      some (decide ((∀ cpu, cpu < twoCpus.cpus → (world.state.machines cpu).panicked = false) ∧
        world.state.all.totalThreads ≤ int32Max))) = some true := by
    decide +kernel
  obtain ⟨world, executed, holds⟩ := Option.bind_eq_some_iff.mp checked
  obtain ⟨survive, counted⟩ := of_decide_eq_true (Option.some.inj holds)
  exact ⟨world, executed, lifeCycle_of_survive twoCpus
    (TransitionSystem.reachable_of_exec bootWorld_initial executed) survive counted⟩

/-- A thread whose stack was overrun has stopped CPU 1 in a timer interrupt.  Resuming
another thread there never returns. -/
theorem lifeCycle_fails :
    ¬ ∀ world, (system twoCpus).Reachable world → LifeCycle twoCpus world := by
  intro claimed
  have checked : (do
      let world ← (system twoCpus).exec bootWorld
        [.prepare 0x20000 { bootThread with stack := some 0x18000 }, .attach 0 0x10000,
          .attach 0 0x20000, .resume 0 0x10000, .timer 1, .store 0x8000 0, .timer 1]
      some (decide (withStampId world.state 0x10000000020000 = .ok 0x20000 ∧
        (world.state.threads 0x20000).state = .paused ∧
        (resumeThread twoCpus world.state 0 0x10000000020000).isNone = true))) =
      some true := by
    decide +kernel
  obtain ⟨world, executed, holds⟩ := Option.bind_eq_some_iff.mp checked
  obtain ⟨found, paused, hangs⟩ := of_decide_eq_true (Option.some.inj holds)
  have reached := TransitionSystem.reachable_of_exec bootWorld_initial executed
  obtain ⟨after, done, -⟩ := ((claimed world reached).resume 0 _ _ found).1 paused
  rw [done] at hangs
  cases hangs

end Scheduler
end ToyKernel
