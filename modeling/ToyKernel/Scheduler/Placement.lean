import ToyKernel.Scheduler.LifeCycle

/-!
# The CPUs of the threads

`attach_thread` looks for the lowest bit of the affinity, and `resume_thread` tests single
bits of it for the CPU with the least threads.  Both see the same CPUs, so every thread
that is attached finds one, and none is queued on another.
-/

namespace ToyKernel
namespace Scheduler

/-- The lowest-numbered of the allowed CPUs with the least load. -/
structure FirstLeast (allowed : Nat → Bool) (load : Nat → Int) (cpus cpu : Nat) : Prop where
  exists_ : cpu < cpus
  isAllowed : allowed cpu = true
  least : ∀ other < cpus, allowed other = true → load cpu ≤ load other
  first : ∀ other < cpu, allowed other = true → load cpu < load other

section FirstLeast

variable {allowed : Nat → Bool} {load : Nat → Int} {cpus cpu found : Nat}

/-- There is at most one. -/
theorem FirstLeast.unique (one : FirstLeast allowed load cpus cpu)
    (other : FirstLeast allowed load cpus found) : cpu = found := by
  rcases Nat.lt_trichotomy cpu found with below | same | above
  · have less := other.first cpu below one.isAllowed
    have notMore := one.least found other.exists_ other.isAllowed
    omega
  · exact same
  · have less := one.first found above other.isAllowed
    have notMore := other.least cpu one.exists_ one.isAllowed
    omega

/-- A further CPU with less load than the least one. -/
theorem FirstLeast.less (isAllowed : allowed cpus = true)
    (less : ∀ other < cpus, allowed other = true → load cpus < load other) :
    FirstLeast allowed load (cpus + 1) cpus where
  exists_ := Nat.lt_succ_self cpus
  isAllowed := isAllowed
  least other below otherAllowed := by
    rcases Nat.lt_succ_iff_lt_or_eq.mp below with before | rfl
    · exact le_of_lt (less other before otherAllowed)
    · exact le_refl _
  first := less

/-- A further CPU that is not allowed or has no less load. -/
theorem FirstLeast.notLess (least : FirstLeast allowed load cpus cpu)
    (notLess : allowed cpus = true → load cpu ≤ load cpus) :
    FirstLeast allowed load (cpus + 1) cpu where
  exists_ := Nat.lt_succ_of_lt least.exists_
  isAllowed := least.isAllowed
  least other below otherAllowed := by
    rcases Nat.lt_succ_iff_lt_or_eq.mp below with before | rfl
    · exact least.least other before otherAllowed
    · exact notLess otherAllowed
  first := least.first

end FirstLeast

/-! ## The search for a CPU -/

section LeastLoaded

variable {state : State} {affinity : List (BitVec 64)} {cpus cpu : Nat}

/-- The loop of `find_least_loaded_cpu` knows the first CPU with the least threads, unless
all allowed CPUs so far are full. -/
theorem leastLoaded_spec (state : State) (affinity : List (BitVec 64)) (cpus : Nat) :
    (∃ cpu, leastLoaded state affinity cpus = (some cpu, (state.cpus cpu).totalThreads) ∧
        (state.cpus cpu).totalThreads < int32Max ∧
        FirstLeast (BitArray.bitAt affinity) (fun other => (state.cpus other).totalThreads)
          cpus cpu) ∨
      leastLoaded state affinity cpus = (none, int32Max) ∧
        ∀ other < cpus, BitArray.bitAt affinity other = true →
          int32Max ≤ (state.cpus other).totalThreads := by
  induction cpus with
  | zero => exact .inr ⟨rfl, fun other below => absurd below (Nat.not_lt_zero other)⟩
  | succ i inductionHypothesis =>
      simp only [leastLoaded, BitArray.get_eq]
      rcases inductionHypothesis with ⟨cpu, found, notFull, least⟩ | ⟨found, full⟩
      · rw [found]
        left
        by_cases isAllowed : BitArray.bitAt affinity i = true
        · rw [if_pos isAllowed]
          split
          · rename_i less
            refine ⟨i, rfl, less.trans notFull, .less isAllowed fun other below allowed => ?_⟩
            exact lt_of_lt_of_le less (least.least other below allowed)
          · rename_i notLess
            exact ⟨cpu, rfl, notFull, least.notLess fun _ => not_lt.mp notLess⟩
        · rw [if_neg isAllowed]
          exact ⟨cpu, rfl, notFull, least.notLess fun allowed => absurd allowed isAllowed⟩
      · rw [found]
        by_cases isAllowed : BitArray.bitAt affinity i = true
        · rw [if_pos isAllowed]
          split
          · rename_i notFull
            refine .inl ⟨i, rfl, notFull, .less isAllowed fun other below allowed => ?_⟩
            exact lt_of_lt_of_le notFull (full other below allowed)
          · rename_i isFull
            refine .inr ⟨rfl, fun other below allowed => ?_⟩
            rcases Nat.lt_succ_iff_lt_or_eq.mp below with before | rfl
            · exact full other before allowed
            · exact not_lt.mp isFull
        · rw [if_neg isAllowed]
          refine .inr ⟨rfl, fun other below allowed => ?_⟩
          rcases Nat.lt_succ_iff_lt_or_eq.mp below with before | rfl
          · exact full other before allowed
          · exact absurd allowed isAllowed

/-- `find_least_loaded_cpu` finds the first allowed CPU with the least threads. -/
theorem firstLeast_of_findLeastLoadedCpu {platform : Platform}
    (found : findLeastLoadedCpu platform state affinity = some cpu) :
    FirstLeast (BitArray.bitAt affinity) (fun other => (state.cpus other).totalThreads)
      platform.cpus cpu := by
  rw [findLeastLoadedCpu] at found
  rcases leastLoaded_spec state affinity platform.cpus with ⟨least, isFound, -, spec⟩ | ⟨none, -⟩
  · rw [isFound] at found
    exact Option.some.inj found ▸ spec
  · rw [none] at found
    cases found

end LeastLoaded

/-! ## Attached threads -/

section Attach

variable {platform : Platform} {state : State} {thread : Address}

/-- What `attach_thread` asks of a thread besides its affinity. -/
structure Attachable (state : State) (thread : Address) : Prop where
  magic : (state.threads thread).magic ≠ threadMagic
  stack : ∃ stack, (state.threads thread).stack = some stack ∧
    threadStackSizeMin ≤ (state.threads thread).stackSize ∧
    state.memory stack = stackOverrunMagic
  priority : (state.threads thread).priority < configSchedulerPriorities

/-- An affinity is accepted if and only if it allows some CPU that exists. -/
theorem Attachable.accepted_iff (attachable : Attachable state thread) :
    (attachThread platform state thread).2.1 = .errNone ↔
      ∃ cpu < platform.cpus,
        BitArray.bitAt (state.threads thread).affinity cpu = true := by
  have hasCpu : HasCpu platform (state.threads thread).affinity ↔
      ∃ cpu < platform.cpus, BitArray.bitAt (state.threads thread).affinity cpu = true := by
    simp only [HasCpu, BitArray.get_eq]
  rw [← hasCpu]
  by_cases isAllowed : HasCpu platform (state.threads thread).affinity
  · have accepted := checkAttach_acceptable attachable.magic
      ⟨attachable.stack, attachable.priority, isAllowed⟩
    exact iff_of_true (by rw [attachThread, accepted]) isAllowed
  · have refused : checkAttach platform state thread = .errBadInput :=
      checkAttach_unacceptable attachable.magic fun acceptable => isAllowed acceptable.affinity
    exact iff_of_false (by rw [attachThread, refused]; simp) isAllowed

end Attach

/-! ## Running threads -/

/-- Running threads are on CPUs that they may run on. -/
def World.OnAllowed (platform : Platform) (world : World) : Prop :=
  ∀ thread, world.attached thread = true → (world.state.threads thread).state = .running →
    (world.state.threads thread).cpu < platform.cpus ∧
      BitArray.bitAt (world.state.threads thread).affinity
        (world.state.threads thread).cpu = true

section Running

variable {platform : Platform} {state after : State} {attached attached' : Address → Bool}
  {summary summary' : Summary} {thread : Address} {caller : Nat} {id : BitVec 64}
  {action : Action}

/-- No call but `resume_thread` makes a thread run or moves it to another CPU. -/
theorem Moves.ran (moves : Moves platform state attached summary action attached' summary')
    (notResume : ∀ caller id, action ≠ .resume caller id)
    (isAttached : attached' thread = true)
    (running : (summary'.threads thread).state = .running) :
    attached thread = true ∧ (summary.threads thread).state = .running ∧
      (summary'.threads thread).cpu = (summary.threads thread).cpu := by
  cases moves with
  | stay => exact ⟨isAttached, running, rfl⟩
  | prepare unattached =>
      rename_i prepared data _
      have different : thread ≠ prepared := by
        rintro rfl
        rw [isAttached] at unattached
        cases unattached
      rw [Summary.setThread_threads, if_neg different] at running ⊢
      exact ⟨isAttached, running, rfl⟩
  | setContext context unattached =>
      rename_i changed proc input
      have different : thread ≠ changed := by
        rintro rfl
        rw [isAttached] at unattached
        cases unattached
      rw [Summary.setThread_threads, if_neg different] at running ⊢
      exact ⟨isAttached, running, rfl⟩
  | execute => exact ⟨isAttached, running, rfl⟩
  | attach stamp unattached =>
      rename_i cpu added _ _
      by_cases same : thread = added
      · subst same
        simp [Summary.attach] at running
      · rw [Function.update_of_ne same] at isAttached
        rw [Summary.attach, Summary.setThread_threads, if_neg same] at running ⊢
        exact ⟨isAttached, running, rfl⟩
  | detach removed =>
      rename_i cpu id _ _
      by_cases same : thread = removed
      · rw [same, Function.update_self] at isAttached
        cases isAttached
      · rw [Function.update_of_ne same] at isAttached
        rw [Summary.detach, Summary.setThread_threads, if_neg same] at running ⊢
        exact ⟨isAttached, running, rfl⟩
  | resume => exact absurd rfl (notResume _ _)
  | deactivate halted stop output highest =>
      by_cases same : thread = halted
      · subst same
        rw [(deactivate_thread summary platform thread _ stop output highest).1] at running
        cases stop <;> cases running
      · have kept : (summary.deactivate platform halted
            (action.selfHalts (summary.threads halted).cpu) stop output highest).threads thread =
              summary.threads thread := by
          simp only [Summary.deactivate]
          split <;> simp [Summary.save, Summary.park, Summary.dismiss, same]
        rw [kept] at running ⊢
        exact ⟨isAttached, running, rfl⟩
  | stop stopped =>
      by_cases same : thread = stopped
      · subst same
        simp [Summary.stop] at running
      · rw [Summary.stop, Summary.setThread_threads, if_neg same] at running ⊢
        exact ⟨isAttached, running, rfl⟩
  | schedule current scheduled busy first ended =>
      have kept : (summary'.threads thread).state = (summary.threads thread).state ∧
          (summary'.threads thread).cpu = (summary.threads thread).cpu := by
        cases ended with
        | load => exact ⟨rfl, rfl⟩
        | panic => exact ⟨rfl, rfl⟩
        | tick =>
            rw [Summary.tick, Summary.setThread_threads]
            split <;> simp [*]
        | switch =>
            simp only [Summary.switch]
            by_cases same : thread = current <;> split <;> simp [Summary.rotate, same]
      exact ⟨isAttached, kept.1 ▸ running, kept.2⟩

/-- A thread that is resumed gets to the first of its CPUs with the least threads. -/
theorem resumeThread_placed (refines : Refines state summary)
    (invariant : Invariant platform attached summary)
    (found : withStampId state id = .ok thread)
    (paused : (summary.threads thread).state = .paused)
    {err : ErrCode} (done : resumeThread platform state caller id = some (after, err)) :
    ∃ cpu, FirstLeast (BitArray.bitAt (state.threads thread).affinity)
        (fun other => (state.cpus other).totalThreads) platform.cpus cpu ∧
      Refines after (summary.resume thread cpu) := by
  obtain ⟨-, cpu, foundCpu, refinesAfter⟩ :=
    resumeThread_found refines invariant found paused done
  have isAttached := attached_of_withStampId refines invariant found
  have place : summary.view.place thread = .inactive := by
    rw [invariant.place_of_attached isAttached, placeOf, paused]
  have unparked := refines.unparkThread place
  have sameAffinity : ((unparkThread state thread).threads thread).affinity =
      (state.threads thread).affinity := by
    rw [← ThreadData.core_affinity, unparked.thread]
    simp [Summary.unpark, ← refines.thread]
  have sameLoads : (fun other => ((unparkThread state thread).cpus other).totalThreads) =
      fun other => (state.cpus other).totalThreads := by
    funext other
    rw [unparked.totalThreads, refines.totalThreads]
    rfl
  have spec := firstLeast_of_findLeastLoadedCpu foundCpu
  rw [sameAffinity, sameLoads] at spec
  exact ⟨cpu, spec, refinesAfter⟩

/-- No call puts a thread on a CPU that it may not run on. -/
theorem World.OnAllowed.step {world next : World} (onAllowed : world.OnAllowed platform)
    (refines : Refines world.state summary)
    (invariant : Invariant platform world.attached summary)
    (taken : world.step platform action = some next) : next.OnAllowed platform := by
  obtain ⟨-, summary', refinesNext, moves⟩ := step_moves refines invariant taken
  intro thread isAttached running
  -- a thread that ran before has not been moved
  have stays : world.attached thread = true → (summary.threads thread).state = .running →
      (summary'.threads thread).cpu = (summary.threads thread).cpu →
      (next.state.threads thread).cpu < platform.cpus ∧
        BitArray.bitAt (next.state.threads thread).affinity
          (next.state.threads thread).cpu = true := by
    intro wasAttached ran sameCpu
    obtain ⟨exists_, isAllowed⟩ := onAllowed thread wasAttached (by rwa [threadState refines])
    rw [← ThreadData.core_cpu, refines.thread] at exists_ isAllowed
    rw [← ThreadData.core_affinity, refines.thread] at isAllowed
    rw [← ThreadData.core_cpu, ← ThreadData.core_affinity, refinesNext.thread, sameCpu,
      (moves.kept wasAttached).1]
    exact ⟨exists_, isAllowed⟩
  rw [threadState refinesNext] at running
  by_cases isResume : ∃ caller id, action = .resume caller id
  · obtain ⟨caller, id, rfl⟩ := isResume
    obtain ⟨-, sameAttached, err, done⟩ := World.step_resume taken
    rw [sameAttached] at isAttached
    cases found : withStampId world.state id with
    | error err =>
        simp only [resumeThread, found, Option.some.injEq, Prod.mk.injEq] at done
        rw [← threadState refinesNext, ← done.1] at running
        rw [← done.1]
        exact onAllowed thread isAttached running
    | ok resumed =>
        by_cases paused : (summary.threads resumed).state = .paused
        · obtain ⟨cpu, least, refinesResumed⟩ :=
            resumeThread_placed refines invariant found paused done
          have sameThread := (refinesNext.thread thread).symm.trans (refinesResumed.thread thread)
          by_cases same : thread = resumed
          · subst same
            have onCpu : (summary'.threads thread).cpu = cpu := by
              rw [sameThread]
              simp [Summary.resume, Summary.enroll]
            rw [← ThreadData.core_cpu, ← ThreadData.core_affinity, refinesNext.thread, onCpu,
              (moves.kept isAttached).1, ← refines.thread, ThreadData.core_affinity]
            exact ⟨least.exists_, least.isAllowed⟩
          · have kept : summary'.threads thread = summary.threads thread := by
              rw [sameThread]
              simp [Summary.resume, Summary.enroll, Summary.unpark, same]
            exact stays isAttached (kept ▸ running) (congrArg ThreadData.cpu kept)
        · rw [resumeThread_refused refines found paused] at done
          obtain ⟨sameState, -⟩ := Prod.mk.inj (Option.some.inj done)
          rw [← threadState refinesNext, ← sameState] at running
          rw [← sameState]
          exact onAllowed thread isAttached running
  · obtain ⟨wasAttached, ran, sameCpu⟩ := moves.ran
      (fun caller id isResumed => isResume ⟨caller, id, isResumed⟩) isAttached running
    exact stays wasAttached ran sameCpu

theorem onAllowed_of_reachable {guard : World → Action → Prop} {world : World}
    (reached : (system platform).ReachableUnder guard world) :
    Sound platform world ∧ world.OnAllowed platform := by
  refine invariant_of_reachable (fun world initially thread isAttached => ?_) ?_ reached
  · rw [initially.attached] at isAttached
    cases isAttached
  · exact fun _ _ _ _ refines invariant onAllowed _ taken =>
      onAllowed.step refines invariant taken

end Running

/-! ## Placement -/

/-- These are the run queues. -/
def State.Queues (state : State) (queue : Nat → Nat → TwoListQueue Address) : Prop :=
  ∀ cpu priority, ((state.cpus cpu).priorities priority).Represents state.links
    (queue cpu priority)

/-- Threads are queued on CPUs that they may run on, and counted there. -/
structure Placed (platform : Platform) (state : State)
    (queue : Nat → Nat → TwoListQueue Address) : Prop where
  queues : state.Queues queue
  total : ∀ cpu, (state.cpus cpu).totalThreads = queuedThreads (queue cpu)
  onAllowed : ∀ cpu priority, ∀ thread ∈ (queue cpu priority).toList,
    cpu < platform.cpus ∧ BitArray.bitAt (state.threads thread).affinity cpu = true

/-- **Placement.**  An affinity is accepted if and only if it allows a CPU that exists.  In
every reachable state `resume_thread` queues a thread on the first of its CPUs with the least
threads, and no thread is queued on another CPU than its own. -/
theorem placement (platform : Platform) :
    (∀ state thread, Attachable state thread →
      ((attachThread platform state thread).2.1 = .errNone ↔
        ∃ cpu < platform.cpus,
          BitArray.bitAt (state.threads thread).affinity cpu = true)) ∧
    ∀ world, (system platform).Reachable world →
      (∃ queue, Placed platform world.state queue) ∧
      ∀ caller id thread after, withStampId world.state id = .ok thread →
        resumeThread platform world.state caller id = some (after, .errNone) →
        ∃ cpu queue, FirstLeast (BitArray.bitAt (world.state.threads thread).affinity)
            (fun other => (world.state.cpus other).totalThreads) platform.cpus cpu ∧
          after.Queues queue ∧
          thread ∈ (queue cpu (after.threads thread).realPriority).toList := by
  refine ⟨fun state thread attachable => attachable.accepted_iff, fun world reached => ?_⟩
  obtain ⟨⟨summary, refines, invariant⟩, onAllowed⟩ := onAllowed_of_reachable reached
  refine ⟨⟨summary.view.queue, refines.lists.queue, fun cpu => ?_, ?_⟩, ?_⟩
  · rw [refines.totalThreads]
    exact (invariant.cpus cpu).total
  · intro cpu priority thread queued
    obtain ⟨isAttached, running, onCpu, -⟩ := invariant.of_queued refines.lists queued
    have isAllowed := onAllowed thread isAttached (by rwa [threadState refines])
    rwa [show (world.state.threads thread).cpu = cpu by
      rw [← ThreadData.core_cpu, refines.thread, onCpu]] at isAllowed
  · intro caller id thread after found done
    have paused : (summary.threads thread).state = .paused := by
      by_contra busy
      rw [resumeThread_refused refines found busy] at done
      cases done
    obtain ⟨cpu, least, refinesAfter⟩ := resumeThread_placed refines invariant found paused done
    have isAttached := attached_of_withStampId refines invariant found
    have invariantAfter := invariant.resume refines.lists isAttached least.exists_
    have priority : (after.threads thread).realPriority =
        ((summary.resume thread cpu).threads thread).realPriority := by
      rw [← refinesAfter.thread, ThreadData.core_realPriority]
    refine ⟨cpu, _, least, refinesAfter.lists.queue, ?_⟩
    rw [refinesAfter.lists.queuePlace, priority,
      invariantAfter.place_of_running isAttached (by simp [Summary.resume, Summary.enroll])]
    simp [Summary.resume, Summary.enroll]

/-- The affinity of the first thread is accepted, and the thread is resumed on CPU 1. -/
theorem placement_first :
    (∃ cpu < twoCpus.cpus, BitArray.bitAt bootThread.affinity cpu = true) ∧
    ∃ world after, (system twoCpus).exec bootWorld [.attach 0 0x10000] = some world ∧
      resumeThread twoCpus world.state 0 0x10000 = some (after, .errNone) ∧
      ∃ cpu queue, FirstLeast (BitArray.bitAt (world.state.threads 0x10000).affinity)
          (fun other => (world.state.cpus other).totalThreads) 2 cpu ∧
        after.Queues queue ∧
        0x10000 ∈ (queue cpu (after.threads 0x10000).realPriority).toList := by
  refine ⟨?_, ?_⟩
  · have attachable : Attachable bootWorld.state 0x10000 :=
      ⟨by decide, ⟨0x8000, rfl, by decide, rfl⟩, by decide⟩
    exact ((placement twoCpus).1 bootWorld.state 0x10000 attachable).mp (by decide +kernel)
  · have checked : (do
        let world ← (system twoCpus).exec bootWorld [.attach 0 0x10000]
        let result ← resumeThread twoCpus world.state 0 0x10000
        some (decide (withStampId world.state 0x10000 = .ok 0x10000 ∧ result.2 = .errNone))) =
          some true := by
      decide +kernel
    obtain ⟨world, executed, checked⟩ := Option.bind_eq_some_iff.mp checked
    obtain ⟨⟨after, err⟩, done, holds⟩ := Option.bind_eq_some_iff.mp checked
    obtain ⟨found, rfl⟩ := of_decide_eq_true (Option.some.inj holds)
    have reached := TransitionSystem.reachable_of_exec bootWorld_initial executed
    exact ⟨world, after, executed, done,
      ((placement twoCpus).2 world reached).2 0 0x10000 0x10000 after found done⟩

end Scheduler
end ToyKernel
