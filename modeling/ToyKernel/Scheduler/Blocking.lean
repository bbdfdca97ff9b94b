import ToyKernel.Scheduler.Contexts
import ToyKernel.Scheduler.StaleIds

/-!
# Blocking and waking

A thread that pauses itself stays paused, attached and under the same id until it is
resumed, stopped or detached by a call with its id.
-/

namespace ToyKernel
namespace Scheduler

/-- A thread that waits to be resumed. -/
structure World.Blocked (world : World) (thread : Address) : Prop where
  attached : world.attached thread = true
  paused : (world.state.threads thread).state = .paused

/-- The calls that end the pause of a thread. -/
def Action.EndsPause (state : State) (thread : Address) : Action → Prop
  | .resume _ id => withStampId state id = .ok thread
  | .stop _ id _ => withStampId state id = .ok thread
  | .detach _ id => withStampId state id = .ok thread
  | _ => False

/-- The stamps fit into an id. -/
structure World.SmallStamps (world : World) : Prop where
  next : world.state.stamp < 2 ^ stampIdStampBits
  threads : ∀ thread, world.attached thread = true →
    (world.state.threads thread).stamp < 2 ^ stampIdStampBits

section Blocked

variable {platform : Platform} {summary : Summary} {world next : World} {action : Action}
  {thread : Address} {cpu : Nat}

theorem World.SmallStamps.step (small : world.SmallStamps)
    (refines : Refines world.state summary)
    (invariant : Invariant platform world.attached summary)
    (taken : world.step platform action = some next) : next.SmallStamps := by
  rcases World.attachment_cases refines invariant taken with
    ⟨cpu, thread, rfl, -, accepted⟩ | ⟨-, sameStamp, noneAttached⟩
  · obtain ⟨sameState, sameAttached⟩ := World.step_attach taken
    obtain ⟨succeeded, -, -⟩ := attachThread_accepted refines invariant accepted
    constructor
    · rw [sameState, attachThread_stamp accepted]
      exact Nat.mod_lt _ (by decide)
    · intro other isAttached
      by_cases same : other = thread
      · subst same
        rw [sameState, attachThread_threads refines invariant accepted]
        exact small.next
      · rw [sameAttached, if_pos succeeded, Function.update_of_ne same] at isAttached
        rw [World.step_threadStamp refines invariant taken isAttached]
        exact small.threads other isAttached
  · constructor
    · rw [sameStamp]
      exact small.next
    · intro other isAttached
      have before := noneAttached other isAttached
      rw [World.step_threadStamp refines invariant taken before]
      exact small.threads other before

/-- The id of an attached thread leads to it. -/
theorem withStampId_self (refines : Refines world.state summary)
    (invariant : Invariant platform world.attached summary) (small : world.SmallStamps)
    (isAttached : world.attached thread = true) (below : thread.toNat < 2 ^ 52) :
    withStampId world.state (getStampId thread (world.state.threads thread).stamp) =
      .ok thread := by
  rw [withStampId_getStampId refines invariant below (small.threads thread isAttached),
    if_neg (by simp [isAttached]), if_neg (by simp)]

/-! ### The state of one thread -/

variable {state after : State} {attached : Address → Bool} {err : ErrCode} {id output : BitVec 64}
  {caller : Nat} {stop : Bool} {lockToRelease : Option Address}

/-- `resume_thread` changes the state of the thread only that it resumes. -/
theorem resumeThread_idle (refines : Refines state summary)
    (invariant : Invariant platform attached summary)
    (done : resumeThread platform state caller id = some (after, err)) (thread : Address) :
    (after.threads thread).state = (state.threads thread).state ∨
      withStampId state id = .ok thread ∧ (state.threads thread).state = .paused := by
  obtain ⟨summary', refinesAfter, resumed⟩ := resumeThread_resumed refines invariant done
  cases resumed with
  | unknown => exact .inl rfl
  | refused => exact .inl rfl
  | resumed resumed cpu found paused =>
      by_cases same : thread = resumed
      · subst same
        rw [← threadState refines] at paused
        exact .inr ⟨found, paused⟩
      · left
        rw [threadState refines, threadState refinesAfter]
        simp [Summary.resume, Summary.enroll, Summary.unpark, same]

/-- A paused thread runs after `resume_thread`. -/
theorem resumeThread_running (refines : Refines state summary)
    (invariant : Invariant platform attached summary)
    (found : withStampId state id = .ok thread)
    (paused : (state.threads thread).state = .paused)
    (done : resumeThread platform state caller id = some (after, err)) :
    (after.threads thread).state = .running := by
  obtain ⟨summary', refinesAfter, resumed⟩ := resumeThread_resumed refines invariant done
  rw [threadState refinesAfter]
  cases resumed with
  | unknown unknown =>
      rw [found] at unknown
      cases unknown
  | refused other found' busy =>
      obtain rfl := Except.ok.inj (found.symm.trans found')
      rw [← threadState refines] at busy
      exact absurd paused busy
  | resumed other cpu found' =>
      obtain rfl := Except.ok.inj (found.symm.trans found')
      simp [Summary.resume, Summary.enroll, Summary.unpark]

/-- Pausing or stopping a thread changes the state of no thread that does not run, except
that a paused thread can be stopped. -/
theorem deactivateThread_idle (refines : Refines state summary)
    (invariant : Invariant platform attached summary)
    (idle : (state.threads thread).state ≠ .running)
    (done : deactivateThread platform state caller stop id output lockToRelease =
      some (after, err)) :
    (after.threads thread).state = (state.threads thread).state ∨
      stop = true ∧ withStampId state id = .ok thread ∧
        (after.threads thread).state = .stopped := by
  obtain ⟨summary', refinesAfter, deactivated⟩ :=
    deactivateThread_deactivated refines invariant done
  rw [threadState refines] at idle ⊢
  rw [threadState refinesAfter]
  cases deactivated with
  | unknown => exact .inl rfl
  | refused => exact .inl rfl
  | stopped stopped found _ stops =>
      by_cases same : thread = stopped
      · subst same
        exact .inr ⟨stops, found, by simp [Summary.stop]⟩
      · left
        simp [Summary.stop, same]
  | halted halted highest found running =>
      have different : thread ≠ halted := by
        rintro rfl
        exact idle running
      left
      simp only [Summary.deactivate]
      split
      · simp [Summary.save, Summary.park, Summary.dismiss, different]
      · simp [Summary.park, Summary.dismiss, different]

/-- The timer interrupt changes the state of no thread. -/
theorem timerInterrupt_threadState (refines : Refines state summary)
    (invariant : Invariant platform attached summary)
    (done : timerInterrupt platform state cpu = some after) (thread : Address) :
    (after.threads thread).state = (state.threads thread).state := by
  obtain ⟨middle, scheduled, done', refinesAfter, ticked⟩ :=
    timerInterrupt_ticked refines invariant cpu
  obtain rfl := Option.some.inj (done.symm.trans done')
  rw [threadState refines, threadState refinesAfter]
  cases ticked with
  | idle => rfl
  | busy current scheduled busy first ended =>
      cases ended with
      | load => rfl
      | panic => rfl
      | tick =>
          rw [Summary.tick, Summary.setThread_threads]
          split
          · rename_i same
            rw [same]
          · rfl
      | switch =>
          simp only [Summary.switch]
          by_cases same : thread = current
          · split <;> simp [Summary.rotate, same]
          · split <;> simp [Summary.rotate, same]

/-- `detach_thread` does not change the other threads. -/
theorem detachThread_other (refines : Refines state summary)
    (invariant : Invariant platform attached summary)
    (spared : withStampId state id ≠ .ok thread) :
    ((detachThread state id).1.threads thread).state = (state.threads thread).state ∧
      (detachThread state id).2.2 ≠ some thread := by
  cases found : withStampId state id with
  | error err => simp only [detachThread, found, ne_eq, reduceCtorEq, not_false_eq_true, and_self]
  | ok other =>
      have different : thread ≠ other := by
        rintro rfl
        exact spared found
      by_cases idle : (summary.threads other).state = .paused ∨
          (summary.threads other).state = .stopped
      · obtain ⟨after, done, refinesAfter⟩ :=
          detachThread_accepted refines invariant found idle
        rw [done, threadState refinesAfter, threadState refines]
        refine ⟨by simp [Summary.detach, different], ?_⟩
        rw [ne_eq, Option.some.injEq]
        exact different.symm
      · rw [detachThread_refused refines found idle]
        simp

/-- A thread that does not run and is not detached stays attached and as it is, unless it is
stopped or resumed. -/
theorem World.step_idle (refines : Refines world.state summary)
    (invariant : Invariant platform world.attached summary)
    (isAttached : world.attached thread = true)
    (idle : (world.state.threads thread).state ≠ .running)
    (spared : ∀ cpu id, action = .detach cpu id → withStampId world.state id ≠ .ok thread)
    (taken : world.step platform action = some next) :
    next.attached thread = true ∧
      ((next.state.threads thread).state = (world.state.threads thread).state ∨
        (∃ cpu id output, action = .stop cpu id output ∧
          withStampId world.state id = .ok thread ∧
          (next.state.threads thread).state = .stopped) ∨
        ∃ cpu id, action = .resume cpu id ∧ withStampId world.state id = .ok thread ∧
          (world.state.threads thread).state = .paused) := by
  have different : ∀ {other : Address}, world.attached other = false → thread ≠ other := by
    rintro other unattached rfl
    rw [isAttached] at unattached
    cases unattached
  cases action with
  | store address word =>
      obtain rfl := Option.some.inj taken
      exact ⟨isAttached, .inl rfl⟩
  | prepare other data =>
      obtain ⟨⟨state, attached⟩, done, taken⟩ := Option.bind_eq_some_iff.mp taken
      obtain rfl := Option.some.inj taken
      obtain ⟨⟨unattached, -⟩, done⟩ := Option.ite_none_right_eq_some.mp done
      obtain ⟨rfl, rfl⟩ := Prod.mk.inj (Option.some.inj done)
      refine ⟨isAttached, .inl ?_⟩
      rw [State.setThread_threads, if_neg (different unattached)]
  | setContext other proc input =>
      obtain ⟨⟨state, attached⟩, done, taken⟩ := Option.bind_eq_some_iff.mp taken
      obtain rfl := Option.some.inj taken
      obtain ⟨unattached, done⟩ := Option.ite_none_right_eq_some.mp done
      obtain ⟨rfl, rfl⟩ := Prod.mk.inj (Option.some.inj done)
      refine ⟨isAttached, .inl ?_⟩
      simp only [setThreadContext]
      split
      · rfl
      · split
        · rfl
        · rw [State.setThread_threads, if_neg (different unattached)]
  | execute cpu frame =>
      obtain ⟨⟨state, attached⟩, done, taken⟩ := Option.bind_eq_some_iff.mp taken
      obtain rfl := Option.some.inj taken
      obtain ⟨-, done⟩ := Option.ite_none_right_eq_some.mp done
      obtain ⟨rfl, rfl⟩ := Prod.mk.inj (Option.some.inj done)
      exact ⟨isAttached, .inl rfl⟩
  | setTimerTicks cpu ticks =>
      obtain ⟨-, sameAttached, after⟩ := World.step_setTimerTicks taken
      exact ⟨sameAttached ▸ isAttached, .inl (by rw [after])⟩
  | attach cpu other =>
      obtain ⟨sameState, sameAttached⟩ := World.step_attach taken
      by_cases accepted : checkAttach platform world.state other = .errNone
      · obtain ⟨succeeded, unattached, refinesNext⟩ :=
          attachThread_accepted refines invariant accepted
        rw [if_pos succeeded] at sameAttached
        refine ⟨?_, .inl ?_⟩
        · rw [sameAttached, Function.update_of_ne (different unattached)]
          exact isAttached
        · rw [threadState refines, sameState, threadState refinesNext]
          simp [Summary.attach, different unattached]
      · rw [attachThread_refused accepted] at sameState sameAttached
        rw [if_neg accepted] at sameAttached
        exact ⟨sameAttached ▸ isAttached, .inl (by rw [sameState])⟩
  | detach cpu id =>
      obtain ⟨-, after, sameAttached⟩ := World.step_detach taken
      obtain ⟨same, spares⟩ := detachThread_other refines invariant (spared cpu id rfl)
      refine ⟨?_, .inl (by rw [after, same])⟩
      rw [sameAttached]
      split
      · rename_i other detached
        rw [Function.update_of_ne (fun same : thread = other => spares (same ▸ detached))]
        exact isAttached
      · exact isAttached
  | resume cpu id =>
      obtain ⟨-, sameAttached, err, done⟩ := World.step_resume taken
      refine ⟨sameAttached ▸ isAttached, ?_⟩
      obtain same | ⟨found, paused⟩ := resumeThread_idle refines invariant done thread
      · exact .inl same
      · exact .inr (.inr ⟨cpu, id, rfl, found, paused⟩)
  | pause cpu id =>
      obtain ⟨-, sameAttached, err, done⟩ := World.step_deactivate rfl taken
      refine ⟨sameAttached ▸ isAttached, ?_⟩
      obtain same | ⟨stops, -⟩ := deactivateThread_idle refines invariant idle done
      · exact .inl same
      · cases stops
  | stop cpu id output =>
      obtain ⟨-, sameAttached, err, done⟩ := World.step_deactivate rfl taken
      refine ⟨sameAttached ▸ isAttached, ?_⟩
      obtain same | ⟨-, found, stopped⟩ := deactivateThread_idle refines invariant idle done
      · exact .inl same
      · exact .inr (.inl ⟨cpu, id, output, rfl, found, stopped⟩)
  | pauseThis cpu lockToRelease =>
      obtain ⟨-, sameAttached, err, done⟩ := World.step_deactivate rfl taken
      refine ⟨sameAttached ▸ isAttached, ?_⟩
      obtain same | ⟨stops, -⟩ := deactivateThread_idle refines invariant idle done
      · exact .inl same
      · cases stops
  | timer cpu =>
      obtain ⟨-, sameAttached, done⟩ := World.step_timer taken
      exact ⟨sameAttached ▸ isAttached,
        .inl (timerInterrupt_threadState refines invariant done thread)⟩

/-- A blocked thread stays blocked unless a call ends its pause. -/
theorem World.Blocked.step (blocked : world.Blocked thread)
    (refines : Refines world.state summary)
    (invariant : Invariant platform world.attached summary)
    (taken : world.step platform action = some next)
    (spared : ¬ action.EndsPause world.state thread) : next.Blocked thread := by
  obtain ⟨isAttached, paused⟩ := blocked
  have idle : (world.state.threads thread).state ≠ .running := by
    rw [paused]
    simp
  have notDetached : ∀ cpu id, action = .detach cpu id →
      withStampId world.state id ≠ .ok thread := by
    rintro cpu id rfl
    exact spared
  obtain ⟨attachedNext, same | ⟨cpu, id, output, rfl, found, -⟩ | ⟨cpu, id, rfl, found, -⟩⟩ :=
    World.step_idle refines invariant isAttached idle notDetached taken
  · exact ⟨attachedNext, same.trans paused⟩
  · exact absurd found spared
  · exact absurd found spared

/-! ### Pausing oneself and being resumed -/

/-- The thread that a CPU executes is attached and runs there. -/
theorem of_fsBase (refines : Refines world.state summary)
    (invariant : Invariant platform world.attached summary)
    (current : (world.state.machines cpu).fsBase = some thread) :
    world.attached thread = true ∧ (summary.threads thread).state = .running ∧
      (summary.threads thread).cpu = cpu := by
  rw [refines.machines, (invariant.cpus cpu).fsBase] at current
  obtain ⟨first, -, -⟩ := invariant.of_executing current
  obtain ⟨isAttached, running, onCpu, -⟩ := invariant.of_first refines.lists first
  exact ⟨isAttached, running, onCpu⟩

variable (lockToRelease) in
/-- A thread that pauses itself is blocked. -/
theorem World.exists_step_pauseThis (refines : Refines world.state summary)
    (invariant : Invariant platform world.attached summary) (small : world.SmallStamps)
    (runs : world.Runs platform cpu)
    (current : (world.state.machines cpu).fsBase = some thread) (below : thread.toNat < 2 ^ 52) :
    ∃ next, world.step platform (.pauseThis cpu lockToRelease) = some next ∧
      next.Blocked thread := by
  obtain ⟨isAttached, running, onCpu⟩ := of_fsBase refines invariant current
  have found := withStampId_self refines invariant small isAttached below
  have itself : getThread world.state cpu =
      getStampId thread (world.state.threads thread).stamp := by
    simp only [getThread, current]
  rw [← itself] at found
  obtain ⟨after, highest, done, -, refinesAfter⟩ : ∃ after highest,
      deactivateThread platform world.state cpu false (getThread world.state cpu) 0
        lockToRelease = some (after, .errNone) ∧ Dismissed summary thread highest ∧ _ :=
    deactivateThread_running refines invariant found running (.inl onCpu.symm)
  obtain ⟨paused, -⟩ := deactivate_thread summary platform thread
    (cpu = (summary.threads thread).cpu) false 0 highest
  refine ⟨⟨after, world.attached,
    world.capture platform (.pauseThis cpu lockToRelease) after⟩, ?_, isAttached, ?_⟩
  · simp only [World.step, World.perform, if_pos runs, pauseThisThread, done]
    rfl
  · rw [threadState refinesAfter]
    exact paused

/-- A blocked thread runs after it has been resumed by its id. -/
theorem World.Blocked.resumed (blocked : world.Blocked thread)
    (refines : Refines world.state summary)
    (invariant : Invariant platform world.attached summary) (small : world.SmallStamps)
    (below : thread.toNat < 2 ^ 52)
    (taken : world.step platform
      (.resume cpu (getStampId thread (world.state.threads thread).stamp)) = some next) :
    (next.state.threads thread).state = .running := by
  have found := withStampId_self refines invariant small blocked.attached below
  obtain ⟨-, -, err, done⟩ := World.step_resume taken
  exact resumeThread_running refines invariant found blocked.paused done

/-- A blocked thread can be resumed if no CPU has been stopped by a stack overrun and the
threads can be counted. -/
theorem World.Blocked.exists_step_resume (blocked : world.Blocked thread)
    (refines : Refines world.state summary)
    (invariant : Invariant platform world.attached summary) (small : world.SmallStamps)
    (haveCpus : world.HaveCpus platform)
    (survive : ∀ cpu, cpu < platform.cpus → (world.state.machines cpu).panicked = false)
    (counted : world.state.all.totalThreads ≤ int32Max) (below : thread.toNat < 2 ^ 52)
    (runs : world.Runs platform cpu) :
    ∃ next, world.step platform
      (.resume cpu (getStampId thread (world.state.threads thread).stamp)) = some next := by
  have found := withStampId_self refines invariant small blocked.attached below
  obtain ⟨after, done, -⟩ :=
    ((lifeCycle refines invariant haveCpus survive counted).resume cpu _ thread found).1
      blocked.paused
  have performed : world.perform platform
      (.resume cpu (getStampId thread (world.state.threads thread).stamp)) =
        some (after, world.attached) := by
    simp only [World.perform, if_pos runs, done]
    rfl
  exact World.exists_step performed

end Blocked

end Scheduler
end ToyKernel
