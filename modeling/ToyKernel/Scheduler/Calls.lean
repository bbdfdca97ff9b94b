import ToyKernel.Scheduler.Invariant

/-!
# What the calls of the scheduler return

Each call, made in a state that satisfies the invariant, either is refused and
leaves the state alone, or succeeds and does one operation on the summary.  The
calls that need another CPU return if that CPU has not panicked.
-/

namespace ToyKernel
namespace Scheduler

variable {platform : Platform} {state after : State} {summary : Summary}
  {attached : Address → Bool} {thread : Address} {caller cpu : Nat} {id output : BitVec 64}
  {err : ErrCode} {stop : Bool} {lockToRelease : Option Address}

theorem threadState (refines : Refines state summary) (thread : Address) :
    (state.threads thread).state = (summary.threads thread).state := by
  rw [← ThreadData.core_state, refines.thread]

/-- Only attached threads are found by their ids. -/
theorem attached_of_withStampId (refines : Refines state summary)
    (invariant : Invariant platform attached summary)
    (found : withStampId state id = .ok thread) : attached thread = true := by
  obtain ⟨-, isMagic, -⟩ := of_stampIdTarget found
  rw [← ThreadData.core_magic, refines.thread] at isMagic
  exact (invariant.threads thread).magic.mp isMagic

/-! ## `attach_thread` and `detach_thread` -/

/-- The accepted threads of `attach_thread`. -/
theorem of_checkAttach (accepted : checkAttach platform state thread = .errNone) :
    (state.threads thread).magic ≠ threadMagic ∧ (state.threads thread).stack ≠ none ∧
      (state.threads thread).priority < configSchedulerPriorities := by
  simp only [checkAttach] at accepted
  split at accepted
  · cases accepted
  · rename_i magic
    split at accepted
    · cases accepted
    · rename_i stack hasStack
      split at accepted
      · cases accepted
      · rename_i checks
        simp only [not_or, Nat.not_le] at checks
        exact ⟨magic, by simp [hasStack], checks.2.2⟩

/-- The threads that are not attached are in no list. -/
theorem unlisted_of_unattached (invariant : Invariant platform attached summary)
    (unattached : attached thread = false) :
    summary.view.place thread = .nowhere ∧ thread ∉ summary.view.all := by
  have fits := invariant.threads thread
  rw [fits.place, fits.listed, unattached]
  exact ⟨rfl, by simp⟩

/-- `attach_thread` of an acceptable thread. -/
theorem attachThread_accepted (refines : Refines state summary)
    (invariant : Invariant platform attached summary)
    (accepted : checkAttach platform state thread = .errNone) :
    (attachThread platform state thread).2.1 = .errNone ∧ attached thread = false ∧
      Refines (attachThread platform state thread).1 (summary.attach thread state.stamp) := by
  obtain ⟨magic, -, -⟩ := of_checkAttach accepted
  rw [← ThreadData.core_magic, refines.thread] at magic
  have unattached : attached thread = false := by
    rw [← Bool.not_eq_true, ← (invariant.threads thread).magic]
    exact magic
  obtain ⟨unplaced, unlisted⟩ := unlisted_of_unattached invariant unattached
  refine ⟨?_, unattached, refines.attachThread accepted unplaced unlisted⟩
  simp [attachThread, accepted]

/-- `attach_thread` of any other thread. -/
theorem attachThread_refused (refused : checkAttach platform state thread ≠ .errNone) :
    attachThread platform state thread = (state, checkAttach platform state thread, none) := by
  simp only [attachThread]

/-- A thread that `detach_thread` accepts is in the `inactive` list. -/
theorem detachThread_accepted (refines : Refines state summary)
    (invariant : Invariant platform attached summary)
    (found : withStampId state id = .ok thread)
    (idle : (summary.threads thread).state = .paused ∨
      (summary.threads thread).state = .stopped) :
    ∃ after, detachThread state id = (after, .errNone, some thread) ∧
      Refines after (summary.detach thread) := by
  have isAttached := attached_of_withStampId refines invariant found
  have place : summary.view.place thread = .inactive := by
    rw [invariant.place_of_attached isAttached, placeOf]
    rcases idle with paused | stopped
    · rw [paused]
    · rw [stopped]
  have present := (invariant.threads thread).listed.mpr isAttached
  rw [← threadState refines] at idle
  exact ⟨_, by simp only [detachThread, found, if_pos idle], refines.detached place present⟩

/-- `detach_thread` refuses the threads that run. -/
theorem detachThread_refused (refines : Refines state summary)
    (found : withStampId state id = .ok thread)
    (busy : ¬ ((summary.threads thread).state = .paused ∨
      (summary.threads thread).state = .stopped)) :
    detachThread state id = (state, .errBadState, none) := by
  rw [← threadState refines] at busy
  simp only [detachThread, found, if_neg busy]

/-! ## `run_cpu_task` -/

/-- A CPU that answered has not panicked. -/
theorem answers_of_runCpuTask {task : CpuTask} {result : State × CpuTask}
    (done : runCpuTask platform state caller cpu task = some result) :
    caller = cpu ∨ (state.machines cpu).panicked = false := by
  by_cases own : caller = cpu
  · exact .inl own
  · cases responds : (state.machines cpu).panicked with
    | false => exact .inr rfl
    | true => simp [runCpuTask, own, responds] at done

/-! ## `resume_thread` -/

/-- The loop of `find_least_loaded_cpu` finds one of the CPUs that it looks at. -/
theorem leastLoaded_lt (state : State) (affinity : List (BitVec 64)) (cpus : Nat) :
    ∀ cpu, (leastLoaded state affinity cpus).1 = some cpu → cpu < cpus := by
  induction cpus with
  | zero =>
      intro cpu found
      cases found
  | succ i inductionHypothesis =>
      intro cpu found
      simp only [leastLoaded] at found
      split at found
      · split at found
        · cases found
          exact Nat.lt_succ_self i
        · exact Nat.lt_succ_of_lt (inductionHypothesis cpu found)
      · exact Nat.lt_succ_of_lt (inductionHypothesis cpu found)

/-- A paused thread is resumed on the CPU that is found for it. -/
theorem resumeThread_paused (refines : Refines state summary)
    (invariant : Invariant platform attached summary)
    (found : withStampId state id = .ok thread)
    (paused : (summary.threads thread).state = .paused)
    (foundCpu : findLeastLoadedCpu platform (unparkThread state thread)
      ((unparkThread state thread).threads thread).affinity = some cpu)
    (answers : caller = cpu ∨ (state.machines cpu).panicked = false) :
    ∃ after, resumeThread platform state caller id = some (after, .errNone) ∧
      Refines after (summary.resume thread cpu) := by
  have isAttached := attached_of_withStampId refines invariant found
  have place : summary.view.place thread = .inactive := by
    rw [invariant.place_of_attached isAttached, placeOf, paused]
  obtain ⟨after, task, ran, resumed⟩ := refines.resumed platform place
    ((invariant.threads thread).priority isAttached) answers
  rw [← threadState refines] at paused
  refine ⟨after, ?_, resumed⟩
  simp only [resumeThread, found, if_pos paused, Option.bind_eq_bind, foundCpu, Option.bind_some,
    ran]

/-- `resume_thread` refuses the threads that are not paused. -/
theorem resumeThread_refused (refines : Refines state summary)
    (found : withStampId state id = .ok thread)
    (busy : (summary.threads thread).state ≠ .paused) :
    resumeThread platform state caller id = some (state, .errBadState) := by
  rw [← threadState refines] at busy
  simp only [resumeThread, found, if_neg busy]

/-- A thread that was resumed is queued on the CPU that was found for it. -/
theorem resumeThread_found (refines : Refines state summary)
    (invariant : Invariant platform attached summary)
    (found : withStampId state id = .ok thread)
    (paused : (summary.threads thread).state = .paused)
    (done : resumeThread platform state caller id = some (after, err)) :
    err = .errNone ∧ ∃ cpu,
      findLeastLoadedCpu platform (unparkThread state thread)
        ((unparkThread state thread).threads thread).affinity = some cpu ∧
      Refines after (summary.resume thread cpu) := by
  have asked := done
  simp only [resumeThread, found, threadState refines, if_pos paused] at asked
  obtain ⟨cpu, foundCpu, asked⟩ := Option.bind_eq_some_iff.mp asked
  obtain ⟨⟨final, task⟩, ran, -⟩ := Option.bind_eq_some_iff.mp asked
  have answers : caller = cpu ∨ (state.machines cpu).panicked = false := by
    rw [← Refines.unparkThread_machines state thread]
    exact answers_of_runCpuTask ran
  obtain ⟨resumed, done', refinesResumed⟩ :=
    resumeThread_paused refines invariant found paused foundCpu answers
  obtain ⟨rfl, rfl⟩ := Prod.mk.inj (Option.some.inj (done.symm.trans done'))
  exact ⟨rfl, cpu, foundCpu, refinesResumed⟩

/-- How `resume_thread` ends. -/
inductive Resumed (platform : Platform) (state : State) (summary : Summary) (id : BitVec 64) :
    State → ErrCode → Summary → Prop
  | unknown {err : ErrCode} :
      withStampId state id = .error err →
      Resumed platform state summary id state err summary
  | refused (thread : Address) :
      withStampId state id = .ok thread →
      (summary.threads thread).state ≠ .paused →
      Resumed platform state summary id state .errBadState summary
  | resumed {after : State} (thread : Address) (cpu : Nat) :
      withStampId state id = .ok thread →
      (summary.threads thread).state = .paused →
      cpu < platform.cpus →
      Resumed platform state summary id after .errNone (summary.resume thread cpu)

theorem resumeThread_resumed (refines : Refines state summary)
    (invariant : Invariant platform attached summary)
    (done : resumeThread platform state caller id = some (after, err)) :
    ∃ summary', Refines after summary' ∧
      Resumed platform state summary id after err summary' := by
  cases found : withStampId state id with
  | error err =>
      simp only [resumeThread, found, Option.some.injEq, Prod.mk.injEq] at done
      obtain ⟨rfl, rfl⟩ := done
      exact ⟨summary, refines, .unknown found⟩
  | ok thread =>
      by_cases paused : (summary.threads thread).state = .paused
      · obtain ⟨rfl, cpu, foundCpu, refinesResumed⟩ :=
          resumeThread_found refines invariant found paused done
        exact ⟨_, refinesResumed, .resumed thread cpu found paused
          (leastLoaded_lt _ _ _ cpu foundCpu)⟩
      · rw [resumeThread_refused refines found paused, Option.some.injEq, Prod.mk.injEq] at done
        obtain ⟨rfl, rfl⟩ := done
        exact ⟨summary, refines, .refused thread found paused⟩

/-! ## `pause_thread`, `stop_thread` and `pause_this_thread` -/

/-- The thread that is left as the current one of a CPU is the highest. -/
def Dismissed (summary : Summary) (thread : Address) (highest : Nat) : Prop :=
  summary.first (summary.threads thread).cpu = some thread →
    (summary.cpus (summary.threads thread).cpu).totalThreads - 1 ≠ 0 →
    (summary.dismiss thread highest).view.Highest (summary.threads thread).cpu highest

variable (stop output lockToRelease) in
/-- A running thread is taken off the CPU that it runs on. -/
theorem deactivateRunning_running (refines : Refines state summary)
    (invariant : Invariant platform attached summary) (isAttached : attached thread = true)
    (running : (summary.threads thread).state = .running)
    (answers : caller = (summary.threads thread).cpu ∨
      (state.machines (summary.threads thread).cpu).panicked = false) :
    ∃ after highest selfHalt, deactivateRunning platform state caller stop thread output
        lockToRelease = some (after, .errNone, selfHalt) ∧
      Dismissed summary thread highest ∧
      Refines after (summary.deactivate platform thread
        (caller = (summary.threads thread).cpu) stop output highest) :=
  refines.deactivateRunning platform stop output lockToRelease running rfl
    (invariant.place_of_running isAttached running)
    (invariant.realPriority_lt isAttached running)
    (invariant.exists_active_dismiss refines.lists isAttached running rfl) answers

/-- The first round of the loop in `deactivate_thread` is the last one, unless the
thread is not found on its CPU. -/
theorem deactivateThread_eq {tried : ErrCode} (found : withStampId state id = .ok thread)
    (once : deactivateOnce platform caller stop thread output lockToRelease state .errNone =
      some (after, tried))
    (known : tried ≠ .errNotFound) :
    deactivateThread platform state caller stop id output lockToRelease =
      some (after, tried) := by
  simp only [deactivateThread, found, taskRetryCount, deactivateLoop, once, Option.bind_eq_bind,
    Option.bind_some, if_pos known, if_neg known]

theorem deactivateThread_running (refines : Refines state summary)
    (invariant : Invariant platform attached summary)
    (found : withStampId state id = .ok thread)
    (running : (summary.threads thread).state = .running)
    (answers : caller = (summary.threads thread).cpu ∨
      (state.machines (summary.threads thread).cpu).panicked = false) :
    ∃ after highest,
      deactivateThread platform state caller stop id output lockToRelease =
        some (after, .errNone) ∧
      Dismissed summary thread highest ∧
      Refines after (summary.deactivate platform thread
        (caller = (summary.threads thread).cpu) stop output highest) := by
  have isAttached := attached_of_withStampId refines invariant found
  obtain ⟨after, highest, selfHalt, ran, dismissed, refinesAfter⟩ :=
    deactivateRunning_running output stop lockToRelease refines invariant isAttached running
      answers
  rw [← threadState refines] at running
  refine ⟨after, highest, deactivateThread_eq found ?_ (by simp), dismissed, refinesAfter⟩
  simp only [deactivateOnce, running, ran, Option.bind_eq_bind, Option.bind_some]

/-- A paused thread can be stopped without any other CPU. -/
theorem deactivateThread_paused (refines : Refines state summary)
    (found : withStampId state id = .ok thread)
    (paused : (summary.threads thread).state = .paused) :
    ∃ after, deactivateThread platform state caller true id output lockToRelease =
        some (after, .errNone) ∧
      Refines after (summary.stop thread output) := by
  rw [← threadState refines] at paused
  have stopped : Refines
      (state.setThread thread ({ · with state := .stopped, output := output })) _ :=
    refines.setThread fun _ _ _ _ _ => rfl
  refine ⟨_, deactivateThread_eq found ?_ (by simp), stopped⟩
  simp only [deactivateOnce, paused, if_true]

/-- `deactivate_thread` refuses stopped threads, and to pause paused ones. -/
theorem deactivateThread_refused (refines : Refines state summary)
    (found : withStampId state id = .ok thread)
    (idle : (summary.threads thread).state = .stopped ∨
      (summary.threads thread).state = .paused ∧ stop = false) :
    deactivateThread platform state caller stop id output lockToRelease =
      some (state, .errBadState) := by
  rw [← threadState refines] at idle
  apply deactivateThread_eq found _ (by simp)
  rcases idle with stopped | ⟨paused, rfl⟩
  · simp only [deactivateOnce, stopped]
  · simp only [deactivateOnce, paused, Bool.false_eq_true, if_false]

/-- How `deactivate_thread` ends. -/
inductive Deactivated (platform : Platform) (state : State) (summary : Summary) (caller : Nat)
    (stop : Bool) (id output : BitVec 64) : State → ErrCode → Summary → Prop
  | unknown {err : ErrCode} :
      withStampId state id = .error err →
      Deactivated platform state summary caller stop id output state err summary
  | refused (thread : Address) :
      withStampId state id = .ok thread →
      (summary.threads thread).state = .stopped ∨
        (summary.threads thread).state = .paused ∧ stop = false →
      Deactivated platform state summary caller stop id output state .errBadState summary
  | stopped {after : State} (thread : Address) :
      withStampId state id = .ok thread →
      (summary.threads thread).state = .paused →
      stop = true →
      Deactivated platform state summary caller stop id output after .errNone
        (summary.stop thread output)
  | halted {after : State} (thread : Address) (highest : Nat) :
      withStampId state id = .ok thread →
      (summary.threads thread).state = .running →
      Dismissed summary thread highest →
      Deactivated platform state summary caller stop id output after .errNone
        (summary.deactivate platform thread (caller = (summary.threads thread).cpu) stop output
          highest)

theorem deactivateThread_deactivated (refines : Refines state summary)
    (invariant : Invariant platform attached summary)
    (done : deactivateThread platform state caller stop id output lockToRelease =
      some (after, err)) :
    ∃ summary', Refines after summary' ∧
      Deactivated platform state summary caller stop id output after err summary' := by
  cases found : withStampId state id with
  | error err =>
      simp only [deactivateThread, found, Option.some.injEq, Prod.mk.injEq] at done
      obtain ⟨rfl, rfl⟩ := done
      exact ⟨summary, refines, .unknown found⟩
  | ok thread =>
      have isAttached := attached_of_withStampId refines invariant found
      cases threadIs : (summary.threads thread).state with
      | unknown => exact absurd threadIs ((invariant.threads thread).known isAttached)
      | running =>
          have sameCpu : (state.threads thread).cpu = (summary.threads thread).cpu := by
            rw [← ThreadData.core_cpu, refines.thread]
          have asked := done
          simp only [deactivateThread, found, taskRetryCount, deactivateLoop, deactivateOnce,
            threadState refines, threadIs] at asked
          obtain ⟨_, asked, -⟩ := Option.bind_eq_some_iff.mp asked
          obtain ⟨_, asked, -⟩ := Option.bind_eq_some_iff.mp asked
          obtain ⟨_, asked, -⟩ := Option.bind_eq_some_iff.mp asked
          obtain ⟨_, asked, -⟩ := Option.bind_eq_some_iff.mp asked
          have answers := answers_of_runCpuTask asked
          rw [sameCpu] at answers
          obtain ⟨halted, highest, done', dismissed, refinesHalted⟩ :=
            deactivateThread_running refines invariant found threadIs answers
          obtain ⟨rfl, rfl⟩ := Prod.mk.inj (Option.some.inj (done.symm.trans done'))
          exact ⟨_, refinesHalted, .halted thread highest found threadIs dismissed⟩
      | paused =>
          cases stop with
          | true =>
              obtain ⟨stopped, done', refinesStopped⟩ :=
                deactivateThread_paused refines found threadIs
              obtain ⟨rfl, rfl⟩ := Prod.mk.inj (Option.some.inj (done.symm.trans done'))
              exact ⟨_, refinesStopped, .stopped thread found threadIs rfl⟩
          | false =>
              have idle : (summary.threads thread).state = .stopped ∨
                  (summary.threads thread).state = .paused ∧ false = false :=
                .inr ⟨threadIs, rfl⟩
              rw [deactivateThread_refused refines found idle, Option.some.injEq,
                Prod.mk.injEq] at done
              obtain ⟨rfl, rfl⟩ := done
              exact ⟨summary, refines, .refused thread found idle⟩
      | stopped =>
          have idle : (summary.threads thread).state = .stopped ∨
              (summary.threads thread).state = .paused ∧ stop = false := .inl threadIs
          rw [deactivateThread_refused refines found idle, Option.some.injEq,
            Prod.mk.injEq] at done
          obtain ⟨rfl, rfl⟩ := done
          exact ⟨summary, refines, .refused thread found idle⟩

/-! ## The timer interrupt -/

/-- Only the clock changes in `handle_timer`. -/
theorem handleTimer_refines (refines : Refines state summary) (cpu : Nat) :
    Refines (handleTimer platform state cpu) summary := by
  have clock : ∃ ticks timerTicks, handleTimer platform state cpu =
      { state with ticks := ticks, timerTicks := timerTicks } := by
    simp only [handleTimer]
    split <;> split <;> exact ⟨_, _, rfl⟩
  obtain ⟨ticks, timerTicks, same⟩ := clock
  rw [same]
  exact refines.outside

/-- How the timer interrupt ends before its label `exit`. -/
inductive Ticked (state : State) (summary : Summary) (cpu : Nat) : Summary → Prop
  | idle :
      (summary.cpus cpu).totalThreads = 0 →
      state.endsSlice cpu = false →
      Ticked state summary cpu summary
  | busy (thread : Address) (scheduled : Summary) :
      (summary.cpus cpu).totalThreads ≠ 0 →
      summary.first cpu = some thread →
      summary.Scheduled cpu thread scheduled →
      scheduled.view =
        (if state.endsSlice cpu then summary.view.rotate cpu (summary.cpus cpu).currentPriority
        else summary.view) →
      ((summary.cpus cpu).loadContext = false → (scheduled.machines cpu).panicked = false →
        scheduled.view.Highest cpu (scheduled.cpus cpu).currentPriority) →
      Ticked state summary cpu scheduled

/-- The timer interrupt never follows a null pointer. -/
theorem schedule_ticked (refines : Refines state summary)
    (invariant : Invariant platform attached summary) (cpu : Nat) :
    ∃ after scheduled, schedule state cpu = some after ∧ Refines after scheduled ∧
      Ticked state summary cpu scheduled := by
  by_cases idle : (summary.cpus cpu).totalThreads = 0
  · have total : (state.cpus cpu).totalThreads = 0 := (refines.totalThreads cpu).trans idle
    refine ⟨state, summary, by rw [schedule, if_pos total], refines, .idle idle ?_⟩
    simp only [State.endsSlice, total]
    split <;> rfl
  · obtain ⟨current, first⟩ := invariant.exists_first idle
    obtain ⟨isAttached, running, -, realPriority⟩ := invariant.of_first refines.lists first
    have fits := invariant.threads current
    obtain ⟨stack, hasStack⟩ := Option.ne_none_iff_exists'.mp (fits.stack isAttached)
    have samePriority := (fits.running isAttached running).1.symm.trans realPriority
    obtain ⟨after, scheduled, done, refinesAfter, ended, view, isHighest⟩ :=
      refines.schedule idle first hasStack samePriority
        (realPriority ▸ invariant.realPriority_lt isAttached running)
    exact ⟨after, scheduled, done, refinesAfter, 
      .busy current scheduled idle first ended view isHighest⟩

/-- What follows the label `exit` changes no summary. -/
theorem timerInterrupt_ticked (refines : Refines state summary)
    (invariant : Invariant platform attached summary) (cpu : Nat) :
    ∃ after scheduled, timerInterrupt platform state cpu = some after ∧
      Refines after scheduled ∧ Ticked state summary cpu scheduled := by
  obtain ⟨middle, scheduled, done, refinesMiddle, ticked⟩ :=
    schedule_ticked refines invariant cpu
  simp only [timerInterrupt, done, Option.bind_eq_bind, Option.bind_some]
  split
  · exact ⟨middle, scheduled, rfl, refinesMiddle, ticked⟩
  · exact ⟨_, scheduled, rfl, handleTimer_refines refinesMiddle cpu, ticked⟩

end Scheduler
end ToyKernel
