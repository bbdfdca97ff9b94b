import ToyKernel.Scheduler.System

/-!
# The counters of the scheduler

The global stamp moves with each thread attached, the ticks with the timer interrupts
of the boot CPU.  The timer of a CPU is set by one call and cleared when it expires;
no other call changes the three.
-/

namespace ToyKernel
namespace Scheduler

/-- The global stamp, the ticks and the timers. -/
@[ext]
structure Counters where
  stamp : Nat
  ticks : BitVec 64
  timerTicks : Nat → BitVec 64

/-- What `handle_timer` does to the counters. -/
def Counters.tick (platform : Platform) (counters : Counters) (cpu : Nat) : Counters :=
  let ticks := if cpu = platform.bspCpu then counters.ticks + 1 else counters.ticks
  { counters with
    ticks := ticks
    timerTicks :=
      if counters.timerTicks cpu ≠ 0 ∧ counters.timerTicks cpu ≤ ticks then
        Function.update counters.timerTicks cpu 0
      else
        counters.timerTicks }

/-- The timer of the CPU is cleared if it has expired. -/
theorem Counters.tick_timerTicks (platform : Platform) (counters : Counters) (cpu : Nat) :
    (counters.tick platform cpu).timerTicks =
      if counters.timerTicks cpu ≠ 0 ∧
          counters.timerTicks cpu ≤ (counters.tick platform cpu).ticks then
        Function.update counters.timerTicks cpu 0
      else
        counters.timerTicks := rfl

namespace State

variable (state : State)

/-- The counters in a state. -/
def counters : Counters := ⟨state.stamp, state.ticks, state.timerTicks⟩

theorem setThread_counters (thread : Address) (change : ThreadData → ThreadData) :
    (state.setThread thread change).counters = state.counters := rfl

theorem setCpu_counters (cpu : Nat) (change : CpuData → CpuData) :
    (state.setCpu cpu change).counters = state.counters := rfl

end State

theorem OnlyLists.counters {before after : State} (only : OnlyLists before after) :
    after.counters = before.counters := by
  simp only [State.counters, only.stamp, only.ticks, only.timerTicks]

/-! ## The calls -/

variable {platform : Platform} {state after : State} {thread : Address} {caller cpu : Nat}
  {id output : BitVec 64} {err : ErrCode} {stop : Bool} {lockToRelease : Option Address}

theorem doResumeTask_counters (done : doResumeTask state cpu = some after) :
    after.counters = state.counters := by
  obtain ⟨thread, -, done⟩ := Option.bind_eq_some_iff.mp done
  obtain rfl := Option.some.inj done
  have queued := (OnlyLists.addExpired
    (state.setThread thread ({ · with state := .running, cpu := cpu })) cpu thread).counters
  rw [← State.setThread_counters state thread ({ · with state := .running, cpu := cpu }),
    ← queued]
  simp only [State.setTask, State.setCpu_counters]
  split
  · rfl
  · rfl

theorem chooseHighest_counters (done : chooseHighest state cpu = some after) :
    after.counters = state.counters := by
  simp only [chooseHighest] at done
  split at done
  · obtain ⟨highest, -, done⟩ := Option.bind_eq_some_iff.mp done
    obtain rfl := Option.some.inj done
    rfl
  · obtain rfl := Option.some.inj done
    rfl

theorem haltCurrent_counters {stackFrame : Bool}
    (done : haltCurrent platform state cpu thread stackFrame = some after) :
    after.counters = state.counters := by
  obtain ⟨chosen, choice, done⟩ := Option.bind_eq_some_iff.mp done
  rw [← chooseHighest_counters choice]
  split at done
  · obtain rfl := Option.some.inj done
    rfl
  · obtain rfl := Option.some.inj done
    rfl

theorem doPauseTask_counters {stackFrame : Bool}
    (done : doPauseTask platform state cpu stackFrame = some after) :
    after.counters = state.counters := by
  obtain ⟨thread, -, done⟩ := Option.bind_eq_some_iff.mp done
  split at done
  · obtain rfl := Option.some.inj done
    rfl
  · rw [← (OnlyLists.removeQueued state cpu thread).counters]
    simp only at done
    split at done
    · obtain ⟨halted, halts, done⟩ := Option.bind_eq_some_iff.mp done
      obtain rfl := Option.some.inj done
      exact (haltCurrent_counters halts).trans rfl
    · obtain rfl := Option.some.inj done
      rfl

theorem handleTask_counters {stackFrame : Bool}
    (done : handleTask platform state cpu stackFrame = some after) :
    after.counters = state.counters := by
  simp only [handleTask] at done
  split at done
  · exact doResumeTask_counters done
  · exact doPauseTask_counters done
  · obtain ⟨thread, -, done⟩ := Option.bind_eq_some_iff.mp done
    obtain rfl := Option.some.inj done
    rfl

theorem runCpuTask_counters {task result : CpuTask}
    (done : runCpuTask platform state caller cpu task = some (after, result)) :
    after.counters = state.counters := by
  rw [runCpuTask_eq (answers_of_runCpuTask done), Option.map_eq_some_iff] at done
  obtain ⟨handled, ran, same⟩ := done
  obtain ⟨rfl, -⟩ := Prod.mk.inj same
  exact (handleTask_counters ran).trans rfl

theorem resumeThread_counters (done : resumeThread platform state caller id = some (after, err)) :
    after.counters = state.counters := by
  simp only [resumeThread] at done
  split at done
  · obtain ⟨rfl, -⟩ := Prod.mk.inj (Option.some.inj done)
    rfl
  · rename_i thread _
    split at done
    · obtain ⟨cpu, -, done⟩ := Option.bind_eq_some_iff.mp done
      obtain ⟨⟨final, task⟩, ran, done⟩ := Option.bind_eq_some_iff.mp done
      obtain ⟨rfl, -⟩ := Prod.mk.inj (Option.some.inj done)
      exact (runCpuTask_counters ran).trans (OnlyLists.unlinkInactive state thread).counters
    · obtain ⟨rfl, -⟩ := Prod.mk.inj (Option.some.inj done)
      rfl

theorem parkThread_counters (state : State) (thread : Address) (stop : Bool) (output : BitVec 64) :
    (parkThread state thread stop output).counters = state.counters := by
  have linked := (OnlyLists.linkInactive (state.setThread thread
    ({ · with prev := none, state := if stop then .stopped else .paused })) thread).counters
  cases stop with
  | true => exact linked
  | false => exact linked

theorem deactivateRunning_counters {halted : Bool}
    (done : deactivateRunning platform state caller stop thread output lockToRelease =
      some (after, err, halted)) : after.counters = state.counters := by
  obtain ⟨⟨ran, task⟩, asked, done⟩ := Option.bind_eq_some_iff.mp done
  rw [← runCpuTask_counters asked]
  simp only at done
  split at done
  · obtain ⟨rfl, -⟩ := Prod.mk.inj (Option.some.inj done)
    rfl
  · rw [← parkThread_counters ran thread stop output]
    split at done
    · obtain ⟨final, handled, done⟩ := Option.bind_eq_some_iff.mp done
      obtain ⟨rfl, -⟩ := Prod.mk.inj (Option.some.inj done)
      exact handleTask_counters handled
    · obtain ⟨rfl, -⟩ := Prod.mk.inj (Option.some.inj done)
      rfl

theorem deactivateOnce_counters {before : ErrCode}
    (done : deactivateOnce platform caller stop thread output lockToRelease state before =
      some (after, err)) : after.counters = state.counters := by
  simp only [deactivateOnce] at done
  split at done
  · obtain ⟨⟨final, error, halted⟩, ran, done⟩ := Option.bind_eq_some_iff.mp done
    obtain ⟨rfl, -⟩ := Prod.mk.inj (Option.some.inj done)
    exact deactivateRunning_counters ran
  · split at done
    · obtain ⟨rfl, -⟩ := Prod.mk.inj (Option.some.inj done)
      rfl
    · obtain ⟨rfl, -⟩ := Prod.mk.inj (Option.some.inj done)
      rfl
  · obtain ⟨rfl, -⟩ := Prod.mk.inj (Option.some.inj done)
    rfl
  · obtain ⟨rfl, -⟩ := Prod.mk.inj (Option.some.inj done)
    rfl

theorem deactivateLoop_counters {before : ErrCode} {tries : Nat}
    (done : deactivateLoop platform caller stop thread output lockToRelease tries state before =
      some (after, err)) : after.counters = state.counters := by
  induction tries generalizing state before with
  | zero =>
      obtain ⟨rfl, -⟩ := Prod.mk.inj (Option.some.inj done)
      rfl
  | succ tries inductionHypothesis =>
      obtain ⟨⟨middle, error⟩, ran, done⟩ := Option.bind_eq_some_iff.mp done
      rw [← deactivateOnce_counters ran]
      simp only at done
      split at done
      · obtain ⟨rfl, -⟩ := Prod.mk.inj (Option.some.inj done)
        rfl
      · exact inductionHypothesis done

theorem deactivateThread_counters
    (done : deactivateThread platform state caller stop id output lockToRelease =
      some (after, err)) : after.counters = state.counters := by
  simp only [deactivateThread] at done
  split at done
  · obtain ⟨rfl, -⟩ := Prod.mk.inj (Option.some.inj done)
    rfl
  · obtain ⟨⟨final, error⟩, looped, done⟩ := Option.bind_eq_some_iff.mp done
    obtain ⟨rfl, -⟩ := Prod.mk.inj (Option.some.inj done)
    exact deactivateLoop_counters looped

theorem schedule_counters (done : schedule state cpu = some after) :
    after.counters = state.counters := by
  simp only [schedule] at done
  split at done
  · obtain rfl := Option.some.inj done
    rfl
  · obtain ⟨thread, -, done⟩ := Option.bind_eq_some_iff.mp done
    split at done
    · obtain rfl := Option.some.inj done
      rfl
    · obtain ⟨stack, -, done⟩ := Option.bind_eq_some_iff.mp done
      split at done
      · obtain rfl := Option.some.inj done
        rfl
      · obtain ⟨highest, -, done⟩ := Option.bind_eq_some_iff.mp done
        split at done
        · obtain rfl := Option.some.inj done
          rfl
        · obtain ⟨thread2, -, done⟩ := Option.bind_eq_some_iff.mp done
          have rotated := (OnlyLists.rotate (state.setThread thread
            fun data => { data with runTime := data.runTime + 1 }) cpu thread).counters
          split at done
          · obtain rfl := Option.some.inj done
            exact rotated
          · obtain rfl := Option.some.inj done
            exact rotated

theorem handleTimer_machines (platform : Platform) (state : State) (cpu : Nat) :
    (handleTimer platform state cpu).machines = state.machines := by
  simp only [handleTimer]
  split
  · split
    · rfl
    · rfl
  · split
    · rfl
    · rfl

theorem handleTimer_counters (platform : Platform) (state : State) (cpu : Nat) :
    (handleTimer platform state cpu).counters = state.counters.tick platform cpu := by
  simp only [handleTimer, Counters.tick, State.counters]
  split
  · split
    · rfl
    · rfl
  · split
    · rfl
    · rfl

/-- The timer interrupt counts the tick unless it finds a stack overrun. -/
theorem timerInterrupt_counters (done : timerInterrupt platform state cpu = some after) :
    after.counters =
      if (after.machines cpu).panicked then state.counters
      else state.counters.tick platform cpu := by
  obtain ⟨middle, scheduled, done⟩ := Option.bind_eq_some_iff.mp done
  rw [← schedule_counters scheduled]
  split at done
  · rename_i panicked
    obtain rfl := Option.some.inj done
    rw [if_pos panicked]
  · rename_i alive
    obtain rfl := Option.some.inj done
    rw [if_neg (by rwa [handleTimer_machines]), handleTimer_counters]

theorem detachThread_counters (state : State) (id : BitVec 64) :
    (detachThread state id).1.counters = state.counters := by
  simp only [detachThread]
  split
  · rfl
  · rename_i thread _
    split
    · exact (OnlyLists.unlinkAll (unlinkInactive state thread) thread).counters.trans
        (OnlyLists.unlinkInactive state thread).counters
    · rfl

theorem setThreadContext_counters (state : State) (thread : Address) (proc input : BitVec 64) :
    (setThreadContext platform state thread proc input).1.counters = state.counters := by
  simp only [setThreadContext]
  split
  · rfl
  · split <;> rfl

theorem attachThread_counters (accepted : checkAttach platform state thread = .errNone) :
    (attachThread platform state thread).1.counters =
      { state.counters with stamp := (state.stamp + 1) % 2 ^ stampIdStampBits } := by
  have linked :=
    (OnlyLists.linkInactive (linkAll (initAttached state thread) thread) thread).counters
  have listed : (linkAll (initAttached state thread) thread).counters =
      (initAttached state thread).counters := by
    simp only [linkAll]
    exact (OnlyLists.setAllPrevOf (OnlyLists.refl _) _ _).counters
  simp only [attachThread, accepted]
  rw [linked, listed]
  rfl

theorem attachThread_stamp (accepted : checkAttach platform state thread = .errNone) :
    (attachThread platform state thread).1.stamp = (state.stamp + 1) % 2 ^ stampIdStampBits :=
  congrArg Counters.stamp (attachThread_counters accepted)

/-- The actions that leave the counters alone. -/
def Action.countsNothing : Action → Bool
  | .attach _ _ => false
  | .setTimerTicks _ _ => false
  | .timer _ => false
  | _ => true

/-! ## The steps -/

namespace World

variable {world next : World} {action : Action}

theorem step_attach
    (taken : world.step platform (.attach cpu thread) = some next) :
    next.state = (attachThread platform world.state thread).1 ∧
      next.attached =
        if (attachThread platform world.state thread).2.1 = .errNone then
          Function.update world.attached thread true
        else world.attached := by
  obtain ⟨⟨state, attached⟩, done, taken⟩ := Option.bind_eq_some_iff.mp taken
  obtain rfl := Option.some.inj taken
  obtain ⟨-, done⟩ := Option.ite_none_right_eq_some.mp done
  obtain ⟨rfl, rfl⟩ := Prod.mk.inj (Option.some.inj done)
  exact ⟨rfl, rfl⟩

theorem step_setTimerTicks {ticks : BitVec 64}
    (taken : world.step platform (.setTimerTicks cpu ticks) = some next) :
    world.Runs platform cpu ∧ next.attached = world.attached ∧
      next.state = { world.state with
        timerTicks := Function.update world.state.timerTicks cpu ticks } := by
  obtain ⟨⟨state, attached⟩, done, taken⟩ := Option.bind_eq_some_iff.mp taken
  obtain rfl := Option.some.inj taken
  obtain ⟨runs, done⟩ := Option.ite_none_right_eq_some.mp done
  obtain ⟨rfl, rfl⟩ := Prod.mk.inj (Option.some.inj done)
  exact ⟨runs, rfl, rfl⟩

theorem exists_step {result : State × (Address → Bool)}
    (performed : world.perform platform action = some result) :
    ∃ next, world.step platform action = some next := by
  refine ⟨⟨result.1, result.2, world.capture platform action result.1⟩, ?_⟩
  rw [World.step, performed]
  rfl

theorem exists_step_setTimerTicks (runs : world.Runs platform cpu) (ticks : BitVec 64) :
    ∃ next, world.step platform (.setTimerTicks cpu ticks) = some next :=
  exists_step (if_pos runs)

theorem step_detach (taken : world.step platform (.detach cpu id) = some next) :
    world.Runs platform cpu ∧ next.state = (detachThread world.state id).1 ∧
      next.attached =
        match (detachThread world.state id).2.2 with
        | some thread => Function.update world.attached thread false
        | none => world.attached := by
  obtain ⟨⟨state, attached⟩, done, taken⟩ := Option.bind_eq_some_iff.mp taken
  obtain rfl := Option.some.inj taken
  obtain ⟨runs, done⟩ := Option.ite_none_right_eq_some.mp done
  obtain ⟨rfl, rfl⟩ := Prod.mk.inj (Option.some.inj done)
  exact ⟨runs, rfl, rfl⟩

theorem step_resume (taken : world.step platform (.resume cpu id) = some next) :
    world.Runs platform cpu ∧ next.attached = world.attached ∧
      ∃ err, resumeThread platform world.state cpu id = some (next.state, err) := by
  obtain ⟨⟨state, attached⟩, done, taken⟩ := Option.bind_eq_some_iff.mp taken
  obtain rfl := Option.some.inj taken
  obtain ⟨runs, done⟩ := Option.ite_none_right_eq_some.mp done
  obtain ⟨⟨after, err⟩, resumed, done⟩ := Option.bind_eq_some_iff.mp done
  obtain ⟨rfl, rfl⟩ := Prod.mk.inj (Option.some.inj done)
  exact ⟨runs, rfl, err, resumed⟩

/-- The three calls that go to `deactivate_thread`. -/
theorem step_deactivate {stop : Bool} {lockToRelease : Option Address}
    (calls : world.perform platform action =
      if world.Runs platform caller then do
        let (state, _) ← deactivateThread platform world.state caller stop id output lockToRelease
        some (state, world.attached)
      else
        none)
    (taken : world.step platform action = some next) :
    world.Runs platform caller ∧ next.attached = world.attached ∧
      ∃ err, deactivateThread platform world.state caller stop id output lockToRelease =
        some (next.state, err) := by
  obtain ⟨⟨state, attached⟩, done, taken⟩ := Option.bind_eq_some_iff.mp taken
  obtain rfl := Option.some.inj taken
  rw [calls] at done
  obtain ⟨runs, done⟩ := Option.ite_none_right_eq_some.mp done
  obtain ⟨⟨after, err⟩, deactivated, done⟩ := Option.bind_eq_some_iff.mp done
  obtain ⟨rfl, rfl⟩ := Prod.mk.inj (Option.some.inj done)
  exact ⟨runs, rfl, err, deactivated⟩

theorem step_timer (taken : world.step platform (.timer cpu) = some next) :
    world.Runs platform cpu ∧ next.attached = world.attached ∧
      timerInterrupt platform world.state cpu = some next.state := by
  obtain ⟨⟨state, attached⟩, done, taken⟩ := Option.bind_eq_some_iff.mp taken
  obtain rfl := Option.some.inj taken
  obtain ⟨runs, done⟩ := Option.ite_none_right_eq_some.mp done
  obtain ⟨after, ticked, done⟩ := Option.bind_eq_some_iff.mp done
  obtain ⟨rfl, rfl⟩ := Prod.mk.inj (Option.some.inj done)
  exact ⟨runs, rfl, ticked⟩

/-- Most steps leave the counters alone. -/
theorem step_counters (taken : world.step platform action = some next)
    (countsNothing : action.countsNothing = true) :
    next.state.counters = world.state.counters := by
  cases action with
  | attach cpu thread => cases countsNothing
  | setTimerTicks cpu ticks => cases countsNothing
  | timer cpu => cases countsNothing
  | store address word =>
      obtain rfl := Option.some.inj taken
      rfl
  | prepare thread data =>
      obtain ⟨⟨state, attached⟩, done, taken⟩ := Option.bind_eq_some_iff.mp taken
      obtain rfl := Option.some.inj taken
      obtain ⟨-, done⟩ := Option.ite_none_right_eq_some.mp done
      obtain ⟨rfl, -⟩ := Prod.mk.inj (Option.some.inj done)
      rfl
  | setContext thread proc input =>
      obtain ⟨⟨state, attached⟩, done, taken⟩ := Option.bind_eq_some_iff.mp taken
      obtain rfl := Option.some.inj taken
      obtain ⟨-, done⟩ := Option.ite_none_right_eq_some.mp done
      obtain ⟨rfl, -⟩ := Prod.mk.inj (Option.some.inj done)
      exact setThreadContext_counters _ _ _ _
  | execute cpu frame =>
      obtain ⟨⟨state, attached⟩, done, taken⟩ := Option.bind_eq_some_iff.mp taken
      obtain rfl := Option.some.inj taken
      obtain ⟨-, done⟩ := Option.ite_none_right_eq_some.mp done
      obtain ⟨rfl, -⟩ := Prod.mk.inj (Option.some.inj done)
      rfl
  | detach cpu id =>
      obtain ⟨-, after, -⟩ := step_detach taken
      rw [after, detachThread_counters]
  | resume cpu id =>
      obtain ⟨-, -, err, resumed⟩ := step_resume taken
      exact resumeThread_counters resumed
  | pause cpu id =>
      obtain ⟨-, -, err, paused⟩ := step_deactivate rfl taken
      exact deactivateThread_counters paused
  | stop cpu id output =>
      obtain ⟨-, -, err, stopped⟩ := step_deactivate rfl taken
      exact deactivateThread_counters stopped
  | pauseThis cpu lockToRelease =>
      obtain ⟨-, -, err, paused⟩ := step_deactivate rfl taken
      exact deactivateThread_counters paused

/-- Only `attach_thread` moves the global stamp. -/
theorem step_stamp (taken : world.step platform action = some next)
    (notAttach : ∀ cpu thread, action ≠ .attach cpu thread) :
    next.state.stamp = world.state.stamp := by
  cases action with
  | attach cpu thread => exact absurd rfl (notAttach cpu thread)
  | setTimerTicks cpu ticks =>
      obtain ⟨-, -, after⟩ := step_setTimerTicks taken
      rw [after]
  | timer cpu =>
      obtain ⟨-, -, ticked⟩ := step_timer taken
      have counted := congrArg Counters.stamp (timerInterrupt_counters ticked)
      split at counted
      · exact counted
      · exact counted
  | _ => exact congrArg Counters.stamp (step_counters taken rfl)

/-- Only timer interrupts and `set_timer_ticks` change the timers. -/
theorem step_timerTicks (taken : world.step platform action = some next)
    (notSet : ∀ cpu ticks, action ≠ .setTimerTicks cpu ticks)
    (notTimer : ∀ cpu, action ≠ .timer cpu) :
    next.state.timerTicks = world.state.timerTicks := by
  cases action with
  | setTimerTicks cpu ticks => exact absurd rfl (notSet cpu ticks)
  | timer cpu => exact absurd rfl (notTimer cpu)
  | attach cpu thread =>
      obtain ⟨sameState, -⟩ := step_attach taken
      rw [sameState]
      by_cases accepted : checkAttach platform world.state thread = .errNone
      · exact congrArg Counters.timerTicks (attachThread_counters accepted)
      · rw [attachThread_refused accepted]
  | _ => exact congrArg Counters.timerTicks (step_counters taken rfl)

end World

end Scheduler
end ToyKernel
