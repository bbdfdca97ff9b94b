import ToyKernel.Scheduler.StaleIds
import ToyKernel.Scheduler.Contexts

/-!
# Run times

A timer interrupt counts one tick to the thread whose code it interrupts, and nothing else
changes the run time of an attached thread: pausing, resuming on another CPU and stopping keep
it, and `attach_thread` starts it at zero.
-/

namespace ToyKernel
namespace Scheduler

/-- The thread that a timer interrupt on this CPU counts a tick to: the one whose code it
interrupts, if the stack of the thread is intact. -/
def State.charged (state : State) (cpu : Nat) : Option Address :=
  (state.machines cpu).executing.filter fun thread =>
    (state.threads thread).stack.any fun stack => state.memory stack = stackOverrunMagic

/-- The scheduler with the number of ticks that each thread was given since it was last
attached. -/
structure Ledger where
  world : World
  ticks : Address → Nat

/-- What a step does to the numbers of ticks. -/
def World.countTicks (platform : Platform) (world : World) (ticks : Address → Nat) :
    Action → Address → Nat
  | .attach _ thread =>
      if checkAttach platform world.state thread = .errNone then
        Function.update ticks thread 0
      else
        ticks
  | .timer cpu =>
      match world.state.charged cpu with
      | some thread => Function.update ticks thread (ticks thread + 1)
      | none => ticks
  | _ => ticks

/-- The run time of each attached thread is the number of ticks it was given. -/
def Ledger.Exact (ledger : Ledger) : Prop :=
  ∀ thread, ledger.world.attached thread = true →
    (ledger.world.state.threads thread).runTime = BitVec.ofNat 64 (ledger.ticks thread)

section Timer

variable {platform : Platform} {state after : State} {attached : Address → Bool}
  {summary : Summary} {cpu : Nat}

theorem Refines.runTime (refines : Refines state summary) (thread : Address) :
    (state.threads thread).runTime = (summary.threads thread).runTime := by
  rw [← ThreadData.core_runTime, refines.thread]

/-- A CPU that executes a thread with an intact stack counts a tick to it. -/
theorem schedule_charged {thread : Address} {stack : Address} (refines : Refines state summary)
    (invariant : Invariant platform attached summary)
    (executing : (summary.machines cpu).executing = some thread)
    (hasStack : (summary.threads thread).stack = some stack)
    (intact : state.memory stack = stackOverrunMagic)
    (done : schedule state cpu = some after) (other : Address) :
    (after.threads other).runTime =
      (state.threads other).runTime + if other = thread then 1 else 0 := by
  obtain ⟨first, busy, loaded⟩ := invariant.of_executing executing
  obtain ⟨isAttached, running, -, realPriority⟩ := invariant.of_first refines.lists first
  obtain ⟨rest, active⟩ := List.head?_eq_some_iff.mp first
  obtain ⟨highest, found⟩ := refines.lists.exists_findMaskBsf
    ⟨(summary.cpus cpu).currentPriority, by rw [active]; simp⟩
  by_cases remains : (summary.cpus cpu).currentPriority ≤ highest ∧
      (state.threads thread).quantum ≠ 0
  · obtain ⟨ticked, done', refinesAfter⟩ :=
      refines.schedule_kept busy first hasStack loaded intact found remains
    obtain rfl := Option.some.inj (done.symm.trans done')
    rw [refinesAfter.runTime, refines.runTime, Summary.tick, Summary.setThread_threads]
    split
    · rename_i same
      rw [same]
    · rw [add_zero]
  · have samePriority : (summary.threads thread).priority =
        (summary.cpus cpu).currentPriority :=
      ((invariant.threads thread).running isAttached running).1.symm.trans realPriority
    obtain ⟨switched, thread2, done', -, refinesAfter⟩ :=
      refines.schedule_switched busy first hasStack loaded intact found remains samePriority
        (realPriority ▸ invariant.realPriority_lt isAttached running)
    obtain rfl := Option.some.inj (done.symm.trans done')
    rw [refinesAfter.runTime, refines.runTime, Summary.switch_threads, Summary.rotate]
    simp only [Summary.setCpu_threads, Summary.setThread_threads, Summary.setView_threads]
    split
    · rename_i same
      rw [same]
    · rw [add_zero]

/-- A CPU that executes no thread counts no tick. -/
theorem schedule_idle (refines : Refines state summary)
    (invariant : Invariant platform attached summary)
    (executing : (summary.machines cpu).executing = none)
    (done : schedule state cpu = some after) (other : Address) :
    (after.threads other).runTime = (state.threads other).runTime := by
  obtain ⟨scheduled, summary', done', refinesAfter, ticked⟩ :=
    schedule_ticked refines invariant cpu
  obtain rfl := Option.some.inj (done.symm.trans done')
  rw [refinesAfter.runTime, refines.runTime]
  cases ticked with
  | idle => rfl
  | busy current scheduled busy first ended =>
      have unloaded : (summary.cpus cpu).loadContext ≠ false := by
        intro loaded
        have executes := invariant.executing_of_first refines.lists first loaded
        rw [executing] at executes
        cases executes
      cases ended with
      | load => rfl
      | panic loaded => exact absurd loaded unloaded
      | tick loaded => exact absurd loaded unloaded
      | switch thread2 highest loaded => exact absurd loaded unloaded

/-- What the timer interrupt does to the run times. -/
theorem schedule_runTime (refines : Refines state summary)
    (invariant : Invariant platform attached summary)
    (done : schedule state cpu = some after) (other : Address) :
    (after.threads other).runTime =
      (state.threads other).runTime + if state.charged cpu = some other then 1 else 0 := by
  cases executing : (summary.machines cpu).executing with
  | none =>
      have uncharged : state.charged cpu = none := by
        rw [State.charged, refines.machine, executing, Option.filter_none]
      rw [schedule_idle refines invariant executing done, uncharged, if_neg (by simp),
        add_zero]
  | some thread =>
      obtain ⟨first, busy, loaded⟩ := invariant.of_executing executing
      obtain ⟨isAttached, -⟩ := invariant.of_first refines.lists first
      obtain ⟨stack, hasStack⟩ :=
        Option.ne_none_iff_exists'.mp ((invariant.threads thread).stack isAttached)
      have charged : state.charged cpu =
          if state.memory stack = stackOverrunMagic then some thread else none := by
        have threadStack : (state.threads thread).stack = some stack := by
          rw [← ThreadData.core_stack, refines.thread, hasStack]
        simp [State.charged, refines.machine, executing, threadStack, Option.filter]
      rw [charged]
      by_cases intact : state.memory stack = stackOverrunMagic
      · rw [schedule_charged refines invariant executing hasStack intact done, if_pos intact]
        simp only [Option.some.injEq, eq_comm]
      · obtain ⟨panicked, done', refinesAfter⟩ :=
          refines.schedule_panicked busy first hasStack loaded intact
        obtain rfl := Option.some.inj (done.symm.trans done')
        rw [refinesAfter.runTime, refines.runTime, if_neg intact, if_neg (by simp),
          add_zero]
        rfl

theorem timerInterrupt_runTime (refines : Refines state summary)
    (invariant : Invariant platform attached summary)
    (done : timerInterrupt platform state cpu = some after) (other : Address) :
    (after.threads other).runTime =
      (state.threads other).runTime + if state.charged cpu = some other then 1 else 0 := by
  obtain ⟨middle, scheduled, done⟩ := Option.bind_eq_some_iff.mp done
  have handled : after.threads = middle.threads := by
    split at done
    · rw [← Option.some.inj done]
    · rw [← Option.some.inj done, handleTimer]
      split <;> split <;> rfl
  rw [handled]
  exact schedule_runTime refines invariant scheduled other

end Timer

section Steps

variable {platform : Platform} {state : State} {attached attached' : Address → Bool}
  {summary summary' : Summary} {action : Action} {thread : Address}

namespace Summary

/-- Fields other than the run time. -/
theorem runTime_setThread {data : ThreadData} (target : Address)
    (same : data.runTime = (summary.threads target).runTime) :
    ((summary.setThread target data).threads thread).runTime =
      (summary.threads thread).runTime := by
  rw [setThread_threads]
  split
  · rename_i isTarget
    rw [isTarget, same]
  · rfl

theorem runTime_resume (target : Address) (cpu : Nat) :
    ((summary.resume target cpu).threads thread).runTime =
      (summary.threads thread).runTime := by
  have unparked : ∀ other, ((summary.unpark target).threads other).runTime =
      (summary.threads other).runTime := fun other => runTime_setThread target rfl
  have enrolled : (((summary.unpark target).enroll target cpu).threads thread).runTime =
      ((summary.unpark target).threads thread).runTime := runTime_setThread target rfl
  exact enrolled.trans (unparked thread)

theorem runTime_deactivate {selfHalt stop : Bool} {output : BitVec 64} {highest : Nat}
    (target : Address) :
    ((summary.deactivate platform target selfHalt stop output highest).threads
      thread).runTime = (summary.threads thread).runTime := by
  have parked : ∀ other, (((summary.dismiss target highest).park target stop output).threads
      other).runTime = (summary.threads other).runTime :=
    fun other => runTime_setThread target rfl
  rw [deactivate]
  split
  · exact Eq.trans (runTime_setThread target rfl) (parked thread)
  · exact parked thread

end Summary

/-- Only `attach_thread`, which is not called for an attached thread, and the timer interrupt
change the run time of an attached thread. -/
theorem Moves.runTime
    (moves : Moves platform state attached summary action attached' summary')
    (isAttached : attached thread = true) (notTimer : ∀ cpu, action ≠ .timer cpu) :
    (summary'.threads thread).runTime = (summary.threads thread).runTime := by
  have attachedOnly : ∀ other, attached other = false → thread ≠ other := by
    rintro other unattached rfl
    exact absurd (unattached.symm.trans isAttached) Bool.false_ne_true
  cases moves with
  | stay => rfl
  | prepare unattached =>
      rw [Summary.setThread_threads, if_neg (attachedOnly _ unattached)]
  | setContext context unattached => exact Summary.runTime_setThread _ rfl
  | execute => rfl
  | attach stamp unattached =>
      rw [Summary.attach, Summary.setThread_threads, if_neg (attachedOnly _ unattached)]
      rfl
  | detach target => exact Summary.runTime_setThread target rfl
  | resume target cpu => exact Summary.runTime_resume target cpu
  | deactivate target => exact Summary.runTime_deactivate target
  | stop target => exact Summary.runTime_setThread target rfl
  | schedule => exact absurd rfl (notTimer _)

/-- A step other than a timer interrupt keeps the run time of a thread that stays attached. -/
theorem World.step_runTime {world next : World}
    (refines : Refines world.state summary) (invariant : Invariant platform world.attached summary)
    (taken : world.step platform action = some next) {thread : Address}
    (isAttached : world.attached thread = true) (notTimer : ∀ cpu, action ≠ .timer cpu) :
    (next.state.threads thread).runTime = (world.state.threads thread).runTime := by
  obtain ⟨-, summary', refinesNext, moves⟩ := step_moves refines invariant taken
  rw [refinesNext.runTime, moves.runTime isAttached notTimer, ← refines.runTime]

/-- `attach_thread` opens an account for a thread that it accepts. -/
theorem Ledger.Exact.attach {ledger : Ledger} {next : World} {cpu : Nat} {target : Address}
    (exact : ledger.Exact) (refines : Refines ledger.world.state summary)
    (invariant : Invariant platform ledger.world.attached summary)
    (taken : ledger.world.step platform (.attach cpu target) = some next) :
    Ledger.Exact ⟨next, ledger.world.countTicks platform ledger.ticks (.attach cpu target)⟩ := by
  intro thread isAttached
  have others (wasAttached : ledger.world.attached thread = true) :
      (next.state.threads thread).runTime = BitVec.ofNat 64 (ledger.ticks thread) :=
    (World.step_runTime refines invariant taken wasAttached (by simp)).trans
      (exact thread wasAttached)
  obtain ⟨sameState, sameAttached⟩ := World.step_attach taken
  by_cases accepted : checkAttach platform ledger.world.state target = .errNone
  · obtain ⟨succeeded, -, refinesAfter⟩ := attachThread_accepted refines invariant accepted
    rw [if_pos succeeded] at sameAttached
    simp only [World.countTicks, if_pos accepted]
    by_cases isTarget : thread = target
    · subst isTarget
      rw [sameState, refinesAfter.runTime, Summary.attach, Summary.setThread_threads,
        if_pos rfl, Function.update_self]
      rfl
    · rw [Function.update_of_ne isTarget]
      refine others ?_
      simpa [sameAttached, isTarget] using isAttached
  · rw [attachThread_refused accepted] at sameState sameAttached
    simp only [World.countTicks, if_neg accepted]
    refine others ?_
    simpa [sameAttached, accepted] using isAttached

/-- A timer interrupt counts one tick, and enters it in the ledger. -/
theorem Ledger.Exact.timer {ledger : Ledger} {next : World} {cpu : Nat} (exact : ledger.Exact)
    (refines : Refines ledger.world.state summary)
    (invariant : Invariant platform ledger.world.attached summary)
    (taken : ledger.world.step platform (.timer cpu) = some next) :
    Ledger.Exact ⟨next, ledger.world.countTicks platform ledger.ticks (.timer cpu)⟩ := by
  intro thread isAttached
  obtain ⟨-, sameAttached, ticked⟩ := World.step_timer taken
  have before := exact thread (sameAttached ▸ isAttached)
  have counted := timerInterrupt_runTime refines invariant ticked thread
  rw [before] at counted
  simp only [counted, World.countTicks]
  cases ledger.world.state.charged cpu with
  | none => simp
  | some charged =>
      by_cases same : charged = thread
      · subst same
        simp [BitVec.ofNat_add]
      · simp [same, Ne.symm same]

/-- One step keeps the ledger exact. -/
theorem Ledger.Exact.step {ledger : Ledger} {next : World} (exact : ledger.Exact)
    (refines : Refines ledger.world.state summary)
    (invariant : Invariant platform ledger.world.attached summary)
    (taken : ledger.world.step platform action = some next) :
    Ledger.Exact ⟨next, ledger.world.countTicks platform ledger.ticks action⟩ := by
  cases action with
  | attach cpu target => exact exact.attach refines invariant taken
  | timer cpu => exact exact.timer refines invariant taken
  | _ =>
      intro thread isAttached
      rcases World.attachment_cases refines invariant taken with
        ⟨cpu, target, isAttach, -⟩ | ⟨-, -, wasAttached⟩
      · cases isAttach
      · have kept := World.step_runTime refines invariant taken
          (wasAttached thread isAttached) (by simp)
        exact kept.trans (exact thread (wasAttached thread isAttached))

end Steps

end Scheduler
end ToyKernel
