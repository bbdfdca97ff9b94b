import ToyKernel.Scheduler.QueueOrder

/-!
# Quanta

A step changes the threads of at most one CPU: the one that it sends a task to, or
the one whose timer it is.  Only the current thread of a CPU has ever used up some
of its quantum: a thread is queued with a full quantum, and gets a full one when it
goes to the end of its queue.
-/

namespace ToyKernel
namespace Scheduler

/-- The CPU that a call sends a task to. -/
def Action.taskCpu (platform : Platform) (state : State) : Action → Option Nat
  | .resume _ id =>
      match withStampId state id with
      | .ok thread =>
          if (state.threads thread).state = .paused then
            let state := unparkThread state thread
            findLeastLoadedCpu platform state (state.threads thread).affinity
          else
            none
      | .error _ => none
  | action =>
      match action.target state with
      | .ok thread =>
          if (state.threads thread).state = .running then
            some (state.threads thread).cpu
          else
            none
      | .error _ => none

/-- The threads of a CPU stay as they are. -/
structure Summary.Keeps (before after : Summary) (cpu : Nat) : Prop where
  queue : after.view.queue cpu = before.view.queue cpu
  control : after.cpus cpu = before.cpus cpu
  quantum : ∀ priority, ∀ thread ∈ before.view.fifo cpu priority,
    (after.threads thread).quantum = (before.threads thread).quantum
  runTime : ∀ priority, ∀ thread ∈ before.view.fifo cpu priority,
    (after.threads thread).runTime = (before.threads thread).runTime
  stack : ∀ priority, ∀ thread ∈ before.view.fifo cpu priority,
    (after.threads thread).stack = (before.threads thread).stack

/-- What a step does to one CPU. -/
inductive Summary.Affects (platform : Platform) (state : State) (before : Summary) (cpu : Nat) :
    Action → Summary → Prop
  | keeps {action : Action} {after : Summary} :
      before.Keeps after cpu → Affects platform state before cpu action after
  | resume {action : Action} (thread : Address) :
      action.taskCpu platform state = some cpu →
      (before.threads thread).state = .paused →
      Affects platform state before cpu action (before.resume thread cpu)
  | deactivate {action : Action} (thread : Address) (selfHalt stop : Bool)
      (output : BitVec 64) (highest : Nat) :
      action.taskCpu platform state = some cpu →
      (before.threads thread).cpu = cpu →
      (before.threads thread).state = .running →
      Affects platform state before cpu action
        (before.deactivate platform thread selfHalt stop output highest)
  | timer {after : Summary} (thread : Address) :
      before.first cpu = some thread →
      before.Scheduled cpu thread after →
      Affects platform state before cpu (.timer cpu) after

section Affects

variable {platform : Platform} {state after : State} {attached : Address → Bool}
  {summary : Summary} {thread : Address} {cpu : Nat} {action : Action}

theorem Summary.Keeps.refl : summary.Keeps summary cpu := by
  constructor <;> intros <;> rfl

/-- Only a thread that is not queued on the CPU changes. -/
theorem Summary.Keeps.of_others {changed : Summary}
    (absent : ∀ priority, thread ∉ summary.view.fifo cpu priority)
    (queue : changed.view.queue cpu = summary.view.queue cpu)
    (control : changed.cpus cpu = summary.cpus cpu)
    (others : ∀ other, other ≠ thread → changed.threads other = summary.threads other) :
    summary.Keeps changed cpu := by
  have same : ∀ priority, ∀ other ∈ summary.view.fifo cpu priority,
      changed.threads other = summary.threads other := by
    intro priority other queued
    exact others other fun equal => absent priority (equal ▸ queued)
  exact
    { queue := queue
      control := control
      quantum := fun priority other queued => by rw [same priority other queued]
      runTime := fun priority other queued => by rw [same priority other queued]
      stack := fun priority other queued => by rw [same priority other queued] }

/-- Only attached threads that run on the CPU are queued there. -/
theorem absent_of (refines : Refines state summary)
    (invariant : Invariant platform attached summary) (thread : Address) (cpu : Nat)
    (elsewhere : attached thread = true → (summary.threads thread).state = .running →
      (summary.threads thread).cpu ≠ cpu) (priority : Nat) :
    thread ∉ summary.view.fifo cpu priority := by
  intro queued
  obtain ⟨isAttached, running, onCpu, -⟩ := invariant.of_queued refines.lists queued
  exact elsewhere isAttached running onCpu

/-- The calls that pause or stop a running thread send a task to its CPU. -/
theorem Action.taskCpu_of_target (notResume : ∀ caller id, action ≠ .resume caller id)
    (target : action.target state = .ok thread)
    (running : (state.threads thread).state = .running) :
    action.taskCpu platform state = some (state.threads thread).cpu := by
  cases action with
  | resume caller id => exact absurd rfl (notResume caller id)
  | _ => simp only [taskCpu, target, running, if_true]

theorem Summary.keeps_deactivate {selfHalt stop : Bool} {output : BitVec 64} {highest : Nat}
    (absent : ∀ priority, thread ∉ summary.view.fifo cpu priority)
    (elsewhere : (summary.threads thread).cpu ≠ cpu) :
    summary.Keeps (summary.deactivate platform thread selfHalt stop output highest) cpu := by
  have otherCpu : cpu ≠ (summary.threads thread).cpu := Ne.symm elsewhere
  simp only [Summary.deactivate]
  split
  · apply Keeps.of_others absent
    · simp [Summary.dismiss, Summary.park, Summary.save, View.dequeue, View.setQueue,
        View.enterInactive, View.setPlace, otherCpu]
    · simp [Summary.dismiss, Summary.park, Summary.save, otherCpu]
    · intro other different
      simp [Summary.dismiss, Summary.park, Summary.save, different]
  · apply Keeps.of_others absent
    · simp [Summary.dismiss, Summary.park, View.dequeue, View.setQueue, View.enterInactive,
        View.setPlace, otherCpu]
    · simp [Summary.dismiss, Summary.park, otherCpu]
    · intro other different
      simp [Summary.dismiss, Summary.park, different]

theorem Summary.keeps_scheduled {otherCpu : Nat} {scheduled : Summary}
    (absent : ∀ priority, thread ∉ summary.view.fifo cpu priority)
    (different : cpu ≠ otherCpu) (ended : summary.Scheduled otherCpu thread scheduled) :
    summary.Keeps scheduled cpu := by
  cases ended with
  | load pending => exact .of_others absent rfl (by simp [Summary.load, different]) fun _ _ => rfl
  | panic => exact .of_others absent rfl rfl fun _ _ => rfl
  | tick =>
      exact .of_others absent rfl rfl fun other distinct => by simp [Summary.tick, distinct]
  | switch thread2 highest =>
      simp only [Summary.switch]
      split
      all_goals
        apply Keeps.of_others absent
        · simp [Summary.rotate, View.rotate, View.setQueue, different]
        · simp [Summary.rotate, different]
        · intro other distinct
          simp [Summary.rotate, distinct]

theorem Summary.keeps_resume {otherCpu : Nat}
    (absent : ∀ priority, thread ∉ summary.view.fifo cpu priority)
    (different : cpu ≠ otherCpu) : summary.Keeps (summary.resume thread otherCpu) cpu := by
  apply Keeps.of_others absent
  · simp [Summary.resume, Summary.unpark, Summary.enroll, View.enqueue, View.setQueue,
      View.leaveInactive, View.setPlace, different]
  · simp [Summary.resume, Summary.unpark, Summary.enroll, different]
  · intro other distinct
    simp [Summary.resume, Summary.unpark, Summary.enroll, distinct]

/-- What a step other than `resume_thread` does to one CPU. -/
theorem Moves.affects {attached' : Address → Bool} {summary' : Summary}
    (refines : Refines state summary) (invariant : Invariant platform attached summary)
    (moves : Moves platform state attached summary action attached' summary')
    (notResume : ∀ caller id, action ≠ .resume caller id) (cpu : Nat) :
    summary.Affects platform state cpu action summary' := by
  cases moves with
  | stay => exact .keeps .refl
  | prepare unattached =>
      have absent := absent_of refines invariant _ cpu fun isAttached =>
        absurd (unattached.symm.trans isAttached) Bool.false_ne_true
      exact .keeps (.of_others absent rfl rfl fun other different => by simp [different])
  | setContext context unattached =>
      have absent := absent_of refines invariant _ cpu fun isAttached =>
        absurd (unattached.symm.trans isAttached) Bool.false_ne_true
      exact .keeps (.of_others absent rfl rfl fun other different => by simp [different])
  | execute => exact .keeps ⟨rfl, rfl, fun _ _ _ => rfl, fun _ _ _ => rfl, fun _ _ _ => rfl⟩
  | attach stamp unattached =>
      have absent := absent_of refines invariant _ cpu fun isAttached =>
        absurd (unattached.symm.trans isAttached) Bool.false_ne_true
      exact .keeps (.of_others absent rfl rfl fun other different => by
        simp [Summary.attach, different])
  | detach thread isAttached notRunning =>
      have absent := absent_of refines invariant _ cpu fun _ running =>
        absurd running notRunning
      exact .keeps (.of_others absent rfl rfl fun other different => by
        simp [Summary.detach, different])
  | resume => exact absurd rfl (notResume _ _)
  | deactivate thread stop output highest target isAttached running =>
      have onCpu : (state.threads thread).cpu = (summary.threads thread).cpu := by
        rw [← ThreadData.core_cpu, refines.thread]
      by_cases here : (summary.threads thread).cpu = cpu
      · refine .deactivate thread _ stop output highest ?_ here running
        rw [Action.taskCpu_of_target notResume target (by rw [threadState refines, running]),
          onCpu, here]
      · exact .keeps (Summary.keeps_deactivate
          (absent_of refines invariant _ cpu fun _ _ => here) here)
  | stop thread output isAttached paused =>
      have absent := absent_of refines invariant _ cpu fun _ running =>
        absurd (paused.symm.trans running) (by simp)
      exact .keeps (.of_others absent rfl rfl fun other different => by
        simp [Summary.stop, different])
  | schedule thread scheduled busy first ended =>
      rename_i timerCpu
      by_cases here : cpu = timerCpu
      · subst here
        exact .timer thread first ended
      · have onCpu := (invariant.of_first refines.lists first).2.2.1
        refine .keeps (Summary.keeps_scheduled
          (absent_of refines invariant _ cpu fun _ _ => ?_) here ended)
        rw [onCpu]
        exact Ne.symm here

/-- What `resume_thread` does to each CPU. -/
theorem resumeThread_affects {caller : Nat} {id : BitVec 64} {err : ErrCode}
    (refines : Refines state summary) (invariant : Invariant platform attached summary)
    (done : resumeThread platform state caller id = some (after, err)) :
    ∃ summary', Refines after summary' ∧ Invariant platform attached summary' ∧
      ∀ cpu, summary.Affects platform state cpu (.resume caller id) summary' := by
  obtain ⟨summary', refinesAfter, resumed⟩ := resumeThread_resumed refines invariant done
  cases resumed with
  | unknown => exact ⟨summary, refinesAfter, invariant, fun cpu => .keeps .refl⟩
  | refused => exact ⟨summary, refinesAfter, invariant, fun cpu => .keeps .refl⟩
  | resumed thread _ found paused =>
      obtain ⟨-, onCpu, foundCpu, refinesResumed⟩ :=
        resumeThread_found refines invariant found paused done
      have isAttached := attached_of_withStampId refines invariant found
      refine ⟨_, refinesResumed, invariant.resume refines.lists isAttached
        (leastLoaded_lt _ _ _ onCpu foundCpu), fun cpu => ?_⟩
      by_cases here : cpu = onCpu
      · subst here
        refine .resume thread ?_ paused
        simp only [Action.taskCpu, found, threadState refines, if_pos paused]
        exact foundCpu
      · exact .keeps (Summary.keeps_resume (absent_of refines invariant _ cpu fun _ running =>
          absurd (paused.symm.trans running) (by simp)) here)

/-- What a step does to each CPU. -/
theorem World.step_affects {world next : World} (refines : Refines world.state summary)
    (invariant : Invariant platform world.attached summary)
    (taken : world.step platform action = some next) :
    ∃ summary', Refines next.state summary' ∧ Invariant platform next.attached summary' ∧
      ∀ cpu, summary.Affects platform world.state cpu action summary' := by
  have others : (∀ caller id, action ≠ .resume caller id) → ∃ summary',
      Refines next.state summary' ∧ Invariant platform next.attached summary' ∧
        ∀ cpu, summary.Affects platform world.state cpu action summary' := by
    intro notResume
    obtain ⟨-, summary', refinesNext, moves⟩ := step_moves refines invariant taken
    exact ⟨summary', refinesNext, moves.invariant refines invariant,
      moves.affects refines invariant notResume⟩
  cases action with
  | resume caller id =>
      obtain ⟨⟨state, attached⟩, done, taken⟩ := Option.bind_eq_some_iff.mp taken
      obtain rfl := Option.some.inj taken
      obtain ⟨-, done⟩ := Option.ite_none_right_eq_some.mp done
      obtain ⟨⟨after, err⟩, resumed, done⟩ := Option.bind_eq_some_iff.mp done
      obtain ⟨rfl, rfl⟩ := Prod.mk.inj (Option.some.inj done)
      exact resumeThread_affects refines invariant resumed
  | _ => exact others fun _ _ => by simp

end Affects

/-! ## The quanta of queued threads -/

/-- A rotation keeps the threads of every queue. -/
theorem View.mem_fifo_rotate {view : View} {thread : Address}
    {cpu priority otherCpu otherPriority : Nat} :
    thread ∈ (view.rotate cpu priority).fifo otherCpu otherPriority ↔
      thread ∈ view.fifo otherCpu otherPriority := by
  rw [View.fifo, View.rotate, View.setQueue_queue]
  split
  · rename_i same
    rw [(TwoListQueue.perm_rotate _).mem_iff, same.1, same.2]
    rfl
  · rfl

namespace Summary

/-- Only the current thread of a CPU has used up some of its quantum. -/
def Quanta (summary : Summary) : Prop :=
  ∀ cpu priority, ∀ thread ∈ summary.view.fifo cpu priority,
    (summary.threads thread).quantum ≤ 10 ∧
      (summary.first cpu ≠ some thread → (summary.threads thread).quantum = 10)

variable {platform : Platform} {state after : State} {attached : Address → Bool}
  {summary : Summary} {thread : Address} {cpu priority : Nat}

theorem Keeps.first {before : Summary} (keeps : before.Keeps summary cpu) :
    summary.first cpu = before.first cpu := by
  rw [Summary.first, Summary.first, keeps.queue, keeps.control]

theorem queue_resume (summary : Summary) (thread : Address) (cpu priority : Nat) :
    (summary.resume thread cpu).view.queue cpu priority =
      if priority = (summary.threads thread).priority then
        (summary.view.queue cpu priority).push thread
      else
        summary.view.queue cpu priority := by
  simp only [resume, enroll, unpark, setCpu_view, setThread_view, setView_view, View.enqueue,
    View.setQueue_queue, setThread_threads, if_true, true_and]
  split
  · rename_i same
    rw [same]
    rfl
  · rfl

/-- A thread that is resumed on a busy CPU does not become its current one. -/
theorem first_resume (invariant : Invariant platform attached summary)
    (filled : ∀ priority, (summary.view.queue cpu priority).Filled)
    (busy : (summary.cpus cpu).totalThreads ≠ 0) :
    (summary.resume thread cpu).first cpu = summary.first cpu := by
  have control : ((summary.resume thread cpu).cpus cpu).currentPriority =
      (summary.cpus cpu).currentPriority := by
    simp [resume, enroll, unpark, CpuControl.enroll, busy]
  obtain ⟨current, first⟩ := invariant.exists_first busy
  rw [first, Summary.first, control, queue_resume]
  rw [Summary.first] at first
  split
  · rw [(filled _).head?_push, first, Option.some_or]
  · exact first

theorem queue_deactivate {selfHalt stop : Bool} {output : BitVec 64} {highest : Nat} :
    (summary.deactivate platform thread selfHalt stop output highest).view.queue
        (summary.threads thread).cpu priority =
      if priority = (summary.threads thread).realPriority then
        (summary.view.queue (summary.threads thread).cpu priority).remove thread
      else
        summary.view.queue (summary.threads thread).cpu priority := by
  have dismissed : ((summary.dismiss thread highest).park thread stop output).view.queue
      (summary.threads thread).cpu priority =
        if priority = (summary.threads thread).realPriority then
          (summary.view.queue (summary.threads thread).cpu priority).remove thread
        else
          summary.view.queue (summary.threads thread).cpu priority := by
    simp only [dismiss, park, setCpu_view, setThread_view, setView_view, View.enterInactive,
      View.dequeue]
    change (View.setQueue _ _ _ _).queue _ _ = _
    rw [View.setQueue_queue]
    split
    · rename_i same
      rw [if_pos same.2, same.2]
    · rename_i different
      rw [if_neg fun same => different ⟨rfl, same⟩]
      rfl
  simp only [deactivate]
  split
  · exact dismissed
  · exact dismissed

/-- A thread that is taken off its CPU leaves the current thread where it is, unless it
is the current thread. -/
theorem first_deactivate {selfHalt stop : Bool} {output : BitVec 64} {highest : Nat}
    {current : Address} (first : summary.first (summary.threads thread).cpu = some current)
    (different : thread ≠ current) :
    (summary.deactivate platform thread selfHalt stop output highest).first
      (summary.threads thread).cpu = some current := by
  have notCurrent : summary.first (summary.threads thread).cpu ≠ some thread := by
    rw [first]
    exact fun same => different (Option.some.inj same).symm
  have control : ((summary.deactivate platform thread selfHalt stop output highest).cpus
      (summary.threads thread).cpu).currentPriority =
        (summary.cpus (summary.threads thread).cpu).currentPriority := by
    simp [deactivate, notCurrent, dismiss, park, CpuControl.dismiss]
  rw [Summary.first, control, queue_deactivate]
  rw [Summary.first] at first
  split
  · exact TwoListQueue.head?_remove_of_ne first different
  · exact first

/-- A thread that is queued on a CPU makes it busy. -/
theorem busy_of_queued {state : State} (refines : Refines state summary)
    (invariant : Invariant platform attached summary)
    (queued : thread ∈ summary.view.fifo cpu priority) : (summary.cpus cpu).totalThreads ≠ 0 := by
  obtain ⟨isAttached, running, -, realPriority⟩ := invariant.of_queued refines.lists queued
  have positive := queuedThreads_pos_of_mem
    (realPriority ▸ invariant.realPriority_lt isAttached running) queued
  rw [(invariant.cpus cpu).total]
  exact Int.ne_of_gt positive

@[simp] theorem quantum_deactivate {selfHalt stop : Bool} {output : BitVec 64} {highest : Nat}
    (other : Address) :
    ((summary.deactivate platform thread selfHalt stop output highest).threads other).quantum =
      (summary.threads other).quantum := by
  have parked : (((summary.dismiss thread highest).park thread stop output).threads
      other).quantum = (summary.threads other).quantum := by
    simp only [dismiss, park, setCpu_threads, setThread_threads, setView_threads]
    split
    · rename_i same
      rw [same]
    · rfl
  simp only [deactivate]
  split
  · simp only [save, setMachine_threads, setThread_threads]
    split
    · rename_i same
      rw [← parked, same]
    · exact parked
  · exact parked

/-- The thread whose slice ends gets a full quantum. -/
theorem quantum_switch (thread2 : Address) (highest : Nat) (other : Address) :
    ((summary.switch cpu thread thread2 highest).threads other).quantum =
      if other = thread then 10 else (summary.threads other).quantum := by
  simp only [switch_threads, rotate, setCpu_threads, setThread_threads]
  split
  · rfl
  · rfl

/-- What the threads of one CPU have left of their quanta. -/
theorem Quanta.affects {action : Action} (refines : Refines state summary)
    (invariant : Invariant platform attached summary) (quanta : summary.Quanta)
    {changed : Summary} (affects : ∀ cpu, summary.Affects platform state cpu action changed) :
    changed.Quanta := by
  intro cpu priority other queued
  cases affects cpu with
  | keeps keeps =>
      rw [View.fifo, keeps.queue] at queued
      rw [keeps.quantum priority other queued, keeps.first]
      exact quanta cpu priority other queued
  | resume resumed sent paused =>
      by_cases same : other = resumed
      · simp [same, resume, enroll, unpark]
      · have before : other ∈ summary.view.fifo cpu priority := by
          rw [View.fifo, queue_resume] at queued
          split at queued
          · rw [TwoListQueue.toList_push, List.mem_append, List.mem_singleton] at queued
            exact queued.resolve_right same
          · exact queued
        rw [first_resume invariant (fun _ => (refines.lists.queue cpu _).filled)
          (busy_of_queued refines invariant before)]
        simpa [resume, enroll, unpark, same] using quanta cpu priority other before
  | deactivate halted selfHalt stop output highest sent onCpu running =>
      subst onCpu
      have nodup := (refines.lists.queue (summary.threads halted).cpu priority).nodup
      have before : other ∈ summary.view.fifo (summary.threads halted).cpu priority := by
        rw [View.fifo, queue_deactivate] at queued
        split at queued
        · exact ((TwoListQueue.mem_toList_remove nodup).mp queued).2
        · exact queued
      rw [quantum_deactivate]
      refine ⟨(quanta _ _ _ before).1, fun notFirst => (quanta _ _ _ before).2 fun isFirst => ?_⟩
      by_cases same : halted = other
      · subst same
        rw [View.fifo, queue_deactivate] at queued
        split at queued
        · exact ((TwoListQueue.mem_toList_remove nodup).mp queued).1 rfl
        · rename_i elsewhere
          exact elsewhere ((invariant.of_queued refines.lists before).2.2.2).symm
      · exact notFirst (first_deactivate isFirst same)
  | timer current first ended =>
      cases ended with
      | load pending =>
          have same : (summary.load cpu current).first cpu = summary.first cpu := by
            simp [Summary.first, load]
          rw [same]
          exact quanta cpu priority other queued
      | panic => exact quanta cpu priority other queued
      | tick =>
          obtain ⟨atMost, full⟩ := quanta cpu priority other queued
          have same : (summary.tick current).first cpu = some current := first
          rw [same]
          by_cases isCurrent : other = current
          · subst isCurrent
            simp only [tick, setThread_threads, if_true]
            exact ⟨by omega, fun different => absurd rfl different⟩
          · simp only [tick, setThread_threads, if_neg isCurrent]
            exact ⟨atMost, fun _ => full fun isFirst =>
              isCurrent (Option.some.inj (isFirst.symm.trans first))⟩
      | switch thread2 highest =>
          rw [quantum_switch]
          split
          · exact ⟨Nat.le_refl 10, fun _ => rfl⟩
          · rename_i different
            have before : other ∈ summary.view.fifo cpu priority := by
              rw [switch_view] at queued
              exact View.mem_fifo_rotate.mp queued
            have full := (quanta cpu priority other before).2 fun isFirst =>
              different (Option.some.inj (isFirst.symm.trans first))
            exact ⟨Nat.le_of_eq full, fun _ => full⟩

end Summary

/-- Every reachable state has a summary in which only current threads have used up some
of their quanta. -/
theorem quanta_of_reachable {platform : Platform} {world : World}
    (reached : (system platform).Reachable world) :
    ∃ summary, Refines world.state summary ∧ Invariant platform world.attached summary ∧
      summary.Quanta := by
  have starts : ∀ world, (system platform).initial world →
      ∃ summary, Refines world.state summary ∧ Invariant platform world.attached summary ∧
        summary.Quanta := by
    intro world starts
    refine ⟨_, World.Initial.refines starts, World.Initial.invariant starts _, ?_⟩
    intro cpu priority thread queued
    cases queued
  refine reached.invariant starts ?_
  rintro world action next ⟨summary, refines, invariant, quanta⟩ taken
  obtain ⟨summary', refinesNext, invariantNext, affects⟩ :=
    World.step_affects refines invariant taken
  exact ⟨summary', refinesNext, invariantNext, quanta.affects refines invariant affects⟩

end Scheduler
end ToyKernel
