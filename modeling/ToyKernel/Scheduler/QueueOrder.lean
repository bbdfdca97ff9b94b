import ToyKernel.Scheduler.Conservation

/-!
# The run queues are FIFO queues

Each priority of each CPU has one queue: its active threads followed by its
expired ones.  The abstract scheduler appends a thread that is resumed, deletes a
thread that is paused or stopped, and moves the first thread to the end when its
slice ends.  The two lists of the code refine it, wherever the queue is split.
-/

namespace ToyKernel
namespace Scheduler

/-- One queue for each priority of each CPU. -/
abbrev FifoQueues := Nat → Nat → List Address

namespace FifoQueues

/-- Replace one queue. -/
def set (queues : FifoQueues) (cpu priority : Nat) (queue : List Address) : FifoQueues :=
  Function.update queues cpu (Function.update (queues cpu) priority queue)

/-- A thread arrives at the end of a queue. -/
def append (queues : FifoQueues) (cpu priority : Nat) (thread : Address) : FifoQueues :=
  queues.set cpu priority (queues cpu priority ++ [thread])

/-- A thread leaves a queue, and the others keep their order. -/
def delete (queues : FifoQueues) (cpu priority : Nat) (thread : Address) : FifoQueues :=
  queues.set cpu priority ((queues cpu priority).erase thread)

/-- The first thread of a queue goes to its end. -/
def moveFirst (queues : FifoQueues) (cpu priority : Nat) : FifoQueues :=
  match queues cpu priority with
  | [] => queues
  | first :: rest => queues.set cpu priority (rest ++ [first])

end FifoQueues

/-- The abstraction: active threads followed by expired threads. -/
def State.RunQueues (state : State) (queues : FifoQueues) : Prop :=
  ∀ cpu priority, ∃ lists : TwoListQueue Address,
    ((state.cpus cpu).priorities priority).Represents state.links lists ∧
      queues cpu priority = lists.toList

/-- What a step does to the queues.  The CPU on which a thread is resumed is read
from the thread afterwards. -/
def World.fifoStep (world next : World) (action : Action) (queues : FifoQueues) : FifoQueues :=
  match action with
  | .resume _ id =>
      match withStampId world.state id with
      | .ok thread =>
          if (world.state.threads thread).state = .paused then
            queues.append (next.state.threads thread).cpu
              (world.state.threads thread).priority thread
          else
            queues
      | .error _ => queues
  | .timer cpu =>
      if world.state.endsSlice cpu then
        queues.moveFirst cpu (world.state.cpus cpu).currentPriority
      else
        queues
  | action =>
      match action.target world.state with
      | .ok thread =>
          if (world.state.threads thread).state = .running then
            queues.delete (world.state.threads thread).cpu
              (world.state.threads thread).realPriority thread
          else
            queues
      | .error _ => queues

/-! ## The queues of a view -/

namespace View

variable (view : View) (cpu priority : Nat) (thread : Address)

/-- The queues of a view. -/
def fifo : FifoQueues := fun cpu priority => (view.queue cpu priority).toList

@[simp] theorem fifo_setPlace (place : Place) : (view.setPlace thread place).fifo = view.fifo :=
  rfl

@[simp] theorem fifo_enterInactive : (view.enterInactive thread).fifo = view.fifo := rfl

@[simp] theorem fifo_leaveInactive : (view.leaveInactive thread).fifo = view.fifo := rfl

@[simp] theorem fifo_enterAll : (view.enterAll thread).fifo = view.fifo := rfl

@[simp] theorem fifo_leaveAll : (view.leaveAll thread).fifo = view.fifo := rfl

@[simp] theorem fifo_setQueue (queue : TwoListQueue Address) :
    (view.setQueue cpu priority queue).fifo = view.fifo.set cpu priority queue.toList := by
  funext otherCpu otherPriority
  rw [fifo, setQueue_queue, FifoQueues.set]
  by_cases sameCpu : otherCpu = cpu
  · subst sameCpu
    by_cases samePriority : otherPriority = priority
    · subst samePriority
      simp
    · simp [samePriority, fifo]
  · simp [sameCpu, fifo]

theorem fifo_enqueue : (view.enqueue cpu priority thread).fifo =
    view.fifo.append cpu priority thread := by
  rw [enqueue, fifo_setQueue, TwoListQueue.toList_push]
  rfl

theorem fifo_dequeue (nodup : (view.queue cpu priority).toList.Nodup) :
    (view.dequeue cpu priority thread).fifo = view.fifo.delete cpu priority thread := by
  rw [dequeue, fifo_setQueue, TwoListQueue.toList_remove nodup]
  rfl

theorem fifo_rotate (filled : (view.queue cpu priority).Filled) :
    (view.rotate cpu priority).fifo = view.fifo.moveFirst cpu priority := by
  have same : view.fifo cpu priority = (view.queue cpu priority).toList := rfl
  rw [rotate, fifo_setQueue, FifoQueues.moveFirst, same]
  cases active : (view.queue cpu priority).active with
  | nil =>
      have empty := filled.toList_eq_nil_iff.mpr active
      simp only [empty, TwoListQueue.rotate, active]
      rw [FifoQueues.set, ← same.trans empty, Function.update_eq_self, Function.update_eq_self]
  | cons first rest =>
      rw [TwoListQueue.toList_rotate active]
      simp only [TwoListQueue.toList, active, List.cons_append, List.append_assoc]

end View

/-- The memory determines the queues. -/
theorem Lists.runQueues_iff {state : State} {view : View} (lists : Lists state view)
    {queues : FifoQueues} : state.RunQueues queues ↔ queues = view.fifo := by
  constructor
  · intro represents
    funext cpu priority
    obtain ⟨queue, inMemory, same⟩ := represents cpu priority
    have expected := lists.queue cpu priority
    rw [same, View.fifo, TwoListQueue.toList, TwoListQueue.toList,
      inMemory.active.unique expected.active, inMemory.expired.unique expected.expired]
  · rintro rfl cpu priority
    exact ⟨view.queue cpu priority, lists.queue cpu priority, rfl⟩

/-! ## The queues of a summary -/

section Operations

variable {platform : Platform} {state : State} {attached : Address → Bool} {summary : Summary}
  {thread : Address} {cpu : Nat}

theorem Summary.fifo_resume (summary : Summary) (thread : Address) (cpu : Nat) :
    (summary.resume thread cpu).view.fifo =
      summary.view.fifo.append cpu (summary.threads thread).priority thread := by
  simp [Summary.resume, Summary.enroll, Summary.unpark, View.fifo_enqueue]

theorem Summary.fifo_deactivate (lists : Lists state summary.view) (selfHalt stop : Bool)
    (output : BitVec 64) (highest : Nat) :
    (summary.deactivate platform thread selfHalt stop output highest).view.fifo =
      summary.view.fifo.delete (summary.threads thread).cpu
        (summary.threads thread).realPriority thread := by
  have nodup :=
    (lists.queue (summary.threads thread).cpu (summary.threads thread).realPriority).nodup
  have dismissed : ((summary.dismiss thread highest).park thread stop output).view.fifo =
      summary.view.fifo.delete (summary.threads thread).cpu
        (summary.threads thread).realPriority thread := by
    simp [Summary.dismiss, Summary.park, View.fifo_dequeue, nodup]
  simp only [Summary.deactivate]
  split
  · exact dismissed
  · exact dismissed

/-- Only attached threads are paused or stopped; all other calls leave the queues
alone. -/
theorem Moves.fifo_of_no_target {attached' : Address → Bool} {summary' : Summary}
    {action : Action} {err : ErrCode}
    (moves : Moves platform state attached summary action attached' summary')
    (untargeted : action.target state = .error err) (notResume : ∀ caller id,
      action ≠ .resume caller id) (notTimer : ∀ cpu, action ≠ .timer cpu) :
    summary'.view.fifo = summary.view.fifo := by
  cases moves with
  | stay => rfl
  | prepare => rfl
  | setContext => rfl
  | execute => rfl
  | attach => rfl
  | detach => rfl
  | resume => exact absurd rfl (notResume _ _)
  | deactivate thread stop output highest target => simp [target] at untargeted
  | stop => rfl
  | schedule => exact absurd rfl (notTimer _)

end Operations

/-! ## The refinement -/

section Steps

variable {platform : Platform} {world next : World} {summary : Summary}

/-- Pausing and stopping delete the thread. -/
theorem deactivateThread_fifo {caller : Nat} {stop : Bool} {id output : BitVec 64}
    {lockToRelease : Option Address} {after : State} {err : ErrCode} {queues : FifoQueues}
    (refines : Refines world.state summary)
    (invariant : Invariant platform world.attached summary)
    (done : deactivateThread platform world.state caller stop id output lockToRelease =
      some (after, err))
    (represents : world.state.RunQueues queues) :
    after.RunQueues
      (match withStampId world.state id with
      | .ok thread =>
          if (world.state.threads thread).state = .running then
            queues.delete (world.state.threads thread).cpu
              (world.state.threads thread).realPriority thread
          else
            queues
      | .error _ => queues) := by
  obtain ⟨summary', refinesAfter, deactivated⟩ :=
    deactivateThread_deactivated refines invariant done
  rw [refines.lists.runQueues_iff] at represents
  rw [refinesAfter.lists.runQueues_iff, represents]
  cases deactivated with
  | unknown found => simp only [found]
  | refused thread found idle =>
      simp only [found, threadState refines]
      rcases idle with stopped | ⟨paused, -⟩
      · rw [if_neg (by simp [stopped])]
      · rw [if_neg (by simp [paused])]
  | stopped thread found paused =>
      simp only [found, threadState refines, paused, reduceCtorEq, if_false]
      rfl
  | halted thread highest found running =>
      have sameCpu : (world.state.threads thread).cpu = (summary.threads thread).cpu := by
        rw [← ThreadData.core_cpu, refines.thread]
      have samePriority : (world.state.threads thread).realPriority =
          (summary.threads thread).realPriority := by
        rw [← ThreadData.core_realPriority, refines.thread]
      simp only [found, threadState refines, if_pos running, sameCpu, samePriority]
      rw [Summary.fifo_deactivate refines.lists]

/-- Resuming appends the thread on the CPU that it is resumed on. -/
theorem resumeThread_fifo {caller : Nat} {id : BitVec 64} {after : State} {err : ErrCode}
    {queues : FifoQueues} (refines : Refines world.state summary)
    (invariant : Invariant platform world.attached summary)
    (done : resumeThread platform world.state caller id = some (after, err))
    (represents : world.state.RunQueues queues) :
    after.RunQueues
      (match withStampId world.state id with
      | .ok thread =>
          if (world.state.threads thread).state = .paused then
            queues.append (after.threads thread).cpu (world.state.threads thread).priority thread
          else
            queues
      | .error _ => queues) := by
  obtain ⟨summary', refinesAfter, resumed⟩ := resumeThread_resumed refines invariant done
  rw [refines.lists.runQueues_iff] at represents
  rw [refinesAfter.lists.runQueues_iff, represents]
  cases resumed with
  | unknown found => simp only [found]
  | refused thread found busy => simp only [found, threadState refines, if_neg busy]
  | resumed thread cpu found paused =>
      have onCpu : (after.threads thread).cpu = cpu := by
        rw [← ThreadData.core_cpu, refinesAfter.thread]
        simp [Summary.resume, Summary.enroll, Summary.unpark]
      have samePriority : (world.state.threads thread).priority =
          (summary.threads thread).priority := by
        rw [← ThreadData.core_priority, refines.thread]
      simp only [found, threadState refines, if_pos paused, onCpu, samePriority]
      rw [Summary.fifo_resume]

/-- The timer interrupt moves the first thread of the current priority to the end
when its slice ends. -/
theorem timerInterrupt_fifo {cpu : Nat} {after : State} {queues : FifoQueues}
    (refines : Refines world.state summary)
    (invariant : Invariant platform world.attached summary)
    (done : timerInterrupt platform world.state cpu = some after)
    (represents : world.state.RunQueues queues) :
    after.RunQueues
      (if world.state.endsSlice cpu then
        queues.moveFirst cpu (world.state.cpus cpu).currentPriority
      else
        queues) := by
  obtain ⟨final, summary', done', refinesAfter, ticked⟩ :=
    timerInterrupt_ticked refines invariant cpu
  obtain rfl := Option.some.inj (done.symm.trans done')
  rw [refines.lists.runQueues_iff] at represents
  rw [refinesAfter.lists.runQueues_iff, represents]
  cases ticked with
  | idle noThreads notEnded => simp [notEnded]
  | busy thread scheduled busy first ended view =>
      rw [view, refines.currentPriority]
      split
      · rw [View.fifo_rotate _ _ _ (refines.lists.queue cpu _).filled]
      · rfl

end Steps

/-- The two-list queues of every reachable state hold one FIFO queue for each priority
of each CPU, and every step does to them what it does to FIFO queues. -/
theorem runQueues_fifoStep_of_reachable (platform : Platform) {world : World}
    (reached : (system platform).Reachable world) :
    (∃ queues, world.state.RunQueues queues) ∧
      ∀ queues action next, world.state.RunQueues queues →
        world.step platform action = some next →
        next.state.RunQueues (world.fifoStep next action queues) := by
  obtain ⟨summary, refines, invariant⟩ := sound_of_reachable reached
  refine ⟨⟨_, refines.lists.runQueues_iff.mpr rfl⟩, ?_⟩
  intro queues action next represents taken
  obtain ⟨-, summary', refinesNext, moves⟩ := step_moves refines invariant taken
  obtain ⟨⟨state, attached⟩, done, taken⟩ := Option.bind_eq_some_iff.mp taken
  obtain rfl := Option.some.inj taken
  have others : ∀ err, action.target world.state = .error err →
      (∀ caller id, action ≠ .resume caller id) → (∀ cpu, action ≠ .timer cpu) →
      state.RunQueues queues := by
    intro err untargeted notResume notTimer
    rw [refines.lists.runQueues_iff] at represents
    rw [refinesNext.lists.runQueues_iff, represents,
      moves.fifo_of_no_target untargeted notResume notTimer]
  cases action with
  | resume caller id =>
      obtain ⟨-, done⟩ := Option.ite_none_right_eq_some.mp done
      obtain ⟨⟨after, err⟩, resumed, done⟩ := Option.bind_eq_some_iff.mp done
      obtain ⟨rfl, -⟩ := Prod.mk.inj (Option.some.inj done)
      exact resumeThread_fifo refines invariant resumed represents
  | pause caller id =>
      obtain ⟨-, done⟩ := Option.ite_none_right_eq_some.mp done
      obtain ⟨⟨after, err⟩, paused, done⟩ := Option.bind_eq_some_iff.mp done
      obtain ⟨rfl, -⟩ := Prod.mk.inj (Option.some.inj done)
      exact deactivateThread_fifo refines invariant paused represents
  | stop caller id output =>
      obtain ⟨-, done⟩ := Option.ite_none_right_eq_some.mp done
      obtain ⟨⟨after, err⟩, stopped, done⟩ := Option.bind_eq_some_iff.mp done
      obtain ⟨rfl, -⟩ := Prod.mk.inj (Option.some.inj done)
      exact deactivateThread_fifo refines invariant stopped represents
  | pauseThis cpu lockToRelease =>
      obtain ⟨-, done⟩ := Option.ite_none_right_eq_some.mp done
      obtain ⟨⟨after, err⟩, paused, done⟩ := Option.bind_eq_some_iff.mp done
      obtain ⟨rfl, -⟩ := Prod.mk.inj (Option.some.inj done)
      exact deactivateThread_fifo refines invariant paused represents
  | timer cpu =>
      obtain ⟨-, done⟩ := Option.ite_none_right_eq_some.mp done
      obtain ⟨after, ticked, done⟩ := Option.bind_eq_some_iff.mp done
      obtain ⟨rfl, -⟩ := Prod.mk.inj (Option.some.inj done)
      exact timerInterrupt_fifo refines invariant ticked represents
  | _ => exact others .errNotFound rfl (by simp) (by simp)

/-- Two threads are queued on CPU 1, which loads the first of them. -/
theorem runQueues_fifoStep_of_reachable_loaded :
    ∃ world, (system twoCpus).exec bootWorld
        [.attach 0 0x10000, .attach 0 0x20000, .resume 0 0x10000, .resume 0 0x10000000020000,
          .timer 1] = some world ∧
      (∃ queues, world.state.RunQueues queues) ∧
        ∀ queues action next, world.state.RunQueues queues →
          world.step twoCpus action = some next →
          next.state.RunQueues (world.fifoStep next action queues) := by
  obtain ⟨world, executed⟩ := Option.isSome_iff_exists.mp
    (show ((system twoCpus).exec bootWorld
      [.attach 0 0x10000, .attach 0 0x20000, .resume 0 0x10000, .resume 0 0x10000000020000,
        .timer 1]).isSome = true by decide +kernel)
  exact ⟨world, executed, runQueues_fifoStep_of_reachable twoCpus
    (TransitionSystem.reachable_of_exec bootWorld_initial executed)⟩

end Scheduler
end ToyKernel
