import ToyKernel.Tasks.System

/-!
# What the handlers do

The outcomes of the task interrupt, and what it leaves alone.
-/

namespace ToyKernel
namespace Tasks

open Masking (Agent Lock)
open Scheduler (Platform)

variable {Thread : Type} [DecidableEq Thread]

@[simp] theorem enqueue_task (cpud : CpuData Thread) (thread : Thread) :
    (cpud.enqueue thread).task = cpud.task := by
  unfold CpuData.enqueue
  split <;> rfl

/-- The run queue without a thread, with another current thread if it was the current one. -/
inductive Chosen (cpud : CpuData Thread) : CpuData Thread → Prop
  | none (empty : cpud.queue = []) : Chosen cpud { cpud with current := .none }
  | some (thread : Thread) (queued : thread ∈ cpud.queue) :
      Chosen cpud { cpud with current := .some thread, loadContext := true }

/-- What the task interrupt does to a CPU and to the thread in its message. -/
inductive Handled (platform : Platform) (state : State Thread) (cpu : Nat)
    (stackFrame : Bool) : CpuData Thread → (Thread → ThreadData) → Prop
  | resumed (thread : Thread) (type : (state.cpus cpu).task.type = .resume)
      (isThread : (state.cpus cpu).task.thread = some thread) :
      Handled platform state cpu stackFrame
        { (state.cpus cpu).enqueue thread with
          task := { (state.cpus cpu).task with error := .errNone } }
        (Function.update state.threads thread
          { state.threads thread with state := .running, cpu := cpu })
  | notFound (thread : Thread) (type : (state.cpus cpu).task.type = .pause)
      (isThread : (state.cpus cpu).task.thread = some thread)
      (absent : state.finds cpu thread = false) :
      Handled platform state cpu stackFrame
        { state.cpus cpu with task := { (state.cpus cpu).task with error := .errNotFound } }
        state.threads
  | dequeued (thread : Thread) (type : (state.cpus cpu).task.type = .pause)
      (isThread : (state.cpus cpu).task.thread = some thread)
      (found : state.finds cpu thread = true)
      (notCurrent : (state.cpus cpu).current ≠ some thread) :
      Handled platform state cpu stackFrame
        { state.cpus cpu with
          queue := (state.cpus cpu).queue.erase thread
          task := { (state.cpus cpu).task with error := .errNone } }
        state.threads
  | halted (thread : Thread) (cpud : CpuData Thread)
      (type : (state.cpus cpu).task.type = .pause)
      (isThread : (state.cpus cpu).task.thread = some thread)
      (found : state.finds cpu thread = true)
      (isCurrent : (state.cpus cpu).current = some thread)
      (chosen : Chosen { state.cpus cpu with queue := (state.cpus cpu).queue.erase thread }
        cpud) :
      Handled platform state cpu stackFrame
        { cpud with
          frame := if stackFrame then State.storeHalt platform cpud.frame else cpud.frame
          task := { (state.cpus cpu).task with
            type := if stackFrame then .pause else .selfHalt, error := .errNone } }
        (if stackFrame then
          Function.update state.threads thread
            { state.threads thread with context := (state.cpus cpu).frame }
        else
          state.threads)

section Handlers

variable {platform : Platform} {state after : State Thread} {cpu : Nat} {stackFrame : Bool}
  {next : Option Thread}

theorem chooseNext_cases (chosen : state.chooseNext cpu next = some after) :
    ∃ cpud, Chosen (state.cpus cpu) cpud ∧ after = state.setCpu cpu fun _ => cpud := by
  unfold State.chooseNext at chosen
  split at chosen
  · rename_i empty
    obtain rfl := Option.some.inj chosen
    exact ⟨_, .none empty, rfl⟩
  · obtain ⟨thread, -, chosen⟩ := Option.bind_eq_some_iff.mp chosen
    obtain ⟨queued, chosen⟩ := Option.ite_none_right_eq_some.mp chosen
    obtain rfl := Option.some.inj chosen
    exact ⟨_, .some thread queued, rfl⟩

/-- The outcomes of the task interrupt. -/
theorem handleTask_cases
    (handled : State.handleTask platform state cpu stackFrame next = some after) :
    ∃ cpud threads, Handled platform state cpu stackFrame cpud threads ∧
      after = { state with threads := threads, cpus := Function.update state.cpus cpu cpud } := by
  unfold State.handleTask at handled
  split at handled
  · rename_i type
    obtain ⟨thread, isThread, handled⟩ := Option.bind_eq_some_iff.mp handled
    obtain rfl := Option.some.inj handled
    refine ⟨_, _, .resumed thread type isThread, ?_⟩
    simp [State.setTask, State.setCpu, State.setThread]
  · rename_i type
    obtain ⟨thread, isThread, handled⟩ := Option.bind_eq_some_iff.mp handled
    dsimp only at handled
    split at handled
    · rename_i found
      split at handled
      · rename_i isCurrent
        obtain ⟨chosenState, chosen, handled⟩ := Option.bind_eq_some_iff.mp handled
        obtain ⟨cpud, isChosen, rfl⟩ := chooseNext_cases chosen
        obtain rfl := Option.some.inj handled
        simp only [State.setCpu_cpus, Function.update_self] at isChosen
        have sameTask : cpud.task = (state.cpus cpu).task := by
          cases isChosen <;> rfl
        have sameFrame : cpud.frame = (state.cpus cpu).frame := by
          cases isChosen <;> rfl
        refine ⟨_, _, .halted thread cpud type isThread found isCurrent isChosen, ?_⟩
        cases stackFrame with
        | true =>
            simp [State.haltCurrent, State.setTask, State.setCpu, State.setThread, sameTask,
              sameFrame, type]
        | false =>
            simp [State.haltCurrent, State.setTask, State.setCpu, sameTask]
      · rename_i notCurrent
        obtain rfl := Option.some.inj handled
        refine ⟨_, _, .dequeued thread type isThread found notCurrent, ?_⟩
        simp [State.setTask, State.setCpu]
    · rename_i absent
      obtain rfl := Option.some.inj handled
      exact ⟨_, _, .notFound thread type isThread (Bool.eq_false_iff.mpr absent), rfl⟩
  · cases handled

/-- A handler answers. -/
theorem Handled.answers {cpud : CpuData Thread} {threads : Thread → ThreadData}
    (handled : Handled platform state cpu stackFrame cpud threads) :
    cpud.task.error ≠ .errBusy := by
  cases handled with
  | resumed => simp
  | notFound => simp
  | dequeued => simp
  | halted => simp

/-! ## The timer interrupt -/

/-- What the timer interrupt does to a CPU and to the threads, with the thread whose context
it stores into the stack frame. -/
inductive Scheduled (state : State Thread) (cpu : Nat) :
    Option Thread → CpuData Thread → (Thread → ThreadData) → Prop
  | idle (empty : (state.cpus cpu).queue = []) :
      Scheduled state cpu none (state.cpus cpu) state.threads
  | loads (thread : Thread) (isCurrent : (state.cpus cpu).current = some thread)
      (load : (state.cpus cpu).loadContext = true) :
      Scheduled state cpu (some thread)
        { state.cpus cpu with frame := (state.threads thread).context, loadContext := false }
        state.threads
  | stays (loaded : (state.cpus cpu).loadContext = false) :
      Scheduled state cpu none (state.cpus cpu) state.threads
  | switches (thread thread2 : Thread) (isCurrent : (state.cpus cpu).current = some thread)
      (loaded : (state.cpus cpu).loadContext = false)
      (queued : thread2 ∈ (state.cpus cpu).queue) (different : thread2 ≠ thread) :
      Scheduled state cpu (some thread2)
        { state.cpus cpu with
          frame := (state.threads thread2).context, current := some thread2 }
        (Function.update state.threads thread
          { state.threads thread with context := (state.cpus cpu).frame })

theorem schedule_cases (scheduled : state.schedule cpu next = some after) :
    ∃ cpud threads, Scheduled state cpu (state.dispatched cpu next) cpud threads ∧
      after = { state with threads := threads, cpus := Function.update state.cpus cpu cpud } := by
  unfold State.schedule at scheduled
  unfold State.dispatched
  split at scheduled
  · rename_i empty
    obtain rfl := Option.some.inj scheduled
    rw [if_pos empty]
    refine ⟨_, _, .idle empty, ?_⟩
    rw [Function.update_eq_self]
  · rename_i nonempty
    rw [if_neg nonempty]
    obtain ⟨thread, isCurrent, scheduled⟩ := Option.bind_eq_some_iff.mp scheduled
    split at scheduled
    · rename_i load
      obtain rfl := Option.some.inj scheduled
      rw [if_pos load, isCurrent]
      exact ⟨_, _, .loads thread isCurrent load, rfl⟩
    · rename_i loaded
      rw [Bool.not_eq_true] at loaded
      split at scheduled
      · obtain rfl := Option.some.inj scheduled
        rw [loaded, if_neg (by simp)]
        refine ⟨_, _, .stays loaded, ?_⟩
        rw [Function.update_eq_self]
      · rename_i thread2 _
        obtain ⟨⟨queued, different⟩, scheduled⟩ := Option.ite_none_right_eq_some.mp scheduled
        obtain rfl := Option.some.inj scheduled
        rw [loaded, if_neg (by simp)]
        refine ⟨_, _, .switches thread thread2 isCurrent loaded queued different, ?_⟩
        simp [State.setThread, State.setCpu, different]

/-- The timer interrupt leaves the messages alone. -/
theorem Scheduled.task {dispatched : Option Thread} {cpud : CpuData Thread}
    {threads : Thread → ThreadData} (scheduled : Scheduled state cpu dispatched cpud threads) :
    cpud.task = (state.cpus cpu).task := by
  cases scheduled <;> rfl

end Handlers

end Tasks
end ToyKernel
