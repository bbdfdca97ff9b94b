import ToyKernel.Tasks.Advance

/-!
# Threads in the run queues

A thread in the run queues of a CPU is attached and runs there, so that it is in the run queues
of one CPU only.  The tasks keep this if a thread that is resumed has been paused.
-/

namespace ToyKernel
namespace Tasks

open Scheduler (IntStackFrame Platform)

variable {Thread : Type} [DecidableEq Thread]

/-- What the run queues of a CPU say about the threads. -/
structure Queued (threads : Thread → ThreadData) (cpu : Nat) (cpud : CpuData Thread) :
    Prop where
  threads : ∀ thread ∈ cpud.queue, (threads thread).attached = true ∧
    (threads thread).state = .running ∧ (threads thread).cpu = cpu
  nodup : cpud.queue.Nodup
  current : ∀ thread, cpud.current = some thread → thread ∈ cpud.queue

/-- A thread is in no run queue. -/
def State.Dequeued (state : State Thread) (thread : Thread) : Prop :=
  ∀ cpu, thread ∉ (state.cpus cpu).queue

/-- A CPU has loaded the context of a thread from its run queues. -/
def CpuData.Loaded (cpud : CpuData Thread) (thread : Thread) : Prop :=
  cpud.current = some thread ∧ cpud.loadContext = false

section Steps

variable {platform : Platform} {state after : State Thread} {cpu other : Nat}
  {stackFrame : Bool} {cpud cpud' : CpuData Thread} {threads threads' : Thread → ThreadData}
  {thread : Thread} {dispatched : Option Thread} {data : ThreadData}

omit [DecidableEq Thread] in
/-- A thread that does not run is in no run queue. -/
theorem dequeued_of_rests (queues : ∀ cpu, Queued state.threads cpu (state.cpus cpu))
    (rests : (state.threads thread).attached = false ∨
      (state.threads thread).state ≠ .running) : state.Dequeued thread := by
  intro cpu isQueued
  obtain ⟨attached, runs, -⟩ := (queues cpu).threads thread isQueued
  rcases rests with detached | rests
  · rw [detached] at attached
    cases attached
  · exact rests runs

/-- Nothing has changed about a thread but its context. -/
structure SameThread (data data' : ThreadData) : Prop where
  attached : data'.attached = data.attached
  state : data'.state = data.state
  cpu : data'.cpu = data.cpu

theorem SameThread.refl (data : ThreadData) : SameThread data data := ⟨rfl, rfl, rfl⟩

theorem sameThread_update (threads : Thread → ThreadData) (thread found : Thread)
    (context : IntStackFrame) :
    SameThread (threads found)
      (Function.update threads thread { threads thread with context := context } found) := by
  rw [Function.update_apply]
  split
  · rename_i same
    subst same
    exact ⟨rfl, rfl, rfl⟩
  · exact .refl _

omit [DecidableEq Thread] in
theorem Queued.congr (queued : Queued threads cpu cpud)
    (same : ∀ thread ∈ cpud.queue, SameThread (threads thread) (threads' thread))
    (queue : cpud'.queue = cpud.queue) (current : cpud'.current = cpud.current) :
    Queued threads' cpu cpud' := by
  constructor
  · rw [queue]
    intro thread isQueued
    obtain ⟨attached, state, cpu⟩ := same thread isQueued
    rw [attached, state, cpu]
    exact queued.threads thread isQueued
  · rw [queue]
    exact queued.nodup
  · rw [queue, current]
    exact queued.current

/-- A change of a thread that is not in the run queues. -/
theorem Queued.update (queued : Queued threads cpu cpud) (rests : thread ∉ cpud.queue) :
    Queued (Function.update threads thread data) cpu cpud := by
  refine queued.congr (fun found isQueued => ?_) rfl rfl
  rw [Function.update_of_ne]
  · exact .refl _
  · rintro rfl
    exact rests isQueued

/-- A thread is removed. -/
theorem Queued.erase (queued : Queued threads cpu cpud) (thread : Thread)
    (notCurrent : cpud.current ≠ some thread) :
    Queued threads cpu { cpud with queue := cpud.queue.erase thread } := by
  refine ⟨fun found isQueued => ?_, queued.nodup.erase thread, fun found isCurrent => ?_⟩
  · exact queued.threads found (List.mem_of_mem_erase isQueued)
  · have different : found ≠ thread := by
      rintro rfl
      exact notCurrent isCurrent
    exact (List.mem_erase_of_ne different).mpr (queued.current found isCurrent)

/-- The current thread is removed, and the next one is chosen. -/
theorem Queued.choose (queued : Queued threads cpu cpud)
    (chosen : Chosen { cpud with queue := cpud.queue.erase thread } cpud') :
    Queued threads cpu cpud' := by
  have remain : ∀ found ∈ cpud.queue.erase thread, (threads found).attached = true ∧
      (threads found).state = .running ∧ (threads found).cpu = cpu :=
    fun found isQueued => queued.threads found (List.mem_of_mem_erase isQueued)
  cases chosen with
  | none empty => exact ⟨remain, queued.nodup.erase thread, fun _ isCurrent => by cases isCurrent⟩
  | some next isQueued =>
      refine ⟨remain, queued.nodup.erase thread, fun found isCurrent => ?_⟩
      obtain rfl := Option.some.inj isCurrent
      exact isQueued

/-- A thread is added. -/
theorem Queued.enqueue (queued : Queued threads cpu cpud) (absent : thread ∉ cpud.queue)
    (attached : (threads thread).attached = true) (runs : (threads thread).state = .running)
    (here : (threads thread).cpu = cpu) : Queued threads cpu (cpud.enqueue thread) := by
  unfold CpuData.enqueue
  split
  · refine ⟨fun found isQueued => ?_, List.nodup_singleton thread, fun found isCurrent => ?_⟩
    · obtain rfl := List.mem_singleton.mp isQueued
      exact ⟨attached, runs, here⟩
    · obtain rfl := Option.some.inj isCurrent
      exact List.mem_singleton_self thread
  · refine ⟨fun found isQueued => ?_, ?_, fun found isCurrent => ?_⟩
    · rcases List.mem_append.mp isQueued with before | isNew
      · exact queued.threads found before
      · obtain rfl := List.mem_singleton.mp isNew
        exact ⟨attached, runs, here⟩
    · simpa using queued.nodup.concat absent
    · exact List.mem_append_left [thread] (queued.current found isCurrent)

/-- Only a resumed thread changes its state. -/
theorem Handled.sameThread (handled : Handled platform state cpu stackFrame cpud threads)
    (different : (state.cpus cpu).task.type = .resume →
      (state.cpus cpu).task.thread ≠ some thread) :
    SameThread (state.threads thread) (threads thread) := by
  cases handled with
  | resumed found type isThread =>
      rw [Function.update_of_ne]
      · exact .refl _
      · rintro rfl
        exact different type isThread
  | notFound => exact .refl _
  | dequeued => exact .refl _
  | halted found =>
      split
      · exact sameThread_update ..
      · exact .refl _

/-- The tasks keep the run queues in order. -/
theorem Handled.queued (handled : Handled platform state cpu stackFrame cpud threads)
    (queues : ∀ cpu, Queued state.threads cpu (state.cpus cpu))
    (rests : ∀ thread, (state.cpus cpu).task.type = .resume →
      (state.cpus cpu).task.thread = some thread →
      (state.threads thread).attached = true ∧ (state.threads thread).state ≠ .running) :
    ∀ other, Queued threads other (Function.update state.cpus cpu cpud other) := by
  have kept : ∀ other, ∀ thread ∈ (state.cpus other).queue,
      SameThread (state.threads thread) (threads thread) := by
    intro other thread isQueued
    refine handled.sameThread fun type isThread => ?_
    exact dequeued_of_rests queues (.inr (rests thread type isThread).2) other isQueued
  intro other
  by_cases here : other = cpu
  · subst here
    rw [Function.update_self]
    cases handled with
    | resumed thread type isThread =>
        obtain ⟨attached, notRunning⟩ := rests thread type isThread
        have absent := dequeued_of_rests queues (.inr notRunning) other
        have updated := (queues other).congr (kept other) rfl rfl
        have resumed := updated.enqueue absent (by simpa using attached) (by simp) (by simp)
        exact resumed.congr (fun _ _ => .refl _) rfl rfl
    | notFound => exact (queues other).congr (kept other) rfl rfl
    | dequeued thread _ _ _ notCurrent =>
        exact ((queues other).erase thread notCurrent).congr (fun _ _ => .refl _) rfl rfl
    | halted thread cpud _ _ _ _ chosen =>
        have updated := (queues other).congr (kept other) rfl rfl
        exact (updated.choose chosen).congr (fun _ _ => .refl _) rfl rfl
  · rw [Function.update_of_ne here]
    exact (queues other).congr (kept other) rfl rfl

/-- A thread whose pause has been carried out is in no run queue. -/
theorem Handled.notQueued (handled : Handled platform state cpu stackFrame cpud threads)
    (queues : ∀ cpu, Queued state.threads cpu (state.cpus cpu))
    (type : (state.cpus cpu).task.type = .pause)
    (isThread : (state.cpus cpu).task.thread = some thread)
    (paused : cpud.task.error = .errNone) (other : Nat) :
    thread ∉ (Function.update state.cpus cpu cpud other).queue := by
  have erased : thread ∉ (state.cpus cpu).queue.erase thread :=
    (queues cpu).nodup.not_mem_erase
  have found : state.finds cpu thread = true → other ≠ cpu →
      thread ∉ (state.cpus other).queue := by
    intro found different isQueued
    have here := (of_decide_eq_true found).2
    have there := ((queues other).threads thread isQueued).2.2
    exact different (there.symm.trans here)
  cases handled with
  | resumed thread isResume => simp [isResume] at type
  | notFound => simp at paused
  | dequeued thread' _ isThread' isFound notCurrent =>
      obtain rfl := Option.some.inj (isThread.symm.trans isThread')
      rw [Function.update_apply]
      split
      · exact erased
      · rename_i different
        exact found isFound different
  | halted thread' cpud _ isThread' isFound isCurrent chosen =>
      obtain rfl := Option.some.inj (isThread.symm.trans isThread')
      rw [Function.update_apply]
      split
      · cases chosen with
        | none empty => exact erased
        | some next isQueued => exact erased
      · rename_i different
        exact found isFound different

/-- The threads that the CPUs execute stay loaded unless they are paused. -/
theorem Handled.loaded (handled : Handled platform state cpu stackFrame cpud threads)
    (queued : Queued state.threads cpu (state.cpus cpu))
    (loaded : (state.cpus cpu).Loaded thread) (notPaused : state.pauses cpu = false) :
    cpud.Loaded thread := by
  obtain ⟨isCurrent, contextLoaded⟩ := loaded
  cases handled with
  | resumed found type isThread =>
      have nonempty : (state.cpus cpu).queue ≠ [] :=
        List.ne_nil_of_mem (queued.current thread isCurrent)
      rw [CpuData.enqueue, if_neg nonempty]
      exact ⟨isCurrent, contextLoaded⟩
  | notFound => exact ⟨isCurrent, contextLoaded⟩
  | dequeued => exact ⟨isCurrent, contextLoaded⟩
  | halted found cpud type isThread isFound foundCurrent =>
      have pauses : state.pauses cpu = true := by
        simp [State.pauses, type, isThread, isFound, foundCurrent]
      rw [pauses] at notPaused
      cases notPaused

/-- What the answer of a CPU says about the thread of the message. -/
theorem Handled.selfHalt_iff (handled : Handled platform state cpu stackFrame cpud threads)
    (type : (state.cpus cpu).task.type = .pause)
    (isThread : (state.cpus cpu).task.thread = some thread)
    (found : state.finds cpu thread = true) :
    cpud.task.type = .selfHalt ↔ stackFrame = false ∧ (state.cpus cpu).current = some thread := by
  cases handled with
  | resumed _ isResume => simp [isResume] at type
  | notFound thread' _ isThread' absent =>
      obtain rfl := Option.some.inj (isThread.symm.trans isThread')
      rw [found] at absent
      cases absent
  | dequeued thread' _ isThread' _ notCurrent =>
      obtain rfl := Option.some.inj (isThread.symm.trans isThread')
      simp [type, notCurrent]
  | halted thread' cpud _ isThread' _ isCurrent =>
      obtain rfl := Option.some.inj (isThread.symm.trans isThread')
      cases stackFrame <;> simp [isCurrent]

theorem exists_of_pauses (pauses : state.pauses cpu = true) :
    ∃ thread, (state.cpus cpu).task.type = .pause ∧
      (state.cpus cpu).task.thread = some thread ∧ state.finds cpu thread = true ∧
      (state.cpus cpu).current = some thread := by
  unfold State.pauses at pauses
  split at pauses
  · rename_i thread type isThread
    obtain ⟨isFound, isCurrent⟩ := of_decide_eq_true pauses
    exact ⟨thread, type, isThread, isFound, isCurrent⟩
  · cases pauses

/-- A CPU that pauses its current thread without a stack frame is to halt itself. -/
theorem Handled.task_of_pauses (handled : Handled platform state cpu false cpud threads)
    (pauses : state.pauses cpu = true) :
    cpud.task = { (state.cpus cpu).task with type := .selfHalt, error := .errNone } := by
  obtain ⟨thread, type, isThread, isFound, isCurrent⟩ := exists_of_pauses pauses
  cases handled with
  | resumed found isResume => simp [isResume] at type
  | notFound found _ isThread' absent =>
      obtain rfl := Option.some.inj (isThread.symm.trans isThread')
      rw [isFound] at absent
      cases absent
  | dequeued found _ isThread' _ notCurrent =>
      obtain rfl := Option.some.inj (isThread.symm.trans isThread')
      exact absurd isCurrent notCurrent
  | halted => rfl

theorem Handled.pending (handled : Handled platform state cpu stackFrame cpud threads) :
    cpud.pending = (state.cpus cpu).pending := by
  cases handled with
  | resumed found =>
      unfold CpuData.enqueue
      split <;> rfl
  | notFound => rfl
  | dequeued => rfl
  | halted found cpud _ _ _ _ chosen => cases chosen <;> rfl

/-! ## The timer interrupt -/

theorem Scheduled.sameThread (scheduled : Scheduled state cpu dispatched cpud threads)
    (thread : Thread) : SameThread (state.threads thread) (threads thread) := by
  cases scheduled with
  | switches => exact sameThread_update ..
  | _ => exact .refl _

/-- What the timer interrupt leaves of the CPU. -/
theorem Scheduled.same (scheduled : Scheduled state cpu dispatched cpud threads) :
    cpud.queue = (state.cpus cpu).queue ∧ cpud.task = (state.cpus cpu).task ∧
      cpud.pending = (state.cpus cpu).pending := by
  cases scheduled <;> exact ⟨rfl, rfl, rfl⟩

/-- The thread that the timer interrupt dispatches, if any, is loaded. -/
theorem Scheduled.loaded (scheduled : Scheduled state cpu dispatched cpud threads) :
    (∃ thread, dispatched = some thread ∧ cpud.Loaded thread) ∨
      dispatched = none ∧ cpud = state.cpus cpu := by
  cases scheduled with
  | idle => exact .inr ⟨rfl, rfl⟩
  | loads thread isCurrent => exact .inl ⟨thread, rfl, isCurrent, rfl⟩
  | stays => exact .inr ⟨rfl, rfl⟩
  | switches thread thread2 _ loaded => exact .inl ⟨thread2, rfl, rfl, loaded⟩

theorem Scheduled.queued (scheduled : Scheduled state cpu dispatched cpud threads)
    (queued : Queued state.threads cpu (state.cpus cpu)) : Queued threads cpu cpud := by
  have before := queued.congr (fun thread _ => scheduled.sameThread thread) rfl rfl
  cases scheduled with
  | idle => exact before
  | loads => exact before.congr (fun _ _ => .refl _) rfl rfl
  | stays => exact before
  | switches thread thread2 _ _ isQueued =>
      refine ⟨before.threads, before.nodup, fun found isCurrent => ?_⟩
      obtain rfl := Option.some.inj isCurrent
      exact isQueued

end Steps

end Tasks
end ToyKernel
