import ToyKernel.Tasks.Exclusion
import ToyKernel.Tasks.Queues

/-!
# What the calls rely on

The thread that a call is about, and the message that it has posted, stay as the call has left
them until its next step, since all who change them are under `inactive.lock`.
-/

namespace ToyKernel
namespace Tasks

open Masking (Agent Lock)
open Scheduler (Platform)

variable {Thread : Type}

/-- The message of a CPU whose thread halts itself. -/
def selfHaltTask (thread : Thread) (lockToRelease : Option Address) : CpuTask Thread where
  type := .selfHalt
  error := .errNone
  thread := some thread
  lock := lockToRelease

/-- The positions in a call at which a thread has left the run queues of a CPU and is about to
halt itself there. -/
def Call.Departs (call : Call Thread) (task : CpuTask Thread) (cpu : Nat) (thread : Thread) :
    Prop :=
  ∃ stop lockToRelease, call.request = .deactivateThread stop thread lockToRelease ∧
    task = selfHaltTask thread lockToRelease ∧
    (call.stage = .copy cpu ∨ call.stage = .finish (selfHaltTask thread lockToRelease) ∨
      call.stage = .interrupt)

namespace State

/-- The thread of a message is as its issuer has found it. -/
def Prepared (state : State Thread) (request : Request Thread) (cpu : Nat)
    (task : CpuTask Thread) : Prop :=
  match request with
  | .resumeThread id =>
      task = { type := .resume, error := .errNone, thread := some id, lock := none } ∧
        (state.threads id).attached = true ∧ (state.threads id).state = .paused
  | .deactivateThread _ id lockToRelease =>
      task = { type := .pause, error := .errNone, thread := some id, lock := lockToRelease } ∧
        (state.threads id).state = .running ∧ (state.threads id).cpu = cpu
  | _ => False

/-- A thread whose pause has been carried out is in no run queue, and it is that of the
caller if and only if the caller has to halt itself. -/
def Answered (state : State Thread) (agent : Agent Thread) (request : Request Thread)
    (task : CpuTask Thread) : Prop :=
  ∀ stop id lockToRelease, request = .deactivateThread stop id lockToRelease →
    task.error = .errNone →
      state.Dequeued id ∧ (task.type = .selfHalt ↔ agent = .thread id)

/-- A task waits to be handled. -/
def Outstanding (state : State Thread) (agent : Agent Thread) (request : Request Thread)
    (cpu : Nat) : Prop :=
  (state.cpus cpu).pending = true ∧ (∃ task, state.Prepared request cpu task ∧
    (state.cpus cpu).task = { task with error := .errBusy }) ∧
    ∀ stop id lockToRelease, request = .deactivateThread stop id lockToRelease →
      agent ≠ .thread id

/-- What an agent relies on at a position of a call. -/
def Keeps (state : State Thread) (agent : Agent Thread) (call : Call Thread) : Prop :=
  match call.stage with
  | .lockAll | .lockInactive | .body | .attempt | .halted => True
  | .lockCpu cpu task | .post cpu task => state.Prepared call.request cpu task
  | .wait cpu =>
      state.Outstanding agent call.request cpu ∨
        (state.cpus cpu).pending = false ∧
          state.Answered agent call.request (state.cpus cpu).task
  | .copy cpu => state.Answered agent call.request (state.cpus cpu).task
  | .unlockCpu _ task | .finish task => state.Answered agent call.request task
  | .interrupt => ∃ stop id lockToRelease,
      call.request = .deactivateThread stop id lockToRelease ∧ agent = .thread id ∧
        state.Dequeued id ∧ id ∈ state.inactive ∧ (state.threads id).state ≠ .running
  | .unlockInactive err | .unlockAll err => ∀ stop id lockToRelease,
      call.request = .deactivateThread stop id lockToRelease → agent = .thread id →
        err ≠ .errNone

/-- A thread has left the run queues of a CPU and is about to halt itself there. -/
def Departs (state : State Thread) (cpu : Nat) (thread : Thread) : Prop :=
  ∃ call, state.calls (.thread thread) = some call ∧ call.Departs (state.cpus cpu).task cpu thread

end State

/-- The run queues, the threads that the CPUs execute, the messages and the calls fit each
other. -/
structure Protocol (state : State Thread) : Prop where
  queues : ∀ cpu, Queued state.threads cpu (state.cpus cpu)
  executes : ∀ cpu thread, (state.masking.cores cpu).code = .thread thread →
    (state.cpus cpu).Loaded thread ∨ state.Departs cpu thread
  duties : ∀ agent call, state.calls agent = some call → state.Keeps agent call
  pending : ∀ cpu, (state.cpus cpu).pending = true → ∃ agent, state.Loops agent cpu
  timers : ∀ cpu call, state.calls (.handler cpu) = some call →
    ∃ id, call.request = .resumeThread id

/-- Nothing has changed that the calls rely on. -/
structure Agrees (state next : State Thread) : Prop where
  threads : ∀ thread, SameThread (state.threads thread) (next.threads thread)
  inactive : next.inactive = state.inactive
  queue : ∀ cpu, (next.cpus cpu).queue = (state.cpus cpu).queue
  task : ∀ cpu, (next.cpus cpu).task = (state.cpus cpu).task
  pending : ∀ cpu, (next.cpus cpu).pending = (state.cpus cpu).pending

section Frame

variable {state next : State Thread} {agent : Agent Thread} {call : Call Thread} {cpu : Nat}
  {request : Request Thread} {task : CpuTask Thread} {thread : Thread}

theorem Agrees.prepared (agrees : Agrees state next) (prepared : state.Prepared request cpu task) :
    next.Prepared request cpu task := by
  cases request with
  | resumeThread id =>
      rw [State.Prepared] at prepared ⊢
      rw [(agrees.threads id).attached, (agrees.threads id).state]
      exact prepared
  | deactivateThread stop id lockToRelease =>
      rw [State.Prepared] at prepared ⊢
      rw [(agrees.threads id).state, (agrees.threads id).cpu]
      exact prepared
  | attachThread thread => cases prepared
  | detachThread id => cases prepared

theorem Agrees.dequeued (agrees : Agrees state next) (dequeued : state.Dequeued thread) :
    next.Dequeued thread := by
  intro cpu
  rw [agrees.queue]
  exact dequeued cpu

theorem Agrees.answered (agrees : Agrees state next)
    (answered : state.Answered agent request task) : next.Answered agent request task := by
  intro stop id lockToRelease isRequest paused
  obtain ⟨dequeued, isSelf⟩ := answered stop id lockToRelease isRequest paused
  exact ⟨agrees.dequeued dequeued, isSelf⟩

theorem Agrees.keeps (agrees : Agrees state next) (keeps : state.Keeps agent call) :
    next.Keeps agent call := by
  unfold State.Keeps at keeps ⊢
  cases stage : call.stage with
  | lockAll | lockInactive | body | attempt | halted => trivial
  | lockCpu cpu task | post cpu task =>
      rw [stage] at keeps
      exact agrees.prepared keeps
  | wait cpu =>
      rw [stage] at keeps
      dsimp only [State.Outstanding] at keeps ⊢
      rw [agrees.pending, agrees.task]
      rcases keeps with ⟨isPending, ⟨task, prepared, isTask⟩, other⟩ | ⟨handled, answered⟩
      · exact .inl ⟨isPending, ⟨task, agrees.prepared prepared, isTask⟩, other⟩
      · exact .inr ⟨handled, agrees.answered answered⟩
  | copy cpu =>
      rw [stage] at keeps
      dsimp only at keeps ⊢
      rw [agrees.task]
      exact agrees.answered keeps
  | unlockCpu cpu task | finish task =>
      rw [stage] at keeps
      exact agrees.answered keeps
  | interrupt =>
      rw [stage] at keeps
      obtain ⟨stop, id, lockToRelease, isRequest, isAgent, dequeued, isInactive, rests⟩ := keeps
      refine ⟨stop, id, lockToRelease, isRequest, isAgent, agrees.dequeued dequeued, ?_, ?_⟩
      · rw [agrees.inactive]
        exact isInactive
      · rw [(agrees.threads id).state]
        exact rests
  | unlockInactive err | unlockAll err =>
      rw [stage] at keeps
      exact keeps

/-- A call that is not under `inactive.lock` relies on nothing that can change. -/
theorem keeps_of_outside (outside : call.stage.inside = false) (keeps : state.Keeps agent call) :
    next.Keeps agent call := by
  unfold State.Keeps at keeps ⊢
  cases stage : call.stage with
  | lockAll | lockInactive | body | halted => trivial
  | unlockAll err =>
      rw [stage] at keeps
      exact keeps
  | _ =>
      rw [stage] at outside
      cases outside

theorem inside_of_loops (loops : state.Loops agent cpu) : state.Inside agent := by
  obtain ⟨call, isCall, waits⟩ := loops
  exact ⟨call, isCall, .inl (by rw [waits]; rfl)⟩

theorem inside_of_departs (departs : state.Departs cpu thread) : state.Inside (.thread thread) := by
  obtain ⟨call, isCall, stop, lockToRelease, -, -, stage⟩ := departs
  refine ⟨call, isCall, .inl ?_⟩
  rcases stage with stage | stage | stage
  · rw [stage]
    rfl
  · rw [stage]
    rfl
  · rw [stage]
    rfl

/-- Nothing changes but the contexts, the registers, and the threads that the CPUs execute. -/
theorem Protocol.agrees (protocol : Protocol state) (agrees : Agrees state next)
    (queues : ∀ cpu, Queued next.threads cpu (next.cpus cpu)) (calls : next.calls = state.calls)
    (executes : ∀ cpu thread, (next.masking.cores cpu).code = .thread thread →
      (next.cpus cpu).Loaded thread ∨ next.Departs cpu thread) : Protocol next where
  queues := queues
  executes := executes
  duties agent call isCall := by
    rw [calls] at isCall
    exact agrees.keeps (protocol.duties agent call isCall)
  pending cpu isPending := by
    rw [agrees.pending] at isPending
    unfold State.Loops
    rw [calls]
    exact protocol.pending cpu isPending
  timers cpu call isCall := by
    rw [calls] at isCall
    exact protocol.timers cpu call isCall

theorem departs_congr (calls : next.calls (.thread thread) = state.calls (.thread thread))
    (task : (next.cpus cpu).task = (state.cpus cpu).task) :
    next.Departs cpu thread ↔ state.Departs cpu thread := by
  unfold State.Departs
  rw [calls, task]

end Frame

section Steps

variable [DecidableEq Thread] {platform : Platform} {state result : State Thread}
  {action : Action Thread} {masking : Masking.State Thread} {agent : Agent Thread}
  {call : Call Thread} {cpu other : Nat} {thread : Thread}

/-! ## The other CPUs -/

omit [DecidableEq Thread] in
theorem inside_of_posts (posts : Posts state action agent other) :
    state.Inside agent ∧ state.masking.agent action.cpu = some agent := by
  obtain ⟨cpu, choice, next, call, task, rfl, called, stage, -⟩ := posts
  exact ⟨inside_of_calling called (.inl (by rw [stage]; rfl)), (calling_eq_some called).1⟩

/-- A step changes another CPU only by posting a task. -/
theorem cpus_other (taken : state.actTasks platform action = some result)
    (different : other ≠ action.cpu) :
    result.cpus other = state.cpus other ∨
      ∃ agent task, Posts state action agent other ∧
        result.cpus other = { state.cpus other with task := task, pending := true } := by
  cases action with
  | acquire cpu lock =>
      obtain rfl := Option.some.inj taken
      exact .inl rfl
  | release cpu =>
      obtain rfl := Option.some.inj taken
      exact .inl rfl
  | spin cpu =>
      obtain rfl := Option.some.inj taken
      exact .inl rfl
  | call cpu request =>
      obtain ⟨agent, called, taken⟩ := Option.bind_eq_some_iff.mp taken
      obtain ⟨-, taken⟩ := Option.ite_none_right_eq_some.mp taken
      obtain rfl := Option.some.inj taken
      exact .inl rfl
  | advance cpu target next =>
      obtain ⟨⟨agent, call⟩, called, taken⟩ := Option.bind_eq_some_iff.mp taken
      obtain ⟨moved, cpus, advanced, rfl, -⟩ := advance_cases taken
      dsimp only [Action.cpu] at different
      generalize isCpus : result.cpus = cpus at advanced ⊢
      cases advanced with
      | issues posted task posts away =>
          by_cases isTarget : other = posted
          · subst isTarget
            rw [Function.update_self]
            exact .inr ⟨agent, _, ⟨cpu, target, next, call, task, rfl, called, posts, away⟩, rfl⟩
          · rw [Function.update_of_ne isTarget]
            exact .inl rfl
      | handles => exact .inl (Function.update_of_ne different ..)
      | moves => exact .inl rfl
  | execute cpu frame =>
      obtain ⟨agent, -, taken⟩ := Option.bind_eq_some_iff.mp taken
      split at taken
      · obtain rfl := Option.some.inj taken
        exact .inl (Function.update_of_ne different ..)
      · cases taken
  | timer cpu next fires =>
      obtain ⟨cpud, threads, -, rfl⟩ := schedule_cases taken
      exact .inl (Function.update_of_ne different ..)
  | task cpu next =>
      obtain ⟨-, taken⟩ := Option.ite_none_right_eq_some.mp taken
      obtain ⟨middle, handles, taken⟩ := Option.bind_eq_some_iff.mp taken
      obtain ⟨cpud, threads, -, rfl⟩ := handleTask_cases handles
      obtain rfl := Option.some.inj taken
      left
      dsimp only [Action.cpu] at different
      simp [State.setCpu, different]
  | selfHalt cpu =>
      dsimp only [Action.cpu] at different
      obtain ⟨halt, -, taken⟩ := Option.bind_eq_some_iff.mp taken
      dsimp only at taken
      split at taken
      · obtain ⟨thread, -, taken⟩ := Option.bind_eq_some_iff.mp taken
        obtain rfl := Option.some.inj taken
        left
        simp [State.setHalt, State.setCpu, State.setThread, different]
      all_goals
        obtain rfl := Option.some.inj taken
        exact .inl rfl
  | timerReturns cpu =>
      obtain ⟨-, taken⟩ := Option.ite_none_right_eq_some.mp taken
      obtain rfl := Option.some.inj taken
      exact .inl rfl

/-- The other CPUs go on with what they execute. -/
theorem Protocol.executes_other (protocol : Protocol state) (locked : Locked state)
    (orderly : Orderly platform state.masking)
    (step : MaskingStep platform action.cpu state.masking action.kind masking)
    (taken : state.actTasks platform action = some result) (different : other ≠ action.cpu)
    (code : (masking.cores other).code = .thread thread) :
    (result.cpus other).Loaded thread ∨ result.Departs other thread := by
  rw [step.others.1 other different] at code
  have notMover : state.masking.agent action.cpu ≠ some (.thread thread) := by
    intro runs
    rcases Masking.State.agent_eq_some_iff.mp runs with ⟨-, same⟩ | ⟨_, -, here, same⟩
    · cases same
    · obtain rfl := Masking.Agent.thread.inj same
      exact different (orderly.alone other action.cpu thread code here)
  have calls := (calls_of_act taken).others _ notMover
  rcases cpus_other taken different with same | ⟨poster, task, posts, isPosted⟩
  · rw [same]
    exact (protocol.executes other thread code).imp id (departs_congr calls (by rw [same])).mpr
  · rcases protocol.executes other thread code with loaded | departs
    · left
      rw [isPosted]
      exact loaded
    · obtain ⟨isInside, runs⟩ := inside_of_posts posts
      rw [locked.exclusive isInside (inside_of_departs departs)] at runs
      exact absurd runs notMover

end Steps

end Tasks
end ToyKernel
