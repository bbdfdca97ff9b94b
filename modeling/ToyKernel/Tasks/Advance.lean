import ToyKernel.Tasks.Handlers

/-!
# The steps of a call

The outcomes of the next step of a call of the scheduler: the call only changes its position,
it changes the threads, it uses the message of a CPU, or it ends.
-/

namespace ToyKernel
namespace Tasks

open Masking (Agent Lock)
open Scheduler (Platform)

variable {Thread : Type} [DecidableEq Thread]

/-- A step that only changes the position of a call. -/
inductive Flow (state : State Thread) (call : Call Thread) : Call Thread → Prop
  | locksAll (stage : call.stage = .lockAll) : Flow state call (call.goto .lockInactive)
  | locksInactive (stage : call.stage = .lockInactive) : Flow state call (call.goto .body)
  | refuses (err : ErrCode) (stage : call.stage = .body) (fails : err ≠ .errNone) :
      Flow state call (call.goto (.unlockInactive err))
  | finds (stop : Bool) (id : Thread) (lockToRelease : Option Address)
      (request : call.request = .deactivateThread stop id lockToRelease)
      (stage : call.stage = .body) (attached : (state.threads id).attached = true) :
      Flow state call (call.goto .attempt)
  | fails (stop : Bool) (id : Thread) (lockToRelease : Option Address) (err : ErrCode)
      (request : call.request = .deactivateThread stop id lockToRelease)
      (stage : call.stage = .attempt)
      (refused : err ≠ .errNone ∨ (state.threads id).state ≠ .running) :
      Flow state call (call.goto (.unlockInactive err))
  | pauses (stop : Bool) (id : Thread) (lockToRelease : Option Address) (tries : Nat)
      (request : call.request = .deactivateThread stop id lockToRelease)
      (stage : call.stage = .attempt) (runs : (state.threads id).state = .running) :
      Flow state call { call with
        tries := tries
        stage := .lockCpu (state.threads id).cpu
          { type := .pause, error := .errNone, thread := some id, lock := lockToRelease } }
  | locksCpu (target : Nat) (task : CpuTask Thread) (stage : call.stage = .lockCpu target task) :
      Flow state call (call.goto (.post target task))
  | hears (target : Nat) (stage : call.stage = .wait target)
      (answered : (state.cpus target).task.error ≠ .errBusy) :
      Flow state call (call.goto (.copy target))
  | copiesOwn (target : Nat) (stage : call.stage = .copy target)
      (type : (state.cpus target).task.type = .selfHalt) :
      Flow state call (call.goto (.finish (state.cpus target).task))
  | copies (target : Nat) (stage : call.stage = .copy target)
      (type : (state.cpus target).task.type ≠ .selfHalt) :
      Flow state call (call.goto (.unlockCpu target (state.cpus target).task))
  | unlocksCpu (target : Nat) (task : CpuTask Thread)
      (stage : call.stage = .unlockCpu target task) :
      Flow state call (call.goto (.finish task))
  | resumed (id : Thread) (task : CpuTask Thread) (request : call.request = .resumeThread id)
      (stage : call.stage = .finish task) :
      Flow state call (call.goto (.unlockInactive .errNone))
  | retries (stop : Bool) (id : Thread) (lockToRelease : Option Address)
      (task : CpuTask Thread) (request : call.request = .deactivateThread stop id lockToRelease)
      (stage : call.stage = .finish task) (failed : task.error ≠ .errNone) :
      Flow state call (call.goto .attempt)
  | failed (stop : Bool) (id : Thread) (lockToRelease : Option Address)
      (task : CpuTask Thread) (request : call.request = .deactivateThread stop id lockToRelease)
      (stage : call.stage = .finish task) (failed : task.error ≠ .errNone) :
      Flow state call (call.goto (.unlockInactive task.error))
  | unlocksInactive (err : ErrCode) (stage : call.stage = .unlockInactive err)
      (request : ∀ stop id lockToRelease,
        call.request ≠ .deactivateThread stop id lockToRelease) :
      Flow state call (call.goto (.unlockAll err))

/-- A step that changes a thread in no run queue, or the `inactive` list. -/
inductive Change (state : State Thread) (call : Call Thread) :
    Stage Thread → (Thread → ThreadData) → List Thread → Prop
  | attaches (thread : Thread) (request : call.request = .attachThread thread)
      (stage : call.stage = .body) (detached : (state.threads thread).attached = false) :
      Change state call (.unlockInactive .errNone)
        (Function.update state.threads thread
          { state.threads thread with attached := true, state := .paused })
        (thread :: state.inactive)
  | detaches (id : Thread) (request : call.request = .detachThread id)
      (stage : call.stage = .body) (rests : (state.threads id).state ≠ .running) :
      Change state call (.unlockInactive .errNone)
        (Function.update state.threads id { state.threads id with attached := false })
        (state.inactive.erase id)
  | resumes (id : Thread) (target : Nat) (request : call.request = .resumeThread id)
      (stage : call.stage = .body) (attached : (state.threads id).attached = true)
      (paused : (state.threads id).state = .paused) :
      Change state call
        (.lockCpu target { type := .resume, error := .errNone, thread := some id, lock := none })
        state.threads (state.inactive.erase id)
  | stops (id : Thread) (lockToRelease : Option Address)
      (request : call.request = .deactivateThread true id lockToRelease)
      (stage : call.stage = .attempt) (paused : (state.threads id).state = .paused) :
      Change state call (.unlockInactive .errNone)
        (Function.update state.threads id { state.threads id with state := .stopped })
        state.inactive
  | parks (stop : Bool) (id : Thread) (lockToRelease : Option Address) (task : CpuTask Thread)
      (request : call.request = .deactivateThread stop id lockToRelease)
      (stage : call.stage = .finish task) (paused : task.error = .errNone) :
      Change state call (if task.type = .selfHalt then .interrupt else .unlockInactive .errNone)
        (Function.update state.threads id
          { state.threads id with state := if stop then .stopped else .paused })
        (id :: state.inactive)

/-- What the next step of a call does, with the call after it. -/
inductive Advances (platform : Platform) (state : State Thread) (cpu : Nat)
    (agent : Agent Thread) (call : Call Thread) : Option (Call Thread) → State Thread → Prop
  | moves (moved : Call Thread) (flow : Flow state call moved) :
      Advances platform state cpu agent call (some moved) (state.setCall agent (some moved))
  | changes (stage : Stage Thread) (threads : Thread → ThreadData) (inactive : List Thread)
      (change : Change state call stage threads inactive) :
      Advances platform state cpu agent call (some (call.goto stage))
        ({ state with threads := threads, inactive := inactive }.goto agent call stage)
  | handles (task : CpuTask Thread) (cpud : CpuData Thread) (threads : Thread → ThreadData)
      (stage : call.stage = .post cpu task)
      (handled : Handled platform (state.setTask cpu fun _ => task) cpu false cpud threads) :
      Advances platform state cpu agent call (some (call.goto (.copy cpu)))
        ({ state with
          threads := threads
          cpus := Function.update state.cpus cpu cpud }.goto agent call (.copy cpu))
  | issues (target : Nat) (task : CpuTask Thread) (stage : call.stage = .post target task)
      (away : target ≠ cpu) :
      Advances platform state cpu agent call (some (call.goto (.wait target)))
        ((state.setCpu target ({ · with
          task := { task with error := .errBusy }, pending := true })).goto agent call
            (.wait target))
  | halts (thread id : Thread) (stop : Bool) (lockToRelease : Option Address)
      (isThread : agent = .thread thread)
      (request : call.request = .deactivateThread stop id lockToRelease)
      (stage : call.stage = .interrupt) :
      Advances platform state cpu agent call (some (call.goto .halted))
        ((state.setHalt cpu (some
          { stage := .save
            thread := thread
            lockToRelease := lockToRelease
            frame := (state.cpus cpu).frame
            parked := thread ∈ state.inactive ∧ (state.threads thread).state ≠ .running
            reads := [(state.cpus cpu).task]
            effects := [] })).goto agent call .halted)
  | continues (stage : call.stage = .halted) :
      Advances platform state cpu agent call none (state.setCall agent none)
  | returns (err : ErrCode)
      (stage : call.stage = .unlockInactive err ∨ call.stage = .unlockAll err) :
      Advances platform state cpu agent call none (state.leave agent call err)

/-- What the next step of a call does to the calls and to the CPUs. -/
inductive Advanced (platform : Platform) (state : State Thread) (cpu : Nat)
    (call : Call Thread) : Option (Call Thread) → (Nat → CpuData Thread) → Prop
  | issues (target : Nat) (task : CpuTask Thread) (posts : call.stage = .post target task)
      (away : target ≠ cpu) :
      Advanced platform state cpu call (some (call.goto (.wait target)))
        (Function.update state.cpus target
          { state.cpus target with task := { task with error := .errBusy }, pending := true })
  | handles (task : CpuTask Thread) (cpud : CpuData Thread) (threads : Thread → ThreadData)
      (posts : call.stage = .post cpu task)
      (handled : Handled platform (state.setTask cpu fun _ => task) cpu false cpud threads) :
      Advanced platform state cpu call (some (call.goto (.copy cpu)))
        (Function.update state.cpus cpu cpud)
  | moves (next : Option (Call Thread)) (notPost : ∀ target task, call.stage ≠ .post target task)
      (notWaiting : ∀ target, ∀ moved ∈ next, moved.stage ≠ .wait target) :
      Advanced platform state cpu call next state.cpus

section Steps

variable {platform : Platform} {state after : State Thread} {cpu target : Nat}
  {agent : Agent Thread} {call : Call Thread} {next : Option Thread}

theorem advances_of_flow {moved : Call Thread} (flow : Flow state call moved)
    (taken : some (state.setCall agent (some moved)) = some after) :
    ∃ moved, Advances platform state cpu agent call moved after :=
  Option.some.inj taken ▸ ⟨_, .moves moved flow⟩

theorem advances_of_change {stage : Stage Thread} {threads : Thread → ThreadData}
    {inactive : List Thread} (change : Change state call stage threads inactive)
    (taken : some ({ state with threads := threads, inactive := inactive }.goto agent call stage) =
      some after) :
    ∃ moved, Advances platform state cpu agent call moved after :=
  Option.some.inj taken ▸ ⟨_, .changes stage threads inactive change⟩

theorem advances_of_enterBody (stage : call.stage = .body)
    (taken : State.enterBody platform state agent call target = some after) :
    ∃ moved, Advances platform state cpu agent call moved after := by
  unfold State.enterBody at taken
  split at taken
  · rename_i thread request
    dsimp only [State.attachThread] at taken
    split at taken
    · exact advances_of_flow (.refuses _ stage (by simp)) taken
    · rename_i detached
      exact advances_of_change (.attaches thread request stage (by simpa using detached)) taken
  · rename_i id request
    dsimp only [State.detachThread] at taken
    split at taken
    · split at taken
      · rename_i rests
        refine advances_of_change (.detaches id request stage ?_) taken
        rcases rests with rests | rests
        · simp [rests]
        · simp [rests]
      · exact advances_of_flow (.refuses _ stage (by simp)) taken
    · exact advances_of_flow (.refuses _ stage (by simp)) taken
  · rename_i id request
    split at taken
    · rename_i attached
      split at taken
      · rename_i paused
        obtain ⟨-, taken⟩ := Option.ite_none_right_eq_some.mp taken
        exact advances_of_change (.resumes id target request stage attached paused) taken
      · exact advances_of_flow (.refuses _ stage (by simp)) taken
    · exact advances_of_flow (.refuses _ stage (by simp)) taken
  · rename_i stop id lockToRelease request
    split at taken
    · rename_i attached
      exact advances_of_flow (.finds stop id lockToRelease request stage attached) taken
    · exact advances_of_flow (.refuses _ stage (by simp)) taken

theorem advances_of_attempt (stage : call.stage = .attempt)
    (taken : state.attempt agent call = some after) :
    ∃ moved, Advances platform state cpu agent call moved after := by
  unfold State.attempt at taken
  split at taken
  · rename_i stop id lockToRelease request _
    exact advances_of_flow (.fails stop id lockToRelease _ request stage (.inl (by simp))) taken
  · rename_i stop id lockToRelease tries request _
    split at taken
    · rename_i runs
      exact advances_of_flow (.pauses stop id lockToRelease tries request stage runs) taken
    · rename_i paused
      split at taken
      · rename_i isStop
        exact advances_of_change (.stops id lockToRelease (isStop ▸ request) stage paused) taken
      · exact advances_of_flow (.fails stop id lockToRelease _ request stage (.inl (by simp)))
          taken
    · exact advances_of_flow (.fails stop id lockToRelease _ request stage (.inl (by simp))) taken
    · rename_i unknown
      exact advances_of_flow
        (.fails stop id lockToRelease _ request stage (.inr (by simp [unknown]))) taken
  · cases taken

theorem advances_of_finish {task : CpuTask Thread} (stage : call.stage = .finish task)
    (taken : state.finish agent call task = some after) :
    ∃ moved, Advances platform state cpu agent call moved after := by
  unfold State.finish at taken
  split at taken
  · rename_i id request
    exact advances_of_flow (.resumed id task request stage) taken
  · rename_i stop id lockToRelease request
    split at taken
    · rename_i paused
      have change : Change state call _ _ _ :=
        .parks stop id lockToRelease task request stage paused
      dsimp only at taken
      split at taken
      · rename_i isSelf
        rw [if_pos isSelf] at change
        exact advances_of_change change taken
      · rename_i notSelf
        rw [if_neg notSelf] at change
        exact advances_of_change change taken
    · rename_i failed
      split at taken
      · exact advances_of_flow (.retries stop id lockToRelease task request stage failed) taken
      · exact advances_of_flow (.failed stop id lockToRelease task request stage failed) taken
  · cases taken

/-- The outcomes of the next step of a call. -/
theorem advances_of_advance
    (taken : state.advance platform cpu agent call target next = some after) :
    ∃ moved, Advances platform state cpu agent call moved after := by
  unfold State.advance at taken
  split at taken
  · rename_i stage
    exact advances_of_flow (.locksAll stage) taken
  · rename_i stage
    exact advances_of_flow (.locksInactive stage) taken
  · rename_i stage
    exact advances_of_enterBody stage taken
  · rename_i stage
    exact advances_of_attempt stage taken
  · rename_i stage
    exact advances_of_flow (.locksCpu _ _ stage) taken
  · rename_i target task stage
    unfold State.post at taken
    split at taken
    · rename_i here
      obtain ⟨handled, handles, taken⟩ := Option.bind_eq_some_iff.mp taken
      obtain ⟨cpud, threads, isHandled, rfl⟩ := handleTask_cases handles
      obtain rfl := Option.some.inj taken
      have outcome : Advances platform state cpu agent call _ _ :=
        .handles task cpud threads (here ▸ stage) isHandled
      exact ⟨_, by simpa [State.setTask, State.setCpu] using outcome⟩
    · rename_i away
      obtain rfl := Option.some.inj taken
      exact ⟨_, .issues target task stage away⟩
  · rename_i target stage
    obtain ⟨answered, taken⟩ := Option.ite_none_left_eq_some.mp taken
    exact advances_of_flow (.hears target stage answered) taken
  · rename_i target stage
    dsimp only at taken
    split at taken
    · rename_i type
      exact advances_of_flow (.copiesOwn target stage type) taken
    · rename_i type
      exact advances_of_flow (.copies target stage type) taken
  · rename_i target task stage
    exact advances_of_flow (.unlocksCpu target task stage) taken
  · rename_i task stage
    exact advances_of_finish stage taken
  · rename_i stage
    unfold State.issueLocalTask at taken
    split at taken
    · rename_i thread stop id lockToRelease request _
      obtain rfl := Option.some.inj taken
      exact ⟨_, .halts thread id stop lockToRelease rfl request stage⟩
    · cases taken
  · rename_i stage
    obtain rfl := Option.some.inj taken
    exact ⟨_, .continues stage⟩
  · rename_i err stage
    split at taken
    · rename_i request
      exact advances_of_flow (.unlocksInactive err stage (by simp [request])) taken
    · rename_i request
      exact advances_of_flow (.unlocksInactive err stage (by simp [request])) taken
    · obtain rfl := Option.some.inj taken
      exact ⟨_, .returns err (.inl stage)⟩
  · rename_i err stage
    obtain rfl := Option.some.inj taken
    exact ⟨_, .returns err (.inr stage)⟩

theorem Advances.calls {moved : Option (Call Thread)}
    (advances : Advances platform state cpu agent call moved after) :
    after.calls = Function.update state.calls agent moved := by
  cases advances <;> rfl

omit [DecidableEq Thread] in
/-- Only the position changes, so that no message is posted, and no message is waited for. -/
theorem Flow.stages {moved : Call Thread} (flow : Flow state call moved) :
    (∀ target task, call.stage ≠ .post target task) ∧ ∀ target, moved.stage ≠ .wait target := by
  cases flow <;> simp_all [Call.goto]

theorem Change.stages {stage : Stage Thread} {threads : Thread → ThreadData}
    {inactive : List Thread} (change : Change state call stage threads inactive) :
    (∀ target task, call.stage ≠ .post target task) ∧ ∀ target, stage ≠ .wait target := by
  cases change with
  | parks stop id lockToRelease task request isStage paused =>
      refine ⟨by simp [isStage], fun target => ?_⟩
      split <;> simp
  | _ => simp_all

/-- What the next step of a call does to the calls and to the CPUs. -/
theorem advance_cases
    (taken : state.advance platform cpu agent call target next = some after) :
    ∃ moved cpus, Advanced platform state cpu call moved cpus ∧ after.cpus = cpus ∧
      after.calls = Function.update state.calls agent moved := by
  obtain ⟨moved, advances⟩ := advances_of_advance taken
  refine ⟨moved, after.cpus, ?_, rfl, advances.calls⟩
  cases advances with
  | moves moved flow =>
      refine .moves _ flow.stages.1 ?_
      rintro target _ ⟨⟩
      exact flow.stages.2 target
  | changes stage threads inactive change =>
      refine .moves _ change.stages.1 ?_
      rintro target _ ⟨⟩
      exact change.stages.2 target
  | handles task cpud threads stage handled => exact .handles task cpud threads stage handled
  | issues target task stage away => exact .issues target task stage away
  | halts thread id stop lockToRelease isThread request stage =>
      exact .moves _ (by simp [stage]) (by simp [Call.goto])
  | continues stage => exact .moves _ (by simp [stage]) (by simp)
  | returns err stage =>
      refine .moves _ ?_ (by simp)
      rcases stage with stage | stage
      · simp [stage]
      · simp [stage]

end Steps

end Tasks
end ToyKernel
