import ToyKernel.Tasks.Protocol

/-!
# The steps under `inactive.lock`

Every step keeps the run queues, the messages and the calls in order: interrupts, the answer
of a CPU, and the steps of the calls.
-/

namespace ToyKernel
namespace Tasks

open Masking (Agent Lock)
open Scheduler (IntStackFrame Platform)

variable {Thread : Type} [DecidableEq Thread]

section Steps

variable {platform : Platform} {state result : State Thread}
  {action : Action Thread} {masking : Masking.State Thread} {agent : Agent Thread}
  {call : Call Thread} {cpu other : Nat} {thread : Thread}

/-! ## Steps that concern no task -/

/-- The step changes nothing that the calls rely on, and no thread begins to be executed. -/
def Action.isQuiet : Action Thread → Bool
  | .acquire _ _ | .release _ | .spin _ | .execute _ _ | .selfHalt _ | .timerReturns _ => true
  | .call _ _ | .advance _ _ _ | .timer _ _ _ | .task _ _ => false

theorem code_of_quiet (isQuiet : action.isQuiet = true)
    (taken : state.actMasking platform action = some masking) :
    (masking.cores action.cpu).code = (state.masking.cores action.cpu).code := by
  have returns : ∀ {before after : Masking.State Thread} {cpu : Nat},
      before.cores = state.masking.cores → before.returnFromInterrupt cpu = some after →
      (after.cores cpu).code = (state.masking.cores cpu).code := by
    intro before after cpu cores taken
    rw [← cores]
    obtain ⟨-, ⟨-, rfl⟩ | ⟨-, rfl⟩⟩ := Masking.State.returnFromInterrupt_cases taken
    · simp [Masking.State.returnToCode]
    · simp [Masking.State.returnToCode]
  have handsOver : ∀ {after : Masking.State Thread} {cpu : Nat},
      state.masking.handOver cpu = some after →
      (after.cores cpu).code = (state.masking.cores cpu).code := by
    intro after cpu taken
    obtain ⟨lock, older, -, -, rfl⟩ := Masking.State.handOver_eq_some taken
    rfl
  cases action with
  | acquire cpu lock =>
      obtain ⟨agent, -, taken⟩ := Option.bind_eq_some_iff.mp taken
      exact (Masking.State.acquireSpinlock_agentStep taken).code cpu
  | release cpu =>
      obtain ⟨agent, -, taken⟩ := Option.bind_eq_some_iff.mp taken
      obtain ⟨lock, -, taken⟩ := Option.bind_eq_some_iff.mp taken
      have moved : Masking.State.AgentStep cpu agent state.masking masking :=
        Masking.State.releaseSpinlock_agentStep (Option.ite_none_right_eq_some.mp taken).2
      exact moved.code cpu
  | spin cpu =>
      obtain ⟨agent, -, taken⟩ := Option.bind_eq_some_iff.mp taken
      exact (Masking.State.advance_agentStep (advance_of_spin taken)).code cpu
  | execute cpu frame =>
      obtain rfl := Option.some.inj taken
      rfl
  | selfHalt cpu =>
      obtain ⟨halt, -, taken⟩ := Option.bind_eq_some_iff.mp taken
      obtain ⟨-, taken⟩ := Option.ite_none_right_eq_some.mp taken
      split at taken
      · obtain rfl := Option.some.inj taken
        rfl
      · obtain rfl := Option.some.inj taken
        rfl
      · exact handsOver taken
      · exact handsOver taken
      · unfold State.freeGiven at taken
        split at taken
        · obtain rfl := Option.some.inj taken
          rfl
        · split at taken
          · exact handsOver taken
          · obtain rfl := Option.some.inj taken
            rfl
      · refine returns ?_ taken
        rfl
  | timerReturns cpu =>
      obtain ⟨-, taken⟩ := Option.ite_none_right_eq_some.mp taken
      exact returns rfl taken
  | call | advance | timer | task => cases isQuiet

/-- Nothing has changed but contexts and registers. -/
structure Quiet (state next : State Thread) : Prop where
  threads : ∀ thread, SameThread (state.threads thread) (next.threads thread)
  inactive : next.inactive = state.inactive
  cpus : ∀ cpu, ∃ frame, next.cpus cpu = { state.cpus cpu with frame := frame }
  calls : next.calls = state.calls

omit [DecidableEq Thread] in
theorem Quiet.agrees (quiet : Quiet state result) : Agrees state result := by
  refine ⟨quiet.threads, quiet.inactive, fun cpu => ?_, fun cpu => ?_, fun cpu => ?_⟩
  all_goals
    obtain ⟨frame, isFrame⟩ := quiet.cpus cpu
    rw [isFrame]

omit [DecidableEq Thread] in
theorem exists_frame (state : State Thread) (cpu other : Nat) (frame : IntStackFrame) :
    ∃ found, (state.setCpu cpu ({ · with frame := frame })).cpus other =
      { state.cpus other with frame := found } := by
  by_cases here : other = cpu
  · subst here
    exact ⟨frame, Function.update_self ..⟩
  · exact ⟨_, Function.update_of_ne here ..⟩

theorem quiet_of_act (isQuiet : action.isQuiet = true)
    (taken : state.actTasks platform action = some result) : Quiet state result := by
  cases action with
  | acquire cpu lock =>
      obtain rfl := Option.some.inj taken
      exact ⟨fun _ => .refl _, rfl, fun _ => ⟨_, rfl⟩, rfl⟩
  | release cpu =>
      obtain rfl := Option.some.inj taken
      exact ⟨fun _ => .refl _, rfl, fun _ => ⟨_, rfl⟩, rfl⟩
  | spin cpu =>
      obtain rfl := Option.some.inj taken
      exact ⟨fun _ => .refl _, rfl, fun _ => ⟨_, rfl⟩, rfl⟩
  | execute cpu frame =>
      obtain ⟨agent, -, taken⟩ := Option.bind_eq_some_iff.mp taken
      split at taken
      · obtain rfl := Option.some.inj taken
        exact ⟨fun _ => .refl _, rfl, fun other => exists_frame state cpu other frame, rfl⟩
      · cases taken
  | selfHalt cpu =>
      obtain ⟨halt, -, taken⟩ := Option.bind_eq_some_iff.mp taken
      dsimp only at taken
      split at taken
      · obtain ⟨thread, -, taken⟩ := Option.bind_eq_some_iff.mp taken
        obtain rfl := Option.some.inj taken
        exact ⟨fun _ => sameThread_update .., rfl, fun other => exists_frame state cpu other _, rfl⟩
      all_goals
        obtain rfl := Option.some.inj taken
        exact ⟨fun _ => .refl _, rfl, fun _ => ⟨_, rfl⟩, rfl⟩
  | timerReturns cpu =>
      obtain ⟨-, taken⟩ := Option.ite_none_right_eq_some.mp taken
      obtain rfl := Option.some.inj taken
      exact ⟨fun _ => .refl _, rfl, fun _ => ⟨_, rfl⟩, rfl⟩
  | call | advance | timer | task => cases isQuiet

omit [DecidableEq Thread] in
theorem Protocol.quiet (protocol : Protocol state) (quiet : Quiet state result)
    (code : ∀ cpu, (result.masking.cores cpu).code = (state.masking.cores cpu).code) :
    Protocol result := by
  apply protocol.agrees quiet.agrees
  · intro cpu
    obtain ⟨frame, isFrame⟩ := quiet.cpus cpu
    rw [isFrame]
    exact (protocol.queues cpu).congr (fun thread _ => quiet.threads thread) rfl rfl
  · exact quiet.calls
  · intro cpu thread isCode
    rw [code] at isCode
    obtain ⟨frame, isFrame⟩ := quiet.cpus cpu
    rcases protocol.executes cpu thread isCode with loaded | departs
    · left
      rw [isFrame]
      exact loaded
    · right
      apply (departs_congr _ _).mpr departs
      · rw [quiet.calls]
      · exact quiet.agrees.task cpu

/-! ## Interrupts -/

theorem Protocol.timer {next : Option Thread} {fires : Bool} (protocol : Protocol state)
    (locked : Locked state) (orderly : Orderly platform state.masking)
    (maskingTaken : state.actMasking platform (.timer cpu next fires) = some masking)
    (tasksTaken : state.actTasks platform (.timer cpu next fires) = some result) :
    Protocol { result with masking := masking } := by
  have step := maskingStep_of_act maskingTaken
  have elsewhere : ∀ {other thread}, other ≠ cpu → (masking.cores other).code = .thread thread →
      (result.cpus other).Loaded thread ∨ result.Departs other thread :=
    fun different => protocol.executes_other locked orderly step tasksTaken different
  obtain ⟨core, -⟩ := timerInterrupt_core orderly.flags maskingTaken
  obtain ⟨cpud, threads, scheduled, rfl⟩ := schedule_cases tasksTaken
  have same : ∀ other, let after := Function.update state.cpus cpu cpud other
      after.queue = (state.cpus other).queue ∧ after.task = (state.cpus other).task ∧
        after.pending = (state.cpus other).pending := by
    intro other
    dsimp only
    rw [Function.update_apply]
    split
    · rename_i here
      exact here ▸ scheduled.same
    · exact ⟨rfl, rfl, rfl⟩
  apply protocol.agrees
  · exact ⟨scheduled.sameThread, rfl, fun other => (same other).1, fun other => (same other).2.1,
      fun other => (same other).2.2⟩
  · intro other
    dsimp only
    rw [Function.update_apply]
    split
    · rename_i here
      exact here ▸ scheduled.queued (protocol.queues cpu)
    · exact (protocol.queues other).congr (fun thread _ => scheduled.sameThread thread) rfl rfl
  · rfl
  · intro other thread code
    by_cases here : other = cpu
    · subst here
      dsimp only at code ⊢
      rw [core] at code
      rw [Function.update_self]
      rcases scheduled.loaded with ⟨found, isFound, loaded⟩ | ⟨none, unchanged⟩
      · rw [isFound] at code
        obtain rfl := Masking.Code.thread.inj code
        exact .inl loaded
      · rw [none] at code
        rcases protocol.executes other thread code with loaded | departs
        · exact .inl (unchanged ▸ loaded)
        · refine .inr ((departs_congr ?_ ?_).mpr departs)
          · rfl
          · exact (same other).2.1
    · exact elsewhere here code

omit [DecidableEq Thread] in
/-- A CPU that has a task is waited for. -/
theorem Protocol.outstanding (protocol : Protocol state)
    (isPending : (state.cpus cpu).pending = true) :
    ∃ agent call, state.calls agent = some call ∧ call.stage = .wait cpu ∧
      state.Outstanding agent call.request cpu := by
  obtain ⟨agent, call, isCall, waits⟩ := protocol.pending cpu isPending
  have keeps := protocol.duties agent call isCall
  rw [State.Keeps, waits] at keeps
  rcases keeps with outstanding | ⟨handled, -⟩
  · exact ⟨agent, call, isCall, waits, outstanding⟩
  · rw [isPending] at handled
    cases handled

section Messages

variable {request : Request Thread} {task : CpuTask Thread} {err : ErrCode} {stackFrame : Bool}
  {cpud : CpuData Thread} {threads : Thread → ThreadData}

/-- A message that is as its issuer has found it keeps the run queues in order. -/
theorem Handled.queued_of_prepared (handled : Handled platform state cpu stackFrame cpud threads)
    (queues : ∀ cpu, Queued state.threads cpu (state.cpus cpu))
    (prepared : state.Prepared request cpu task)
    (isTask : (state.cpus cpu).task = { task with error := err }) :
    ∀ other, Queued threads other (Function.update state.cpus cpu cpud other) := by
  refine handled.queued queues fun thread type isThread => ?_
  rw [isTask] at type isThread
  cases request with
  | resumeThread id =>
      obtain ⟨rfl, attached, paused⟩ := prepared
      obtain rfl := Option.some.inj isThread
      refine ⟨attached, ?_⟩
      rw [paused]
      simp
  | deactivateThread stop id lockToRelease =>
      obtain ⟨rfl, -⟩ := prepared
      cases type
  | attachThread thread => cases prepared
  | detachThread id => cases prepared

/-- The answer to a message that pauses a thread. -/
theorem Handled.answered_of_prepared {stop : Bool} {id : Thread} {lockToRelease : Option Address}
    (handled : Handled platform state cpu stackFrame cpud threads)
    (queues : ∀ cpu, Queued state.threads cpu (state.cpus cpu))
    (prepared : state.Prepared (.deactivateThread stop id lockToRelease) cpu task)
    (isTask : (state.cpus cpu).task = { task with error := err })
    (paused : cpud.task.error = .errNone) :
    (∀ other, id ∉ (Function.update state.cpus cpu cpud other).queue) ∧
      (cpud.task.type = .selfHalt ↔ stackFrame = false ∧ (state.cpus cpu).current = some id) := by
  obtain ⟨rfl, runs, here⟩ := prepared
  have type : (state.cpus cpu).task.type = .pause := by rw [isTask]
  have isThread : (state.cpus cpu).task.thread = some id := by rw [isTask]
  have found : state.finds cpu id = true := by simp [State.finds, runs, here]
  exact ⟨handled.notQueued queues type isThread paused,
    handled.selfHalt_iff type isThread found⟩

end Messages

theorem Protocol.task {next : Option Thread} (protocol : Protocol state)
    (locked : Locked state) (orderly : Orderly platform state.masking)
    (maskingTaken : state.actMasking platform (.task cpu next) = some masking)
    (tasksTaken : state.actTasks platform (.task cpu next) = some result) :
    Protocol { result with masking := masking } := by
  have step := maskingStep_of_act maskingTaken
  have elsewhere : ∀ {other thread}, other ≠ cpu → (masking.cores other).code = .thread thread →
      (result.cpus other).Loaded thread ∨ result.Departs other thread :=
    fun different => protocol.executes_other locked orderly step tasksTaken different
  obtain ⟨isPending, taken⟩ := Option.ite_none_right_eq_some.mp tasksTaken
  obtain ⟨middle, handles, taken⟩ := Option.bind_eq_some_iff.mp taken
  obtain ⟨cpud, threads, handled, rfl⟩ := handleTask_cases handles
  obtain rfl := Option.some.inj taken
  obtain ⟨waiter, waiting, isWaiting, waits, -, ⟨task, prepared, isTask⟩, notSelf⟩ :=
    protocol.outstanding isPending
  have waiterInside : state.Inside waiter := inside_of_loops ⟨waiting, isWaiting, waits⟩
  have queues := handled.queued_of_prepared protocol.queues prepared isTask
  simp only [State.setCpu, Function.update_self, Function.update_idem] at elsewhere ⊢
  have queue : ∀ other,
      (Function.update state.cpus cpu { cpud with pending := false } other).queue =
        (Function.update state.cpus cpu cpud other).queue := by
    intro other
    rw [Function.update_apply, Function.update_apply]
    split <;> rfl
  refine ⟨fun other => ?_, fun other thread code => ?_, fun agent call isCall => ?_,
    fun other isStillPending => ?_, protocol.timers⟩
  · refine (queues other).congr (fun _ _ => .refl _) (queue other) ?_
    dsimp only
    rw [Function.update_apply, Function.update_apply]
    split <;> rfl
  · by_cases here : other = cpu
    · subst here
      dsimp only at code ⊢
      rw [Function.update_self]
      obtain ⟨-, ⟨-, rfl⟩ | ⟨notPaused, rfl⟩⟩ := Masking.State.taskInterrupt_cases maskingTaken
      · simp [Masking.State.haltThread] at code
      · rcases protocol.executes other thread code with loaded | departs
        · exact .inl (handled.loaded (protocol.queues other) loaded notPaused)
        · obtain rfl := locked.exclusive waiterInside (inside_of_departs departs)
          obtain ⟨call, isCall, stop, lockToRelease, -, -, stage⟩ := departs
          obtain rfl := Option.some.inj (isWaiting.symm.trans isCall)
          simp [waits] at stage
    · exact elsewhere here code
  · have keeps := protocol.duties agent call isCall
    cases isInside : call.stage.inside with
    | false => exact keeps_of_outside isInside keeps
    | true =>
        obtain rfl := locked.exclusive waiterInside ⟨call, isCall, .inl isInside⟩
        obtain rfl := Option.some.inj (isWaiting.symm.trans isCall)
        rw [State.Keeps, waits]
        dsimp only
        rw [Function.update_self]
        refine .inr ⟨rfl, fun stop id lockToRelease isRequest paused => ?_⟩
        rw [isRequest] at prepared
        obtain ⟨dequeued, isSelf⟩ :=
          handled.answered_of_prepared protocol.queues prepared isTask paused
        refine ⟨fun other => ?_, ?_⟩
        · dsimp only
          rw [queue]
          exact dequeued other
        · rw [isSelf]
          simpa using notSelf stop id lockToRelease isRequest
  · apply protocol.pending
    dsimp only at isStillPending
    rw [Function.update_apply] at isStillPending
    split at isStillPending
    · cases isStillPending
    · exact isStillPending

/-! ## Calls -/

theorem Protocol.enter {request : Request Thread} (protocol : Protocol state)
    (maskingTaken : state.actMasking platform (.call cpu request) = some masking)
    (tasksTaken : state.actTasks platform (.call cpu request) = some result) :
    Protocol { result with masking := masking } := by
  obtain rfl := Option.some.inj maskingTaken
  obtain ⟨agent, called, taken⟩ := Option.bind_eq_some_iff.mp tasksTaken
  obtain ⟨⟨-, permits⟩, taken⟩ := Option.ite_none_right_eq_some.mp taken
  obtain rfl := Option.some.inj taken
  obtain ⟨-, none⟩ := caller_eq_some called
  have kept : ∀ other call, state.calls other = some call →
      Function.update state.calls agent (some
        { request := request, tries := Scheduler.taskRetryCount, stage := request.start }) other =
          some call := by
    intro other call isCall
    rw [Function.update_of_ne]
    · exact isCall
    · rintro rfl
      rw [none] at isCall
      cases isCall
  have cases_of : ∀ {other call}, Function.update state.calls agent (some
        { request := request, tries := Scheduler.taskRetryCount, stage := request.start }) other =
          some call →
      (other = agent ∧ call.request = request ∧ call.stage = request.start) ∨
        state.calls other = some call := by
    intro other call isCall
    rw [Function.update_apply] at isCall
    split at isCall
    · rename_i same
      obtain rfl := Option.some.inj isCall
      exact .inl ⟨same, rfl, rfl⟩
    · exact .inr isCall
  refine ⟨protocol.queues, fun other thread code => ?_, fun other call isCall => ?_,
    fun other isPending => ?_, fun other call isCall => ?_⟩
  · refine (protocol.executes other thread code).imp id fun departs => ?_
    obtain ⟨call, isCall, departs⟩ := departs
    exact ⟨call, kept _ _ isCall, departs⟩
  · rcases cases_of isCall with ⟨-, -, stage⟩ | before
    · rw [State.Keeps, stage]
      cases request <;> trivial
    · have agrees : Agrees state { state.setCall agent (some
          { request := request, tries := Scheduler.taskRetryCount, stage := request.start }) with
          masking := state.masking } :=
        ⟨fun _ => .refl _, rfl, fun _ => rfl, fun _ => rfl, fun _ => rfl⟩
      exact agrees.keeps (protocol.duties other call before)
  · obtain ⟨waiter, call, isCall, waits⟩ := protocol.pending other isPending
    exact ⟨waiter, call, kept _ _ isCall, waits⟩
  · rcases cases_of isCall with ⟨rfl, isRequest, -⟩ | before
    · rw [isRequest]
      cases request with
      | resumeThread id => exact ⟨id, rfl⟩
      | _ => cases permits
    · exact protocol.timers other call before

omit [DecidableEq Thread] in
/-- A thread whose call goes on, and does not end in the interrupt, is loaded. -/
theorem Protocol.mover (protocol : Protocol state)
    (called : state.calling cpu = some (.thread thread, call))
    (notDeparts : ¬ call.Departs (state.cpus cpu).task cpu thread) :
    (state.cpus cpu).Loaded thread ∧ (state.threads thread).state = .running ∧
      (state.threads thread).cpu = cpu := by
  obtain ⟨runs, isCall, -⟩ := calling_eq_some called
  rcases Masking.State.agent_eq_some_iff.mp runs with ⟨-, same⟩ | ⟨found, -, code, same⟩
  · cases same
  · obtain rfl := Masking.Agent.thread.inj same
    rcases protocol.executes cpu thread code with loaded | ⟨found, isFound, departs⟩
    · obtain ⟨-, isRunning, here⟩ :=
        (protocol.queues cpu).threads thread ((protocol.queues cpu).current thread loaded.1)
      exact ⟨loaded, isRunning, here⟩
    · obtain rfl := Option.some.inj (isCall.symm.trans isFound)
      exact absurd departs notDeparts

omit [DecidableEq Thread] in
/-- What the call relies on at its next position. -/
theorem Flow.keeps {moved : Call Thread} (flow : Flow state call moved) (protocol : Protocol state)
    (called : state.calling cpu = some (agent, call)) : state.Keeps agent moved := by
  have keeps := protocol.duties agent call (calling_eq_some called).2.1
  cases flow with
  | locksAll | locksInactive | finds | retries => trivial
  | refuses err stage fails => exact fun _ _ _ _ _ => fails
  | fails stop id lockToRelease err request stage refused =>
      intro stop' id' lockToRelease' request' isAgent
      obtain ⟨-, rfl, -⟩ := Request.deactivateThread.inj (request.symm.trans request')
      rcases refused with refused | rests
      · exact refused
      · subst isAgent
        refine absurd (protocol.mover called ?_).2.1 rests
        rintro ⟨stop, lockToRelease, -, -, isStage⟩
        simp [stage] at isStage
  | pauses stop id lockToRelease tries request stage runs =>
      rw [State.Keeps]
      dsimp only
      rw [request]
      exact ⟨rfl, runs, rfl⟩
  | locksCpu target task stage =>
      rw [State.Keeps, stage] at keeps
      exact keeps
  | hears target stage answered =>
      rw [State.Keeps, stage] at keeps
      rcases keeps with ⟨-, ⟨task, -, isTask⟩, -⟩ | ⟨-, keeps⟩
      · rw [isTask] at answered
        exact absurd rfl answered
      · exact keeps
  | copiesOwn target stage | copies target stage =>
      rw [State.Keeps, stage] at keeps
      exact keeps
  | unlocksCpu target task stage =>
      rw [State.Keeps, stage] at keeps
      exact keeps
  | resumed id task request stage =>
      intro stop id' lockToRelease request'
      cases request.symm.trans request'
  | failed stop id lockToRelease task request stage failed => exact fun _ _ _ _ _ => failed
  | unlocksInactive err stage request =>
      exact fun stop id lockToRelease isRequest => absurd isRequest (request stop id lockToRelease)

omit [DecidableEq Thread] in
theorem Flow.departs {moved : Call Thread} (flow : Flow state call moved)
    (departs : call.Departs (state.cpus cpu).task cpu thread) :
    moved.Departs (state.cpus cpu).task cpu thread := by
  obtain ⟨stop, lockToRelease, request, isTask, stage⟩ := departs
  rcases stage with stage | stage | stage
  · cases flow with
    | copiesOwn target isStage =>
        obtain rfl := Stage.copy.inj (stage.symm.trans isStage)
        exact ⟨stop, lockToRelease, request, isTask, .inr (.inl (by rw [isTask]; rfl))⟩
    | copies target isStage type =>
        obtain rfl := Stage.copy.inj (stage.symm.trans isStage)
        rw [isTask] at type
        exact absurd rfl type
    | _ => simp_all
  · cases flow with
    | retries _ _ _ task _ isStage failed | failed _ _ _ task _ isStage failed =>
        obtain rfl := Stage.finish.inj (stage.symm.trans isStage)
        exact absurd rfl failed
    | _ => simp_all
  · cases flow <;> simp_all

section Changes

variable {stage : Stage Thread} {threads : Thread → ThreadData} {inactive : List Thread}
  {task : CpuTask Thread}

theorem Change.departs (change : Change state call stage threads inactive)
    (departs : call.Departs task cpu thread) : (call.goto stage).Departs task cpu thread := by
  obtain ⟨stop, lockToRelease, request, isTask, isStage⟩ := departs
  cases change with
  | parks stop' id lockToRelease' message request' stage paused =>
      refine ⟨stop, lockToRelease, request, isTask, .inr (.inr ?_)⟩
      have isMessage : message = selfHaltTask thread lockToRelease := by simp_all
      rw [isMessage]
      rfl
  | _ => simp_all

/-- The thread that is changed is in no run queue. -/
theorem Change.queued (change : Change state call stage threads inactive)
    (protocol : Protocol state) (called : state.calling cpu = some (agent, call)) (other : Nat) :
    Queued threads other (state.cpus other) := by
  cases change with
  | attaches thread request stage detached =>
      exact (protocol.queues other).update (dequeued_of_rests protocol.queues (.inl detached) other)
  | detaches id request stage rests =>
      exact (protocol.queues other).update (dequeued_of_rests protocol.queues (.inr rests) other)
  | resumes => exact protocol.queues other
  | stops id lockToRelease request stage paused =>
      have rests : (state.threads id).state ≠ .running := by simp [paused]
      exact (protocol.queues other).update (dequeued_of_rests protocol.queues (.inr rests) other)
  | parks stop id lockToRelease task request stage paused =>
      have keeps := protocol.duties agent call (calling_eq_some called).2.1
      rw [State.Keeps, stage] at keeps
      exact (protocol.queues other).update ((keeps stop id lockToRelease request paused).1 other)

theorem Change.keeps (change : Change state call stage threads inactive)
    (protocol : Protocol state) (called : state.calling cpu = some (agent, call))
    (isThreads : result.threads = threads) (isInactive : result.inactive = inactive)
    (isCpus : result.cpus = state.cpus) : result.Keeps agent (call.goto stage) := by
  have keeps := protocol.duties agent call (calling_eq_some called).2.1
  cases change with
  | attaches thread request | detaches thread request =>
      intro stop id lockToRelease request'
      cases request.symm.trans request'
  | resumes id target request stage attached paused =>
      rw [State.Keeps]
      dsimp only [Call.goto]
      rw [request, State.Prepared, isThreads]
      exact ⟨rfl, attached, paused⟩
  | stops id lockToRelease request stage paused =>
      intro stop id' lockToRelease' request' isAgent
      obtain ⟨-, rfl, -⟩ := Request.deactivateThread.inj (request.symm.trans request')
      subst isAgent
      have runs := (protocol.mover called (by
        rintro ⟨stop, lockToRelease, -, -, isStage⟩
        simp [stage] at isStage)).2.1
      rw [paused] at runs
      cases runs
  | parks stop id lockToRelease task request stage paused =>
      rw [State.Keeps, stage] at keeps
      obtain ⟨dequeued, isSelf⟩ := keeps stop id lockToRelease request paused
      split
      · rename_i type
        refine ⟨stop, id, lockToRelease, request, isSelf.mp type, ?_, ?_, ?_⟩
        · intro other
          rw [isCpus]
          exact dequeued other
        · rw [isInactive]
          exact List.mem_cons_self
        · rw [isThreads, Function.update_self]
          cases stop <;> simp
      · rename_i type
        intro stop' id' lockToRelease' request' isAgent
        obtain ⟨-, rfl, -⟩ := Request.deactivateThread.inj (request.symm.trans request')
        exact absurd (isSelf.mpr isAgent) type

end Changes

section Advance

variable {moved : Option (Call Thread)}

omit [DecidableEq Thread] in
theorem wait_of_pending (protocol : Protocol state) (isPending : (state.cpus other).pending = true)
    (isCall : state.calls agent = some call) (stage : call.stage = .wait other) :
    (state.cpus other).task.error = .errBusy := by
  have keeps := protocol.duties agent call isCall
  rw [State.Keeps, stage] at keeps
  rcases keeps with ⟨-, ⟨task, -, isTask⟩, -⟩ | ⟨handled, -⟩
  · rw [isTask]
  · rw [isPending] at handled
    cases handled

/-- A step of a call, seen by the others. -/
theorem Protocol.advanced (protocol : Protocol state) (locked : Locked state)
    (called : state.calling cpu = some (agent, call))
    (calls : result.calls = Function.update state.calls agent moved)
    (request : ∀ call' ∈ moved, call'.request = call.request)
    (queues : ∀ other, Queued result.threads other (result.cpus other))
    (executes : ∀ other thread, (result.masking.cores other).code = .thread thread →
      (result.cpus other).Loaded thread ∨ result.Departs other thread)
    (keeps : ∀ call' ∈ moved, result.Keeps agent call')
    (unaffected : state.Inside agent ∨ Agrees state result)
    (pending : ∀ other, (result.cpus other).pending = true →
      moved = some (call.goto (.wait other)) ∨
        (state.cpus other).pending = true ∧ call.stage ≠ .wait other) : Protocol result := by
  obtain ⟨-, isCall, -⟩ := calling_eq_some called
  refine ⟨queues, executes, fun found foundCall isFound => ?_, fun other isPending => ?_,
    fun other foundCall isFound => ?_⟩
  · rw [calls, Function.update_apply] at isFound
    split at isFound
    · rename_i same
      exact same ▸ keeps foundCall isFound
    · rename_i different
      have before := protocol.duties found foundCall isFound
      rcases unaffected with isInside | agrees
      · refine keeps_of_outside ?_ before
        by_contra inside
        rw [Bool.not_eq_false] at inside
        exact different (locked.exclusive ⟨foundCall, isFound, .inl inside⟩ isInside)
      · exact agrees.keeps before
  · unfold State.Loops
    rw [calls]
    rcases pending other isPending with rfl | ⟨before, notWaiting⟩
    · exact ⟨agent, _, Function.update_self .., rfl⟩
    · obtain ⟨waiter, waiting, isWaiting, waits⟩ := protocol.pending other before
      refine ⟨waiter, waiting, ?_, waits⟩
      rw [Function.update_of_ne]
      · exact isWaiting
      · rintro rfl
        obtain rfl := Option.some.inj (isCall.symm.trans isWaiting)
        exact notWaiting waits
  · rw [calls, Function.update_apply] at isFound
    split at isFound
    · rename_i same
      rw [request foundCall isFound]
      exact protocol.timers other call (same ▸ isCall)
    · exact protocol.timers other foundCall isFound

/-- A step of a call that does not use the message of its CPU. -/
theorem Protocol.executes_here (protocol : Protocol state)
    (called : state.calling cpu = some (agent, call))
    (calls : result.calls = Function.update state.calls agent moved)
    (sameCpu : result.cpus cpu = state.cpus cpu)
    (departs : ∀ thread, call.Departs (state.cpus cpu).task cpu thread →
      ∃ call' ∈ moved, call'.Departs (state.cpus cpu).task cpu thread)
    (code : (state.masking.cores cpu).code = .thread thread) :
    (result.cpus cpu).Loaded thread ∨ result.Departs cpu thread := by
  obtain ⟨-, isCall, -⟩ := calling_eq_some called
  rcases protocol.executes cpu thread code with loaded | ⟨found, isFound, departing⟩
  · exact .inl (sameCpu ▸ loaded)
  · right
    unfold State.Departs
    rw [calls, sameCpu]
    by_cases same : agent = .thread thread
    · subst same
      obtain rfl := Option.some.inj (isCall.symm.trans isFound)
      obtain ⟨moved', isMoved, departing⟩ := departs thread departing
      exact ⟨moved', (Function.update_self ..).trans isMoved, departing⟩
    · exact ⟨found, (Function.update_of_ne (Ne.symm same) ..).trans isFound, departing⟩

omit [DecidableEq Thread] in
theorem Flow.request {moved : Call Thread} (flow : Flow state call moved) :
    moved.request = call.request := by
  cases flow <;> rfl

omit [DecidableEq Thread] in
theorem Flow.answered {moved : Call Thread} (flow : Flow state call moved)
    (stage : call.stage = .wait other) : (state.cpus other).task.error ≠ .errBusy := by
  cases flow with
  | hears target isStage answered =>
      obtain rfl := Stage.wait.inj (stage.symm.trans isStage)
      exact answered
  | _ => simp_all

theorem Locking.code (locking : Locking state cpu agent call masking)
    (isThread : (masking.cores cpu).code = .thread thread) :
    (state.masking.cores cpu).code = .thread thread ∧ call.stage ≠ .interrupt := by
  cases locking with
  | acquires lock after stage taken =>
      rw [(Masking.State.acquireSpinlock_agentStep taken).code] at isThread
      refine ⟨isThread, ?_⟩
      intro interrupt
      simp [interrupt, Stage.acquires] at stage
  | releases lock after stage isNewest taken =>
      have moved : Masking.State.AgentStep cpu agent state.masking masking :=
        Masking.State.releaseSpinlock_agentStep taken
      rw [moved.code] at isThread
      refine ⟨isThread, ?_⟩
      intro interrupt
      simp [interrupt, Stage.releases] at stage
  | halts after stage taken =>
      obtain ⟨halted, -, -, -, -, rfl⟩ := Masking.State.selfHalt_eq_some taken
      rw [Masking.State.enterSelfHalt_core] at isThread
      cases isThread
  | same notAcquires notReleases notInterrupt => exact ⟨isThread, notInterrupt⟩

omit [DecidableEq Thread] in
/-- A call that pauses a thread is made by a thread, which is loaded. -/
theorem Protocol.caller {stop : Bool} {id : Thread} {lockToRelease : Option Address}
    (protocol : Protocol state) (called : state.calling cpu = some (agent, call))
    (request : call.request = .deactivateThread stop id lockToRelease)
    (notDeparts : ∀ thread, ¬ call.Departs (state.cpus cpu).task cpu thread) :
    ∃ thread, agent = .thread thread ∧ (state.cpus cpu).Loaded thread ∧
      (state.threads thread).cpu = cpu := by
  cases agent with
  | thread thread =>
      obtain ⟨loaded, -, here⟩ := protocol.mover called (notDeparts thread)
      exact ⟨thread, rfl, loaded, here⟩
  | handler timerCpu =>
      obtain ⟨resumed, isResume⟩ := protocol.timers timerCpu call (calling_eq_some called).2.1
      cases request.symm.trans isResume

/-- A task that is handled on the CPU of the caller. -/
theorem Protocol.handles {task : CpuTask Thread} {cpud : CpuData Thread}
    {threads : Thread → ThreadData} (protocol : Protocol state) (locked : Locked state)
    (called : state.calling cpu = some (agent, call)) (stage : call.stage = .post cpu task)
    (handled : Handled platform (state.setTask cpu fun _ => task) cpu false cpud threads)
    (isThreads : result.threads = threads)
    (isCpus : result.cpus = Function.update state.cpus cpu cpud)
    (calls : result.calls = Function.update state.calls agent (some (call.goto (.copy cpu))))
    (executes : (∀ thread, (state.masking.cores cpu).code = .thread thread →
      call.stage ≠ .interrupt → (result.cpus cpu).Loaded thread ∨ result.Departs cpu thread) →
      ∀ other thread, (result.masking.cores other).code = .thread thread →
        (result.cpus other).Loaded thread ∨ result.Departs other thread) : Protocol result := by
  have keeps := protocol.duties agent call (calling_eq_some called).2.1
  rw [State.Keeps, stage] at keeps
  have prepared : (state.setTask cpu fun _ => task).Prepared call.request cpu task := keeps
  have isInside : state.Inside agent := inside_of_calling called (.inl (by rw [stage]; rfl))
  have notDeparts : ∀ thread, ¬ call.Departs (state.cpus cpu).task cpu thread := by
    rintro thread ⟨stop, lockToRelease, -, -, isStage⟩
    simp [stage] at isStage
  have isTask : ((state.setTask cpu fun _ => task).cpus cpu).task =
      { task with error := task.error } := by simp
  have queues : ∀ other,
      Queued state.threads other ((state.setTask cpu fun _ => task).cpus other) := by
    intro other
    refine (protocol.queues other).congr (fun _ _ => .refl _) ?_ ?_
    · simp only [State.setTask_cpus, Function.update_apply]
      split
      · rename_i here
        rw [here]
      · rfl
    · simp only [State.setTask_cpus, Function.update_apply]
      split
      · rename_i here
        rw [here]
      · rfl
  have sameCpus :
      Function.update (state.setTask cpu fun _ => task).cpus cpu cpud = result.cpus := by
    rw [isCpus]
    simp [State.setTask, State.setCpu]
  have queuesAfter := handled.queued_of_prepared queues prepared isTask
  rw [sameCpus] at queuesAfter
  apply protocol.advanced locked called calls
  · rintro _ ⟨⟩
    rfl
  · exact isThreads ▸ queuesAfter
  · refine executes fun thread code _ => ?_
    have loaded : (state.cpus cpu).Loaded thread := by
      refine (protocol.executes cpu thread code).resolve_right fun departs => ?_
      obtain rfl := locked.exclusive isInside (inside_of_departs departs)
      obtain ⟨found, isFound, departing⟩ := departs
      obtain rfl := Option.some.inj ((calling_eq_some called).2.1.symm.trans isFound)
      exact notDeparts thread departing
    rw [isCpus, Function.update_self]
    cases pauses : (state.setTask cpu fun _ => task).pauses cpu with
    | false =>
        left
        refine handled.loaded (queues cpu) ?_ pauses
        simpa [State.setTask, State.setCpu, CpuData.Loaded] using loaded
    | true =>
        right
        have isAnswer := handled.task_of_pauses pauses
        obtain ⟨id, type, isThread, -, isCurrent⟩ := exists_of_pauses pauses
        simp only [State.setTask_cpus, Function.update_self] at type isThread isCurrent isAnswer
        obtain rfl := Option.some.inj (loaded.1.symm.trans isCurrent)
        cases request : call.request with
        | deactivateThread stop id lockToRelease =>
            rw [request] at prepared
            obtain ⟨rfl, -⟩ := prepared
            obtain rfl := Option.some.inj isThread
            obtain ⟨caller, rfl, ⟨alsoCurrent, -⟩, -⟩ := protocol.caller called request notDeparts
            obtain rfl := Option.some.inj (isCurrent.symm.trans alsoCurrent)
            refine ⟨call.goto (.copy cpu), ?_, stop, lockToRelease, request, ?_, .inl rfl⟩
            · rw [calls, Function.update_self]
            · rw [isCpus, Function.update_self, isAnswer]
              rfl
        | resumeThread id =>
            rw [request] at prepared
            obtain ⟨rfl, -⟩ := prepared
            cases type
        | attachThread thread | detachThread thread =>
            rw [request] at prepared
            cases prepared
  · rintro _ ⟨⟩
    intro stop id lockToRelease request paused
    rw [isCpus, Function.update_self] at paused ⊢
    rw [Call.goto] at request
    dsimp only at request
    rw [request] at prepared
    obtain ⟨dequeued, isSelf⟩ := handled.answered_of_prepared queues prepared isTask paused
    obtain ⟨caller, isCaller, ⟨isCurrent, -⟩, -⟩ := protocol.caller called request notDeparts
    refine ⟨fun other => ?_, ?_⟩
    · rw [← sameCpus]
      exact dequeued other
    · rw [isSelf, isCaller]
      simp [isCurrent]
  · exact .inl isInside
  · intro other isPending
    refine .inr ⟨?_, by simp [stage]⟩
    rw [isCpus, Function.update_apply] at isPending
    split at isPending
    · rename_i here
      rw [handled.pending] at isPending
      simpa [here] using isPending
    · exact isPending

/-- The step of a call keeps the calls in order. -/
theorem Protocol.advance {target : Nat} {next : Option Thread} (protocol : Protocol state)
    (locked : Locked state) (orderly : Orderly platform state.masking)
    (maskingTaken : state.actMasking platform (.advance cpu target next) = some masking)
    (tasksTaken : state.actTasks platform (.advance cpu target next) = some result) :
    Protocol { result with masking := masking } := by
  have step := maskingStep_of_act maskingTaken
  have elsewhere : ∀ {other thread}, other ≠ cpu → (masking.cores other).code = .thread thread →
      (result.cpus other).Loaded thread ∨ result.Departs other thread :=
    fun different => protocol.executes_other locked orderly step tasksTaken different
  obtain ⟨⟨agent, call⟩, called, taken⟩ := Option.bind_eq_some_iff.mp tasksTaken
  have locking := locking_of_advance called maskingTaken
  obtain ⟨moved, advances⟩ := advances_of_advance taken
  have inside : (call.stage.inside = true ∨ call.stage = .body) → state.Inside agent :=
    inside_of_calling called
  have executes : (∀ thread, (state.masking.cores cpu).code = .thread thread →
      call.stage ≠ .interrupt → (result.cpus cpu).Loaded thread ∨ result.Departs cpu thread) →
      ∀ other thread, (masking.cores other).code = .thread thread →
        (result.cpus other).Loaded thread ∨ result.Departs other thread := by
    intro here other thread code
    by_cases same : other = cpu
    · subst same
      obtain ⟨before, notInterrupt⟩ := locking.code code
      exact here thread before notInterrupt
    · exact elsewhere same code
  cases advances with
  | moves moved flow =>
      have agrees : Agrees state { state.setCall agent (some moved) with masking := masking } :=
        ⟨fun _ => .refl _, rfl, fun _ => rfl, fun _ => rfl, fun _ => rfl⟩
      apply protocol.advanced locked called rfl
      · rintro _ ⟨⟩
        exact flow.request
      · exact protocol.queues
      · refine executes fun thread code _ => ?_
        exact protocol.executes_here called rfl rfl
          (fun thread departs => ⟨moved, rfl, flow.departs departs⟩) code
      · rintro _ ⟨⟩
        exact agrees.keeps (flow.keeps protocol called)
      · exact .inr agrees
      · refine fun other isPending => .inr ⟨isPending, fun waits => flow.answered waits ?_⟩
        exact wait_of_pending protocol isPending (calling_eq_some called).2.1 waits
  | changes stage threads inactive change =>
      apply protocol.advanced locked called rfl
      · rintro _ ⟨⟩
        rfl
      · exact change.queued protocol called
      · refine executes fun thread code _ => ?_
        exact protocol.executes_here called rfl rfl
          (fun thread departs => ⟨_, rfl, change.departs departs⟩) code
      · rintro _ ⟨⟩
        exact change.keeps protocol called rfl rfl rfl
      · exact .inl (inside change.inside.1)
      · refine fun other isPending => .inr ⟨isPending, fun waits => ?_⟩
        cases change <;> simp_all
  | handles task cpud threads stage handled =>
      exact protocol.handles locked called stage handled rfl rfl rfl executes
  | issues target task stage away =>
      have prepared := protocol.duties agent call (calling_eq_some called).2.1
      rw [State.Keeps, stage] at prepared
      dsimp only at prepared
      have notDeparts : ∀ thread, ¬ call.Departs (state.cpus cpu).task cpu thread := by
        rintro thread ⟨stop, lockToRelease, -, -, isStage⟩
        simp [stage] at isStage
      apply protocol.advanced locked called rfl
      · rintro _ ⟨⟩
        rfl
      · intro other
        refine (protocol.queues other).congr (fun _ _ => .refl _) ?_ ?_
        · simp only [State.goto_cpus, State.setCpu_cpus, Function.update_apply]
          split
          · rename_i here
            rw [here]
          · rfl
        · simp only [State.goto_cpus, State.setCpu_cpus, Function.update_apply]
          split
          · rename_i here
            rw [here]
          · rfl
      · refine executes fun thread code _ => protocol.executes_here called rfl ?_ ?_ code
        · simp [Ne.symm away]
        · exact fun thread departs => absurd departs (notDeparts thread)
      · rintro _ ⟨⟩
        refine .inl ⟨by simp, ⟨task, prepared, by simp⟩, ?_⟩
        intro stop id lockToRelease request isAgent
        obtain ⟨caller, isCaller, -, here⟩ := protocol.caller called request notDeparts
        obtain rfl := Masking.Agent.thread.inj (isAgent.symm.trans isCaller)
        dsimp only [Call.goto] at request
        rw [request] at prepared
        exact away (prepared.2.2.symm.trans here)
      · exact .inl (inside (by rw [stage]; exact .inl rfl))
      · intro other isPending
        by_cases isTarget : other = target
        · subst isTarget
          exact .inl rfl
        · refine .inr ⟨?_, by simp [stage]⟩
          simpa [isTarget] using isPending
  | halts thread id stop lockToRelease isThread request stage =>
      apply protocol.advanced locked called rfl
      · rintro _ ⟨⟩
        rfl
      · exact protocol.queues
      · exact executes fun thread code notInterrupt => absurd stage notInterrupt
      · rintro _ ⟨⟩
        trivial
      · exact .inl (inside (by rw [stage]; exact .inl rfl))
      · exact fun other isPending => .inr ⟨isPending, by simp [stage]⟩
  | continues stage =>
      have agrees : Agrees state { state.setCall agent none with masking := masking } :=
        ⟨fun _ => .refl _, rfl, fun _ => rfl, fun _ => rfl, fun _ => rfl⟩
      apply protocol.advanced locked called rfl
      · rintro _ ⟨⟩
      · exact protocol.queues
      · refine executes fun thread code _ => protocol.executes_here called rfl rfl ?_ code
        rintro thread ⟨stop, lockToRelease, -, -, isStage⟩
        simp [stage] at isStage
      · rintro _ ⟨⟩
      · exact .inr agrees
      · exact fun other isPending => .inr ⟨isPending, by simp [stage]⟩
  | returns err stage =>
      have agrees : Agrees state { state.leave agent call err with masking := masking } :=
        ⟨fun _ => .refl _, rfl, fun _ => rfl, fun _ => rfl, fun _ => rfl⟩
      apply protocol.advanced locked called rfl
      · rintro _ ⟨⟩
      · exact protocol.queues
      · refine executes fun thread code _ => protocol.executes_here called rfl rfl ?_ code
        rintro thread ⟨stop, lockToRelease, -, -, isStage⟩
        rcases stage with stage | stage <;> simp [stage] at isStage
      · rintro _ ⟨⟩
      · exact .inr agrees
      · refine fun other isPending => .inr ⟨isPending, ?_⟩
        rcases stage with stage | stage <;> simp [stage]

end Advance

/-- Every step keeps the run queues, the messages and the calls in order. -/
theorem Protocol.step (protocol : Protocol state) (locked : Locked state)
    (orderly : Orderly platform state.masking)
    (maskingTaken : state.actMasking platform action = some masking)
    (tasksTaken : state.actTasks platform action = some result) :
    Protocol { result with masking := masking } := by
  have quiet : action.isQuiet = true → Protocol { result with masking := masking } := by
    intro isQuiet
    have unchanged := quiet_of_act isQuiet tasksTaken
    have quiet : Quiet state { result with masking := masking } :=
      ⟨unchanged.threads, unchanged.inactive, unchanged.cpus, unchanged.calls⟩
    refine protocol.quiet quiet fun other => ?_
    by_cases here : other = action.cpu
    · subst here
      exact code_of_quiet isQuiet maskingTaken
    · dsimp only
      rw [(maskingStep_of_act maskingTaken).others.1 other here]
  cases action with
  | call cpu request => exact protocol.enter maskingTaken tasksTaken
  | advance cpu target next => exact protocol.advance locked orderly maskingTaken tasksTaken
  | timer cpu next fires => exact protocol.timer locked orderly maskingTaken tasksTaken
  | task cpu next => exact protocol.task locked orderly maskingTaken tasksTaken
  | _ => exact quiet rfl

end Steps

end Tasks
end ToyKernel
