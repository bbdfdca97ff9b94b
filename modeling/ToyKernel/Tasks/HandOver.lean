import ToyKernel.Tasks.ProtocolSteps

/-!
# The hand-over of the caller's spinlock

`do_self_halt_task` releases `cpus[cpu].lock` and `inactive.lock`, and only then reads which
spinlock `pause_this_thread` has been given.  Whoever is first to post a task to the CPU in
between decides what is read.
-/

namespace ToyKernel
namespace Tasks

open Masking (Agent Lock)
open Scheduler (Platform)

variable {Thread : Type}

/-! ## What the handler is to do -/

/-- How many spinlocks have been released. -/
def HaltStage.freed : HaltStage → Nat
  | .save | .freeCpu => 0
  | .freeInactive => 1
  | .test | .free => 2
  | .done => 3

namespace Halt

variable (halt : Halt Thread) (cpu : Nat)

/-- The message that the CPU itself has posted. -/
def message : CpuTask Thread := selfHaltTask halt.thread halt.lockToRelease

/-- The spinlocks that the handler is to release. -/
def locks : List Lock := Masking.State.givenLocks cpu (halt.lockToRelease.map .other)

/-- The effects of the handler up to its position. -/
def effectsSoFar : List (Effect Thread) :=
  if halt.stage = .save then []
  else
    .saved halt.thread (State.storeIntEnabled halt.frame) ::
      ((halt.locks cpu).take halt.stage.freed).map .freed

/-- The thread was in the `inactive` list, its context has been saved, then
`cpus[cpu].lock`, `inactive.lock` and the given spinlock have been released, each once, and
each message read is that of the CPU itself. -/
structure Right : Prop where
  parked : halt.parked = true
  effects : halt.effects = .saved halt.thread (State.storeIntEnabled halt.frame) ::
    (halt.locks cpu).map .freed
  reads : ∀ task ∈ halt.reads, task = halt.message

end Halt

/-- What the history must not contradict: each run of `do_self_halt_task` has been right, and
no thread that halts itself has returned with success instead. -/
def Event.Right : Event Thread → Prop
  | .halted cpu halt => halt.Right cpu
  | .returned agent request err => ∀ stop id lockToRelease,
      request = .deactivateThread stop id lockToRelease → agent = .thread id → err ≠ .errNone

/-- A run of `do_self_halt_task` up to its position: the message is that of the CPU itself until
it has been read for the last time, and the handler holds the spinlocks that it has still to
release. -/
structure Halting (state : State Thread) (cpu : Nat) (halt : Halt Thread) : Prop where
  handler : (state.masking.cores cpu).handler = some .selfHalt
  frame : state.masking.frames (.handler cpu) =
    { held := (halt.locks cpu).drop halt.stage.freed, position := .idle }
  message : halt.stage ≠ .done → (state.cpus cpu).task = halt.message
  registers : halt.stage = .save → (state.cpus cpu).frame = halt.frame
  given : halt.stage = .free → halt.lockToRelease.isSome = true
  parked : halt.parked = true
  effects : halt.effects = halt.effectsSoFar cpu
  reads : ∀ task ∈ halt.reads, task = halt.message

/-- No task is posted to a CPU between the release of `inactive.lock` by its
`do_self_halt_task` and the last read of the message. -/
def State.KeepsMessage (state : State Thread) : Action Thread → Prop
  | .advance cpu _ _ => ∀ found ∈ state.calling cpu, ∀ target ∈ found.2.stage.target,
      ∀ halt ∈ state.halts target, halt.stage ≠ .test ∧ halt.stage ≠ .free
  | _ => True

/-- A run of `do_self_halt_task` that begins, as the CPU and the call are then. -/
def State.halt [DecidableEq Thread] (state : State Thread) (cpu : Nat) (thread : Thread)
    (lockToRelease : Option Address) : Halt Thread where
  stage := .save
  thread := thread
  lockToRelease := lockToRelease
  frame := (state.cpus cpu).frame
  parked := thread ∈ state.inactive ∧ (state.threads thread).state ≠ .running
  reads := [(state.cpus cpu).task]
  effects := []

/-- What a step does to the runs of `do_self_halt_task` and to the history. -/
inductive Recorded [DecidableEq Thread] (state result : State Thread) : Action Thread → Prop
  | same {action : Action Thread} (notHalting : ∀ cpu, action ≠ .selfHalt cpu)
      (halts : result.halts = state.halts) (history : result.history = state.history) :
      Recorded state result action
  | returns {cpu target : Nat} {next : Option Thread} (agent : Agent Thread)
      (call : Call Thread) (err : ErrCode) (called : state.calling cpu = some (agent, call))
      (stage : call.stage = .unlockInactive err ∨ call.stage = .unlockAll err)
      (halts : result.halts = state.halts)
      (history : result.history = state.history ++ [.returned agent call.request err]) :
      Recorded state result (.advance cpu target next)
  | begins {cpu target : Nat} {next : Option Thread} (thread id : Thread) (stop : Bool)
      (lockToRelease : Option Address) (call : Call Thread)
      (called : state.calling cpu = some (.thread thread, call))
      (request : call.request = .deactivateThread stop id lockToRelease)
      (stage : call.stage = .interrupt) (cpus : result.cpus = state.cpus)
      (halts : result.halts =
        Function.update state.halts cpu (some (state.halt cpu thread lockToRelease)))
      (history : result.history = state.history) :
      Recorded state result (.advance cpu target next)
  | continues {cpu : Nat} (halt : Halt Thread) (isHalt : state.halts cpu = some halt)
      (running : halt.stage ≠ .done)
      (others : ∀ other ≠ cpu, result.halts other = state.halts other)
      (history : result.history = state.history) : Recorded state result (.selfHalt cpu)
  | ends {cpu : Nat} (halt : Halt Thread) (isHalt : state.halts cpu = some halt)
      (done : halt.stage = .done) (halts : result.halts = Function.update state.halts cpu none)
      (history : result.history = state.history ++ [.halted cpu halt]) :
      Recorded state result (.selfHalt cpu)

/-- Each run of `do_self_halt_task` that has ended has been right, and the others are so far. -/
structure State.HandsOver (state : State Thread) : Prop where
  past : ∀ event ∈ state.history, event.Right
  present : ∀ cpu halt, state.halts cpu = some halt → Halting state cpu halt

section Steps

variable [DecidableEq Thread] {platform : Platform} {state result : State Thread}
  {action : Action Thread} {masking : Masking.State Thread} {agent : Agent Thread}
  {call : Call Thread} {cpu other : Nat} {thread : Thread} {halt : Halt Thread}

/-! ## The steps of the handler -/

/-- The handler releases the newest of its spinlocks. -/
theorem handOver_frame {lock : Lock} {older : List Lock}
    (taken : state.masking.handOver cpu = some masking)
    (frame : state.masking.frames (.handler cpu) = { held := lock :: older, position := .idle }) :
    masking.frames (.handler cpu) = { held := older, position := .idle } ∧
      masking.cores = state.masking.cores := by
  obtain ⟨newest, rest, -, isHeld, rfl⟩ := Masking.State.handOver_eq_some taken
  rw [frame] at isHeld
  obtain ⟨rfl, rfl⟩ := List.cons.inj isHeld
  refine ⟨?_, rfl⟩
  rw [Masking.State.setFrame_frames, Function.update_self, frame]

/-- The last of the spinlocks is the one that has been given. -/
theorem Halting.freeGiven (halting : Halting state cpu halt) (stage : halt.stage = .free) :
    ∃ lock, halt.lockToRelease = some lock ∧ state.freeGiven cpu = state.masking.handOver cpu ∧
      state.masking.frames (.handler cpu) = { held := [.other lock], position := .idle } := by
  obtain ⟨lock, isLock⟩ := Option.isSome_iff_exists.mp (halting.given stage)
  have message := halting.message (by rw [stage]; simp)
  have frame : state.masking.frames (.handler cpu) =
      { held := [.other lock], position := .idle } := by
    rw [halting.frame, stage]
    simp [Halt.locks, Masking.State.givenLocks, HaltStage.freed, isLock]
  refine ⟨lock, isLock, ?_, frame⟩
  rw [State.freeGiven, message, frame]
  simp [Halt.message, selfHaltTask, isLock]

/-- The spinlocks stay in order while the handler runs. -/
theorem Halting.owned (halting : Halting state cpu halt) (owned : state.masking.Owned)
    (done : state.masking.HandlersDone) (isHalt : state.halts cpu = some halt)
    (taken : state.actMasking platform (.selfHalt cpu) = some masking) :
    masking.Owned ∧ masking.HandlersDone := by
  obtain ⟨found, isFound, taken⟩ := Option.bind_eq_some_iff.mp taken
  obtain rfl := Option.some.inj (isHalt.symm.trans isFound)
  obtain ⟨-, taken⟩ := Option.ite_none_right_eq_some.mp taken
  have acts : ∀ {action : Masking.Action Thread},
      state.masking.act platform.cpus action = some masking →
      masking.Owned ∧ masking.HandlersDone :=
    fun taken => ⟨owned.act done taken, done.act taken⟩
  have handsOver : state.masking.handOver cpu = some masking →
      masking.Owned ∧ masking.HandlersDone :=
    fun taken => acts (show state.masking.act platform.cpus (.handOver cpu) = _ from taken)
  split at taken
  · obtain rfl := Option.some.inj taken
    exact ⟨owned, done⟩
  · obtain rfl := Option.some.inj taken
    exact ⟨owned, done⟩
  · exact handsOver taken
  · exact handsOver taken
  · rename_i stage
    obtain ⟨lock, -, isHandOver, -⟩ := halting.freeGiven stage
    exact handsOver (isHandOver ▸ taken)
  · rename_i stage
    have isEmpty : state.masking.setFrame (.handler cpu) .empty = state.masking := by
      have frame : state.masking.frames (.handler cpu) = .empty := by
        rw [halting.frame, stage]
        cases lock : halt.lockToRelease <;>
          simp [Halt.locks, Masking.State.givenLocks, HaltStage.freed, lock, Masking.Frame.empty]
      rw [← frame, Masking.State.setFrame, Function.update_eq_self]
    rw [isEmpty] at taken
    exact acts (show state.masking.act platform.cpus (.returnFromInterrupt cpu) = _ from taken)

/-- The next step of `do_self_halt_task`. -/
theorem Halting.selfHalt (halting : Halting state cpu halt) (isHalt : state.halts cpu = some halt)
    (running : halt.stage ≠ .done)
    (maskingTaken : state.actMasking platform (.selfHalt cpu) = some masking)
    (tasksTaken : state.actTasks platform (.selfHalt cpu) = some result) :
    ∃ halt', result.halts = Function.update state.halts cpu (some halt') ∧
      Halting { result with masking := masking } cpu halt' := by
  obtain ⟨found, isFound, maskingTaken⟩ := Option.bind_eq_some_iff.mp maskingTaken
  obtain rfl := Option.some.inj (isHalt.symm.trans isFound)
  obtain ⟨found, isFound, tasksTaken⟩ := Option.bind_eq_some_iff.mp tasksTaken
  obtain rfl := Option.some.inj (isHalt.symm.trans isFound)
  obtain ⟨-, maskingTaken⟩ := Option.ite_none_right_eq_some.mp maskingTaken
  have message := halting.message running
  have frame := halting.frame
  have effects := halting.effects
  have reads : ∀ task ∈ halt.reads ++ [halt.message], task = halt.message := by
    intro task isRead
    rcases List.mem_append.mp isRead with before | isNew
    · exact halting.reads task before
    · exact List.mem_singleton.mp isNew
  cases stage : halt.stage with
  | save =>
      rw [stage] at maskingTaken tasksTaken frame
      obtain rfl := Option.some.inj maskingTaken
      obtain ⟨thread, isThread, tasksTaken⟩ := Option.bind_eq_some_iff.mp tasksTaken
      obtain rfl := Option.some.inj tasksTaken
      rw [message] at isThread
      obtain rfl := Option.some.inj isThread
      refine ⟨_, rfl, ?_⟩
      rw [message, halting.registers stage, effects, Halt.effectsSoFar, if_pos stage]
      exact ⟨halting.handler, frame, fun _ => by simpa [Halt.message] using message, by simp,
        by simp, halting.parked, rfl, reads⟩
  | freeCpu =>
      rw [stage] at maskingTaken tasksTaken frame
      obtain rfl := Option.some.inj tasksTaken
      obtain ⟨frameAfter, cores⟩ := handOver_frame maskingTaken frame
      refine ⟨_, rfl, ?_, frameAfter, fun _ => message, by simp, by simp, halting.parked, ?_,
        halting.reads⟩
      · exact cores ▸ halting.handler
      · simp [effects, Halt.effectsSoFar, stage, Halt.locks, Masking.State.givenLocks,
          HaltStage.freed]
  | freeInactive =>
      rw [stage] at maskingTaken tasksTaken frame
      obtain rfl := Option.some.inj tasksTaken
      obtain ⟨frameAfter, cores⟩ := handOver_frame maskingTaken frame
      refine ⟨_, rfl, ?_, frameAfter, fun _ => message, by simp, by simp, halting.parked, ?_,
        halting.reads⟩
      · exact cores ▸ halting.handler
      · simp [effects, Halt.effectsSoFar, stage, Halt.locks, Masking.State.givenLocks,
          HaltStage.freed]
  | test =>
      rw [stage] at maskingTaken tasksTaken frame
      obtain rfl := Option.some.inj maskingTaken
      obtain rfl := Option.some.inj tasksTaken
      refine ⟨_, rfl, ?_⟩
      rw [message, show halt.message.lock = halt.lockToRelease from rfl]
      by_cases given : halt.lockToRelease.isSome = true
      · rw [if_pos given]
        refine ⟨halting.handler, frame, fun _ => message, by simp, fun _ => given, halting.parked,
          ?_, reads⟩
        simp [effects, Halt.effectsSoFar, stage, Halt.locks, Masking.State.givenLocks,
          HaltStage.freed]
      · rw [if_neg given]
        rw [Bool.not_eq_true, Option.isSome_eq_false_iff, Option.isNone_iff_eq_none] at given
        refine ⟨halting.handler, ?_, fun notDone => absurd rfl notDone, by simp, by simp,
          halting.parked, ?_, reads⟩
        · rw [frame]
          simp [Halt.locks, Masking.State.givenLocks, HaltStage.freed, given]
        · simp [effects, Halt.effectsSoFar, stage, Halt.locks, Masking.State.givenLocks,
            HaltStage.freed, given]
  | free =>
      obtain ⟨lock, isLock, isHandOver, held⟩ := halting.freeGiven stage
      rw [stage] at maskingTaken tasksTaken
      dsimp only at maskingTaken
      rw [isHandOver] at maskingTaken
      obtain rfl := Option.some.inj tasksTaken
      obtain ⟨frameAfter, cores⟩ := handOver_frame maskingTaken held
      refine ⟨_, rfl, ?_, ?_, fun notDone => absurd rfl notDone, by simp, by simp, halting.parked,
        ?_, ?_⟩
      · exact cores ▸ halting.handler
      · dsimp only
        rw [frameAfter]
        simp [Halt.locks, Masking.State.givenLocks, HaltStage.freed, isLock]
      · rw [message]
        simp [effects, Halt.effectsSoFar, stage, Halt.locks, Masking.State.givenLocks,
          HaltStage.freed, Halt.message, selfHaltTask, isLock]
      · rw [message]
        exact reads
  | done => exact absurd stage running

/-! ## The steps of the others -/

/-- A CPU in the handler takes no other steps. -/
theorem selfHalt_of_handler (handler : (state.masking.cores action.cpu).handler = some .selfHalt)
    (maskingTaken : state.actMasking platform action = some masking)
    (tasksTaken : state.actTasks platform action = some result) :
    action = .selfHalt action.cpu := by
  have nobody : state.masking.agent action.cpu = none := by
    rw [Masking.State.agent, handler]
  cases action with
  | acquire cpu lock =>
      obtain ⟨agent, called, -⟩ := Option.bind_eq_some_iff.mp maskingTaken
      cases nobody.symm.trans (caller_eq_some called).1
  | release cpu =>
      obtain ⟨agent, called, -⟩ := Option.bind_eq_some_iff.mp maskingTaken
      cases nobody.symm.trans (caller_eq_some called).1
  | spin cpu =>
      obtain ⟨agent, runs, -⟩ := Option.bind_eq_some_iff.mp maskingTaken
      cases nobody.symm.trans runs
  | call cpu request =>
      obtain ⟨agent, called, -⟩ := Option.bind_eq_some_iff.mp tasksTaken
      cases nobody.symm.trans (caller_eq_some called).1
  | advance cpu target next =>
      obtain ⟨⟨agent, call⟩, called, -⟩ := Option.bind_eq_some_iff.mp tasksTaken
      cases nobody.symm.trans (calling_eq_some called).1
  | execute cpu frame =>
      obtain ⟨agent, runs, -⟩ := Option.bind_eq_some_iff.mp tasksTaken
      cases nobody.symm.trans runs
  | timer cpu next fires =>
      obtain ⟨⟨-, outside⟩, -⟩ := Masking.State.timerInterrupt_cases maskingTaken
      cases handler.symm.trans outside
  | task cpu next =>
      obtain ⟨⟨-, outside⟩, -⟩ := Masking.State.taskInterrupt_cases maskingTaken
      cases handler.symm.trans outside
  | selfHalt cpu => rfl
  | timerReturns cpu =>
      obtain ⟨inTimer, -⟩ := Option.ite_none_right_eq_some.mp maskingTaken
      cases handler.symm.trans inTimer

omit [DecidableEq Thread] in
/-- Nobody posts to a CPU whose handler holds `inactive.lock`. -/
theorem Halting.not_posts (halting : Halting state cpu halt) (locked : Locked state)
    (isHalt : state.halts cpu = some halt) (running : halt.stage ≠ .done)
    (keeps : state.KeepsMessage action) : ¬ Posts state action agent cpu := by
  intro posts
  obtain ⟨isInside, runs⟩ := inside_of_posts posts
  have isHeld : .inactive ∈ (halt.locks cpu).drop halt.stage.freed →
      agent = .handler cpu := by
    intro isHeld
    refine locked.owned.apart agent (.handler cpu) .inactive (locked.held isInside) ?_
    rw [halting.frame]
    exact isHeld
  have notHandler : agent ≠ .handler cpu := by
    rintro rfl
    rcases Masking.State.agent_eq_some_iff.mp runs with ⟨inTimer, same⟩ | ⟨thread, -, -, same⟩
    · obtain rfl := Masking.Agent.handler.inj same
      cases halting.handler.symm.trans inTimer
    · cases same
  obtain ⟨caller, choice, next, call, task, rfl, called, stage, -⟩ := posts
  obtain ⟨notTest, notFree⟩ := keeps _ called cpu (by rw [stage]; rfl) halt isHalt
  cases isStage : halt.stage with
  | save | freeCpu | freeInactive =>
      refine notHandler (isHeld ?_)
      rw [isStage]
      simp [Halt.locks, Masking.State.givenLocks, HaltStage.freed]
  | test => exact notTest isStage
  | free => exact notFree isStage
  | done => exact running isStage

/-- A step of another CPU. -/
theorem Halting.apart (halting : Halting state cpu halt) (locked : Locked state)
    (isHalt : state.halts cpu = some halt) (different : cpu ≠ action.cpu)
    (keeps : state.KeepsMessage action)
    (maskingTaken : state.actMasking platform action = some masking)
    (tasksTaken : state.actTasks platform action = some result) :
    Halting { result with masking := masking } cpu halt := by
  obtain ⟨cores, frames⟩ := (maskingStep_of_act maskingTaken).others
  have notInvolved : ¬ Involved state.masking action.cpu (.handler cpu) := by
    rintro (runs | same)
    · rcases Masking.State.agent_eq_some_iff.mp runs with ⟨-, same⟩ | ⟨thread, -, -, same⟩
      · exact different (Masking.Agent.handler.inj same)
      · cases same
    · exact different (Masking.Agent.handler.inj same)
  have sameCpu : (result.cpus cpu).frame = (state.cpus cpu).frame ∧
      (halt.stage ≠ .done → (result.cpus cpu).task = (state.cpus cpu).task) := by
    rcases cpus_other tasksTaken different with same | ⟨poster, task, posts, isPosted⟩
    · exact same ▸ ⟨rfl, fun _ => rfl⟩
    · refine ⟨by rw [isPosted], fun running => ?_⟩
      exact absurd posts (halting.not_posts locked isHalt running keeps)
  refine ⟨?_, ?_, fun running => ?_, fun isSave => ?_, halting.given, halting.parked,
    halting.effects, halting.reads⟩
  · exact cores cpu different ▸ halting.handler
  · exact frames _ notInvolved ▸ halting.frame
  · exact (sameCpu.2 running).trans (halting.message running)
  · exact sameCpu.1.trans (halting.registers isSave)

/-- The interrupt in which a thread halts itself. -/
theorem Halting.begins {id : Thread} {stop : Bool} {lockToRelease : Option Address}
    (protocol : Protocol state) (called : state.calling cpu = some (.thread thread, call))
    (locking : Locking state cpu (.thread thread) call masking)
    (request : call.request = .deactivateThread stop id lockToRelease)
    (stage : call.stage = .interrupt) (sameCpu : result.cpus cpu = state.cpus cpu) :
    Halting { result with masking := masking } cpu (state.halt cpu thread lockToRelease) := by
  obtain ⟨runs, isCall, -⟩ := calling_eq_some called
  have keeps := protocol.duties (.thread thread) call isCall
  rw [State.Keeps, stage] at keeps
  obtain ⟨stop', id', lockToRelease', request', isThread, dequeued, isInactive, rests⟩ := keeps
  obtain rfl := Masking.Agent.thread.inj isThread
  have message : (state.cpus cpu).task = selfHaltTask thread lockToRelease := by
    rcases Masking.State.agent_eq_some_iff.mp runs with ⟨-, same⟩ | ⟨found, -, code, same⟩
    · cases same
    · obtain rfl := Masking.Agent.thread.inj same
      rcases protocol.executes cpu thread code with ⟨isCurrent, -⟩ | ⟨found, isFound, departs⟩
      · exact absurd ((protocol.queues cpu).current thread isCurrent) (dequeued cpu)
      · obtain rfl := Option.some.inj (isCall.symm.trans isFound)
        obtain ⟨stop'', lockToRelease'', request'', isTask, -⟩ := departs
        obtain ⟨-, -, rfl⟩ := Request.deactivateThread.inj (request.symm.trans request'')
        exact isTask
  cases locking with
  | halts after _ taken =>
      obtain ⟨found, -, -, -, -, rfl⟩ := Masking.State.selfHalt_eq_some taken
      rw [request]
      refine ⟨?_, ?_, fun _ => ?_, fun _ => ?_, by simp [State.halt], ?_, rfl, ?_⟩
      · rw [Masking.State.enterSelfHalt_core]
      · exact Masking.State.enterSelfHalt_handler
      · rw [sameCpu]
        exact message
      · rw [sameCpu]
        rfl
      · simp [State.halt, isInactive, rests]
      · intro task isRead
        rw [List.mem_singleton.mp isRead]
        exact message
  | acquires lock after acquires => simp [stage, Stage.acquires] at acquires
  | releases lock after releases => simp [stage, Stage.releases] at releases
  | same _ _ notInterrupt => exact absurd stage notInterrupt

theorem recorded_of_act (taken : state.actTasks platform action = some result) :
    Recorded state result action := by
  cases action with
  | acquire cpu lock =>
      obtain rfl := Option.some.inj taken
      exact .same (by simp) rfl rfl
  | release cpu =>
      obtain rfl := Option.some.inj taken
      exact .same (by simp) rfl rfl
  | spin cpu =>
      obtain rfl := Option.some.inj taken
      exact .same (by simp) rfl rfl
  | call cpu request =>
      obtain ⟨agent, -, taken⟩ := Option.bind_eq_some_iff.mp taken
      obtain ⟨-, taken⟩ := Option.ite_none_right_eq_some.mp taken
      obtain rfl := Option.some.inj taken
      exact .same (by simp) rfl rfl
  | advance cpu target next =>
      obtain ⟨⟨agent, call⟩, called, taken⟩ := Option.bind_eq_some_iff.mp taken
      obtain ⟨moved, advances⟩ := advances_of_advance taken
      cases advances with
      | halts thread id stop lockToRelease isThread request stage =>
          subst isThread
          exact .begins thread id stop lockToRelease call called request stage rfl rfl rfl
      | returns err stage => exact .returns agent call err called stage rfl rfl
      | moves | changes | handles | issues | continues => exact .same (by simp) rfl rfl
  | execute cpu frame =>
      obtain ⟨agent, -, taken⟩ := Option.bind_eq_some_iff.mp taken
      split at taken
      · obtain rfl := Option.some.inj taken
        exact .same (by simp) rfl rfl
      · cases taken
  | timer cpu next fires =>
      obtain ⟨cpud, threads, -, rfl⟩ := schedule_cases taken
      exact .same (by simp) rfl rfl
  | task cpu next =>
      obtain ⟨-, taken⟩ := Option.ite_none_right_eq_some.mp taken
      obtain ⟨middle, handles, taken⟩ := Option.bind_eq_some_iff.mp taken
      obtain ⟨cpud, threads, -, rfl⟩ := handleTask_cases handles
      obtain rfl := Option.some.inj taken
      exact .same (by simp) rfl rfl
  | selfHalt cpu =>
      obtain ⟨halt, isHalt, taken⟩ := Option.bind_eq_some_iff.mp taken
      dsimp only at taken
      split at taken
      · rename_i stage
        obtain ⟨thread, -, taken⟩ := Option.bind_eq_some_iff.mp taken
        obtain rfl := Option.some.inj taken
        exact .continues halt isHalt (by simp [stage])
          (fun other different => Function.update_of_ne different ..) rfl
      all_goals
        rename_i stage
        obtain rfl := Option.some.inj taken
      case h_6 => exact .ends halt isHalt stage rfl rfl
      all_goals
        exact .continues halt isHalt (by simp [stage])
          (fun other different => Function.update_of_ne different ..) rfl
  | timerReturns cpu =>
      obtain ⟨-, taken⟩ := Option.ite_none_right_eq_some.mp taken
      obtain rfl := Option.some.inj taken
      exact .same (by simp) rfl rfl

/-! ## Runs -/

/-- What every run keeps that keeps the messages. -/
structure Sound (platform : Platform) (state : State Thread) : Prop where
  orderly : Orderly platform state.masking
  locked : Locked state
  protocol : Protocol state
  handsOver : state.HandsOver

theorem Sound.halting_step (sound : Sound platform state) (keeps : state.KeepsMessage action)
    (maskingTaken : state.actMasking platform action = some masking)
    (tasksTaken : state.actTasks platform action = some result)
    (isHalt : result.halts cpu = some halt) :
    Halting { result with masking := masking } cpu halt := by
  have before : state.halts cpu = some halt → action ≠ .selfHalt cpu →
      Halting { result with masking := masking } cpu halt := by
    intro isHalt notHalting
    have halting := sound.handsOver.present cpu halt isHalt
    by_cases here : cpu = action.cpu
    · have isSelf := selfHalt_of_handler (here ▸ halting.handler) maskingTaken tasksTaken
      exact absurd (here ▸ isSelf) notHalting
    · exact halting.apart sound.locked isHalt here keeps maskingTaken tasksTaken
  cases recorded_of_act tasksTaken with
  | same notHalting halts =>
      rw [halts] at isHalt
      exact before isHalt (notHalting cpu)
  | returns agent call err called stage halts =>
      rw [halts] at isHalt
      exact before isHalt (by simp)
  | @begins caller _ _ thread id stop lockToRelease call called request stage cpus halts =>
      rw [halts, Function.update_apply] at isHalt
      split at isHalt
      · rename_i here
        subst here
        obtain rfl := Option.some.inj isHalt
        have locking := locking_of_advance called maskingTaken
        exact .begins sound.protocol called locking request stage (by rw [cpus])
      · exact before isHalt (by simp)
  | @continues halted current isCurrent running others =>
      by_cases here : cpu = halted
      · subst here
        have before := sound.handsOver.present cpu current isCurrent
        obtain ⟨halt', halts, halting⟩ :=
          before.selfHalt isCurrent running maskingTaken tasksTaken
        rw [halts, Function.update_self] at isHalt
        exact Option.some.inj isHalt ▸ halting
      · rw [others cpu here] at isHalt
        exact before isHalt fun same => here (Action.selfHalt.inj same).symm
  | @ends halted current isCurrent done halts =>
      rw [halts, Function.update_apply] at isHalt
      split at isHalt
      · cases isHalt
      · rename_i here
        exact before isHalt fun same => here (Action.selfHalt.inj same).symm

omit [DecidableEq Thread] in
/-- A run that has ended has been right. -/
theorem Halting.right (halting : Halting state cpu halt) (done : halt.stage = .done) :
    halt.Right cpu := by
  refine ⟨halting.parked, ?_, halting.reads⟩
  rw [halting.effects, Halt.effectsSoFar, if_neg (by simp [done]), done]
  cases lock : halt.lockToRelease <;>
    simp [Halt.locks, Masking.State.givenLocks, HaltStage.freed, lock]

/-- The steps record what is right. -/
theorem Sound.history_step (sound : Sound platform state)
    (tasksTaken : state.actTasks platform action = some result) :
    ∀ event ∈ result.history, event.Right := by
  have extended : ∀ event : Event Thread, event.Right →
      ∀ found ∈ state.history ++ [event], found.Right := by
    intro event isRight found isFound
    rcases List.mem_append.mp isFound with before | isNew
    · exact sound.handsOver.past found before
    · exact List.mem_singleton.mp isNew ▸ isRight
  cases recorded_of_act tasksTaken with
  | same notHalting halts history => exact history ▸ sound.handsOver.past
  | returns agent call err called stage halts history =>
      rw [history]
      apply extended
      have keeps := sound.protocol.duties agent call (calling_eq_some called).2.1
      rcases stage with stage | stage
      · rw [State.Keeps, stage] at keeps
        exact keeps
      · rw [State.Keeps, stage] at keeps
        exact keeps
  | begins _ _ _ _ _ _ _ _ _ _ history => exact history ▸ sound.handsOver.past
  | continues _ _ _ _ history => exact history ▸ sound.handsOver.past
  | @ends cpu halt isHalt done halts history =>
      rw [history]
      exact extended _ ((sound.handsOver.present cpu halt isHalt).right done)

/-- Every step that keeps the messages. -/
theorem Sound.step (sound : Sound platform state) (keeps : state.KeepsMessage action)
    (taken : (system Thread platform).step state action = some result) :
    Sound platform result := by
  obtain ⟨below, taken⟩ := Option.ite_none_right_eq_some.mp taken
  obtain ⟨masking, maskingTaken, taken⟩ := Option.bind_eq_some_iff.mp taken
  obtain ⟨after, tasksTaken, taken⟩ := Option.bind_eq_some_iff.mp taken
  obtain rfl := Option.some.inj taken
  have step := maskingStep_of_act maskingTaken
  have history := sound.history_step tasksTaken
  obtain ⟨owned, done⟩ : masking.Owned ∧ masking.HandlersDone := by
    cases action with
    | selfHalt cpu =>
        obtain ⟨halt, isHalt, -⟩ := Option.bind_eq_some_iff.mp tasksTaken
        have halting := sound.handsOver.present cpu halt isHalt
        exact halting.owned sound.locked.owned sound.locked.done isHalt maskingTaken
    | _ => exact step.kept (by simp [Action.kind]) sound.locked.owned sound.locked.done
  exact ⟨sound.orderly.step below step,
    sound.locked.step maskingTaken tasksTaken owned done,
    sound.protocol.step sound.locked sound.orderly maskingTaken tasksTaken,
    history, fun cpu halt isHalt => sound.halting_step keeps maskingTaken tasksTaken isHalt⟩

omit [DecidableEq Thread] in
theorem Sound.initial (starts : state.Initial) : Sound platform state := by
  have orderly : Orderly platform state.masking := (Waiting.initial starts).orderly
  have masking := starts.masking
  refine ⟨orderly, ?_, ?_, ?_, ?_⟩
  · refine ⟨?_, ?_, fun _ _ => starts.calls _, fun agent call isCall => ?_⟩
    · rw [masking]
      exact ⟨nofun, fun _ => List.nodup_nil, nofun⟩
    · rw [masking]
      exact fun _ _ => rfl
    · cases (starts.calls agent).symm.trans isCall
  · refine ⟨fun cpu => ?_, fun cpu thread code => ?_, fun agent call isCall => ?_,
      fun cpu isPending => ?_, fun cpu call isCall => ?_⟩
    · refine ⟨starts.queued cpu, starts.nodup cpu, fun thread isCurrent => ?_⟩
      rw [starts.current] at isCurrent
      exact List.mem_of_mem_head? isCurrent
    · rw [masking] at code
      cases code
    · cases (starts.calls agent).symm.trans isCall
    · cases (starts.pending cpu).symm.trans isPending
    · cases (starts.calls (.handler cpu)).symm.trans isCall
  · rw [starts.history]
    exact nofun
  · intro cpu halt isHalt
    cases (starts.halts cpu).symm.trans isHalt

/-- A task that is posted to a CPU whose handler has still to read its message replaces it. -/
theorem Sound.keepsMessage (sound : Sound platform state)
    (taken : (system Thread platform).step state action = some result)
    (handsOver : result.HandsOver) : state.KeepsMessage action := by
  obtain ⟨-, taken⟩ := Option.ite_none_right_eq_some.mp taken
  obtain ⟨masking, -, taken⟩ := Option.bind_eq_some_iff.mp taken
  obtain ⟨after, tasksTaken, taken⟩ := Option.bind_eq_some_iff.mp taken
  obtain rfl := Option.some.inj taken
  cases action with
  | advance cpu choice next =>
      rintro ⟨agent, call⟩ called target isTarget halt isHalt
      obtain ⟨⟨found, foundCall⟩, alsoCalled, taken⟩ := Option.bind_eq_some_iff.mp tasksTaken
      obtain ⟨rfl, rfl⟩ := Prod.mk.inj (Option.some.inj (called.symm.trans alsoCalled))
      obtain ⟨task, stage⟩ : ∃ task, call.stage = .post target task := by
        dsimp only at isTarget
        unfold Stage.target at isTarget
        split at isTarget
        · rename_i posted task stage
          obtain rfl := Option.mem_some_iff.mp isTarget
          exact ⟨task, stage⟩
        · cases isTarget
      have away : target ≠ cpu := by
        rintro rfl
        have runs := (calling_eq_some called).1
        rw [Masking.State.agent, (sound.handsOver.present target halt isHalt).handler] at runs
        cases runs
      dsimp only at taken
      rw [State.advance, stage] at taken
      dsimp only at taken
      rw [State.post, if_neg away] at taken
      obtain rfl := Option.some.inj taken
      have halting := handsOver.present target halt isHalt
      by_contra notKept
      have running : halt.stage ≠ .done := by
        intro done
        simp [done] at notKept
      have isBusy := congrArg CpuTask.error (halting.message running)
      simp [Halt.message, selfHaltTask] at isBusy
  | _ => trivial

/-- Along every execution from boot, `pause_this_thread` hands the given spinlock over exactly
if no task is posted to a CPU whose handler has released `inactive.lock` and has still to read
its message. -/
theorem handsOver_iff_keepsMessage (platform : Platform) (starts : state.Initial)
    (actions : List (Action Thread)) :
    (system Thread platform).Along (fun _ _ next => next.HandsOver) state actions ↔
      (system Thread platform).Along (fun current action _ => current.KeepsMessage action)
        state actions := by
  have sound : Sound platform state := .initial starts
  refine TransitionSystem.along_congr (fun current action next holds taken => ?_)
    (fun current action next holds taken keeps => holds.step keeps taken) sound
  exact ⟨holds.keepsMessage taken, fun keeps => (holds.step keeps taken).handsOver⟩

end Steps

/-- The thread on CPU 0 acquires a spinlock and pauses itself, up to the release of
`inactive.lock`. -/
def halting (thread : Thread) (lock : Address) : List (Action Thread) :=
  [.timer 0 none false, .timer 1 none false,
    .acquire 0 lock, .spin 0, .spin 0, .spin 0,
    .call 0 (.deactivateThread false thread (some lock)), .advance 0 0 none, .spin 0, .spin 0,
    .advance 0 0 none, .advance 0 0 none, .advance 0 0 none, .spin 0, .spin 0,
    .advance 0 0 none, .advance 0 0 none, .advance 0 0 none, .advance 0 0 none,
    .selfHalt 0, .selfHalt 0, .selfHalt 0]

/-- The thread on CPU 1 resumes it there, up to the message. -/
def resuming (thread : Thread) : List (Action Thread) :=
  [.call 1 (.resumeThread thread), .advance 1 0 none, .spin 1, .spin 1, .spin 1,
    .advance 1 0 none, .advance 1 0 none, .spin 1, .spin 1, .advance 1 0 none]

instance (state : State Thread) : ∀ action, Decidable (state.KeepsMessage action)
  | .advance cpu _ _ =>
      letI (found : Agent Thread × Call Thread) :
          Decidable (∀ target ∈ found.2.stage.target, ∀ halt ∈ state.halts target,
            halt.stage ≠ .test ∧ halt.stage ≠ .free) :=
        letI (target : Nat) :
            Decidable (∀ halt ∈ state.halts target, halt.stage ≠ .test ∧ halt.stage ≠ .free) :=
          Option.decidableForallMem _
        Option.decidableForallMem _
      Option.decidableForallMem (state.calling cpu)
  | .acquire _ _ | .release _ | .spin _ | .call _ _ | .execute _ _ | .timer _ _ _ | .task _ _
  | .selfHalt _ | .timerReturns _ => .isTrue trivial

/-- Thread 1 resumes thread 0 after the handler has read its message. -/
theorem handsOver_iff_keepsMessage_resumed :
    (system (Fin 2) Scheduler.twoCpus).Along (fun _ _ next => next.HandsOver) bootState
      (halting 0 7 ++ [.selfHalt 0, .selfHalt 0, .selfHalt 0] ++ resuming 0) := by
  refine (handsOver_iff_keepsMessage Scheduler.twoCpus bootState_initial _).mpr ?_
  obtain ⟨state, executed⟩ := Option.isSome_iff_exists.mp
    (show ((system (Fin 2) Scheduler.twoCpus).execUnder State.KeepsMessage bootState
      (halting 0 7 ++ [.selfHalt 0, .selfHalt 0, .selfHalt 0] ++ resuming 0)).isSome = true by
        decide +kernel)
  exact TransitionSystem.along_of_execUnder executed

/-- A run of `do_self_halt_task` has not released the spinlock that was given. -/
def Event.forgets [DecidableEq Thread] : Event Thread → Address → Bool
  | .halted _ halt, lock =>
      decide (halt.lockToRelease = some lock ∧ Effect.freed (.other lock) ∉ halt.effects)
  | .returned _ _ _, _ => false

/-- Thread 1 resumes thread 0 before that.  The handler finds no spinlock in the message, and
that of thread 0 stays acquired. -/
theorem handsOver_fails :
    ∃ state, (system (Fin 2) Scheduler.twoCpus).Reachable state ∧ ¬ state.HandsOver ∧
      (state.masking.locks (.other 7)).busy = true ∧
      ∃ cpu halt, .halted cpu halt ∈ state.history ∧ halt.lockToRelease = some 7 ∧
        .freed (.other 7) ∉ halt.effects := by
  obtain ⟨state, executed, checked⟩ := (Option.any_eq_true _ _).mp
    (show ((system (Fin 2) Scheduler.twoCpus).exec bootState
      (halting 0 7 ++ resuming 0 ++ [.selfHalt 0, .selfHalt 0])).any (fun state =>
        (state.masking.locks (.other 7)).busy ∧ state.history.any (·.forgets 7)) = true by
          decide +kernel)
  obtain ⟨isBusy, isForgotten⟩ := of_decide_eq_true checked
  obtain ⟨event, isEvent, forgets⟩ := List.any_eq_true.mp isForgotten
  cases event with
  | halted cpu halt =>
      obtain ⟨given, notFreed⟩ := of_decide_eq_true forgets
      refine ⟨state, TransitionSystem.reachable_of_exec bootState_initial executed,
        fun handsOver => notFreed ?_, isBusy, cpu, halt, isEvent, given, notFreed⟩
      rw [(handsOver.past _ isEvent).effects, Halt.locks, given]
      simp [Masking.State.givenLocks]
  | returned agent request err => cases forgets

end Tasks
end ToyKernel
