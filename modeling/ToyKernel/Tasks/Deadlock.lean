import ToyKernel.Scheduler.Conservation
import ToyKernel.Tasks.Advance
import ToyKernel.Tasks.Spinlocks

/-!
# Waiting for a CPU that waits for a spinlock

The loop of `run_cpu_task` waits for a CPU to take its task interrupt while the caller
holds spinlocks.  The CPU never takes it if it spins on one of these with interrupts
disabled.
-/

namespace ToyKernel
namespace Tasks

open Masking (Agent Lock)
open Scheduler (Platform)

variable {Thread : Type} [DecidableEq Thread]

namespace State

/-- An agent is in the loop of `run_cpu_task` for a CPU. -/
def Loops (state : State Thread) (agent : Agent Thread) (cpu : Nat) : Prop :=
  ∃ call ∈ state.calls agent, call.stage = .wait cpu

/-- An agent waits for the answer of a CPU. -/
def Awaits (state : State Thread) (agent : Agent Thread) (cpu : Nat) : Prop :=
  state.Loops agent cpu ∧ (state.cpus cpu).task.error = .errBusy

end State

/-- A step of an agent posts a task for another CPU. -/
def Posts (state : State Thread) (action : Action Thread) (agent : Agent Thread)
    (target : Nat) : Prop :=
  ∃ cpu choice next call task, action = .advance cpu choice next ∧
    state.calling cpu = some (agent, call) ∧ call.stage = .post target task ∧ target ≠ cpu

/-- Waits for a CPU and calls of `acquire_spinlock` there are kept apart: while an agent waits
for the answer of a CPU, the code on it does not enter `acquire_spinlock` for a spinlock of
the agent, and no task is posted for a CPU whose code is in `acquire_spinlock` for a spinlock
of the issuer, or of another agent in the loop for this CPU. -/
structure State.Apart (state : State Thread) (action : Action Thread) : Prop where
  enters : ∀ lock, Enters state action lock → ∀ holder, state.Awaits holder action.cpu →
    lock ∉ (state.masking.frames holder).held
  posts : ∀ agent target, Posts state action agent target →
    ∀ lock, Seeks state.masking target lock →
      ∀ holder, holder = agent ∨ state.Loops holder target →
        lock ∉ (state.masking.frames holder).held

section Steps

variable {platform : Platform} {state next : State Thread} {action : Action Thread}
  {agent : Agent Thread} {cpu other : Nat} {lock : Lock} {call : Call Thread}

/-! ## Waiting -/

/-- What the loop of `run_cpu_task` relies on. -/
structure Waiting (platform : Platform) (state : State Thread) : Prop where
  orderly : Orderly platform state.masking
  loops : ∀ agent cpu, state.Loops agent cpu →
    (state.masking.frames agent).position = .idle
  handlers : ∀ cpu, (state.masking.cores cpu).handler ≠ some .timer →
    state.calls (.handler cpu) = none
  clear : ∀ agent cpu lock, state.Awaits agent cpu → Seeks state.masking cpu lock →
    lock ∉ (state.masking.frames agent).held

omit [DecidableEq Thread] in
/-- One agent posts a task in a step. -/
theorem Posts.unique {target : Nat} {first second : Agent Thread}
    (left : Posts state action first target) (right : Posts state action second target) :
    first = second := by
  obtain ⟨cpu, choice, next, call, task, rfl, called, -⟩ := left
  obtain ⟨_, _, _, otherCall, _, same, alsoCalled, -⟩ := right
  obtain ⟨rfl, -, -⟩ := Action.advance.inj same
  exact (Prod.mk.inj (Option.some.inj (called.symm.trans alsoCalled))).1

/-- What a step does to the calls and to the answers. -/
structure Calls (state after : State Thread) (action : Action Thread) : Prop where
  loops : ∀ holder waited, after.Loops holder waited →
    state.Loops holder waited ∨ Posts state action holder waited
  busy : ∀ waited, (after.cpus waited).task.error = .errBusy →
    (state.cpus waited).task.error = .errBusy ∨ ∃ agent, Posts state action agent waited
  others : ∀ holder, state.masking.agent action.cpu ≠ some holder →
    after.calls holder = state.calls holder

omit [DecidableEq Thread] in
theorem Calls.of_same {after : State Thread} (calls : after.calls = state.calls)
    (errors : ∀ waited, (after.cpus waited).task.error = (state.cpus waited).task.error ∨
      (after.cpus waited).task.error ≠ .errBusy) : Calls state after action where
  loops holder waited loops := by
    unfold State.Loops at loops ⊢
    rw [calls] at loops
    exact .inl loops
  busy waited isBusy := by
    rcases errors waited with same | answered
    · exact .inl (same ▸ isBusy)
    · exact absurd isBusy answered
  others holder _ := by rw [calls]

theorem calls_advance {target : Nat} {choice : Option Thread} {after : State Thread}
    (called : state.calling cpu = some (agent, call))
    (taken : state.advance platform cpu agent call target choice = some after) :
    Calls state after (.advance cpu target choice) := by
  obtain ⟨moved, cpus, advanced, sameCpus, calls⟩ := advance_cases taken
  have runs := (calling_eq_some called).1
  have loops_cases : ∀ holder waited, after.Loops holder waited → state.Loops holder waited ∨
      holder = agent ∧ ∃ call ∈ moved, call.stage = .wait waited := by
    intro holder waited loops
    unfold State.Loops at loops
    rw [calls, Function.update_apply] at loops
    split at loops
    · rename_i same
      exact .inr ⟨same, loops⟩
    · exact .inl loops
  have others : ∀ holder, state.masking.agent cpu ≠ some holder →
      after.calls holder = state.calls holder := by
    intro holder different
    rw [calls, Function.update_of_ne]
    rintro rfl
    exact different runs
  cases advanced with
  | issues posted task posts away =>
      refine ⟨fun holder waited loops => ?_, fun waited isBusy => ?_, others⟩
      · rcases loops_cases holder waited loops with before | ⟨rfl, found, isMoved, waits⟩
        · exact .inl before
        · obtain rfl := Option.mem_some_iff.mp isMoved
          obtain rfl : posted = waited := by simpa [Call.goto] using waits
          exact .inr ⟨cpu, target, choice, call, task, rfl, called, posts, away⟩
      · rw [sameCpus, Function.update_apply] at isBusy
        split at isBusy
        · rename_i same
          exact .inr ⟨agent, cpu, target, choice, call, task, rfl, called, same ▸ posts,
            same ▸ away⟩
        · exact .inl isBusy
  | handles task cpud threads posts handled =>
      refine ⟨fun holder waited loops => ?_, fun waited isBusy => ?_, others⟩
      · rcases loops_cases holder waited loops with before | ⟨rfl, found, isMoved, waits⟩
        · exact .inl before
        · obtain rfl := Option.mem_some_iff.mp isMoved
          cases waits
      · rw [sameCpus, Function.update_apply] at isBusy
        split at isBusy
        · exact absurd isBusy handled.answers
        · exact .inl isBusy
  | moves moved notPost notWaiting =>
      refine ⟨fun holder waited loops => ?_, fun waited isBusy => ?_, others⟩
      · rcases loops_cases holder waited loops with before | ⟨rfl, found, isMoved, waits⟩
        · exact .inl before
        · exact absurd waits (notWaiting waited found isMoved)
      · rw [sameCpus] at isBusy
        exact .inl isBusy

theorem calls_of_act {after : State Thread}
    (taken : state.actTasks platform action = some after) : Calls state after action := by
  cases action with
  | acquire cpu lock =>
      obtain rfl := Option.some.inj taken
      exact .of_same rfl fun _ => .inl rfl
  | release cpu =>
      obtain rfl := Option.some.inj taken
      exact .of_same rfl fun _ => .inl rfl
  | spin cpu =>
      obtain rfl := Option.some.inj taken
      exact .of_same rfl fun _ => .inl rfl
  | call cpu request =>
      obtain ⟨agent, called, taken⟩ := Option.bind_eq_some_iff.mp taken
      obtain ⟨-, taken⟩ := Option.ite_none_right_eq_some.mp taken
      obtain rfl := Option.some.inj taken
      refine ⟨fun holder waited loops => ?_, fun waited isBusy => .inl isBusy, ?_⟩
      · obtain ⟨call, isCall, waits⟩ := loops
        rw [State.setCall_calls, Function.update_apply] at isCall
        split at isCall
        · obtain rfl := Option.mem_some_iff.mp isCall
          cases request <;> cases waits
        · exact .inl ⟨call, isCall, waits⟩
      · intro holder different
        rw [State.setCall_calls, Function.update_of_ne]
        rintro rfl
        exact different (caller_eq_some called).1
  | advance cpu target next =>
      obtain ⟨⟨agent, call⟩, called, taken⟩ := Option.bind_eq_some_iff.mp taken
      exact calls_advance called taken
  | execute cpu frame =>
      obtain ⟨agent, -, taken⟩ := Option.bind_eq_some_iff.mp taken
      split at taken
      · obtain rfl := Option.some.inj taken
        refine .of_same rfl fun waited => .inl ?_
        rw [State.setCpu_cpus, Function.update_apply]
        split
        · rename_i same
          rw [same]
        · rfl
      · cases taken
  | timer cpu next fires =>
      obtain ⟨cpud, threads, scheduled, rfl⟩ := schedule_cases taken
      refine .of_same rfl fun waited => .inl ?_
      dsimp only
      rw [Function.update_apply]
      split
      · rename_i same
        rw [scheduled.task, same]
      · rfl
  | task cpu next =>
      obtain ⟨-, taken⟩ := Option.ite_none_right_eq_some.mp taken
      obtain ⟨middle, handles, taken⟩ := Option.bind_eq_some_iff.mp taken
      obtain ⟨cpud, threads, handled, rfl⟩ := handleTask_cases handles
      obtain rfl := Option.some.inj taken
      refine .of_same rfl fun waited => ?_
      simp only [State.setCpu_cpus, Function.update_self, Function.update_apply]
      split
      · exact .inr handled.answers
      · exact .inl rfl
  | selfHalt cpu =>
      obtain ⟨halt, -, taken⟩ := Option.bind_eq_some_iff.mp taken
      dsimp only at taken
      split at taken
      · obtain ⟨thread, -, taken⟩ := Option.bind_eq_some_iff.mp taken
        obtain rfl := Option.some.inj taken
        refine .of_same rfl fun waited => .inl ?_
        simp only [State.setHalt_cpus, State.setCpu_cpus, State.setThread_cpus,
          Function.update_apply]
        split
        · rename_i same
          rw [same]
        · rfl
      all_goals
        obtain rfl := Option.some.inj taken
        exact .of_same rfl fun _ => .inl rfl
  | timerReturns cpu =>
      obtain ⟨-, taken⟩ := Option.ite_none_right_eq_some.mp taken
      obtain rfl := Option.some.inj taken
      exact .of_same rfl fun _ => .inl rfl

/-- An agent in the loop stays out of `acquire_spinlock` and `release_spinlock`. -/
theorem idle_of_loops {after : Masking.State Thread}
    (loops : state.Loops agent other)
    (idle : (state.masking.frames agent).position = .idle)
    (taken : state.actMasking platform action = some after) :
    (after.frames agent).position = .idle := by
  obtain ⟨call, isCall, waits⟩ := loops
  have sameFrame : ∀ {cpu : Nat} {mover : Agent Thread}, agent ≠ mover →
      Masking.State.AgentStep cpu mover state.masking after →
      (after.frames agent).position = .idle := by
    intro cpu mover different moved
    rw [moved.frames agent different]
    exact idle
  cases action with
  | acquire cpu lock =>
      obtain ⟨mover, called, taken⟩ := Option.bind_eq_some_iff.mp taken
      refine sameFrame ?_ (Masking.State.acquireSpinlock_agentStep taken)
      rintro rfl
      rw [(caller_eq_some called).2] at isCall
      cases isCall
  | release cpu =>
      obtain ⟨mover, called, taken⟩ := Option.bind_eq_some_iff.mp taken
      obtain ⟨lock, -, taken⟩ := Option.bind_eq_some_iff.mp taken
      obtain ⟨-, taken⟩ := Option.ite_none_right_eq_some.mp taken
      have moved : Masking.State.AgentStep cpu mover state.masking after :=
        Masking.State.releaseSpinlock_agentStep taken
      refine sameFrame ?_ moved
      rintro rfl
      rw [(caller_eq_some called).2] at isCall
      cases isCall
  | spin cpu =>
      obtain ⟨mover, runs, taken⟩ := Option.bind_eq_some_iff.mp taken
      have advanced := advance_of_spin taken
      refine sameFrame ?_ (Masking.State.advance_agentStep advanced)
      rintro rfl
      rw [Masking.State.advance, idle] at advanced
      cases advanced
  | call cpu request =>
      obtain rfl := Option.some.inj taken
      exact idle
  | execute cpu frame =>
      obtain rfl := Option.some.inj taken
      exact idle
  | advance cpu target next =>
      obtain ⟨⟨mover, moving⟩, called, taken⟩ := Option.bind_eq_some_iff.mp taken
      dsimp only at taken
      by_cases same : agent = mover
      · have isMoving := (calling_eq_some called).2.1
        rw [← same, isCall] at isMoving
        obtain rfl := Option.some.inj isMoving
        rw [waits] at taken
        obtain rfl := Option.some.inj taken
        exact idle
      · split at taken
        · exact sameFrame same (Masking.State.acquireSpinlock_agentStep taken)
        · obtain ⟨-, taken⟩ := Option.ite_none_right_eq_some.mp taken
          have moved : Masking.State.AgentStep cpu mover state.masking after :=
            Masking.State.releaseSpinlock_agentStep taken
          exact sameFrame same moved
        · split at taken
          · obtain ⟨thread, -, -, -, -, rfl⟩ := Masking.State.selfHalt_eq_some taken
            by_cases isThread : agent = .thread thread
            · rw [isThread, Masking.State.enterSelfHalt_thread]
              rw [isThread] at idle
              exact idle
            · by_cases isHandler : agent = .handler cpu
              · rw [isHandler, Masking.State.enterSelfHalt_handler]
              · rw [Masking.State.enterSelfHalt_other isThread isHandler]
                exact idle
          · obtain rfl := Option.some.inj taken
            exact idle
  | timer cpu next fires =>
      rw [(Masking.State.timerInterrupt_interruptStep taken).frames]
      exact idle
  | task cpu next =>
      rw [(Masking.State.taskInterrupt_interruptStep taken).frames]
      exact idle
  | selfHalt cpu =>
      have handsOver : ∀ {after : Masking.State Thread},
          state.masking.handOver cpu = some after → (after.frames agent).position = .idle := by
        intro after handsOver
        obtain ⟨lock, older, -, -, rfl⟩ := Masking.State.handOver_eq_some handsOver
        rw [Masking.State.setFrame_frames, Function.update_apply]
        split
        · rename_i same
          rw [same] at idle
          exact idle
        · exact idle
      obtain ⟨halt, -, taken⟩ := Option.bind_eq_some_iff.mp taken
      obtain ⟨-, taken⟩ := Option.ite_none_right_eq_some.mp taken
      split at taken
      · obtain rfl := Option.some.inj taken
        exact idle
      · obtain rfl := Option.some.inj taken
        exact idle
      · exact handsOver taken
      · exact handsOver taken
      · unfold State.freeGiven at taken
        split at taken
        · obtain rfl := Option.some.inj taken
          exact idle
        · split at taken
          · exact handsOver taken
          · obtain rfl := Option.some.inj taken
            exact idle
      · rw [(Masking.State.returnFromInterrupt_interruptStep taken).frames,
          Masking.State.setFrame_frames, Function.update_apply]
        split
        · rfl
        · exact idle
  | timerReturns cpu =>
      obtain ⟨-, taken⟩ := Option.ite_none_right_eq_some.mp taken
      rw [(Masking.State.returnFromInterrupt_interruptStep taken).frames]
      exact idle

/-- A timer procedure does not return in a call. -/
theorem handlers_step {masking : Masking.State Thread} {after : State Thread}
    (handlers : ∀ cpu, (state.masking.cores cpu).handler ≠ some .timer →
      state.calls (.handler cpu) = none)
    (maskingTaken : state.actMasking platform action = some masking)
    (tasksTaken : state.actTasks platform action = some after) :
    ∀ other, (masking.cores other).handler ≠ some .timer → after.calls (.handler other) = none := by
  have step := maskingStep_of_act maskingTaken
  intro other notTimer
  by_cases runs : state.masking.agent action.cpu = some (.handler other)
  · rcases Masking.State.agent_eq_some_iff.mp runs with ⟨inTimer, same⟩ | ⟨_, -, -, same⟩
    · obtain rfl := Masking.Agent.handler.inj same
      rcases timer_of_step step inTimer with stillTimer | returns
      · exact absurd stillTimer notTimer
      · cases action with
        | timerReturns cpu =>
            obtain ⟨none, taken⟩ := Option.ite_none_right_eq_some.mp tasksTaken
            obtain rfl := Option.some.inj taken
            exact none
        | _ => cases returns
    · cases same
  · rw [(calls_of_act tasksTaken).others _ runs]
    refine handlers other fun inTimer => ?_
    by_cases here : other = action.cpu
    · rw [here] at inTimer runs
      rw [Masking.State.agent, inTimer] at runs
      exact runs rfl
    · rw [step.others.1 other here] at notTimer
      exact notTimer inTimer

/-- Every step that keeps waits and calls apart keeps the awaited CPUs out of the calls. -/
theorem Waiting.step (waiting : Waiting platform state) (apart : state.Apart action)
    (taken : (system Thread platform).step state action = some next) : Waiting platform next := by
  obtain ⟨below, taken⟩ := Option.ite_none_right_eq_some.mp taken
  obtain ⟨masking, maskingTaken, taken⟩ := Option.bind_eq_some_iff.mp taken
  obtain ⟨after, tasksTaken, taken⟩ := Option.bind_eq_some_iff.mp taken
  obtain rfl := Option.some.inj taken
  have step := maskingStep_of_act maskingTaken
  have calls := calls_of_act tasksTaken
  -- a task is posted by an agent in neither function, and no spinlock changes
  have posting : ∀ {agent : Agent Thread} {target : Nat}, Posts state action agent target →
      masking = state.masking ∧ (state.masking.frames agent).position = .idle := by
    rintro agent target ⟨cpu, choice, next, call, task, rfl, called, posts, away⟩
    rw [actMasking_posts called posts] at maskingTaken
    exact ⟨(Option.some.inj maskingTaken).symm, (calling_eq_some called).2.2⟩
  have loopsBefore : ∀ holder waited, after.Loops holder waited →
      state.Loops holder waited ∨ Posts state action holder waited := calls.loops
  have handlers := handlers_step waiting.handlers maskingTaken tasksTaken
  refine ⟨waiting.orderly.step below step, ?_, ?_, ?_⟩
  · intro holder waited loops
    rcases loopsBefore holder waited loops with before | posts
    · exact idle_of_loops before (waiting.loops holder waited before) maskingTaken
    · obtain ⟨rfl, idle⟩ := posting posts
      exact idle
  · exact handlers
  · rintro holder waited lock ⟨loops, isBusy⟩ seeks isHeld
    have answered := calls.busy waited isBusy
    by_cases isPost : ∃ poster, Posts state action poster waited
    · obtain ⟨poster, posts⟩ := isPost
      obtain ⟨rfl, -⟩ := posting posts
      refine apart.posts poster waited posts lock seeks holder ?_ isHeld
      exact (loopsBefore holder waited loops).symm.imp (·.unique posts) id
    · have busyBefore := answered.resolve_right isPost
      have loopedBefore := (loopsBefore holder waited loops).resolve_right fun posts =>
        isPost ⟨holder, posts⟩
      have heldBefore : lock ∈ (state.masking.frames holder).held := by
        rcases held_of_idle step (waiting.loops holder waited loopedBefore) isHeld with
          before | ⟨rfl, outside⟩
        · exact before
        · obtain ⟨call, isCall, -⟩ := loopedBefore
          rw [waiting.handlers _ (by rw [outside]; simp)] at isCall
          cases isCall
      have awaited : state.Awaits holder waited := ⟨loopedBefore, busyBefore⟩
      by_cases here : waited = action.cpu
      · rw [here] at seeks awaited
        rcases enters_of_seeks waiting.orderly maskingTaken seeks with before | enters
        · exact waiting.clear holder action.cpu lock awaited before heldBefore
        · exact apart.enters lock enters holder awaited heldBefore
      · exact waiting.clear holder waited lock awaited
          (seeks_other waiting.orderly step here seeks) heldBefore

omit [DecidableEq Thread] in
theorem Waiting.initial (starts : state.Initial) : Waiting platform state := by
  have masking := starts.masking
  have calls := starts.calls
  refine ⟨⟨?_, ?_, ?_, ?_, ?_, ?_⟩, ?_, fun cpu _ => calls _, ?_⟩
  · rw [masking]
    intro cpu other thread code
    cases code
  · rw [masking]
    exact fun _ _ => ⟨rfl, rfl⟩
  · rw [masking]
    exact fun _ => rfl
  · rw [masking]
    exact fun _ inHandler => absurd rfl inHandler
  · rw [masking]
    exact fun _ _ => rfl
  · rw [masking]
    exact fun _ _ => rfl
  · rintro agent cpu ⟨call, isCall, -⟩
    rw [calls] at isCall
    cases isCall
  · rintro agent cpu lock ⟨⟨call, isCall, -⟩, -⟩
    rw [calls] at isCall
    cases isCall

/-! ## Steps that do not keep them apart -/

end Steps

/-- Two threads in the run queues of two CPUs. -/
def bootState : State (Fin 2) where
  masking := .initial
  threads := fun thread =>
    { attached := true
      state := .running
      cpu := thread
      context := Scheduler.bootThread.context }
  inactive := []
  cpus := fun cpu =>
    { queue := if below : cpu < 2 then [⟨cpu, below⟩] else []
      current := if below : cpu < 2 then some ⟨cpu, below⟩ else none
      loadContext := true
      task := { type := .resume, error := .errNone, thread := none, lock := none }
      pending := false
      frame := Scheduler.bootThread.context }
  calls := fun _ => none
  halts := fun _ => none
  history := []

theorem bootState_initial : bootState.Initial where
  masking := rfl
  queued cpu thread queued := by
    by_cases below : cpu < 2
    · simp only [bootState, dif_pos below, List.mem_singleton] at queued
      subst queued
      exact ⟨rfl, rfl, rfl⟩
    · simp only [bootState, dif_neg below, List.not_mem_nil] at queued
  current cpu := by
    by_cases below : cpu < 2
    · simp only [bootState, dif_pos below, List.head?_cons]
    · simp only [bootState, dif_neg below, List.head?_nil]
  loadContext _ := rfl
  nodup cpu := by
    by_cases below : cpu < 2
    · simp only [bootState, dif_pos below, List.nodup_singleton]
    · simp only [bootState, dif_neg below, List.nodup_nil]
  pending _ := rfl
  calls _ := rfl
  halts _ := rfl
  history := rfl

/-- The CPU that a position posts a task to. -/
def Stage.target : Stage Thread → Option Nat
  | .post target _ => some target
  | _ => none

/-- Tasks are issued to CPUs outside `acquire_spinlock`, which take them before anything
else. -/
def State.Prompt (state : State Thread) : Action Thread → Prop
  | .advance cpu _ _ =>
      (state.cpus cpu).task.error ≠ .errBusy ∧
        ∀ found ∈ state.calling cpu, ∀ target ∈ found.2.stage.target,
          ∀ agent ∈ state.masking.agent target,
            sought (state.masking.frames agent).position = none
  | .acquire cpu _ | .timer cpu _ _ | .timerReturns cpu =>
      (state.cpus cpu).task.error ≠ .errBusy
  | _ => True

instance (state : State Thread) : ∀ action, Decidable (state.Prompt action)
  | .advance cpu _ _ =>
      letI (target : Nat) : Decidable (∀ agent ∈ state.masking.agent target,
          sought (state.masking.frames agent).position = none) :=
        Option.decidableForallMem _
      letI (found : Agent Thread × Call Thread) :
          Decidable (∀ target ∈ found.2.stage.target, ∀ agent ∈ state.masking.agent target,
            sought (state.masking.frames agent).position = none) :=
        Option.decidableForallMem _
      letI : Decidable (∀ found ∈ state.calling cpu, ∀ target ∈ found.2.stage.target,
          ∀ agent ∈ state.masking.agent target,
            sought (state.masking.frames agent).position = none) :=
        Option.decidableForallMem (state.calling cpu)
      inferInstanceAs (Decidable (_ ∧ _))
  | .acquire _ _ | .timer _ _ _ | .timerReturns _ => inferInstanceAs (Decidable (_ ≠ _))
  | .release _ | .spin _ | .call _ _ | .execute _ _ | .task _ _ | .selfHalt _ => .isTrue trivial

omit [DecidableEq Thread] in
theorem State.Prompt.apart {state : State Thread} {action : Action Thread}
    (isPrompt : state.Prompt action) : state.Apart action where
  enters lock enters holder awaits := by
    cases action with
    | acquire cpu address => exact absurd awaits.2 isPrompt
    | advance cpu target next => exact absurd awaits.2 isPrompt.1
    | timer cpu next fires => exact absurd awaits.2 isPrompt
    | timerReturns cpu => exact absurd awaits.2 isPrompt
    | _ => exact enters.elim
  posts agent target posts lock seeks := by
    obtain ⟨cpu, choice, next, call, task, rfl, called, stage, -⟩ := posts
    obtain ⟨found, runs, isSought⟩ := seeks
    have outside := isPrompt.2 _ called target (by rw [stage]; rfl) found runs
    rw [outside] at isSought
    cases isSought

end Tasks
end ToyKernel
