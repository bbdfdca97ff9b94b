import ToyKernel.Tasks.Deadlock

/-!
# Calls under `inactive.lock`

A call of the scheduler is under `inactive.lock` from the return of `acquire_spinlock` to its
end, or to the interrupt in which `do_self_halt_task` takes the spinlock over.  No two calls
are there at once.
-/

namespace ToyKernel
namespace Tasks

open Masking (Agent Lock Position)
open Scheduler (Platform)

variable {Thread : Type} [DecidableEq Thread]

/-- Under `inactive.lock`, before it is released. -/
def Stage.inside : Stage Thread → Bool
  | .attempt | .lockCpu _ _ | .post _ _ | .wait _ | .copy _ | .unlockCpu _ _ | .finish _
  | .interrupt | .unlockInactive _ => true
  | .lockAll | .lockInactive | .body | .halted | .unlockAll _ => false

/-- The spinlock that `acquire_spinlock` is going to obtain. -/
def seeks : Position → Option Lock
  | .recording lock _ _ | .masking lock _ _ | .trying lock _ _ => some lock
  | _ => none

/-- What a position of a call says about the spinlocks of the agent. -/
structure Fits (frame : Masking.Frame) (stage : Stage Thread) : Prop where
  inside : stage.inside = true → .inactive ∈ frame.held
  body : stage = .body → (frame.position = .idle ∧ .inactive ∈ frame.held) ∨
    seeks frame.position = some .inactive

/-- An agent has obtained `inactive.lock` in its call. -/
def State.Inside (state : State Thread) (agent : Agent Thread) : Prop :=
  ∃ call, state.calls agent = some call ∧ (call.stage.inside = true ∨
    call.stage = .body ∧ (state.masking.frames agent).position = .idle)

/-- Each spinlock is held once, and the calls hold `inactive.lock` where they should. -/
structure Locked (state : State Thread) : Prop where
  owned : state.masking.Owned
  done : state.masking.HandlersDone
  handlers : ∀ cpu, (state.masking.cores cpu).handler ≠ some .timer →
    state.calls (.handler cpu) = none
  fits : ∀ agent call, state.calls agent = some call →
    Fits (state.masking.frames agent) call.stage

section Steps

variable {platform : Platform} {state next : State Thread} {action : Action Thread}
  {masking after : Masking.State Thread} {agent other : Agent Thread} {cpu target : Nat}
  {lock : Lock} {call moved : Call Thread}

omit [DecidableEq Thread] in
theorem Locked.held (locked : Locked state) (isInside : state.Inside agent) :
    .inactive ∈ (state.masking.frames agent).held := by
  obtain ⟨call, isCall, stage | ⟨body, idle⟩⟩ := isInside
  · exact (locked.fits agent call isCall).inside stage
  · rcases (locked.fits agent call isCall).body body with ⟨-, held⟩ | seeking
    · exact held
    · rw [idle] at seeking
      cases seeking

omit [DecidableEq Thread] in
/-- One call at a time. -/
theorem Locked.exclusive (locked : Locked state) (first : state.Inside agent)
    (second : state.Inside other) : agent = other :=
  locked.owned.apart agent other .inactive (locked.held first) (locked.held second)

omit [DecidableEq Thread] in
theorem inside_of_calling (called : state.calling cpu = some (agent, call))
    (stage : call.stage.inside = true ∨ call.stage = .body) : state.Inside agent := by
  obtain ⟨-, isCall, idle⟩ := calling_eq_some called
  exact ⟨call, isCall, stage.imp id fun body => ⟨body, idle⟩⟩

/-! ## Single accesses -/

/-- An access releases nothing. -/
theorem held_of_advance (taken : masking.advance cpu agent = some after)
    (held : lock ∈ (masking.frames agent).held) : lock ∈ (after.frames agent).held := by
  unfold Masking.State.advance at taken
  split at taken
  · cases taken
  · split at taken
    · obtain rfl := Option.some.inj taken
      simpa using held
    · obtain rfl := Option.some.inj taken
      simpa using held
  · obtain rfl := Option.some.inj taken
    simpa using held
  · dsimp only at taken
    split at taken
    · obtain rfl := Option.some.inj taken
      simp [held]
    · split at taken
      · obtain rfl := Option.some.inj taken
        simpa using held
      · obtain rfl := Option.some.inj taken
        simpa using held
  · obtain rfl := Option.some.inj taken
    simpa using held
  · split at taken
    · obtain rfl := Option.some.inj taken
      simpa using held
    · obtain rfl := Option.some.inj taken
      simpa using held
  · obtain rfl := Option.some.inj taken
    simpa using held
  · obtain rfl := Option.some.inj taken
    simpa using held

/-- `acquire_spinlock` does not return without the spinlock. -/
theorem seeks_of_spin (taken : state.spin cpu agent = some after)
    (seeking : seeks (state.masking.frames agent).position = some lock) :
    seeks (after.frames agent).position = some lock ∨
      (after.frames agent).position = .idle ∧ lock ∈ (after.frames agent).held := by
  have advanced := advance_of_spin taken
  unfold Masking.State.advance at advanced
  split at advanced
  · cases advanced
  · rename_i sought tries outer position
    rw [position] at seeking
    split at advanced
    · obtain rfl := Option.some.inj advanced
      left
      simpa [seeks] using seeking
    · obtain rfl := Option.some.inj advanced
      left
      simpa [seeks] using seeking
  · rename_i sought tries outer position
    rw [position] at seeking
    obtain rfl := Option.some.inj advanced
    left
    simpa [seeks] using seeking
  · rename_i sought tries outer position
    rw [position] at seeking
    obtain rfl : sought = lock := by simpa [seeks] using seeking
    dsimp only at advanced
    split at advanced
    · obtain rfl := Option.some.inj advanced
      right
      simp
    · rename_i failed
      split at advanced
      · obtain rfl := Option.some.inj advanced
        left
        simp [seeks]
      · rename_i last
        -- the last try of all is made on a free spinlock only
        have isOne : tries = 1 := by
          rw [not_not] at last
          bv_omega
        unfold State.spin at taken
        rw [position, isOne] at taken
        have free := (Option.ite_none_left_eq_some.mp taken).1
        simp [Spinlock.exchange_fst, free] at failed
  all_goals
    rename_i position
    rw [position] at seeking
    cases seeking

/-! ## Steps -/

/-- Outside `do_self_halt_task` no step gives a spinlock to two agents. -/
theorem MaskingStep.kept {kind : Kind} (step : MaskingStep platform cpu masking kind after)
    (notHalting : kind ≠ .halting) (owned : masking.Owned) (done : masking.HandlersDone) :
    after.Owned ∧ after.HandlersDone := by
  have acts : ∀ {action : Masking.Action Thread},
      masking.act platform.cpus action = some after → after.Owned ∧ after.HandlersDone :=
    fun taken => ⟨owned.act done taken, done.act taken⟩
  cases step with
  | same => exact ⟨owned, done⟩
  | acquires runs taken => exact acts (Masking.State.act_acquire.mpr ⟨_, runs, taken⟩)
  | releases runs taken => exact acts (Masking.State.act_release.mpr ⟨_, runs, taken⟩)
  | advances runs taken => exact acts (Masking.State.act_advance.mpr ⟨_, runs, taken⟩)
  | @timer dispatch fires _ taken =>
      exact acts (show masking.act platform.cpus (.timer cpu dispatch fires) = _ from taken)
  | @task pauses _ taken =>
      exact acts (show masking.act platform.cpus (.task cpu pauses) = _ from taken)
  | @halts lock _ taken =>
      exact acts (show masking.act platform.cpus (.selfHalt cpu lock) = _ from taken)
  | handsOver _ => exact absurd rfl notHalting
  | frees => exact absurd rfl notHalting
  | ends _ _ => exact absurd rfl notHalting
  | returns inTimer taken =>
      exact acts (show masking.act platform.cpus (.returnFromInterrupt cpu) = _ from taken)

/-- A step leaves those alone that do not take it. -/
theorem Locked.frames {kind : Kind} (locked : Locked state)
    (step : MaskingStep platform cpu state.masking kind after)
    (isCall : state.calls agent = some call) (different : state.masking.agent cpu ≠ some agent) :
    after.frames agent = state.masking.frames agent := by
  apply step.others.2
  rintro (runs | rfl)
  · exact different runs
  · have inTimer : (state.masking.cores cpu).handler = some .timer := by
      by_contra notTimer
      rw [locked.handlers cpu notTimer] at isCall
      cases isCall
    exact different (Masking.State.agent_eq_some_iff.mpr (.inl ⟨inTimer, rfl⟩))

omit [DecidableEq Thread] in
theorem Flow.inside (flow : Flow state call moved) (isInside : moved.stage.inside = true) :
    call.stage.inside = true ∨ call.stage = .body := by
  cases flow <;> simp_all [Stage.inside, Call.goto]

omit [DecidableEq Thread] in
theorem Flow.body (flow : Flow state call moved) (isBody : moved.stage = .body) :
    call.stage = .lockInactive := by
  cases flow <;> simp_all [Call.goto]

/-- What the next step of a call does to the spinlocks and to the code on its CPU. -/
inductive Locking (state : State Thread) (cpu : Nat) (agent : Agent Thread) (call : Call Thread) :
    Masking.State Thread → Prop
  | acquires (lock : Lock) (after : Masking.State Thread)
      (stage : call.stage.acquires = some lock)
      (taken : state.masking.acquireSpinlock cpu agent lock 0 = some after) :
      Locking state cpu agent call after
  | releases (lock : Lock) (after : Masking.State Thread)
      (stage : call.stage.releases = some lock)
      (isNewest : (state.masking.frames agent).held.head? = some lock)
      (taken : state.masking.releaseSpinlock agent = some after) :
      Locking state cpu agent call after
  | halts (after : Masking.State Thread) (stage : call.stage = .interrupt)
      (taken : state.masking.selfHalt cpu call.request.given = some after) :
      Locking state cpu agent call after
  | same (notAcquires : call.stage.acquires = none) (notReleases : call.stage.releases = none)
      (notInterrupt : call.stage ≠ .interrupt) :
      Locking state cpu agent call state.masking

theorem locking_of_advance {choice : Nat} {dispatch : Option Thread}
    (called : state.calling cpu = some (agent, call))
    (taken : state.actMasking platform (.advance cpu choice dispatch) = some after) :
    Locking state cpu agent call after := by
  obtain ⟨⟨found, foundCall⟩, alsoCalled, taken⟩ := Option.bind_eq_some_iff.mp taken
  obtain ⟨rfl, rfl⟩ := Prod.mk.inj (Option.some.inj (called.symm.trans alsoCalled))
  dsimp only at taken
  split at taken
  · rename_i acquires
    exact .acquires _ after acquires taken
  · rename_i lock notAcquires releases
    obtain ⟨isNewest, taken⟩ := Option.ite_none_right_eq_some.mp taken
    exact .releases lock after releases isNewest taken
  · rename_i notAcquires notReleases
    split at taken
    · rename_i interrupts
      exact .halts after interrupts taken
    · rename_i notInterrupt
      obtain rfl := Option.some.inj taken
      exact .same notAcquires notReleases notInterrupt

/-- Where a call stays inside, it keeps `inactive.lock`. -/
theorem Locking.held (locking : Locking state cpu agent call after)
    (notUnlocks : ∀ err, call.stage ≠ .unlockInactive err) (notInterrupt : call.stage ≠ .interrupt)
    (held : .inactive ∈ (state.masking.frames agent).held) :
    .inactive ∈ (after.frames agent).held := by
  cases locking with
  | acquires lock after stage taken =>
      unfold Masking.State.acquireSpinlock at taken
      split at taken
      · obtain rfl := Option.some.inj taken
        rwa [Masking.State.goto_held]
      · cases taken
  | releases lock after stage isNewest taken =>
      have different : .inactive ≠ lock := by
        rintro rfl
        unfold Stage.releases at stage
        split at stage <;> simp_all
      unfold Masking.State.releaseSpinlock at taken
      split at taken
      · rename_i newest older _ isHeld
        obtain rfl := Option.some.inj taken
        rw [isHeld] at isNewest held
        obtain rfl := Option.some.inj isNewest
        rw [Masking.State.setFrame_frames, Function.update_self]
        exact (List.mem_cons.mp held).resolve_left different
      · cases taken
  | halts after stage taken => exact absurd stage notInterrupt
  | same => exact held

theorem Locking.starts (locking : Locking state cpu agent call after)
    (isStart : call.stage = .lockInactive) :
    seeks (after.frames agent).position = some .inactive := by
  cases locking with
  | acquires lock after stage taken =>
      rw [isStart] at stage
      obtain rfl := Option.some.inj stage
      unfold Masking.State.acquireSpinlock at taken
      split at taken
      · obtain rfl := Option.some.inj taken
        simp [seeks]
      · cases taken
  | releases lock after isRelease => simp [isStart, Stage.releases] at isRelease
  | halts after isInterrupt => simp [isStart] at isInterrupt
  | same notAcquires => simp [isStart, Stage.acquires] at notAcquires

theorem Change.inside {stage : Stage Thread} {threads : Thread → ThreadData}
    {inactive : List Thread} (change : Change state call stage threads inactive) :
    (call.stage.inside = true ∨ call.stage = .body) ∧
      (∀ err, call.stage ≠ .unlockInactive err) ∧ call.stage ≠ .interrupt := by
  cases change <;> simp_all [Stage.inside]

/-- A call comes to its body from the call of `acquire_spinlock`. -/
theorem Advances.body {result : State Thread}
    (advances : Advances platform state cpu agent call (some moved) result)
    (isBody : moved.stage = .body) : call.stage = .lockInactive := by
  cases advances with
  | moves _ flow => exact flow.body isBody
  | changes stage threads inactive change =>
      cases change with
      | parks =>
          dsimp only [Call.goto] at isBody
          split at isBody <;> cases isBody
      | _ => cases isBody
  | _ => cases isBody

/-- A call that is inside after its step was inside before, and does not leave. -/
theorem Advances.inside {result : State Thread}
    (advances : Advances platform state cpu agent call (some moved) result)
    (isInside : moved.stage.inside = true) :
    (call.stage.inside = true ∨ call.stage = .body) ∧
      (∀ err, call.stage ≠ .unlockInactive err) ∧ call.stage ≠ .interrupt := by
  cases advances with
  | moves _ flow =>
      refine ⟨flow.inside isInside, ?_, ?_⟩
      · cases flow <;> simp_all [Stage.inside, Call.goto]
      · cases flow <;> simp_all
  | changes stage threads inactive change => exact change.inside
  | handles task cpud threads stage handled => simp [stage, Stage.inside]
  | issues target task stage away => simp [stage, Stage.inside]
  | halts => cases isInside

/-- The agent that takes a step. -/
theorem Locked.fits_mover {result : State Thread} (locked : Locked state)
    (maskingTaken : state.actMasking platform action = some masking)
    (tasksTaken : state.actTasks platform action = some result)
    (runs : state.masking.agent action.cpu = some agent)
    (isCall : result.calls agent = some call) : Fits (masking.frames agent) call.stage := by
  have same : masking.frames agent = state.masking.frames agent → result.calls = state.calls →
      Fits (masking.frames agent) call.stage := by
    intro sameFrame sameCalls
    rw [sameCalls] at isCall
    exact sameFrame ▸ locked.fits agent call isCall
  cases action with
  | acquire cpu lock =>
      obtain ⟨found, called, -⟩ := Option.bind_eq_some_iff.mp maskingTaken
      obtain ⟨alsoRuns, none⟩ := caller_eq_some called
      obtain rfl := Option.some.inj (runs.symm.trans alsoRuns)
      obtain rfl := Option.some.inj tasksTaken
      rw [none] at isCall
      cases isCall
  | release cpu =>
      obtain ⟨found, called, -⟩ := Option.bind_eq_some_iff.mp maskingTaken
      obtain ⟨alsoRuns, none⟩ := caller_eq_some called
      obtain rfl := Option.some.inj (runs.symm.trans alsoRuns)
      obtain rfl := Option.some.inj tasksTaken
      rw [none] at isCall
      cases isCall
  | spin cpu =>
      obtain ⟨found, alsoRuns, taken⟩ := Option.bind_eq_some_iff.mp maskingTaken
      obtain rfl := Option.some.inj (runs.symm.trans alsoRuns)
      obtain rfl := Option.some.inj tasksTaken
      have fits := locked.fits agent call isCall
      have advanced := advance_of_spin taken
      refine ⟨fun inside => held_of_advance advanced (fits.inside inside), fun body => ?_⟩
      rcases fits.body body with ⟨idle, -⟩ | seeking
      · rw [Masking.State.advance, idle] at advanced
        cases advanced
      · exact (seeks_of_spin taken seeking).symm
  | call cpu request =>
      obtain ⟨found, called, taken⟩ := Option.bind_eq_some_iff.mp tasksTaken
      obtain ⟨alsoRuns, -⟩ := caller_eq_some called
      obtain rfl := Option.some.inj (runs.symm.trans alsoRuns)
      obtain ⟨-, taken⟩ := Option.ite_none_right_eq_some.mp taken
      obtain rfl := Option.some.inj taken
      rw [State.setCall_calls, Function.update_self] at isCall
      obtain rfl := Option.some.inj isCall
      constructor
      · cases request <;> simp [Request.start, Stage.inside]
      · cases request <;> simp [Request.start]
  | advance cpu target next =>
      obtain ⟨⟨found, before⟩, called, taken⟩ := Option.bind_eq_some_iff.mp tasksTaken
      obtain ⟨alsoRuns, -⟩ := calling_eq_some called
      obtain rfl := Option.some.inj (runs.symm.trans alsoRuns)
      have locking := locking_of_advance called maskingTaken
      obtain ⟨moved, advances⟩ := advances_of_advance taken
      rw [advances.calls, Function.update_self] at isCall
      subst isCall
      constructor
      · intro isInside
        obtain ⟨stage, notUnlocks, notInterrupt⟩ := advances.inside isInside
        exact locking.held notUnlocks notInterrupt (locked.held (inside_of_calling called stage))
      · exact fun isBody => .inr (locking.starts (advances.body isBody))
  | execute cpu frame =>
      obtain rfl := Option.some.inj maskingTaken
      obtain ⟨found, -, taken⟩ := Option.bind_eq_some_iff.mp tasksTaken
      split at taken
      · obtain rfl := Option.some.inj taken
        exact same rfl rfl
      · cases taken
  | timer cpu next fires =>
      obtain ⟨cpud, threads, -, rfl⟩ := schedule_cases tasksTaken
      exact same (by rw [(Masking.State.timerInterrupt_interruptStep maskingTaken).frames]) rfl
  | task cpu next =>
      obtain ⟨-, taken⟩ := Option.ite_none_right_eq_some.mp tasksTaken
      obtain ⟨middle, handles, taken⟩ := Option.bind_eq_some_iff.mp taken
      obtain ⟨cpud, threads, -, rfl⟩ := handleTask_cases handles
      obtain rfl := Option.some.inj taken
      exact same (by rw [(Masking.State.taskInterrupt_interruptStep maskingTaken).frames]) rfl
  | selfHalt cpu =>
      obtain ⟨halt, -, taken⟩ := Option.bind_eq_some_iff.mp maskingTaken
      obtain ⟨halting, -⟩ := Option.ite_none_right_eq_some.mp taken
      rw [Action.cpu, Masking.State.agent, halting] at runs
      cases runs
  | timerReturns cpu =>
      obtain ⟨-, taken⟩ := Option.ite_none_right_eq_some.mp maskingTaken
      obtain ⟨-, tasksTaken⟩ := Option.ite_none_right_eq_some.mp tasksTaken
      obtain rfl := Option.some.inj tasksTaken
      exact same (by rw [(Masking.State.returnFromInterrupt_interruptStep taken).frames]) rfl

/-- Every step lets one call at a time be under `inactive.lock`. -/
theorem Locked.step {result : State Thread} (locked : Locked state)
    (maskingTaken : state.actMasking platform action = some masking)
    (tasksTaken : state.actTasks platform action = some result)
    (owned : masking.Owned) (done : masking.HandlersDone) :
    Locked { result with masking := masking } := by
  have handlers := handlers_step locked.handlers maskingTaken tasksTaken
  refine ⟨owned, done, handlers, ?_⟩
  intro agent call isCall
  dsimp only at isCall ⊢
  by_cases runs : state.masking.agent action.cpu = some agent
  · exact locked.fits_mover maskingTaken tasksTaken runs isCall
  · rw [(calls_of_act tasksTaken).others agent runs] at isCall
    rw [locked.frames (maskingStep_of_act maskingTaken) isCall runs]
    exact locked.fits agent call isCall

end Steps

end Tasks
end ToyKernel
