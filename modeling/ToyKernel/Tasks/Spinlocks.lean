import ToyKernel.Masking.Ownership
import ToyKernel.Tasks.System

/-!
# The spinlocks under the tasks

What the steps do to the spinlocks, and what they leave alone: the other CPUs and who runs
there.
-/

namespace ToyKernel
namespace Tasks

open Masking (Agent Lock)
open Scheduler (Platform)

variable {Thread : Type} [DecidableEq Thread]

/-- The kinds of steps that matter here. -/
inductive Kind
  /-- The next access in `acquire_spinlock` or `release_spinlock`. -/
  | access
  /-- The return of the timer procedure. -/
  | timerReturn
  /-- A step of `do_self_halt_task`. -/
  | halting
  | other

def Action.kind : Action Thread → Kind
  | .spin _ => .access
  | .timerReturns _ => .timerReturn
  | .selfHalt _ => .halting
  | _ => .other

/-- What a step does to the spinlocks and to the code on the CPUs. -/
inductive MaskingStep (platform : Platform) (cpu : Nat) (masking : Masking.State Thread) :
    Kind → Masking.State Thread → Prop
  | same {kind} : MaskingStep platform cpu masking kind masking
  | acquires {agent lock next} (runs : masking.agent cpu = some agent)
      (taken : masking.acquireSpinlock cpu agent lock 0 = some next) :
      MaskingStep platform cpu masking .other next
  | releases {agent next} (runs : masking.agent cpu = some agent)
      (taken : masking.releaseSpinlock agent = some next) :
      MaskingStep platform cpu masking .other next
  | advances {agent next} (runs : masking.agent cpu = some agent)
      (taken : masking.advance cpu agent = some next) :
      MaskingStep platform cpu masking .access next
  | timer {dispatch fires next}
      (taken : masking.timerInterrupt platform.cpus cpu dispatch fires = some next) :
      MaskingStep platform cpu masking .other next
  | task {pauses next} (taken : masking.taskInterrupt cpu pauses = some next) :
      MaskingStep platform cpu masking .other next
  | halts {lock next} (taken : masking.selfHalt cpu lock = some next) :
      MaskingStep platform cpu masking .other next
  | handsOver {next} (taken : masking.handOver cpu = some next) :
      MaskingStep platform cpu masking .halting next
  | frees {lock} : MaskingStep platform cpu masking .halting
      (masking.setLock lock (masking.locks lock).release)
  | ends {next} (halting : (masking.cores cpu).handler = some .selfHalt)
      (taken : (masking.setFrame (.handler cpu) .empty).returnFromInterrupt cpu = some next) :
      MaskingStep platform cpu masking .halting next
  | returns {next} (inTimer : (masking.cores cpu).handler = some .timer)
      (taken : masking.returnFromInterrupt cpu = some next) :
      MaskingStep platform cpu masking .timerReturn next

section Steps

variable {platform : Platform} {state next : State Thread} {action : Action Thread}
  {masking after : Masking.State Thread} {agent : Agent Thread} {cpu other : Nat} {lock : Lock}
  {call : Call Thread}

omit [DecidableEq Thread] in
theorem caller_eq_some : state.caller cpu = some agent →
    state.masking.agent cpu = some agent ∧ state.calls agent = none := by
  intro called
  obtain ⟨found, runs, called⟩ := Option.bind_eq_some_iff.mp called
  obtain ⟨idle, same⟩ := Option.ite_none_right_eq_some.mp called
  obtain rfl := Option.some.inj same
  exact ⟨runs, idle⟩

omit [DecidableEq Thread] in
theorem calling_eq_some : state.calling cpu = some (agent, call) →
    state.masking.agent cpu = some agent ∧ state.calls agent = some call ∧
      (state.masking.frames agent).position = .idle := by
  intro called
  obtain ⟨found, runs, called⟩ := Option.bind_eq_some_iff.mp called
  obtain ⟨foundCall, calls, called⟩ := Option.bind_eq_some_iff.mp called
  obtain ⟨ready, same⟩ := Option.ite_none_right_eq_some.mp called
  obtain ⟨rfl, rfl⟩ := Prod.mk.inj (Option.some.inj same)
  exact ⟨runs, calls, of_decide_eq_true ready⟩

theorem advance_of_spin (taken : state.spin cpu agent = some after) :
    state.masking.advance cpu agent = some after := by
  unfold State.spin at taken
  split at taken
  · exact (Option.ite_none_left_eq_some.mp taken).2
  · exact taken

/-- The message is written outside `acquire_spinlock` and `release_spinlock`. -/
theorem actMasking_posts {target chosen : Nat} {choice : Option Thread} {task : CpuTask Thread}
    (called : state.calling cpu = some (agent, call))
    (posts : call.stage = .post target task) :
    state.actMasking platform (.advance cpu chosen choice) = some state.masking := by
  rw [State.actMasking, called, Option.bind_eq_bind, Option.bind_some]
  simp [posts, Stage.acquires, Stage.releases]

/-- The steps are those of the spinlocks. -/
theorem maskingStep_of_act (taken : state.actMasking platform action = some after) :
    MaskingStep platform action.cpu state.masking action.kind after := by
  cases action with
  | acquire cpu lock =>
      obtain ⟨agent, called, taken⟩ := Option.bind_eq_some_iff.mp taken
      exact .acquires (caller_eq_some called).1 taken
  | release cpu =>
      obtain ⟨agent, called, taken⟩ := Option.bind_eq_some_iff.mp taken
      obtain ⟨lock, -, taken⟩ := Option.bind_eq_some_iff.mp taken
      exact .releases (caller_eq_some called).1 (Option.ite_none_right_eq_some.mp taken).2
  | spin cpu =>
      obtain ⟨agent, runs, taken⟩ := Option.bind_eq_some_iff.mp taken
      exact .advances runs (advance_of_spin taken)
  | call cpu request =>
      obtain rfl := Option.some.inj taken
      exact .same
  | execute cpu frame =>
      obtain rfl := Option.some.inj taken
      exact .same
  | advance cpu target next =>
      obtain ⟨⟨agent, call⟩, called, taken⟩ := Option.bind_eq_some_iff.mp taken
      have runs := (calling_eq_some called).1
      dsimp only at taken
      split at taken
      · exact .acquires runs taken
      · exact .releases runs (Option.ite_none_right_eq_some.mp taken).2
      · split at taken
        · exact .halts taken
        · obtain rfl := Option.some.inj taken
          exact .same
  | timer cpu next fires => exact .timer taken
  | task cpu next => exact .task taken
  | selfHalt cpu =>
      obtain ⟨halt, -, taken⟩ := Option.bind_eq_some_iff.mp taken
      obtain ⟨halting, taken⟩ := Option.ite_none_right_eq_some.mp taken
      split at taken
      · obtain rfl := Option.some.inj taken
        exact .same
      · obtain rfl := Option.some.inj taken
        exact .same
      · exact .handsOver taken
      · exact .handsOver taken
      · unfold State.freeGiven at taken
        split at taken
        · obtain rfl := Option.some.inj taken
          exact .same
        · split at taken
          · exact .handsOver taken
          · obtain rfl := Option.some.inj taken
            exact .frees
      · exact .ends halting taken
  | timerReturns cpu =>
      obtain ⟨inTimer, taken⟩ := Option.ite_none_right_eq_some.mp taken
      exact .returns inTimer taken

/-! ## What the steps of the spinlocks leave alone -/

/-- What the interrupts rely on: a thread runs on one CPU, the saved interrupt flags are
set, an agent that does not run is in neither function, and a CPU that hands over its
spinlocks has left its thread. -/
structure Orderly (platform : Platform) (masking : Masking.State Thread) : Prop where
  alone : ∀ cpu other thread, (masking.cores cpu).code = .thread thread →
    (masking.cores other).code = .thread thread → cpu = other
  beyond : ∀ cpu, platform.cpus ≤ cpu →
    (masking.cores cpu).code = .halt ∧ (masking.cores cpu).handler = none
  flags : ∀ thread, masking.flags thread = true
  saved : ∀ cpu, (masking.cores cpu).handler ≠ none → (masking.cores cpu).saved = true
  outside : ∀ cpu, (masking.cores cpu).handler ≠ some .timer →
    (masking.frames (.handler cpu)).position = .idle
  halting : ∀ cpu, (masking.cores cpu).handler = some .selfHalt →
    (masking.cores cpu).code = .halt

/-- Who takes the step, or is handed spinlocks in it. -/
def Involved (masking : Masking.State Thread) (cpu : Nat) (agent : Agent Thread) : Prop :=
  masking.agent cpu = some agent ∨ agent = .handler cpu

omit [DecidableEq Thread] in
theorem agent_of_code {thread : Thread} (outside : (masking.cores cpu).handler = none)
    (code : (masking.cores cpu).code = .thread thread) :
    masking.agent cpu = some (.thread thread) := by
  rw [Masking.State.agent, outside, code]

/-- A step concerns its CPU and the agents involved. -/
theorem MaskingStep.others {kind : Kind} (step : MaskingStep platform cpu masking kind after) :
    (∀ other ≠ cpu, after.cores other = masking.cores other) ∧
      ∀ agent, ¬ Involved masking cpu agent → after.frames agent = masking.frames agent := by
  have local_of : ∀ {agent : Agent Thread} {after : Masking.State Thread},
      masking.agent cpu = some agent → Masking.State.AgentStep cpu agent masking after →
      (∀ other ≠ cpu, after.cores other = masking.cores other) ∧
        ∀ agent, ¬ Involved masking cpu agent → after.frames agent = masking.frames agent := by
    intro agent after runs moved
    exact ⟨moved.cores, fun other apart => moved.frames other fun same =>
      apart (.inl (same ▸ runs))⟩
  have quiet : ∀ {after : Masking.State Thread},
      Masking.State.InterruptStep cpu masking after →
      (∀ other ≠ cpu, after.cores other = masking.cores other) ∧
        ∀ agent, ¬ Involved masking cpu agent → after.frames agent = masking.frames agent :=
    fun moved => ⟨moved.cores, fun agent _ => by rw [moved.frames]⟩
  cases step with
  | same => exact ⟨fun _ _ => rfl, fun _ _ => rfl⟩
  | acquires runs taken => exact local_of runs (Masking.State.acquireSpinlock_agentStep taken)
  | releases runs taken => exact local_of runs (Masking.State.releaseSpinlock_agentStep taken)
  | advances runs taken => exact local_of runs (Masking.State.advance_agentStep taken)
  | timer taken => exact quiet (Masking.State.timerInterrupt_interruptStep taken)
  | task taken => exact quiet (Masking.State.taskInterrupt_interruptStep taken)
  | returns inTimer taken => exact quiet (Masking.State.returnFromInterrupt_interruptStep taken)
  | halts taken =>
      obtain ⟨thread, outside, code, -, -, rfl⟩ := Masking.State.selfHalt_eq_some taken
      refine ⟨fun other different => Function.update_of_ne different .., fun agent apart => ?_⟩
      apply Masking.State.enterSelfHalt_other
      · exact fun same => apart (.inl (same ▸ agent_of_code outside code))
      · exact fun same => apart (.inr same)
  | handsOver taken =>
      obtain ⟨lock, older, -, -, rfl⟩ := Masking.State.handOver_eq_some taken
      refine ⟨fun _ _ => rfl, fun agent apart => Function.update_of_ne ?_ ..⟩
      exact fun same => apart (.inr same)
  | frees => exact ⟨fun _ _ => rfl, fun _ _ => rfl⟩
  | ends halting taken =>
      have moved := Masking.State.returnFromInterrupt_interruptStep taken
      refine ⟨moved.cores, fun agent apart => ?_⟩
      rw [moved.frames]
      exact Function.update_of_ne (fun same => apart (.inr same)) ..

/-- The CPU after a timer interrupt. -/
theorem timerInterrupt_core {cpus : Nat} {dispatch : Option Thread} {fires : Bool}
    (flags : ∀ thread, masking.flags thread = true)
    (taken : masking.timerInterrupt cpus cpu dispatch fires = some after) :
    after.cores cpu =
        { enabled := !fires
          code := dispatch.elim (masking.cores cpu).code .thread
          handler := if fires then some .timer else none
          saved := true } ∧
      ∀ thread, after.flags thread = true := by
  obtain ⟨⟨enabled, -⟩, -, shape⟩ := Masking.State.timerInterrupt_cases taken
  have kept : ∀ thread, (masking.saveContext cpu).flags thread = true := by
    intro thread
    unfold Masking.State.saveContext
    split
    · exact flags thread
    · simp only [Function.update_apply, enabled]
      split
      · rfl
      · exact flags thread
  have switched : ((masking.switchThread cpu dispatch).cores cpu).saved = true ∧
      ((masking.switchThread cpu dispatch).cores cpu).code =
        dispatch.elim (masking.cores cpu).code .thread ∧
      ∀ thread, (masking.switchThread cpu dispatch).flags thread = true := by
    cases dispatch with
    | none =>
        simp only [Masking.State.switchThread, Masking.State.setCore_cores,
          Function.update_self, enabled]
        exact ⟨trivial, rfl, flags⟩
    | some thread =>
        simp only [Masking.State.switchThread, Masking.State.setCore_cores,
          Function.update_self, flags]
        exact ⟨trivial, rfl, kept⟩
  obtain ⟨saved, code, flagsAfter⟩ := switched
  rcases shape with ⟨rfl, rfl⟩ | ⟨rfl, rfl⟩
  · refine ⟨?_, flagsAfter⟩
    simp only [Masking.State.enterTimerProc, Masking.State.setCore_cores, Function.update_self,
      saved, code]
    rfl
  · refine ⟨?_, flagsAfter⟩
    simp only [Masking.State.returnToCode, Masking.State.setCore_cores, Function.update_self,
      saved, code]
    rfl

/-- What a step leaves of the CPU that takes it. -/
structure Leaves (platform : Platform) (cpu : Nat) (masking after : Masking.State Thread) :
    Prop where
  flags : ∀ thread, after.flags thread = true
  saved : (after.cores cpu).handler ≠ none → (after.cores cpu).saved = true
  outside : (after.cores cpu).handler ≠ some .timer →
    (after.frames (.handler cpu)).position = .idle
  code : ∀ thread, (after.cores cpu).code = .thread thread →
    (masking.cores cpu).code = .thread thread ∨
      ∀ other < platform.cpus, (masking.cores other).code ≠ .thread thread
  halting : (after.cores cpu).handler = some .selfHalt → (after.cores cpu).code = .halt

omit [DecidableEq Thread] in
theorem Leaves.same (orderly : Orderly platform masking) (cores : after.cores = masking.cores)
    (flags : after.flags = masking.flags)
    (positions : (after.frames (.handler cpu)).position =
      (masking.frames (.handler cpu)).position) : Leaves platform cpu masking after where
  flags := by
    rw [flags]
    exact orderly.flags
  saved := by
    rw [cores]
    exact orderly.saved cpu
  outside := by
    rw [cores, positions]
    exact orderly.outside cpu
  code thread code := by
    rw [cores] at code
    exact .inl code
  halting := by
    rw [cores]
    exact orderly.halting cpu

omit [DecidableEq Thread] in
theorem Leaves.agentStep (orderly : Orderly platform masking)
    (runs : masking.agent cpu = some agent)
    (moved : Masking.State.AgentStep cpu agent masking after) :
    Leaves platform cpu masking after := by
  obtain ⟨enabled, core⟩ := moved.core
  constructor
  · rw [moved.flags]
    exact orderly.flags
  · rw [core]
    exact orderly.saved cpu
  · rw [core]
    intro notTimer
    rw [moved.frames]
    · exact orderly.outside cpu notTimer
    · rintro rfl
      rcases Masking.State.agent_eq_some_iff.mp runs with ⟨inTimer, -⟩ | ⟨thread, -, -, same⟩
      · exact notTimer inTimer
      · cases same
  · rw [core]
    exact fun thread code => .inl code
  · rw [core]
    exact orderly.halting cpu

theorem Leaves.timerInterrupt {dispatch : Option Thread} {fires : Bool}
    (orderly : Orderly platform masking)
    (taken : masking.timerInterrupt platform.cpus cpu dispatch fires = some after) :
    Leaves platform cpu masking after := by
  obtain ⟨core, flagsAfter⟩ := timerInterrupt_core orderly.flags taken
  obtain ⟨⟨-, notIn⟩, elsewhere, -⟩ := Masking.State.timerInterrupt_cases taken
  refine ⟨flagsAfter, ?_, ?_, ?_, ?_⟩
  · rw [core]
    exact fun _ => rfl
  · rw [(Masking.State.timerInterrupt_interruptStep taken).frames]
    exact fun _ => orderly.outside cpu (by rw [notIn]; simp)
  · rw [core]
    intro thread code
    cases dispatch with
    | none => exact .inl code
    | some found =>
        obtain rfl := Masking.Code.thread.inj code
        exact .inr (elsewhere found rfl)
  · rw [core]
    intro halting
    dsimp only at halting
    split at halting <;> cases halting

theorem Leaves.haltThread (orderly : Orderly platform masking)
    (interruptible : masking.Interruptible cpu) :
    Leaves platform cpu masking (masking.haltThread cpu) := by
  obtain ⟨enabled, notIn⟩ := interruptible
  have core : (masking.haltThread cpu).cores cpu =
      { masking.cores cpu with code := .halt } := by
    simp only [Masking.State.haltThread, Masking.State.setCore_cores, Function.update_self]
  refine ⟨fun thread => ?_, ?_, ?_, ?_, ?_⟩
  · simp only [Masking.State.haltThread, Masking.State.setCore_flags,
      Masking.State.saveContext]
    split
    · exact orderly.flags thread
    · simp only [Function.update_apply, enabled]
      split
      · rfl
      · exact orderly.flags thread
  · rw [core]
    exact orderly.saved cpu
  · rw [Masking.State.haltThread_same.2]
    exact fun _ => orderly.outside cpu (by rw [notIn]; simp)
  · rw [core]
    intro thread code
    cases code
  · rw [core]
    exact fun _ => rfl

theorem Leaves.selfHalt {given : Option Lock} (orderly : Orderly platform masking)
    (taken : masking.selfHalt cpu given = some after) : Leaves platform cpu masking after := by
  obtain ⟨thread, -, -, -, -, rfl⟩ := Masking.State.selfHalt_eq_some taken
  constructor
  · intro other
    simp only [Masking.State.enterSelfHalt, Masking.State.setCore_flags,
      Masking.State.setOuter_flags, Masking.State.setFrame_flags, Function.update_apply]
    split
    · rfl
    · exact orderly.flags other
  · rw [Masking.State.enterSelfHalt_core]
    exact fun _ => rfl
  · rw [Masking.State.enterSelfHalt_handler]
    exact fun _ => rfl
  · rw [Masking.State.enterSelfHalt_core]
    intro other code
    cases code
  · rw [Masking.State.enterSelfHalt_core]
    exact fun _ => rfl

omit [DecidableEq Thread] in
theorem Leaves.returnFromInterrupt (orderly : Orderly platform masking)
    (taken : masking.returnFromInterrupt cpu = some after) :
    Leaves platform cpu masking after ∧ (after.cores cpu).enabled = true := by
  obtain ⟨done, shape⟩ := Masking.State.returnFromInterrupt_cases taken
  have idle : (masking.frames (.handler cpu)).position = .idle := by
    rw [done]
    rfl
  rcases shape with ⟨inTimer, rfl⟩ | ⟨halting, rfl⟩
  · have saved := orderly.saved cpu (by rw [inTimer]; simp)
    have core : (((masking.setOuter cpu .null).returnToCode cpu).cores cpu) =
        { masking.cores cpu with enabled := true, handler := none } := by
      simp only [Masking.State.returnToCode, Masking.State.setCore_cores,
        Function.update_self, Masking.State.setOuter_cores, saved]
    rw [core]
    refine ⟨⟨orderly.flags, fun _ => ?_, fun _ => idle, fun thread code => .inl ?_,
      fun halting => ?_⟩, rfl⟩
    · rw [core]
      exact saved
    · rw [core] at code
      exact code
    · rw [core] at halting
      cases halting
  · have saved := orderly.saved cpu (by rw [halting]; simp)
    have core : ((masking.returnToCode cpu).cores cpu) =
        { masking.cores cpu with enabled := true, handler := none } := by
      simp only [Masking.State.returnToCode, Masking.State.setCore_cores,
        Function.update_self, saved]
    rw [core]
    refine ⟨⟨orderly.flags, fun _ => ?_, fun _ => idle, fun thread code => .inl ?_,
      fun halting => ?_⟩, rfl⟩
    · rw [core]
      exact saved
    · rw [core] at code
      exact code
    · rw [core] at halting
      cases halting

/-- The record of a handler that returns does not matter. -/
theorem Orderly.setFrame (orderly : Orderly platform masking) :
    Orderly platform (masking.setFrame (.handler cpu) .empty) where
  alone := orderly.alone
  beyond := orderly.beyond
  flags := orderly.flags
  saved := orderly.saved
  outside other notTimer := by
    rw [Masking.State.setFrame_frames, Function.update_apply]
    split
    · rfl
    · exact orderly.outside other notTimer
  halting := orderly.halting

theorem MaskingStep.leaves {kind : Kind} (orderly : Orderly platform masking)
    (step : MaskingStep platform cpu masking kind after) :
    Leaves platform cpu masking after := by
  cases step with
  | same => exact .same orderly rfl rfl rfl
  | acquires runs taken =>
      exact .agentStep orderly runs (Masking.State.acquireSpinlock_agentStep taken)
  | releases runs taken =>
      exact .agentStep orderly runs (Masking.State.releaseSpinlock_agentStep taken)
  | advances runs taken => exact .agentStep orderly runs (Masking.State.advance_agentStep taken)
  | timer taken => exact .timerInterrupt orderly taken
  | task taken =>
      obtain ⟨interruptible, ⟨-, rfl⟩ | ⟨-, rfl⟩⟩ := Masking.State.taskInterrupt_cases taken
      · exact .haltThread orderly interruptible
      · exact .same orderly rfl rfl rfl
  | halts taken => exact .selfHalt orderly taken
  | handsOver taken =>
      obtain ⟨lock, older, -, -, rfl⟩ := Masking.State.handOver_eq_some taken
      refine .same orderly rfl rfl ?_
      rw [Masking.State.setFrame_frames, Function.update_self]
  | frees => exact .same orderly rfl rfl rfl
  | ends halting taken =>
      have leaves := (Leaves.returnFromInterrupt orderly.setFrame taken).1
      exact ⟨leaves.flags, leaves.saved, leaves.outside, leaves.code, leaves.halting⟩
  | returns inTimer taken => exact (Leaves.returnFromInterrupt orderly taken).1

/-- Every step keeps the interrupts in order. -/
theorem Orderly.step {kind : Kind} (orderly : Orderly platform masking)
    (below : cpu < platform.cpus) (step : MaskingStep platform cpu masking kind after) :
    Orderly platform after := by
  obtain ⟨cores, frames⟩ := step.others
  have leaves := step.leaves orderly
  have elsewhere : ∀ other thread, other ≠ cpu → (after.cores other).code = .thread thread →
      (after.cores cpu).code ≠ .thread thread := by
    intro other thread different there here
    rw [cores other different] at there
    rcases leaves.code thread here with before | nowhere
    · exact different (orderly.alone other cpu thread there before)
    · refine nowhere other ?_ there
      by_contra isBeyond
      rw [(orderly.beyond other (not_lt.mp isBeyond)).1] at there
      cases there
  constructor
  · intro first second thread isFirst isSecond
    by_cases firstHere : first = cpu
    · by_cases secondHere : second = cpu
      · rw [firstHere, secondHere]
      · rw [firstHere] at isFirst
        exact absurd isFirst (elsewhere second thread secondHere isSecond)
    · by_cases secondHere : second = cpu
      · rw [secondHere] at isSecond
        exact absurd isSecond (elsewhere first thread firstHere isFirst)
      · rw [cores first firstHere] at isFirst
        rw [cores second secondHere] at isSecond
        exact orderly.alone first second thread isFirst isSecond
  · intro other isBeyond
    rw [cores other (by omega)]
    exact orderly.beyond other isBeyond
  · exact leaves.flags
  · intro other
    by_cases same : other = cpu
    · rw [same]
      exact leaves.saved
    · rw [cores other same]
      exact orderly.saved other
  · intro other
    by_cases same : other = cpu
    · rw [same]
      exact leaves.outside
    · rw [cores other same]
      intro notTimer
      rw [frames]
      · exact orderly.outside other notTimer
      · rintro (runs | isHandler)
        · rcases Masking.State.agent_eq_some_iff.mp runs with ⟨-, isHandler⟩ | ⟨_, -, -, isThread⟩
          · exact same (Masking.Agent.handler.inj isHandler)
          · cases isThread
        · exact same (Masking.Agent.handler.inj isHandler)
  · intro other
    by_cases same : other = cpu
    · rw [same]
      exact leaves.halting
    · rw [cores other same]
      exact orderly.halting other

/-! ## Spinning -/

/-- A CPU spins on a spinlock with interrupts disabled. -/
def Spins (masking : Masking.State Thread) (cpu : Nat) (lock : Lock) : Prop :=
  ∃ agent tries outer, masking.agent cpu = some agent ∧
    (masking.frames agent).position = .trying lock tries outer ∧
    (masking.cores cpu).enabled = false

/-- The spinlock that a call of `acquire_spinlock` is about to obtain. -/
def sought : Masking.Position → Option Lock
  | .recording lock _ _ | .masking lock _ _ | .trying lock _ _ => some lock
  | .idle | .locating _ | .testing _ _ _ | .clearing _ _ | .unmasking _ => none

/-- The code on a CPU is in a call of `acquire_spinlock` that has not obtained its spinlock. -/
def Seeks (masking : Masking.State Thread) (cpu : Nat) (lock : Lock) : Prop :=
  ∃ agent, masking.agent cpu = some agent ∧ sought (masking.frames agent).position = some lock

omit [DecidableEq Thread] in
theorem Spins.seeks (isSpinning : Spins masking cpu lock) : Seeks masking cpu lock := by
  obtain ⟨agent, tries, outer, runs, position, -⟩ := isSpinning
  exact ⟨agent, runs, by rw [position]; rfl⟩

omit [DecidableEq Thread] in
/-- Who runs on another CPU is not involved. -/
theorem not_involved (orderly : Orderly platform masking) (different : other ≠ cpu)
    (runs : masking.agent other = some agent) : ¬ Involved masking cpu agent := by
  rcases Masking.State.agent_eq_some_iff.mp runs with ⟨-, rfl⟩ | ⟨thread, -, code, rfl⟩
  · rintro (here | isHandler)
    · rcases Masking.State.agent_eq_some_iff.mp here with ⟨-, same⟩ | ⟨_, -, -, same⟩
      · exact different (Masking.Agent.handler.inj same)
      · cases same
    · exact different (Masking.Agent.handler.inj isHandler)
  · rintro (here | isHandler)
    · rcases Masking.State.agent_eq_some_iff.mp here with ⟨-, same⟩ | ⟨found, -, alsoCode, same⟩
      · cases same
      · obtain rfl := Masking.Agent.thread.inj same
        exact different (orderly.alone other cpu thread code alsoCode)
    · cases isHandler

/-- A step does not take another CPU into `acquire_spinlock`. -/
theorem seeks_other {kind : Kind} (orderly : Orderly platform masking)
    (step : MaskingStep platform cpu masking kind after) (different : other ≠ cpu)
    (seeks : Seeks after other lock) : Seeks masking other lock := by
  obtain ⟨cores, frames⟩ := step.others
  obtain ⟨agent, runs, isSought⟩ := seeks
  have runsBefore : masking.agent other = some agent := by
    rw [← runs, Masking.State.agent, Masking.State.agent, cores other different]
  rw [frames agent (not_involved orderly different runsBefore)] at isSought
  exact ⟨agent, runsBefore, isSought⟩

omit [DecidableEq Thread] in
/-- Who runs on a CPU is the same after the step of an agent. -/
theorem agent_of_agentStep (moved : Masking.State.AgentStep cpu agent masking after) :
    after.agent cpu = masking.agent cpu := by
  rw [Masking.State.agent, Masking.State.agent, moved.handler, moved.code]

/-- The next access is one of the same call. -/
theorem sought_advance (taken : masking.advance cpu agent = some after)
    (isSought : sought (after.frames agent).position = some lock) :
    sought (masking.frames agent).position = some lock := by
  unfold Masking.State.advance at taken
  split at taken
  · cases taken
  · rename_i position
    rw [position]
    split at taken
    all_goals
      obtain rfl := Option.some.inj taken
      simpa [sought] using isSought
  · rename_i position
    obtain rfl := Option.some.inj taken
    rw [position]
    simpa [sought] using isSought
  · rename_i position
    rw [position]
    simp only at taken
    split at taken
    · obtain rfl := Option.some.inj taken
      simp [sought] at isSought
    · split at taken
      · obtain rfl := Option.some.inj taken
        simpa [sought] using isSought
      · obtain rfl := Option.some.inj taken
        simp [sought] at isSought
  · obtain rfl := Option.some.inj taken
    simp [sought] at isSought
  · split at taken
    all_goals
      obtain rfl := Option.some.inj taken
      simp [sought] at isSought
  · obtain rfl := Option.some.inj taken
    simp [sought] at isSought
  · obtain rfl := Option.some.inj taken
    simp [sought] at isSought

/-- `acquire_spinlock` begins with the `cmpxchgq` to come. -/
theorem acquireSpinlock_position
    (taken : masking.acquireSpinlock cpu agent lock 0 = some after) :
    (after.frames agent).position = .recording lock 0 cpu := by
  unfold Masking.State.acquireSpinlock at taken
  split at taken
  · obtain rfl := Option.some.inj taken
    simp
  · cases taken

theorem releaseSpinlock_sought (taken : masking.releaseSpinlock agent = some after) :
    sought (after.frames agent).position = none := by
  unfold Masking.State.releaseSpinlock at taken
  split at taken
  · obtain rfl := Option.some.inj taken
    simp [sought]
  · cases taken

/-! ## Entering `acquire_spinlock` -/

/-- After the step the code on its CPU is in `acquire_spinlock`, which it has just called or
which it is continued in. -/
def Enters (state : State Thread) : Action Thread → Lock → Prop
  | .acquire _ address, lock => lock = .other address
  | .advance cpu _ _, lock =>
      ∃ agent call, state.calling cpu = some (agent, call) ∧ call.stage.acquires = some lock
  | .timer cpu next fires, lock =>
      fires = false ∧ ∃ thread, state.dispatched cpu next = some thread ∧
        sought (state.masking.frames (.thread thread)).position = some lock
  | .timerReturns cpu, lock =>
      ∃ thread, (state.masking.cores cpu).code = .thread thread ∧
        sought (state.masking.frames (.thread thread)).position = some lock
  | _, _ => False

omit [DecidableEq Thread] in
theorem sought_of_seeks (runs : masking.agent cpu = some agent)
    (moved : Masking.State.AgentStep cpu agent masking after) (seeks : Seeks after cpu lock) :
    sought (after.frames agent).position = some lock := by
  obtain ⟨found, alsoRuns, isSought⟩ := seeks
  rw [agent_of_agentStep moved, runs] at alsoRuns
  exact Option.some.inj alsoRuns ▸ isSought

/-- The code that a timer interrupt returns to. -/
theorem agent_timerInterrupt {dispatch : Option Thread} (orderly : Orderly platform masking)
    (taken : masking.timerInterrupt platform.cpus cpu dispatch false = some after) :
    after.agent cpu = (dispatch.map .thread).or (masking.agent cpu) := by
  obtain ⟨core, -⟩ := timerInterrupt_core orderly.flags taken
  obtain ⟨⟨-, outside⟩, -⟩ := Masking.State.timerInterrupt_cases taken
  rw [Masking.State.agent, Masking.State.agent, core, outside]
  cases dispatch <;> rfl

omit [DecidableEq Thread] in
/-- The code that the timer procedure returns to. -/
theorem core_timerReturns
    (inTimer : (masking.cores cpu).handler = some .timer)
    (taken : masking.returnFromInterrupt cpu = some after) :
    (after.cores cpu).handler = none ∧ (after.cores cpu).code = (masking.cores cpu).code := by
  obtain ⟨-, shape⟩ := Masking.State.returnFromInterrupt_cases taken
  rcases shape with ⟨-, rfl⟩ | ⟨halting, -⟩
  · simp [Masking.State.returnToCode]
  · rw [inTimer] at halting
    cases halting

/-- A CPU comes into `acquire_spinlock` by a step that enters it. -/
theorem enters_of_seeks (orderly : Orderly platform state.masking)
    (taken : state.actMasking platform action = some after)
    (seeks : Seeks after action.cpu lock) :
    Seeks state.masking action.cpu lock ∨ Enters state action lock := by
  have quiet : ∀ {cpu}, after.agent cpu = none → ¬ Seeks after cpu lock := by
    rintro cpu nobody ⟨agent, runs, -⟩
    rw [nobody] at runs
    cases runs
  have step := maskingStep_of_act taken
  cases action with
  | acquire cpu address =>
      obtain ⟨agent, called, taken⟩ := Option.bind_eq_some_iff.mp taken
      have isSought := sought_of_seeks (caller_eq_some called).1
        (Masking.State.acquireSpinlock_agentStep taken) seeks
      rw [acquireSpinlock_position taken] at isSought
      exact .inr (Option.some.inj isSought).symm
  | release cpu =>
      obtain ⟨agent, called, taken⟩ := Option.bind_eq_some_iff.mp taken
      obtain ⟨newest, -, taken⟩ := Option.bind_eq_some_iff.mp taken
      obtain ⟨-, taken⟩ := Option.ite_none_right_eq_some.mp taken
      have isSought := sought_of_seeks (caller_eq_some called).1
        (Masking.State.releaseSpinlock_agentStep taken) seeks
      rw [releaseSpinlock_sought taken] at isSought
      cases isSought
  | spin cpu =>
      obtain ⟨agent, runs, taken⟩ := Option.bind_eq_some_iff.mp taken
      have advanced := advance_of_spin taken
      have isSought := sought_of_seeks runs (Masking.State.advance_agentStep advanced) seeks
      exact .inl ⟨agent, runs, sought_advance advanced isSought⟩
  | call cpu request =>
      obtain rfl := Option.some.inj taken
      exact .inl seeks
  | execute cpu frame =>
      obtain rfl := Option.some.inj taken
      exact .inl seeks
  | advance cpu target next =>
      obtain ⟨⟨agent, call⟩, called, taken⟩ := Option.bind_eq_some_iff.mp taken
      have runs := (calling_eq_some called).1
      dsimp only at taken
      split at taken
      · rename_i acquires
        have isSought := sought_of_seeks runs (Masking.State.acquireSpinlock_agentStep taken) seeks
        rw [acquireSpinlock_position taken] at isSought
        exact .inr ⟨agent, call, called, acquires.trans isSought⟩
      · obtain ⟨-, taken⟩ := Option.ite_none_right_eq_some.mp taken
        have isSought := sought_of_seeks runs (Masking.State.releaseSpinlock_agentStep taken) seeks
        rw [releaseSpinlock_sought taken] at isSought
        cases isSought
      · split at taken
        · obtain ⟨thread, -, -, -, -, rfl⟩ := Masking.State.selfHalt_eq_some taken
          refine absurd seeks (quiet ?_)
          rw [Action.cpu, Masking.State.agent, Masking.State.enterSelfHalt_core]
        · obtain rfl := Option.some.inj taken
          exact .inl seeks
  | timer cpu next fires =>
      have frames := (Masking.State.timerInterrupt_interruptStep taken).frames
      obtain ⟨agent, runs, isSought⟩ := seeks
      rw [frames] at isSought
      cases fires with
      | false =>
          rw [Action.cpu, agent_timerInterrupt orderly taken] at runs
          cases dispatched : state.dispatched cpu next with
          | none =>
              rw [dispatched] at runs
              exact .inl ⟨agent, runs, isSought⟩
          | some thread =>
              rw [dispatched] at runs
              obtain rfl := Option.some.inj runs
              exact .inr ⟨rfl, thread, dispatched, isSought⟩
      | true =>
          -- the timer procedure begins outside `acquire_spinlock`
          obtain ⟨core, -⟩ := timerInterrupt_core orderly.flags taken
          obtain ⟨⟨-, notIn⟩, -⟩ := Masking.State.timerInterrupt_cases taken
          rw [Action.cpu, Masking.State.agent, core, if_pos rfl] at runs
          obtain rfl := Option.some.inj runs
          rw [orderly.outside cpu (by rw [notIn]; simp)] at isSought
          cases isSought
  | task cpu next =>
      obtain ⟨⟨-, outside⟩, ⟨-, rfl⟩ | ⟨-, rfl⟩⟩ := Masking.State.taskInterrupt_cases taken
      · refine absurd seeks (quiet ?_)
        simp [Action.cpu, Masking.State.agent, Masking.State.haltThread, outside]
      · exact .inl seeks
  | selfHalt cpu =>
      have step : MaskingStep platform cpu state.masking .halting after := step
      cases step with
      | same => exact .inl seeks
      | handsOver taken =>
          obtain ⟨found, older, halting, -, rfl⟩ := Masking.State.handOver_eq_some taken
          refine absurd seeks (quiet ?_)
          rw [Action.cpu, Masking.State.agent, Masking.State.setFrame_cores,
            Masking.State.setLock_cores, halting]
      | frees => exact .inl seeks
      | ends halting taken =>
          obtain ⟨-, shape⟩ := Masking.State.returnFromInterrupt_cases taken
          have code := orderly.halting cpu halting
          refine absurd seeks (quiet ?_)
          rcases shape with ⟨inTimer, -⟩ | ⟨-, rfl⟩
          · rw [Masking.State.setFrame_cores, halting] at inTimer
            cases inTimer
          · simp [Action.cpu, Masking.State.agent, Masking.State.returnToCode, code]
  | timerReturns cpu =>
      obtain ⟨inTimer, taken⟩ := Option.ite_none_right_eq_some.mp taken
      obtain ⟨outside, sameCode⟩ := core_timerReturns inTimer taken
      obtain ⟨agent, runs, isSought⟩ := seeks
      rw [(Masking.State.returnFromInterrupt_interruptStep taken).frames] at isSought
      rcases Masking.State.agent_eq_some_iff.mp runs with ⟨still, -⟩ | ⟨thread, -, code, rfl⟩
      · rw [Action.cpu, outside] at still
        cases still
      · exact .inr ⟨thread, sameCode.symm.trans code, isSought⟩

/-! ## Disabling interrupts -/

/-- Interrupts are disabled on a CPU, or the call of `acquire_spinlock` there is about to
disable them. -/
def Masks (masking : Masking.State Thread) (cpu : Nat) : Prop :=
  (masking.cores cpu).enabled = false ∨
    ∃ agent, masking.agent cpu = some agent ∧
      ((masking.frames agent).position.isMasking = true ∨
        ∃ outer, (masking.frames agent).position.recordsIn = some outer ∧
          masking.outer outer = .null)

omit [DecidableEq Thread] in
/-- A call that is not going to disable interrupts runs with interrupts disabled. -/
theorem Masks.disabled (masks : Masks masking cpu) (runs : masking.agent cpu = some agent)
    (notMasking : (masking.frames agent).position.isMasking = false)
    (nonnull : ∀ outer, (masking.frames agent).position.recordsIn = some outer →
      masking.outer outer ≠ .null) : (masking.cores cpu).enabled = false := by
  rcases masks with disabled | ⟨found, alsoRuns, isMasking | ⟨outer, records, isNull⟩⟩
  · exact disabled
  · obtain rfl := Option.some.inj (runs.symm.trans alsoRuns)
    cases notMasking.symm.trans isMasking
  · obtain rfl := Option.some.inj (runs.symm.trans alsoRuns)
    exact absurd isNull (nonnull outer records)

section Accesses

variable {tries : BitVec 64} {outer : Nat}

end Accesses

/-- An agent that is in neither function obtains no spinlock, unless it is handed to it. -/
theorem held_of_idle {kind : Kind} (step : MaskingStep platform cpu masking kind after)
    (idle : (masking.frames agent).position = .idle)
    (held : lock ∈ (after.frames agent).held) :
    lock ∈ (masking.frames agent).held ∨
      agent = .handler cpu ∧ (masking.cores cpu).handler = none := by
  cases step with
  | same => exact .inl held
  | acquires runs taken =>
      unfold Masking.State.acquireSpinlock at taken
      split at taken
      · obtain rfl := Option.some.inj taken
        rw [Masking.State.goto_held] at held
        exact .inl held
      · cases taken
  | releases runs taken =>
      unfold Masking.State.releaseSpinlock at taken
      split at taken
      · rename_i newest older _ isHeld
        obtain rfl := Option.some.inj taken
        rw [Masking.State.setFrame_frames, Function.update_apply] at held
        split at held
        · rename_i same
          rw [same, isHeld]
          exact .inl (List.mem_cons_of_mem newest held)
        · exact .inl held
      · cases taken
  | @advances mover next runs taken =>
      by_cases same : agent = mover
      · rw [same] at idle
        rw [Masking.State.advance, idle] at taken
        cases taken
      · rw [(Masking.State.advance_agentStep taken).frames agent same] at held
        exact .inl held
  | timer taken =>
      rw [(Masking.State.timerInterrupt_interruptStep taken).frames] at held
      exact .inl held
  | task taken =>
      rw [(Masking.State.taskInterrupt_interruptStep taken).frames] at held
      exact .inl held
  | halts taken =>
      obtain ⟨thread, outside, -, -, -, rfl⟩ := Masking.State.selfHalt_eq_some taken
      by_cases isThread : agent = .thread thread
      · rw [isThread, Masking.State.enterSelfHalt_thread] at held
        rw [isThread]
        exact .inl (List.mem_of_mem_drop held)
      · by_cases isHandler : agent = .handler cpu
        · exact .inr ⟨isHandler, outside⟩
        · rw [Masking.State.enterSelfHalt_other isThread isHandler] at held
          exact .inl held
  | handsOver taken =>
      obtain ⟨newest, older, -, isHeld, rfl⟩ := Masking.State.handOver_eq_some taken
      rw [Masking.State.setFrame_frames, Function.update_apply] at held
      split at held
      · rename_i same
        rw [same, isHeld]
        exact .inl (List.mem_cons_of_mem newest held)
      · exact .inl held
  | frees => exact .inl held
  | ends halting taken =>
      rw [(Masking.State.returnFromInterrupt_interruptStep taken).frames,
        Masking.State.setFrame_frames, Function.update_apply] at held
      split at held
      · cases held
      · exact .inl held
  | returns inTimer taken =>
      rw [(Masking.State.returnFromInterrupt_interruptStep taken).frames] at held
      exact .inl held

/-- The timer procedure runs until it returns. -/
theorem timer_of_step {kind : Kind} (step : MaskingStep platform cpu masking kind after)
    (inTimer : (masking.cores cpu).handler = some .timer) :
    (after.cores cpu).handler = some .timer ∨ kind = .timerReturn := by
  cases step with
  | same => exact .inl inTimer
  | acquires runs taken =>
      rw [(Masking.State.acquireSpinlock_agentStep taken).handler]
      exact .inl inTimer
  | releases runs taken =>
      have moved : Masking.State.AgentStep cpu _ masking after :=
        Masking.State.releaseSpinlock_agentStep taken
      rw [moved.handler]
      exact .inl inTimer
  | advances runs taken =>
      rw [(Masking.State.advance_agentStep taken).handler]
      exact .inl inTimer
  | timer taken =>
      obtain ⟨⟨-, outside⟩, -⟩ := Masking.State.timerInterrupt_cases taken
      rw [inTimer] at outside
      cases outside
  | task taken =>
      obtain ⟨⟨-, outside⟩, -⟩ := Masking.State.taskInterrupt_cases taken
      rw [inTimer] at outside
      cases outside
  | halts taken =>
      obtain ⟨thread, outside, -⟩ := Masking.State.selfHalt_eq_some taken
      rw [inTimer] at outside
      cases outside
  | handsOver taken =>
      obtain ⟨lock, older, halting, -⟩ := Masking.State.handOver_eq_some taken
      rw [inTimer] at halting
      cases halting
  | frees => exact .inl inTimer
  | ends halting taken =>
      rw [inTimer] at halting
      cases halting
  | returns _ taken => exact .inr rfl

end Steps

end Tasks
end ToyKernel
