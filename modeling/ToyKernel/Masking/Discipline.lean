import ToyKernel.Masking.Invariant

/-!
# When the masking discipline holds

It holds in every run whose steps spare the records of outermost spinlocks, and a timer
interrupt between a record and `cli` breaks it.
-/

namespace ToyKernel
namespace Masking

variable {Thread : Type} [DecidableEq Thread] {cpus : Nat} {state : State Thread}

/-- Runs that spare the records keep the invariant. -/
theorem invariant_of_spares
    (reached : (system Thread cpus).ReachableUnder State.Spares state) :
    state.Invariant cpus := by
  have all : state.Invariant cpus ∧ state.Owned ∧ state.HandlersDone := by
    apply reached.invariant
    · rintro _ rfl
      have atStart : (system Thread cpus).Reachable State.initial := .initial rfl
      exact ⟨State.invariant_initial, State.owned_of_reachable atStart⟩
    · rintro current action next ⟨invariant, owned, handlersDone⟩ spares taken
      obtain ⟨below, taken⟩ := Option.ite_none_right_eq_some.mp taken
      exact ⟨invariant.act owned handlersDone below spares taken,
        owned.act handlersDone taken, handlersDone.act taken⟩
  exact all.1

/-- Threads hold spinlocks with interrupts masked and run with interrupts enabled
otherwise, in every run that spares the records. -/
theorem disciplined_of_spares
    (reached : (system Thread cpus).ReachableUnder State.Spares state) :
    state.Disciplined :=
  (invariant_of_spares reached).disciplined

/-- A spinlock that is not part of the scheduler. -/
def outerLock : Lock := .other 0x1000

/-- The spinlock of a second thread. -/
def otherLock : Lock := .other 0x2000

/-- A thread acquires a spinlock and one inside it, and the timer fires after it has
released both. -/
def nestedRun : List (Action Nat) :=
  [.timer 0 (some 0) false, .acquire 0 outerLock 0, .advance 0, .advance 0, .advance 0,
    .acquire 0 otherLock 0, .advance 0, .advance 0, .release 0, .advance 0, .advance 0,
    .release 0, .advance 0, .advance 0, .advance 0, .advance 0, .timer 0 (some 1) true,
    .acquire 0 .inactive 0, .advance 0, .advance 0, .release 0, .advance 0, .advance 0,
    .returnFromInterrupt 0]

theorem disciplined_of_spares_nested :
    ∃ state, (system Nat 1).execUnder State.Spares .initial nestedRun = some state ∧
      (state.cores 0).code = .thread 1 ∧ state.Disciplined := by
  have checked : (do
      let state ← (system Nat 1).execUnder State.Spares .initial nestedRun
      some (decide ((state.cores 0).code = .thread 1))) = some true := by
    decide +kernel
  obtain ⟨state, executed, holds⟩ := Option.bind_eq_some_iff.mp checked
  have running := of_decide_eq_true (Option.some.inj holds)
  have reached := TransitionSystem.ReachableUnder.execUnder (.initial rfl) executed
  exact ⟨state, executed, running, disciplined_of_spares reached⟩

/-- Thread 0 records its spinlock as the outermost one, and the timer interrupt switches to
thread 1 before `cli`.  Thread 1 finds a record and acquires a spinlock without masking
interrupts. -/
def interruptedRun : List (Action Nat) :=
  [.timer 0 (some 0) false, .acquire 0 outerLock 0, .advance 0, .timer 0 (some 1) false,
    .acquire 0 otherLock 0, .advance 0, .advance 0]

/-- A thread that holds a spinlock can run with interrupts enabled. -/
theorem disciplined_fails :
    ¬ ∀ (cpus : Nat) (state : State Nat),
      (system Nat cpus).Reachable state → state.Disciplined := by
  intro always
  have checked : (do
      let state ← (system Nat 1).exec .initial interruptedRun
      some (decide (state.threadFrame 0 = some { held := [otherLock], position := .idle } ∧
        (state.cores 0).enabled = true))) = some true := by
    decide +kernel
  obtain ⟨state, executed, holds⟩ := Option.bind_eq_some_iff.mp checked
  obtain ⟨runs, isEnabled⟩ := of_decide_eq_true (Option.some.inj holds)
  have reached := TransitionSystem.reachable_of_exec rfl executed
  have masked := (always 1 state reached 0 _ runs).1 (.inl (List.cons_ne_nil _ _))
  rw [isEnabled] at masked
  cases masked

end Masking
end ToyKernel
