import ToyKernel.Sleep.FallAsleep
import ToyKernel.Sleep.WakeUp

/-!
# Sleepers wake up in order

In every reachable state the list of each CPU holds its sleepers in the order of their
deadlines, and the timer is set for the first one.  So each of them is woken up by the
timer interrupts of its CPU when its deadline has come and when it is its turn.
-/

namespace ToyKernel
namespace Sleep

open Scheduler (Platform)

/-- No sleeper of the CPU comes before this one. -/
def State.IsFirst (state : State) (thread : Address) (call : Call) : Prop :=
  state.calls thread = some call ∧
    ∀ other otherCall, state.calls other = some otherCall → otherCall.cpu = call.cpu →
      other ≠ thread → call.Before otherCall

/-- Who falls asleep and who wakes up in a step. -/
structure WakesInOrder (state : State) (action : Action) (next : State) : Prop where
  /-- A sleeper is woken up by the timer of its CPU only, not before its deadline and not before
  those that come first. -/
  woken : ∀ thread call, state.calls thread = some call → next.calls thread ≠ some call →
    action = .timer call.cpu ∧ state.IsFirst thread call ∧
      call.deadline ≤ next.world.state.ticks ∧
      (next.world.state.threads thread).state = .running
  /-- The first sleeper is woken up by the first timer interrupt after its deadline, unless this
  one finds a stack overrun. -/
  due : ∀ thread call, action = .timer call.cpu → state.IsFirst thread call →
    call.deadline ≤ next.world.state.ticks →
      (next.world.state.machines call.cpu).panicked = false → next.calls thread = none
  /-- The caller of `sleep` is blocked until its deadline. -/
  asleep : ∀ cpu period node rounds, action = .sleep cpu period (some node) rounds →
    ∃ thread, (state.world.state.machines cpu).fsBase = some thread ∧
      next.calls thread = some (state.call cpu period) ∧
      (next.world.state.threads thread).state = .paused

section Runs

variable {platform : Platform} {state next : State} {action : Action}
  {queues : Nat → List Sleeper}

/-- The head of a list is the first sleeper of the CPU. -/
theorem Represents.isFirst {cpu : Nat} {first : Sleeper} {rest : List Sleeper}
    (represents : Represents state cpu (first :: rest)) :
    state.IsFirst first.thread first.call := by
  obtain ⟨called, onCpu⟩ := represents.called List.mem_cons_self
  refine ⟨called, fun other otherCall calledOther sameCpu different => ?_⟩
  exact represents.first_before calledOther (sameCpu.trans onCpu) different

/-- No call comes before itself. -/
theorem Call.Before.asymm {left right : Call} (before : left.Before right) :
    ¬ right.Before left := by
  simp only [Call.Before, BitVec.lt_def] at before ⊢
  rintro (less | ⟨same, less⟩)
  · rcases before with other | ⟨same, -⟩
    · omega
    · rw [same] at less
      omega
  · rcases before with other | ⟨-, other⟩
    · rw [same] at other
      omega
    · omega

/-- The first sleeper of a CPU is the head of its list. -/
theorem Represents.head_of_isFirst {queue : List Sleeper} {thread : Address} {call : Call}
    (represents : Represents state call.cpu queue) (isFirst : state.IsFirst thread call) :
    ∃ first rest, queue = first :: rest ∧ first.thread = thread ∧ first.call = call := by
  obtain ⟨node, present⟩ := (represents.members thread call).mpr ⟨isFirst.1, rfl⟩
  cases queue with
  | nil => cases present
  | cons first rest =>
      refine ⟨first, rest, rfl, ?_⟩
      rcases List.mem_cons.mp present with rfl | behind
      · exact ⟨rfl, rfl⟩
      · obtain ⟨called, onCpu⟩ := represents.called List.mem_cons_self
        have different := represents.mem_rest behind
        have before := isFirst.2 first.thread first.call called onCpu different.symm
        have after := represents.first_before isFirst.1 rfl different
        exact absurd after before.asymm

/-- Each step keeps the invariant, with the lists that follow from it. -/
theorem Fits.step (fits : Fits platform state queues) (allowed : Allowed state action)
    (taken : Sleep.step platform state action = some next) :
    (∃ queues', Fits platform next queues') ∧ WakesInOrder state action next := by
  cases action with
  | sleep cpu period block rounds =>
      obtain ⟨⟨final, err⟩, done, rfl⟩ := Option.map_eq_some_iff.mp taken
      rcases fits.sleep allowed done with ⟨rfl, rfl⟩ | ⟨thread, node, current, rfl, calls, fitsNext⟩
      · refine ⟨⟨queues, fits⟩, fun thread call called woken => absurd called woken, nofun, ?_⟩
        intro cpu period node rounds same
        cases same
      · refine ⟨⟨_, fitsNext⟩, ?_, nofun, ?_⟩
        · intro other call called woken
          have different : other ≠ thread := by
            rintro rfl
            rw [fits.grounded.calls_of_fsBase current] at called
            cases called
          rw [calls, Function.update_of_ne different] at woken
          exact absurd called woken
        · intro cpu period node rounds same
          cases same
          have called : final.calls thread = some (state.call cpu period) := by
            rw [calls, Function.update_self]
          exact ⟨thread, current, called, (fitsNext.grounded.blocked _ _ called).1.paused⟩
  | timer cpu =>
      rcases fits.timer taken with ⟨fitsNext, sameCalls, notDue⟩ |
        ⟨first, rest, isQueue, notEarly, calls, running, fitsNext⟩
      · refine ⟨⟨_, fitsNext⟩, ?_, ?_, nofun⟩
        · intro thread call called woken
          exact absurd (sameCalls ▸ called) woken
        · rintro thread call ⟨rfl⟩ isFirst deadline alive
          obtain ⟨first, rest, isQueue, -, rfl⟩ :=
            (fits.represents call.cpu).head_of_isFirst isFirst
          rcases notDue with panicked | early
          · rw [alive] at panicked
            cases panicked
          · have later := early first (by rw [isQueue]; rfl)
            exact absurd later (BitVec.not_lt.mpr deadline)
      · have represents := fits.represents cpu
        rw [isQueue] at represents
        refine ⟨⟨_, fitsNext⟩, ?_, ?_, nofun⟩
        · intro thread call called woken
          have isWoken : thread = first.thread := by
            by_contra different
            rw [calls, Function.update_of_ne different] at woken
            exact woken called
          obtain ⟨calledFirst, onCpu⟩ := represents.called List.mem_cons_self
          subst isWoken
          obtain rfl := Option.some.inj (called.symm.trans calledFirst)
          exact ⟨by rw [onCpu], represents.isFirst, notEarly, running⟩
        · rintro thread call ⟨rfl⟩ isFirst - -
          obtain ⟨head, others, sameQueue, rfl, rfl⟩ :=
            (fits.represents call.cpu).head_of_isFirst isFirst
          rw [isQueue] at sameQueue
          obtain ⟨rfl, -⟩ := List.cons.inj sameQueue
          rw [calls, Function.update_self]
  | other action =>
      obtain ⟨notSet, notTimer, spared⟩ := State.Undisturbed.spared allowed
      have sameTimers : next.world.state.timerTicks = state.world.state.timerTicks := by
        obtain ⟨world, stepped, rfl⟩ := act_eq_some_iff.mp taken
        exact Scheduler.World.step_timerTicks stepped notSet notTimer
      obtain ⟨-, sameCalls⟩ := fits.grounded.act_quiet taken spared
      refine ⟨⟨queues, fits.quiet taken spared sameTimers⟩, ?_, nofun, nofun⟩
      intro thread call called woken
      exact absurd (sameCalls ▸ called) woken

theorem fits_of_reachable (reached : (system platform).ReachableUnder Allowed state) :
    ∃ queues, Fits platform state queues := by
  have starts : ∀ state, (system platform).initial state →
      ∃ queues, Fits platform state queues :=
    fun _ initially => ⟨_, Fits.initial initially⟩
  refine reached.invariant starts ?_
  rintro current action next ⟨queues, fits⟩ allowed taken
  exact (fits.step allowed taken).1

end Runs

/-- In every run the list of each CPU holds its sleepers in the order of their deadlines, those
with the same deadline in the order of their calls, and the timer is set for the first one.
Every step wakes up whom it should, and the calls of `sleep` and the timer interrupts return. -/
theorem sleepQueues_of_reachable (platform : Platform) {state : State}
    (reached : (system platform).ReachableUnder Allowed state) :
    (∀ cpu, ∃ queue, Represents state cpu queue) ∧
    (∀ action next, Allowed state action → step platform state action = some next →
      WakesInOrder state action next) ∧
    (∀ cpu period block rounds thread, state.world.Runs platform cpu →
      (state.world.state.machines cpu).fsBase = some thread →
      Allowed state (.sleep cpu period block rounds) →
        ∃ enough next, step platform state (.sleep cpu period block enough) = some next) ∧
    ∀ cpu interrupted, cpu < platform.cpus →
      state.act platform (.timer cpu) = some interrupted →
      (∀ other, other < platform.cpus →
        (interrupted.world.state.machines other).panicked = false) →
      interrupted.world.state.all.totalThreads ≤ Scheduler.int32Max →
        ∃ next, step platform state (.timer cpu) = some next := by
  obtain ⟨queues, fits⟩ := fits_of_reachable reached
  refine ⟨fun cpu => ⟨queues cpu, fits.represents cpu⟩, ?_, ?_, ?_⟩
  · exact fun action next allowed taken => (fits.step allowed taken).2
  · intro cpu period block rounds thread runs current allowed
    obtain ⟨next, err, done⟩ := fits.exists_sleep runs current allowed
    exact ⟨_, next, Option.map_eq_some_iff.mpr ⟨(next, err), done, rfl⟩⟩
  · exact fun cpu interrupted runs acted survive counted =>
      fits.exists_timer acted runs survive counted

/-- The scheduler with nobody asleep. -/
def bootState : State where
  world := Scheduler.bootWorld
  nodes := fun _ => ⟨none, 0, 0⟩
  sleeping := fun _ => ⟨none, 0x3000⟩
  allocated := fun _ => false
  calls := fun _ => none
  total := 0

theorem bootState_initial : bootState.Initial where
  world := Scheduler.bootWorld_initial
  stamp := by decide
  timerTicks _ := rfl
  tail _ := rfl
  calls _ := rfl

/-- Two threads sleep on CPU 1.  The second one gets in front of the first. -/
theorem sleepQueues_of_reachable_two :
    ∃ state, (system Scheduler.twoCpus).execUnder Allowed bootState
        [.other (.attach 0 0x10000), .other (.attach 0 0x20000), .other (.resume 0 0x10000),
          .timer 1, .timer 0, .sleep 1 5000 (some 0x5000) 1,
          .other (.resume 0 0x10000000020000), .timer 1, .sleep 1 1000 (some 0x6000) 1] =
            some state ∧
      state.calls 0x10000 = some ⟨1, 6, 0⟩ ∧ state.calls 0x20000 = some ⟨1, 2, 1⟩ ∧
      ∃ queue, Represents state 1 queue := by
  have checked : (do
      let state ← (system Scheduler.twoCpus).execUnder Allowed bootState
        [.other (.attach 0 0x10000), .other (.attach 0 0x20000), .other (.resume 0 0x10000),
          .timer 1, .timer 0, .sleep 1 5000 (some 0x5000) 1,
          .other (.resume 0 0x10000000020000), .timer 1, .sleep 1 1000 (some 0x6000) 1]
      some (decide (state.calls 0x10000 = some ⟨1, 6, 0⟩ ∧
        state.calls 0x20000 = some ⟨1, 2, 1⟩))) = some true := by
    decide +kernel
  obtain ⟨state, executed, holds⟩ := Option.bind_eq_some_iff.mp checked
  obtain ⟨first, second⟩ := of_decide_eq_true (Option.some.inj holds)
  have reached := TransitionSystem.ReachableUnder.execUnder (.initial bootState_initial) executed
  exact ⟨state, executed, first, second, (sleepQueues_of_reachable _ reached).1 1⟩

end Sleep
end ToyKernel
