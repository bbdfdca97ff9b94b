import ToyKernel.Sleep.Timers

/-!
# Timers of the CPUs with sleepers

A CPU on whose list threads sleep should have its timer set for the first one.  It stays so as
long as a call of `sleep` that puts its node in front of a list is still on the CPU of this
list when it takes the lock, with a deadline that is not zero: zero means that no timer is set.
-/

namespace ToyKernel
namespace Sleep

open Scheduler (Platform)

/-- Each CPU on which threads sleep has a timer, which is set for the first one. -/
def Armed (state : State) : Prop :=
  ∀ cpu node, (state.sleeping cpu).tail = some node →
    state.world.state.timerTicks cpu = (state.nodes node).ticks ∧
      state.world.state.timerTicks cpu ≠ 0

/-- The timers are set for the first nodes of the lists, and no timer without a list. -/
structure Timed (state : State) (cells : Nat → List Address) : Prop where
  chained : Chained state cells
  timers : ∀ cpu, state.world.state.timerTicks cpu = firstTicks state.nodes (cells cpu)
  notZero : ∀ cpu, ∀ node ∈ cells cpu, (state.nodes node).ticks ≠ 0

section Timed

variable {platform : Platform} {state next : State} {cells : Nat → List Address}
  {list cpu : Nat} {node : Address} {deadline : BitVec 64} {action : Scheduler.Action}

theorem Timed.armed (timed : Timed state cells) : Armed state := by
  intro cpu node isTail
  rw [(timed.chained.chain cpu).first_eq] at isTail
  obtain ⟨rest, isCells⟩ := List.head?_eq_some_iff.mp isTail
  have timer := timed.timers cpu
  rw [isCells, firstTicks] at timer
  exact ⟨timer, timer ▸ timed.notZero cpu node (isCells ▸ List.mem_cons_self)⟩

/-- The steps of others leave the lists and the timers alone. -/
theorem Timed.act (timed : Timed state cells) (acted : state.act platform action = some next)
    (keeps : Migrating.keepsTimers action = true) : Timed next cells := by
  have chained := timed.chained.act acted
  obtain ⟨world, stepped, rfl⟩ := act_eq_some_iff.mp acted
  have sameTimers : world.state.timerTicks = state.world.state.timerTicks := by
    apply Scheduler.World.step_timerTicks stepped
    · rintro cpu ticks rfl
      cases keeps
    · rintro cpu rfl
      cases keeps
  refine ⟨chained, fun cpu => ?_, timed.notZero⟩
  simp only [sameTimers]
  exact timed.timers cpu

/-- A timer interrupt sets the timer of its CPU for the next sleeper. -/
theorem Timed.timerInterrupt (timed : Timed state cells)
    (done : timerInterrupt platform state cpu = some next) : ∃ cells', Timed next cells' := by
  obtain ⟨sameNodes, outcome⟩ := timed.chained.timerInterrupt done
  have same : ∀ left, firstTicks next.nodes left = firstTicks state.nodes left := by
    rw [sameNodes]
    exact fun _ => rfl
  have notZero : ∀ other, ∀ node ∈ cells other, (next.nodes node).ticks ≠ 0 := by
    rw [sameNodes]
    exact timed.notZero
  cases outcome with
  | panicked _ kept timers =>
      exact ⟨cells, kept, fun other => by rw [timers, same, timed.timers other], notZero⟩
  | wakes _ _ popped timers =>
      refine ⟨_, popped, fun other => ?_, fun other node present => ?_⟩
      · rw [timers, same, Function.update_apply, Function.update_apply]
        split
        · rfl
        · exact timed.timers other
      · rw [Function.update_apply] at present
        split at present
        · exact notZero cpu node (List.mem_of_mem_tail present)
        · exact notZero other node present
  | quiet _ _ kept timers =>
      exact ⟨cells, kept, fun other => by rw [timers, same, timed.timers other], notZero⟩

/-- The node in front of a list after a call of `sleep`. -/
theorem FellAsleep.tail (fell : FellAsleep state next list cpu node deadline cells)
    (chained : Chained state cells) (unused : state.allocated node = false) :
    (next.sleeping list).tail =
      if isFirst state list deadline then some node else (state.sleeping list).tail := by
  have newTicks : ((state.prepare cpu node deadline).nodes node).ticks = deadline := by
    rw [State.prepare_nodes, if_pos rfl]
  rw [(fell.chained.chain list).first_eq, Function.update_self, isFirst,
    (chained.chain list).first_eq]
  cases isCells : cells list with
  | nil => rfl
  | cons first rest =>
      have different : first ≠ node := by
        rintro rfl
        exact chained.absent unused list (isCells ▸ List.mem_cons_self)
      have oldTicks : ((state.prepare cpu node deadline).nodes first).ticks =
          (state.nodes first).ticks := by
        rw [State.prepare_nodes, if_neg different]
      rw [StableInsertion.insert_cons, ticksOf, ticksOf, newTicks, oldTicks]
      simp only [List.head?_cons, decide_eq_true_eq, gt_iff_lt]
      by_cases later : deadline < (state.nodes first).ticks
      · rw [if_pos later, if_neg (Nat.not_le.mpr (BitVec.lt_def.mp later))]
        rfl
      · rw [if_neg later, if_pos (Nat.not_lt.mp fun less => later (BitVec.lt_def.mpr less))]
        rfl

/-- A call of `sleep` that sets the timer of its list, and not to zero, if it sets one. -/
theorem Timed.sleepLocked {period : BitVec 64} {rounds : Nat} {err : ErrCode}
    (timed : Timed state cells) (unused : state.allocated node = false)
    (setsOwn : isFirst state list (state.deadline period) = true →
      list = cpu ∧ state.deadline period ≠ 0)
    (done : Sleep.sleepLocked platform state list cpu period (some node) rounds =
      some (next, err)) : ∃ cells', Timed next cells' := by
  have fell := timed.chained.sleepLocked unused done
  have fresh : ∀ other, ∀ cell ∈ cells other,
      (next.nodes cell).ticks = (state.nodes cell).ticks := by
    intro other cell present
    rw [fell.ticks, if_neg]
    rintro rfl
    exact timed.chained.absent unused other present
  have sameFirst : ∀ other, firstTicks next.nodes (cells other) =
      state.world.state.timerTicks other := by
    intro other
    rw [timed.timers other]
    cases isCells : cells other with
    | nil => rfl
    | cons first rest => exact fresh other first (isCells ▸ List.mem_cons_self)
  have timerOf : ∀ left : List Address, firstTicks next.nodes left =
      left.head?.elim 0 fun first => (next.nodes first).ticks := by
    rintro (_ | ⟨first, rest⟩)
    · rfl
    · rfl
  have tail := fell.tail timed.chained unused
  rw [(fell.chained.chain list).first_eq, Function.update_self] at tail
  refine ⟨_, fell.chained, fun other => ?_, fun other cell present => ?_⟩
  · rw [fell.timers, Function.update_apply]
    by_cases first : isFirst state list (state.deadline period) = true
    · obtain ⟨rfl, -⟩ := setsOwn first
      rw [if_pos first] at tail ⊢
      rw [Function.update_apply]
      split
      · rw [timerOf, tail, Option.elim_some, fell.ticks, if_pos rfl]
      · exact (sameFirst other).symm
    · rw [if_neg first] at tail ⊢
      split
      · rename_i same
        rw [timerOf, tail, (timed.chained.chain list).first_eq, ← timerOf, ← same]
        exact (sameFirst other).symm
      · exact (sameFirst other).symm
  · rw [fell.ticks]
    split
    · intro zero
      by_cases first : isFirst state list (state.deadline period) = true
      · exact (setsOwn first).2 zero
      · -- a deadline of zero comes before all others
        rw [isFirst, (timed.chained.chain list).first_eq] at first
        cases isCells : cells list with
        | nil => simp [isCells] at first
        | cons front rest =>
            have positive := timed.notZero list front (isCells ▸ List.mem_cons_self)
            rw [isCells, zero] at first
            simp only [List.head?_cons, gt_iff_lt, decide_eq_true_eq] at first
            exact positive (BitVec.le_zero_iff.mp (BitVec.not_lt.mp first))
    · rename_i different
      rw [Function.update_apply] at present
      split at present
      · exact timed.notZero list cell
          ((StableInsertion.mem_insert.mp present).resolve_left different)
      · exact timed.notZero other cell present

end Timed

namespace Migrating

variable {platform : Platform} {state next : Migrating} {action : Action}

/-- A call that is going to put its node in front of the list that it has chosen takes the lock
on the CPU of this list, and its deadline is not zero. -/
def SetsOwnTimer (state : Migrating) : Action → Prop
  | .lock cpu block _ => ∀ thread ∈ (state.queues.world.state.machines cpu).fsBase,
      ∀ choice ∈ state.chosen thread, block.isSome →
        isFirst state.queues choice.cpu (state.queues.deadline choice.period) = true →
          choice.cpu = cpu ∧ state.queues.deadline choice.period ≠ 0
  | _ => True

instance (state : Migrating) : ∀ action, Decidable (SetsOwnTimer state action)
  | .choose _ _ => .isTrue trivial
  | .lock cpu block _ =>
      letI : ∀ thread, Decidable (∀ choice ∈ state.chosen thread, block.isSome →
          isFirst state.queues choice.cpu (state.queues.deadline choice.period) = true →
            choice.cpu = cpu ∧ state.queues.deadline choice.period ≠ 0) :=
        fun _ => Option.decidableForallMem _
      letI : Decidable (∀ thread ∈ (state.queues.world.state.machines cpu).fsBase,
          ∀ choice ∈ state.chosen thread, block.isSome →
            isFirst state.queues choice.cpu (state.queues.deadline choice.period) = true →
              choice.cpu = cpu ∧ state.queues.deadline choice.period ≠ 0) :=
        Option.decidableForallMem _
      inferInstanceAs (Decidable (∀ thread ∈ (state.queues.world.state.machines cpu).fsBase,
        ∀ choice ∈ state.chosen thread, block.isSome →
          isFirst state.queues choice.cpu (state.queues.deadline choice.period) = true →
            choice.cpu = cpu ∧ state.queues.deadline choice.period ≠ 0))
  | .timer _ => .isTrue trivial
  | .other _ => .isTrue trivial

/-- A call of `sleep` at the lock. -/
theorem lock_cases {cpu rounds : Nat} {block : Option Address}
    (taken : step platform state (.lock cpu block rounds) = some next) :
    ∃ thread choice err, (state.queues.world.state.machines cpu).fsBase = some thread ∧
      state.chosen thread = some choice ∧
      sleepLocked platform state.queues choice.cpu cpu choice.period block rounds =
        some (next.queues, err) := by
  obtain ⟨-, taken⟩ := Option.ite_none_right_eq_some.mp taken
  obtain ⟨thread, current, taken⟩ := Option.bind_eq_some_iff.mp taken
  obtain ⟨choice, chosen, taken⟩ := Option.bind_eq_some_iff.mp taken
  obtain ⟨⟨queues, err⟩, done, taken⟩ := Option.bind_eq_some_iff.mp taken
  obtain rfl := Option.some.inj taken
  exact ⟨thread, choice, err, current, chosen, done⟩

/-- All timers are right. -/
def InTime (state : Migrating) : Prop :=
  ∃ cells, Timed state.queues cells

/-- A step that sets the timer of no other CPU keeps all timers right. -/
theorem InTime.step (inTime : state.InTime) (allowed : Allowed state action)
    (taken : step platform state action = some next) (setsOwn : SetsOwnTimer state action) :
    next.InTime := by
  obtain ⟨cells, timed⟩ := inTime
  cases action with
  | choose cpu period =>
      obtain ⟨-, taken⟩ := Option.ite_none_right_eq_some.mp taken
      obtain ⟨thread, -, taken⟩ := Option.bind_eq_some_iff.mp taken
      obtain rfl := Option.some.inj taken
      exact ⟨cells, timed⟩
  | lock cpu block rounds =>
      obtain ⟨thread, choice, err, current, chosen, done⟩ := lock_cases taken
      cases block with
      | none =>
          obtain ⟨_, -, refused⟩ := Option.bind_eq_some_iff.mp done
          obtain ⟨same, -⟩ := Prod.mk.inj (Option.some.inj refused)
          exact ⟨cells, same ▸ timed⟩
      | some node =>
          exact timed.sleepLocked (allowed node rfl) (setsOwn thread current choice chosen rfl) done
  | timer cpu =>
      obtain ⟨queues, done, taken⟩ := Option.bind_eq_some_iff.mp taken
      obtain rfl := Option.some.inj taken
      exact timed.timerInterrupt done
  | other action =>
      obtain ⟨queues, acted, taken⟩ := Option.bind_eq_some_iff.mp taken
      obtain rfl := Option.some.inj taken
      exact ⟨cells, timed.act acted allowed⟩

/-- The thread on CPU 0 chooses the list of CPU 0 and is moved to CPU 1, and another one runs on
CPU 0. -/
def moving : List Action :=
  [.other (.prepare 0x10000 freeThread), .other (.prepare 0x20000 freeThread),
    .other (.attach 0 0x10000), .other (.attach 0 0x20000),
    .other (.resume 0 0x10000), .timer 0, .choose 0 5000,
    .other (.pause 1 0x10000), .other (.resume 1 0x10000000020000),
    .other (.resume 1 0x10000), .timer 1]

/-- The other thread goes to sleep first, for a shorter time: the one that has been moved comes
behind it in the list of CPU 0, and the timer stays right. -/
def behind : List Action :=
  moving ++ [.timer 0, .choose 0 2000, .lock 0 (some 0x5000) 1, .lock 1 (some 0x6000) 1]

end Migrating

end Sleep
end ToyKernel
