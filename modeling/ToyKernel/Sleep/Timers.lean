import ToyKernel.Sleep.Migration

/-!
# What moves the lists and the timers

The node of a call of `sleep` goes to its place in the list that the call has chosen, and a
timer interrupt takes the first node out of the list of its CPU.  A timer is set for a node that
gets in front, on whatever CPU the call is by then, and for the next node when the first one is
taken out.
-/

namespace ToyKernel
namespace Sleep

open Scheduler (Platform)

/-- The deadline of the first node of a list, or zero. -/
def firstTicks (nodes : Address → SleepNode) : List Address → BitVec 64
  | [] => 0
  | first :: _ => (nodes first).ticks

namespace State

/-- The tick that a timer interrupt of a CPU counts. -/
def tickAt (platform : Platform) (state : State) (cpu : Nat) : BitVec 64 :=
  (state.world.state.counters.tick platform cpu).ticks

/-- The timer of a CPU expires at its timer interrupt. -/
def Expires (platform : Platform) (state : State) (cpu : Nat) : Prop :=
  state.world.state.timerTicks cpu ≠ 0 ∧
    state.world.state.timerTicks cpu ≤ state.tickAt platform cpu

/-- The deadline of a call that takes the lock now. -/
def deadline (state : State) (period : BitVec 64) : BitVec 64 :=
  state.world.state.ticks + period / BitVec.ofNat 64 configSchedulerTickInterval

end State

section Lists

variable {platform : Platform} {state next : State} {cells : Nat → List Address}
  {list cpu rounds : Nat} {node : Address}

/-! ## Falling asleep -/

/-- A node gets to its place in the list, whatever the timer is set on. -/
theorem insertInto_linked
    (chain : Chain (links state.nodes) (state.sleeping list).tail (cells list))
    (nodup : (cells list).Nodup) (absent : node ∉ cells list)
    (done : insertInto platform state list cpu node rounds = some next) :
    Linked state next list node (cells list) := by
  rw [insertInto] at done
  cases first : isFirst state list (state.nodes node).ticks with
  | true =>
      rw [if_pos first] at done
      exact (linked_first chain absent first).act done
  | false =>
      rw [if_neg (by simp [first])] at done
      obtain ⟨tail, isTail, done⟩ := Option.bind_eq_some_iff.mp done
      obtain ⟨prev, found, done⟩ := Option.bind_eq_some_iff.mp done
      obtain rfl := Option.some.inj done
      exact linked_behind chain nodup absent first isTail found

/-- The timer is set for a node that gets in front of a list. -/
theorem insertInto_timerTicks
    (done : insertInto platform state list cpu node rounds = some next) :
    next.world.state.timerTicks =
      if isFirst state list (state.nodes node).ticks then
        Function.update state.world.state.timerTicks cpu (state.nodes node).ticks
      else state.world.state.timerTicks := by
  rw [insertInto] at done
  split
  · rename_i first
    rw [if_pos first] at done
    obtain ⟨world, stepped, rfl⟩ := act_eq_some_iff.mp done
    obtain ⟨-, -, set⟩ := Scheduler.World.step_setTimerTicks stepped
    have sameTicks := State.setNode_next_ticks state node (state.sleeping list).tail node
    rw [← sameTicks]
    exact congrArg Scheduler.State.timerTicks set
  · rename_i notFirst
    rw [if_neg notFirst] at done
    obtain ⟨tail, -, done⟩ := Option.bind_eq_some_iff.mp done
    obtain ⟨prev, -, done⟩ := Option.bind_eq_some_iff.mp done
    obtain rfl := Option.some.inj done
    rfl

/-- An unused block in front of a list or not. -/
theorem Chained.isFirst_prepare (chained : Chained state cells)
    (unused : state.allocated node = false) (deadline : BitVec 64) :
    isFirst (state.prepare cpu node deadline) list deadline = isFirst state list deadline := by
  unfold isFirst
  rw [show ((state.prepare cpu node deadline).sleeping list).tail =
    (state.sleeping list).tail from rfl, (chained.chain list).first_eq]
  cases isCells : cells list with
  | nil => rfl
  | cons first rest =>
      have different : first ≠ node := by
        rintro rfl
        exact chained.absent unused list (isCells ▸ List.mem_cons_self)
      simp only [List.head?_cons, State.prepare_nodes, if_neg different]

/-- What a call of `sleep` with a block does to the lists and the timers. -/
structure FellAsleep (state next : State) (list cpu : Nat) (node : Address)
    (deadline : BitVec 64) (cells : Nat → List Address) : Prop where
  chained : Chained next (Function.update cells list
    (StableInsertion.insert (ticksOf (state.prepare cpu node deadline).nodes) node (cells list)))
  ticks : ∀ cell, (next.nodes cell).ticks = if cell = node then deadline
    else (state.nodes cell).ticks
  timers : next.world.state.timerTicks =
    if isFirst state list deadline then Function.update state.world.state.timerTicks cpu deadline
    else state.world.state.timerTicks

theorem Chained.sleepLocked {period : BitVec 64} {err : ErrCode} (chained : Chained state cells)
    (unused : state.allocated node = false)
    (done : Sleep.sleepLocked platform state list cpu period (some node) rounds =
      some (next, err)) :
    FellAsleep state next list cpu node (state.deadline period) cells := by
  obtain ⟨thread, -, done⟩ := Option.bind_eq_some_iff.mp done
  obtain ⟨linked, inserts, done⟩ := Option.bind_eq_some_iff.mp done
  obtain ⟨final, paused, done⟩ := Option.bind_eq_some_iff.mp done
  have inserted : insertInto platform (state.prepare cpu node (state.deadline period)) list cpu
      node rounds = some linked := inserts
  obtain ⟨rfl, -⟩ := Prod.mk.inj (Option.some.inj done)
  have absent := chained.absent unused
  have prepared : Chained (state.prepare cpu node (state.deadline period)) cells :=
    chained.prepare unused _
  have isLinked := insertInto_linked (prepared.chain list) (prepared.nodup list) (absent list)
    inserted
  have timers := insertInto_timerTicks inserted
  have newTicks : ((state.prepare cpu node (state.deadline period)).nodes node).ticks =
      state.deadline period := by
    rw [State.prepare_nodes, if_pos rfl]
  rw [newTicks, chained.isFirst_prepare unused] at timers
  have linkedCells := prepared.linked absent (Function.update_self ..) isLinked
  have recorded : Chained (linked.record thread list (state.deadline period)) _ :=
    linkedCells.congr (fun _ => rfl) (fun _ _ _ => rfl) fun _ _ _ => rfl
  refine ⟨?_, ?_, ?_⟩
  · exact recorded.act paused
  · intro cell
    obtain ⟨world, -, rfl⟩ := act_eq_some_iff.mp paused
    refine (isLinked.ticks cell).trans ?_
    rw [State.prepare_nodes]
    split
    · rfl
    · rfl
  · obtain ⟨world, stepped, rfl⟩ := act_eq_some_iff.mp paused
    have counters := Scheduler.World.step_counters stepped rfl
    exact (congrArg Scheduler.Counters.timerTicks counters).trans timers

/-! ## Waking up -/

/-- The timer is set for the first node, if there is one. -/
theorem Chained.rearm (chained : Chained state cells)
    (done : Sleep.rearm platform state cpu = some next) :
    Chained next cells ∧ next.nodes = state.nodes ∧
      next.world.state.ticks = state.world.state.ticks ∧
      (state.world.state.timerTicks cpu = 0 → next.world.state.timerTicks =
        Function.update state.world.state.timerTicks cpu (firstTicks state.nodes (cells cpu))) := by
  rw [Sleep.rearm, (chained.chain cpu).first_eq] at done
  cases isCells : cells cpu with
  | nil =>
      rw [isCells] at done
      obtain rfl := Option.some.inj done
      refine ⟨chained, rfl, rfl, fun cleared => ?_⟩
      rw [firstTicks, ← cleared, Function.update_eq_self]
  | cons first rest =>
      rw [isCells] at done
      have kept := chained.act done
      obtain ⟨world, stepped, rfl⟩ := act_eq_some_iff.mp done
      obtain ⟨-, -, set⟩ := Scheduler.World.step_setTimerTicks stepped
      refine ⟨kept, rfl, ?_, fun _ => congrArg Scheduler.State.timerTicks set⟩
      simp only [set]

/-- The timer procedure takes the first node out of the list, and sets a timer that is not set
for the next one. -/
theorem Chained.sleepTimerProc (chained : Chained state cells)
    (done : sleepTimerProc platform state cpu = some next) :
    Chained next (Function.update cells cpu (cells cpu).tail) ∧ next.nodes = state.nodes ∧
      next.world.state.ticks = state.world.state.ticks ∧
      (state.world.state.timerTicks cpu = 0 → next.world.state.timerTicks =
        Function.update state.world.state.timerTicks cpu
          (firstTicks state.nodes (cells cpu).tail)) := by
  have tail := (chained.chain cpu).first_eq
  rw [Sleep.sleepTimerProc] at done
  cases isCells : cells cpu with
  | nil =>
      rw [tail, isCells] at done
      obtain rfl := Option.some.inj done
      rw [List.tail_nil, ← isCells, Function.update_eq_self]
      refine ⟨chained, rfl, rfl, fun cleared => ?_⟩
      rw [isCells, firstTicks, ← cleared, Function.update_eq_self]
  | cons first rest =>
      rw [tail, isCells] at done
      obtain ⟨armed, arms, done⟩ := Option.bind_eq_some_iff.mp done
      obtain ⟨resumed, resumes, done⟩ := Option.bind_eq_some_iff.mp done
      obtain rfl := Option.some.inj done
      obtain ⟨cut, gone⟩ := chained.pop isCells
      obtain ⟨chainedArmed, sameNodes, sameTicks, timers⟩ := cut.rearm arms
      rw [Function.update_self] at timers
      have chainedResumed := chainedArmed.act resumes
      obtain ⟨world, stepped, rfl⟩ := act_eq_some_iff.mp resumes
      have counters := Scheduler.World.step_counters stepped rfl
      refine ⟨chainedResumed.congr (fun _ => rfl) (fun _ _ _ => rfl) fun other cell present => ?_,
        sameNodes, (congrArg Scheduler.Counters.ticks counters).trans sameTicks,
        fun cleared => (congrArg Scheduler.Counters.timerTicks counters).trans (timers cleared)⟩
      have different : cell ≠ first := fun same => gone other (same ▸ present)
      exact Function.update_of_ne different ..

/-- What a timer interrupt does to the lists and the timers. -/
inductive Interrupted (platform : Platform) (state : State) (cpu : Nat)
    (cells : Nat → List Address) (next : State) : Prop
  | panicked (stopped : (next.world.state.machines cpu).panicked = true)
      (kept : Chained next cells)
      (timers : next.world.state.timerTicks = state.world.state.timerTicks)
  | wakes (clock : next.world.state.ticks = state.tickAt platform cpu)
      (expires : state.Expires platform cpu)
      (popped : Chained next (Function.update cells cpu (cells cpu).tail))
      (timers : next.world.state.timerTicks = Function.update state.world.state.timerTicks cpu
        (firstTicks state.nodes (cells cpu).tail))
  | quiet (clock : next.world.state.ticks = state.tickAt platform cpu)
      (stays : ¬ state.Expires platform cpu) (kept : Chained next cells)
      (timers : next.world.state.timerTicks = state.world.state.timerTicks)

/-- A timer interrupt takes the first node out of the list of its CPU if the timer expires,
and otherwise leaves the lists alone. -/
theorem Chained.timerInterrupt (chained : Chained state cells)
    (done : timerInterrupt platform state cpu = some next) :
    next.nodes = state.nodes ∧ Interrupted platform state cpu cells next := by
  obtain ⟨interrupted, acted, done⟩ := Option.bind_eq_some_iff.mp done
  have kept := chained.act acted
  have timers := timerTicks_of_act acted
  obtain ⟨world, stepped, rfl⟩ := act_eq_some_iff.mp acted
  have counters := Scheduler.timerInterrupt_counters (Scheduler.World.step_timer stepped).2.2
  by_cases panicked : (world.state.machines cpu).panicked = true
  · have notExpired : ¬ expires state.world.state world.state cpu :=
      fun expired => Bool.false_ne_true (expired.1.symm.trans panicked)
    rw [if_neg notExpired] at done timers
    obtain rfl := Option.some.inj done
    exact ⟨rfl, .panicked panicked kept timers⟩
  · rw [if_neg panicked] at counters
    have sameTicks : world.state.ticks = state.tickAt platform cpu :=
      congrArg Scheduler.Counters.ticks counters
    have alive : (world.state.machines cpu).panicked = false := by simpa using panicked
    have isExpired : expires state.world.state world.state cpu ↔ state.Expires platform cpu := by
      rw [expires, State.Expires, sameTicks]
      exact and_iff_right alive
    split at done
    · rename_i expired
      rw [if_pos expired] at timers
      obtain ⟨popped, sameNodes, clock, set⟩ := kept.sleepTimerProc done
      refine ⟨sameNodes, .wakes (clock.trans sameTicks) (isExpired.mp expired) popped ?_⟩
      have cleared : world.state.timerTicks cpu = 0 :=
        (congrFun timers cpu).trans (Function.update_self ..)
      rw [set cleared, timers, Function.update_idem]
    · rename_i notExpired
      rw [if_neg notExpired] at timers
      obtain rfl := Option.some.inj done
      exact ⟨rfl, .quiet sameTicks (fun expired => notExpired (isExpired.mpr expired)) kept timers⟩

end Lists

end Sleep
end ToyKernel
