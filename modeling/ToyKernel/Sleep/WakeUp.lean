import ToyKernel.Sleep.Invariant

/-!
# Waking up

When the timer of a CPU expires, `sleep_timer_proc` resumes the first sleeper of its list
and sets the timer for the next one.
-/

namespace ToyKernel
namespace Sleep

open Scheduler (Platform World)

/-- What becomes of the state when the first sleeper of a CPU is woken up. -/
structure Leaves (platform : Platform) (state next : State) (cpu : Nat) (first : Sleeper)
    (rest : List Sleeper) : Prop where
  grounded : Grounded platform next
  tail : (next.sleeping cpu).tail = (state.nodes first.node).next
  otherTails : ∀ other, other ≠ cpu → next.sleeping other = state.sleeping other
  nodes : next.nodes = state.nodes
  calls : next.calls = Function.update state.calls first.thread none
  running : (next.world.state.threads first.thread).state = .running
  total : next.total = state.total
  allocated : next.allocated = Function.update state.allocated first.node false
  stamps : ∀ thread call, state.calls thread = some call →
    (next.world.state.threads thread).stamp = (state.world.state.threads thread).stamp
  timerTicks : next.world.state.timerTicks =
    Function.update state.world.state.timerTicks cpu (alarm rest)

/-- The timer of a CPU has expired for its first sleeper. -/
structure Due (platform : Platform) (state : State) (cpu : Nat) (first : Sleeper)
    (rest : List Sleeper) : Prop where
  grounded : Grounded platform state
  tail : (state.sleeping cpu).tail = some first.node
  behind : (state.nodes first.node).next = (rest.map Sleeper.node).head?
  id : (state.nodes first.node).thread =
    getStampId first.thread (state.world.state.threads first.thread).stamp
  ticks : ∀ sleeper ∈ rest, (state.nodes sleeper.node).ticks = sleeper.call.deadline
  called : state.calls first.thread = some first.call
  cleared : state.world.state.timerTicks cpu = 0

section WakeUp

variable {platform : Platform} {state next : State} {queues : Nat → List Sleeper}
  {cpu : Nat} {first : Sleeper} {rest : List Sleeper}

/-- The timer is set for the next sleeper, if there is one. -/
theorem Grounded.rearm {after : State} (grounded : Grounded platform state)
    (tail : (state.sleeping cpu).tail = (rest.map Sleeper.node).head?)
    (ticks : ∀ sleeper ∈ rest, (state.nodes sleeper.node).ticks = sleeper.call.deadline)
    (cleared : state.world.state.timerTicks cpu = 0)
    (done : Sleep.rearm platform state cpu = some after) :
    Grounded platform after ∧
      after = { state with world := after.world } ∧
      after.world.state = { state.world.state with
        timerTicks := Function.update state.world.state.timerTicks cpu (alarm rest) } := by
  rw [Sleep.rearm, tail] at done
  cases rest with
  | nil =>
      obtain rfl := Option.some.inj done
      refine ⟨grounded, rfl, ?_⟩
      rw [show alarm [] = 0 from rfl, ← cleared, Function.update_eq_self]
  | cons second others =>
      obtain ⟨groundedAfter, sameCalls⟩ := grounded.act_quiet done fun _ _ _ ends => ends
      obtain ⟨world, stepped, rfl⟩ := act_eq_some_iff.mp done
      obtain ⟨-, -, set⟩ := Scheduler.World.step_setTimerTicks stepped
      rw [ticks second List.mem_cons_self] at set
      refine ⟨groundedAfter, ?_, set⟩
      simp only at sameCalls
      rw [sameCalls]

/-- The timer procedure wakes up the first sleeper. -/
theorem Due.leaves (due : Due platform state cpu first rest)
    (done : sleepTimerProc platform state cpu = some next) :
    Leaves platform state next cpu first rest ∧
      next.world.state.ticks = state.world.state.ticks := by
  simp only [sleepTimerProc, due.tail] at done
  obtain ⟨armed, arms, done⟩ := Option.bind_eq_some_iff.mp done
  obtain ⟨resumed, resumes, done⟩ := Option.bind_eq_some_iff.mp done
  obtain rfl := Option.some.inj done
  have cut : Grounded platform (state.setTail cpu (state.nodes first.node).next) :=
    due.grounded.congr rfl rfl
  have newTail : ((state.setTail cpu (state.nodes first.node).next).sleeping cpu).tail =
      (state.nodes first.node).next := by
    simp only [State.setTail, Function.update_self]
  obtain ⟨groundedArmed, isArmed, armedWorld⟩ :=
    cut.rearm (newTail.trans due.behind) due.ticks due.cleared arms
  have sameThreads : armed.world.state.threads = state.world.state.threads := by
    rw [armedWorld]
    rfl
  have sameCalls : armed.calls = state.calls := by
    rw [isArmed]
    rfl
  have sameNodes : armed.nodes = state.nodes := by
    rw [isArmed]
    rfl
  rw [sameNodes, due.id, ← sameThreads] at resumes
  obtain ⟨groundedNext, callsNext, running⟩ :=
    groundedArmed.act_resume (sameCalls ▸ due.called) resumes
  have stamps : ∀ thread call, state.calls thread = some call →
      (resumed.world.state.threads thread).stamp = (state.world.state.threads thread).stamp := by
    intro thread call isCalled
    rw [← sameThreads]
    exact groundedArmed.act_stamp resumes (sameCalls ▸ isCalled)
  obtain ⟨world, stepped, rfl⟩ := act_eq_some_iff.mp resumes
  have counters := Scheduler.World.step_counters stepped rfl
  have timers := congrArg Scheduler.Counters.timerTicks counters
  have clock := congrArg Scheduler.Counters.ticks counters
  simp only [Scheduler.State.counters, armedWorld] at timers clock
  refine ⟨?_, clock⟩
  constructor
  · exact groundedNext.congr rfl rfl
  · rw [← newTail, isArmed]
    rfl
  · intro other different
    rw [isArmed]
    exact Function.update_of_ne different ..
  · exact sameNodes
  · rw [← sameCalls]
    exact callsNext
  · exact running
  · rw [isArmed]
    rfl
  · rw [isArmed]
    rfl
  · exact stamps
  · exact timers

/-- The invariant holds again without the first sleeper. -/
theorem Fits.wakeUp (fits : Fits platform state queues) (isQueue : queues cpu = first :: rest)
    (leaves : Leaves platform state next cpu first rest) :
    Fits platform next (Function.update queues cpu rest) := by
  have represents := fits.represents cpu
  rw [isQueue] at represents
  obtain ⟨calledFirst, onCpu⟩ := represents.called List.mem_cons_self
  have members : ∀ other sleeper, sleeper ∈ Function.update queues cpu rest other →
      sleeper ∈ queues other ∧ sleeper.node ≠ first.node := by
    intro other sleeper present
    rw [Function.update_apply] at present
    split at present
    · rename_i same
      have isMember : sleeper ∈ queues cpu := isQueue ▸ List.mem_cons_of_mem _ present
      refine ⟨same ▸ isMember, fun sameNode => ?_⟩
      have isFirst := fits.apart cpu sleeper isMember cpu first
        (isQueue ▸ List.mem_cons_self) sameNode
      exact represents.mem_rest present (by rw [isFirst])
    · rename_i different
      refine ⟨present, fun sameNode => ?_⟩
      have isFirst := fits.apart other sleeper present cpu first
        (isQueue ▸ List.mem_cons_self) sameNode
      have onOther := ((fits.represents other).called present).2
      rw [isFirst, onCpu] at onOther
      exact different onOther.symm
  refine ⟨leaves.grounded, fun other => ?_, ?_, ?_, ?_⟩
  · by_cases same : other = cpu
    · subst same
      rw [Function.update_self]
      constructor
      · rw [leaves.tail, leaves.nodes]
        exact represents.chain.2
      · intro sleeper present
        have isMember := List.mem_cons_of_mem first present
        rw [leaves.nodes, leaves.stamps _ _ (represents.called isMember).1]
        exact represents.ids sleeper isMember
      · intro sleeper present
        rw [leaves.nodes]
        exact represents.ticks sleeper (List.mem_cons_of_mem first present)
      · intro thread call
        rw [leaves.calls, Function.update_apply]
        split
        · rename_i same
          subst same
          refine ⟨fun ⟨node, present⟩ => ?_, nofun⟩
          exact (represents.mem_rest present rfl).elim
        · rename_i different
          rw [← represents.members]
          constructor
          · rintro ⟨node, present⟩
            exact ⟨node, List.mem_cons_of_mem first present⟩
          · rintro ⟨node, present⟩
            rcases List.mem_cons.mp present with isFirst | present
            · exact absurd (congrArg Sleeper.thread isFirst) different
            · exact ⟨node, present⟩
      · exact (List.nodup_cons.mp represents.once).2
      · exact (List.pairwise_cons.mp represents.sorted).2
      · rw [leaves.timerTicks, Function.update_self]
      · exact fun sleeper present =>
          represents.notZero sleeper (List.mem_cons_of_mem first present)
    · rw [Function.update_of_ne same]
      refine (fits.represents other).frame (by rw [leaves.otherTails other same])
        (fun _ _ => by rw [leaves.nodes]) ?_ ?_ ?_
      · intro sleeper present
        exact leaves.stamps _ _ ((fits.represents other).called present).1
      · intro thread call onOther
        rw [leaves.calls, Function.update_apply]
        split
        · rename_i isFirst
          rw [isFirst, calledFirst]
          refine ⟨nofun, fun sameCall => ?_⟩
          rw [← Option.some.inj sameCall, onCpu] at onOther
          exact absurd onOther.symm same
        · exact Iff.rfl
      · rw [leaves.timerTicks, Function.update_of_ne same]
  · intro thread call called
    rw [leaves.calls, Function.update_apply] at called
    rw [leaves.total]
    split at called
    · cases called
    · exact fits.numbered thread call called
  · intro other sleeper present
    obtain ⟨isMember, different⟩ := members other sleeper present
    rw [leaves.allocated, Function.update_of_ne different]
    exact fits.allocated other sleeper isMember
  · intro one left isLeft other right isRight
    exact fits.apart one left (members one left isLeft).1 other right
      (members other right isRight).1

/-- What the timer interrupt does before the timer procedure. -/
structure Ticks (platform : Platform) (state interrupted : State) (cpu : Nat) : Prop where
  grounded : Grounded platform interrupted
  lists : interrupted = { state with world := interrupted.world }
  stamps : ∀ thread call, state.calls thread = some call →
    (interrupted.world.state.threads thread).stamp = (state.world.state.threads thread).stamp
  timerTicks : interrupted.world.state.timerTicks =
    if expires state.world.state interrupted.world.state cpu then
      Function.update state.world.state.timerTicks cpu 0
    else state.world.state.timerTicks

/-- A timer interrupt clears the timer of its CPU if it has expired. -/
theorem timerTicks_of_act {interrupted : State}
    (acted : state.act platform (.timer cpu) = some interrupted) :
    interrupted.world.state.timerTicks =
      if expires state.world.state interrupted.world.state cpu then
        Function.update state.world.state.timerTicks cpu 0
      else state.world.state.timerTicks := by
  obtain ⟨world, stepped, rfl⟩ := act_eq_some_iff.mp acted
  have counters := Scheduler.timerInterrupt_counters (Scheduler.World.step_timer stepped).2.2
  have timers := congrArg Scheduler.Counters.timerTicks counters
  by_cases due : expires state.world.state world.state cpu
  · rw [if_neg (by simp [due.1])] at counters timers
    rw [Scheduler.Counters.tick_timerTicks, ← counters] at timers
    rw [if_pos due]
    exact timers.trans (if_pos due.2)
  · rw [if_neg due]
    split at timers
    · exact timers
    · rename_i alive
      rw [if_neg alive] at counters
      rw [Scheduler.Counters.tick_timerTicks, ← counters] at timers
      exact timers.trans (if_neg fun expired => due ⟨by simpa using alive, expired⟩)

theorem Grounded.ticks {interrupted : State} (grounded : Grounded platform state)
    (acted : state.act platform (.timer cpu) = some interrupted) :
    Ticks platform state interrupted cpu := by
  obtain ⟨groundedAfter, sameCalls⟩ := grounded.act_quiet acted fun _ _ _ ends => ends
  have stamps := fun thread call (called : state.calls thread = some call) =>
    grounded.act_stamp acted called
  have timers := timerTicks_of_act acted
  obtain ⟨world, stepped, rfl⟩ := act_eq_some_iff.mp acted
  refine ⟨groundedAfter, ?_, stamps, timers⟩
  simp only at sameCalls
  rw [sameCalls]

/-- When the timer has expired, the first sleeper of the CPU is due. -/
theorem Fits.due {interrupted : State} (fits : Fits platform state queues)
    (ticks : Ticks platform state interrupted cpu)
    (expired : expires state.world.state interrupted.world.state cpu) :
    ∃ first rest, queues cpu = first :: rest ∧ Due platform interrupted cpu first rest ∧
      first.call.deadline ≤ interrupted.world.state.ticks := by
  have represents := fits.represents cpu
  have isCleared := ticks.timerTicks
  rw [if_pos expired] at isCleared
  obtain ⟨-, set, notEarly⟩ := expired
  rw [represents.armed] at set notEarly
  cases isQueue : queues cpu with
  | nil =>
      rw [isQueue] at set
      exact absurd rfl set
  | cons first rest =>
      rw [isQueue] at represents notEarly
      obtain ⟨called, -⟩ := represents.called List.mem_cons_self
      refine ⟨first, rest, rfl, ⟨ticks.grounded, ?_, ?_, ?_, ?_, ?_, ?_⟩, notEarly⟩
      · rw [ticks.lists]
        exact represents.chain.1
      · rw [ticks.lists]
        exact represents.chain.2.first_eq
      · rw [ticks.stamps _ _ called, ticks.lists]
        exact represents.ids first List.mem_cons_self
      · rw [ticks.lists]
        exact fun sleeper present => represents.ticks sleeper (List.mem_cons_of_mem _ present)
      · rw [ticks.lists]
        exact called
      · rw [isCleared, Function.update_self]

/-- Seen from before the interrupt. -/
theorem Leaves.ofTicks {interrupted : State} (ticks : Ticks platform state interrupted cpu)
    (expired : expires state.world.state interrupted.world.state cpu)
    (leaves : Leaves platform interrupted next cpu first rest) :
    Leaves platform state next cpu first rest := by
  have sameCalls : interrupted.calls = state.calls := by
    rw [ticks.lists]
  constructor
  · exact leaves.grounded
  · rw [leaves.tail, ticks.lists]
  · intro other different
    rw [leaves.otherTails other different, ticks.lists]
  · rw [leaves.nodes, ticks.lists]
  · rw [leaves.calls, sameCalls]
  · exact leaves.running
  · rw [leaves.total, ticks.lists]
  · rw [leaves.allocated, ticks.lists]
  · intro thread call isCalled
    rw [leaves.stamps thread call (sameCalls ▸ isCalled), ticks.stamps thread call isCalled]
  · rw [leaves.timerTicks, ticks.timerTicks, if_pos expired, Function.update_idem]

/-- The timer interrupt wakes up the first sleeper of the CPU, if its deadline has come, and
nobody else. -/
theorem Fits.timer (fits : Fits platform state queues)
    (done : timerInterrupt platform state cpu = some next) :
    (Fits platform next queues ∧ next.calls = state.calls ∧
      ((next.world.state.machines cpu).panicked = true ∨
        ∀ first ∈ (queues cpu).head?, next.world.state.ticks < first.call.deadline)) ∨
    ∃ first rest, queues cpu = first :: rest ∧
      first.call.deadline ≤ next.world.state.ticks ∧
      next.calls = Function.update state.calls first.thread none ∧
      (next.world.state.threads first.thread).state = .running ∧
      Fits platform next (Function.update queues cpu rest) := by
  obtain ⟨interrupted, acted, done⟩ := Option.bind_eq_some_iff.mp done
  have ticks := fits.grounded.ticks acted
  split at done
  · rename_i expired
    obtain ⟨first, rest, isQueue, due, notEarly⟩ := fits.due ticks expired
    obtain ⟨leaves, sameTicks⟩ := due.leaves done
    have leavesState := leaves.ofTicks ticks expired
    exact .inr ⟨first, rest, isQueue, sameTicks ▸ notEarly, leavesState.calls,
      leavesState.running, fits.wakeUp isQueue leavesState⟩
  · rename_i notExpired
    obtain rfl := Option.some.inj done
    have sameTimers := ticks.timerTicks
    rw [if_neg notExpired] at sameTimers
    refine .inl ⟨fits.quiet acted (fun _ _ _ ends => ends) sameTimers, by rw [ticks.lists], ?_⟩
    cases panicked : (interrupted.world.state.machines cpu).panicked with
    | true => exact .inl rfl
    | false =>
        right
        intro first isFirst
        obtain ⟨rest, isQueue⟩ := List.head?_eq_some_iff.mp isFirst
        have represents := fits.represents cpu
        rw [isQueue] at represents
        have armed : state.world.state.timerTicks cpu = first.call.deadline := represents.armed
        have notZero := represents.notZero first List.mem_cons_self
        by_contra notEarly
        rw [BitVec.not_lt] at notEarly
        exact notExpired ⟨panicked, armed ▸ notZero, armed ▸ notEarly⟩

/-! ## The timer interrupt returns -/

/-- The timer procedure returns if no CPU has been stopped by a stack overrun and the threads
can be counted. -/
theorem Due.exists_next (due : Due platform state cpu first rest)
    (runs : cpu < platform.cpus)
    (survive : ∀ other, other < platform.cpus →
      (state.world.state.machines other).panicked = false)
    (counted : state.world.state.all.totalThreads ≤ Scheduler.int32Max) :
    ∃ next, sleepTimerProc platform state cpu = some next := by
  let cut := state.setTail cpu (state.nodes first.node).next
  have groundedCut : Grounded platform cut := due.grounded.congr rfl rfl
  have newTail : (cut.sleeping cpu).tail = (rest.map Sleeper.node).head? := by
    rw [← due.behind]
    simp only [cut, State.setTail, Function.update_self]
  have cutRuns : cut.world.Runs platform cpu := ⟨runs, survive cpu runs⟩
  obtain ⟨armed, arms⟩ : ∃ armed, rearm platform cut cpu = some armed := by
    rw [rearm, newTail]
    cases rest with
    | nil => exact ⟨cut, rfl⟩
    | cons second others =>
        obtain ⟨world, stepped⟩ := Scheduler.World.exists_step_setTimerTicks cutRuns
          (cut.nodes second.node).ticks
        exact ⟨_, act_eq_some_iff.mpr ⟨world, stepped, rfl⟩⟩
  obtain ⟨grounded, isArmed, armedWorld⟩ := groundedCut.rearm newTail due.ticks due.cleared arms
  have sameNodes : armed.nodes = state.nodes := by
    rw [isArmed]
    rfl
  have sameCalls : armed.calls = state.calls := by
    rw [isArmed]
    rfl
  have sameThreads : armed.world.state.threads = state.world.state.threads := by
    rw [armedWorld]
    rfl
  obtain ⟨summary, refines, invariant⟩ := grounded.sound
  obtain ⟨blocked, below⟩ := grounded.blocked _ _ (sameCalls ▸ due.called)
  have armedRuns : armed.world.Runs platform cpu := ⟨runs, by rw [armedWorld]; exact cutRuns.2⟩
  obtain ⟨world, stepped⟩ := blocked.exists_step_resume refines invariant grounded.small
    grounded.haveCpus (by rw [armedWorld]; exact survive) (by rw [armedWorld]; exact counted)
    below armedRuns
  rw [sameThreads, ← due.id, ← sameNodes] at stepped
  obtain ⟨resumed, resumes⟩ : ∃ resumed, armed.act platform
      (.resume cpu (armed.nodes first.node).thread) = some resumed :=
    ⟨_, act_eq_some_iff.mpr ⟨world, stepped, rfl⟩⟩
  refine ⟨resumed.setAllocated first.node false, ?_⟩
  simp only [sleepTimerProc, due.tail]
  rw [show rearm platform (state.setTail cpu (state.nodes first.node).next) cpu = some armed
    from arms]
  simp only [Option.bind_eq_bind, Option.bind_some, resumes]

/-- The timer interrupt returns under the same conditions. -/
theorem Fits.exists_timer {interrupted : State} (fits : Fits platform state queues)
    (acted : state.act platform (.timer cpu) = some interrupted) (runs : cpu < platform.cpus)
    (survive : ∀ other, other < platform.cpus →
      (interrupted.world.state.machines other).panicked = false)
    (counted : interrupted.world.state.all.totalThreads ≤ Scheduler.int32Max) :
    ∃ next, timerInterrupt platform state cpu = some next := by
  simp only [timerInterrupt, acted, Option.bind_eq_bind, Option.bind_some]
  split
  · rename_i expired
    obtain ⟨first, rest, -, due, -⟩ := fits.due (fits.grounded.ticks acted) expired
    exact due.exists_next runs survive counted
  · exact ⟨interrupted, rfl⟩

end WakeUp

end Sleep
end ToyKernel
