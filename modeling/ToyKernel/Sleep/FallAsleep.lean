import ToyKernel.Sleep.Invariant

/-!
# Falling asleep

A call of `sleep` puts the caller into the list of its CPU, behind all sleepers that do
not wake up later, and sets the timer if it is the first one.
-/

namespace ToyKernel
namespace Sleep

open Scheduler (Platform World)

/-- The deadline of a sleeper as a number. -/
def Sleeper.key (sleeper : Sleeper) : Nat := sleeper.call.deadline.toNat

theorem Call.Before.deadline_le {left right : Call} (before : left.Before right) :
    left.deadline.toNat ≤ right.deadline.toNat := by
  rcases before with earlier | ⟨same, -⟩
  · exact le_of_lt (BitVec.lt_def.mp earlier)
  · rw [same]

section FallAsleep

variable {platform : Platform} {state next : State} {queues : Nat → List Sleeper}
  {node : Address} {cpu rounds : Nat} {period : BitVec 64} {block : Option Address}

/-- The nodes of a list are different. -/
theorem Fits.nodup_nodes (fits : Fits platform state queues) (cpu : Nat) :
    ((queues cpu).map Sleeper.node).Nodup := by
  refine List.Nodup.map_on ?_ (List.Nodup.of_map _ (fits.represents cpu).once)
  exact fun left isLeft right isRight => fits.apart cpu left isLeft cpu right isRight

/-- The timer is set for the new sleeper if it is the first one to wake up. -/
theorem alarm_insert {queue : List Sleeper} {sleeper : Sleeper} :
    alarm (StableInsertion.insert Sleeper.key sleeper queue) =
      if ∀ first ∈ queue.head?, sleeper.key < first.key then sleeper.call.deadline
      else alarm queue := by
  cases queue with
  | nil =>
      rw [if_pos]
      · rfl
      · intro first isFirst
        cases isFirst
  | cons first rest =>
      simp only [List.head?_cons, Option.mem_some_iff, forall_eq']
      rw [StableInsertion.insert_cons]
      split
      · rename_i notLater
        rw [if_neg (Nat.not_lt.mpr notLater)]
        rfl
      · rename_i later
        rw [if_pos (Nat.not_le.mp later)]
        rfl

theorem isFirst_iff {queue : List Sleeper} {sleeper : Sleeper}
    (tail : (state.sleeping cpu).tail = (queue.map Sleeper.node).head?)
    (ticks : ∀ sleeper ∈ queue, (state.nodes sleeper.node).ticks = sleeper.call.deadline) :
    isFirst state cpu sleeper.call.deadline = true ↔
      ∀ first ∈ queue.head?, sleeper.key < first.key := by
  cases queue with
  | nil =>
      rw [isFirst, tail]
      refine iff_of_true rfl fun first isFirst => ?_
      cases isFirst
  | cons first rest =>
      simp only [isFirst, tail, List.map_cons, List.head?_cons, Option.mem_some_iff, forall_eq',
        ticks first List.mem_cons_self, decide_eq_true_iff]
      exact BitVec.lt_def

/-- Where the node of a new call is linked, and what the timer is set to. -/
theorem Fits.insertNode (fits : Fits platform state queues) (sleeper : Sleeper)
    (prepared : State)
    (unused : state.allocated sleeper.node = false)
    (sameWorld : prepared.world = state.world) (sameCalls : prepared.calls = state.calls)
    (sameTail : (prepared.sleeping cpu).tail = (state.sleeping cpu).tail)
    (deadline : (prepared.nodes sleeper.node).ticks = sleeper.call.deadline)
    (otherNodes : ∀ other, other ≠ sleeper.node → prepared.nodes other = state.nodes other)
    (done : Sleep.insertNode platform prepared cpu sleeper.node rounds = some next) :
    Linked prepared next cpu sleeper.node ((queues cpu).map Sleeper.node) ∧
      (StableInsertion.insert Sleeper.key sleeper (queues cpu)).map Sleeper.node =
        StableInsertion.insert (ticksOf prepared.nodes) sleeper.node
          ((queues cpu).map Sleeper.node) ∧
      Grounded platform next ∧ next.calls = state.calls ∧
      next.world.attached = state.world.attached ∧
      next.world.state = { state.world.state with
        timerTicks := Function.update state.world.state.timerTicks cpu
          (alarm (StableInsertion.insert Sleeper.key sleeper (queues cpu))) } := by
  have represents := fits.represents cpu
  have fresh : ∀ other ∈ queues cpu, other.node ≠ sleeper.node := by
    intro other present same
    rw [← same, fits.allocated cpu other present] at unused
    cases unused
  have absent : sleeper.node ∉ (queues cpu).map Sleeper.node := by
    intro present
    obtain ⟨other, isMember, same⟩ := List.mem_map.mp present
    exact fresh other isMember same
  have ticks : ∀ other ∈ queues cpu, (prepared.nodes other.node).ticks = other.call.deadline := by
    intro other present
    rw [otherNodes _ (fresh other present)]
    exact represents.ticks other present
  have chain : Chain (links prepared.nodes) (prepared.sleeping cpu).tail
      ((queues cpu).map Sleeper.node) := by
    rw [sameTail]
    refine represents.chain.congr fun node present => ?_
    obtain ⟨other, isMember, rfl⟩ := List.mem_map.mp present
    rw [links, links, otherNodes _ (fresh other isMember)]
  have keys : ∀ other, other = sleeper ∨ other ∈ queues cpu →
      ticksOf prepared.nodes other.node = other.key := by
    rintro other (rfl | present)
    · rw [ticksOf, deadline, Sleeper.key]
    · rw [ticksOf, ticks other present, Sleeper.key]
  have grounded := fits.grounded.congr sameWorld sameCalls
  have first : Sleep.isFirst prepared cpu sleeper.call.deadline = true ↔
      ∀ first ∈ (queues cpu).head?, sleeper.key < first.key :=
    isFirst_iff chain.first_eq ticks
  rw [← deadline] at first
  cases isFirst : isFirst prepared cpu (prepared.nodes sleeper.node).ticks with
  | true =>
      obtain ⟨linked, before, linkedWorld, linkedCalls, acted⟩ :=
        insertNode_first chain absent isFirst done
      obtain ⟨groundedNext, quiet⟩ :=
        (grounded.congr linkedWorld linkedCalls).act_quiet acted fun _ _ _ ends => ends
      refine ⟨linked, StableInsertion.map_insert keys, groundedNext,
        quiet.trans (linkedCalls.trans sameCalls), ?_⟩
      obtain ⟨world, stepped, rfl⟩ := act_eq_some_iff.mp acted
      obtain ⟨-, sameAttached, set⟩ := Scheduler.World.step_setTimerTicks stepped
      rw [linkedWorld, sameWorld] at sameAttached set
      refine ⟨sameAttached, ?_⟩
      rw [alarm_insert, if_pos (first.mp isFirst), ← deadline]
      exact set
  | false =>
      obtain ⟨linked, sameWorld', sameCalls'⟩ :=
        insertNode_behind chain (fits.nodup_nodes cpu) absent isFirst done
      have notFirst : ¬ ∀ first ∈ (queues cpu).head?, sleeper.key < first.key := by
        rw [← first, isFirst]
        simp
      refine ⟨linked, StableInsertion.map_insert keys, grounded.congr sameWorld' sameCalls',
        sameCalls'.trans sameCalls, ?_, ?_⟩
      · rw [sameWorld', sameWorld]
      · rw [sameWorld', sameWorld, alarm_insert, if_neg notFirst, ← represents.armed,
          Function.update_eq_self]

/-- The call that `sleep` makes. -/
def State.call (state : State) (cpu : Nat) (period : BitVec 64) : Call :=
  ⟨cpu, state.world.state.ticks + period / BitVec.ofNat 64 configSchedulerTickInterval,
    state.total⟩

/-- The deadline is a number of ticks after the first. -/
theorem State.call_deadline
    (started : 1 ≤ state.world.state.ticks)
    (noOverflow : state.world.state.ticks.toNat + period.toNat / configSchedulerTickInterval <
      2 ^ 64) :
    (state.call cpu period).deadline ≠ 0 := by
  intro zero
  have sum := congrArg BitVec.toNat zero
  have positive : 1 ≤ state.world.state.ticks.toNat := started
  have interval : (BitVec.ofNat 64 configSchedulerTickInterval).toNat =
      configSchedulerTickInterval := by decide
  rw [State.call, BitVec.toNat_add, BitVec.toNat_udiv, interval, Nat.mod_eq_of_lt noOverflow]
    at sum
  have zeroNat : (0 : BitVec 64).toNat = 0 := rfl
  generalize period.toNat / configSchedulerTickInterval = intervals at sum
  omega

/-- The node of a call. -/
def State.prepare (state : State) (cpu : Nat) (node : Address) (deadline : BitVec 64) : State :=
  (state.setAllocated node true).setNode node fun data =>
    { data with thread := Scheduler.getThread state.world.state cpu, ticks := deadline }

theorem State.prepare_nodes (state : State) (cpu : Nat) (node : Address)
    (deadline : BitVec 64) (other : Address) :
    (state.prepare cpu node deadline).nodes other =
      if other = node then
        ⟨(state.nodes node).next, Scheduler.getThread state.world.state cpu, deadline⟩
      else state.nodes other :=
  State.setNode_nodes ..

/-- What becomes of the state when a thread falls asleep. -/
structure Enters (platform : Platform) (state next : State) (cpu : Nat) (sleeper : Sleeper)
    (queue : List Sleeper) : Prop where
  grounded : Grounded platform next
  chain : Chain (links next.nodes) (next.sleeping cpu).tail
    ((StableInsertion.insert Sleeper.key sleeper queue).map Sleeper.node)
  otherTails : ∀ other, other ≠ cpu → next.sleeping other = state.sleeping other
  otherNodes : ∀ other, other ≠ sleeper.node → other ∉ queue.map Sleeper.node →
    next.nodes other = state.nodes other
  ids : ∀ other, (next.nodes other).thread =
    if other = sleeper.node then
      getStampId sleeper.thread (state.world.state.threads sleeper.thread).stamp
    else (state.nodes other).thread
  ticks : ∀ other, (next.nodes other).ticks =
    if other = sleeper.node then sleeper.call.deadline else (state.nodes other).ticks
  calls : next.calls = Function.update state.calls sleeper.thread (some sleeper.call)
  total : next.total = state.total + 1
  allocated : next.allocated = Function.update state.allocated sleeper.node true
  stamps : ∀ thread, state.world.attached thread = true →
    (next.world.state.threads thread).stamp = (state.world.state.threads thread).stamp
  timerTicks : next.world.state.timerTicks =
    Function.update state.world.state.timerTicks cpu
      (alarm (StableInsertion.insert Sleeper.key sleeper queue))

/-- The code of `sleep` does this. -/
theorem Fits.enters {linked : State} {sleeper : Sleeper} {lock : Option Address}
    (fits : Fits platform state queues) (onCpu : sleeper.call.cpu = cpu)
    (number : sleeper.call.number = state.total)
    (unused : state.allocated sleeper.node = false)
    (current : (state.world.state.machines cpu).fsBase = some sleeper.thread)
    (below : sleeper.thread.toNat < 2 ^ 52)
    (inserted : Sleep.insertNode platform
      (state.prepare cpu sleeper.node sleeper.call.deadline) cpu sleeper.node rounds =
        some linked)
    (paused : (linked.record sleeper.thread cpu sleeper.call.deadline).act platform
      (.pauseThis cpu lock) = some next) :
    Enters platform state next cpu sleeper (queues cpu) := by
  have prepared := state.prepare_nodes cpu sleeper.node sleeper.call.deadline
  obtain ⟨isLinked, sameNodes, grounded, sameCalls, sameAttached, worldLinked⟩ :=
    fits.insertNode sleeper (state.prepare cpu sleeper.node sleeper.call.deadline) unused rfl rfl
      rfl (by rw [prepared, if_pos rfl])
      (fun other different => by rw [prepared, if_neg different]) inserted
  have currentLinked : (linked.world.state.machines cpu).fsBase = some sleeper.thread := by
    rw [worldLinked]
    exact current
  obtain ⟨groundedNext, callsNext, stamps⟩ :=
    grounded.act_pauseThis currentLinked below paused
  have sameTotal : linked.total = state.total := isLinked.total
  have sameCall : (⟨cpu, sleeper.call.deadline, linked.total⟩ : Call) = sleeper.call := by
    rw [sameTotal, ← onCpu, ← number]
  have itself : Scheduler.getThread state.world.state cpu =
      getStampId sleeper.thread (state.world.state.threads sleeper.thread).stamp := by
    simp only [Scheduler.getThread, current]
  obtain ⟨world, stepped, rfl⟩ := act_eq_some_iff.mp paused
  have sameTimers : world.state.timerTicks = linked.world.state.timerTicks := by
    apply Scheduler.World.step_timerTicks stepped
    · intro other ticks isSet
      cases isSet
    · intro other isTimer
      cases isTimer
  constructor
  · exact groundedNext
  · rw [sameNodes]
    exact isLinked.chain
  · exact isLinked.otherTails
  · intro other different absent
    exact (isLinked.others other different absent).trans (by rw [prepared, if_neg different])
  · intro other
    refine (isLinked.threads other).trans ?_
    rw [prepared, itself]
    split
    · rfl
    · rfl
  · intro other
    refine (isLinked.ticks other).trans ?_
    rw [prepared]
    split
    · rfl
    · rfl
  · rw [callsNext, State.record, sameCall, sameCalls]
  · show linked.total + 1 = state.total + 1
    rw [sameTotal]
  · exact isLinked.allocated
  · intro thread isAttached
    rw [stamps thread (sameAttached ▸ isAttached), worldLinked]
  · rw [sameTimers]
    show linked.world.state.timerTicks = _
    rw [worldLinked]

/-- The new list represents the calls on the CPU, with the new one. -/
theorem Fits.represents_insert {sleeper : Sleeper} (fits : Fits platform state queues)
    (enters : Enters platform state next cpu sleeper (queues cpu))
    (onCpu : sleeper.call.cpu = cpu) (number : sleeper.call.number = state.total)
    (notZero : sleeper.call.deadline ≠ 0) (notCalled : state.calls sleeper.thread = none)
    (unused : state.allocated sleeper.node = false)
    (isAttached : state.world.attached sleeper.thread = true) :
    Represents next cpu (StableInsertion.insert Sleeper.key sleeper (queues cpu)) := by
  have represents := fits.represents cpu
  have fresh : ∀ other ∈ queues cpu,
      other.node ≠ sleeper.node ∧ other.thread ≠ sleeper.thread := by
    intro other present
    refine ⟨fun same => ?_, fun same => ?_⟩
    · rw [← same, fits.allocated cpu other present] at unused
      cases unused
    · rw [← same, (represents.called present).1] at notCalled
      cases notCalled
  constructor
  · exact enters.chain
  · intro other present
    rw [enters.ids]
    rcases StableInsertion.mem_insert.mp present with rfl | isOld
    · rw [if_pos rfl, enters.stamps _ isAttached]
    · have blocked := fits.grounded.blocked _ _ (represents.called isOld).1
      rw [if_neg (fresh other isOld).1, enters.stamps _ blocked.1.attached]
      exact represents.ids other isOld
  · intro other present
    rw [enters.ticks]
    rcases StableInsertion.mem_insert.mp present with rfl | isOld
    · rw [if_pos rfl]
    · rw [if_neg (fresh other isOld).1]
      exact represents.ticks other isOld
  · intro thread call
    rw [enters.calls, Function.update_apply]
    split
    · rename_i same
      subst same
      constructor
      · rintro ⟨node, present⟩
        rcases StableInsertion.mem_insert.mp present with isNew | isOld
        · obtain rfl : call = sleeper.call := congrArg Sleeper.call isNew
          exact ⟨rfl, onCpu⟩
        · exact absurd rfl (fresh _ isOld).2
      · rintro ⟨sameCall, -⟩
        obtain rfl := Option.some.inj sameCall
        exact ⟨sleeper.node, StableInsertion.mem_insert.mpr (.inl rfl)⟩
    · rename_i different
      rw [← represents.members]
      constructor
      · rintro ⟨node, present⟩
        rcases StableInsertion.mem_insert.mp present with rfl | isOld
        · exact absurd rfl different
        · exact ⟨node, isOld⟩
      · rintro ⟨node, isOld⟩
        exact ⟨node, StableInsertion.mem_insert.mpr (.inr isOld)⟩
  · rw [(StableInsertion.perm_insert.map Sleeper.thread).nodup_iff, List.map_cons, List.nodup_cons]
    refine ⟨fun present => ?_, represents.once⟩
    obtain ⟨other, isOld, same⟩ := List.mem_map.mp present
    exact (fresh other isOld).2 same
  · refine StableInsertion.pairwise_insert (fun _ _ => Call.Before.deadline_le) represents.sorted
      ?_ ?_
    · intro other isOld notLater
      have earlier := fits.numbered _ _ (represents.called isOld).1
      rcases Nat.lt_or_eq_of_le notLater with less | same
      · exact .inl (BitVec.lt_def.mpr less)
      · exact .inr ⟨BitVec.eq_of_toNat_eq same, number ▸ earlier⟩
    · exact fun other _ later => .inl (BitVec.lt_def.mpr later)
  · rw [enters.timerTicks, Function.update_self]
  · intro other present
    rcases StableInsertion.mem_insert.mp present with rfl | isOld
    · exact notZero
    · exact represents.notZero other isOld

/-- The invariant holds again with the new list. -/
theorem Fits.fallAsleep {sleeper : Sleeper} (fits : Fits platform state queues)
    (enters : Enters platform state next cpu sleeper (queues cpu))
    (onCpu : sleeper.call.cpu = cpu) (number : sleeper.call.number = state.total)
    (notZero : sleeper.call.deadline ≠ 0) (notCalled : state.calls sleeper.thread = none)
    (unused : state.allocated sleeper.node = false)
    (isAttached : state.world.attached sleeper.thread = true) :
    Fits platform next (Function.update queues cpu
      (StableInsertion.insert Sleeper.key sleeper (queues cpu))) := by
  have fresh : ∀ other, ∀ old ∈ queues other, old.node ≠ sleeper.node := by
    intro other old present same
    rw [← same, fits.allocated other old present] at unused
    cases unused
  have members : ∀ other old,
      old ∈ Function.update queues cpu (StableInsertion.insert Sleeper.key sleeper (queues cpu))
        other → old = sleeper ∨ old ∈ queues other := by
    intro other old present
    rw [Function.update_apply] at present
    split at present
    · rename_i same
      rw [same]
      exact StableInsertion.mem_insert.mp present
    · exact .inr present
  refine ⟨enters.grounded, fun other => ?_, ?_, ?_, ?_⟩
  · by_cases same : other = cpu
    · subst same
      rw [Function.update_self]
      exact fits.represents_insert enters onCpu number notZero notCalled unused isAttached
    · have represents := fits.represents other
      rw [Function.update_of_ne same]
      refine represents.frame (by rw [enters.otherTails other same]) ?_ ?_ ?_ ?_
      · intro old present
        refine enters.otherNodes _ (fresh other old present) fun alsoHere => ?_
        obtain ⟨here, isHere, sameNode⟩ := List.mem_map.mp alsoHere
        have sameSleeper := fits.apart cpu here isHere other old present sameNode
        have onOther := (represents.called present).2
        rw [← sameSleeper, ((fits.represents cpu).called isHere).2] at onOther
        exact same onOther.symm
      · intro old present
        exact enters.stamps _ (fits.grounded.blocked _ _ (represents.called present).1).1.attached
      · intro thread call onOther
        rw [enters.calls, Function.update_apply]
        split
        · rename_i sameThread
          subst sameThread
          rw [notCalled]
          constructor
          · rintro ⟨rfl⟩
            exact absurd (onOther.symm.trans onCpu) same
          · intro none
            cases none
        · exact Iff.rfl
      · rw [enters.timerTicks, Function.update_of_ne same]
  · intro thread call called
    rw [enters.calls, Function.update_apply] at called
    rw [enters.total]
    split at called
    · obtain rfl := Option.some.inj called
      omega
    · have before := fits.numbered thread call called
      omega
  · intro other old present
    rw [enters.allocated, Function.update_apply]
    split
    · rfl
    · rename_i different
      rcases members other old present with rfl | isOld
      · exact absurd rfl different
      · exact fits.allocated other old isOld
  · intro one left isLeft other right isRight same
    rcases members one left isLeft with rfl | oldLeft
    · rcases members other right isRight with rfl | oldRight
      · rfl
      · exact absurd same.symm (fresh other right oldRight)
    · rcases members other right isRight with rfl | oldRight
      · exact absurd same (fresh one left oldLeft)
      · exact fits.apart one left oldLeft other right oldRight same

/-- A call of `sleep` puts the caller into the list of its CPU. -/
theorem Fits.sleep {err : ErrCode} (fits : Fits platform state queues)
    (allowed : Allowed state (.sleep cpu period block rounds))
    (done : Sleep.sleep platform state cpu period block rounds = some (next, err)) :
    block = none ∧ next = state ∨
      ∃ thread node, (state.world.state.machines cpu).fsBase = some thread ∧ block = some node ∧
        next.calls = Function.update state.calls thread (some (state.call cpu period)) ∧
        Fits platform next (Function.update queues cpu (StableInsertion.insert Sleeper.key
          ⟨node, thread, state.call cpu period⟩ (queues cpu))) := by
  obtain ⟨started, noOverflow, unused, below⟩ := allowed
  obtain ⟨thread, current, done⟩ := Option.bind_eq_some_iff.mp done
  cases block with
  | none =>
      obtain ⟨rfl, -⟩ := Prod.mk.inj (Option.some.inj done)
      exact .inl ⟨rfl, rfl⟩
  | some node =>
      right
      refine ⟨thread, node, current, rfl, ?_⟩
      obtain ⟨linked, inserted, done⟩ := Option.bind_eq_some_iff.mp done
      obtain ⟨final, paused, done⟩ := Option.bind_eq_some_iff.mp done
      obtain ⟨rfl, -⟩ := Prod.mk.inj (Option.some.inj done)
      let sleeper : Sleeper := ⟨node, thread, state.call cpu period⟩
      have enters : Enters platform state final cpu sleeper (queues cpu) :=
        fits.enters rfl rfl (unused node rfl) current (below thread current) inserted paused
      obtain ⟨summary, refines, invariant⟩ := fits.grounded.sound
      exact ⟨enters.calls, fits.fallAsleep enters rfl rfl (state.call_deadline started noOverflow)
        (fits.grounded.calls_of_fsBase current) (unused node rfl)
        (Scheduler.of_fsBase refines invariant current).1⟩

/-! ## The calls return -/

/-- The loop needs no more rounds than there are nodes in the list. -/
theorem Fits.exists_insertNode (fits : Fits platform state queues)
    (unused : state.allocated node = false) (runs : state.world.Runs platform cpu)
    (deadline : BitVec 64) :
    ∃ linked, Sleep.insertNode platform (state.prepare cpu node deadline) cpu node
      (queues cpu).length = some linked := by
  have fresh : ∀ other ∈ queues cpu, other.node ≠ node := by
    intro other present same
    rw [← same, fits.allocated cpu other present] at unused
    cases unused
  have chain : Chain (links (state.prepare cpu node deadline).nodes)
      ((state.prepare cpu node deadline).sleeping cpu).tail ((queues cpu).map Sleeper.node) := by
    refine (fits.represents cpu).chain.congr fun cell present => ?_
    obtain ⟨other, isMember, rfl⟩ := List.mem_map.mp present
    rw [links, links, State.prepare_nodes, if_neg (fresh other isMember)]
  cases first : isFirst (state.prepare cpu node deadline) cpu
      ((state.prepare cpu node deadline).nodes node).ticks with
  | true =>
      obtain ⟨world, stepped⟩ := Scheduler.World.exists_step_setTimerTicks runs
        (((state.prepare cpu node deadline).setNode node
          ({ · with next := ((state.prepare cpu node deadline).sleeping cpu).tail })).nodes
            node).ticks
      rw [Sleep.insertNode, if_pos first]
      exact ⟨_, act_eq_some_iff.mpr ⟨world, stepped, rfl⟩⟩
  | false =>
      rw [Sleep.insertNode, if_neg (by simp [first])]
      cases isQueue : queues cpu with
      | nil =>
          rw [isQueue] at chain
          simp [isFirst, Chain.nil_iff.mp chain] at first
      | cons head rest =>
          rw [isQueue] at chain
          obtain ⟨last, found⟩ : ∃ last,
              lastNotLater (state.prepare cpu node deadline).nodes
                ((state.prepare cpu node deadline).nodes node).ticks (head :: rest).length
                head.node = some last :=
            exists_lastNotLater _ (by simp) chain.2
          rw [chain.1]
          simp only [Option.bind_eq_bind, Option.bind_some, found]
          exact ⟨_, rfl⟩

/-- `sleep` returns if its loop may take as many rounds as there are sleepers. -/
theorem Fits.exists_sleep (fits : Fits platform state queues)
    (runs : state.world.Runs platform cpu) {thread : Address}
    (current : (state.world.state.machines cpu).fsBase = some thread)
    (allowed : Allowed state (.sleep cpu period block (queues cpu).length)) :
    ∃ next err, Sleep.sleep platform state cpu period block (queues cpu).length =
      some (next, err) := by
  obtain ⟨-, -, unused, below⟩ := allowed
  simp only [Sleep.sleep, current, Option.bind_eq_bind, Option.bind_some]
  cases block with
  | none => exact ⟨state, .errOutOfMemory, rfl⟩
  | some node =>
      let call := state.call cpu period
      obtain ⟨linked, inserted⟩ := fits.exists_insertNode (unused node rfl) runs call.deadline
      have prepared := state.prepare_nodes cpu node call.deadline
      obtain ⟨-, -, grounded, -, -, worldLinked⟩ :=
        fits.insertNode ⟨node, thread, call⟩ (state.prepare cpu node call.deadline)
          (unused node rfl) rfl rfl rfl (by rw [prepared, if_pos rfl])
          (fun other different => by rw [prepared, if_neg different]) inserted
      have currentLinked : (linked.world.state.machines cpu).fsBase = some thread := by
        rw [worldLinked]
        exact current
      have runsLinked : linked.world.Runs platform cpu := ⟨runs.1, by
        rw [worldLinked]
        exact runs.2⟩
      obtain ⟨summary, refines, invariant⟩ := grounded.sound
      obtain ⟨world, stepped, -⟩ := Scheduler.World.exists_step_pauseThis
        (some ((linked.record thread cpu call.deadline).sleeping cpu).lock) refines invariant
        grounded.small runsLinked currentLinked (below thread current)
      obtain ⟨final, paused⟩ : ∃ final, (linked.record thread cpu call.deadline).act platform
          (.pauseThis cpu (some ((linked.record thread cpu call.deadline).sleeping cpu).lock)) =
            some final :=
        ⟨_, act_eq_some_iff.mpr ⟨world, stepped, rfl⟩⟩
      refine ⟨final, .errNone, ?_⟩
      refine Option.bind_eq_some_iff.mpr ⟨linked, inserted, ?_⟩
      exact Option.bind_eq_some_iff.mpr ⟨final, paused, rfl⟩

end FallAsleep

end Sleep
end ToyKernel
