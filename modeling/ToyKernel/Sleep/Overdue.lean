import ToyKernel.Sleep.Timers

/-!
# Sleepers that are overdue

A timer interrupt wakes up at most one sleeper of its CPU, and it does so only if the timer
of the CPU has expired.  When the deadlines of several sleepers have come, all but one of
them are left behind.
-/

namespace ToyKernel
namespace Sleep

open Scheduler (Platform)

namespace State

/-- The sleepers of a list whose deadlines have come at the timer interrupt of a CPU. -/
def due (platform : Platform) (state : State) (cpu : Nat) (cells : List Address) :
    List Address :=
  cells.filter fun node => (state.nodes node).ticks ≤ state.tickAt platform cpu

end State

/-- The lists of the CPUs are chains of blocks of the pools, sorted by deadline. -/
structure Ordered (state : State) (cells : Nat → List Address) : Prop where
  chained : Chained state cells
  sorted : ∀ cpu, (cells cpu).Pairwise fun left right =>
    ticksOf state.nodes left ≤ ticksOf state.nodes right

section Ordered

variable {platform : Platform} {state next : State} {cells : Nat → List Address}
  {list cpu rounds : Nat} {node : Address} {action : Scheduler.Action}

theorem Ordered.act (ordered : Ordered state cells)
    (acted : state.act platform action = some next) : Ordered next cells := by
  refine ⟨ordered.chained.act acted, ?_⟩
  obtain ⟨world, -, rfl⟩ := act_eq_some_iff.mp acted
  exact ordered.sorted

/-- The histories do not matter to the lists. -/
theorem Ordered.record (ordered : Ordered state cells) (thread : Address)
    (deadline : BitVec 64) : Ordered (state.record thread list deadline) cells :=
  ⟨ordered.chained.congr (fun _ => rfl) (fun _ _ _ => rfl) fun _ _ _ => rfl, ordered.sorted⟩

/-! ## Falling asleep -/

/-- The list with the new node is sorted. -/
theorem Ordered.linked {linked : State} (ordered : Ordered state cells)
    (absent : ∀ other, node ∉ cells other) (used : state.allocated node = true)
    (isLinked : Linked state linked list node (cells list)) :
    Ordered linked (Function.update cells list
      (StableInsertion.insert (ticksOf state.nodes) node (cells list))) := by
  refine ⟨ordered.chained.linked absent used isLinked, fun other => ?_⟩
  have sameTicks : ticksOf linked.nodes = ticksOf state.nodes := by
    funext cell
    rw [ticksOf, ticksOf, isLinked.ticks]
  rw [sameTicks, Function.update_apply]
  split
  · refine StableInsertion.pairwise_insert (fun _ _ => id) (ordered.sorted list) ?_ ?_
    · exact fun _ _ notLater => notLater
    · exact fun _ _ later => le_of_lt later
  · exact ordered.sorted other

theorem Ordered.prepare (ordered : Ordered state cells) (unused : state.allocated node = false)
    (deadline : BitVec 64) : Ordered (state.prepare cpu node deadline) cells := by
  refine ⟨ordered.chained.prepare unused deadline, fun other => ?_⟩
  have fresh : ∀ cell ∈ cells other,
      ticksOf (state.prepare cpu node deadline).nodes cell = ticksOf state.nodes cell := by
    intro cell present
    have different : cell ≠ node :=
      fun same => ordered.chained.absent unused other (same ▸ present)
    rw [ticksOf, ticksOf, State.prepare_nodes, if_neg different]
  refine (ordered.sorted other).imp_of_mem fun isLeft isRight notLater => ?_
  rw [fresh _ isLeft, fresh _ isRight]
  exact notLater

/-- A call of `sleep` on any CPU keeps all lists in order. -/
theorem Ordered.sleepLocked {period : BitVec 64} {block : Option Address} {err : ErrCode}
    (ordered : Ordered state cells) (unused : ∀ node ∈ block, state.allocated node = false)
    (done : sleepLocked platform state list cpu period block rounds = some (next, err)) :
    ∃ cells', Ordered next cells' := by
  obtain ⟨thread, -, done⟩ := Option.bind_eq_some_iff.mp done
  cases block with
  | none =>
      obtain ⟨rfl, -⟩ := Prod.mk.inj (Option.some.inj done)
      exact ⟨cells, ordered⟩
  | some node =>
      obtain ⟨linked, inserted, done⟩ := Option.bind_eq_some_iff.mp done
      obtain ⟨final, paused, done⟩ := Option.bind_eq_some_iff.mp done
      obtain ⟨rfl, -⟩ := Prod.mk.inj (Option.some.inj done)
      have absent := ordered.chained.absent (unused node rfl)
      have prepared : Ordered (state.prepare cpu node (state.world.state.ticks +
          period / BitVec.ofNat 64 configSchedulerTickInterval)) cells :=
        ordered.prepare (unused node rfl) _
      have isLinked := insertInto_linked (prepared.chained.chain list)
        (prepared.chained.nodup list) (absent list) inserted
      have orderedLinked := prepared.linked absent (Function.update_self ..) isLinked
      exact ⟨_, (orderedLinked.record thread _).act paused⟩

/-! ## Waking up -/

theorem Ordered.timerInterrupt (ordered : Ordered state cells)
    (done : Sleep.timerInterrupt platform state cpu = some next) :
    ∃ cells', Ordered next cells' := by
  obtain ⟨sameNodes, outcome⟩ := ordered.chained.timerInterrupt done
  have same : ∀ other, (cells other).Pairwise fun left right =>
      ticksOf next.nodes left ≤ ticksOf next.nodes right := by
    rw [sameNodes]
    exact ordered.sorted
  cases outcome with
  | panicked _ kept => exact ⟨cells, kept, same⟩
  | wakes _ _ popped =>
      refine ⟨_, popped, fun other => ?_⟩
      rw [Function.update_apply]
      split
      · exact (same cpu).tail
      · exact same other
  | quiet _ _ kept => exact ⟨cells, kept, same⟩

end Ordered

namespace Migrating

variable {platform : Platform} {state next : Migrating}

end Migrating

end Sleep
end ToyKernel
