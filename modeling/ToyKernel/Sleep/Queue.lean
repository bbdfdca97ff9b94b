import ToyKernel.Library.Chain
import ToyKernel.Library.StableInsertion
import ToyKernel.Sleep.Defs

/-!
# The list of a CPU

A list of nodes represents the calls of the threads that sleep on a CPU.  `sleep` inserts
a node at the place of its deadline, behind the nodes with the same one.
-/

namespace ToyKernel
namespace Sleep

open Scheduler (Platform World)

/-- The links of the nodes. -/
def links (nodes : Address → SleepNode) (node : Address) : Option Address := (nodes node).next

/-- The deadlines of the nodes. -/
def ticksOf (nodes : Address → SleepNode) (node : Address) : Nat := (nodes node).ticks.toNat

/-! ## The loop of `sleep` -/

section Loop

variable {nodes : Address → SleepNode} {ticks : BitVec 64} {rounds : Nat} {prev last : Address}
  {cells : List Address}

/-- The loop ends at the last of the nodes that stay in front. -/
theorem lastNotLater_spec (chain : Chain (links nodes) (nodes prev).next cells)
    (found : lastNotLater nodes ticks rounds prev = some last) :
    ∃ front, prev :: StableInsertion.notLater (ticksOf nodes) ticks.toNat cells =
      front ++ [last] := by
  induction rounds generalizing prev cells with
  | zero => cases found
  | succ rounds inductionHypothesis =>
      simp only [lastNotLater] at found
      cases cells with
      | nil =>
          rw [Chain.nil_iff.mp chain] at found
          obtain rfl := Option.some.inj found
          exact ⟨[], rfl⟩
      | cons next cells =>
          rw [chain.1] at found
          simp only at found
          split at found
          · rename_i notLater
            have small : ticksOf nodes next ≤ ticks.toNat := notLater
            obtain ⟨front, split⟩ := inductionHypothesis chain.2 found
            rw [StableInsertion.notLater_cons small, split]
            exact ⟨prev :: front, rfl⟩
          · rename_i later
            have large : ticks.toNat < ticksOf nodes next := Nat.not_le.mp later
            obtain rfl := Option.some.inj found
            rw [StableInsertion.notLater_cons_of_lt large]
            exact ⟨[], rfl⟩

/-- The loop ends in as many rounds as there are nodes. -/
theorem exists_lastNotLater (ticks : BitVec 64) (enough : cells.length < rounds)
    (chain : Chain (links nodes) (nodes prev).next cells) :
    ∃ last, lastNotLater nodes ticks rounds prev = some last := by
  induction rounds generalizing prev cells with
  | zero => omega
  | succ rounds inductionHypothesis =>
      simp only [lastNotLater]
      cases cells with
      | nil =>
          rw [Chain.nil_iff.mp chain]
          exact ⟨prev, rfl⟩
      | cons next cells =>
          rw [chain.1]
          simp only
          split
          · rw [List.length_cons] at enough
            exact inductionHypothesis (by omega) chain.2
          · exact ⟨prev, rfl⟩

end Loop

/-! ## Insertion -/

namespace State

variable (state : State) (node : Address) (change : SleepNode → SleepNode)

theorem setNode_nodes (other : Address) :
    (state.setNode node change).nodes other =
      if other = node then change (state.nodes node) else state.nodes other :=
  Function.update_apply ..

/-- An assignment of a link. -/
theorem links_setNode_next (next : Option Address) :
    links (state.setNode node ({ · with next := next })).nodes =
      Function.update (links state.nodes) node next := by
  funext other
  simp only [links, setNode_nodes, Function.update_apply]
  split
  · rfl
  · rfl

/-- It changes nothing else in any node. -/
theorem setNode_next_thread (next : Option Address) (other : Address) :
    ((state.setNode node ({ · with next := next })).nodes other).thread =
      (state.nodes other).thread := by
  rw [setNode_nodes]
  split
  · rename_i same
    rw [same]
  · rfl

theorem setNode_next_ticks (next : Option Address) (other : Address) :
    ((state.setNode node ({ · with next := next })).nodes other).ticks =
      (state.nodes other).ticks := by
  rw [setNode_nodes]
  split
  · rename_i same
    rw [same]
  · rfl

end State

/-- The nodes are linked in the new order, and nothing else about them changes. -/
structure Linked (before after : State) (cpu : Nat) (node : Address) (cells : List Address) :
    Prop where
  chain : Chain (links after.nodes) (after.sleeping cpu).tail
    (StableInsertion.insert (ticksOf before.nodes) node cells)
  otherTails : ∀ other, other ≠ cpu → after.sleeping other = before.sleeping other
  others : ∀ other, other ≠ node → other ∉ cells → after.nodes other = before.nodes other
  threads : ∀ other, (after.nodes other).thread = (before.nodes other).thread
  ticks : ∀ other, (after.nodes other).ticks = (before.nodes other).ticks
  allocated : after.allocated = before.allocated
  total : after.total = before.total

section Insertion

variable {platform : Platform} {state after : State} {cpu rounds : Nat} {node : Address}
  {cells : List Address} {action : Scheduler.Action}

/-- A step of the scheduler leaves the lists alone. -/
theorem act_eq_some_iff : state.act platform action = some after ↔
    ∃ world, state.world.step platform action = some world ∧ after = { state with
      world := world
      calls := fun thread =>
        if (world.state.threads thread).state = .paused then state.calls thread else none } := by
  simp only [State.act, Option.bind_eq_bind, Option.bind_eq_some_iff, Option.some.injEq]
  constructor
  · rintro ⟨world, stepped, same⟩
    exact ⟨world, stepped, same.symm⟩
  · rintro ⟨world, stepped, same⟩
    exact ⟨world, stepped, same.symm⟩

/-- The lists do not notice a step of the scheduler. -/
theorem Linked.act {before : State} (linked : Linked before state cpu node cells)
    (acted : state.act platform action = some after) : Linked before after cpu node cells := by
  obtain ⟨world, -, rfl⟩ := act_eq_some_iff.mp acted
  exact ⟨linked.chain, linked.otherTails, linked.others, linked.threads, linked.ticks,
    linked.allocated, linked.total⟩

/-- The first node to wake up gets in front. -/
theorem linked_first (chain : Chain (links state.nodes) (state.sleeping cpu).tail cells)
    (absent : node ∉ cells) (first : isFirst state cpu (state.nodes node).ticks = true) :
    Linked state ((state.setNode node ({ · with next := (state.sleeping cpu).tail })).setTail cpu
      (some node)) cpu node cells := by
  have smaller : ∀ next ∈ cells.head?, ticksOf state.nodes node < ticksOf state.nodes next := by
    intro next isHead
    rw [← chain.first_eq, Option.mem_def] at isHead
    simp only [isFirst, isHead] at first
    exact BitVec.lt_def.mp (of_decide_eq_true first)
  have pushed := chain.push absent
  rw [← State.links_setNode_next] at pushed
  refine ⟨?_, ?_, ?_, ?_, ?_, rfl, rfl⟩
  · rw [StableInsertion.insert_of_lt smaller]
    simp only [State.setTail, Function.update_self]
    exact pushed
  · exact fun other different => Function.update_of_ne different ..
  · intro other different _
    simp only [State.setTail]
    rw [State.setNode_nodes, if_neg different]
  · exact fun other => State.setNode_next_thread ..
  · exact fun other => State.setNode_next_ticks ..

/-- Any other node gets behind those that do not wake up later. -/
theorem linked_behind {tail prev : Address}
    (chain : Chain (links state.nodes) (state.sleeping cpu).tail cells)
    (nodup : cells.Nodup) (absent : node ∉ cells)
    (notFirst : isFirst state cpu (state.nodes node).ticks = false)
    (isTail : (state.sleeping cpu).tail = some tail)
    (found : lastNotLater state.nodes (state.nodes node).ticks rounds tail = some prev) :
    Linked state ((state.setNode node ({ · with next := (state.nodes prev).next })).setNode prev
      ({ · with next := some node })) cpu node cells := by
  obtain ⟨rest, rfl⟩ : ∃ rest, cells = tail :: rest := by
    cases cells with
    | nil =>
        rw [Chain.nil_iff.mp chain] at isTail
        cases isTail
    | cons first rest =>
        obtain rfl := Option.some.inj (isTail.symm.trans chain.1)
        exact ⟨rest, rfl⟩
  have small : ticksOf state.nodes tail ≤ ticksOf state.nodes node := by
    simp only [isFirst, isTail, decide_eq_false_iff_not] at notFirst
    exact Nat.not_lt.mp notFirst
  obtain ⟨front, split⟩ := lastNotLater_spec chain.2 found
  rw [show (state.nodes node).ticks.toNat = ticksOf state.nodes node from rfl,
    ← StableInsertion.notLater_cons small] at split
  have parts : front ++ prev :: StableInsertion.later (ticksOf state.nodes)
      (ticksOf state.nodes node) (tail :: rest) = tail :: rest := by
    rw [← List.singleton_append, ← List.append_assoc, ← split,
      StableInsertion.notLater_append_later]
  have prevPresent : prev ∈ tail :: rest := by
    rw [← parts]
    simp
  have prevDifferent : prev ≠ node := fun same => absent (same ▸ prevPresent)
  rw [← parts] at chain nodup absent
  have inserted := chain.insert nodup absent
  rw [← State.links_setNode_next, ← State.links_setNode_next] at inserted
  refine ⟨?_, fun _ _ => rfl, ?_, ?_, ?_, rfl, rfl⟩
  · rw [StableInsertion.insert, split, List.append_assoc]
    exact inserted
  · intro other different absentOther
    have differsPrev : other ≠ prev := fun same => absentOther (same ▸ prevPresent)
    rw [State.setNode_nodes, if_neg differsPrev, State.setNode_nodes, if_neg different]
  · intro other
    rw [State.setNode_next_thread, State.setNode_next_thread]
  · intro other
    rw [State.setNode_next_ticks, State.setNode_next_ticks]

/-- The timer is set for a node in front. -/
theorem insertNode_first (chain : Chain (links state.nodes) (state.sleeping cpu).tail cells)
    (absent : node ∉ cells) (first : isFirst state cpu (state.nodes node).ticks = true)
    (done : insertNode platform state cpu node rounds = some after) :
    Linked state after cpu node cells ∧
      ∃ linked : State, linked.world = state.world ∧ linked.calls = state.calls ∧
        linked.act platform (.setTimerTicks cpu (state.nodes node).ticks) = some after := by
  rw [insertNode, if_pos first] at done
  let linked := (state.setNode node ({ · with next := (state.sleeping cpu).tail })).setTail cpu
    (some node)
  have acted : linked.act platform (.setTimerTicks cpu (state.nodes node).ticks) = some after := by
    rw [← State.setNode_next_ticks state node (state.sleeping cpu).tail node]
    exact done
  exact ⟨(linked_first chain absent first).act acted, linked, rfl, rfl, acted⟩

/-- It stays as it is for any other node. -/
theorem insertNode_behind (chain : Chain (links state.nodes) (state.sleeping cpu).tail cells)
    (nodup : cells.Nodup) (absent : node ∉ cells)
    (notFirst : isFirst state cpu (state.nodes node).ticks = false)
    (done : insertNode platform state cpu node rounds = some after) :
    Linked state after cpu node cells ∧ after.world = state.world ∧
      after.calls = state.calls := by
  rw [insertNode, if_neg (by simp [notFirst])] at done
  obtain ⟨tail, isTail, done⟩ := Option.bind_eq_some_iff.mp done
  obtain ⟨prev, found, done⟩ := Option.bind_eq_some_iff.mp done
  obtain rfl := Option.some.inj done
  exact ⟨linked_behind chain nodup absent notFirst isTail found, rfl, rfl⟩

end Insertion

end Sleep
end ToyKernel
