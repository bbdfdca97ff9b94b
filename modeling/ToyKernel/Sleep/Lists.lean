import ToyKernel.Sleep.FallAsleep

/-!
# The lists as chains of blocks

What the lists of the CPUs are without regard to the calls in them: chains of different
blocks of the pools.
-/

namespace ToyKernel
namespace Sleep

open Scheduler (Platform)

/-- The lists of the CPUs are chains of different blocks of the pools. -/
structure Chained (state : State) (cells : Nat → List Address) : Prop where
  chain : ∀ cpu, Chain (links state.nodes) (state.sleeping cpu).tail (cells cpu)
  nodup : ∀ cpu, (cells cpu).Nodup
  allocated : ∀ cpu, ∀ node ∈ cells cpu, state.allocated node = true
  apart : ∀ cpu other, cpu ≠ other → ∀ node ∈ cells cpu, node ∉ cells other

section Chained

variable {platform : Platform} {state next : State} {cells : Nat → List Address} {cpu : Nat}
  {node : Address} {rest : List Address} {action : Scheduler.Action}

theorem Chained.congr (chained : Chained state cells)
    (sameTails : ∀ cpu, (next.sleeping cpu).tail = (state.sleeping cpu).tail)
    (sameNodes : ∀ cpu, ∀ node ∈ cells cpu, next.nodes node = state.nodes node)
    (sameBlocks : ∀ cpu, ∀ node ∈ cells cpu, next.allocated node = state.allocated node) :
    Chained next cells where
  chain cpu := by
    rw [sameTails]
    refine (chained.chain cpu).congr fun node present => ?_
    rw [links, links, sameNodes cpu node present]
  nodup := chained.nodup
  allocated cpu node present := by
    rw [sameBlocks cpu node present]
    exact chained.allocated cpu node present
  apart := chained.apart

/-- No list notices a step of the scheduler. -/
theorem Chained.act (chained : Chained state cells)
    (acted : state.act platform action = some next) : Chained next cells := by
  obtain ⟨world, -, rfl⟩ := act_eq_some_iff.mp acted
  exact chained.congr (fun _ => rfl) (fun _ _ _ => rfl) fun _ _ _ => rfl

/-- A block that the pool hands out is in no list. -/
theorem Chained.absent (chained : Chained state cells) (unused : state.allocated node = false)
    (other : Nat) : node ∉ cells other := by
  intro present
  rw [chained.allocated other node present] at unused
  cases unused

/-- Preparing an unused block changes no list. -/
theorem Chained.prepare (chained : Chained state cells) (unused : state.allocated node = false)
    (deadline : BitVec 64) : Chained (state.prepare cpu node deadline) cells := by
  have fresh : ∀ other, ∀ cell ∈ cells other, cell ≠ node := fun other cell present same =>
    chained.absent unused other (same ▸ present)
  refine chained.congr (fun _ => rfl) (fun other cell present => ?_) fun other cell present => ?_
  · rw [State.prepare_nodes, if_neg (fresh other cell present)]
  · exact Function.update_of_ne (fresh other cell present) ..

/-- The lists with a new node in one of them. -/
theorem Chained.linked {linked : State} (chained : Chained state cells)
    (absent : ∀ other, node ∉ cells other) (used : state.allocated node = true)
    (isLinked : Linked state linked cpu node (cells cpu)) :
    Chained linked (Function.update cells cpu
      (StableInsertion.insert (ticksOf state.nodes) node (cells cpu))) := by
  have members : ∀ other, ∀ cell ∈ Function.update cells cpu
      (StableInsertion.insert (ticksOf state.nodes) node (cells cpu)) other,
      cell ∈ cells other ∨ cell = node ∧ other = cpu := by
    intro other cell present
    rw [Function.update_apply] at present
    split at present
    · rename_i same
      rw [same]
      exact (StableInsertion.mem_insert.mp present).symm.imp_right fun isNew => ⟨isNew, rfl⟩
    · exact .inl present
  constructor
  · intro other
    rw [Function.update_apply]
    split
    · rename_i same
      rw [same]
      exact isLinked.chain
    · rename_i different
      rw [isLinked.otherTails other different]
      refine (chained.chain other).congr fun cell present => ?_
      have notNode : cell ≠ node := fun same => absent other (same ▸ present)
      rw [links, links, isLinked.others cell notNode
        (chained.apart other cpu different cell present)]
  · intro other
    rw [Function.update_apply]
    split
    · rw [StableInsertion.perm_insert.nodup_iff, List.nodup_cons]
      exact ⟨absent cpu, chained.nodup cpu⟩
    · exact chained.nodup other
  · intro other cell present
    rw [isLinked.allocated]
    rcases members other cell present with isOld | ⟨rfl, -⟩
    · exact chained.allocated other cell isOld
    · exact used
  · intro one other different cell isOne isOther
    rcases members one cell isOne with oldOne | ⟨isNew, here⟩
    · rcases members other cell isOther with oldOther | ⟨isNew, -⟩
      · exact chained.apart one other different cell oldOne oldOther
      · exact absent one (isNew ▸ oldOne)
    · rcases members other cell isOther with oldOther | ⟨-, there⟩
      · exact absent other (isNew ▸ oldOther)
      · exact different (here.trans there.symm)

/-- The lists after a call of `sleep` has linked its node. -/
theorem Chained.insertNode {linked : State} {rounds : Nat} (chained : Chained state cells)
    (unused : state.allocated node = false) (deadline : BitVec 64)
    (inserted : Sleep.insertNode platform (state.prepare cpu node deadline) cpu node rounds =
      some linked) :
    Linked (state.prepare cpu node deadline) linked cpu node (cells cpu) ∧
      Chained linked (Function.update cells cpu
        (StableInsertion.insert (ticksOf (state.prepare cpu node deadline).nodes) node
          (cells cpu))) := by
  have prepared : Chained (state.prepare cpu node deadline) cells :=
    chained.prepare unused deadline
  have isLinked : Linked (state.prepare cpu node deadline) linked cpu node (cells cpu) := by
    cases first : isFirst (state.prepare cpu node deadline) cpu
        ((state.prepare cpu node deadline).nodes node).ticks with
    | true =>
        exact (insertNode_first (prepared.chain cpu) (chained.absent unused cpu) first
          inserted).1
    | false =>
        exact (insertNode_behind (prepared.chain cpu) (prepared.nodup cpu)
          (chained.absent unused cpu) first inserted).1
  exact ⟨isLinked,
    prepared.linked (chained.absent unused) (Function.update_self ..) isLinked⟩

/-- The lists without the first node of one of them. -/
theorem Chained.pop (chained : Chained state cells) (isCells : cells cpu = node :: rest) :
    Chained (state.setTail cpu (state.nodes node).next) (Function.update cells cpu rest) ∧
      ∀ other, node ∉ Function.update cells cpu rest other := by
  have chain := chained.chain cpu
  have nodup := chained.nodup cpu
  rw [isCells] at chain nodup
  have members : ∀ other, ∀ cell ∈ Function.update cells cpu rest other, cell ∈ cells other := by
    intro other cell present
    rw [Function.update_apply] at present
    split at present
    · rename_i same
      rw [same, isCells]
      exact List.mem_cons_of_mem node present
    · exact present
  refine ⟨⟨fun other => ?_, fun other => ?_, ?_, ?_⟩, fun other present => ?_⟩
  · by_cases same : other = cpu
    · rw [same]
      simp only [State.setTail, Function.update_self]
      exact chain.2
    · simp only [State.setTail, Function.update_of_ne same]
      exact chained.chain other
  · rw [Function.update_apply]
    split
    · exact (List.nodup_cons.mp nodup).2
    · exact chained.nodup other
  · exact fun other cell present => chained.allocated other cell (members other cell present)
  · exact fun one other different cell isOne isOther =>
      chained.apart one other different cell (members one cell isOne) (members other cell isOther)
  · by_cases same : other = cpu
    · rw [same, Function.update_self] at present
      exact (List.nodup_cons.mp nodup).1 present
    · have inFirst : node ∈ cells cpu := isCells ▸ List.mem_cons_self
      exact chained.apart cpu other (Ne.symm same) node inFirst (members other node present)

end Chained

end Sleep
end ToyKernel
