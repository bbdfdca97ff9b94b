import Mathlib.Data.List.Nodup
import Mathlib.Logic.Function.Basic

/-!
# Singly linked chains

`Chain next first nodes` says that following `next` from the pointer `first`
visits exactly `nodes` and then ends.  Cells are of an arbitrary type and the
links are an arbitrary partial function, so the same lemmas serve every record
with a `next` field.
-/

namespace ToyKernel

variable {Cell : Type*}

/-- Following `next` from `first` visits exactly the listed cells. -/
def Chain (next : Cell → Option Cell) : Option Cell → List Cell → Prop
  | first, [] => first = none
  | first, cell :: cells => first = some cell ∧ Chain next (next cell) cells

namespace Chain

variable {next other : Cell → Option Cell} {first : Option Cell}
  {cell : Cell} {cells : List Cell}

@[simp] theorem nil_iff : Chain next first [] ↔ first = none := Iff.rfl

@[simp] theorem cons_iff :
    Chain next first (cell :: cells) ↔
      first = some cell ∧ Chain next (next cell) cells := Iff.rfl

/-- The first pointer of a chain points to its first cell. -/
theorem first_eq (chain : Chain next first cells) : first = cells.head? := by
  cases cells with
  | nil => exact chain
  | cons cell cells => exact chain.1

/-- A chain only depends on the links of its own cells. -/
theorem congr
    (agree : ∀ cell ∈ cells, next cell = other cell)
    (chain : Chain next first cells) : Chain other first cells := by
  induction cells generalizing first with
  | nil => exact chain
  | cons cell cells inductionHypothesis =>
      refine ⟨chain.1, ?_⟩
      rw [← agree cell List.mem_cons_self]
      exact inductionHypothesis
        (fun member present => agree member (List.mem_cons_of_mem _ present))
        chain.2

/-- A first pointer determines at most one chain. -/
theorem unique {left right : List Cell}
    (leftChain : Chain next first left) (rightChain : Chain next first right) :
    left = right := by
  induction left generalizing first right with
  | nil =>
      cases right with
      | nil => rfl
      | cons cell cells =>
          rw [nil_iff.mp leftChain] at rightChain
          exact absurd rightChain.1 (by simp)
  | cons cell cells inductionHypothesis =>
      cases right with
      | nil =>
          rw [nil_iff.mp rightChain] at leftChain
          exact absurd leftChain.1 (by simp)
      | cons second others =>
          have same : cell = second :=
            Option.some.inj (leftChain.1.symm.trans rightChain.1)
          subst same
          rw [inductionHypothesis leftChain.2 rightChain.2]

/-- The links of a cell lead to the rest of the chain. -/
theorem behind {before after : List Cell} (chain : Chain next first (before ++ cell :: after)) :
    Chain next (next cell) after := by
  induction before generalizing first with
  | nil => exact chain.2
  | cons other before inductionHypothesis => exact inductionHypothesis chain.2

variable [DecidableEq Cell]

/-- Linking a fresh cell in front of the first one. -/
theorem push {fresh : Cell} (absent : fresh ∉ cells) (chain : Chain next first cells) :
    Chain (Function.update next fresh first) (some fresh) (fresh :: cells) := by
  refine ⟨rfl, ?_⟩
  rw [Function.update_self]
  refine chain.congr fun member present => ?_
  have different : member ≠ fresh := fun same => absent (same ▸ present)
  rw [Function.update_of_ne different]

/-- Linking a fresh cell behind a cell of the chain. -/
theorem insert {fresh : Cell} {before after : List Cell}
    (nodup : (before ++ cell :: after).Nodup) (absent : fresh ∉ before ++ cell :: after)
    (chain : Chain next first (before ++ cell :: after)) :
    Chain (Function.update (Function.update next fresh (next cell)) cell (some fresh)) first
      (before ++ cell :: fresh :: after) := by
  induction before generalizing first with
  | nil =>
      have differs : cell ≠ fresh := fun same => absent (same ▸ List.mem_cons_self)
      refine ⟨chain.1, ?_, ?_⟩
      · rw [Function.update_self]
      · rw [Function.update_of_ne differs.symm, Function.update_self]
        refine chain.2.congr fun member present => ?_
        have differsCell : member ≠ cell :=
          fun same => (List.nodup_cons.mp nodup).1 (same ▸ present)
        have differsFresh : member ≠ fresh :=
          fun same => absent (same ▸ List.mem_cons_of_mem _ present)
        rw [Function.update_of_ne differsCell, Function.update_of_ne differsFresh]
  | cons other before inductionHypothesis =>
      obtain ⟨notAgain, nodup⟩ := List.nodup_cons.mp nodup
      have differsCell : other ≠ cell := fun same => notAgain (by simp [same])
      have differsFresh : other ≠ fresh := fun same => absent (by simp [same])
      refine ⟨chain.1, ?_⟩
      rw [Function.update_of_ne differsCell, Function.update_of_ne differsFresh]
      exact inductionHypothesis nodup (fun present => absent (List.mem_cons_of_mem _ present))
        chain.2

/-- Linking a fresh cell behind the last one appends it. -/
theorem append_of_last {last fresh : Cell}
    (nodup : cells.Nodup)
    (isLast : cells.getLast? = some last)
    (absent : fresh ∉ cells)
    (chain : Chain next first cells) :
    Chain
      (Function.update (Function.update next fresh none) last (some fresh))
      first (cells ++ [fresh]) := by
  obtain ⟨before, rfl⟩ := List.getLast?_eq_some_iff.mp isLast
  rw [← nil_iff.mp chain.behind, List.append_assoc]
  exact insert nodup absent chain

end Chain
end ToyKernel
