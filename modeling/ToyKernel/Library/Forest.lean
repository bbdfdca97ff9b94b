import Mathlib.Data.Fintype.EquivFin
import Mathlib.Logic.Relation

/-!
# Forests and cycles of a relation

A relation is a forest below its roots when no node that the roots lead to has two parents
and no root has one.  Of two nodes above a third one is then above the other, and no node is
above itself.  On finitely many nodes, having no cycle below a node is the same as having no
infinite path from it.
-/

namespace ToyKernel

open Relation

variable {Node : Type*} {edge : Node → Node → Prop} {root : Node → Prop}

/-- The nodes that the edges lead to from the roots. -/
def Below (edge : Node → Node → Prop) (root : Node → Prop) (node : Node) : Prop :=
  ∃ start, root start ∧ ReflTransGen edge start node

namespace Below

theorem of_root {node : Node} (isRoot : root node) : Below edge root node :=
  ⟨node, isRoot, .refl⟩

theorem trans {node later : Node} (below : Below edge root node)
    (path : ReflTransGen edge node later) : Below edge root later := by
  obtain ⟨start, isRoot, reaches⟩ := below
  exact ⟨start, isRoot, reaches.trans path⟩

theorem step {node later : Node} (below : Below edge root node)
    (next : edge node later) : Below edge root later :=
  below.trans (.single next)

end Below

/-- Below the roots, no node has two parents and no root has one. -/
structure IsForest (edge : Node → Node → Prop) (root : Node → Prop) : Prop where
  oneParent : ∀ {left right node}, Below edge root left → Below edge root right →
    edge left node → edge right node → left = right
  rootsFirst : ∀ {parent node}, Below edge root parent → edge parent node → ¬ root node

namespace IsForest

variable {left right node child other : Node}

/-- Of two nodes above a third, one is above the other. -/
theorem comparable (forest : IsForest edge root) (leftBelow : Below edge root left)
    (rightBelow : Below edge root right) (leftPath : ReflTransGen edge left node)
    (rightPath : ReflTransGen edge right node) :
    ReflTransGen edge left right ∨ ReflTransGen edge right left := by
  induction leftPath generalizing right with
  | refl => exact Or.inr rightPath
  | tail earlier last inductionHypothesis =>
      rcases rightPath.cases_tail with same | ⟨parent, rightEarlier, rightLast⟩
      · subst same
        exact Or.inl (earlier.tail last)
      · have same := forest.oneParent (leftBelow.trans earlier)
          (rightBelow.trans rightEarlier) last rightLast
        subst same
        exact inductionHypothesis rightBelow rightEarlier

/-- No node of a forest is above itself. -/
theorem acyclic (forest : IsForest edge root) (below : Below edge root node) :
    ¬ TransGen edge node node := by
  obtain ⟨start, isRoot, path⟩ := below
  induction path with
  | refl =>
      intro cycle
      obtain ⟨parent, path, last⟩ := TransGen.tail'_iff.mp cycle
      exact forest.rootsFirst ((Below.of_root isRoot).trans path) last isRoot
  | tail earlier last inductionHypothesis =>
      rename_i parent node
      intro cycle
      obtain ⟨before, path, closing⟩ := TransGen.tail'_iff.mp cycle
      have parentBelow : Below edge root parent := ⟨start, isRoot, earlier⟩
      have same := forest.oneParent parentBelow ((parentBelow.step last).trans path) last
        closing
      subst same
      exact inductionHypothesis (TransGen.head' last path)

/-- A node above one of its siblings, or above a root next to it, is that node. -/
theorem eq_of_path_sibling (forest : IsForest edge root) (below : Below edge root node)
    (first : edge node child) (second : edge node other)
    (path : ReflTransGen edge child other) : child = other := by
  rcases path.cases_tail with same | ⟨parent, earlier, last⟩
  · exact same.symm
  · have same := forest.oneParent below ((below.step first).trans earlier) second last
    subst same
    exact absurd (TransGen.head' first earlier) (forest.acyclic below)

theorem eq_of_path_root (forest : IsForest edge root) (below : Below edge root node)
    (isRoot : root other) (path : ReflTransGen edge node other) : node = other := by
  rcases path.cases_tail with same | ⟨parent, earlier, last⟩
  · exact same.symm
  · exact absurd isRoot (forest.rootsFirst (below.trans earlier) last)

/-- Two children of a node have nothing in common below them. -/
theorem disjoint_children (forest : IsForest edge root) (below : Below edge root node)
    (first : edge node child) (second : edge node other) (distinct : child ≠ other)
    {later : Node} (path : ReflTransGen edge child later) :
    ¬ ReflTransGen edge other later := by
  intro otherPath
  rcases forest.comparable (below.step first) (below.step second) path otherPath with
    above | above
  · exact distinct (forest.eq_of_path_sibling below first second above)
  · exact distinct (forest.eq_of_path_sibling below second first above).symm

/-- Two roots have nothing in common below them. -/
theorem disjoint_roots (forest : IsForest edge root) (isRoot : root node)
    (otherRoot : root other) (distinct : node ≠ other) {later : Node}
    (path : ReflTransGen edge node later) : ¬ ReflTransGen edge other later := by
  intro otherPath
  rcases forest.comparable (Below.of_root isRoot) (Below.of_root otherRoot) path otherPath with
    above | above
  · exact distinct (forest.eq_of_path_root (Below.of_root isRoot) otherRoot above)
  · exact distinct (forest.eq_of_path_root (Below.of_root otherRoot) isRoot above).symm

end IsForest

/-- A node from which all paths end is above no cycle. -/
theorem not_cycle_of_acc {node later : Node}
    (ends : Acc (fun child parent => edge parent child) node)
    (path : ReflTransGen edge node later) : ¬ TransGen edge later later := by
  induction ends generalizing later with
  | intro node _ inductionHypothesis =>
      intro cycle
      rcases path.cases_head with same | ⟨child, first, rest⟩
      · subst same
        obtain ⟨child, first, rest⟩ := TransGen.head'_iff.mp cycle
        exact inductionHypothesis child first rest cycle
      · exact inductionHypothesis child first rest cycle

/-- On finitely many nodes, all paths from a node end when it is above no cycle. -/
theorem acc_of_not_cycle [Finite Node] {node : Node}
    (acyclic : ∀ later, ReflTransGen edge node later → ¬ TransGen edge later later) :
    Acc (fun child parent => edge parent child) node := by
  let Reached := {later // ReflTransGen edge node later}
  have finite : Finite Reached := Finite.of_injective Subtype.val Subtype.val_injective
  let under : Reached → Reached → Prop := fun lower upper => TransGen edge upper.1 lower.1
  have transitive : IsTrans Reached under := ⟨fun _ _ _ left right => right.trans left⟩
  have irreflexive : Std.Irrefl under := ⟨fun later => acyclic later.1 later.2⟩
  have wellFounded := Finite.wellFounded_of_trans_of_irrefl under
  have all (later : Reached) : Acc (fun child parent => edge parent child) later.1 := by
    induction wellFounded.apply later with
    | intro later _ inductionHypothesis =>
        constructor
        intro child next
        exact inductionHypothesis ⟨child, later.2.tail next⟩ (.single next)
  exact all ⟨node, .refl⟩

end ToyKernel
