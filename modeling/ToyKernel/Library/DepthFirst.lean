import ToyKernel.Library.Forest
import Mathlib.Data.List.Basic

/-!
# Depth-first walks without a visited set

A walk handles the steps of a node in order; a step has outputs, and may then descend into
another node.  The walk takes a bound on the depth of its recursion and is `none` when it
runs into the bound.  It returns for some bound exactly when all paths from its node end, and
then its outputs are those of the nodes below, each once where these form a forest.
-/

namespace ToyKernel

open Relation

variable {Node Output : Type*}

/-- What a walk does at a node: some outputs, and then possibly a descent. -/
structure WalkStep (Node Output : Type*) where
  outputs : List Output
  descent : Option Node

/-- Handle steps in order, given what a descent does. -/
def walkSteps (descend : Node → Option (List Output)) :
    List (WalkStep Node Output) → Option (List Output)
  | [] => some []
  | step :: steps => do
      let below ← step.descent.elim (some []) descend
      return step.outputs ++ below ++ (← walkSteps descend steps)

/-- Walk through a node and all that its descents lead to. -/
def walk (steps : Node → List (WalkStep Node Output)) : Nat → Node → Option (List Output)
  | 0, _ => none
  | fuel + 1, node => walkSteps (walk steps fuel) (steps node)

/-- A step of the first node descends into the second one. -/
def Descends (steps : Node → List (WalkStep Node Output)) (node child : Node) : Prop :=
  ∃ step ∈ steps node, step.descent = some child

/-- A step of the node has the output. -/
def Outputs (steps : Node → List (WalkStep Node Output)) (node : Node) (output : Output) :
    Prop :=
  ∃ step ∈ steps node, output ∈ step.outputs

section Steps

variable {descend more : Node → Option (List Output)}
  {step : WalkStep Node Output} {first second : List (WalkStep Node Output)}
  {outputs : List Output}

@[simp] theorem walkSteps_nil : walkSteps descend [] = some [] := rfl

/-- The outputs of a first step are followed by those of its descent and of the rest. -/
theorem walkSteps_cons_eq_some :
    walkSteps descend (step :: first) = some outputs ↔
      ∃ below rest, step.descent.elim (some []) descend = some below ∧
        walkSteps descend first = some rest ∧ outputs = step.outputs ++ below ++ rest := by
  simp only [walkSteps, Option.bind_eq_bind, Option.bind_eq_some_iff, Option.pure_def,
    Option.some.injEq]
  constructor
  · rintro ⟨below, descended, rest, walked, rfl⟩
    exact ⟨below, rest, descended, walked, rfl⟩
  · rintro ⟨below, rest, descended, walked, rfl⟩
    exact ⟨below, descended, rest, walked, rfl⟩

/-- Steps in sequence have their outputs in sequence. -/
theorem walkSteps_append :
    walkSteps descend (first ++ second) = do
      let before ← walkSteps descend first
      return before ++ (← walkSteps descend second) := by
  induction first with
  | nil => simp
  | cons step first inductionHypothesis =>
      simp only [List.cons_append, walkSteps, inductionHypothesis]
      cases step.descent.elim (some []) descend <;> cases walkSteps descend first <;>
        cases walkSteps descend second <;> simp

/-- A first step and the rest are handled in sequence. -/
theorem walkSteps_cons :
    walkSteps descend (step :: first) = do
      let before ← walkSteps descend [step]
      return before ++ (← walkSteps descend first) := by
  rw [← walkSteps_append, List.singleton_append]

/-- Steps only depend on what their own descents give. -/
theorem walkSteps_mono (more_eq : ∀ step ∈ first, ∀ child below,
      step.descent = some child → descend child = some below → more child = some below)
    (walked : walkSteps descend first = some outputs) :
    walkSteps more first = some outputs := by
  induction first generalizing outputs with
  | nil => exact walked
  | cons step first inductionHypothesis =>
      obtain ⟨below, rest, descended, restWalked, rfl⟩ := walkSteps_cons_eq_some.mp walked
      refine walkSteps_cons_eq_some.mpr ⟨below, rest, ?_, ?_, rfl⟩
      · cases goes : step.descent with
        | none => simpa [goes] using descended
        | some child =>
            rw [goes] at descended
            exact more_eq step List.mem_cons_self child below goes descended
      · exact inductionHypothesis
          (fun step present => more_eq step (List.mem_cons_of_mem _ present)) restWalked

/-- Steps return exactly when all their descents do. -/
theorem walkSteps_returns_iff :
    (∃ outputs, walkSteps descend first = some outputs) ↔
      ∀ step ∈ first, ∀ child, step.descent = some child →
        ∃ below, descend child = some below := by
  induction first with
  | nil => simp
  | cons step first inductionHypothesis =>
      rw [List.forall_mem_cons, ← inductionHypothesis]
      constructor
      · rintro ⟨outputs, walked⟩
        obtain ⟨below, rest, descended, restWalked, rfl⟩ := walkSteps_cons_eq_some.mp walked
        refine ⟨fun child goes => ⟨below, ?_⟩, rest, restWalked⟩
        simpa [goes] using descended
      · rintro ⟨descends, rest, walked⟩
        cases goes : step.descent with
        | none => exact ⟨_, walkSteps_cons_eq_some.mpr ⟨[], rest, by simp [goes], walked, rfl⟩⟩
        | some child =>
            obtain ⟨below, descended⟩ := descends child goes
            exact ⟨_, walkSteps_cons_eq_some.mpr
              ⟨below, rest, by simpa [goes] using descended, walked, rfl⟩⟩

/-- The step or its descent has the output. -/
def WalkStep.Yields (descend : Node → Option (List Output)) (step : WalkStep Node Output)
    (output : Output) : Prop :=
  output ∈ step.outputs ∨
    ∃ child below, step.descent = some child ∧ descend child = some below ∧ output ∈ below

/-- What a step yields is among its outputs and those of its descent. -/
theorem WalkStep.yields_iff {below : List Output}
    (descended : step.descent.elim (some []) descend = some below) (output : Output) :
    step.Yields descend output ↔ output ∈ step.outputs ∨ output ∈ below := by
  apply or_congr_right
  cases goes : step.descent with
  | none =>
      rw [goes] at descended
      obtain rfl : [] = below := Option.some.inj descended
      simp
  | some child =>
      rw [goes] at descended
      have returns : descend child = some below := descended
      simp [returns]

/-- The outputs of steps are what the steps yield. -/
theorem mem_walkSteps_iff (walked : walkSteps descend first = some outputs)
    (output : Output) :
    output ∈ outputs ↔ ∃ step ∈ first, step.Yields descend output := by
  induction first generalizing outputs with
  | nil =>
      obtain rfl : [] = outputs := Option.some.inj walked
      simp
  | cons step first inductionHypothesis =>
      obtain ⟨below, rest, descended, restWalked, rfl⟩ := walkSteps_cons_eq_some.mp walked
      rw [List.mem_append, List.mem_append, inductionHypothesis restWalked,
        ← WalkStep.yields_iff descended]
      simp only [List.mem_cons, exists_eq_or_imp]

/-- The outputs of steps are distinct when those of each step and its descent are, and no
two steps yield the same. -/
theorem nodup_walkSteps (walked : walkSteps descend first = some outputs)
    (own : ∀ step ∈ first, step.outputs.Nodup)
    (descents : ∀ step ∈ first, ∀ child below, step.descent = some child →
      descend child = some below → below.Nodup ∧ step.outputs.Disjoint below)
    (apart : first.Pairwise fun left right =>
      ∀ output, left.Yields descend output → ¬ right.Yields descend output) :
    outputs.Nodup := by
  induction first generalizing outputs with
  | nil =>
      obtain rfl : [] = outputs := Option.some.inj walked
      exact List.nodup_nil
  | cons step first inductionHypothesis =>
      obtain ⟨below, rest, descended, restWalked, rfl⟩ := walkSteps_cons_eq_some.mp walked
      rw [List.pairwise_cons] at apart
      rw [List.forall_mem_cons] at own descents
      have belowDistinct : below.Nodup ∧ step.outputs.Disjoint below := by
        cases goes : step.descent with
        | none =>
            rw [goes] at descended
            obtain rfl : [] = below := Option.some.inj descended
            exact ⟨List.nodup_nil, List.disjoint_nil_right _⟩
        | some child =>
            rw [goes] at descended
            exact descents.1 child below goes descended
      refine ((own.1.append belowDistinct.1 belowDistinct.2).append
        (inductionHypothesis restWalked own.2 descents.2 apart.2) ?_)
      intro output here later
      rw [List.mem_append, ← WalkStep.yields_iff descended] at here
      obtain ⟨other, present, yields⟩ := (mem_walkSteps_iff restWalked output).mp later
      exact apart.1 other present output here yields

end Steps

variable {steps : Node → List (WalkStep Node Output)} {node : Node} {outputs : List Output}
  {fuel more : Nat}

/-- A larger bound gives the same outputs. -/
theorem walk_mono (enough : fuel ≤ more) (walked : walk steps fuel node = some outputs) :
    walk steps more node = some outputs := by
  induction fuel generalizing node outputs more with
  | zero => exact absurd walked (by simp [walk])
  | succ fuel inductionHypothesis =>
      obtain ⟨more, rfl⟩ := Nat.exists_eq_add_of_le' (Nat.one_le_of_lt enough)
      exact walkSteps_mono
        (fun _ _ _ _ _ => inductionHypothesis (Nat.le_of_succ_le_succ enough)) walked

/-- Where the walk returns, all paths end. -/
theorem acc_of_walk (walked : walk steps fuel node = some outputs) :
    Acc (fun child parent => Descends steps parent child) node := by
  induction fuel generalizing node outputs with
  | zero => exact absurd walked (by simp [walk])
  | succ fuel inductionHypothesis =>
      constructor
      rintro child ⟨step, present, goes⟩
      obtain ⟨below, descended⟩ :=
        walkSteps_returns_iff.mp ⟨outputs, walked⟩ step present child goes
      exact inductionHypothesis descended

/-- Descents that each return for some bound return together for one. -/
theorem exists_walkSteps {list : List (WalkStep Node Output)}
    (returns : ∀ step ∈ list, ∀ child, step.descent = some child →
      ∃ fuel below, walk steps fuel child = some below) :
    ∃ fuel outputs, walkSteps (walk steps fuel) list = some outputs := by
  induction list with
  | nil => exact ⟨0, [], rfl⟩
  | cons step list inductionHypothesis =>
      rw [List.forall_mem_cons] at returns
      obtain ⟨restFuel, rest, restWalked⟩ := inductionHypothesis returns.2
      cases goes : step.descent with
      | none =>
          exact ⟨restFuel, _, walkSteps_cons_eq_some.mpr
            ⟨[], rest, by simp [goes], restWalked, rfl⟩⟩
      | some child =>
          obtain ⟨fuel, below, walked⟩ := returns.1 child goes
          refine ⟨max fuel restFuel, _, walkSteps_cons_eq_some.mpr ⟨below, rest, ?_, ?_, rfl⟩⟩
          · simpa [goes] using walk_mono (le_max_left fuel restFuel) walked
          · exact walkSteps_mono
              (fun _ _ _ _ _ => walk_mono (le_max_right fuel restFuel)) restWalked

/-- Where all paths end, the walk returns for some bound. -/
theorem walk_of_acc (ends : Acc (fun child parent => Descends steps parent child) node) :
    ∃ fuel outputs, walk steps fuel node = some outputs := by
  induction ends with
  | intro node _ inductionHypothesis =>
      have returns : ∀ step ∈ steps node, ∀ child, step.descent = some child →
          ∃ fuel below, walk steps fuel child = some below :=
        fun step present child goes => inductionHypothesis child ⟨step, present, goes⟩
      obtain ⟨fuel, outputs, walked⟩ := exists_walkSteps returns
      exact ⟨fuel + 1, outputs, walked⟩

/-- The outputs of a walk are those of the nodes below. -/
theorem mem_walk_iff (walked : walk steps fuel node = some outputs) (output : Output) :
    output ∈ outputs ↔
      ∃ later, ReflTransGen (Descends steps) node later ∧ Outputs steps later output := by
  induction fuel generalizing node outputs with
  | zero => exact absurd walked (by simp [walk])
  | succ fuel inductionHypothesis =>
      rw [mem_walkSteps_iff walked]
      constructor
      · rintro ⟨step, present, own | ⟨child, below, goes, descended, inBelow⟩⟩
        · exact ⟨node, .refl, step, present, own⟩
        · obtain ⟨later, path, has⟩ := (inductionHypothesis descended).mp inBelow
          exact ⟨later, .head ⟨step, present, goes⟩ path, has⟩
      · rintro ⟨later, path, has⟩
        rcases path.cases_head with same | ⟨child, ⟨step, present, goes⟩, rest⟩
        · subst same
          obtain ⟨step, present, own⟩ := has
          exact ⟨step, present, Or.inl own⟩
        · obtain ⟨below, descended⟩ :=
            walkSteps_returns_iff.mp ⟨outputs, walked⟩ step present child goes
          exact ⟨step, present, Or.inr ⟨child, below, goes, descended,
            (inductionHypothesis descended).mpr ⟨later, rest, has⟩⟩⟩

/-! ### Walks over forests -/

/-- Below the roots the descents are a forest and no output occurs twice. -/
structure StepsForest (steps : Node → List (WalkStep Node Output)) (root : Node → Prop) :
    Prop where
  forest : IsForest (Descends steps) root
  ownDistinct : ∀ {node}, Below (Descends steps) root node →
    ∀ step ∈ steps node, step.outputs.Nodup
  stepsApart : ∀ {node}, Below (Descends steps) root node →
    (steps node).Pairwise fun left right => left.outputs.Disjoint right.outputs ∧
      ∀ child, left.descent = some child → right.descent ≠ some child
  nodesApart : ∀ {left right}, Below (Descends steps) root left →
    Below (Descends steps) root right → left ≠ right →
      ∀ output, Outputs steps left output → ¬ Outputs steps right output

namespace StepsForest

variable {root : Node → Prop}

/-- What two distinct nodes of a forest output is apart, so an output names its node. -/
theorem node_eq (distinct : StepsForest steps root) {left right : Node} {output : Output}
    (leftBelow : Below (Descends steps) root left)
    (rightBelow : Below (Descends steps) root right) (leftHas : Outputs steps left output)
    (rightHas : Outputs steps right output) : left = right := by
  by_contra different
  exact distinct.nodesApart leftBelow rightBelow different output leftHas rightHas

/-- A node and what lies below a child of it have no output in common. -/
theorem not_outputs_below (distinct : StepsForest steps root) {child later : Node}
    {output : Output} (below : Below (Descends steps) root node)
    (first : Descends steps node child) (path : ReflTransGen (Descends steps) child later)
    (has : Outputs steps node output) : ¬ Outputs steps later output := by
  intro laterHas
  have same := distinct.node_eq below ((below.step first).trans path) has laterHas
  subst same
  exact distinct.forest.acyclic below (TransGen.head' first path)

/-- Walks over a forest output nothing twice. -/
theorem nodup_walk (distinct : StepsForest steps root)
    (below : Below (Descends steps) root node) (walked : walk steps fuel node = some outputs) :
    outputs.Nodup := by
  induction fuel generalizing node outputs with
  | zero => exact absurd walked (by simp [walk])
  | succ fuel inductionHypothesis =>
      apply nodup_walkSteps walked (distinct.ownDistinct below)
      · intro step present child childOutputs goes descended
        have first : Descends steps node child := ⟨step, present, goes⟩
        refine ⟨inductionHypothesis (below.step first) descended, ?_⟩
        intro output own inBelow
        obtain ⟨later, path, has⟩ := (mem_walk_iff descended output).mp inBelow
        exact distinct.not_outputs_below below first path ⟨step, present, own⟩ has
      · refine (distinct.stepsApart below).imp_of_mem ?_
        rintro left right leftPresent rightPresent ⟨ownApart, descentsApart⟩ output leftYields
          rightYields
        rcases leftYields with leftOwn | ⟨leftChild, _, leftGoes, leftDescended, leftBelow⟩
        · rcases rightYields with
            rightOwn | ⟨rightChild, _, rightGoes, rightDescended, rightBelow⟩
          · exact ownApart leftOwn rightOwn
          · obtain ⟨later, path, has⟩ := (mem_walk_iff rightDescended output).mp rightBelow
            exact distinct.not_outputs_below below ⟨right, rightPresent, rightGoes⟩ path
              ⟨left, leftPresent, leftOwn⟩ has
        · obtain ⟨leftLater, leftPath, leftHas⟩ :=
            (mem_walk_iff leftDescended output).mp leftBelow
          have leftFirst : Descends steps node leftChild := ⟨left, leftPresent, leftGoes⟩
          rcases rightYields with
            rightOwn | ⟨rightChild, _, rightGoes, rightDescended, rightBelow⟩
          · exact distinct.not_outputs_below below leftFirst leftPath
              ⟨right, rightPresent, rightOwn⟩ leftHas
          · obtain ⟨rightLater, rightPath, rightHas⟩ :=
              (mem_walk_iff rightDescended output).mp rightBelow
            have rightFirst : Descends steps node rightChild := ⟨right, rightPresent, rightGoes⟩
            have same := distinct.node_eq ((below.step leftFirst).trans leftPath)
              ((below.step rightFirst).trans rightPath) leftHas rightHas
            subst same
            refine distinct.forest.disjoint_children below leftFirst rightFirst ?_ leftPath
              rightPath
            intro same
            exact descentsApart leftChild leftGoes (same ▸ rightGoes)

end StepsForest

/-! ### Walks from several roots -/

/-- Walk through the roots in order. -/
def walkRoots (steps : Node → List (WalkStep Node Output)) (fuel : Nat) (roots : List Node) :
    Option (List Output) :=
  walkSteps (walk steps fuel) (roots.map fun root => ⟨[], some root⟩)

variable {roots : List Node}

/-- A first root and the rest are handled in sequence. -/
theorem walkRoots_cons (root : Node) :
    walkRoots steps fuel (root :: roots) = do
      let before ← walk steps fuel root
      return before ++ (← walkRoots steps fuel roots) := by
  rw [walkRoots, List.map_cons, walkSteps]
  rfl

/-- A larger bound gives the same outputs. -/
theorem walkRoots_mono (enough : fuel ≤ more)
    (walked : walkRoots steps fuel roots = some outputs) :
    walkRoots steps more roots = some outputs :=
  walkSteps_mono (fun _ _ _ _ _ => walk_mono enough) walked

/-- What the step of a root yields is what the nodes below the root output. -/
theorem yields_root_iff (walked : walkRoots steps fuel roots = some outputs) {root : Node}
    (present : root ∈ roots) (output : Output) :
    (WalkStep.mk [] (some root)).Yields (walk steps fuel) output ↔
      ∃ later, ReflTransGen (Descends steps) root later ∧ Outputs steps later output := by
  obtain ⟨below, returns⟩ := walkSteps_returns_iff.mp ⟨outputs, walked⟩ ⟨[], some root⟩
    (List.mem_map_of_mem present) root rfl
  rw [← mem_walk_iff returns output]
  simp [WalkStep.Yields, returns]

/-- On finitely many nodes a walk returns exactly when no node below its roots is on a
cycle. -/
theorem walkRoots_returns_iff [Finite Node] :
    (∃ fuel outputs, walkRoots steps fuel roots = some outputs) ↔
      ∀ node, Below (Descends steps) (· ∈ roots) node →
        ¬ TransGen (Descends steps) node node := by
  constructor
  · rintro ⟨fuel, outputs, walked⟩ node ⟨root, present, path⟩
    obtain ⟨below, returns⟩ := walkSteps_returns_iff.mp ⟨outputs, walked⟩ ⟨[], some root⟩
      (List.mem_map_of_mem present) root rfl
    exact not_cycle_of_acc (acc_of_walk returns) path
  · intro acyclic
    apply exists_walkSteps
    intro step present child goes
    obtain ⟨root, isRoot, rfl⟩ := List.mem_map.mp present
    obtain rfl : root = child := Option.some.inj goes
    exact walk_of_acc (acc_of_not_cycle fun later path => acyclic later ⟨root, isRoot, path⟩)

/-- The outputs of a walk are those of the nodes below its roots. -/
theorem mem_walkRoots_iff (walked : walkRoots steps fuel roots = some outputs)
    (output : Output) :
    output ∈ outputs ↔ ∃ node, Below (Descends steps) (· ∈ roots) node ∧
      Outputs steps node output := by
  rw [mem_walkSteps_iff walked]
  constructor
  · rintro ⟨step, present, yields⟩
    obtain ⟨root, isRoot, rfl⟩ := List.mem_map.mp present
    obtain ⟨later, path, has⟩ := (yields_root_iff walked isRoot output).mp yields
    exact ⟨later, ⟨root, isRoot, path⟩, has⟩
  · rintro ⟨node, ⟨root, isRoot, path⟩, has⟩
    exact ⟨_, List.mem_map_of_mem isRoot,
      (yields_root_iff walked isRoot output).mpr ⟨node, path, has⟩⟩

/-- Over a forest a walk from distinct roots outputs nothing twice. -/
theorem nodup_walkRoots (distinct : StepsForest steps (· ∈ roots)) (rootsDistinct : roots.Nodup)
    (walked : walkRoots steps fuel roots = some outputs) : outputs.Nodup := by
  apply nodup_walkSteps walked
  · intro step present
    obtain ⟨root, isRoot, rfl⟩ := List.mem_map.mp present
    exact List.nodup_nil
  · intro step present child below goes descended
    obtain ⟨root, isRoot, rfl⟩ := List.mem_map.mp present
    obtain rfl : root = child := Option.some.inj goes
    exact ⟨distinct.nodup_walk (Below.of_root isRoot) descended, List.disjoint_nil_left _⟩
  · rw [List.pairwise_map]
    refine rootsDistinct.imp_of_mem ?_
    intro left right leftRoot rightRoot different output leftYields rightYields
    obtain ⟨later, leftPath, leftHas⟩ := (yields_root_iff walked leftRoot output).mp leftYields
    obtain ⟨other, rightPath, rightHas⟩ :=
      (yields_root_iff walked rightRoot output).mp rightYields
    have same := distinct.node_eq ⟨left, leftRoot, leftPath⟩ ⟨right, rightRoot, rightPath⟩
      leftHas rightHas
    subst same
    exact distinct.forest.disjoint_roots leftRoot rightRoot different leftPath rightPath

end ToyKernel
