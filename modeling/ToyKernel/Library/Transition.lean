import Mathlib.Logic.Basic
import Mathlib.Data.List.Basic

/-!
# Guarded transition systems

A system has a set of initial states and a partial transition function.  All
nondeterminism is carried by the action, so every transition can be executed.
Traces record the actions taken and may be restricted by a guard on the state
before each step and the action; an unguarded trace is a run of the system.
-/

namespace ToyKernel

/-- A transition system whose nondeterminism is resolved by its actions. -/
structure TransitionSystem (State Action : Type*) where
  /-- The states a run may start in. -/
  initial : State → Prop
  /-- The state after an action, when the action is enabled. -/
  step : State → Action → Option State

namespace TransitionSystem

variable {State Action : Type*}

/-- Perform a list of actions in order. -/
def exec (system : TransitionSystem State Action) :
    State → List Action → Option State
  | state, [] => some state
  | state, action :: actions =>
      match system.step state action with
      | none => none
      | some next => system.exec next actions

@[simp] theorem exec_nil
    (system : TransitionSystem State Action) (state : State) :
    system.exec state [] = some state := rfl

theorem exec_cons_of_step
    {system : TransitionSystem State Action}
    {state next : State} {action : Action} {actions : List Action}
    (taken : system.step state action = some next) :
    system.exec state (action :: actions) = system.exec next actions := by
  simp [exec, taken]

/-- The first step of an execution. -/
theorem exec_cons {system : TransitionSystem State Action} {state final : State}
    {action : Action} {actions : List Action}
    (executed : system.exec state (action :: actions) = some final) :
    ∃ next, system.step state action = some next ∧ system.exec next actions = some final := by
  cases taken : system.step state action with
  | none => simp [exec, taken] at executed
  | some next => exact ⟨next, rfl, by rwa [exec_cons_of_step taken] at executed⟩

theorem exec_append (system : TransitionSystem State Action) (state : State)
    (first second : List Action) :
    system.exec state (first ++ second) =
      (system.exec state first).bind fun middle => system.exec middle second := by
  induction first generalizing state with
  | nil => rfl
  | cons action first inductionHypothesis =>
      rw [List.cons_append, exec, exec]
      cases system.step state action with
      | none => rfl
      | some next => exact inductionHypothesis next

/-- Perform a list of actions in order, each of which meets the guard. -/
def execUnder (system : TransitionSystem State Action) (guard : State → Action → Prop)
    [∀ state action, Decidable (guard state action)] : State → List Action → Option State
  | state, [] => some state
  | state, action :: actions =>
      if guard state action then
        match system.step state action with
        | none => none
        | some next => execUnder system guard next actions
      else
        none

/-- The same system, started in one state. -/
def startedIn (system : TransitionSystem State Action) (start : State) :
    TransitionSystem State Action :=
  { system with initial := (· = start) }

/-- Runs from an initial state, all of whose steps meet the guard.  The newest
action is last. -/
inductive Trace
    (system : TransitionSystem State Action)
    (guard : State → Action → Prop) : List Action → State → Prop
  | start {state : State} :
      system.initial state → Trace system guard [] state
  | extend {actions : List Action} {state next : State} {action : Action} :
      Trace system guard actions state →
      guard state action →
      system.step state action = some next →
      Trace system guard (actions ++ [action]) next

/-- Reached by some run whose steps all meet the guard. -/
def ReachableUnder
    (system : TransitionSystem State Action)
    (guard : State → Action → Prop) (state : State) : Prop :=
  ∃ actions, system.Trace guard actions state

/-- Reached by some run. -/
def Reachable
    (system : TransitionSystem State Action) (state : State) : Prop :=
  system.ReachableUnder (fun _ _ => True) state

section

variable {system : TransitionSystem State Action}
  {guard stronger : State → Action → Prop}

theorem ReachableUnder.initial {state : State}
    (starts : system.initial state) : system.ReachableUnder guard state :=
  ⟨[], .start starts⟩

theorem ReachableUnder.extend
    {state next : State} {action : Action}
    (reached : system.ReachableUnder guard state)
    (allowed : guard state action)
    (taken : system.step state action = some next) :
    system.ReachableUnder guard next := by
  obtain ⟨actions, trace⟩ := reached
  exact ⟨actions ++ [action], trace.extend allowed taken⟩

/-- The history invariant rule: a predicate of the actions so far and the
state, true at the start and kept by every guarded step, holds along every
guarded trace. -/
theorem Trace.invariant
    (property : List Action → State → Prop)
    (starts : ∀ state, system.initial state → property [] state)
    (keeps : ∀ actions state action next,
      property actions state → guard state action →
      system.step state action = some next →
      property (actions ++ [action]) next)
    {actions : List Action} {state : State}
    (trace : system.Trace guard actions state) :
    property actions state := by
  induction trace with
  | start initially => exact starts _ initially
  | extend _ allowed taken inductionHypothesis =>
      exact keeps _ _ _ _ inductionHypothesis allowed taken

/-- The invariant rule for guarded runs. -/
theorem ReachableUnder.invariant
    {property : State → Prop}
    (starts : ∀ state, system.initial state → property state)
    (keeps : ∀ state action next,
      property state → guard state action →
      system.step state action = some next → property next)
    {state : State}
    (reached : system.ReachableUnder guard state) : property state := by
  obtain ⟨actions, trace⟩ := reached
  exact trace.invariant (fun _ current => property current) starts
    (fun _ current action next holds => keeps current action next holds)

/-- The invariant rule for unrestricted runs. -/
theorem Reachable.invariant
    {property : State → Prop}
    (starts : ∀ state, system.initial state → property state)
    (keeps : ∀ state action next,
      property state → system.step state action = some next → property next)
    {state : State}
    (reached : system.Reachable state) : property state :=
  ReachableUnder.invariant starts
    (fun current action next holds _ => keeps current action next holds)
    reached

theorem Reachable.extend
    {state next : State} {action : Action}
    (reached : system.Reachable state)
    (taken : system.step state action = some next) :
    system.Reachable next :=
  ReachableUnder.extend reached trivial taken

/-- The last step of a run. -/
theorem Trace.last {actions : List Action} {action : Action} {next : State}
    (trace : system.Trace guard (actions ++ [action]) next) :
    ∃ state, system.Trace guard actions state ∧ guard state action ∧
      system.step state action = some next := by
  generalize isWhole : actions ++ [action] = whole at trace
  cases trace with
  | start => simp at isWhole
  | extend before allowed taken =>
      obtain ⟨rfl, sameAction⟩ := List.append_inj' isWhole rfl
      obtain rfl := List.head_eq_of_cons_eq sameAction
      exact ⟨_, before, allowed, taken⟩

/-- A run meets every weaker guard. -/
theorem Trace.mono
    (weaker : ∀ state action, stronger state action → guard state action)
    {actions : List Action} {state : State}
    (trace : system.Trace stronger actions state) : system.Trace guard actions state := by
  induction trace with
  | start initially => exact .start initially
  | extend _ allowed taken inductionHypothesis =>
      exact inductionHypothesis.extend (weaker _ _ allowed) taken

/-- Weakening the guard keeps a state reachable. -/
theorem ReachableUnder.mono
    (weaker : ∀ state action, stronger state action → guard state action)
    {state : State}
    (reached : system.ReachableUnder stronger state) :
    system.ReachableUnder guard state := by
  obtain ⟨actions, trace⟩ := reached
  exact ⟨actions, trace.mono weaker⟩

/-- Guarded reachability is a special case of reachability. -/
theorem ReachableUnder.reachable {state : State}
    (reached : system.ReachableUnder guard state) : system.Reachable state :=
  reached.mono fun _ _ _ => trivial

/-- Executing actions that the guard always allows keeps reachability. -/
theorem ReachableUnder.exec
    {state final : State} {actions : List Action}
    (reached : system.ReachableUnder guard state)
    (allowed : ∀ action ∈ actions, ∀ current, guard current action)
    (executed : system.exec state actions = some final) :
    system.ReachableUnder guard final := by
  induction actions generalizing state with
  | nil =>
      simp only [exec_nil, Option.some.injEq] at executed
      exact executed ▸ reached
  | cons action actions inductionHypothesis =>
      cases taken : system.step state action with
      | none => simp [TransitionSystem.exec, taken] at executed
      | some next =>
          rw [exec_cons_of_step taken] at executed
          have head := allowed action List.mem_cons_self state
          exact inductionHypothesis (reached.extend head taken)
            (fun later present => allowed later (List.mem_cons_of_mem _ present))
            executed

/-- Executing actions that meet the guard keeps reachability. -/
theorem ReachableUnder.execUnder [∀ state action, Decidable (guard state action)]
    {state final : State} {actions : List Action}
    (reached : system.ReachableUnder guard state)
    (executed : system.execUnder guard state actions = some final) :
    system.ReachableUnder guard final := by
  induction actions generalizing state with
  | nil => exact Option.some.inj executed ▸ reached
  | cons action actions inductionHypothesis =>
      obtain ⟨allowed, executed⟩ := Option.ite_none_right_eq_some.mp executed
      cases taken : system.step state action with
      | none => simp [taken] at executed
      | some next =>
          rw [taken] at executed
          exact inductionHypothesis (reached.extend allowed taken) executed

/-- The steps that performing a list of actions takes all have the property. -/
def Along (system : TransitionSystem State Action) (property : State → Action → State → Prop) :
    State → List Action → Prop
  | _, [] => True
  | state, action :: actions =>
      ∀ next, system.step state action = some next →
        property state action next ∧ Along system property next actions

/-- The steps that executing actions under a guard takes all meet the guard. -/
theorem along_of_execUnder [∀ state action, Decidable (guard state action)]
    {state final : State} {actions : List Action}
    (executed : system.execUnder guard state actions = some final) :
    system.Along (fun current action _ => guard current action) state actions := by
  induction actions generalizing state with
  | nil => trivial
  | cons action actions inductionHypothesis =>
      obtain ⟨allowed, executed⟩ := Option.ite_none_right_eq_some.mp executed
      intro next taken
      rw [taken] at executed
      exact ⟨allowed, inductionHypothesis executed⟩

/-- A weaker property holds along the same executions. -/
theorem Along.mono {property weaker : State → Action → State → Prop}
    (implies : ∀ state action next, property state action next → weaker state action next)
    {state : State} {actions : List Action} (along : system.Along property state actions) :
    system.Along weaker state actions := by
  induction actions generalizing state with
  | nil => trivial
  | cons action actions inductionHypothesis =>
      intro next taken
      obtain ⟨holds, rest⟩ := along next taken
      exact ⟨implies state action next holds, inductionHypothesis rest⟩

/-- Two properties hold along the same guarded executions if they agree where the invariant
holds, and steps with the second one keep the invariant. -/
theorem along_congr_under
    {property condition : State → Action → State → Prop} {invariant : State → Prop}
    (agree : ∀ state action next, invariant state → guard state action →
      system.step state action = some next →
      (property state action next ↔ condition state action next))
    (keeps : ∀ state action next, invariant state → guard state action →
      system.step state action = some next → condition state action next → invariant next)
    {state : State} {actions : List Action} (holds : invariant state)
    (guarded : system.Along (fun current action _ => guard current action) state actions) :
    system.Along property state actions ↔ system.Along condition state actions := by
  induction actions generalizing state with
  | nil => exact Iff.rfl
  | cons action actions inductionHypothesis =>
      refine forall_congr' fun next => forall_congr' fun taken => ?_
      obtain ⟨allowed, rest⟩ := guarded next taken
      rw [agree state action next holds allowed taken]
      exact and_congr_right fun conditioned =>
        inductionHypothesis (keeps state action next holds allowed taken conditioned) rest

/-- Steps that all have the property have it along every execution. -/
theorem along_of_forall {property : State → Action → State → Prop}
    (all : ∀ state action next, property state action next) (state : State)
    (actions : List Action) : system.Along property state actions := by
  induction actions generalizing state with
  | nil => trivial
  | cons action actions inductionHypothesis =>
      exact fun next _ => ⟨all state action next, inductionHypothesis next⟩

/-- The same without a guard. -/
theorem along_congr
    {property condition : State → Action → State → Prop} {invariant : State → Prop}
    (agree : ∀ state action next, invariant state → system.step state action = some next →
      (property state action next ↔ condition state action next))
    (keeps : ∀ state action next, invariant state → system.step state action = some next →
      condition state action next → invariant next)
    {state : State} {actions : List Action} (holds : invariant state) :
    system.Along property state actions ↔ system.Along condition state actions := by
  have unguarded : system.Along (fun current action _ => (fun _ _ => True : State → Action → Prop)
      current action) state actions := along_of_forall (fun _ _ _ => trivial) state actions
  exact along_congr_under (fun current action next holds _ => agree current action next holds)
    (fun current action next holds _ => keeps current action next holds) holds unguarded

/-- The result of executing actions from an initial state is reachable. -/
theorem reachable_of_exec
    {state final : State} {actions : List Action}
    (starts : system.initial state)
    (executed : system.exec state actions = some final) :
    system.Reachable final :=
  ReachableUnder.exec (.initial starts) (fun _ _ _ => trivial) executed

end

end TransitionSystem
end ToyKernel
