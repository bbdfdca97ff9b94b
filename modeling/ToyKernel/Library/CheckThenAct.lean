import ToyKernel.Library.Transition
import Mathlib.Data.Fintype.Defs
import Mathlib.Logic.Function.Basic

/-!
# Check, then act

Several callers make the same call on a shared state.  A call checks the state, prepares
it and acts on it, each in one step, and the steps of different calls interleave.  If the
action makes the check fail, then at most one call succeeds as long as no call checks
the state while another one is between its check and its action.  In a run that is
complete this is the only way.
-/

namespace ToyKernel

/-- A call in three steps.  A check that fails gives the result of the call.  The action
depends on the environment. -/
structure CheckThenAct (Shared Env Result : Type*) where
  check : Shared → Option Result
  prepare : Shared → Shared
  act : Env → Shared → Shared × Result

namespace CheckThenAct

/-- How far a call has come. -/
inductive Phase (Result : Type*)
  | idle
  | checked
  | prepared
  | returned (result : Result)
  deriving DecidableEq

/-- A call is between its check and its action. -/
def Phase.InFlight {Result : Type*} : Phase Result → Prop
  | .checked => True
  | .prepared => True
  | _ => False

instance {Result : Type*} : DecidablePred (@Phase.InFlight Result)
  | .idle => .isFalse id
  | .checked => .isTrue trivial
  | .prepared => .isTrue trivial
  | .returned _ => .isFalse id

/-- A call has passed the check. -/
def Phase.Committed {Result : Type*} (ok : Result) (phase : Phase Result) : Prop :=
  phase.InFlight ∨ phase = .returned ok

/-- The shared state, and how far each caller has come. -/
structure Calls (Shared Caller Result : Type*) where
  shared : Shared
  phase : Caller → Phase Result

/-- The steps of the callers. -/
inductive Action (Caller Env : Type*)
  | check (caller : Caller)
  | prepare (caller : Caller)
  | act (caller : Caller) (env : Env)

variable {Shared Env Result Caller : Type*}

/-- At most one call has succeeded, and the others that have returned were refused. -/
structure AtMostOne (ok refused : Result) (calls : Calls Shared Caller Result) : Prop where
  once : ∀ left right, calls.phase left = .returned ok → calls.phase right = .returned ok →
    left = right
  others : ∀ caller result, calls.phase caller = .returned result → result = ok ∨ result = refused

/-- As long as no call has returned there is nothing to show. -/
theorem atMostOne_of_not_returned {ok refused : Result} {calls : Calls Shared Caller Result}
    (running : ∀ caller result, calls.phase caller ≠ .returned result) :
    AtMostOne ok refused calls where
  once left _ isLeft := absurd isLeft (running left ok)
  others caller result isReturned := absurd isReturned (running caller result)

variable [DecidableEq Caller]

/-- A caller comes to a phase. -/
def Calls.advance (calls : Calls Shared Caller Result) (caller : Caller) (shared : Shared)
    (phase : Phase Result) : Calls Shared Caller Result :=
  ⟨shared, Function.update calls.phase caller phase⟩

@[simp] theorem Calls.advance_shared (calls : Calls Shared Caller Result) (caller : Caller)
    (shared : Shared) (phase : Phase Result) :
    (calls.advance caller shared phase).shared = shared := rfl

theorem Calls.advance_phase (calls : Calls Shared Caller Result) (caller other : Caller)
    (shared : Shared) (phase : Phase Result) :
    (calls.advance caller shared phase).phase other =
      if other = caller then phase else calls.phase other :=
  Function.update_apply ..

/-- One step of a caller. -/
def step (protocol : CheckThenAct Shared Env Result) (calls : Calls Shared Caller Result) :
    Action Caller Env → Option (Calls Shared Caller Result)
  | .check caller =>
      match calls.phase caller with
      | .idle =>
          match protocol.check calls.shared with
          | none => some (calls.advance caller calls.shared .checked)
          | some result => some (calls.advance caller calls.shared (.returned result))
      | _ => none
  | .prepare caller =>
      match calls.phase caller with
      | .checked => some (calls.advance caller (protocol.prepare calls.shared) .prepared)
      | _ => none
  | .act caller env =>
      match calls.phase caller with
      | .prepared =>
          let (shared, result) := protocol.act env calls.shared
          some (calls.advance caller shared (.returned result))
      | _ => none

/-- All interleavings of the calls of any number of callers. -/
def system (protocol : CheckThenAct Shared Env Result) (start : Shared) :
    TransitionSystem (Calls Shared Caller Result) (Action Caller Env) where
  initial calls := calls = ⟨start, fun _ => .idle⟩
  step := protocol.step

/-- The environment of an action is one that lets it succeed. -/
def Succeeds (allows : Env → Prop) (_ : Calls Shared Caller Result) :
    Action Caller Env → Prop
  | .act _ env => allows env
  | _ => True

/-- No call checks the state while another is between its check and its action. -/
def Alone (calls : Calls Shared Caller Result) : Action Caller Env → Prop
  | .check _ => ∀ other, ¬ (calls.phase other).InFlight
  | _ => True

instance {allows : Env → Prop} [DecidablePred allows] (calls : Calls Shared Caller Result) :
    DecidablePred (Succeeds allows calls)
  | .act _ env => inferInstanceAs (Decidable (allows env))
  | .check _ => .isTrue trivial
  | .prepare _ => .isTrue trivial

instance [Fintype Caller] (calls : Calls Shared Caller Result) :
    DecidablePred (@Alone Shared Env Result Caller calls)
  | .check _ => inferInstanceAs (Decidable (∀ other, ¬ (calls.phase other).InFlight))
  | .prepare _ => .isTrue trivial
  | .act _ _ => .isTrue trivial

/-- Two calls have passed the check. -/
def Crowded (ok : Result) (calls : Calls Shared Caller Result) : Prop :=
  ∃ left right, left ≠ right ∧ (calls.phase left).Committed ok ∧
    (calls.phase right).Committed ok

/-- No call is between its check and its action. -/
def Complete (calls : Calls Shared Caller Result) : Prop :=
  ∀ caller, ¬ (calls.phase caller).InFlight

/-- The check lets the first call pass, and no call after its action. -/
structure Guards (protocol : CheckThenAct Shared Env Result) (allows : Env → Prop)
    (start final : Shared) (ok refused : Result) : Prop where
  check : protocol.check start = none
  checkPrepared : protocol.check (protocol.prepare start) = none
  act : ∀ env, allows env → protocol.act env (protocol.prepare start) = (final, ok)
  checkFinal : protocol.check final = some refused
  succeeds : ∀ env shared, allows env → (protocol.act env shared).2 = ok

/-- The states of the runs in which no call disturbs another. -/
inductive Serial (protocol : CheckThenAct Shared Env Result) (start final : Shared)
    (ok refused : Result) : Calls Shared Caller Result → Prop
  | before {calls : Calls Shared Caller Result} :
      calls.shared = start →
      (∀ caller, calls.phase caller = .idle) →
      Serial protocol start final ok refused calls
  | checked {calls : Calls Shared Caller Result} (caller : Caller) :
      calls.shared = start →
      calls.phase caller = .checked →
      (∀ other, other ≠ caller → calls.phase other = .idle) →
      Serial protocol start final ok refused calls
  | prepared {calls : Calls Shared Caller Result} (caller : Caller) :
      calls.shared = protocol.prepare start →
      calls.phase caller = .prepared →
      (∀ other, other ≠ caller → calls.phase other = .idle) →
      Serial protocol start final ok refused calls
  | after {calls : Calls Shared Caller Result} (caller : Caller) :
      calls.shared = final →
      calls.phase caller = .returned ok →
      (∀ other, other ≠ caller →
        calls.phase other = .idle ∨ calls.phase other = .returned refused) →
      Serial protocol start final ok refused calls

section Runs

variable {protocol : CheckThenAct Shared Env Result} {allows : Env → Prop}
  {start final : Shared} {ok refused : Result} {calls next : Calls Shared Caller Result}
  {action : Action Caller Env}

/-- What a step does. -/
inductive Stepped (protocol : CheckThenAct Shared Env Result)
    (calls : Calls Shared Caller Result) :
    Action Caller Env → Calls Shared Caller Result → Prop
  | passes (caller : Caller) :
      calls.phase caller = .idle →
      protocol.check calls.shared = none →
      Stepped protocol calls (.check caller) (calls.advance caller calls.shared .checked)
  | fails (caller : Caller) (result : Result) :
      calls.phase caller = .idle →
      protocol.check calls.shared = some result →
      Stepped protocol calls (.check caller)
        (calls.advance caller calls.shared (.returned result))
  | prepares (caller : Caller) :
      calls.phase caller = .checked →
      Stepped protocol calls (.prepare caller)
        (calls.advance caller (protocol.prepare calls.shared) .prepared)
  | acts (caller : Caller) (env : Env) :
      calls.phase caller = .prepared →
      Stepped protocol calls (.act caller env)
        (calls.advance caller (protocol.act env calls.shared).1
          (.returned (protocol.act env calls.shared).2))

theorem stepped_of_step (taken : protocol.step calls action = some next) :
    Stepped protocol calls action next := by
  cases action with
  | check caller =>
      simp only [step] at taken
      split at taken
      · rename_i idle
        split at taken
        · rename_i passes
          obtain rfl := Option.some.inj taken
          exact .passes caller idle passes
        · rename_i result fails
          obtain rfl := Option.some.inj taken
          exact .fails caller result idle fails
      · cases taken
  | prepare caller =>
      simp only [step] at taken
      split at taken
      · rename_i checked
        obtain rfl := Option.some.inj taken
        exact .prepares caller checked
      · cases taken
  | act caller env =>
      simp only [step] at taken
      split at taken
      · rename_i prepared
        obtain rfl := Option.some.inj taken
        exact .acts caller env prepared
      · cases taken

/-- Only the caller itself comes to another phase. -/
theorem advance_phase_of_ne {caller other : Caller} {shared : Shared} {phase : Phase Result}
    (different : other ≠ caller) :
    (calls.advance caller shared phase).phase other = calls.phase other := by
  rw [Calls.advance_phase, if_neg different]

theorem advance_phase_self {caller : Caller} {shared : Shared} {phase : Phase Result} :
    (calls.advance caller shared phase).phase caller = phase := by
  rw [Calls.advance_phase, if_pos rfl]

/-- A call in flight is the only one that has started. -/
theorem Serial.of_inFlight {caller : Caller}
    (serial : Serial protocol start final ok refused calls)
    (inFlight : (calls.phase caller).InFlight) :
    (calls.phase caller = .checked ∧ calls.shared = start ∨
        calls.phase caller = .prepared ∧ calls.shared = protocol.prepare start) ∧
      ∀ other, other ≠ caller → calls.phase other = .idle := by
  cases serial with
  | before _ allIdle =>
      rw [allIdle caller] at inFlight
      exact inFlight.elim
  | checked first sameShared isChecked others =>
      obtain rfl : caller = first := by
        by_contra different
        rw [others caller different] at inFlight
        exact inFlight
      exact ⟨.inl ⟨isChecked, sameShared⟩, others⟩
  | prepared first sameShared isPrepared others =>
      obtain rfl : caller = first := by
        by_contra different
        rw [others caller different] at inFlight
        exact inFlight
      exact ⟨.inr ⟨isPrepared, sameShared⟩, others⟩
  | after first _ isFirst others =>
      by_cases same : caller = first
      · rw [same, isFirst] at inFlight
        exact inFlight.elim
      · rcases others caller same with isIdle | isRefused
        · rw [isIdle] at inFlight
          exact inFlight.elim
        · rw [isRefused] at inFlight
          exact inFlight.elim

/-- While a call is in flight the check lets every other one pass. -/
theorem Serial.passes {caller : Caller}
    (guards : Guards protocol allows start final ok refused)
    (serial : Serial protocol start final ok refused calls)
    (inFlight : (calls.phase caller).InFlight) : protocol.check calls.shared = none := by
  rcases (serial.of_inFlight inFlight).1 with ⟨-, sameShared⟩ | ⟨-, sameShared⟩
  · rw [sameShared, guards.check]
  · rw [sameShared, guards.checkPrepared]

/-- A step of a call that does not check while another is in flight. -/
theorem Serial.step (guards : Guards protocol allows start final ok refused)
    (serial : Serial protocol start final ok refused calls)
    (allowed : Succeeds allows calls action) (alone : Alone calls action)
    (stepped : Stepped protocol calls action next) :
    Serial protocol start final ok refused next := by
  cases stepped with
  | passes caller idle passes =>
      cases serial with
      | before sameShared allIdle =>
          exact .checked caller sameShared advance_phase_self fun other different =>
            (advance_phase_of_ne different).trans (allIdle other)
      | checked first _ isChecked => exact absurd (by rw [isChecked]; trivial) (alone first)
      | prepared first _ isPrepared => exact absurd (by rw [isPrepared]; trivial) (alone first)
      | after first sameShared =>
          rw [sameShared, guards.checkFinal] at passes
          cases passes
  | fails caller result idle fails =>
      cases serial with
      | before sameShared =>
          rw [sameShared, guards.check] at fails
          cases fails
      | checked first _ isChecked => exact absurd (by rw [isChecked]; trivial) (alone first)
      | prepared first _ isPrepared => exact absurd (by rw [isPrepared]; trivial) (alone first)
      | after first sameShared isFirst others =>
          rw [sameShared, guards.checkFinal, Option.some.injEq] at fails
          have different : first ≠ caller := by
            rintro rfl
            rw [idle] at isFirst
            cases isFirst
          refine .after first sameShared ((advance_phase_of_ne different).trans isFirst) ?_
          intro other distinct
          rw [Calls.advance_phase]
          split
          · rw [fails]
            exact .inr rfl
          · exact others other distinct
  | prepares caller isChecked =>
      obtain ⟨reached, others⟩ := serial.of_inFlight (by rw [isChecked]; trivial)
      have sameShared : calls.shared = start := by simpa [isChecked] using reached
      exact .prepared caller (by rw [Calls.advance_shared, sameShared]) advance_phase_self
        fun other different => (advance_phase_of_ne different).trans (others other different)
  | acts caller env isPrepared =>
      obtain ⟨reached, others⟩ := serial.of_inFlight (by rw [isPrepared]; trivial)
      have sameShared : calls.shared = protocol.prepare start := by simpa [isPrepared] using reached
      rw [sameShared, guards.act env allowed]
      exact .after caller rfl advance_phase_self fun other different =>
        .inl ((advance_phase_of_ne different).trans (others other different))

/-- The states of the runs in which the calls do not disturb each other. -/
theorem serial_of_trace {actions : List (Action Caller Env)}
    (guards : Guards protocol allows start final ok refused)
    (trace : (system protocol start).Trace
      (fun calls action => Succeeds allows calls action ∧ Alone calls action) actions calls) :
    Serial protocol start final ok refused calls := by
  induction trace with
  | start starts =>
      obtain rfl := starts
      exact .before rfl fun _ => rfl
  | extend _ allowed taken inductionHypothesis =>
      exact inductionHypothesis.step guards allowed.1 allowed.2 (stepped_of_step taken)

/-- At most one call succeeds if none disturbs another. -/
theorem Serial.atMostOne (different : ok ≠ refused)
    (serial : Serial protocol start final ok refused calls) : AtMostOne ok refused calls := by
  cases serial with
  | before _ allIdle =>
      apply atMostOne_of_not_returned
      intro caller result
      rw [allIdle caller]
      simp
  | checked first _ isChecked others =>
      apply atMostOne_of_not_returned
      intro caller result
      by_cases same : caller = first
      · rw [same, isChecked]
        simp
      · rw [others caller same]
        simp
  | prepared first _ isPrepared others =>
      apply atMostOne_of_not_returned
      intro caller result
      by_cases same : caller = first
      · rw [same, isPrepared]
        simp
      · rw [others caller same]
        simp
  | after first _ isFirst others =>
      have refuses : ∀ caller result, caller ≠ first → calls.phase caller = .returned result →
          result = refused := by
        intro caller result distinct isReturned
        rcases others caller distinct with isIdle | isRefused
        · rw [isIdle] at isReturned
          cases isReturned
        · rw [isRefused] at isReturned
          exact (Phase.returned.inj isReturned).symm
      have onlyFirst : ∀ caller, calls.phase caller = .returned ok → caller = first := by
        intro caller isReturned
        by_contra distinct
        exact different (refuses caller ok distinct isReturned)
      refine ⟨fun left right isLeft isRight =>
        (onlyFirst left isLeft).trans (onlyFirst right isRight).symm, ?_⟩
      intro caller result isReturned
      by_cases same : caller = first
      · rw [same, isFirst] at isReturned
        exact .inl (Phase.returned.inj isReturned).symm
      · exact .inr (refuses caller result same isReturned)

/-! ## Calls that disturb each other -/

/-- A call that has passed the check goes on to succeed. -/
theorem Stepped.committed (guards : Guards protocol allows start final ok refused)
    (allowed : Succeeds allows calls action) (stepped : Stepped protocol calls action next)
    {caller : Caller} (committed : (calls.phase caller).Committed ok) :
    (next.phase caller).Committed ok := by
  cases stepped with
  | passes moved idle =>
      rw [Calls.advance_phase]
      split
      · exact .inl trivial
      · exact committed
  | fails moved result idle =>
      rw [Calls.advance_phase]
      split
      · rename_i same
        rw [same, idle] at committed
        rcases committed with inFlight | returned
        · exact inFlight.elim
        · cases returned
      · exact committed
  | prepares moved =>
      rw [Calls.advance_phase]
      split
      · exact .inl trivial
      · exact committed
  | acts moved env =>
      rw [Calls.advance_phase]
      split
      · rw [guards.succeeds env calls.shared allowed]
        exact .inr rfl
      · exact committed

/-- A call that checks while another is in flight passes as well. -/
theorem Serial.crowded (guards : Guards protocol allows start final ok refused)
    (serial : Serial protocol start final ok refused calls) (disturbs : ¬ Alone calls action)
    (stepped : Stepped protocol calls action next) : Crowded ok next := by
  cases action with
  | prepare caller => exact absurd trivial disturbs
  | act caller env => exact absurd trivial disturbs
  | check caller =>
      simp only [Alone, not_forall, not_not] at disturbs
      obtain ⟨other, inFlight⟩ := disturbs
      have passes := serial.passes guards inFlight
      cases stepped with
      | passes _ idle =>
          have different : other ≠ caller := by
            rintro rfl
            rw [idle] at inFlight
            exact inFlight
          refine ⟨caller, other, different.symm, .inl ?_, .inl ?_⟩
          · rw [advance_phase_self]
            trivial
          · rwa [advance_phase_of_ne different]
      | fails _ result _ fails =>
          rw [passes] at fails
          cases fails

/-- Either no call disturbs another, or two have passed the check. -/
theorem alone_or_crowded {actions : List (Action Caller Env)}
    (guards : Guards protocol allows start final ok refused)
    (trace : (system protocol start).Trace (Succeeds allows) actions calls) :
    (system protocol start).Trace
        (fun calls action => Succeeds allows calls action ∧ Alone calls action) actions calls ∨
      Crowded ok calls := by
  induction trace with
  | start starts => exact .inl (.start starts)
  | @extend actions before after action _ allowed taken inductionHypothesis =>
      have stepped := stepped_of_step taken
      rcases inductionHypothesis with trace | ⟨left, right, different, isLeft, isRight⟩
      · by_cases alone : Alone before action
        · exact .inl (trace.extend ⟨allowed, alone⟩ taken)
        · exact .inr ((serial_of_trace guards trace).crowded guards alone stepped)
      · exact .inr ⟨left, right, different, stepped.committed guards allowed isLeft,
          stepped.committed guards allowed isRight⟩

/-- In a complete run at most one call succeeds only if no call has disturbed another. -/
theorem alone_of_atMostOne {actions : List (Action Caller Env)}
    (guards : Guards protocol allows start final ok refused)
    (trace : (system protocol start).Trace (Succeeds allows) actions calls)
    (complete : Complete calls) (atMostOne : AtMostOne ok refused calls) :
    (system protocol start).Trace
      (fun calls action => Succeeds allows calls action ∧ Alone calls action) actions calls := by
  rcases alone_or_crowded guards trace with alone | ⟨left, right, different, isLeft, isRight⟩
  · exact alone
  · exact absurd (atMostOne.once left right (isLeft.resolve_left (complete left))
      (isRight.resolve_left (complete right))) different

end Runs

end CheckThenAct
end ToyKernel
