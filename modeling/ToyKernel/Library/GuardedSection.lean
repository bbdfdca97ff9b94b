import ToyKernel.Library.Transition
import Mathlib.Computability.StateTransition
import Mathlib.Data.BitVec
import Mathlib.Logic.Function.Basic

/-!
# Sections guarded by a spinlock

Parties perform operations on shared data, one access at a time.  Each operation tries to obtain
a spinlock, performs its body, and frees the lock.  The spinlock is a byte that is exchanged; a
party that fails all its tries enters its body nonetheless.

In a run of less than `2 ^ 64` steps no party fails all its tries, and then the operations take
effect one after another, in the order in which they free the lock.
-/

namespace ToyKernel

/-- The bodies of the operations, one access at a time.  A body without a next access has
ended. -/
structure GuardedBody (Call Local Shared : Type*) where
  enter : Call → Local
  access : Call → Local × Shared → Option (Local × Shared)

namespace GuardedBody

variable {Party Call Local Shared : Type*}

/-- The body of a call leads from one content of the shared data to another one, and ends with
these local data. -/
def Performs (body : GuardedBody Call Local Shared) (call : Call) (before : Shared)
    (locals : Local) (after : Shared) : Prop :=
  (locals, after) ∈ StateTransition.eval (body.access call) (body.enter call, before)

/-! ## The system -/

/-- Where a party is. -/
inductive Position (Call Local : Type*)
  | outside
  /-- Before an exchange, with the number of tries that are left; zero stands for `2 ^ 64`. -/
  | trying (call : Call) (tries : BitVec 64)
  | inside (call : Call) (locals : Local)

/-- An operation that has freed the lock. -/
structure Operation (Party Call Local : Type*) where
  party : Party
  call : Call
  locals : Local

/-- The byte of the spinlock, the shared data, the parties, and the operations that have freed
the lock, which are a history. -/
structure State (Party Call Local Shared : Type*) where
  busy : Bool
  shared : Shared
  position : Party → Position Call Local
  finished : List (Operation Party Call Local)

inductive Action (Party Call : Type*)
  | call (party : Party) (call : Call)
  | exchange (party : Party)
  | access (party : Party)
  | release (party : Party)

/-- No party has started. -/
def started (shared : Shared) : State Party Call Local Shared where
  busy := false
  shared := shared
  position _ := .outside
  finished := []

section System

variable [DecidableEq Party] (body : GuardedBody Call Local Shared)

namespace State

/-- A party goes on to a position. -/
def goto (state : State Party Call Local Shared) (party : Party)
    (position : Position Call Local) : State Party Call Local Shared :=
  { state with position := Function.update state.position party position }

end State

/-- One step of a party. -/
def step (state : State Party Call Local Shared) :
    Action Party Call → Option (State Party Call Local Shared)
  | .call party call =>
      match state.position party with
      | .outside => some (state.goto party (.trying call 0))
      | _ => none
  | .exchange party =>
      match state.position party with
      | .trying call tries =>
          if state.busy = false then
            some (State.goto { state with busy := true } party
              (.inside call (body.enter call)))
          else if tries - 1 ≠ 0 then
            some (state.goto party (.trying call (tries - 1)))
          else
            some (state.goto party (.inside call (body.enter call)))
      | _ => none
  | .access party =>
      match state.position party with
      | .inside call locals =>
          (body.access call (locals, state.shared)).map fun (locals, shared) =>
            State.goto { state with shared := shared } party (.inside call locals)
      | _ => none
  | .release party =>
      match state.position party with
      | .inside call locals =>
          if (body.access call (locals, state.shared)).isNone then
            some (State.goto { state with
              busy := false
              finished := state.finished ++ [⟨party, call, locals⟩] } party .outside)
          else
            none
      | _ => none

/-- The parties as a transition system, from a content of the shared data. -/
def system (shared : Shared) :
    TransitionSystem (State Party Call Local Shared) (Action Party Call) where
  initial := (· = started shared)
  step := body.step

end System

/-! ## Serial operations -/

/-- The operations are performed one after another. -/
inductive Serial (body : GuardedBody Call Local Shared) (start : Shared) :
    List (Operation Party Call Local) → Shared → Prop
  | nil : Serial body start [] start
  | snoc {operations : List (Operation Party Call Local)} {before after : Shared}
      {operation : Operation Party Call Local} :
      Serial body start operations before →
      body.Performs operation.call before operation.locals after →
      Serial body start (operations ++ [operation]) after

/-! ## The invariant -/

section Invariant

variable {body : GuardedBody Call Local Shared} {start base : Shared}
  {state next : State Party Call Local Shared} {steps : Nat}

/-- Not in a body. -/
def Position.NotInside (position : Position Call Local) : Prop :=
  ∀ call locals, position ≠ .inside call locals

/-- The shared data are those that the finished operations leave, or one party is in its body and
has gone on from there. -/
inductive Holds (body : GuardedBody Call Local Shared) (base : Shared)
    (state : State Party Call Local Shared) : Prop
  | free :
      state.busy = false → state.shared = base →
      (∀ party, (state.position party).NotInside) → Holds body base state
  | held {party : Party} {call : Call} {locals : Local} :
      state.busy = true → state.position party = .inside call locals →
      StateTransition.Reaches (body.access call) (body.enter call, base)
        (locals, state.shared) →
      (∀ other, other ≠ party → (state.position other).NotInside) → Holds body base state

/-- A party that tries has failed at most once in each step of the run. -/
def Patient (steps : Nat) (state : State Party Call Local Shared) : Prop :=
  ∀ party call tries, state.position party = .trying call tries →
    ∃ failed ≤ steps, tries + BitVec.ofNat 64 failed = 0

/-- What holds after a number of steps. -/
structure Sound (body : GuardedBody Call Local Shared) (start : Shared) (steps : Nat)
    (state : State Party Call Local Shared) : Prop where
  patient : Patient steps state
  holds : ∃ base, Serial body start state.finished base ∧ Holds body base state

/-- Who is inside is known. -/
theorem Holds.inside {party : Party} {call : Call} {locals : Local}
    (holds : Holds body base state) (isInside : state.position party = .inside call locals) :
    state.busy = true ∧
      StateTransition.Reaches (body.access call) (body.enter call, base)
        (locals, state.shared) ∧
      ∀ other, other ≠ party → (state.position other).NotInside := by
  cases holds with
  | free _ _ outside => exact absurd isInside (outside party call locals)
  | @held holder heldCall heldLocals busy isHolder reaches others =>
      obtain rfl | different := eq_or_ne party holder
      · obtain ⟨rfl, rfl⟩ := Position.inside.inj (isHolder.symm.trans isInside)
        exact ⟨busy, reaches, others⟩
      · exact absurd isInside (others party different call locals)

variable [DecidableEq Party]

@[simp] theorem goto_self (party : Party) (position : Position Call Local) :
    (state.goto party position).position party = position := Function.update_self ..

theorem goto_of_ne {party other : Party} (position : Position Call Local)
    (different : other ≠ party) :
    (state.goto party position).position other = state.position other :=
  Function.update_of_ne different ..

/-- A party that moves outside the bodies. -/
theorem Holds.goto {party : Party} {position : Position Call Local}
    (holds : Holds body base state) (before : (state.position party).NotInside)
    (after : position.NotInside) : Holds body base (state.goto party position) := by
  have moved : ∀ other, (state.position other).NotInside →
      ((state.goto party position).position other).NotInside := by
    intro other notInside
    obtain rfl | different := eq_or_ne other party
    · rwa [goto_self]
    · rwa [goto_of_ne position different]
  cases holds with
  | free busy shared outside => exact .free busy shared fun other => moved other (outside other)
  | @held holder call locals busy isHolder reaches others =>
      have different : holder ≠ party := by
        rintro rfl
        exact before call locals isHolder
      exact .held busy ((goto_of_ne position different).trans isHolder) reaches
        fun other notHolder => moved other (others other notHolder)

/-- A party that moves while it waits for the lock, with the tries that it has left. -/
theorem Patient.goto {party : Party} {position : Position Call Local}
    (patient : Patient steps state)
    (tried : ∀ call tries, position = .trying call tries →
      ∃ failed ≤ steps + 1, tries + BitVec.ofNat 64 failed = 0) :
    Patient (steps + 1) (state.goto party position) := by
  intro other call tries isTrying
  obtain rfl | different := eq_or_ne other party
  · exact tried call tries ((goto_self other position).symm.trans isTrying)
  · rw [goto_of_ne position different] at isTrying
    obtain ⟨failed, few, total⟩ := patient other call tries isTrying
    exact ⟨failed, few.trans (Nat.le_succ steps), total⟩

/-- A party that moves elsewhere. -/
theorem Patient.goto_of_ne_trying {party : Party} {position : Position Call Local}
    (patient : Patient steps state) (elsewhere : ∀ call tries, position ≠ .trying call tries) :
    Patient (steps + 1) (state.goto party position) :=
  patient.goto fun call tries isTrying => absurd isTrying (elsewhere call tries)

/-! ## Steps -/

variable {party : Party} {call : Call} {locals : Local} {tries : BitVec 64}

theorem Sound.enqueue (sound : Sound body start steps state)
    (outside : state.position party = .outside) (call : Call) :
    Sound body start (steps + 1) (state.goto party (.trying call 0)) := by
  obtain ⟨base, serial, holds⟩ := sound.holds
  refine ⟨sound.patient.goto fun _ _ isTrying => ?_, base, serial, holds.goto ?_ ?_⟩
  · obtain ⟨-, rfl⟩ := Position.trying.inj isTrying
    exact ⟨0, Nat.zero_le _, rfl⟩
  · rw [outside]
    exact fun _ _ => nofun
  · exact fun _ _ => nofun

/-- The lock is free. -/
theorem Sound.obtain (sound : Sound body start steps state)
    (isFree : state.busy = false) :
    Sound body start (steps + 1)
      (State.goto { state with busy := true } party (.inside call (body.enter call))) := by
  obtain ⟨base, serial, holds⟩ := sound.holds
  cases holds with
  | held busy => exact absurd (isFree.symm.trans busy) Bool.false_ne_true
  | free _ shared outside =>
      refine ⟨sound.patient.goto_of_ne_trying fun _ _ => nofun, base, serial,
        .held rfl (goto_self ..) ?_ fun other different => ?_⟩
      · exact shared ▸ Relation.ReflTransGen.refl
      · rw [goto_of_ne _ different]
        exact outside other

/-- The lock is not free, and the party tries again. -/
theorem Sound.retry (sound : Sound body start steps state)
    (isTrying : state.position party = .trying call tries) :
    Sound body start (steps + 1) (state.goto party (.trying call (tries - 1))) := by
  obtain ⟨base, serial, holds⟩ := sound.holds
  refine ⟨sound.patient.goto fun _ _ next => ?_, base, serial, holds.goto ?_ ?_⟩
  · obtain ⟨-, rfl⟩ := Position.trying.inj next
    obtain ⟨failed, few, total⟩ := sound.patient party call tries isTrying
    refine ⟨failed + 1, Nat.succ_le_succ few, ?_⟩
    rw [← total, BitVec.ofNat_add, BitVec.add_comm (BitVec.ofNat 64 failed), ← BitVec.add_assoc]
    exact congrArg (· + BitVec.ofNat 64 failed) (BitVec.sub_add_cancel tries 1)
  · rw [isTrying]
    exact fun _ _ => nofun
  · exact fun _ _ => nofun

omit [DecidableEq Party] in
/-- A party does not run out of tries. -/
theorem Sound.tries_ne (sound : Sound body start steps state) (short : steps + 1 < 2 ^ 64)
    (isTrying : state.position party = .trying call tries) : tries - 1 ≠ 0 := by
  obtain ⟨failed, few, total⟩ := sound.patient party call tries isTrying
  bv_omega

theorem Sound.access (sound : Sound body start steps state)
    (isInside : state.position party = .inside call locals) {after : Local × Shared}
    (taken : body.access call (locals, state.shared) = some after) :
    Sound body start (steps + 1)
      (State.goto { state with shared := after.2 } party (.inside call after.1)) := by
  obtain ⟨base, serial, holds⟩ := sound.holds
  obtain ⟨busy, reaches, others⟩ := holds.inside isInside
  refine ⟨sound.patient.goto_of_ne_trying fun _ _ => nofun, base, serial,
    .held busy (goto_self ..) (reaches.tail taken) fun other different => ?_⟩
  rw [goto_of_ne _ different]
  exact others other different

theorem Sound.release (sound : Sound body start steps state)
    (isInside : state.position party = .inside call locals)
    (ended : body.access call (locals, state.shared) = none) :
    Sound body start (steps + 1) (State.goto { state with
      busy := false
      finished := state.finished ++ [⟨party, call, locals⟩] } party .outside) := by
  obtain ⟨base, serial, holds⟩ := sound.holds
  obtain ⟨-, reaches, others⟩ := holds.inside isInside
  refine ⟨sound.patient.goto_of_ne_trying fun _ _ => nofun, state.shared,
    .snoc serial (StateTransition.mem_eval.mpr ⟨reaches, ended⟩),
    .free rfl rfl fun other => ?_⟩
  obtain rfl | different := eq_or_ne other party
  · rw [goto_self]
    exact fun _ _ => nofun
  · rw [goto_of_ne _ different]
    exact others other different

theorem Sound.step (sound : Sound body start steps state) (short : steps + 1 < 2 ^ 64)
    {action : Action Party Call} (taken : body.step state action = some next) :
    Sound body start (steps + 1) next := by
  cases action with
  | call party call =>
      simp only [GuardedBody.step] at taken
      split at taken
      · rename_i outside
        exact Option.some.inj taken ▸ sound.enqueue outside call
      · cases taken
  | exchange party =>
      simp only [GuardedBody.step] at taken
      split at taken
      · rename_i call tries isTrying
        split at taken
        · rename_i isFree
          exact Option.some.inj taken ▸ sound.obtain isFree
        · rw [if_pos (sound.tries_ne short isTrying)] at taken
          exact Option.some.inj taken ▸ sound.retry isTrying
      · cases taken
  | access party =>
      simp only [GuardedBody.step] at taken
      split at taken
      · rename_i call locals isInside
        obtain ⟨after, accessed, rfl⟩ := Option.map_eq_some_iff.mp taken
        exact sound.access isInside accessed
      · cases taken
  | release party =>
      simp only [GuardedBody.step] at taken
      split at taken
      · rename_i call locals isInside
        obtain ⟨ended, isNext⟩ := Option.ite_none_right_eq_some.mp taken
        exact Option.some.inj isNext ▸ sound.release isInside (Option.isNone_iff_eq_none.mp ended)
      · cases taken

/-! ## Runs -/

theorem Sound.exec {actions : List (Action Party Call)} (sound : Sound body start steps state)
    (short : steps + actions.length < 2 ^ 64)
    (executed : (body.system start).exec state actions = some next) :
    Sound body start (steps + actions.length) next := by
  induction actions generalizing state steps with
  | nil => exact Option.some.inj executed ▸ sound
  | cons action actions inductionHypothesis =>
      obtain ⟨middle, taken, executed⟩ := TransitionSystem.exec_cons executed
      rw [List.length_cons, Nat.add_comm actions.length, ← Nat.add_assoc] at short ⊢
      exact inductionHypothesis (sound.step (by omega) taken) short executed

/-- In a run of less than `2 ^ 64` steps, the operations take effect one after another. -/
theorem sound_of_exec {actions : List (Action Party Call)} (short : actions.length < 2 ^ 64)
    (executed : (body.system start).exec (started start) actions = some state) :
    Sound body start actions.length state := by
  have initially : Sound body start 0 (started start : State Party Call Local Shared) :=
    ⟨fun _ _ _ => (nomatch ·), start, .nil, .free rfl rfl fun _ _ _ => nofun⟩
  have sound := initially.exec (by rwa [Nat.zero_add]) executed
  rwa [Nat.zero_add] at sound

end Invariant

end GuardedBody
end ToyKernel
