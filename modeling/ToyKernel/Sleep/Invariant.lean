import ToyKernel.Sleep.System

/-!
# The invariant of the sleep queues

The sleepers are blocked in the scheduler under the ids in their nodes, and the lists of
the CPUs represent their calls.  Each step keeps this.
-/

namespace ToyKernel
namespace Sleep

open Scheduler (Platform World Sound)

/-- What the scheduler guarantees about the sleepers. -/
structure Grounded (platform : Platform) (state : State) : Prop where
  sound : Sound platform state.world
  small : state.world.SmallStamps
  haveCpus : state.world.HaveCpus platform
  blocked : ∀ thread call, state.calls thread = some call →
    state.world.Blocked thread ∧ thread.toNat < 2 ^ 52

section Act

variable {platform : Platform} {state next : State} {action : Scheduler.Action}
  {thread : Address} {cpu : Nat}

/-- A step of the scheduler keeps its own part of the invariant. -/
theorem Grounded.world_step {world : World} (grounded : Grounded platform state)
    (taken : state.world.step platform action = some world) :
    Sound platform world ∧ world.SmallStamps ∧ world.HaveCpus platform := by
  obtain ⟨summary, refines, invariant⟩ := grounded.sound
  obtain ⟨-, summary', refinesNext, moves⟩ := Scheduler.step_moves refines invariant taken
  exact ⟨⟨summary', refinesNext, moves.invariant refines invariant⟩,
    grounded.small.step refines invariant taken,
    grounded.haveCpus.step refines invariant taken⟩

/-- The ids of the sleepers do not change. -/
theorem Grounded.act_stamp {call : Call} (grounded : Grounded platform state)
    (taken : state.act platform action = some next)
    (called : state.calls thread = some call) :
    (next.world.state.threads thread).stamp = (state.world.state.threads thread).stamp := by
  obtain ⟨summary, refines, invariant⟩ := grounded.sound
  obtain ⟨world, stepped, rfl⟩ := act_eq_some_iff.mp taken
  exact Scheduler.World.step_threadStamp refines invariant stepped
    (grounded.blocked thread call called).1.attached

/-- A step that spares a sleeper leaves it blocked in its call. -/
theorem Grounded.act_spared {call : Call} (grounded : Grounded platform state)
    (taken : state.act platform action = some next)
    (called : state.calls thread = some call)
    (spared : ¬ action.EndsPause state.world.state thread) :
    next.calls thread = some call ∧ next.world.Blocked thread := by
  obtain ⟨summary, refines, invariant⟩ := grounded.sound
  obtain ⟨world, stepped, rfl⟩ := act_eq_some_iff.mp taken
  have blocked := (grounded.blocked thread call called).1.step refines invariant stepped spared
  exact ⟨(if_pos blocked.paused).trans called, blocked⟩

/-- No step of the scheduler puts a thread to sleep. -/
theorem calls_of_act {call : Call} (taken : state.act platform action = some next)
    (called : next.calls thread = some call) : state.calls thread = some call := by
  obtain ⟨world, -, rfl⟩ := act_eq_some_iff.mp taken
  simp only at called
  split at called
  · exact called
  · cases called

/-- A step that spares the sleepers changes neither the calls nor the guarantees. -/
theorem Grounded.act_quiet (grounded : Grounded platform state)
    (taken : state.act platform action = some next)
    (spared : ∀ thread call, state.calls thread = some call →
      ¬ action.EndsPause state.world.state thread) :
    Grounded platform next ∧ next.calls = state.calls := by
  have sameCalls : next.calls = state.calls := by
    funext thread
    cases called : state.calls thread with
    | none =>
        rw [Option.eq_none_iff_forall_ne_some]
        intro call calledNext
        rw [calls_of_act taken calledNext] at called
        cases called
    | some call => exact (grounded.act_spared taken called (spared thread call called)).1
  refine ⟨?_, sameCalls⟩
  have spares := fun thread call called =>
    (grounded.act_spared taken called (spared thread call called)).2
  obtain ⟨world, stepped, rfl⟩ := act_eq_some_iff.mp taken
  obtain ⟨sound, small, haveCpus⟩ := grounded.world_step stepped
  refine ⟨sound, small, haveCpus, fun thread call calledNext => ?_⟩
  have called : state.calls thread = some call := calls_of_act taken calledNext
  exact ⟨spares thread call called, (grounded.blocked thread call called).2⟩

/-- A sleeper that is resumed by its id runs, and the others sleep on. -/
theorem Grounded.act_resume {call : Call} (grounded : Grounded platform state)
    (called : state.calls thread = some call)
    (taken : state.act platform
      (.resume cpu (getStampId thread (state.world.state.threads thread).stamp)) = some next) :
    Grounded platform next ∧ next.calls = Function.update state.calls thread none ∧
      (next.world.state.threads thread).state = .running := by
  obtain ⟨summary, refines, invariant⟩ := grounded.sound
  obtain ⟨blocked, below⟩ := grounded.blocked thread call called
  have found := Scheduler.withStampId_self refines invariant grounded.small blocked.attached below
  have running : (next.world.state.threads thread).state = .running := by
    obtain ⟨world, stepped, rfl⟩ := act_eq_some_iff.mp taken
    exact blocked.resumed refines invariant grounded.small below stepped
  have spared : ∀ other, other ≠ thread →
      ¬ (Scheduler.Action.resume cpu (getStampId thread
        (state.world.state.threads thread).stamp)).EndsPause state.world.state other := by
    intro other different found'
    exact different (Except.ok.inj (found'.symm.trans found))
  have sameCalls : next.calls = Function.update state.calls thread none := by
    funext other
    rw [Function.update_apply]
    split
    · rename_i same
      subst same
      obtain ⟨world, stepped, rfl⟩ := act_eq_some_iff.mp taken
      exact if_neg (by rw [running]; simp)
    · rename_i different
      cases calledOther : state.calls other with
      | none =>
          rw [Option.eq_none_iff_forall_ne_some]
          intro call calledNext
          rw [calls_of_act taken calledNext] at calledOther
          cases calledOther
      | some call => exact (grounded.act_spared taken calledOther (spared other different)).1
  refine ⟨?_, sameCalls, running⟩
  have spares := fun other call (calledOther : state.calls other = some call) different =>
    (grounded.act_spared taken calledOther (spared other different)).2
  obtain ⟨world, stepped, rfl⟩ := act_eq_some_iff.mp taken
  obtain ⟨sound, small, haveCpus⟩ := grounded.world_step stepped
  refine ⟨sound, small, haveCpus, fun other call calledNext => ?_⟩
  have calledOther : state.calls other = some call := calls_of_act taken calledNext
  have different : other ≠ thread := by
    rintro rfl
    rw [sameCalls, Function.update_self] at calledNext
    cases calledNext
  exact ⟨spares other call calledOther different, (grounded.blocked other call calledOther).2⟩

/-- A thread that is executed is in no call of `sleep`. -/
theorem Grounded.calls_of_fsBase (grounded : Grounded platform state)
    (current : (state.world.state.machines cpu).fsBase = some thread) :
    state.calls thread = none := by
  obtain ⟨summary, refines, invariant⟩ := grounded.sound
  obtain ⟨-, running, -⟩ := Scheduler.of_fsBase refines invariant current
  rw [Option.eq_none_iff_forall_ne_some]
  intro call called
  have paused := (grounded.blocked thread call called).1.paused
  rw [Scheduler.threadState refines, running] at paused
  cases paused

/-- The caller of `sleep` is blocked in its call, and the others sleep on. -/
theorem Grounded.act_pauseThis {deadline : BitVec 64} {lock : Option Address}
    (grounded : Grounded platform state)
    (current : (state.world.state.machines cpu).fsBase = some thread)
    (below : thread.toNat < 2 ^ 52)
    (taken : (state.record thread cpu deadline).act platform (.pauseThis cpu lock) = some next) :
    Grounded platform next ∧ next.calls = (state.record thread cpu deadline).calls ∧
      ∀ other, state.world.attached other = true →
        (next.world.state.threads other).stamp = (state.world.state.threads other).stamp := by
  obtain ⟨summary, refines, invariant⟩ := grounded.sound
  obtain ⟨world, stepped, rfl⟩ := act_eq_some_iff.mp taken
  have runs : state.world.Runs platform cpu := (Scheduler.World.step_deactivate rfl stepped).1
  obtain ⟨world', stepped', blocked⟩ :=
    Scheduler.World.exists_step_pauseThis lock refines invariant grounded.small runs current below
  obtain rfl := Option.some.inj (stepped.symm.trans stepped')
  have others : ∀ other call, state.calls other = some call → world.Blocked other :=
    fun other call called =>
      (grounded.blocked other call called).1.step refines invariant stepped fun ends => ends
  obtain ⟨sound, small, haveCpus⟩ := grounded.world_step stepped
  have sameCalls : (fun other => if (world.state.threads other).state = .paused then
      (state.record thread cpu deadline).calls other else none) =
        (state.record thread cpu deadline).calls := by
    funext other
    simp only [State.record, Function.update_apply]
    split
    · rfl
    · rename_i notPaused
      have different : other ≠ thread := fun same => notPaused (same ▸ blocked.paused)
      rw [if_neg different]
      cases called : state.calls other with
      | none => rfl
      | some call => exact absurd (others other call called).paused notPaused
  refine ⟨⟨sound, small, haveCpus, ?_⟩, sameCalls, ?_⟩
  · intro other call calledNext
    rw [sameCalls] at calledNext
    simp only [State.record, Function.update_apply] at calledNext
    split at calledNext
    · rename_i same
      subst same
      exact ⟨blocked, below⟩
    · exact ⟨others other call calledNext, (grounded.blocked other call calledNext).2⟩
  · exact fun other => Scheduler.World.step_threadStamp refines invariant stepped

/-- The lists do not matter to the scheduler. -/
theorem Grounded.congr {after : State} (grounded : Grounded platform state)
    (sameWorld : after.world = state.world) (sameCalls : after.calls = state.calls) :
    Grounded platform after := by
  obtain ⟨sound, small, haveCpus, blocked⟩ := grounded
  rw [← sameWorld] at sound small haveCpus
  refine ⟨sound, small, haveCpus, fun thread call called => ?_⟩
  rw [sameCalls] at called
  rw [sameWorld]
  exact blocked thread call called

end Act

/-- The lists of all CPUs represent the calls, in nodes of their own. -/
structure Fits (platform : Platform) (state : State) (queues : Nat → List Sleeper) : Prop where
  grounded : Grounded platform state
  represents : ∀ cpu, Represents state cpu (queues cpu)
  numbered : ∀ thread call, state.calls thread = some call → call.number < state.total
  allocated : ∀ cpu, ∀ sleeper ∈ queues cpu, state.allocated sleeper.node = true
  apart : ∀ cpu, ∀ left ∈ queues cpu, ∀ other, ∀ right ∈ queues other,
    left.node = right.node → left = right

section Fits

variable {platform : Platform} {state next : State} {queues : Nat → List Sleeper}
  {action : Scheduler.Action}

theorem Fits.initial (starts : state.Initial) : Fits platform state fun _ => [] := by
  have noCalls := starts.calls
  refine ⟨⟨?_, ?_, ?_, ?_⟩, ?_, ?_, ?_, ?_⟩
  · exact ⟨_, starts.world.refines, starts.world.invariant platform⟩
  · refine ⟨starts.stamp, fun thread isAttached => ?_⟩
    rw [starts.world.attached] at isAttached
    cases isAttached
  · intro thread isAttached
    rw [starts.world.attached] at isAttached
    cases isAttached
  · intro thread call called
    rw [noCalls] at called
    cases called
  · intro cpu
    refine ⟨starts.tail cpu, nofun, nofun, ?_, List.nodup_nil, List.Pairwise.nil,
      starts.timerTicks cpu, nofun⟩
    intro thread call
    simp [noCalls]
  · intro thread call called
    rw [noCalls] at called
    cases called
  · exact fun _ _ absent => nomatch absent
  · exact fun _ _ absent => nomatch absent

/-- A step that touches neither sleepers nor timers changes nothing. -/
theorem Fits.quiet (fits : Fits platform state queues)
    (taken : state.act platform action = some next)
    (spared : ∀ thread call, state.calls thread = some call →
      ¬ action.EndsPause state.world.state thread)
    (sameTimers : next.world.state.timerTicks = state.world.state.timerTicks) :
    Fits platform next queues := by
  obtain ⟨grounded, sameCalls⟩ := fits.grounded.act_quiet taken spared
  have sameStamps : ∀ thread call, state.calls thread = some call →
      (next.world.state.threads thread).stamp = (state.world.state.threads thread).stamp :=
    fun _ _ called => fits.grounded.act_stamp taken called
  obtain ⟨world, -, rfl⟩ := act_eq_some_iff.mp taken
  refine ⟨grounded, fun cpu => ?_, ?_, fits.allocated, fits.apart⟩
  · refine (fits.represents cpu).frame rfl (fun _ _ => rfl) ?_ ?_ (by rw [sameTimers])
    · intro sleeper present
      exact sameStamps _ _ ((fits.represents cpu).called present).1
    · intro thread call _
      rw [sameCalls]
  · intro thread call called
    rw [sameCalls] at called
    exact fits.numbered thread call called

end Fits

end Sleep
end ToyKernel
