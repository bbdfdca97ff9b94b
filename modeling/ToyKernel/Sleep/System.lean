import ToyKernel.Scheduler.Blocking
import ToyKernel.Sleep.Queue

/-!
# Runs with sleeping threads

Calls of `sleep` and timer interrupts on any number of CPUs, and any other steps of the
scheduler that leave the sleepers and the timers alone.
-/

namespace ToyKernel
namespace Sleep

open Scheduler (Platform World)

/-- The steps.  A call of `sleep` comes with the block that the pool hands out, if any, and
with the rounds that its loop may take. -/
inductive Action
  | sleep (cpu : Nat) (period : BitVec 64) (block : Option Address) (rounds : Nat)
  | timer (cpu : Nat)
  | other (action : Scheduler.Action)

/-- One step. -/
def step (platform : Platform) (state : State) : Action → Option State
  | .sleep cpu period block rounds =>
      (sleep platform state cpu period block rounds).map Prod.fst
  | .timer cpu => timerInterrupt platform state cpu
  | .other action => state.act platform action

/-- Nobody sleeps yet. -/
structure State.Initial (state : State) : Prop where
  world : state.world.Initial
  stamp : state.world.state.stamp < 2 ^ stampIdStampBits
  timerTicks : ∀ cpu, state.world.state.timerTicks cpu = 0
  tail : ∀ cpu, (state.sleeping cpu).tail = none
  calls : ∀ thread, state.calls thread = none

/-- The sleep queues as a transition system. -/
def system (platform : Platform) : TransitionSystem State Action where
  initial := State.Initial
  step := step platform

/-- Whether an id refers to no sleeper. -/
def State.Spares (state : State) (id : BitVec 64) : Prop :=
  match Scheduler.withStampId state.world.state id with
  | .ok thread => state.calls thread = none
  | .error _ => True

instance (state : State) (id : BitVec 64) : Decidable (state.Spares id) :=
  match found : Scheduler.withStampId state.world.state id with
  | .ok thread => decidable_of_iff (state.calls thread = none) (by rw [State.Spares, found])
  | .error _ => .isTrue (by rw [State.Spares, found]; trivial)

/-- Whether a step of others leaves the timers alone, and the sleepers blocked. -/
def State.Undisturbed (state : State) : Scheduler.Action → Prop
  | .setTimerTicks _ _ => False
  | .timer _ => False
  | .resume _ id => state.Spares id
  | .stop _ id _ => state.Spares id
  | .detach _ id => state.Spares id
  | _ => True

instance (state : State) : ∀ action, Decidable (state.Undisturbed action)
  | .setTimerTicks _ _ => .isFalse id
  | .timer _ => .isFalse id
  | .resume _ id => inferInstanceAs (Decidable (state.Spares id))
  | .stop _ id _ => inferInstanceAs (Decidable (state.Spares id))
  | .detach _ id => inferInstanceAs (Decidable (state.Spares id))
  | .prepare _ _ => .isTrue trivial
  | .setContext _ _ _ => .isTrue trivial
  | .store _ _ => .isTrue trivial
  | .execute _ _ => .isTrue trivial
  | .attach _ _ => .isTrue trivial
  | .pause _ _ => .isTrue trivial
  | .pauseThis _ _ => .isTrue trivial

/-- What the callers and the pools see to.  The clock has started and the deadline does not
overflow, the block is not in use, and the address of the thread fits into an id. -/
def Allowed (state : State) : Action → Prop
  | .sleep cpu period block _ =>
      1 ≤ state.world.state.ticks ∧
      state.world.state.ticks.toNat + period.toNat / configSchedulerTickInterval < 2 ^ 64 ∧
      (∀ node ∈ block, state.allocated node = false) ∧
      ∀ thread ∈ (state.world.state.machines cpu).fsBase, thread.toNat < 2 ^ 52
  | .timer _ => True
  | .other action => state.Undisturbed action

instance (state : State) : ∀ action, Decidable (Allowed state action)
  | .sleep cpu _ block _ =>
      -- without these, all addresses would be tried
      letI : Decidable (∀ node ∈ block, state.allocated node = false) :=
        Option.decidableForallMem _
      letI : Decidable (∀ thread ∈ (state.world.state.machines cpu).fsBase,
          thread.toNat < 2 ^ 52) :=
        Option.decidableForallMem _
      inferInstanceAs (Decidable (_ ∧ _ ∧ _ ∧ _))
  | .timer _ => .isTrue trivial
  | .other action => inferInstanceAs (Decidable (state.Undisturbed action))

/-- The steps of others do not end the pause of a sleeper. -/
theorem State.Undisturbed.spared {state : State} {action : Scheduler.Action}
    (undisturbed : state.Undisturbed action) :
    (∀ cpu ticks, action ≠ .setTimerTicks cpu ticks) ∧ (∀ cpu, action ≠ .timer cpu) ∧
      ∀ thread call, state.calls thread = some call →
        ¬ action.EndsPause state.world.state thread := by
  have spares : ∀ id, state.Spares id → ∀ thread call, state.calls thread = some call →
      Scheduler.withStampId state.world.state id ≠ .ok thread := by
    intro id spared thread call called found
    simp only [State.Spares, found, called] at spared
    cases spared
  cases action with
  | setTimerTicks => exact undisturbed.elim
  | timer => exact undisturbed.elim
  | resume cpu id => exact ⟨nofun, nofun, spares id undisturbed⟩
  | stop cpu id output => exact ⟨nofun, nofun, spares id undisturbed⟩
  | detach cpu id => exact ⟨nofun, nofun, spares id undisturbed⟩
  | _ => exact ⟨nofun, nofun, fun _ _ _ ends => ends⟩

/-! ## What the lists represent -/

/-- A node with the thread that waits in it and the call of this thread. -/
structure Sleeper where
  node : Address
  thread : Address
  call : Call
  deriving DecidableEq

/-- A call may end before another: at an earlier tick, or at the same one if it came first. -/
def Call.Before (left right : Call) : Prop :=
  left.deadline < right.deadline ∨
    left.deadline = right.deadline ∧ left.number < right.number

/-- The timer for a list: the first deadline, or zero. -/
def alarm : List Sleeper → BitVec 64
  | [] => 0
  | first :: _ => first.call.deadline

/-- The list of a CPU holds the threads that sleep on it, once, in the order in which they
wake up, and the timer is set for the first one. -/
structure Represents (state : State) (cpu : Nat) (queue : List Sleeper) : Prop where
  chain : Chain (links state.nodes) (state.sleeping cpu).tail (queue.map Sleeper.node)
  ids : ∀ sleeper ∈ queue, (state.nodes sleeper.node).thread =
    getStampId sleeper.thread (state.world.state.threads sleeper.thread).stamp
  ticks : ∀ sleeper ∈ queue, (state.nodes sleeper.node).ticks = sleeper.call.deadline
  members : ∀ thread call, (∃ node, ⟨node, thread, call⟩ ∈ queue) ↔
    state.calls thread = some call ∧ call.cpu = cpu
  once : (queue.map Sleeper.thread).Nodup
  sorted : queue.Pairwise fun left right => left.call.Before right.call
  armed : state.world.state.timerTicks cpu = alarm queue
  notZero : ∀ sleeper ∈ queue, sleeper.call.deadline ≠ 0

namespace Represents

variable {state after : State} {cpu : Nat} {queue : List Sleeper} {sleeper first : Sleeper}
  {rest : List Sleeper}

theorem called (represents : Represents state cpu queue) (present : sleeper ∈ queue) :
    state.calls sleeper.thread = some sleeper.call ∧ sleeper.call.cpu = cpu :=
  (represents.members sleeper.thread sleeper.call).mp ⟨sleeper.node, present⟩

/-- Only the nodes of the list, the calls on the CPU and its timer matter. -/
theorem frame (represents : Represents state cpu queue)
    (sameTail : (after.sleeping cpu).tail = (state.sleeping cpu).tail)
    (sameNodes : ∀ sleeper ∈ queue, after.nodes sleeper.node = state.nodes sleeper.node)
    (sameStamps : ∀ sleeper ∈ queue, (after.world.state.threads sleeper.thread).stamp =
      (state.world.state.threads sleeper.thread).stamp)
    (sameCalls : ∀ thread call, call.cpu = cpu →
      (after.calls thread = some call ↔ state.calls thread = some call))
    (sameTimer : after.world.state.timerTicks cpu = state.world.state.timerTicks cpu) :
    Represents after cpu queue where
  chain := by
    rw [sameTail]
    refine represents.chain.congr fun node present => ?_
    obtain ⟨sleeper, isMember, rfl⟩ := List.mem_map.mp present
    rw [links, links, sameNodes sleeper isMember]
  ids sleeper present := by
    rw [sameNodes sleeper present, sameStamps sleeper present]
    exact represents.ids sleeper present
  ticks sleeper present := by
    rw [sameNodes sleeper present]
    exact represents.ticks sleeper present
  members thread call := by
    rw [represents.members]
    constructor
    · rintro ⟨called, onCpu⟩
      exact ⟨(sameCalls thread call onCpu).mpr called, onCpu⟩
    · rintro ⟨called, onCpu⟩
      exact ⟨(sameCalls thread call onCpu).mp called, onCpu⟩
  once := represents.once
  sorted := represents.sorted
  armed := sameTimer.trans represents.armed
  notZero := represents.notZero

/-- The first of the list comes before all other sleepers of the CPU. -/
theorem first_before (represents : Represents state cpu (first :: rest)) {other : Address}
    {call : Call} (called : state.calls other = some call) (onCpu : call.cpu = cpu)
    (different : other ≠ first.thread) : first.call.Before call := by
  obtain ⟨node, present⟩ := (represents.members other call).mpr ⟨called, onCpu⟩
  rcases List.mem_cons.mp present with rfl | behind
  · exact absurd rfl different
  · exact (List.pairwise_cons.mp represents.sorted).1 _ behind

/-- A thread that is not the first of the list is one of the rest. -/
theorem mem_rest (represents : Represents state cpu (first :: rest)) (present : sleeper ∈ rest) :
    sleeper.thread ≠ first.thread := by
  have once := represents.once
  rw [List.map_cons, List.nodup_cons] at once
  intro same
  exact once.1 (same ▸ List.mem_map_of_mem present)

end Represents

end Sleep
end ToyKernel
