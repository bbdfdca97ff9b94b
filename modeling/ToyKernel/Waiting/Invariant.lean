import ToyKernel.Mutex.Queue
import ToyKernel.Sleep.Queue
import ToyKernel.Waiting.Defs

/-!
# The invariant of the waiting threads

Each node in a queue belongs to the call of a thread that does not run, and holds the id
of this thread.  A thread whose call has no node in a queue any more has been dequeued.
-/

namespace ToyKernel
namespace Waiting

open Scheduler (Platform World Sound)

/-- The nodes of the queues of the mutexes and of the lists of the CPUs. -/
def Queued (queues : Address → List Block) (lists : Nat → List Address) : Node → Prop
  | .mutex mutex block => block ∈ queues mutex
  | .sleep node => ∃ cpu, node ∈ lists cpu

/-- A thread that is attached and does not run. -/
structure Idle (world : World) (thread : Address) : Prop where
  attached : world.attached thread = true
  notRunning : (world.state.threads thread).state ≠ .running
  below : thread.toNat < 2 ^ 52

/-- What the histories say about the nodes in the queues. -/
structure Tracks (platform : Platform) (state : State) (queues : Address → List Block)
    (lists : Nat → List Address) : Prop where
  sound : Sound platform state.world
  small : state.world.SmallStamps
  queued : ∀ node, Queued queues lists node → ∃ waiter, state.waiters node = some waiter
  listed : ∀ node waiter, state.waiters node = some waiter → Queued queues lists node
  ids : ∀ node waiter, state.waiters node = some waiter → state.idOf node =
    getStampId waiter.thread (state.world.state.threads waiter.thread).stamp
  blocked : ∀ node waiter, state.waiters node = some waiter →
    state.calls waiter.thread = some ⟨node, waiter.number⟩ ∧ Idle state.world waiter.thread
  pending : ∀ thread call, state.calls thread = some call →
    state.waiters call.node = some ⟨thread, call.number⟩ ∨ state.dequeued call.number = true
  right : ∀ event ∈ state.history, event.Right

section Tracks

variable {platform : Platform} {state next : State} {sleepers : Sleep.State}
  {queues : Address → List Block} {lists : Nat → List Address} {action : Scheduler.Action}
  {thread : Address} {waiter : Waiter} {node : Node} {cpu : Nat} {err : ErrCode}

/-- A step of the scheduler leaves a thread idle that it neither resumes nor detaches. -/
theorem Idle.step {world after : World} (idle : Idle world thread) (sound : Sound platform world)
    (stepped : world.step platform action = some after)
    (notDetach : ∀ cpu id, action = .detach cpu id →
      Scheduler.withStampId world.state id ≠ .ok thread)
    (notResume : ∀ cpu id, action = .resume cpu id →
      Scheduler.withStampId world.state id = .ok thread →
      (world.state.threads thread).state ≠ .paused) :
    Idle after thread := by
  obtain ⟨summary, refines, invariant⟩ := sound
  obtain ⟨attachedNext, kept⟩ := Scheduler.World.step_idle refines invariant idle.attached
    idle.notRunning notDetach stepped
  refine ⟨attachedNext, ?_, idle.below⟩
  rcases kept with same | ⟨_, _, _, _, _, stopped⟩ | ⟨cpu, id, isResume, found, paused⟩
  · rw [same]
    exact idle.notRunning
  · rw [stopped]
    simp
  · exact absurd paused (notResume cpu id isResume found)

/-- A step of the scheduler keeps its own invariant. -/
theorem sound_step {world after : World} (sound : Sound platform world)
    (small : world.SmallStamps) (stepped : world.step platform action = some after) :
    Sound platform after ∧ after.SmallStamps := by
  obtain ⟨summary, refines, invariant⟩ := sound
  obtain ⟨-, summary', refinesNext, moves⟩ := Scheduler.step_moves refines invariant stepped
  exact ⟨⟨summary', refinesNext, moves.invariant refines invariant⟩,
    small.step refines invariant stepped⟩

/-- A step of the scheduler does not touch the sleep lists. -/
theorem step_of_act {before : Sleep.State}
    (acted : before.act platform action = some sleepers) :
    before.world.step platform action = some sleepers.world ∧ sleepers.nodes = before.nodes ∧
      sleepers.sleeping = before.sleeping ∧ sleepers.allocated = before.allocated := by
  obtain ⟨world, stepped, rfl⟩ := Sleep.act_eq_some_iff.mp acted
  exact ⟨stepped, rfl, rfl, rfl⟩

theorem idOf_setSleepers
    (same : ∀ node, (sleepers.nodes node).thread = (state.sleepers.nodes node).thread)
    (node : Node) : (state.setSleepers sleepers).idOf node = state.idOf node := by
  cases node with
  | mutex mutex block => rfl
  | sleep node => exact same node

/-- A step of the scheduler that leaves the waiting threads idle. -/
theorem Tracks.act (tracks : Tracks platform state queues lists)
    (acted : state.sleepers.act platform action = some sleepers)
    (idle : ∀ node waiter, state.waiters node = some waiter →
      Idle sleepers.world waiter.thread) :
    Tracks platform (state.setSleepers sleepers) queues lists := by
  obtain ⟨stepped, sameNodes, -, -⟩ := step_of_act acted
  obtain ⟨sound, small⟩ := sound_step tracks.sound tracks.small stepped
  obtain ⟨summary, refines, invariant⟩ := tracks.sound
  refine ⟨sound, small, tracks.queued, tracks.listed, fun node waiter waits => ?_,
    fun node waiter waits => ⟨(tracks.blocked node waiter waits).1, idle node waiter waits⟩,
    tracks.pending, tracks.right⟩
  have isAttached := (tracks.blocked node waiter waits).2.attached
  rw [idOf_setSleepers fun _ => by rw [sameNodes], tracks.ids node waiter waits]
  exact congrArg _ (Scheduler.World.step_threadStamp refines invariant stepped isAttached).symm

/-- A step of the scheduler that neither resumes nor detaches a waiting thread. -/
theorem Tracks.act_spared (tracks : Tracks platform state queues lists)
    (acted : state.sleepers.act platform action = some sleepers)
    (spared : ∀ id, (∃ cpu, action = .detach cpu id) ∨ (∃ cpu, action = .resume cpu id) →
      state.Spares id) :
    Tracks platform (state.setSleepers sleepers) queues lists := by
  refine tracks.act acted fun node waiter waits => ?_
  obtain ⟨stepped, -⟩ := step_of_act acted
  obtain ⟨called, idle⟩ := tracks.blocked node waiter waits
  have absent : ∀ id, state.Spares id →
      Scheduler.withStampId state.world.state id ≠ .ok waiter.thread := by
    intro id spares found
    simp only [State.Spares, found] at spares
    exact spares ⟨_, called, waits⟩
  refine idle.step tracks.sound stepped (fun cpu id isDetach => ?_) fun cpu id isResume found => ?_
  · exact absent id (spared id (.inl ⟨cpu, isDetach⟩))
  · exact absurd found (absent id (spared id (.inr ⟨cpu, isResume⟩)))

/-! ## Leaving a queue -/

/-- The thread that waits in a node is the one that the id in it leads to. -/
theorem Tracks.found (tracks : Tracks platform state queues lists)
    (waits : state.waiters node = some waiter) :
    getStampIdPtr (state.idOf node) = waiter.thread ∧
      Scheduler.withStampId state.world.state (state.idOf node) = .ok waiter.thread := by
  obtain ⟨summary, refines, invariant⟩ := tracks.sound
  have idle := (tracks.blocked node waiter waits).2
  rw [tracks.ids node waiter waits]
  exact ⟨getStampIdPtr_getStampId idle.below (tracks.small.threads _ idle.attached),
    Scheduler.withStampId_self refines invariant tracks.small idle.attached idle.below⟩

/-- A thread waits in one node only. -/
theorem Tracks.waiter_unique {other : Node} {second : Waiter}
    (tracks : Tracks platform state queues lists) (waits : state.waiters node = some waiter)
    (alsoWaits : state.waiters other = some second) (same : second.thread = waiter.thread) :
    other = node := by
  have called := (tracks.blocked node waiter waits).1
  have alsoCalled := (tracks.blocked other second alsoWaits).1
  rw [same, called] at alsoCalled
  exact (Call.mk.inj (Option.some.inj alsoCalled)).1.symm

/-- A node is dequeued and `resume_thread` is called for the id in it. -/
theorem Tracks.depart {queuesAfter : Address → List Block} {listsAfter : Nat → List Address}
    (tracks : Tracks platform state queues lists) (isQueued : Queued queues lists node)
    (acted : state.sleepers.act platform (.resume cpu (state.idOf node)) = some sleepers)
    (others : ∀ other, Queued queuesAfter listsAfter other ↔
      other ≠ node ∧ Queued queues lists other) :
    Tracks platform ((state.setSleepers sleepers).depart node (state.idOf node) err)
      queuesAfter listsAfter := by
  obtain ⟨waiter, waits⟩ := tracks.queued node isQueued
  obtain ⟨pointer, found⟩ := tracks.found waits
  obtain ⟨stepped, sameNodes, -, -⟩ := step_of_act acted
  obtain ⟨sound, small⟩ := sound_step tracks.sound tracks.small stepped
  have remaining : ∀ other second,
      ((state.setSleepers sleepers).depart node (state.idOf node) err).waiters other =
        some second → other ≠ node ∧ state.waiters other = some second := by
    intro other second alsoWaits
    rcases eq_or_ne other node with rfl | different
    · simp [State.depart] at alsoWaits
    · exact ⟨different, by simpa [State.depart, State.setSleepers, different] using alsoWaits⟩
  constructor
  · exact sound
  · exact small
  · intro other stillQueued
    obtain ⟨different, wasQueued⟩ := (others other).mp stillQueued
    obtain ⟨second, alsoWaits⟩ := tracks.queued other wasQueued
    exact ⟨second, by simpa [State.depart, State.setSleepers, different] using alsoWaits⟩
  · intro other second alsoWaits
    obtain ⟨different, alsoWaits⟩ := remaining other second alsoWaits
    exact (others other).mpr ⟨different, tracks.listed other second alsoWaits⟩
  · intro other second alsoWaits
    obtain ⟨-, alsoWaits⟩ := remaining other second alsoWaits
    obtain ⟨summary, refines, invariant⟩ := tracks.sound
    have isAttached := (tracks.blocked other second alsoWaits).2.attached
    have sameId : ((state.setSleepers sleepers).depart node (state.idOf node) err).idOf other =
        state.idOf other := by
      rw [State.idOf_depart, idOf_setSleepers fun _ => by rw [sameNodes]]
    rw [sameId, tracks.ids other second alsoWaits]
    exact congrArg _
      (Scheduler.World.step_threadStamp refines invariant stepped isAttached).symm
  · intro other second alsoWaits
    obtain ⟨different, alsoWaits⟩ := remaining other second alsoWaits
    obtain ⟨called, idle⟩ := tracks.blocked other second alsoWaits
    refine ⟨called, idle.step tracks.sound stepped (fun _ _ isDetach => ?_) ?_⟩
    · cases isDetach
    · intro _ _ isResume foundOther
      obtain ⟨rfl, rfl⟩ := Scheduler.Action.resume.inj isResume
      have same := Except.ok.inj (foundOther.symm.trans found)
      exact absurd (tracks.waiter_unique waits alsoWaits same) different
  · intro thread call called
    rw [State.depart_waiters, State.depart_dequeued]
    simp only [State.setSleepers_waiters, State.setSleepers_dequeued, waits,
      Function.update_apply]
    rcases tracks.pending thread call called with alsoWaits | done
    · by_cases same : call.node = node
      · rw [same, waits] at alsoWaits
        obtain rfl := Option.some.inj alsoWaits
        simp
      · simp [same, alsoWaits]
    · simp [done]
  · intro event present
    simp only [State.depart_history, State.setSleepers_history] at present
    split at present
    · rcases List.mem_append.mp present with before | isNew
      · exact tracks.right event before
      · obtain rfl := List.mem_singleton.mp isNew
        refine ⟨waiter.number, ?_, ?_⟩
        · rw [State.setSleepers_waiters, waits, pointer]
        · rw [State.setSleepers_calls, pointer, (tracks.blocked node waiter waits).1]
    · exact tracks.right event present

/-- The thread that a CPU executes is not idle. -/
theorem Tracks.not_idle (tracks : Tracks platform state queues lists)
    (current : (state.world.state.machines cpu).fsBase = some thread) :
    ¬ Idle state.world thread := by
  obtain ⟨summary, refines, invariant⟩ := tracks.sound
  intro idle
  apply idle.notRunning
  rw [Scheduler.threadState refines]
  exact (Scheduler.of_fsBase refines invariant current).2.1

/-- A thread returns from its call. -/
theorem Tracks.returnFromCall (tracks : Tracks platform state queues lists)
    (done : returnFromCall state cpu = some next) : Tracks platform next queues lists := by
  obtain ⟨thread, current, done⟩ := Option.bind_eq_some_iff.mp done
  obtain ⟨call, called, done⟩ := Option.bind_eq_some_iff.mp done
  obtain rfl := Option.some.inj done
  have notIdle := tracks.not_idle current
  refine ⟨tracks.sound, tracks.small, tracks.queued, tracks.listed, tracks.ids, ?_, ?_, ?_⟩
  · intro node waiter waits
    obtain ⟨calledOther, idle⟩ := tracks.blocked node waiter waits
    have different : waiter.thread ≠ thread := fun same => notIdle (same ▸ idle)
    exact ⟨(Function.update_of_ne different ..).trans calledOther, idle⟩
  · intro other otherCall calledOther
    simp only [Function.update_apply] at calledOther
    split at calledOther
    · cases calledOther
    · exact tracks.pending other otherCall calledOther
  · intro event present
    rcases List.mem_append.mp present with before | isNew
    · exact tracks.right event before
    · obtain rfl := List.mem_singleton.mp isNew
      intro mutex block _
      rcases tracks.pending thread call called with waits | dequeued
      · exact absurd (tracks.blocked _ _ waits).2 notIdle
      · exact dequeued

/-! ## Entering a queue -/

/-- What the steps of the scheduler do that neither resume nor detach a thread. -/
structure Keeps (platform : Platform) (before after : World) : Prop where
  sound : Sound platform after
  small : after.SmallStamps
  stamps : ∀ thread, before.attached thread = true →
    (after.state.threads thread).stamp = (before.state.threads thread).stamp
  attached : ∀ thread, before.attached thread = true → after.attached thread = true
  idle : ∀ thread, Idle before thread → Idle after thread

theorem Keeps.trans {first second third : World} (left : Keeps platform first second)
    (right : Keeps platform second third) : Keeps platform first third where
  sound := right.sound
  small := right.small
  stamps thread isAttached :=
    (right.stamps thread (left.attached thread isAttached)).trans (left.stamps thread isAttached)
  attached thread isAttached := right.attached thread (left.attached thread isAttached)
  idle thread idle := right.idle thread (left.idle thread idle)

theorem keeps_of_step {world after : World} (sound : Sound platform world)
    (small : world.SmallStamps) (stepped : world.step platform action = some after)
    (sameAttached : after.attached = world.attached)
    (quiet : ∀ cpu id, action ≠ .detach cpu id ∧ action ≠ .resume cpu id) :
    Keeps platform world after := by
  obtain ⟨soundAfter, smallAfter⟩ := sound_step sound small stepped
  refine ⟨soundAfter, smallAfter, fun thread isAttached => ?_, fun thread isAttached => ?_,
    fun thread idle => ?_⟩
  · obtain ⟨summary, refines, invariant⟩ := sound
    exact Scheduler.World.step_threadStamp refines invariant stepped isAttached
  · rw [sameAttached]
    exact isAttached
  · exact idle.step sound stepped (fun cpu id isDetach => absurd isDetach (quiet cpu id).1)
      fun cpu id isResume => absurd isResume (quiet cpu id).2

/-- A thread that pauses itself is idle. -/
theorem keeps_pauseThis {world after : World} {lock : Option Address}
    (sound : Sound platform world) (small : world.SmallStamps)
    (current : (world.state.machines cpu).fsBase = some thread) (below : thread.toNat < 2 ^ 52)
    (stepped : world.step platform (.pauseThis cpu lock) = some after) :
    Keeps platform world after ∧ Idle after thread := by
  obtain ⟨runs, sameAttached, -⟩ := Scheduler.World.step_deactivate rfl stepped
  refine ⟨keeps_of_step sound small stepped sameAttached (by simp), ?_⟩
  obtain ⟨summary, refines, invariant⟩ := sound
  obtain ⟨after', stepped', blocked⟩ :=
    Scheduler.World.exists_step_pauseThis lock refines invariant small runs current below
  obtain rfl := Option.some.inj (stepped.symm.trans stepped')
  exact ⟨blocked.attached, by rw [blocked.paused]; simp, below⟩

/-- A thread enters a queue and is paused. -/
theorem Tracks.enter {mutexes : Address → Mutex} {queuesAfter : Address → List Block}
    {listsAfter : Nat → List Address} (tracks : Tracks platform state queues lists)
    (keeps : Keeps platform state.world sleepers.world) (idle : Idle sleepers.world thread)
    (uncalled : state.calls thread = none)
    (id : State.idOf { state with sleepers := sleepers, mutexes := mutexes } node =
      getStampId thread (sleepers.world.state.threads thread).stamp)
    (ids : ∀ other, other ≠ node →
      State.idOf { state with sleepers := sleepers, mutexes := mutexes } other =
        state.idOf other)
    (fresh : ¬ Queued queues lists node)
    (others : ∀ other, Queued queuesAfter listsAfter other ↔
      other = node ∨ Queued queues lists other) :
    Tracks platform
      (State.enter { state with sleepers := sleepers, mutexes := mutexes } thread node)
      queuesAfter listsAfter := by
  have unlisted : state.waiters node = none := by
    rw [Option.eq_none_iff_forall_ne_some]
    exact fun waiter waits => fresh (tracks.listed node waiter waits)
  constructor
  · exact keeps.sound
  · exact keeps.small
  · intro other isQueued
    rw [State.enter_waiters, Function.update_apply]
    split
    · exact ⟨_, rfl⟩
    · rename_i different
      exact tracks.queued other (((others other).mp isQueued).resolve_left different)
  · intro other waiter waits
    rw [State.enter_waiters, Function.update_apply] at waits
    split at waits
    · rename_i same
      exact (others other).mpr (.inl same)
    · exact (others other).mpr (.inr (tracks.listed other waiter waits))
  · intro other waiter waits
    rw [State.idOf_enter]
    rw [State.enter_waiters, Function.update_apply] at waits
    split at waits
    · rename_i same
      obtain rfl := Option.some.inj waits
      rw [same]
      exact id
    · rename_i different
      have isAttached := (tracks.blocked other waiter waits).2.attached
      rw [ids other different, tracks.ids other waiter waits]
      exact congrArg _ (keeps.stamps waiter.thread isAttached).symm
  · intro other waiter waits
    rw [State.enter_calls, Function.update_apply]
    rw [State.enter_waiters, Function.update_apply] at waits
    split at waits
    · rename_i same
      obtain rfl := Option.some.inj waits
      rw [if_pos rfl, same]
      exact ⟨rfl, idle⟩
    · obtain ⟨called, otherIdle⟩ := tracks.blocked other waiter waits
      have different : waiter.thread ≠ thread := by
        rintro same
        rw [same, uncalled] at called
        cases called
      rw [if_neg different]
      exact ⟨called, keeps.idle waiter.thread otherIdle⟩
  · intro other call called
    rw [State.enter_calls, Function.update_apply] at called
    rw [State.enter_waiters, Function.update_apply]
    split at called
    · rename_i same
      obtain rfl := Option.some.inj called
      rw [if_pos rfl, same]
      exact .inl rfl
    · rcases tracks.pending other call called with waits | dequeued
      · have different : call.node ≠ node := by
          rintro same
          rw [same, unlisted] at waits
          cases waits
        rw [if_neg different]
        exact .inl waits
      · exact .inr dequeued
  · exact tracks.right

end Tracks

end Waiting
end ToyKernel
