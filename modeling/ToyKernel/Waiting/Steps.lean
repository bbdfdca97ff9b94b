import ToyKernel.Sleep.Lists
import ToyKernel.Waiting.Invariant

/-!
# The steps of the waiting threads

The queues of the mutexes and the lists of the CPUs hold the nodes of the invariant, and
each step keeps this.
-/

namespace ToyKernel
namespace Waiting

open Scheduler (Platform World Sound)

/-- The queues and the lists of a state. -/
structure Fits (platform : Platform) (state : State) (queues : Address → List Block)
    (lists : Nat → List Address) : Prop where
  tracks : Tracks platform state queues lists
  queues : ∀ mutex, (state.mutexes mutex).Queue (queues mutex)
  lists : Sleep.Chained state.sleepers lists

section Steps

variable {platform : Platform} {state next : State} {before sleepers : Sleep.State}
  {queues : Address → List Block} {lists : Nat → List Address} {action : Scheduler.Action}
  {thread mutex : Address} {cpu : Nat}

theorem caller_eq_some_iff : state.caller cpu = some thread ↔
    (state.world.state.machines cpu).fsBase = some thread ∧ state.calls thread = none := by
  simp only [State.caller, Option.bind_eq_bind, Option.bind_eq_some_iff,
    Option.ite_none_right_eq_some, Option.some.injEq]
  constructor
  · rintro ⟨current, isCurrent, uncalled, rfl⟩
    exact ⟨isCurrent, uncalled⟩
  · rintro ⟨isCurrent, uncalled⟩
    exact ⟨thread, isCurrent, uncalled, rfl⟩

/-- The lists of another state with the same nodes, tails and blocks. -/
theorem chained_of_same (chained : Sleep.Chained before lists)
    (nodes : sleepers.nodes = before.nodes) (sleeping : sleepers.sleeping = before.sleeping)
    (allocated : sleepers.allocated = before.allocated) : Sleep.Chained sleepers lists :=
  chained.congr (fun cpu => by rw [sleeping]) (fun _ node _ => by rw [nodes])
    fun _ node _ => by rw [allocated]

/-- The pools and the tails do not matter to the histories. -/
theorem Tracks.congr (tracks : Tracks platform state queues lists)
    (world : sleepers.world = state.sleepers.world)
    (ids : ∀ node, (sleepers.nodes node).thread = (state.sleepers.nodes node).thread) :
    Tracks platform (state.setSleepers sleepers) queues lists where
  sound := by
    rw [State.world, State.setSleepers_sleepers, world]
    exact tracks.sound
  small := by
    rw [State.world, State.setSleepers_sleepers, world]
    exact tracks.small
  queued := tracks.queued
  listed := tracks.listed
  ids node waiter waits := by
    rw [idOf_setSleepers ids, State.world, State.setSleepers_sleepers, world]
    exact tracks.ids node waiter waits
  blocked node waiter waits := by
    rw [State.world, State.setSleepers_sleepers, world]
    exact tracks.blocked node waiter waits
  pending := tracks.pending
  right := tracks.right

/-- A mutex changes, but not the ids in its nodes. -/
theorem Tracks.setMutex {data : Mutex} (tracks : Tracks platform state queues lists)
    (same : data.node = (state.mutexes mutex).node) :
    Tracks platform (state.setMutex mutex data) queues lists := by
  refine ⟨tracks.sound, tracks.small, tracks.queued, tracks.listed, fun node waiter waits => ?_,
    tracks.blocked, tracks.pending, tracks.right⟩
  have sameId : (state.setMutex mutex data).idOf node = state.idOf node := by
    cases node with
    | sleep node => rfl
    | mutex other block =>
        simp only [State.idOf, State.setMutex_mutexes, Function.update_apply]
        split
        · rename_i isMutex
          rw [isMutex, same]
        · rfl
  rw [sameId]
  exact tracks.ids node waiter waits

theorem Fits.initial (starts : state.Initial) :
    Fits platform state (fun _ => []) fun _ => [] where
  tracks := by
    have noWaiters := starts.waiters
    have noCalls := starts.calls
    refine ⟨⟨_, starts.world.refines, starts.world.invariant platform⟩,
      ⟨starts.stamp, fun thread isAttached => ?_⟩, ?_, ?_, ?_, ?_, ?_, ?_⟩
    · rw [starts.world.attached] at isAttached
      cases isAttached
    · intro node isQueued
      cases node with
      | mutex mutex block => cases isQueued
      | sleep node =>
          obtain ⟨cpu, present⟩ := isQueued
          cases present
    · simp [noWaiters]
    · simp [noWaiters]
    · simp [noWaiters]
    · simp [noCalls]
    · simp [starts.history]
  queues mutex := by
    rw [starts.mutexes]
    exact .create
  lists :=
    { chain := starts.tail
      nodup := fun _ => List.nodup_nil
      allocated := by simp
      apart := by simp }

/-- A mutex whose queue does not change. -/
theorem Fits.setMlock (fits : Fits platform state queues lists) (mlock : Spinlock) :
    Fits platform (state.setMutex mutex { state.mutexes mutex with mlock := mlock }) queues
      lists where
  tracks := fits.tracks.setMutex rfl
  queues other := by
    rw [State.setMutex_mutexes, Function.update_apply]
    split
    · rename_i same
      rw [same]
      exact (fits.queues mutex).with_mlock mlock
    · exact fits.queues other
  lists := fits.lists

theorem Fits.tryMutex (fits : Fits platform state queues lists)
    (done : tryMutex state cpu mutex = some next) : Fits platform next queues lists := by
  obtain ⟨thread, -, done⟩ := Option.bind_eq_some_iff.mp done
  obtain rfl := Option.some.inj done
  exact fits.setMlock _

/-- The other steps of the scheduler. -/
theorem Fits.act (fits : Fits platform state queues lists)
    (acted : state.sleepers.act platform action = some sleepers)
    (spared : ∀ id, (∃ cpu, action = .detach cpu id) ∨ (∃ cpu, action = .resume cpu id) →
      state.Spares id) : Fits platform (state.setSleepers sleepers) queues lists where
  tracks := fits.tracks.act_spared acted spared
  queues := fits.queues
  lists := by
    obtain ⟨-, nodes, sleeping, allocated⟩ := step_of_act acted
    exact chained_of_same fits.lists nodes sleeping allocated

/-! ## `__sleep_in_mutex` -/

/-- The second try and the allocation of a node. -/
theorem sleepInMutex_cases (data : Mutex) (block : Option Block) (thread : ThreadId) :
    (∃ outcome, (∀ block, outcome ≠ .paused block) ∧
      data.sleepInMutex block thread = ({ data with mlock := data.mlock.exchange.2 }, outcome)) ∨
    ∃ fresh, block = some fresh ∧ data.sleepInMutex block thread =
      (({ data with mlock := data.mlock.exchange.2 } : Mutex).enqueue fresh thread,
        .paused fresh) := by
  simp only [Mutex.sleepInMutex]
  split
  · exact .inl ⟨.acquired, by simp, rfl⟩
  · cases block with
    | none => exact .inl ⟨.outOfMemory, by simp, rfl⟩
    | some fresh => exact .inr ⟨fresh, rfl, rfl⟩

/-- `get_thread` on a CPU that executes a thread. -/
theorem getThread_current (current : (state.world.state.machines cpu).fsBase = some thread) :
    Scheduler.getThread state.world.state cpu =
      getStampId thread (state.world.state.threads thread).stamp := by
  rw [Scheduler.getThread, current]

/-- The ids in the nodes after another one has been queued. -/
theorem idOf_enqueue {data : Mutex} {fresh : Block} {id : BitVec 64}
    (sameNodes : sleepers.nodes = state.sleepers.nodes)
    (sameBlocks : data.node = (state.mutexes mutex).node) (node : Node) :
    ((state.setMutex mutex (data.enqueue fresh id.toNat)).setSleepers sleepers).idOf node =
      if node = .mutex mutex fresh then id else state.idOf node := by
  cases node with
  | sleep node =>
      simp only [State.idOf, State.setSleepers_sleepers, reduceCtorEq, if_false, sameNodes]
  | mutex other block =>
      simp only [State.idOf, State.setSleepers_mutexes, State.setMutex_mutexes,
        Node.mutex.injEq, Function.update_apply]
      by_cases same : other = mutex
      · subst same
        rw [if_pos rfl, Mutex.enqueue_node_id, sameBlocks]
        by_cases isFresh : block = fresh
        · simp [isFresh]
        · simp [isFresh]
      · simp [same]

/-- The thread on the CPU is queued and paused, unless the mutex is free or no block is. -/
theorem Fits.sleepInMutex {block : Option Block} (fits : Fits platform state queues lists)
    (promised : Promised state (.sleepInMutex cpu mutex block))
    (done : sleepInMutex platform state cpu mutex block = some next) :
    ∃ queuesAfter, Fits platform next queuesAfter lists := by
  obtain ⟨unused, small⟩ := promised
  obtain ⟨thread, called, done⟩ := Option.bind_eq_some_iff.mp done
  obtain ⟨current, uncalled⟩ := caller_eq_some_iff.mp called
  rcases sleepInMutex_cases (state.mutexes mutex) block
      (Scheduler.getThread state.world.state cpu).toNat with
    ⟨outcome, notPaused, outcomeEq⟩ | ⟨fresh, rfl, outcomeEq⟩
  · rw [outcomeEq] at done
    cases outcome with
    | paused block => exact absurd rfl (notPaused block)
    | acquired =>
        obtain rfl := Option.some.inj done
        exact ⟨queues, fits.setMlock _⟩
    | outOfMemory =>
        obtain rfl := Option.some.inj done
        exact ⟨queues, fits.setMlock _⟩
  · rw [outcomeEq] at done
    obtain ⟨sleepers, paused, done⟩ := Option.bind_eq_some_iff.mp done
    obtain rfl := Option.some.inj done
    obtain ⟨stepped, nodes, sleeping, allocated⟩ := step_of_act paused
    obtain ⟨keeps, idle⟩ := keeps_pauseThis fits.tracks.sound fits.tracks.small current
      (small thread current) stepped
    have unusedFresh := unused fresh rfl
    have enqueued := ((fits.queues mutex).with_mlock
      (state.mutexes mutex).mlock.exchange.2).enqueue unusedFresh
        (Scheduler.getThread state.world.state cpu).toNat
    let tried : Mutex :=
      { state.mutexes mutex with mlock := (state.mutexes mutex).mlock.exchange.2 }
    have sameBlocks : tried.node = (state.mutexes mutex).node := rfl
    have ids : ∀ node, ((state.setMutex mutex (tried.enqueue fresh
        (Scheduler.getThread state.world.state cpu).toNat)).setSleepers sleepers).idOf node =
          if node = .mutex mutex fresh then Scheduler.getThread state.world.state cpu
          else state.idOf node :=
      fun node => idOf_enqueue nodes sameBlocks node
    have absent : fresh ∉ queues mutex :=
      fun present => unusedFresh ((fits.queues mutex).allocated fresh present)
    refine ⟨Function.update queues mutex (queues mutex ++ [fresh]), ?_, ?_, ?_⟩
    · refine fits.tracks.enter keeps idle uncalled ?_ ?_ absent ?_
      · obtain ⟨summary, refines, invariant⟩ := fits.tracks.sound
        have isAttached := (Scheduler.of_fsBase refines invariant current).1
        rw [keeps.stamps thread isAttached, ← getThread_current current]
        exact (ids _).trans (if_pos rfl)
      · exact fun other different => (ids other).trans (if_neg different)
      · intro other
        cases other with
        | sleep node => simp [Queued]
        | mutex otherMutex block =>
            by_cases same : otherMutex = mutex
            · subst same
              simp [Queued, or_comm]
            · simp [Queued, same]
    · intro other
      simp only [State.enter_mutexes, State.setSleepers_mutexes, State.setMutex_mutexes,
        Function.update_apply]
      split
      · exact enqueued
      · exact fits.queues other
    · exact chained_of_same fits.lists nodes sleeping allocated

/-! ## `release_mutex` -/

/-- A call of `resume_thread` that returns is a step of the scheduler. -/
theorem resumeThread_some {id : ThreadId} {err : ErrCode}
    (resumed : resumeThread platform cpu id (some before) = (err, some sleepers)) :
    before.act platform (.resume cpu (BitVec.ofNat 64 id)) = some sleepers := by
  simp only [resumeThread] at resumed
  split at resumed
  · cases (Prod.mk.inj resumed).2
  · exact (Prod.mk.inj resumed).2

/-- The loop ends when a call does not return. -/
theorem wakeQueue_none (idOf : Block → ThreadId) (queue : List Block) :
    (Mutex.wakeQueue (resumeThread platform cpu) idOf queue none).2.1 = none := by
  cases queue with
  | nil => rfl
  | cons block queue => simp [Mutex.wakeQueue, resumeThread]

theorem queued_tail {block : Block} {queue : List Block} (nodup : (block :: queue).Nodup)
    (node : Node) : Queued (Function.update queues mutex queue) lists node ↔
      node ≠ .mutex mutex block ∧
        Queued (Function.update queues mutex (block :: queue)) lists node := by
  cases node with
  | sleep node => simp [Queued]
  | mutex other cell =>
      by_cases same : other = mutex
      · subst same
        have absent := (List.nodup_cons.mp nodup).1
        simp only [Queued, Function.update_self, ne_eq, Node.mutex.injEq, true_and,
          List.mem_cons]
        constructor
        · intro present
          exact ⟨fun isBlock => absent (isBlock ▸ present), .inr present⟩
        · rintro ⟨different, isBlock | present⟩
          · exact absurd isBlock different
          · exact present
      · simp [Queued, same]

/-- The wake-up loop dequeues nodes until a thread runs. -/
theorem Tracks.wakeQueue {queue rest : List Block} {log : List (Block × ErrCode)}
    (nodup : queue.Nodup)
    (tracks : Tracks platform state (Function.update queues mutex queue) lists)
    (woken : Mutex.wakeQueue (resumeThread platform cpu)
      (fun block => ((state.mutexes mutex).node block).id) queue (some state.sleepers) =
        (rest, some sleepers, log)) :
    Tracks platform
      (log.foldl (fun state entry =>
          state.depart (.mutex mutex entry.1) (state.idOf (.mutex mutex entry.1)) entry.2)
        (state.setSleepers sleepers)) (Function.update queues mutex rest) lists ∧
      sleepers.nodes = state.sleepers.nodes ∧ sleepers.sleeping = state.sleepers.sleeping ∧
      sleepers.allocated = state.sleepers.allocated := by
  induction queue generalizing state log with
  | nil =>
      cases woken
      exact ⟨tracks, rfl, rfl, rfl⟩
  | cons block queue inductionHypothesis =>
      simp only [Mutex.wakeQueue] at woken
      cases resumed : resumeThread platform cpu ((state.mutexes mutex).node block).id
          (some state.sleepers) with
      | mk err middle =>
          rw [resumed] at woken
          cases middle with
          | none =>
              split at woken
              · have ended : (Mutex.wakeQueue (resumeThread platform cpu)
                    (fun block => ((state.mutexes mutex).node block).id) queue none).2.1 = none :=
                  wakeQueue_none _ queue
                have lost := congrArg (fun result => result.2.1) woken
                simp only [ended] at lost
                cases lost
              · cases woken
          | some middle =>
              have acted := resumeThread_some resumed
              obtain ⟨-, nodes, sleeping, allocated⟩ := step_of_act acted
              have isQueued : Queued (Function.update queues mutex (block :: queue)) lists
                  (.mutex mutex block) := by
                simp [Queued]
              have departed : Tracks platform ((state.setSleepers middle).depart
                  (.mutex mutex block) (state.idOf (.mutex mutex block)) err)
                  (Function.update queues mutex queue) lists :=
                tracks.depart isQueued acted (queued_tail nodup)
              split at woken
              · cases others : Mutex.wakeQueue (resumeThread platform cpu)
                    (fun block => ((state.mutexes mutex).node block).id) queue
                    (some middle) with
                | mk remaining result =>
                    obtain ⟨final, entries⟩ := result
                    rw [others] at woken
                    cases woken
                    obtain ⟨tracksFinal, sameNodes, sameSleeping, sameAllocated⟩ :=
                      inductionHypothesis (List.nodup_cons.mp nodup).2 departed others
                    exact ⟨tracksFinal, sameNodes.trans nodes, sameSleeping.trans sleeping,
                      sameAllocated.trans allocated⟩
              · cases woken
                exact ⟨departed, nodes, sleeping, allocated⟩

/-- The histories do not touch the queues. -/
theorem foldl_depart (log : List (Block × ErrCode)) (state : State) :
    (log.foldl (fun state entry =>
        state.depart (.mutex mutex entry.1) (state.idOf (.mutex mutex entry.1)) entry.2)
      state).mutexes = state.mutexes ∧
    (log.foldl (fun state entry =>
        state.depart (.mutex mutex entry.1) (state.idOf (.mutex mutex entry.1)) entry.2)
      state).sleepers = state.sleepers := by
  induction log generalizing state with
  | nil => exact ⟨rfl, rfl⟩
  | cons entry log inductionHypothesis => exact inductionHypothesis _

/-- A release wakes up a waiting thread if one can be resumed. -/
theorem Fits.releaseMutex (fits : Fits platform state queues lists)
    (done : releaseMutex platform state cpu mutex = some next) :
    ∃ queuesAfter, Fits platform next queuesAfter lists := by
  obtain ⟨thread, -, done⟩ := Option.bind_eq_some_iff.mp done
  obtain ⟨⟨data, result, log⟩, released, done⟩ := Option.bind_eq_some_iff.mp done
  obtain ⟨sleepers, rfl, done⟩ := Option.bind_eq_some_iff.mp done
  obtain rfl := Option.some.inj done
  obtain ⟨final, released', describes, sameBlocks, -⟩ :=
    Mutex.releaseMutex_refines (resumeThread platform cpu) (some state.sleepers)
      (fits.queues mutex)
  obtain ⟨rfl, woken⟩ := Prod.mk.inj (Option.some.inj (released.symm.trans released'))
  have tracks : Tracks platform (state.setMutex mutex data)
      (Function.update queues mutex (queues mutex)) lists := by
    rw [Function.update_eq_self]
    exact fits.tracks.setMutex sameBlocks
  have sameNodes : (fun block => (((state.setMutex mutex data).mutexes mutex).node block).id) =
      fun block => ((state.mutexes mutex).node block).id := by
    rw [State.setMutex_mutexes, Function.update_self, sameBlocks]
  have wakes : Mutex.wakeQueue (resumeThread platform cpu)
      (fun block => (((state.setMutex mutex data).mutexes mutex).node block).id) (queues mutex)
      (some (state.setMutex mutex data).sleepers) =
        ((Mutex.wakeQueue (resumeThread platform cpu)
          (fun block => ((state.mutexes mutex).node block).id) (queues mutex)
          (some state.sleepers)).1, some sleepers, log) := by
    rw [sameNodes]
    exact Prod.ext rfl woken.symm
  obtain ⟨tracksFinal, nodes, sleeping, allocated⟩ :=
    tracks.wakeQueue (fits.queues mutex).nodup wakes
  obtain ⟨sameMutexes, sameSleepers⟩ :=
    foldl_depart log ((state.setMutex mutex data).setSleepers sleepers)
  refine ⟨_, tracksFinal, fun other => ?_, ?_⟩
  · rw [sameMutexes]
    simp only [State.setSleepers_mutexes, State.setMutex_mutexes, Function.update_apply]
    split
    · exact describes
    · exact fits.queues other
  · rw [sameSleepers]
    exact chained_of_same fits.lists nodes sleeping allocated

/-! ## `sleep_timer_proc` -/

/-- The timer is set or stays as it is. -/
theorem rearm_cases (armed : Sleep.rearm platform before cpu = some sleepers) :
    sleepers = before ∨
      ∃ ticks, before.act platform (.setTimerTicks cpu ticks) = some sleepers := by
  rw [Sleep.rearm] at armed
  split at armed
  · exact .inr ⟨_, armed⟩
  · exact .inl (Option.some.inj armed).symm

theorem Tracks.rearm (tracks : Tracks platform state queues lists)
    (armed : Sleep.rearm platform state.sleepers cpu = some sleepers) :
    Tracks platform (state.setSleepers sleepers) queues lists ∧
      sleepers.nodes = state.sleepers.nodes ∧ sleepers.sleeping = state.sleepers.sleeping ∧
      sleepers.allocated = state.sleepers.allocated := by
  rcases rearm_cases armed with rfl | ⟨ticks, acted⟩
  · exact ⟨tracks, rfl, rfl, rfl⟩
  · exact ⟨tracks.act_spared acted (by simp), (step_of_act acted).2⟩

/-- What is queued without the first node of a list. -/
theorem queued_rest {node : Address} {rest : List Address} (chained : Sleep.Chained before lists)
    (isList : lists cpu = node :: rest) (other : Node) :
    Queued queues (Function.update lists cpu rest) other ↔
      other ≠ .sleep node ∧ Queued queues lists other := by
  have gone := (chained.pop isList).2
  cases other with
  | mutex mutex block => simp [Queued]
  | sleep cell =>
      constructor
      · rintro ⟨otherCpu, present⟩
        refine ⟨?_, ?_⟩
        · rintro isNode
          rw [(Node.sleep.inj isNode : cell = node)] at present
          exact gone otherCpu present
        · rw [Function.update_apply] at present
          split at present
          · exact ⟨cpu, isList ▸ List.mem_cons_of_mem node present⟩
          · exact ⟨otherCpu, present⟩
      · rintro ⟨different, otherCpu, present⟩
        refine ⟨otherCpu, ?_⟩
        rw [Function.update_apply]
        split
        · rename_i same
          rw [same, isList] at present
          exact (List.mem_cons.mp present).resolve_left fun isNode => different (isNode ▸ rfl)
        · exact present

/-- The timer procedure dequeues the first node of the list. -/
theorem Fits.sleepTimerProc (fits : Fits platform state queues lists)
    (done : sleepTimerProc platform state cpu = some next) :
    ∃ listsAfter, Fits platform next queues listsAfter := by
  obtain ⟨sleepers, wakes, done⟩ := Option.bind_eq_some_iff.mp done
  cases isTail : (state.sleepers.sleeping cpu).tail with
  | none =>
      rw [isTail] at done
      rw [Sleep.sleepTimerProc, isTail] at wakes
      obtain rfl := Option.some.inj wakes
      obtain rfl := Option.some.inj done
      exact ⟨lists, fits⟩
  | some node =>
      rw [isTail] at done
      rw [Sleep.sleepTimerProc, isTail] at wakes
      obtain ⟨armed, arms, wakes⟩ := Option.bind_eq_some_iff.mp wakes
      obtain ⟨resumed, resumes, wakes⟩ := Option.bind_eq_some_iff.mp wakes
      obtain rfl := Option.some.inj wakes
      obtain ⟨armed', arms', done⟩ := Option.bind_eq_some_iff.mp done
      obtain ⟨⟨after, err⟩, -, done⟩ := Option.bind_eq_some_iff.mp done
      obtain rfl := Option.some.inj done
      obtain ⟨rest, isList⟩ : ∃ rest, lists cpu = node :: rest := by
        rw [(fits.lists.chain cpu).first_eq] at isTail
        exact List.head?_eq_some_iff.mp isTail
      have cut : Tracks platform (state.setSleepers
          (state.sleepers.setTail cpu (state.sleepers.nodes node).next)) queues lists :=
        fits.tracks.congr rfl fun _ => rfl
      obtain ⟨tracksArmed, nodes, sleeping, allocated⟩ := cut.rearm arms
      have isQueued : Queued queues lists (.sleep node) := ⟨cpu, isList ▸ List.mem_cons_self⟩
      let woken := (state.setSleepers armed).setSleepers resumed
      have sameId : (state.setSleepers armed).idOf (.sleep node) = state.idOf (.sleep node) := by
        simp only [State.idOf, State.setSleepers_sleepers]
        rw [nodes]
        rfl
      have departed : Tracks platform
          (woken.depart (.sleep node) (state.idOf (.sleep node)) err) queues
          (Function.update lists cpu rest) := by
        rw [← sameId]
        exact tracksArmed.depart isQueued resumes (queued_rest fits.lists isList)
      obtain ⟨-, nodesResumed, sleepingResumed, allocatedResumed⟩ := step_of_act resumes
      refine ⟨Function.update lists cpu rest, departed.congr rfl fun _ => rfl, fits.queues, ?_⟩
      obtain ⟨popped, gone⟩ := fits.lists.pop isList
      have remaining := chained_of_same popped (nodesResumed.trans nodes)
        (sleepingResumed.trans sleeping) (allocatedResumed.trans allocated)
      refine remaining.congr (fun _ => rfl) (fun _ _ _ => rfl) fun other cell present => ?_
      have different : cell ≠ node := fun same => gone other (same ▸ present)
      exact Function.update_of_ne different ..

theorem Fits.timerInterrupt (fits : Fits platform state queues lists)
    (done : timerInterrupt platform state cpu = some next) :
    ∃ listsAfter, Fits platform next queues listsAfter := by
  obtain ⟨interrupted, acted, done⟩ := Option.bind_eq_some_iff.mp done
  have fitsAfter := fits.act acted (by simp)
  split at done
  · exact fitsAfter.sleepTimerProc done
  · obtain rfl := Option.some.inj done
    exact ⟨lists, fitsAfter⟩

/-! ## `sleep` -/

/-- Linking a node sets a timer at most. -/
theorem keeps_insertNode {node : Address} {rounds : Nat} (sound : Sound platform before.world)
    (small : before.world.SmallStamps)
    (inserted : Sleep.insertNode platform before cpu node rounds = some sleepers) :
    Keeps platform before.world sleepers.world ∧
      sleepers.world.state.machines = before.world.state.machines := by
  rw [Sleep.insertNode] at inserted
  split at inserted
  · obtain ⟨stepped, -⟩ := step_of_act inserted
    obtain ⟨-, sameAttached, after⟩ := Scheduler.World.step_setTimerTicks stepped
    refine ⟨keeps_of_step sound small stepped sameAttached (by simp), ?_⟩
    rw [after]
    rfl
  · obtain ⟨tail, -, inserted⟩ := Option.bind_eq_some_iff.mp inserted
    obtain ⟨prev, -, inserted⟩ := Option.bind_eq_some_iff.mp inserted
    obtain rfl := Option.some.inj inserted
    exact ⟨⟨sound, small, fun _ _ => rfl, fun _ isAttached => isAttached, fun _ idle => idle⟩,
      rfl⟩

/-- What is queued after a node has been linked into a list. -/
theorem queued_insert {key : Address → Nat} {node : Address} (cell : Address) :
    Queued queues (Function.update lists cpu (StableInsertion.insert key node (lists cpu)))
        (.sleep cell) ↔
      Node.sleep cell = .sleep node ∨ Queued queues lists (.sleep cell) := by
  constructor
  · rintro ⟨other, present⟩
    rw [Function.update_apply] at present
    split at present
    · rw [StableInsertion.mem_insert] at present
      exact present.imp (congrArg Node.sleep) fun isOld => ⟨cpu, isOld⟩
    · exact .inr ⟨other, present⟩
  · rintro (isNew | ⟨other, present⟩)
    · refine ⟨cpu, ?_⟩
      rw [Function.update_self, StableInsertion.mem_insert]
      exact .inl (Node.sleep.inj isNew)
    · refine ⟨other, ?_⟩
      rw [Function.update_apply]
      split
      · rename_i same
        rw [StableInsertion.mem_insert]
        exact .inr (same ▸ present)
      · exact present

/-- The thread on the CPU is queued and paused, unless there is no block. -/
theorem Fits.sleep {period : BitVec 64} {block : Option Address} {rounds : Nat}
    (fits : Fits platform state queues lists)
    (promised : Promised state (.sleep cpu period block rounds))
    (done : sleep platform state cpu period block rounds = some next) :
    ∃ listsAfter, Fits platform next queues listsAfter := by
  obtain ⟨unused, small⟩ := promised
  obtain ⟨thread, called, done⟩ := Option.bind_eq_some_iff.mp done
  obtain ⟨current, uncalled⟩ := caller_eq_some_iff.mp called
  obtain ⟨⟨sleepers, err⟩, sleeps, done⟩ := Option.bind_eq_some_iff.mp done
  obtain ⟨thread', -, sleeps⟩ := Option.bind_eq_some_iff.mp sleeps
  cases block with
  | none =>
      obtain ⟨rfl, -⟩ := Prod.mk.inj (Option.some.inj sleeps)
      obtain rfl := Option.some.inj done
      exact ⟨lists, fits⟩
  | some node =>
      obtain rfl := Option.some.inj done
      obtain ⟨linked, inserted, sleeps⟩ := Option.bind_eq_some_iff.mp sleeps
      obtain ⟨final, paused, sleeps⟩ := Option.bind_eq_some_iff.mp sleeps
      obtain ⟨rfl, -⟩ := Prod.mk.inj (Option.some.inj sleeps)
      let deadline := state.sleepers.world.state.ticks +
        period / BitVec.ofNat 64 configSchedulerTickInterval
      let prepared := state.sleepers.prepare cpu node deadline
      have links : Sleep.insertNode platform prepared cpu node rounds = some linked := inserted
      have free := unused node rfl
      obtain ⟨isLinked, chained⟩ := fits.lists.insertNode free deadline links
      obtain ⟨keepsLinked, sameMachines⟩ :=
        keeps_insertNode (show Sound platform prepared.world from fits.tracks.sound)
          fits.tracks.small links
      obtain ⟨stepped, nodes, sleeping, allocated⟩ := step_of_act paused
      have currentLinked : (linked.world.state.machines cpu).fsBase = some thread := by
        rw [sameMachines]
        exact current
      obtain ⟨keepsPaused, idle⟩ := keeps_pauseThis keepsLinked.sound keepsLinked.small
        currentLinked (small thread current) stepped
      have keeps : Keeps platform state.world final.world := keepsLinked.trans keepsPaused
      have threads : ∀ cell, (final.nodes cell).thread =
          if cell = node then Scheduler.getThread state.world.state cpu
          else (state.sleepers.nodes cell).thread := by
        intro cell
        rw [nodes]
        refine (isLinked.threads cell).trans ?_
        rw [Sleep.State.prepare_nodes]
        split <;> rfl
      refine ⟨_, ?_, fits.queues, chained_of_same chained nodes sleeping allocated⟩
      refine fits.tracks.enter keeps idle uncalled ?_ ?_ ?_ ?_
      · obtain ⟨summary, refines, invariant⟩ := fits.tracks.sound
        have isAttached := (Scheduler.of_fsBase refines invariant current).1
        rw [keeps.stamps thread isAttached]
        exact ((threads node).trans (if_pos rfl)).trans (getThread_current current)
      · intro other different
        cases other with
        | mutex mutex block => rfl
        | sleep cell =>
            have differs : cell ≠ node := fun same => different (same ▸ rfl)
            exact (threads cell).trans (if_neg differs)
      · rintro ⟨other, present⟩
        exact fits.lists.absent free other present
      · intro other
        cases other with
        | mutex mutex block => simp [Queued]
        | sleep cell => exact queued_insert cell

end Steps

end Waiting
end ToyKernel
