import ToyKernel.Mutex.Exclusion

/-!
# First come, first served

The wait queue never loses a waiter: arrivals are the departures followed by
the current queue, a nonempty queue always has an owner who will serve it, and
each release serves the first waiter that can be resumed.
-/

namespace ToyKernel
namespace MutexSystem

/-- What a release does to a queue: it takes waiters off in arrival order, up
to and including the first one that can be resumed. -/
def ServesFirst (state next : State) (queue : List Block) : Prop :=
  (queue = [] ∧ next.mutex.Queue [] ∧ next.history = state.history) ∨
    ∃ skipped block rest,
      queue = skipped ++ block :: rest ∧
      next.mutex.Queue rest ∧
      departures next.history =
        departures state.history ++ (skipped ++ [block]).map (waiterOf state) ∧
      (∀ cell ∈ skipped,
        (resumeThread (state.mutex.node cell).id state.thread).1 ≠ .errNone) ∧
      ((resumeThread (state.mutex.node block).id state.thread).1 = .errNone ∧
          Owns next (state.mutex.node block).id ∨
        (resumeThread (state.mutex.node block).id state.thread).1 ≠ .errNone ∧
          rest = [])

/-- The contract of the wait queue in one state. -/
structure FifoWaiting (state : State) (queue : List Block) : Prop where
  /-- `head`, `tail` and `next` describe the queue. -/
  describes : state.mutex.Queue queue
  /-- Queued nodes belong to threads that wait in them. -/
  waiters : ∀ block ∈ queue,
    (state.thread (state.mutex.node block).id).location = .waiting block ∧
      (state.thread (state.mutex.node block).id).state ≠ .running
  /-- Every paused waiter is queued. -/
  queued : ∀ id block, (state.thread id).location = .waiting block →
    (state.thread id).state = .paused →
      block ∈ queue ∧ (state.mutex.node block).id = id
  /-- Waiters leave in arrival order, once each, or are still queued. -/
  recorded : arrivals state.history =
    departures state.history ++ queue.map (waiterOf state)
  /-- Somebody will serve a nonempty queue. -/
  justified : queue ≠ [] →
    state.mutex.mlock.busy = true ∧ ∃ id, Owns state id
  /-- A release completes and serves the queue from the front. -/
  release : ∀ id, (state.thread id).location = .inside →
    ∃ next, step state (.release id) = some next ∧ ServesFirst state next queue
  /-- A failed allocation is reported and leaves the mutex as it was. -/
  outOfMemory : ∀ id next, state.mutex.mlock.busy = true →
    step state (.sleep id none) = some next →
      next.mutex = state.mutex ∧ next.history = state.history ∧
        next.thread id = ⟨.outside, .running, .errOutOfMemory⟩

/-- A release serves the queue from the front. -/
theorem release_servesFirst
    {state : State} {queue : List Block} {id : ThreadId}
    (invariant : Invariant state queue)
    (inside : (state.thread id).location = .inside) :
    ∃ next, step state (.release id) = some next ∧ ServesFirst state next queue := by
  have running : (state.thread id).state = .running :=
    invariant.active id (by simp [inside])
  obtain ⟨next, released, freed | ⟨skipped, block, rest, splits, given⟩⟩ :=
    releaseSection_cases invariant inside
  · refine ⟨next, by simp [step, inside, running, released], Or.inl ?_⟩
    obtain ⟨rfl, rfl⟩ := freed
    exact ⟨rfl, invariant.describes.with_mlock _, rfl⟩
  · refine ⟨next, by simp [step, inside, running, released], Or.inr ?_⟩
    have present : block ∈ queue := by simp [splits]
    refine ⟨skipped, block, rest, splits, given.describes, ?_, ?_, ?_⟩
    · rw [given.history, departures_append, departures_map_departure]
      rfl
    · intro cell inSkipped succeeded
      exact given.dead cell inSkipped
        ((resumeThread_succeeds_iff _ _).mp succeeded)
    · by_cases paused :
          (state.thread (state.mutex.node block).id).state = .paused
      · left
        refine ⟨(resumeThread_succeeds_iff _ _).mpr paused, Or.inr ⟨block, ?_⟩⟩
        rw [given.thread_woken (invariant.waiter_ne_inside inside present) paused]
        exact ⟨(invariant.waiters block present).1, rfl⟩
      · right
        exact ⟨fun succeeded => paused ((resumeThread_succeeds_iff _ _).mp succeeded),
          given.stops.resolve_left paused⟩

/-- In every reachable state waiting is first come, first served. -/
theorem fifoWaiting_of_reachable
    {state : State} (reached : system.Reachable state) :
    ∃ queue, FifoWaiting state queue := by
  obtain ⟨queue, invariant⟩ := invariant_of_reachable reached
  refine ⟨queue, invariant.describes, invariant.waiters, invariant.queued,
    invariant.recorded, ?_, fun _ inside => release_servesFirst invariant inside, ?_⟩
  · intro nonempty
    have isBusy := invariant.busy nonempty
    exact ⟨isBusy, invariant.owned isBusy⟩
  · intro id next isBusy taken
    have sameLock := Spinlock.exchange_of_busy isBusy
    simp only [step] at taken
    split at taken
    case h_2 => simp at taken
    simp only [mayAllocate, if_true, Option.some.injEq] at taken
    subst taken
    simp [sleepSection, Mutex.sleepInMutex, isBusy, sameLock]

/-- Thread 1 queued behind thread 0, which is inside. -/
def oneWaiting : State :=
  sleepSection (contendedState.setThread 1 ⟨.contending, .running, .errNone⟩)
    1 (some 0)

/-- Thread 2 queued behind thread 1, which has been stopped since. -/
def twoWaiting : State :=
  (sleepSection (oneWaiting.setThread 2 ⟨.contending, .running, .errNone⟩) 2 (some 1)).setThread
    1 ⟨.waiting 0, .stopped, .errNone⟩

/-- The contract at a state with two waiters, of which one is stopped. -/
theorem fifoWaiting_twoWaiting : ∃ queue, FifoWaiting twoWaiting queue := by
  have queued : system.step
      (contendedState.setThread 1 ⟨.contending, .running, .errNone⟩)
      (.sleep 1 (some 0)) = some oneWaiting := rfl
  have called : system.Reachable (oneWaiting.setThread 2 ⟨.trying (999 + 1), .running, .errNone⟩) :=
    (reachable_one_contending.reachable.extend queued).extend
      (show system.step oneWaiting (.acquire 2) = _ from rfl)
  have contending : system.Reachable (oneWaiting.setThread 2 ⟨.contending, .running, .errNone⟩) :=
    reachable_contending (fun _ => trivial) called rfl
  have stopped : system.exec (oneWaiting.setThread 2 ⟨.contending, .running, .errNone⟩)
      [.sleep 2 (some 1), .stop 1] = some twoWaiting := rfl
  exact fifoWaiting_of_reachable (contending.exec (by simp) stopped)

end MutexSystem
end ToyKernel
