import ToyKernel.Mutex.Invariant

/-!
# Mutual exclusion

`__awake_in_mutex` frees `mlock` whenever it leaves the queue empty, also after
it has handed the mutex to the last waiter.  In every run without such a
hand-over at most one thread is inside, and `mlock` is taken while it is.
-/

namespace ToyKernel
namespace MutexSystem

/-- At most one thread is inside, and `mlock` is busy while one is. -/
def MutualExclusion (state : State) : Prop :=
  (∀ left right, (state.thread left).location = .inside →
      (state.thread right).location = .inside → left = right) ∧
    ∀ id, (state.thread id).location = .inside → state.mutex.mlock.busy = true

/-- Nobody stops or detaches a waiter. -/
def Undisturbed (_state : State) : Action → Prop
  | .stop _ | .detach _ => False
  | _ => True

/-- The action is a release of a mutex whose first waiter that can be resumed
is also its last waiter. -/
def WakesLastWaiter (state : State) : Action → Prop
  | .release _ =>
      ∃ skipped block, state.mutex.Queue (skipped ++ [block]) ∧
        (∀ cell ∈ skipped,
          (state.thread (state.mutex.node cell).id).state ≠ .paused) ∧
        (state.thread (state.mutex.node block).id).state = .paused
  | _ => False

/-- At most one thread owns the mutex, and `mlock` is busy while one does. -/
structure Exclusive (state : State) : Prop where
  unique : ∀ left right, Owns state left → Owns state right → left = right
  busy : ∀ id, Owns state id → state.mutex.mlock.busy = true

theorem owns_setThread_self
    {state : State} {id : ThreadId} {thread : Thread} :
    Owns (state.setThread id thread) id ↔
      thread.location = .inside ∨
        ∃ block, thread.location = .waiting block ∧ thread.state = .running := by
  simp [Owns]

theorem owns_setThread_other
    {state : State} {id other : ThreadId} {thread : Thread} (different : other ≠ id) :
    Owns (state.setThread id thread) other ↔ Owns state other := by
  simp [Owns, setThread_thread_other state thread different]

namespace Exclusive

variable {state next : State} {queue : List Block} {id : ThreadId} {thread : Thread}

theorem mutualExclusion (exclusive : Exclusive state) : MutualExclusion state :=
  ⟨fun left right leftInside rightInside =>
      exclusive.unique left right (Or.inl leftInside) (Or.inl rightInside),
    fun id inside => exclusive.busy id (Or.inl inside)⟩

theorem start : Exclusive start where
  unique := by simp [Owns, MutexSystem.start]
  busy := by simp [Owns, MutexSystem.start]

/-- A thread that does not own the mutex afterwards may change freely, as long
as the other owners keep `mlock` busy. -/
theorem setThread_notOwner
    (exclusive : Exclusive state)
    {mutex : Mutex}
    (notOwner : ¬ Owns ({ state with mutex := mutex }.setThread id thread) id)
    (keeps : ∀ other, other ≠ id → Owns state other → mutex.mlock.busy = true) :
    Exclusive ({ state with mutex := mutex }.setThread id thread) := by
  have wasOwner : ∀ other,
      Owns ({ state with mutex := mutex }.setThread id thread) other →
        other ≠ id ∧ Owns state other := by
    intro other owns
    have different : other ≠ id := by
      rintro rfl
      exact notOwner owns
    exact ⟨different, (owns_setThread_other different).mp owns⟩
  refine ⟨?_, ?_⟩
  · intro left right leftOwns rightOwns
    exact exclusive.unique left right (wasOwner left leftOwns).2
      (wasOwner right rightOwns).2
  · intro other owns
    exact keeps other (wasOwner other owns).1 (wasOwner other owns).2

/-- A thread may become the owner when nobody else is. -/
theorem setThread_owner
    {mutex : Mutex}
    (nobody : ∀ other, other ≠ id → ¬ Owns state other)
    (isBusy : mutex.mlock.busy = true) :
    Exclusive ({ state with mutex := mutex }.setThread id thread) := by
  have isSelf : ∀ other,
      Owns ({ state with mutex := mutex }.setThread id thread) other →
        other = id := by
    intro other owns
    by_contra different
    exact nobody other different ((owns_setThread_other different).mp owns)
  refine ⟨?_, fun _ _ => isBusy⟩
  intro left right leftOwns rightOwns
  rw [isSelf left leftOwns, isSelf right rightOwns]

/-- Nobody owns the mutex while `mlock` is free. -/
theorem not_owns_of_free
    (exclusive : Exclusive state)
    (free : ¬ state.mutex.mlock.busy = true) (other : ThreadId) :
    ¬ Owns state other :=
  fun owns => free (exclusive.busy other owns)

/-- A hand-over to a waiter that is not the last one, or a release that finds
no waiter to resume, keeps the mutex exclusive. -/
theorem handover
    {skipped : List Block} {block : Block} {rest : List Block}
    (exclusive : Exclusive state)
    (invariant : Invariant state (skipped ++ block :: rest))
    (inside : (state.thread id).location = .inside)
    (given : Handover state next id skipped block rest)
    (notLast : ¬ WakesLastWaiter state (.release id)) :
    Exclusive next := by
  have wokenNotSelf : (state.mutex.node block).id ≠ id :=
    invariant.waiter_ne_inside inside (by simp)
  -- Only the resumed waiter can own the mutex after the release.
  have onlyWoken : ∀ other, Owns next other →
      other = (state.mutex.node block).id ∧
        (state.thread (state.mutex.node block).id).state = .paused := by
    intro other owns
    have notSelf : other ≠ id := by
      rintro rfl
      simp [Owns, given.thread_self] at owns
    by_cases woken : other = (state.mutex.node block).id
    · refine ⟨woken, ?_⟩
      by_contra dead
      subst woken
      obtain ⟨placed, halted⟩ := invariant.waiters block (by simp)
      rw [Owns, given.thread_dead wokenNotSelf dead, placed] at owns
      simp [halted] at owns
    · have wasOwner : Owns state other := by
        rwa [Owns, given.thread_other notSelf woken] at owns
      exact absurd (exclusive.unique other id wasOwner (Or.inl inside)) notSelf
  refine ⟨?_, ?_⟩
  · intro left right leftOwns rightOwns
    rw [(onlyWoken left leftOwns).1, (onlyWoken right rightOwns).1]
  · intro other owns
    have paused := (onlyWoken other owns).2
    have others : rest ≠ [] := by
      rintro rfl
      exact notLast ⟨skipped, block, invariant.describes, given.dead, paused⟩
    rw [given.lock, invariant.busy (by simp)]
    simpa using others

/-- Every step that does not resume the last waiter keeps the mutex
exclusive. -/
theorem step
    (exclusive : Exclusive state)
    (invariant : Invariant state queue)
    {action : Action}
    (notLast : ¬ WakesLastWaiter state action)
    (taken : MutexSystem.step state action = some next) :
    Exclusive next := by
  cases action with
  | acquire id =>
      simp only [MutexSystem.step] at taken
      split at taken <;> simp only [Option.some.injEq, reduceCtorEq] at taken
      subst taken
      exact exclusive.setThread_notOwner (by simp [Owns])
        fun other _ owns => exclusive.busy other owns
  | exchange id =>
      simp only [MutexSystem.step] at taken
      split at taken
      case h_2 => simp at taken
      by_cases isBusy : state.mutex.mlock.busy = true
      · simp only [Spinlock.exchange_fst, isBusy, Bool.not_true, Bool.false_eq_true,
          if_false, Option.some.injEq] at taken
        subst taken
        refine exclusive.setThread_notOwner ?_ fun _ _ _ => rfl
        rw [owns_setThread_self]
        dsimp only
        split <;> simp
      · simp only [Spinlock.exchange_fst, isBusy, Bool.not_false, if_true,
          Option.some.injEq] at taken
        subst taken
        exact setThread_owner
          (fun other _ => exclusive.not_owns_of_free isBusy other) rfl
  | sleep id block =>
      simp only [MutexSystem.step] at taken
      split at taken
      case h_2 => simp at taken
      split at taken
      case isFalse => simp at taken
      simp only [Option.some.injEq] at taken
      subst taken
      by_cases isBusy : state.mutex.mlock.busy = true
      · cases block with
        | none =>
            simp only [sleepSection, Mutex.sleepInMutex, Spinlock.exchange_fst, isBusy]
            exact exclusive.setThread_notOwner (by simp [Owns]) fun _ _ _ => rfl
        | some block =>
            simp only [sleepSection, Mutex.sleepInMutex, Spinlock.exchange_fst, isBusy]
            have queued : Exclusive ({ state with
                mutex := { state.mutex with
                  mlock := state.mutex.mlock.exchange.2 }.enqueue block id }.setThread id
                { state.thread id with location := .waiting block, state := .paused }) :=
              exclusive.setThread_notOwner (by simp [Owns]) fun _ _ _ => rfl
            exact ⟨queued.unique, queued.busy⟩
      · simp only [sleepSection, Mutex.sleepInMutex, Spinlock.exchange_fst, isBusy]
        exact setThread_owner
          (fun other _ => exclusive.not_owns_of_free isBusy other) rfl
  | wake id =>
      simp only [MutexSystem.step] at taken
      split at taken <;> simp only [Option.some.injEq, reduceCtorEq] at taken
      rename_i block placed running
      subst taken
      have owns : Owns state id := Or.inr ⟨block, placed, running⟩
      refine setThread_owner ?_ (exclusive.busy id owns)
      intro other different alsoOwns
      exact different (exclusive.unique other id alsoOwns owns)
  | release id =>
      simp only [MutexSystem.step] at taken
      split at taken
      case h_2 => simp at taken
      rename_i placed _
      obtain ⟨final, released, freed | ⟨skipped, block, rest, splits, given⟩⟩ :=
        releaseSection_cases invariant placed
      · obtain rfl : final = next := by simpa [released] using taken
        rw [freed.2]
        refine exclusive.setThread_notOwner (by simp [Owns]) ?_
        intro other different owns
        exact absurd (exclusive.unique other id owns (Or.inl placed)) different
      · obtain rfl : final = next := by simpa [released] using taken
        subst splits
        exact exclusive.handover invariant placed given notLast
  | stop id =>
      simp only [MutexSystem.step] at taken
      split at taken <;> simp only [Option.some.injEq, reduceCtorEq] at taken
      rename_i placed _
      subst taken
      exact exclusive.setThread_notOwner (by simp [Owns, placed])
        fun other _ owns => exclusive.busy other owns
  | detach id =>
      simp only [MutexSystem.step] at taken
      split at taken <;> simp only [Option.some.injEq, reduceCtorEq] at taken
      all_goals
        rename_i placed _
        subst taken
        exact exclusive.setThread_notOwner (by simp [Owns, placed])
          fun other _ owns => exclusive.busy other owns

end Exclusive

/-- Exclusion in every run in which no release resumes the last waiter. -/
theorem exclusive_of_lastWaiterNotWoken
    {state : State}
    (reached : system.ReachableUnder
      (fun current action => ¬ WakesLastWaiter current action) state) :
    Exclusive state := by
  have holds : (∃ queue, Invariant state queue) ∧ Exclusive state := by
    apply reached.invariant
    · rintro state rfl
      exact ⟨⟨[], Invariant.start⟩, Exclusive.start⟩
    · rintro state action next ⟨⟨queue, invariant⟩, exclusive⟩ notLast taken
      exact ⟨invariant.step taken, exclusive.step invariant notLast taken⟩
  exact holds.2

/-- After a release that resumes the last waiter, that waiter returns with
`mlock` free. -/
theorem lastWaiter_returns_unlocked
    {state next : State} {id : ThreadId}
    (reached : system.Reachable state)
    (wakesLast : WakesLastWaiter state (.release id))
    (taken : step state (.release id) = some next) :
    ∃ waiter final, step next (.wake waiter) = some final ∧
      (final.thread waiter).location = .inside ∧
      final.mutex.mlock.busy = false := by
  obtain ⟨queue, invariant⟩ := invariant_of_reachable reached
  obtain ⟨skipped, block, describes, dead, paused⟩ := wakesLast
  obtain rfl := invariant.describes.unique describes
  simp only [step] at taken
  split at taken
  case h_2 => simp at taken
  rename_i inside _
  obtain ⟨released, result, freed | ⟨before, first, rest, splits, given⟩⟩ :=
    releaseSection_cases invariant inside
  · simp at freed
  obtain rfl : released = next := by simpa [result] using taken
  -- The first waiter that can be resumed is the last one of the queue.
  have isLast : rest = [] ∧ first = block := by
    rcases List.eq_nil_or_concat rest with rfl | ⟨others, last, rfl⟩
    · have same := List.append_inj' splits rfl
      exact ⟨rfl, by simpa using same.2.symm⟩
    · have moved : skipped ++ [block] = (before ++ first :: others) ++ [last] := by
        simpa using splits
      have parts := List.append_inj' moved rfl
      have firstDead := dead first (by simp [parts.1])
      exact absurd (given.stops.resolve_right (by simp)) firstDead
  obtain ⟨rfl, rfl⟩ := isLast
  have notSelf := invariant.waiter_ne_inside inside (show first ∈ _ by simp)
  have placed := (invariant.waiters first (by simp)).1
  have woken := given.thread_woken notSelf paused
  refine ⟨(state.mutex.node first).id,
    released.setThread (state.mutex.node first).id ⟨.inside, .running, .errNone⟩,
    ?_, by simp, ?_⟩
  · simp [step, woken, placed]
  · simp [given.lock]

/-- Mutual exclusion holds in every run in which no release resumes the last
waiter, and is lost by the next step of that waiter after any such release. -/
theorem mutualExclusion_iff_lastWaiterNotWoken (state : State) :
    (system.ReachableUnder
        (fun current action => ¬ WakesLastWaiter current action) state →
      MutualExclusion state) ∧
    ∀ id next, system.Reachable state →
      WakesLastWaiter state (.release id) →
      step state (.release id) = some next →
      ∃ waiter final, step next (.wake waiter) = some final ∧
        ¬ MutualExclusion final := by
  refine ⟨?_, ?_⟩
  · intro reached
    exact (exclusive_of_lastWaiterNotWoken reached).mutualExclusion
  · intro id next reached wakesLast taken
    obtain ⟨waiter, final, returned, inside, free⟩ :=
      lastWaiter_returns_unlocked reached wakesLast taken
    refine ⟨waiter, final, returned, ?_⟩
    intro exclusion
    rw [exclusion.2 waiter inside] at free
    exact Bool.noConfusion free

/-- A thread that finds `mlock` busy on all its tries goes to the slow path. -/
theorem reachable_contending
    {guard : State → Action → Prop}
    {state : State} {id : ThreadId} {tries : Nat} {result : ErrCode}
    (allowed : ∀ current, guard current (.exchange id))
    (reached : system.ReachableUnder guard
      (state.setThread id ⟨.trying (tries + 1), .running, result⟩))
    (isBusy : state.mutex.mlock.busy = true) :
    system.ReachableUnder guard
      (state.setThread id ⟨.contending, .running, result⟩) := by
  have sameLock := Spinlock.exchange_of_busy isBusy
  induction tries with
  | zero =>
      refine reached.extend (allowed _) ?_
      simp [system, step, isBusy, sameLock, State.setThread]
  | succ tries inductionHypothesis =>
      apply inductionHypothesis
      refine reached.extend (allowed _) ?_
      simp [system, step, isBusy, sameLock, State.setThread]

/-- Thread 0 is inside and thread 1 has called `acquire_mutex`. -/
def contendedState : State where
  mutex := { Mutex.create with mlock := { busy := true } }
  thread := Function.update start.thread 0 ⟨.inside, .running, .errNone⟩
  history := []

/-- Thread 0 acquires the mutex, and thread 1 runs out of tries and is about to
queue. -/
theorem reachable_one_contending :
    system.ReachableUnder Undisturbed
      (contendedState.setThread 1 ⟨.contending, .running, .errNone⟩) := by
  have acquired : system.ReachableUnder Undisturbed contendedState := by
    have begins : system.ReachableUnder Undisturbed start := .initial rfl
    have executed : system.exec start [.acquire 0, .exchange 0] =
        some contendedState := by
      simp [TransitionSystem.exec, system, step, start, contendedState,
        State.setThread, Mutex.create, Spinlock.exchange]
    exact begins.exec (by simp [Undisturbed]) executed
  have third : system.ReachableUnder Undisturbed
      (contendedState.setThread 1 ⟨.trying (999 + 1), .running, .errNone⟩) :=
    acquired.extend (show Undisturbed _ (.acquire 1) from trivial) rfl
  exact reachable_contending (fun _ => trivial) third rfl

/-- After thread 1 was resumed as the last waiter, thread 2 finds `mlock` free
and both are inside. -/
theorem mutualExclusion_fails :
    ¬ ∀ state, system.ReachableUnder Undisturbed state → MutualExclusion state := by
  intro claimed
  obtain ⟨final, executed, oneInside, twoInside⟩ :
      ∃ final,
        system.exec (contendedState.setThread 1 ⟨.contending, .running, .errNone⟩)
          [.sleep 1 (some 0), .release 0, .wake 1, .acquire 2, .exchange 2] =
            some final ∧
        (final.thread 1).location = .inside ∧
        (final.thread 2).location = .inside :=
    ⟨_, rfl, by decide, by decide⟩
  have reached : system.ReachableUnder Undisturbed final :=
    reachable_one_contending.exec (by simp [Undisturbed]) executed
  have equal := (claimed final reached).1 1 2 oneInside twoInside
  exact absurd equal (by decide)

end MutexSystem
end ToyKernel
