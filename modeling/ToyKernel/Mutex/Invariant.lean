import ToyKernel.Mutex.System

/-!
# Invariant of threads sharing one mutex

The invariant relates the wait queue to the places and states of the threads
and to the history of queue operations.  It holds in every run, also where
waiters are stopped and detached.
-/

namespace ToyKernel
namespace MutexSystem

/-- A thread has acquired the mutex: it is inside, or it was taken off the queue
and resumed and is about to return. -/
def Owns (state : State) (id : ThreadId) : Prop :=
  (state.thread id).location = .inside ∨
    ∃ block, (state.thread id).location = .waiting block ∧
      (state.thread id).state = .running

/-- The waiters that arrived, oldest first. -/
def arrivals (history : List QueueEvent) : List (Block × ThreadId) :=
  history.filterMap fun
    | .arrival block id => some (block, id)
    | .departure _ _ _ => none

/-- The waiters that were taken off the queue, oldest first. -/
def departures (history : List QueueEvent) : List (Block × ThreadId) :=
  history.filterMap fun
    | .arrival _ _ => none
    | .departure block id _ => some (block, id)

@[simp] theorem arrivals_append (older newer : List QueueEvent) :
    arrivals (older ++ newer) = arrivals older ++ arrivals newer :=
  List.filterMap_append

@[simp] theorem departures_append (older newer : List QueueEvent) :
    departures (older ++ newer) = departures older ++ departures newer :=
  List.filterMap_append

@[simp] theorem arrivals_map_departure
    (blocks : List Block) (idOf : Block → ThreadId) (errOf : Block → ErrCode) :
    arrivals (blocks.map fun block => .departure block (idOf block) (errOf block)) =
      [] := by
  simp [arrivals, List.filterMap_map]

@[simp] theorem departures_map_departure
    (blocks : List Block) (idOf : Block → ThreadId) (errOf : Block → ErrCode) :
    departures (blocks.map fun block => .departure block (idOf block) (errOf block)) =
      blocks.map fun block => (block, idOf block) := by
  simp [departures, List.filterMap_map]

/-- The waiter recorded in a block. -/
def waiterOf (state : State) (block : Block) : Block × ThreadId :=
  (block, (state.mutex.node block).id)

/-- What holds in every reachable state, for its wait queue. -/
structure Invariant (state : State) (queue : List Block) : Prop where
  describes : state.mutex.Queue queue
  waiters : ∀ block ∈ queue,
    (state.thread (state.mutex.node block).id).location = .waiting block ∧
      (state.thread (state.mutex.node block).id).state ≠ .running
  queued : ∀ id block, (state.thread id).location = .waiting block →
    (state.thread id).state = .paused →
      block ∈ queue ∧ (state.mutex.node block).id = id
  active : ∀ id, (∀ block, (state.thread id).location ≠ .waiting block) →
    (state.thread id).state = .running
  busy : queue ≠ [] → state.mutex.mlock.busy = true
  owned : state.mutex.mlock.busy = true → ∃ id, Owns state id
  recorded : arrivals state.history =
    departures state.history ++ queue.map (waiterOf state)

@[simp] theorem setThread_mutex (state : State) (id : ThreadId) (thread : Thread) :
    (state.setThread id thread).mutex = state.mutex := rfl

@[simp] theorem setThread_history (state : State) (id : ThreadId) (thread : Thread) :
    (state.setThread id thread).history = state.history := rfl

@[simp] theorem setThread_thread_self
    (state : State) (id : ThreadId) (thread : Thread) :
    (state.setThread id thread).thread id = thread := by
  simp [State.setThread]

theorem setThread_thread_other
    (state : State) {id other : ThreadId} (thread : Thread) (different : other ≠ id) :
    (state.setThread id thread).thread other = state.thread other := by
  simp [State.setThread, different]

/-- Resuming fails exactly on threads that are not paused, and then changes
nothing. -/
theorem resumeThread_quiet (id : ThreadId) (threads : ThreadId → Thread)
    (failed : (resumeThread id threads).1 ≠ .errNone) :
    (resumeThread id threads).2 = threads := by
  unfold resumeThread at failed ⊢
  cases state : (threads id).state <;> simp_all

theorem resumeThread_succeeds_iff (id : ThreadId) (threads : ThreadId → Thread) :
    (resumeThread id threads).1 = .errNone ↔ (threads id).state = .paused := by
  unfold resumeThread
  cases state : (threads id).state <;> simp

theorem resumeThread_of_paused {id : ThreadId} {threads : ThreadId → Thread}
    (paused : (threads id).state = .paused) :
    (resumeThread id threads).2 =
      Function.update threads id { threads id with state := .running } := by
  simp [resumeThread, paused]

namespace Invariant

variable {state next : State} {queue : List Block} {id : ThreadId}

theorem start : Invariant start [] where
  describes := Mutex.Queue.create
  waiters := by simp
  queued := by simp [MutexSystem.start]
  active := by simp [MutexSystem.start]
  busy := by simp
  owned := by simp [MutexSystem.start, Mutex.create]
  recorded := rfl

/-- Changing a thread that is not waiting, to another place that is not waiting,
keeps the invariant, if `mlock` stays justified. -/
theorem setThread
    (invariant : Invariant state queue)
    (mlock : Spinlock)
    {thread : Thread}
    (wasElsewhere : ∀ block, (state.thread id).location ≠ .waiting block)
    (isElsewhere : ∀ block, thread.location ≠ .waiting block)
    (isRunning : thread.state = .running)
    (stillBusy : queue ≠ [] → mlock.busy = true)
    (stillOwned : mlock.busy = true →
      thread.location = .inside ∨
        (state.mutex.mlock.busy = true ∧ (state.thread id).location ≠ .inside)) :
    Invariant
      ({ state with mutex := { state.mutex with mlock := mlock } }.setThread id thread)
      queue where
  describes := invariant.describes.with_mlock mlock
  waiters := by
    intro block present
    obtain ⟨placed, halted⟩ := invariant.waiters block present
    have different : (state.mutex.node block).id ≠ id := by
      rintro rfl
      exact wasElsewhere block placed
    simpa [State.setThread, different] using And.intro placed halted
  queued := by
    intro other block placed paused
    have different : other ≠ id := by
      rintro rfl
      exact isElsewhere block (by simpa using placed)
    rw [setThread_thread_other _ _ different] at placed paused
    exact invariant.queued other block placed paused
  active := by
    intro other elsewhere
    by_cases same : other = id
    · subst same
      simpa using isRunning
    · rw [setThread_thread_other _ _ same] at elsewhere ⊢
      exact invariant.active other elsewhere
  busy := stillBusy
  owned := by
    intro isBusy
    rcases stillOwned isBusy with enters | ⟨wasBusy, notInside⟩
    · exact ⟨id, Or.inl (by simpa using enters)⟩
    · obtain ⟨owner, owns⟩ := invariant.owned wasBusy
      have different : owner ≠ id := by
        rintro rfl
        rcases owns with inside | ⟨block, placed, _⟩
        · exact notInside inside
        · exact wasElsewhere block placed
      refine ⟨owner, ?_⟩
      simpa [Owns, State.setThread, different] using owns
  recorded := invariant.recorded

/-- A waiter that is stopped or detached stays queued. -/
theorem halt
    (invariant : Invariant state queue)
    {block : Block} {halted : ThreadState}
    (placed : (state.thread id).location = .waiting block)
    (wasHalted : (state.thread id).state ≠ .running)
    (notRunning : halted ≠ .running)
    (notPaused : halted ≠ .paused) :
    Invariant
      (state.setThread id { state.thread id with state := halted }) queue where
  describes := invariant.describes
  waiters := by
    intro cell present
    obtain ⟨cellPlaced, cellHalted⟩ := invariant.waiters cell present
    by_cases same : (state.mutex.node cell).id = id
    · simp only [setThread_mutex, same, setThread_thread_self]
      exact ⟨same ▸ cellPlaced, notRunning⟩
    · simpa [State.setThread, same] using And.intro cellPlaced cellHalted
  queued := by
    intro other cell otherPlaced otherPaused
    have different : other ≠ id := by
      rintro rfl
      exact notPaused (by simpa using otherPaused)
    rw [setThread_thread_other _ _ different] at otherPlaced otherPaused
    exact invariant.queued other cell otherPlaced otherPaused
  active := by
    intro other elsewhere
    have different : other ≠ id := by
      rintro rfl
      exact elsewhere block (by simpa using placed)
    rw [setThread_thread_other _ _ different] at elsewhere ⊢
    exact invariant.active other elsewhere
  busy := invariant.busy
  owned := by
    intro isBusy
    obtain ⟨owner, owns⟩ := invariant.owned isBusy
    have different : owner ≠ id := by
      rintro rfl
      rcases owns with inside | ⟨_, _, running⟩
      · simp [placed] at inside
      · exact wasHalted running
    refine ⟨owner, ?_⟩
    simpa [Owns, State.setThread, different] using owns
  recorded := invariant.recorded

/-- A resumed waiter that returns stays an owner. -/
theorem wake
    (invariant : Invariant state queue)
    {block : Block}
    (placed : (state.thread id).location = .waiting block)
    (running : (state.thread id).state = .running)
    (result : ErrCode) :
    Invariant
      (state.setThread id { location := .inside, state := .running, result := result })
      queue where
  describes := invariant.describes
  waiters := by
    intro cell present
    obtain ⟨cellPlaced, cellHalted⟩ := invariant.waiters cell present
    have different : (state.mutex.node cell).id ≠ id := by
      rintro rfl
      exact cellHalted running
    simpa [State.setThread, different] using And.intro cellPlaced cellHalted
  queued := by
    intro other cell otherPlaced otherPaused
    have different : other ≠ id := by
      rintro rfl
      simp at otherPaused
    rw [setThread_thread_other _ _ different] at otherPlaced otherPaused
    exact invariant.queued other cell otherPlaced otherPaused
  active := by
    intro other elsewhere
    by_cases same : other = id
    · subst same
      simp
    · rw [setThread_thread_other _ _ same] at elsewhere ⊢
      exact invariant.active other elsewhere
  busy := invariant.busy
  owned := fun _ => ⟨id, Or.inl (by simp)⟩
  recorded := invariant.recorded

/-- A thread that finds `mlock` taken in the `ilock` section joins the queue. -/
theorem enqueue
    (invariant : Invariant state queue)
    {block : Block}
    (elsewhere : ∀ cell, (state.thread id).location ≠ .waiting cell)
    (outside : (state.thread id).location ≠ .inside)
    (isBusy : state.mutex.mlock.busy = true)
    (fresh : block ∉ state.mutex.allocated) :
    Invariant
      { mutex := state.mutex.enqueue block id
        thread := Function.update state.thread id
          { state.thread id with location := .waiting block, state := .paused }
        history := state.history ++ [.arrival block id] }
      (queue ++ [block]) := by
  have absent : block ∉ queue :=
    fun present => fresh (invariant.describes.allocated block present)
  have otherId : ∀ cell ∈ queue, (state.mutex.node cell).id ≠ id := by
    intro cell present same
    exact elsewhere cell (same ▸ (invariant.waiters cell present).1)
  have sameNode : ∀ cell ∈ queue,
      ((state.mutex.enqueue block id).node cell).id = (state.mutex.node cell).id := by
    intro cell present
    have different : cell ≠ block := fun same => absent (same ▸ present)
    rw [Mutex.enqueue_node_id, if_neg different]
  refine ⟨invariant.describes.enqueue fresh id, ?_, ?_, ?_, ?_, ?_, ?_⟩
  · intro cell present
    rcases List.mem_append.mp present with inQueue | isBlock
    · dsimp only
      rw [sameNode cell inQueue, Function.update_of_ne (otherId cell inQueue)]
      exact invariant.waiters cell inQueue
    · obtain rfl : cell = block := List.mem_singleton.mp isBlock
      simp [Mutex.enqueue_node_id]
  · intro other cell placed paused
    by_cases same : other = id
    · subst same
      obtain rfl : block = cell := by simpa using placed
      simp [Mutex.enqueue_node_id]
    · simp only [ne_eq, same, not_false_eq_true, Function.update_of_ne] at placed paused
      obtain ⟨present, owner⟩ := invariant.queued other cell placed paused
      refine ⟨List.mem_append_left _ present, ?_⟩
      rw [← owner]
      exact sameNode cell present
  · intro other notWaiting
    have different : other ≠ id := by
      rintro rfl
      exact notWaiting block (by simp)
    simp only [ne_eq, different, not_false_eq_true, Function.update_of_ne] at notWaiting ⊢
    exact invariant.active other notWaiting
  · intro _
    exact isBusy
  · intro _
    obtain ⟨owner, owns⟩ := invariant.owned isBusy
    have different : owner ≠ id := by
      rintro rfl
      rcases owns with inside | ⟨cell, placed, _⟩
      · exact outside inside
      · exact elsewhere cell placed
    refine ⟨owner, ?_⟩
    simpa [Owns, different] using owns
  · have recorded := invariant.recorded
    have sameWaiters : queue.map (waiterOf state) =
        queue.map fun cell => (cell, ((state.mutex.enqueue block id).node cell).id) := by
      apply List.map_congr_left
      intro cell present
      rw [waiterOf, sameNode cell present]
    rw [arrivals_append, departures_append, recorded, sameWaiters]
    simp [arrivals, departures, waiterOf, Mutex.enqueue_node_id]

end Invariant

/-- Everything a `release_mutex` does to a nonempty queue: `skipped` are the
waiters that cannot be resumed, and `block` is the first one that can, or the
last waiter. -/
structure Handover (state next : State) (id : ThreadId)
    (skipped : List Block) (block : Block) (rest : List Block) : Prop where
  dead : ∀ cell ∈ skipped,
    (state.thread (state.mutex.node cell).id).state ≠ .paused
  stops : (state.thread (state.mutex.node block).id).state = .paused ∨ rest = []
  threads : next.thread =
    Function.update (resumeThread (state.mutex.node block).id state.thread).2 id
      { state.thread id with location := .outside }
  describes : next.mutex.Queue rest
  nodes : next.mutex.node = state.mutex.node
  lock : next.mutex.mlock.busy = (state.mutex.mlock.busy && !rest.isEmpty)
  history : next.history = state.history ++ (skipped ++ [block]).map fun cell =>
    .departure cell (state.mutex.node cell).id
      (resumeThread (state.mutex.node cell).id state.thread).1

/-- A release always completes.  With an empty queue it frees `mlock`. -/
theorem releaseSection_cases
    {state : State} {queue : List Block} {id : ThreadId}
    (invariant : Invariant state queue)
    (inside : (state.thread id).location = .inside) :
    ∃ next, releaseSection state id = some next ∧
      ((queue = [] ∧
          next = { state with
              mutex := { state.mutex with mlock := state.mutex.mlock.release }
            }.setThread id { state.thread id with location := .outside }) ∨
        ∃ skipped block rest, queue = skipped ++ block :: rest ∧
          Handover state next id skipped block rest) := by
  obtain ⟨final, released, describes, sameNodes, lock⟩ :=
    Mutex.releaseMutex_refines resumeThread state.thread invariant.describes
  by_cases empty : queue = []
  · subst empty
    have noTail : state.mutex.tail.isSome = false := by
      simp [invariant.describes.tail_eq]
    refine ⟨_, ?_, Or.inl ⟨rfl, rfl⟩⟩
    simp [releaseSection, Mutex.releaseMutex, noTail, State.setThread]
  · obtain ⟨skipped, block, rest, splits, dead, stops, result⟩ :=
      Mutex.wakeQueue_cases (fun block => (state.mutex.node block).id)
        state.thread resumeThread_quiet empty
    rw [result] at released describes lock
    refine ⟨_, by simp only [releaseSection, released]; rfl, Or.inr
      ⟨skipped, block, rest, splits, ?_⟩⟩
    have different : id ≠ (state.mutex.node block).id := by
      rintro rfl
      have placed := (invariant.waiters block (by simp [splits])).1
      simp [inside] at placed
    have untouched : (resumeThread (state.mutex.node block).id state.thread).2 id =
        state.thread id := by
      unfold resumeThread
      split <;> simp [different]
    refine ⟨?_, ?_, ?_, describes, sameNodes, lock, ?_⟩
    · intro cell present paused
      exact dead cell present ((resumeThread_succeeds_iff _ _).mpr paused)
    · exact stops.imp_left (resumeThread_succeeds_iff _ _).mp
    · simp only [untouched]
    · simp [Function.comp_def]

namespace Handover

variable {state next : State} {id : ThreadId} {skipped : List Block}
  {block : Block} {rest : List Block}

/-- Threads other than the releasing one and the resumed waiter are as before. -/
theorem thread_other
    (handover : Handover state next id skipped block rest)
    {other : ThreadId}
    (notSelf : other ≠ id)
    (notWoken : other ≠ (state.mutex.node block).id) :
    next.thread other = state.thread other := by
  rw [handover.threads, Function.update_of_ne notSelf]
  unfold resumeThread
  split <;> simp [notWoken]

/-- The releasing thread leaves. -/
theorem thread_self
    (handover : Handover state next id skipped block rest) :
    next.thread id = { state.thread id with location := .outside } := by
  rw [handover.threads, Function.update_self]

/-- A waiter that can be resumed runs afterwards, still inside its call. -/
theorem thread_woken
    (handover : Handover state next id skipped block rest)
    (different : (state.mutex.node block).id ≠ id)
    (paused : (state.thread (state.mutex.node block).id).state = .paused) :
    next.thread (state.mutex.node block).id =
      { state.thread (state.mutex.node block).id with state := .running } := by
  rw [handover.threads, Function.update_of_ne different,
    resumeThread_of_paused paused, Function.update_self]

/-- A last waiter that cannot be resumed is left as it was. -/
theorem thread_dead
    (handover : Handover state next id skipped block rest)
    (different : (state.mutex.node block).id ≠ id)
    (dead : (state.thread (state.mutex.node block).id).state ≠ .paused) :
    next.thread (state.mutex.node block).id =
      state.thread (state.mutex.node block).id := by
  rw [handover.threads, Function.update_of_ne different, resumeThread_quiet]
  exact fun succeeded => dead ((resumeThread_succeeds_iff _ _).mp succeeded)

end Handover

namespace Invariant

variable {state next : State} {queue : List Block} {id : ThreadId}
  {skipped : List Block} {block : Block} {rest : List Block}

/-- Waiters in different blocks are different threads. -/
theorem waiter_injective
    (invariant : Invariant state queue)
    {left right : Block}
    (leftPresent : left ∈ queue) (rightPresent : right ∈ queue)
    (same : (state.mutex.node left).id = (state.mutex.node right).id) :
    left = right := by
  have leftPlaced := (invariant.waiters left leftPresent).1
  have rightPlaced := (invariant.waiters right rightPresent).1
  rw [same, rightPlaced] at leftPlaced
  simpa using leftPlaced.symm

/-- The thread that releases the mutex is not queued. -/
theorem waiter_ne_inside
    (invariant : Invariant state queue)
    (inside : (state.thread id).location = .inside)
    (present : block ∈ queue) :
    (state.mutex.node block).id ≠ id := by
  rintro rfl
  simp [(invariant.waiters block present).1] at inside

/-- Handing over or draining the queue keeps the invariant. -/
theorem handover
    (invariant : Invariant state (skipped ++ block :: rest))
    (inside : (state.thread id).location = .inside)
    (given : Handover state next id skipped block rest) :
    Invariant next rest := by
  have blockPresent : block ∈ skipped ++ block :: rest := by simp
  have restPresent : ∀ cell ∈ rest, cell ∈ skipped ++ block :: rest :=
    fun cell present => by simp [present]
  have nodup := invariant.describes.nodup
  have notBehind : block ∉ rest := by
    have tailNodup := (List.nodup_append.mp nodup).2.1
    exact (List.nodup_cons.mp tailNodup).1
  have wokenNotSelf := invariant.waiter_ne_inside inside blockPresent
  have sameOf : ∀ other, other ≠ id →
      (other = (state.mutex.node block).id →
        (state.thread other).state ≠ .paused) →
      next.thread other = state.thread other := by
    intro other notSelf deadIfWoken
    by_cases woken : other = (state.mutex.node block).id
    · subst woken
      exact given.thread_dead wokenNotSelf (deadIfWoken rfl)
    · exact given.thread_other notSelf woken
  refine ⟨given.describes, ?_, ?_, ?_, ?_, ?_, ?_⟩
  · intro cell present
    rw [given.nodes]
    have notSelf := invariant.waiter_ne_inside inside (restPresent cell present)
    have notWoken : (state.mutex.node cell).id ≠ (state.mutex.node block).id := by
      intro same
      have equal := invariant.waiter_injective (restPresent cell present)
        blockPresent same
      exact notBehind (equal ▸ present)
    rw [given.thread_other notSelf notWoken]
    exact invariant.waiters cell (restPresent cell present)
  · intro other cell placed paused
    rw [given.nodes]
    have notSelf : other ≠ id := by
      rintro rfl
      simp [given.thread_self] at placed
    have unchanged : next.thread other = state.thread other := by
      apply sameOf other notSelf
      intro woken wasPaused
      subst woken
      rw [given.thread_woken wokenNotSelf wasPaused] at paused
      simp at paused
    rw [unchanged] at placed paused
    obtain ⟨present, owner⟩ := invariant.queued other cell placed paused
    refine ⟨?_, owner⟩
    rcases List.mem_append.mp present with inSkipped | inTail
    · exact absurd (owner ▸ paused) (given.dead cell inSkipped)
    · rcases List.mem_cons.mp inTail with isBlock | inRest
      · subst isBlock
        have woken := given.thread_woken wokenNotSelf (owner ▸ paused)
        rw [owner, unchanged] at woken
        rw [woken] at paused
        simp at paused
      · exact inRest
  · intro other elsewhere
    by_cases isSelf : other = id
    · subst isSelf
      rw [given.thread_self]
      exact invariant.active other (by simp [inside])
    · have notWoken : other ≠ (state.mutex.node block).id := by
        rintro rfl
        have placed := (invariant.waiters block blockPresent).1
        by_cases paused :
            (state.thread (state.mutex.node block).id).state = .paused
        · rw [given.thread_woken wokenNotSelf paused] at elsewhere
          exact elsewhere block placed
        · rw [given.thread_dead wokenNotSelf paused] at elsewhere
          exact elsewhere block placed
      rw [given.thread_other isSelf notWoken] at elsewhere ⊢
      exact invariant.active other elsewhere
  · intro nonempty
    rw [given.lock, invariant.busy (by simp)]
    simpa using nonempty
  · intro isBusy
    rw [given.lock] at isBusy
    have nonempty : rest ≠ [] := by
      rintro rfl
      simp at isBusy
    have paused := given.stops.resolve_right nonempty
    refine ⟨(state.mutex.node block).id, Or.inr ⟨block, ?_, ?_⟩⟩
    · rw [given.thread_woken wokenNotSelf paused]
      exact (invariant.waiters block blockPresent).1
    · rw [given.thread_woken wokenNotSelf paused]
  · have recorded := invariant.recorded
    have sameWaiters : waiterOf next = waiterOf state := by
      funext cell
      rw [waiterOf, given.nodes, waiterOf]
    rw [given.history, sameWaiters, arrivals_append, departures_append,
      arrivals_map_departure, departures_map_departure, recorded]
    simp [waiterOf]

/-- The section of `__sleep_in_mutex` keeps the invariant in each of its three
outcomes. -/
theorem sleepSection
    (invariant : Invariant state queue)
    {block : Option Block}
    (placed : (state.thread id).location = .contending)
    (allowed : mayAllocate state.mutex block = true) :
    ∃ queue', Invariant (MutexSystem.sleepSection state id block) queue' := by
  by_cases isBusy : state.mutex.mlock.busy = true
  · have sameLock := Spinlock.exchange_of_busy isBusy
    cases block with
    | none =>
        refine ⟨queue, ?_⟩
        simp only [MutexSystem.sleepSection, Mutex.sleepInMutex,
          Spinlock.exchange_fst, isBusy]
        exact invariant.setThread _ (by simp [placed]) (by simp) rfl
          (fun _ => rfl) (fun _ => Or.inr ⟨isBusy, by simp [placed]⟩)
    | some block =>
        refine ⟨queue ++ [block], ?_⟩
        simp only [MutexSystem.sleepSection, Mutex.sleepInMutex,
          Spinlock.exchange_fst, isBusy, sameLock]
        exact invariant.enqueue (by simp [placed]) (by simp [placed]) isBusy
          (by simpa [mayAllocate] using allowed)
  · refine ⟨queue, ?_⟩
    simp only [MutexSystem.sleepSection, Mutex.sleepInMutex,
      Spinlock.exchange_fst, isBusy]
    exact invariant.setThread _ (by simp [placed]) (by simp) rfl
      (fun _ => rfl) (fun _ => Or.inl rfl)

/-- Every step keeps the invariant, with some new queue. -/
theorem step
    (invariant : Invariant state queue)
    {action : Action}
    (taken : MutexSystem.step state action = some next) :
    ∃ queue', Invariant next queue' := by
  cases action with
  | acquire id =>
      simp only [MutexSystem.step] at taken
      split at taken <;> simp only [Option.some.injEq, reduceCtorEq] at taken
      rename_i placed running
      subst taken
      exact ⟨queue, invariant.setThread state.mutex.mlock (by simp [placed])
        (by simp) running invariant.busy
        (fun isBusy => Or.inr ⟨isBusy, by simp [placed]⟩)⟩
  | exchange id =>
      simp only [MutexSystem.step] at taken
      split at taken
      case h_2 => simp at taken
      rename_i tries placed running
      by_cases isBusy : state.mutex.mlock.busy = true
      · simp only [Spinlock.exchange_fst, isBusy, Bool.not_true, Bool.false_eq_true,
          if_false, Option.some.injEq] at taken
        subst taken
        exact ⟨queue, invariant.setThread _ (by simp [placed])
          (by intro block; dsimp only; split <;> simp) running (fun _ => rfl)
          (fun _ => Or.inr ⟨isBusy, by simp [placed]⟩)⟩
      · simp only [Spinlock.exchange_fst, isBusy, Bool.not_false, if_true,
          Option.some.injEq] at taken
        subst taken
        exact ⟨queue, invariant.setThread _ (by simp [placed]) (by simp) rfl
          (fun _ => rfl) (fun _ => Or.inl rfl)⟩
  | sleep id block =>
      simp only [MutexSystem.step] at taken
      split at taken
      case h_2 => simp at taken
      rename_i placed _
      split at taken
      case isFalse => simp at taken
      rename_i mayAllocate
      simp only [Option.some.injEq] at taken
      subst taken
      exact invariant.sleepSection placed mayAllocate
  | wake id =>
      simp only [MutexSystem.step] at taken
      split at taken <;> simp only [Option.some.injEq, reduceCtorEq] at taken
      rename_i placed running
      subst taken
      exact ⟨queue, invariant.wake placed running _⟩
  | release id =>
      simp only [MutexSystem.step] at taken
      split at taken
      case h_2 => simp at taken
      rename_i placed running
      obtain ⟨final, released, freed | ⟨skipped, block, rest, splits, given⟩⟩ :=
        releaseSection_cases invariant placed
      · obtain rfl : final = next := by simpa [released] using taken
        rw [freed.2]
        refine ⟨queue, invariant.setThread _ (by simp [placed]) (by simp) running ?_ ?_⟩
        · intro nonempty
          exact absurd freed.1 nonempty
        · simp
      · obtain rfl : final = next := by simpa [released] using taken
        subst splits
        exact ⟨rest, invariant.handover placed given⟩
  | stop id =>
      simp only [MutexSystem.step] at taken
      split at taken <;> simp only [Option.some.injEq, reduceCtorEq] at taken
      rename_i placed paused
      subst taken
      exact ⟨queue, invariant.halt placed (by simp [paused]) (by simp) (by simp)⟩
  | detach id =>
      simp only [MutexSystem.step] at taken
      split at taken <;> simp only [Option.some.injEq, reduceCtorEq] at taken
      all_goals
        rename_i placed halted
        subst taken
        exact ⟨queue, invariant.halt placed (by simp [halted]) (by simp) (by simp)⟩

end Invariant

/-- Every reachable state satisfies the invariant for its queue. -/
theorem invariant_of_reachable {state : State} (reached : system.Reachable state) :
    ∃ queue, Invariant state queue := by
  apply reached.invariant
  · rintro state rfl
    exact ⟨[], Invariant.start⟩
  · rintro state action next ⟨queue, invariant⟩ taken
    exact invariant.step taken

end MutexSystem
end ToyKernel
