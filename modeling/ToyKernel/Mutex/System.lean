import ToyKernel.Library.Transition
import ToyKernel.Mutex.Queue

/-!
# Threads sharing one mutex

Any number of threads call `acquire_mutex` and `release_mutex`.  Each exchange
on `mlock` in the fast path is one step, and so is each section under `ilock`.
Queued waiters may be stopped and detached by other threads; their nodes stay
queued and resuming them fails.  The history of queue operations is auxiliary:
no step reads it.
-/

namespace ToyKernel
namespace MutexSystem

/-- The number of exchanges that the fast path of `acquire_mutex` attempts. -/
def acquireTries : Nat := 1000

/-- Scheduler states of an attached thread, and the detached state. -/
inductive ThreadState
  | running
  | paused
  | stopped
  | detached
  deriving DecidableEq

/-- Where a thread is with respect to the mutex. -/
inductive Location
  /-- Neither in a call nor holding the mutex. -/
  | outside
  /-- In the fast path of `acquire_mutex`, with some exchanges left. -/
  | trying (tries : Nat)
  /-- The fast path failed; about to enter the section of `__sleep_in_mutex`. -/
  | contending
  /-- In `pause_this_thread` of `__sleep_in_mutex`, queued in a block. -/
  | waiting (block : Block)
  /-- Between a successful `acquire_mutex` and `release_mutex`. -/
  | inside
  deriving DecidableEq

/-- A thread; `result` is what its last `acquire_mutex` returned. -/
structure Thread where
  location : Location
  state : ThreadState
  result : ErrCode
  deriving DecidableEq

/-- One operation on the wait queue. -/
inductive QueueEvent
  | arrival (block : Block) (thread : ThreadId)
  | departure (block : Block) (thread : ThreadId) (err : ErrCode)
  deriving DecidableEq

structure State where
  mutex : Mutex
  thread : ThreadId → Thread
  history : List QueueEvent

/-- Replace one thread. -/
def State.setThread (state : State) (id : ThreadId) (thread : Thread) : State :=
  { state with thread := Function.update state.thread id thread }

/-- `resume_thread` for a waiter: it succeeds exactly on paused threads. -/
def resumeThread (id : ThreadId) (threads : ThreadId → Thread) :
    ErrCode × (ThreadId → Thread) :=
  match (threads id).state with
  | .paused =>
      (.errNone, Function.update threads id { threads id with state := .running })
  | .detached => (.errNotFound, threads)
  | _ => (.errBadState, threads)

/-- The atomic steps. -/
inductive Action
  /-- Call `acquire_mutex`. -/
  | acquire (id : ThreadId)
  /-- One exchange on `mlock` in the fast path. -/
  | exchange (id : ThreadId)
  /-- The `ilock` section of `__sleep_in_mutex`, with the block that
  `alloc_block` returns if it is called. -/
  | sleep (id : ThreadId) (block : Option Block)
  /-- A resumed waiter returns from `__sleep_in_mutex`. -/
  | wake (id : ThreadId)
  /-- The `ilock` section of `release_mutex`. -/
  | release (id : ThreadId)
  /-- Another thread stops a waiter. -/
  | stop (id : ThreadId)
  /-- Another thread detaches a paused or stopped waiter. -/
  | detach (id : ThreadId)
  deriving DecidableEq

/-- Whether `alloc_block` may return this block: a pool never hands out a block
that is still allocated. -/
def mayAllocate (mutex : Mutex) : Option Block → Bool
  | none => true
  | some block => block ∉ mutex.allocated

/-- The section of `__sleep_in_mutex`. -/
def sleepSection (state : State) (id : ThreadId) (block : Option Block) : State :=
  match state.mutex.sleepInMutex block id with
  | (mutex, .acquired) =>
      { state with mutex := mutex }.setThread id
        { location := .inside, state := .running, result := .errNone }
  | (mutex, .paused block) =>
      { mutex := mutex
        thread := Function.update state.thread id
          { state.thread id with location := .waiting block, state := .paused }
        history := state.history ++ [.arrival block id] }
  | (mutex, .outOfMemory) =>
      { state with mutex := mutex }.setThread id
        { location := .outside, state := .running, result := .errOutOfMemory }

/-- The section of `release_mutex`. -/
def releaseSection (state : State) (id : ThreadId) : Option State :=
  match state.mutex.releaseMutex resumeThread state.thread with
  | none => none
  | some (mutex, threads, log) =>
      some
        { mutex := mutex
          thread := Function.update threads id
            { threads id with location := .outside }
          history := state.history ++ log.map fun entry =>
            .departure entry.1 (state.mutex.node entry.1).id entry.2 }

/-- The transition function.  A thread only acts while it is running. -/
def step (state : State) : Action → Option State
  | .acquire id =>
      match (state.thread id).location, (state.thread id).state with
      | .outside, .running =>
          some (state.setThread id
            { state.thread id with location := .trying acquireTries })
      | _, _ => none
  | .exchange id =>
      match (state.thread id).location, (state.thread id).state with
      | .trying tries, .running =>
          let (acquired, mlock) := state.mutex.mlock.exchange
          let state := { state with mutex := { state.mutex with mlock := mlock } }
          if acquired then
            some (state.setThread id
              { location := .inside, state := .running, result := .errNone })
          else
            some (state.setThread id
              { state.thread id with
                location := if tries - 1 = 0 then .contending
                  else .trying (tries - 1) })
      | _, _ => none
  | .sleep id block =>
      match (state.thread id).location, (state.thread id).state with
      | .contending, .running =>
          if mayAllocate state.mutex block then some (sleepSection state id block)
          else none
      | _, _ => none
  | .wake id =>
      match (state.thread id).location, (state.thread id).state with
      | .waiting _, .running =>
          some (state.setThread id
            { location := .inside, state := .running, result := .errNone })
      | _, _ => none
  | .release id =>
      match (state.thread id).location, (state.thread id).state with
      | .inside, .running => releaseSection state id
      | _, _ => none
  | .stop id =>
      match (state.thread id).location, (state.thread id).state with
      | .waiting _, .paused =>
          some (state.setThread id { state.thread id with state := .stopped })
      | _, _ => none
  | .detach id =>
      match (state.thread id).location, (state.thread id).state with
      | .waiting _, .paused | .waiting _, .stopped =>
          some (state.setThread id { state.thread id with state := .detached })
      | _, _ => none

/-- A created mutex and running threads that do not use it yet. -/
def start : State where
  mutex := Mutex.create
  thread := fun _ => { location := .outside, state := .running, result := .errNone }
  history := []

/-- Threads using one mutex. -/
def system : TransitionSystem State Action where
  initial := fun state => state = start
  step := step

end MutexSystem
end ToyKernel
