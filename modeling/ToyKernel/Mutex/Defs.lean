import ToyKernel.Common
import Mathlib.Logic.Function.Basic

/-!
# Mutexes

`struct mutex` and the sections of `sync.h` and `sync.c` that run under its
`ilock`.  A section is one atomic step, so `ilock` itself is free between steps
and has no field here.  `mlock` is also taken outside these sections, by single
exchanges of the fast path of `acquire_mutex`.

The blocks of the memory pool are the cells of a linked queue: `tail` is the
first waiter and `head` the last one.  `resume_thread` is a parameter of the
wake-up loop, because it acts on scheduler state only.
-/

namespace ToyKernel

/-- Address of a block of a memory pool. -/
abbrev Block := Nat

/-- Identifier of one attached thread. -/
abbrev ThreadId := Nat

/-- `struct spinlock`. -/
structure Spinlock where
  busy : Bool
  deriving DecidableEq

/-- One `xchg` of `acquire_spinlock_int`: whether the lock was obtained, and
the lock afterwards. -/
def Spinlock.exchange (lock : Spinlock) : Bool × Spinlock :=
  (!lock.busy, { busy := true })

/-- `release_spinlock_int`. -/
def Spinlock.release (_lock : Spinlock) : Spinlock :=
  { busy := false }

@[simp] theorem Spinlock.exchange_fst (lock : Spinlock) :
    lock.exchange.1 = !lock.busy := rfl

@[simp] theorem Spinlock.exchange_busy (lock : Spinlock) :
    lock.exchange.2.busy = true := rfl

@[simp] theorem Spinlock.release_busy (lock : Spinlock) :
    lock.release.busy = false := rfl

/-- A failed exchange leaves the lock as it was. -/
theorem Spinlock.exchange_of_busy {lock : Spinlock} (busy : lock.busy = true) :
    lock.exchange.2 = lock := by
  cases lock
  simp_all [exchange]

/-- `struct __mutex_node`. -/
structure MutexNode where
  next : Option Block
  id : ThreadId
  deriving DecidableEq

/-- `struct mutex`, with the memory of its pool. -/
structure Mutex where
  head : Option Block
  tail : Option Block
  mlock : Spinlock
  /-- Contents of the blocks of the pool. -/
  node : Block → MutexNode
  /-- Blocks handed out by `alloc_block` and not yet freed. -/
  allocated : List Block

namespace Mutex

/-- `create_mutex`. -/
def create : Mutex where
  head := none
  tail := none
  mlock := { busy := false }
  node := fun _ => { next := none, id := 0 }
  allocated := []

/-- The `next` fields of the nodes. -/
def nextOf (mutex : Mutex) (block : Block) : Option Block :=
  (mutex.node block).next

/-- `free_block`. -/
def freeBlock (mutex : Mutex) (block : Block) : Mutex :=
  { mutex with allocated := mutex.allocated.erase block }

/-- Link a new node for `thread` behind the last waiter. -/
def enqueue (mutex : Mutex) (block : Block) (thread : ThreadId) : Mutex :=
  let node := Function.update mutex.node block { next := none, id := thread }
  let node := match mutex.head with
    | some last => Function.update node last { node last with next := some block }
    | none => node
  { mutex with
    node := node
    head := some block
    tail := if mutex.tail.isSome then mutex.tail else some block
    allocated := block :: mutex.allocated }

/-- How the `ilock` section of `__sleep_in_mutex` ends. -/
inductive SleepOutcome
  /-- The second try on `mlock` succeeded: return `ERR_NONE`. -/
  | acquired
  /-- The thread is queued in the given block and pauses, releasing `ilock`. -/
  | paused (block : Block)
  /-- No node could be allocated: return `ERR_OUT_OF_MEMORY`. -/
  | outOfMemory
  deriving DecidableEq

/-- The `ilock` section of `__sleep_in_mutex`; `block` is what `alloc_block`
returns if it is called. -/
def sleepInMutex (mutex : Mutex) (block : Option Block) (thread : ThreadId) :
    Mutex × SleepOutcome :=
  let (acquired, mlock) := mutex.mlock.exchange
  let mutex := { mutex with mlock := mlock }
  if acquired then
    (mutex, .acquired)
  else
    match block with
    | none => (mutex, .outOfMemory)
    | some block => (mutex.enqueue block thread, .paused block)

/-- Unlink the first waiter's node. -/
def dequeue (mutex : Mutex) (block : Block) : Mutex :=
  { mutex with
    tail := mutex.nextOf block
    head := if mutex.head = some block then none else mutex.head }

variable {Scheduler : Type*}

/-- The `do ... while` loop of `__awake_in_mutex`.  It reports the nodes it took
off the queue with the results of resuming their threads.  The result is `none`
if the loop follows a null pointer or exceeds its bound. -/
def awakeLoop (resumeThread : ThreadId → Scheduler → ErrCode × Scheduler) :
    Nat → Mutex → Scheduler →
      Option (Mutex × Scheduler × List (Block × ErrCode))
  | 0, _, _ => none
  | bound + 1, mutex, scheduler =>
      match mutex.tail with
      | none => none
      | some block =>
          let unlinked := mutex.dequeue block
          let (err, scheduler) := resumeThread (unlinked.node block).id scheduler
          let freed := unlinked.freeBlock block
          if freed.tail.isSome && !err.succeeded then
            match awakeLoop resumeThread bound freed scheduler with
            | none => none
            | some (mutex, scheduler, log) =>
                some (mutex, scheduler, (block, err) :: log)
          else
            some (freed, scheduler, [(block, err)])

/-- `__awake_in_mutex`. -/
def awakeInMutex (resumeThread : ThreadId → Scheduler → ErrCode × Scheduler)
    (mutex : Mutex) (scheduler : Scheduler) :
    Option (Mutex × Scheduler × List (Block × ErrCode)) :=
  match awakeLoop resumeThread (mutex.allocated.length + 1) mutex scheduler with
  | none => none
  | some (mutex, scheduler, log) =>
      if mutex.tail.isNone then
        some ({ mutex with mlock := mutex.mlock.release }, scheduler, log)
      else
        some (mutex, scheduler, log)

/-- The `ilock` section of `release_mutex`. -/
def releaseMutex (resumeThread : ThreadId → Scheduler → ErrCode × Scheduler)
    (mutex : Mutex) (scheduler : Scheduler) :
    Option (Mutex × Scheduler × List (Block × ErrCode)) :=
  if mutex.tail.isSome then
    awakeInMutex resumeThread mutex scheduler
  else
    some ({ mutex with mlock := mutex.mlock.release }, scheduler, [])

end Mutex
end ToyKernel
