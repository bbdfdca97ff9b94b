import ToyKernel.Mutex.Defs
import ToyKernel.Sleep.System
import Mathlib.Tactic.Simps.Basic

/-!
# Waiting in mutexes and in `sleep`

Any number of mutexes and the sleep lists of the CPUs on one scheduler.  A thread that
waits is paused like any other one, and a node in a queue holds its id.  Each section of
`sync.c` under a spinlock is one atomic step.

The histories tell which call put a node into a queue, and in which call a thread is.  No
step of the code reads them.
-/

namespace ToyKernel
namespace Waiting

open Scheduler (Platform World)

/-- The nodes of the queues: `struct __mutex_node` in the pool of a mutex, and
`struct sleep_node`. -/
inductive Node
  | mutex (mutex : Address) (block : Block)
  | sleep (node : Address)
  deriving DecidableEq

/-- A call of `acquire_mutex` or `sleep` that has put a node into a queue, with the number
of such calls before it. -/
structure Call where
  node : Node
  number : Nat
  deriving DecidableEq

/-- The thread that has put a node into a queue, and the number of its call. -/
structure Waiter where
  thread : Address
  number : Nat
  deriving DecidableEq

/-- What the histories record. -/
inductive Event
  /-- A node was dequeued and `resume_thread` succeeded: who had enqueued it, and the thread
  that was resumed, with the call in which it was. -/
  | resumed (node : Node) (waiter : Option Waiter) (thread : Address) (call : Option Call)
  /-- A call has returned: whether its node had been dequeued. -/
  | returned (call : Call) (dequeued : Bool)
  deriving DecidableEq

/-- The scheduler with the sleep lists, and the mutexes by their addresses. -/
structure State where
  sleepers : Sleep.State
  mutexes : Address → Mutex
  /-- The call that each thread has not returned from. -/
  calls : Address → Option Call
  /-- Who waits in each node of a queue. -/
  waiters : Node → Option Waiter
  /-- The calls whose nodes have been dequeued. -/
  dequeued : Nat → Bool
  total : Nat
  history : List Event

namespace State

/-- The state of the scheduler. -/
abbrev world (state : State) : World := state.sleepers.world

@[simps]
def setSleepers (state : State) (sleepers : Sleep.State) : State :=
  { state with sleepers := sleepers }

@[simps]
def setMutex (state : State) (mutex : Address) (data : Mutex) : State :=
  { state with mutexes := Function.update state.mutexes mutex data }

/-- The id in a node. -/
def idOf (state : State) : Node → BitVec 64
  | .mutex mutex block => BitVec.ofNat 64 ((state.mutexes mutex).node block).id
  | .sleep node => (state.sleepers.nodes node).thread

/-- Note that a thread waits in a node. -/
@[simps]
def enter (state : State) (thread : Address) (node : Node) : State :=
  { state with
    calls := Function.update state.calls thread (some ⟨node, state.total⟩)
    waiters := Function.update state.waiters node (some ⟨thread, state.total⟩)
    total := state.total + 1 }

/-- Note that a node has been dequeued and what `resume_thread` returned for the id in it. -/
@[simps]
def depart (state : State) (node : Node) (id : BitVec 64) (err : ErrCode) : State :=
  { state with
    waiters := Function.update state.waiters node none
    dequeued :=
      match state.waiters node with
      | some waiter => Function.update state.dequeued waiter.number true
      | none => state.dequeued
    history :=
      if err = .errNone then
        state.history ++ [.resumed node (state.waiters node) (getStampIdPtr id)
          (state.calls (getStampIdPtr id))]
      else
        state.history }

@[simp] theorem idOf_enter (state : State) (thread : Address) (node other : Node) :
    (state.enter thread node).idOf other = state.idOf other := by
  cases other <;> rfl

@[simp] theorem idOf_depart (state : State) (node other : Node) (id : BitVec 64)
    (err : ErrCode) : (state.depart node id err).idOf other = state.idOf other := by
  cases other <;> rfl

/-- The thread that a CPU executes, if it is in no call that has enqueued a node. -/
def caller (state : State) (cpu : Nat) : Option Address := do
  let thread ← (state.world.state.machines cpu).fsBase
  if state.calls thread = none then some thread else none

end State

/-! ## Mutexes -/

/-- `&mutex->ilock`. -/
def ilock (mutex : Address) : Address := mutex + 17

/-- `resume_thread`, as `__awake_in_mutex` calls it on a CPU.  It may not return. -/
def resumeThread (platform : Platform) (cpu : Nat) (id : ThreadId) :
    Option Sleep.State → ErrCode × Option Sleep.State
  | none => (.errNone, none)
  | some state =>
      match Scheduler.resumeThread platform state.world.state cpu (BitVec.ofNat 64 id) with
      | none => (.errNone, none)
      | some (_, err) => (err, state.act platform (.resume cpu (BitVec.ofNat 64 id)))

/-- One try of the fast path of `acquire_mutex`. -/
def tryMutex (state : State) (cpu : Nat) (mutex : Address) : Option State := do
  let _ ← state.caller cpu
  let data := state.mutexes mutex
  some (state.setMutex mutex { data with mlock := data.mlock.exchange.2 })

/-- `__sleep_in_mutex` up to the pause, with the block that the pool gives. -/
def sleepInMutex (platform : Platform) (state : State) (cpu : Nat) (mutex : Address)
    (block : Option Block) : Option State := do
  let thread ← state.caller cpu
  match (state.mutexes mutex).sleepInMutex block
      (Scheduler.getThread state.world.state cpu).toNat with
  | (data, .paused block) => do
      let sleepers ← state.sleepers.act platform (.pauseThis cpu (some (ilock mutex)))
      some (((state.setMutex mutex data).setSleepers sleepers).enter thread
        (.mutex mutex block))
  | (data, _) => some (state.setMutex mutex data)

/-- `release_mutex`. -/
def releaseMutex (platform : Platform) (state : State) (cpu : Nat) (mutex : Address) :
    Option State := do
  let _ ← state.caller cpu
  let (data, sleepers, log) ←
    (state.mutexes mutex).releaseMutex (resumeThread platform cpu) (some state.sleepers)
  let sleepers ← sleepers
  some (log.foldl (fun state entry =>
      state.depart (.mutex mutex entry.1) (state.idOf (.mutex mutex entry.1)) entry.2)
    ((state.setMutex mutex data).setSleepers sleepers))

/-! ## Sleeping -/

/-- `sleep` up to the pause, with the block that the pool gives. -/
def sleep (platform : Platform) (state : State) (cpu : Nat) (period : BitVec 64)
    (block : Option Address) (rounds : Nat) : Option State := do
  let thread ← state.caller cpu
  let (sleepers, _) ← Sleep.sleep platform state.sleepers cpu period block rounds
  match block with
  | none => some (state.setSleepers sleepers)
  | some node => some ((state.setSleepers sleepers).enter thread (.sleep node))

/-- `sleep_timer_proc`. -/
def sleepTimerProc (platform : Platform) (state : State) (cpu : Nat) : Option State := do
  let sleepers ← Sleep.sleepTimerProc platform state.sleepers cpu
  match (state.sleepers.sleeping cpu).tail with
  | none => some (state.setSleepers sleepers)
  | some node => do
      -- the result of `resume_thread`, which `sleep_timer_proc` drops
      let armed ← Sleep.rearm platform
        (state.sleepers.setTail cpu (state.sleepers.nodes node).next) cpu
      let (_, err) ← Scheduler.resumeThread platform armed.world.state cpu
        (state.idOf (.sleep node))
      some ((state.setSleepers sleepers).depart (.sleep node) (state.idOf (.sleep node)) err)

/-- The timer interrupt with the timer procedure that `init_sync` installs. -/
def timerInterrupt (platform : Platform) (state : State) (cpu : Nat) : Option State := do
  let interrupted ← state.sleepers.act platform (.timer cpu)
  if Sleep.expires state.world.state interrupted.world.state cpu then
    sleepTimerProc platform (state.setSleepers interrupted) cpu
  else
    some (state.setSleepers interrupted)

/-! ## Runs -/

/-- The steps.  The calls are made by the thread that a CPU executes. -/
inductive Action
  | tryMutex (cpu : Nat) (mutex : Address)
  | sleepInMutex (cpu : Nat) (mutex : Address) (block : Option Block)
  | release (cpu : Nat) (mutex : Address)
  | sleep (cpu : Nat) (period : BitVec 64) (block : Option Address) (rounds : Nat)
  /-- The thread on a CPU returns from the call that had put its node into a queue. -/
  | returns (cpu : Nat)
  | timer (cpu : Nat)
  | other (action : Scheduler.Action)

/-- The slow path of `acquire_mutex`, or `sleep`, returns `ERR_NONE`. -/
def returnFromCall (state : State) (cpu : Nat) : Option State := do
  let thread ← (state.world.state.machines cpu).fsBase
  let call ← state.calls thread
  some { state with
    calls := Function.update state.calls thread none
    history := state.history ++ [.returned call (state.dequeued call.number)] }

/-- One step. -/
def step (platform : Platform) (state : State) : Action → Option State
  | .tryMutex cpu mutex => tryMutex state cpu mutex
  | .sleepInMutex cpu mutex block => sleepInMutex platform state cpu mutex block
  | .release cpu mutex => releaseMutex platform state cpu mutex
  | .sleep cpu period block rounds => sleep platform state cpu period block rounds
  | .returns cpu => returnFromCall state cpu
  | .timer cpu => timerInterrupt platform state cpu
  | .other action => (state.sleepers.act platform action).map state.setSleepers

/-- Nobody waits yet. -/
structure State.Initial (state : State) : Prop where
  world : state.world.Initial
  stamp : state.world.state.stamp < 2 ^ stampIdStampBits
  tail : ∀ cpu, (state.sleepers.sleeping cpu).tail = none
  mutexes : ∀ mutex, state.mutexes mutex = .create
  calls : ∀ thread, state.calls thread = none
  waiters : ∀ node, state.waiters node = none
  history : state.history = []

/-- The waiting threads as a transition system. -/
def system (platform : Platform) : TransitionSystem State Action where
  initial := State.Initial
  step := step platform

namespace State

/-- A thread waits in a node of a queue. -/
def Waits (state : State) (thread : Address) : Prop :=
  ∃ call ∈ state.calls thread, state.waiters call.node = some ⟨thread, call.number⟩

instance (state : State) (thread : Address) : Decidable (state.Waits thread) :=
  match called : state.calls thread with
  | none => .isFalse (by simp [Waits, called])
  | some call =>
      decidable_of_iff (state.waiters call.node = some ⟨thread, call.number⟩)
        (by simp [Waits, called])

/-- An id refers to no thread that waits in a queue. -/
def Spares (state : State) (id : BitVec 64) : Prop :=
  match Scheduler.withStampId state.world.state id with
  | .ok thread => ¬ state.Waits thread
  | .error _ => True

instance (state : State) (id : BitVec 64) : Decidable (state.Spares id) :=
  match found : Scheduler.withStampId state.world.state id with
  | .ok thread => decidable_of_iff (¬ state.Waits thread) (by rw [Spares, found])
  | .error _ => .isTrue (by rw [Spares, found]; trivial)

end State

/-- The thread that a CPU executes has an address that fits into an id. -/
def SmallAddress (state : State) (cpu : Nat) : Prop :=
  ∀ thread ∈ (state.world.state.machines cpu).fsBase, thread.toNat < 2 ^ 52

instance (state : State) (cpu : Nat) : Decidable (SmallAddress state cpu) :=
  Option.decidableForallMem _

/-- What the pools and the callers see to.  A pool gives a block that is not in use, a
thread that waits is not detached, and timer interrupts call the timer procedure. -/
def Promised (state : State) : Action → Prop
  | .sleep cpu _ block _ =>
      (∀ node ∈ block, state.sleepers.allocated node = false) ∧ SmallAddress state cpu
  | .sleepInMutex cpu mutex block =>
      (∀ node ∈ block, node ∉ (state.mutexes mutex).allocated) ∧ SmallAddress state cpu
  | .other (.timer _) => False
  | .other (.detach _ id) => state.Spares id
  | _ => True

instance (state : State) : ∀ action, Decidable (Promised state action)
  | .tryMutex _ _ => .isTrue trivial
  | .sleepInMutex cpu mutex block =>
      -- without this, all blocks would be tried
      letI : Decidable (∀ node ∈ block, node ∉ (state.mutexes mutex).allocated) :=
        Option.decidableForallMem _
      inferInstanceAs (Decidable (_ ∧ SmallAddress state cpu))
  | .release _ _ => .isTrue trivial
  | .sleep cpu _ block _ =>
      letI : Decidable (∀ node ∈ block, state.sleepers.allocated node = false) :=
        Option.decidableForallMem _
      inferInstanceAs (Decidable (_ ∧ SmallAddress state cpu))
  | .returns _ => .isTrue trivial
  | .timer _ => .isTrue trivial
  | .other action =>
      match action with
      | .timer _ => .isFalse id
      | .detach _ id => inferInstanceAs (Decidable (state.Spares id))
      | .prepare _ _ => .isTrue trivial
      | .setContext _ _ _ => .isTrue trivial
      | .store _ _ => .isTrue trivial
      | .execute _ _ => .isTrue trivial
      | .setTimerTicks _ _ => .isTrue trivial
      | .attach _ _ => .isTrue trivial
      | .resume _ _ => .isTrue trivial
      | .pause _ _ => .isTrue trivial
      | .stop _ _ _ => .isTrue trivial
      | .pauseThis _ _ => .isTrue trivial

/-- `resume_thread` is not called for a thread that waits in a queue. -/
def SparesWaiters (state : State) : Action → Prop
  | .other (.resume _ id) => state.Spares id
  | _ => True

instance (state : State) : ∀ action, Decidable (SparesWaiters state action)
  | .tryMutex _ _ => .isTrue trivial
  | .sleepInMutex _ _ _ => .isTrue trivial
  | .release _ _ => .isTrue trivial
  | .sleep _ _ _ _ => .isTrue trivial
  | .returns _ => .isTrue trivial
  | .timer _ => .isTrue trivial
  | .other action =>
      match action with
      | .resume _ id => inferInstanceAs (Decidable (state.Spares id))
      | .timer _ => .isTrue trivial
      | .detach _ _ => .isTrue trivial
      | .prepare _ _ => .isTrue trivial
      | .setContext _ _ _ => .isTrue trivial
      | .store _ _ => .isTrue trivial
      | .execute _ _ => .isTrue trivial
      | .setTimerTicks _ _ => .isTrue trivial
      | .attach _ _ => .isTrue trivial
      | .pause _ _ => .isTrue trivial
      | .stop _ _ _ => .isTrue trivial
      | .pauseThis _ _ => .isTrue trivial

/-- A wake-up ends the wait it belongs to: the resumed thread is the one that has enqueued
the node, still in the same call, and a call for a mutex returns when its node has been
dequeued. -/
def Event.Right : Event → Prop
  | .resumed node waiter thread call =>
      ∃ number, waiter = some ⟨thread, number⟩ ∧ call = some ⟨node, number⟩
  | .returned call dequeued =>
      ∀ mutex block, call.node = .mutex mutex block → dequeued = true

end Waiting
end ToyKernel
