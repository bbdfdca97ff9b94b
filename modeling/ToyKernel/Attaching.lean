import ToyKernel.Driver.Registry
import ToyKernel.Library.CheckThenAct
import ToyKernel.Scheduler.Conservation

/-!
# Attaching one object by several calls

`attach_thread` and `add_driver` test the magic number of the object before they take
the lock under which they set it and link the object.  Here several calls for one object
that is not attached interleave.
-/

namespace ToyKernel
namespace Attaching

open CheckThenAct (Calls Succeeds Alone AtMostOne Complete Guards Serial)
open Scheduler (Platform World Refines checkAttach)
open DriverRegistry (Registry)

/-- The calls have attached the object at most once, and the lists are intact. -/
structure AttachedOnce {Shared Caller : Type} (lists : Shared → Prop)
    (calls : Calls Shared Caller ErrCode) : Prop where
  atMostOne : AtMostOne .errNone .errBadState calls
  lists : lists calls.shared

/-- The object is attached once in every run in which no call tests it while another call is
between its test and the end of its locked section, and of the runs in which all calls
return in no others. -/
def OnceIffAlone {Shared Env : Type} (protocol : CheckThenAct Shared Env ErrCode)
    (allows : Env → Prop) (start : Shared) (lists : Shared → Prop) (Caller : Type)
    [DecidableEq Caller] : Prop :=
  ∀ actions, ∀ calls : Calls Shared Caller ErrCode,
    (protocol.system start).Trace (Succeeds allows) actions calls →
      ((protocol.system start).Trace
          (fun calls action => Succeeds allows calls action ∧ Alone calls action) actions calls →
        AttachedOnce lists calls) ∧
      (Complete calls → AttachedOnce lists calls →
        (protocol.system start).Trace
          (fun calls action => Succeeds allows calls action ∧ Alone calls action) actions calls)

theorem onceIffAlone {Shared Env : Type} {protocol : CheckThenAct Shared Env ErrCode}
    {allows : Env → Prop} {start final : Shared} {lists : Shared → Prop} {Caller : Type}
    [DecidableEq Caller] (guards : Guards protocol allows start final .errNone .errBadState)
    (listsStart : lists start) (listsPrepared : lists (protocol.prepare start))
    (listsFinal : lists final) : OnceIffAlone protocol allows start lists Caller := by
  intro actions calls trace
  refine ⟨fun alone => ?_, fun complete once =>
    CheckThenAct.alone_of_atMostOne guards trace complete once.atMostOne⟩
  have serial := CheckThenAct.serial_of_trace guards alone
  refine ⟨serial.atMostOne (by simp), ?_⟩
  cases serial with
  | before sameShared => rwa [sameShared]
  | checked _ sameShared => rwa [sameShared]
  | prepared _ sameShared => rwa [sameShared]
  | after _ sameShared => rwa [sameShared]

/-! ## `attach_thread` -/

/-- The part of `attach_thread` between its tests and its locked section. -/
def prepareThread (state : Scheduler.State) (thread : Address) : Scheduler.State :=
  state.setThread thread
    ({ · with prev := none, allPrev := none, state := .paused, runTime := 0 })

/-- The locked section of `attach_thread`. -/
def linkThread (state : Scheduler.State) (thread : Address) : Scheduler.State :=
  let (stamp, globalStamp) := assignStampIdStamp state.stamp
  let state := state.setThread thread
    ({ · with magic := Scheduler.threadMagic, stamp := stamp })
  let state := Scheduler.linkAll { state with stamp := globalStamp } thread
  Scheduler.linkInactive state thread

/-- `attach_thread` in three steps. -/
def attachThread (platform : Platform) (thread : Address) :
    CheckThenAct Scheduler.State Unit ErrCode where
  check state :=
    match checkAttach platform state thread with
    | .errNone => none
    | err => some err
  prepare state := prepareThread state thread
  act _ state := (linkThread state thread, .errNone)

/-- The lists of all threads and of the inactive ones hold each thread once and count them. -/
structure ThreadLists (state : Scheduler.State) : Prop where
  all : ∃ members, state.allLinks.Represents state.all.tail members ∧
    state.all.totalThreads = members.length
  inactive : ∃ parked, state.links.Represents state.inactive.tail parked ∧
    state.inactive.totalThreads = parked.length

section Threads

variable {platform : Platform} {state : Scheduler.State} {thread : Address}

/-- The three steps in a row are `attach_thread`. -/
theorem attachThread_eq (accepted : checkAttach platform state thread = .errNone) :
    (Scheduler.attachThread platform state thread).1 =
      linkThread (prepareThread state thread) thread := by
  simp only [Scheduler.attachThread, accepted]
  rfl

theorem threadLists_of_refines {summary : Scheduler.Summary} (refines : Refines state summary) :
    ThreadLists state where
  all := ⟨_, refines.lists.all, refines.lists.allTotal⟩
  inactive := ⟨_, refines.lists.inactive, refines.lists.inactiveTotal⟩

/-- The tests do not look at what is set between them and the locked section. -/
theorem checkAttach_prepareThread :
    checkAttach platform (prepareThread state thread) thread =
      checkAttach platform state thread := by
  simp [checkAttach, prepareThread]

/-- The locked section marks the thread as attached. -/
theorem checkAttach_attached {summary : Scheduler.Summary} {stamp : Nat}
    (refines : Refines state (summary.attach thread stamp)) :
    checkAttach platform state thread = .errBadState := by
  have marked : (state.threads thread).magic = Scheduler.threadMagic := by
    rw [← Scheduler.ThreadData.core_magic, refines.thread]
    simp [Scheduler.Summary.attach]
  simp [checkAttach, marked]

/-- One call of `attach_thread` at a time. -/
theorem attachThread_guards {summary : Scheduler.Summary} {attached : Address → Bool}
    (refines : Refines state summary) (invariant : Scheduler.Invariant platform attached summary)
    (accepted : checkAttach platform state thread = .errNone) :
    Guards (attachThread platform thread) (fun _ => True) state
      (linkThread (prepareThread state thread) thread) .errNone .errBadState where
  check := by simp only [attachThread, accepted]
  checkPrepared := by simp only [attachThread, checkAttach_prepareThread, accepted]
  act _ _ := rfl
  checkFinal := by
    have attaches := (Scheduler.attachThread_accepted refines invariant accepted).2.2
    rw [attachThread_eq accepted] at attaches
    simp only [attachThread, checkAttach_attached attaches]
  succeeds _ _ _ := rfl

theorem attachThread_onceIffAlone {world : World} (Caller : Type) [DecidableEq Caller]
    (reached : (Scheduler.system platform).Reachable world)
    (accepted : checkAttach platform world.state thread = .errNone) :
    OnceIffAlone (attachThread platform thread) (fun _ => True) world.state ThreadLists
      Caller := by
  obtain ⟨summary, refines, invariant⟩ := Scheduler.sound_of_reachable reached
  obtain ⟨-, unattached, attaches⟩ :=
    Scheduler.attachThread_accepted refines invariant accepted
  obtain ⟨unplaced, unlisted⟩ := Scheduler.unlisted_of_unattached invariant unattached
  rw [attachThread_eq accepted] at attaches
  exact onceIffAlone (attachThread_guards refines invariant accepted)
    (threadLists_of_refines refines)
    (threadLists_of_refines (refines.replace _ unplaced unlisted))
    (threadLists_of_refines attaches)

end Threads

/-! ## `add_driver` -/

/-- `add_driver` in three steps.  It sets nothing before it takes the mutex, and the last
step is the rest of the call when `acquire_mutex` returns `acquired`. -/
def addDriver (driver : Address) : CheckThenAct Registry ErrCode ErrCode where
  check registry :=
    if (registry.drivers driver).magic = DriverRegistry.driverMagic then
      some .errBadState
    else
      none
  prepare registry := registry
  act acquired registry :=
    if acquired ≠ .errNone then
      (registry, acquired)
    else
      (DriverRegistry.linkDriver registry driver, .errNone)

/-- The list of the drivers holds each driver once.  It is not counted. -/
def DriverList (registry : Registry) : Prop :=
  ∃ drivers, registry.links.Represents registry.tail drivers

section Drivers

variable {registry : Registry} {acquired : ErrCode} {driver : Address}

/-- The three steps in a row are `add_driver`. -/
theorem addDriver_eq (passes : (addDriver driver).check registry = none) :
    (addDriver driver).act acquired ((addDriver driver).prepare registry) =
      ((DriverRegistry.addDriver registry acquired driver).registry,
        (DriverRegistry.addDriver registry acquired driver).err) := by
  have magic : (registry.drivers driver).magic ≠ DriverRegistry.driverMagic := by
    simpa [addDriver] using passes
  simp only [addDriver, DriverRegistry.addDriver, if_neg magic]
  split <;> rfl

/-- One call of `add_driver` at a time. -/
theorem addDriver_guards (magic : (registry.drivers driver).magic ≠ DriverRegistry.driverMagic) :
    Guards (addDriver driver) (· = .errNone) registry
      (DriverRegistry.linkDriver registry driver) .errNone .errBadState where
  check := if_neg magic
  checkPrepared := if_neg magic
  act acquired succeeded := by
    rw [succeeded]
    rfl
  checkFinal := by simp [addDriver]
  succeeds acquired other succeeded := by
    rw [succeeded]
    rfl

theorem addDriver_onceIffAlone {run : DriverRegistry.Run} (Caller : Type) [DecidableEq Caller]
    (wellFormed : run.WellFormed) (absent : driver ∉ run.drivers) (notNull : driver ≠ 0) :
    OnceIffAlone (addDriver driver) (· = .errNone) run.registry DriverList Caller := by
  have listed : DriverList run.registry := ⟨_, wellFormed.listed⟩
  have magic : (run.registry.drivers driver).magic ≠ DriverRegistry.driverMagic :=
    fun isMagic => absent ((wellFormed.magic driver).mp isMagic)
  exact onceIffAlone (addDriver_guards magic) listed listed
    ⟨_, DriverRegistry.linkDriver_represents wellFormed.listed absent wellFormed.notNull notNull⟩

end Drivers

/-! ## Both calls -/

/-- The calls of `attach_thread` for one thread, and the calls of `add_driver` for one driver
whose `acquire_mutex` succeeds, attach their object once if and only if none of them
tests it while another one is between its test and the end of its locked section. -/
theorem attachedOnce_iff_alone (platform : Platform) (Caller : Type) [DecidableEq Caller] :
    (∀ world thread, (Scheduler.system platform).Reachable world →
      checkAttach platform world.state thread = .errNone →
      OnceIffAlone (attachThread platform thread) (fun _ => True) world.state ThreadLists
        Caller) ∧
    ∀ run : DriverRegistry.Run, ∀ driver, run.WellFormed → driver ∉ run.drivers → driver ≠ 0 →
      OnceIffAlone (addDriver driver) (· = .errNone) run.registry DriverList Caller :=
  ⟨fun _ _ reached accepted => attachThread_onceIffAlone Caller reached accepted,
    fun _ _ wellFormed absent notNull =>
      addDriver_onceIffAlone Caller wellFormed absent notNull⟩

/-- Two calls one after the other, of which the second one is refused. -/
def inTurn {Env : Type} (env : Env) : List (CheckThenAct.Action Bool Env) :=
  [.check false, .prepare false, .act false env, .check true]

/-- Two calls that both test the object before one of them links it. -/
def together {Env : Type} (env : Env) : List (CheckThenAct.Action Bool Env) :=
  [.check false, .check true, .prepare false, .prepare true, .act false env, .act true env]

/-- Two calls in turn attach a thread and a second driver once. -/
theorem attachedOnce_iff_alone_inTurn :
    (∃ calls, ((attachThread Scheduler.twoCpus 0x10000).system
        Scheduler.bootWorld.state).execUnder
          (fun calls action => Succeeds (fun _ => True) calls action ∧ Alone calls action)
          ⟨Scheduler.bootWorld.state, fun _ => .idle⟩ (inTurn ()) = some calls ∧
      calls.phase true = .returned .errBadState ∧ AttachedOnce ThreadLists calls) ∧
    ∃ calls, ((addDriver 0x2000).system DriverRegistry.oneDriver.registry).execUnder
          (fun calls action => Succeeds (· = .errNone) calls action ∧ Alone calls action)
          ⟨DriverRegistry.oneDriver.registry, fun _ => .idle⟩ (inTurn .errNone) = some calls ∧
      calls.phase true = .returned .errBadState ∧ AttachedOnce DriverList calls := by
  obtain ⟨ofThread, ofDriver⟩ := attachedOnce_iff_alone Scheduler.twoCpus Bool
  constructor
  · obtain ⟨calls, executed, refused⟩ := (Option.any_eq_true _ _).mp
      (show (((attachThread Scheduler.twoCpus 0x10000).system
        Scheduler.bootWorld.state).execUnder
          (fun calls action => Succeeds (fun _ => True) calls action ∧ Alone calls action)
          ⟨Scheduler.bootWorld.state, fun _ => .idle⟩ (inTurn ())).any
        (fun calls => calls.phase true == .returned .errBadState) = true by decide +kernel)
    obtain ⟨actions, trace⟩ := TransitionSystem.ReachableUnder.execUnder (.initial rfl) executed
    have attaches := ofThread Scheduler.bootWorld 0x10000
      (.initial Scheduler.bootWorld_initial) (by decide +kernel) actions calls
      (trace.mono fun _ _ allowed => allowed.1)
    exact ⟨calls, executed, beq_iff_eq.mp refused, attaches.1 trace⟩
  · obtain ⟨calls, executed, refused⟩ := (Option.any_eq_true _ _).mp
      (show (((addDriver 0x2000).system DriverRegistry.oneDriver.registry).execUnder
          (fun calls action => Succeeds (· = .errNone) calls action ∧ Alone calls action)
          ⟨DriverRegistry.oneDriver.registry, fun _ => .idle⟩ (inTurn .errNone)).any
        (fun calls => calls.phase true == .returned .errBadState) = true by decide +kernel)
    obtain ⟨actions, trace⟩ := TransitionSystem.ReachableUnder.execUnder (.initial rfl) executed
    have attaches := ofDriver DriverRegistry.oneDriver 0x2000 DriverRegistry.oneDriver_wellFormed
      (by decide) (by decide) actions calls (trace.mono fun _ _ allowed => allowed.1)
    exact ⟨calls, executed, beq_iff_eq.mp refused, attaches.1 trace⟩

/-- Two calls that succeed are not at most one. -/
theorem not_attachedOnce {Shared : Type} {lists : Shared → Prop}
    {calls : Calls Shared Bool ErrCode}
    (bothSucceed : ∀ caller, calls.phase caller = .returned .errNone) :
    ¬ AttachedOnce lists calls := by
  intro once
  have same := once.atMostOne.once false true (bothSucceed false) (bothSucceed true)
  cases same

/-- Two calls that test the object at once both attach it, and its list has a cycle. -/
theorem attachedOnce_fails :
    (∃ calls, ((attachThread Scheduler.twoCpus 0x10000).system
        Scheduler.bootWorld.state).ReachableUnder (Succeeds fun _ => True) calls ∧
      (∀ caller : Bool, calls.phase caller = .returned .errNone) ∧
      (calls.shared.threads 0x10000).allNext = some 0x10000 ∧
      ¬ AttachedOnce ThreadLists calls) ∧
    ∃ calls, ((addDriver 0x2000).system DriverRegistry.oneDriver.registry).ReachableUnder
        (Succeeds (· = .errNone)) calls ∧
      (∀ caller : Bool, calls.phase caller = .returned .errNone) ∧
      (calls.shared.drivers 0x2000).next = some 0x2000 ∧
      ¬ AttachedOnce DriverList calls := by
  constructor
  · obtain ⟨calls, executed, checked⟩ := (Option.any_eq_true _ _).mp
      (show (((attachThread Scheduler.twoCpus 0x10000).system
        Scheduler.bootWorld.state).execUnder (Succeeds fun _ => True)
          ⟨Scheduler.bootWorld.state, fun _ => .idle⟩ (together ())).any
        (fun calls => decide (∀ caller : Bool, calls.phase caller = .returned .errNone) &&
          (calls.shared.threads 0x10000).allNext == some 0x10000) = true by decide +kernel)
    rw [Bool.and_eq_true, decide_eq_true_iff, beq_iff_eq] at checked
    exact ⟨calls, .execUnder (.initial rfl) executed, checked.1, checked.2,
      not_attachedOnce checked.1⟩
  · obtain ⟨calls, executed, checked⟩ := (Option.any_eq_true _ _).mp
      (show (((addDriver 0x2000).system DriverRegistry.oneDriver.registry).execUnder
        (Succeeds (· = .errNone))
          ⟨DriverRegistry.oneDriver.registry, fun _ => .idle⟩ (together .errNone)).any
        (fun calls => decide (∀ caller : Bool, calls.phase caller = .returned .errNone) &&
          (calls.shared.drivers 0x2000).next == some 0x2000) = true by decide +kernel)
    rw [Bool.and_eq_true, decide_eq_true_iff, beq_iff_eq] at checked
    exact ⟨calls, .execUnder (.initial rfl) executed, checked.1, checked.2,
      not_attachedOnce checked.1⟩

end Attaching
end ToyKernel
