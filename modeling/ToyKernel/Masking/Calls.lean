import ToyKernel.Masking.Defs
import ToyKernel.Library.Transition
import Mathlib.Logic.Relation

/-!
# Whole calls on one CPU

`acquire_spinlock` and `release_spinlock` of `x86_64/sync.inc` as calls of one CPU
that takes no interrupts.  The other CPUs acquire and release spinlocks of their own
at any time, also between two exchanges of a call.

A call that fails should leave no trace.  It clears the record of the outermost
spinlock whenever that record is the spinlock of the call, also if an earlier call
has written it: then this CPU still holds the spinlock, and interrupts are enabled
nevertheless.
-/

namespace ToyKernel
namespace Masking
namespace Calls

/-- What other CPUs make of a spinlock before each exchange of a call. -/
abbrev Others := Nat → Spinlock → Spinlock

/-- What is left of it after the first exchange. -/
def Others.later (others : Others) : Others :=
  fun exchange => others (exchange + 1)

/-- A spinlock that only the other CPUs change, after a number of exchanges. -/
def Others.alone (others : Others) : Nat → Spinlock → Spinlock
  | 0, lock => lock
  | exchanges + 1, lock => others.later.alone exchanges (others 0 lock)

theorem Others.alone_of_quiet {others : Others} (quiet : ∀ exchange lock,
    others exchange lock = lock) (exchanges : Nat) (lock : Spinlock) :
    others.alone exchanges lock = lock := by
  induction exchanges generalizing others lock with
  | zero => rfl
  | succ exchanges inductionHypothesis =>
      rw [alone, quiet]
      exact inductionHypothesis (fun exchange => quiet (exchange + 1)) lock

/-- `acquire_spinlock_int`. -/
def acquireSpinlockInt (others : Others) (lock : Spinlock) (tries : BitVec 64) :
    Bool × Spinlock :=
  let (acquired, lock) := (others 0 lock).exchange
  if acquired = false ∧ tries - 1 ≠ 0 then
    acquireSpinlockInt others.later lock (tries - 1)
  else
    (acquired, lock)
termination_by (tries - 1).toNat
decreasing_by
  rename_i again
  have := again.2
  bv_omega

/-- An exchange that finds the spinlock busy does not change it. -/
theorem acquireSpinlockInt_eq (others : Others) (lock : Spinlock) (tries : BitVec 64) :
    acquireSpinlockInt others lock tries =
      if (others 0 lock).busy = false then (true, { busy := true })
      else if tries - 1 ≠ 0 then
        acquireSpinlockInt others.later (others 0 lock) (tries - 1)
      else (false, others 0 lock) := by
  rw [acquireSpinlockInt]
  obtain ⟨busy⟩ := others 0 lock
  cases busy <;> simp [Spinlock.exchange]

/-- The exchanges of a call that fails; there are `2 ^ 64` of them for no tries. -/
def exchanges (tries : BitVec 64) : Nat :=
  (tries - 1).toNat + 1

theorem exchanges_of_again {tries : BitVec 64} (again : tries - 1 ≠ 0) :
    exchanges tries = exchanges (tries - 1) + 1 := by
  unfold exchanges
  bv_omega

/-- The induction rule for the exchanges: the first one succeeds, or it leaves the spinlock
as it is, and the others follow or there are none. -/
theorem acquireSpinlockInt_induction
    {motive : Others → Spinlock → BitVec 64 → Bool × Spinlock → Prop}
    (free : ∀ others lock tries, (others 0 lock).busy = false →
      motive others lock tries (true, { busy := true }))
    (again : ∀ others lock tries result, (others 0 lock).busy = true → tries - 1 ≠ 0 →
      motive others.later (others 0 lock) (tries - 1) result →
        motive others lock tries result)
    (last : ∀ others lock tries, (others 0 lock).busy = true → tries - 1 = 0 →
      motive others lock tries (false, others 0 lock))
    (others : Others) (lock : Spinlock) (tries : BitVec 64) :
    motive others lock tries (acquireSpinlockInt others lock tries) := by
  generalize count : exchanges tries = number
  induction number generalizing others lock tries with
  | zero => exact absurd count (Nat.succ_ne_zero _)
  | succ number inductionHypothesis =>
      rw [acquireSpinlockInt_eq]
      split
      next isFree => exact free others lock tries isFree
      next isBusy =>
          replace isBusy := eq_true_of_ne_false isBusy
          split
          next more =>
              rw [exchanges_of_again more] at count
              apply again others lock tries _ isBusy more
              exact inductionHypothesis _ _ _ (Nat.succ.inj count)
          next none => exact last others lock tries isBusy (not_not.mp none)

/-- A call that fails makes no change of its own. -/
theorem acquireSpinlockInt_of_failed {others : Others} {lock : Spinlock} {tries : BitVec 64} :
    (acquireSpinlockInt others lock tries).1 = false →
      (acquireSpinlockInt others lock tries).2 = others.alone (exchanges tries) lock := by
  apply acquireSpinlockInt_induction (motive := fun others lock tries result =>
    result.1 = false → result.2 = others.alone (exchanges tries) lock)
  case free => exact fun _ _ _ _ succeeds => nomatch succeeds
  case again =>
    intro others lock tries result isBusy more inductionHypothesis failed
    rw [exchanges_of_again more]
    exact inductionHypothesis failed
  case last =>
    intro others lock tries isBusy none _
    rw [exchanges, none]
    rfl

/-- A call on a spinlock that stays busy fails. -/
theorem acquireSpinlockInt_of_busy {others : Others} {lock : Spinlock} {tries : BitVec 64} :
    (∀ exchange lock, others exchange lock = lock) → lock.busy = true →
      (acquireSpinlockInt others lock tries).1 = false := by
  apply acquireSpinlockInt_induction (motive := fun others lock _ result =>
    (∀ exchange lock, others exchange lock = lock) → lock.busy = true → result.1 = false)
  case free =>
    intro others lock tries isFree quiet isBusy
    rw [quiet, isBusy] at isFree
    cases isFree
  case again =>
    intro others lock tries result isBusy more inductionHypothesis quiet _
    exact inductionHypothesis (fun exchange => quiet (exchange + 1)) isBusy
  case last => exact fun _ _ _ _ _ _ _ => rfl

/-- A call that succeeds leaves the spinlock busy. -/
theorem acquireSpinlockInt_of_acquired {others : Others} {lock : Spinlock}
    {tries : BitVec 64} :
    (acquireSpinlockInt others lock tries).1 = true →
      (acquireSpinlockInt others lock tries).2.busy = true := by
  apply acquireSpinlockInt_induction (motive := fun _ _ _ result =>
    result.1 = true → result.2.busy = true)
  case free => exact fun _ _ _ _ _ => rfl
  case again => exact fun _ _ _ _ _ _ inductionHypothesis => inductionHypothesis
  case last => exact fun _ _ _ _ _ failed => nomatch failed

/-- One CPU and the spinlocks. -/
@[ext]
structure Cpu where
  /-- `__outer_spinlocks[get_cpu()]`. -/
  outer : OuterSpinlock
  /-- The interrupt flag. -/
  enabled : Bool
  locks : Lock → Spinlock

/-- The `cmpxchgq` of `acquire_spinlock`, and `cli` if it has written the entry. -/
def Cpu.record (cpu : Cpu) (lock : Lock) : Cpu :=
  if cpu.outer = .null then { cpu with outer := .lock lock, enabled := false } else cpu

/-- The end of both functions: clear the entry and enable interrupts if the entry is the
spinlock. -/
def Cpu.clear (cpu : Cpu) (lock : Lock) : Cpu :=
  if cpu.outer = .lock lock then { cpu with outer := .null, enabled := true } else cpu

/-- `acquire_spinlock`. -/
def acquireSpinlock (others : Others) (cpu : Cpu) (lock : Lock) (tries : BitVec 64) :
    Bool × Cpu :=
  let cpu := cpu.record lock
  let (acquired, value) := acquireSpinlockInt others (cpu.locks lock) tries
  let cpu := { cpu with locks := Function.update cpu.locks lock value }
  (acquired, if acquired = false then cpu.clear lock else cpu)

/-- `release_spinlock`. -/
def releaseSpinlock (cpu : Cpu) (lock : Lock) : Cpu :=
  let cpu := { cpu with locks := Function.update cpu.locks lock (cpu.locks lock).release }
  cpu.clear lock

variable {others : Others} {cpu : Cpu} {lock : Lock} {tries : BitVec 64}

namespace Cpu

@[simp] theorem record_locks : (cpu.record lock).locks = cpu.locks := by
  unfold record
  split <;> rfl

theorem record_outer :
    (cpu.record lock).outer = if cpu.outer = .null then .lock lock else cpu.outer := by
  rw [record, apply_ite outer]

theorem record_enabled :
    (cpu.record lock).enabled = if cpu.outer = .null then false else cpu.enabled := by
  rw [record, apply_ite enabled]

@[simp] theorem clear_locks : (cpu.clear lock).locks = cpu.locks := by
  unfold clear
  split <;> rfl

theorem clear_outer :
    (cpu.clear lock).outer = if cpu.outer = .lock lock then .null else cpu.outer := by
  rw [clear, apply_ite outer]

theorem clear_enabled :
    (cpu.clear lock).enabled = if cpu.outer = .lock lock then true else cpu.enabled := by
  rw [clear, apply_ite enabled]

end Cpu

theorem acquireSpinlock_fst :
    (acquireSpinlock others cpu lock tries).1 =
      (acquireSpinlockInt others (cpu.locks lock) tries).1 := by
  rw [acquireSpinlock, Cpu.record_locks]

theorem acquireSpinlock_locks :
    (acquireSpinlock others cpu lock tries).2.locks =
      Function.update cpu.locks lock (acquireSpinlockInt others (cpu.locks lock) tries).2 := by
  simp only [acquireSpinlock, Cpu.record_locks]
  split <;> simp

/-- The first spinlock that a CPU acquires is recorded, and interrupts are masked. -/
theorem acquireSpinlock_of_acquired
    (acquired : (acquireSpinlock others cpu lock tries).1 = true) :
    (acquireSpinlock others cpu lock tries).2.outer =
        (if cpu.outer = .null then .lock lock else cpu.outer) ∧
      (acquireSpinlock others cpu lock tries).2.enabled =
        (if cpu.outer = .null then false else cpu.enabled) := by
  rw [acquireSpinlock_fst] at acquired
  simp [acquireSpinlock, acquired, Cpu.record_outer, Cpu.record_enabled]

/-- A call that fails clears the record of its spinlock, whoever has written it. -/
theorem acquireSpinlock_of_failed
    (failed : (acquireSpinlock others cpu lock tries).1 = false) :
    (acquireSpinlock others cpu lock tries).2.outer =
        (if cpu.outer = .null ∨ cpu.outer = .lock lock then .null else cpu.outer) ∧
      (acquireSpinlock others cpu lock tries).2.enabled =
        (if cpu.outer = .null ∨ cpu.outer = .lock lock then true else cpu.enabled) := by
  rw [acquireSpinlock_fst] at failed
  by_cases isNull : cpu.outer = .null <;>
    simp [acquireSpinlock, failed, Cpu.clear_outer, Cpu.clear_enabled, Cpu.record_outer,
      Cpu.record_enabled, isNull]

theorem releaseSpinlock_locks :
    (releaseSpinlock cpu lock).locks =
      Function.update cpu.locks lock (cpu.locks lock).release :=
  Cpu.clear_locks

theorem releaseSpinlock_outer :
    (releaseSpinlock cpu lock).outer =
      if cpu.outer = .lock lock then .null else cpu.outer :=
  Cpu.clear_outer

theorem releaseSpinlock_enabled :
    (releaseSpinlock cpu lock).enabled =
      if cpu.outer = .lock lock then true else cpu.enabled :=
  Cpu.clear_enabled

/-- One CPU between two calls. -/
structure Session where
  cpu : Cpu
  /-- The spinlocks that the CPU has acquired and not yet released, the newest first. -/
  held : List Lock

/-- What happens on the CPU, and around it between two calls. -/
inductive Call
  | acquire (lock : Lock) (tries : BitVec 64) (others : Others)
  /-- `release_spinlock` for the newest spinlock held. -/
  | release
  /-- Other CPUs acquire and release spinlocks. -/
  | others (change : Lock → Spinlock → Spinlock)

namespace Session

/-- The other CPUs do not touch a spinlock that this CPU holds. -/
def meddling (session : Session) (lock : Lock) (others : Others) : Others :=
  if lock ∈ session.held then fun _ value => value else others

/-- A call of `acquire_spinlock`, and what it returns. -/
def acquires (session : Session) (lock : Lock) (tries : BitVec 64) (others : Others) :
    Bool × Cpu :=
  acquireSpinlock (session.meddling lock others) session.cpu lock tries

/-- The session after a call. -/
def step (session : Session) : Call → Option Session
  | .acquire lock tries others =>
      let (acquired, cpu) := session.acquires lock tries others
      some { cpu := cpu, held := if acquired then lock :: session.held else session.held }
  | .release =>
      match session.held with
      | [] => none
      | lock :: older => some { cpu := releaseSpinlock session.cpu lock, held := older }
  | .others change =>
      some { session with
        cpu := { session.cpu with
          locks := fun lock =>
            if lock ∈ session.held then session.cpu.locks lock
            else change lock (session.cpu.locks lock) } }

/-- No spinlock is held and interrupts are enabled; other CPUs may hold spinlocks. -/
def Initial (session : Session) : Prop :=
  session.held = [] ∧ session.cpu.outer = .null ∧ session.cpu.enabled = true

/-- Interrupts are masked while a spinlock is held, and the record is the oldest spinlock
held. -/
def Masked (session : Session) : Prop :=
  session.cpu.outer = outermost session.held ∧
    (session.cpu.enabled = false ↔ session.held ≠ [])

/-- An acquire that returns `false` leaves the record and the interrupt flag as they were,
and the spinlocks as the other CPUs make them. -/
def Untraced (before : Session) (call : Call) (after : Session) : Prop :=
  match call with
  | .acquire lock tries others =>
      (before.acquires lock tries others).1 = false →
        after.cpu.outer = before.cpu.outer ∧ after.cpu.enabled = before.cpu.enabled ∧
          after.cpu.locks = Function.update before.cpu.locks lock
            ((before.meddling lock others).alone (exchanges tries) (before.cpu.locks lock))
  | .release | .others _ => True

/-- The call does not try to acquire the spinlock that is recorded as the outermost one. -/
def Fresh (before : Session) (call : Call) (_after : Session) : Prop :=
  match call with
  | .acquire lock _ _ => before.cpu.outer ≠ .lock lock
  | .release | .others _ => True

/-- The record, the flag and the spinlocks between two calls. -/
structure Invariant (session : Session) : Prop where
  masked : session.Masked
  nodup : session.held.Nodup
  busy : ∀ lock ∈ session.held, (session.cpu.locks lock).busy = true

theorem Initial.invariant {session : Session} (starts : session.Initial) :
    session.Invariant where
  masked := by
    obtain ⟨none, isNull, isEnabled⟩ := starts
    simp [Masked, none, isNull, isEnabled]
  nodup := starts.1 ▸ List.nodup_nil
  busy := by simp [starts.1]

theorem acquire_cases {session next : Session}
    (taken : session.step (.acquire lock tries others) = some next) :
    (session.acquires lock tries others).1 = true ∧
        next = ⟨(session.acquires lock tries others).2, lock :: session.held⟩ ∨
      (session.acquires lock tries others).1 = false ∧
        next = ⟨(session.acquires lock tries others).2, session.held⟩ := by
  rw [step, Option.some.injEq] at taken
  subst taken
  obtain ⟨acquired, cpu⟩ := session.acquires lock tries others
  cases acquired
  · exact .inr ⟨rfl, rfl⟩
  · exact .inl ⟨rfl, rfl⟩

/-- A call on a spinlock that this CPU holds fails. -/
theorem Invariant.acquires_of_mem {session : Session} (invariant : session.Invariant)
    (isHeld : lock ∈ session.held) (tries : BitVec 64) (others : Others) :
    (session.acquires lock tries others).1 = false := by
  rw [acquires, acquireSpinlock_fst, meddling, if_pos isHeld]
  exact acquireSpinlockInt_of_busy (fun _ _ => rfl) (invariant.busy lock isHeld)

/-- A call that fails changes the spinlocks as the other CPUs do. -/
theorem acquires_locks_of_failed {session : Session}
    (failed : (session.acquires lock tries others).1 = false) :
    (session.acquires lock tries others).2.locks =
      Function.update session.cpu.locks lock
        ((session.meddling lock others).alone (exchanges tries) (session.cpu.locks lock)) := by
  rw [acquires, acquireSpinlock_fst] at failed
  rw [acquires, acquireSpinlock_locks, acquireSpinlockInt_of_failed failed]

/-- A call that fails leaves no trace unless the record was that of its spinlock. -/
theorem Invariant.untraced {session : Session} (invariant : session.Invariant)
    (failed : (session.acquires lock tries others).1 = false)
    (fresh : session.cpu.outer ≠ .lock lock) :
    (session.acquires lock tries others).2.outer = session.cpu.outer ∧
      (session.acquires lock tries others).2.enabled = session.cpu.enabled := by
  obtain ⟨outer, enabled⟩ := acquireSpinlock_of_failed failed
  rw [acquires, outer, enabled]
  by_cases isNull : session.cpu.outer = .null
  · have none : session.held = [] :=
      outermost_eq_null_iff.mp (invariant.masked.1.symm.trans isNull)
    have isEnabled : session.cpu.enabled = true := by
      simpa [none] using invariant.masked.2
    simp [isNull, isEnabled]
  · rw [if_neg (not_or.mpr ⟨isNull, fresh⟩), if_neg (not_or.mpr ⟨isNull, fresh⟩)]
    exact ⟨rfl, rfl⟩

/-- A call that fails clears the record of the spinlock that it is called for. -/
theorem acquires_of_recorded {session : Session}
    (failed : (session.acquires lock tries others).1 = false)
    (recorded : session.cpu.outer = .lock lock) :
    (session.acquires lock tries others).2.outer = .null ∧
      (session.acquires lock tries others).2.enabled = true := by
  obtain ⟨outer, enabled⟩ := acquireSpinlock_of_failed failed
  rw [acquires, outer, enabled, if_pos (Or.inr recorded), if_pos (Or.inr recorded)]
  exact ⟨rfl, rfl⟩

/-- A call that succeeds records its spinlock if it is the outermost one. -/
theorem Invariant.acquire {session : Session} (invariant : session.Invariant)
    (acquired : (session.acquires lock tries others).1 = true) :
    Invariant ⟨(session.acquires lock tries others).2, lock :: session.held⟩ := by
  have notHeld : lock ∉ session.held := fun isHeld =>
    Bool.noConfusion (acquired.symm.trans (invariant.acquires_of_mem isHeld tries others))
  obtain ⟨outer, enabled⟩ := acquireSpinlock_of_acquired acquired
  have isNull : session.cpu.outer = .null ↔ session.held = [] := by
    rw [invariant.masked.1, outermost_eq_null_iff]
  refine ⟨⟨?_, ?_⟩, List.nodup_cons.mpr ⟨notHeld, invariant.nodup⟩, ?_⟩
  · rw [acquires, outer]
    by_cases none : session.held = []
    · rw [if_pos (isNull.mpr none), none, outermost_singleton]
    · rw [if_neg (mt isNull.mp none), outermost_cons none, invariant.masked.1]
  · rw [acquires, enabled]
    by_cases none : session.held = []
    · simp [isNull.mpr none]
    · simp [mt isNull.mp none, invariant.masked.2, none]
  · intro other present
    rw [acquires, acquireSpinlock_locks, Function.update_apply]
    split
    next =>
        rw [acquires, acquireSpinlock_fst] at acquired
        exact acquireSpinlockInt_of_acquired acquired
    next different =>
        exact invariant.busy other ((List.mem_cons.mp present).resolve_left different)

/-- A release clears the record with the outermost spinlock. -/
theorem Invariant.release {session : Session} (invariant : session.Invariant)
    {older : List Lock} (holds : session.held = lock :: older) :
    Invariant ⟨releaseSpinlock session.cpu lock, older⟩ := by
  obtain ⟨absent, nodup⟩ := List.nodup_cons.mp (holds ▸ invariant.nodup)
  obtain ⟨record, flag⟩ := invariant.masked
  have isMasked : session.cpu.enabled = false := flag.mpr (by simp [holds])
  have isRecorded : session.cpu.outer = .lock lock ↔ older = [] := by
    rw [record, holds]
    constructor
    · intro records
      by_contra nonempty
      rw [outermost_cons nonempty] at records
      exact absent (mem_of_outermost_eq records)
    · rintro rfl
      rfl
  refine ⟨⟨?_, ?_⟩, nodup, ?_⟩
  · rw [releaseSpinlock_outer]
    by_cases none : older = []
    · rw [if_pos (isRecorded.mpr none), none, outermost_nil]
    · rw [if_neg (mt isRecorded.mp none), record, holds, outermost_cons none]
  · rw [releaseSpinlock_enabled]
    by_cases none : older = []
    · simp [isRecorded.mpr none, none]
    · simp [mt isRecorded.mp none, none, isMasked]
  · intro other present
    have different : other ≠ lock := fun same => absent (same ▸ present)
    rw [releaseSpinlock_locks, Function.update_of_ne different]
    exact invariant.busy other (holds ▸ List.mem_cons_of_mem _ present)

/-- Calls that are fresh keep the invariant. -/
theorem Invariant.step {before after : Session} {call : Call} (invariant : before.Invariant)
    (taken : before.step call = some after) (fresh : before.Fresh call after) :
    after.Invariant := by
  cases call with
  | acquire lock tries others =>
      obtain ⟨acquired, rfl⟩ | ⟨failed, rfl⟩ := acquire_cases taken
      · exact invariant.acquire acquired
      · obtain ⟨outer, enabled⟩ := invariant.untraced failed fresh
        refine ⟨⟨outer.trans invariant.masked.1, ?_⟩, invariant.nodup, fun other present => ?_⟩
        · rw [enabled]
          exact invariant.masked.2
        · rw [acquires_locks_of_failed failed, Function.update_apply]
          split
          next same =>
              rw [meddling, if_pos (same ▸ present), Others.alone_of_quiet fun _ _ => rfl]
              exact invariant.busy lock (same ▸ present)
          next => exact invariant.busy other present
  | release =>
      simp only [Session.step] at taken
      split at taken
      next => cases taken
      next lock older holds =>
          obtain rfl := Option.some.inj taken
          exact invariant.release holds
  | others change =>
      obtain rfl := Option.some.inj taken
      refine ⟨invariant.masked, invariant.nodup, fun lock present => ?_⟩
      exact (congrArg Spinlock.busy (if_pos present)).trans (invariant.busy lock present)

/-- A call leaves no trace if and only if it is fresh. -/
theorem Invariant.untraced_iff {before after : Session} {call : Call}
    (invariant : before.Invariant) (taken : before.step call = some after) :
    after.Masked ∧ before.Untraced call after ↔ before.Fresh call after := by
  constructor
  · rintro ⟨-, untraced⟩
    cases call with
    | acquire lock tries others =>
        intro recorded
        have isHeld := mem_of_outermost_eq (invariant.masked.1.symm.trans recorded)
        have failed := invariant.acquires_of_mem isHeld tries others
        obtain ⟨acquired, -⟩ | ⟨-, rfl⟩ := acquire_cases taken
        · cases acquired.symm.trans failed
        · have kept := (untraced failed).1
          rw [(acquires_of_recorded failed recorded).1, recorded] at kept
          cases kept
    | release => trivial
    | others => trivial
  · intro fresh
    refine ⟨(invariant.step taken fresh).masked, ?_⟩
    cases call with
    | acquire lock tries others =>
        intro failed
        obtain ⟨acquired, -⟩ | ⟨-, rfl⟩ := acquire_cases taken
        · cases acquired.symm.trans failed
        · obtain ⟨outer, enabled⟩ := invariant.untraced failed fresh
          exact ⟨outer, enabled, acquires_locks_of_failed failed⟩
    | release => trivial
    | others => trivial

end Session

/-- The calls of one CPU. -/
def system : TransitionSystem Session Call where
  initial := Session.Initial
  step := Session.step

/-! ## The accesses of a call -/

section Accesses

variable {Thread : Type} {index : Nat} {agent : Agent Thread} {state : State Thread}
  {held : List Lock}

/-- The CPU of the given index, and the frame of the code that it executes. -/
structure Shows (index : Nat) (agent : Agent Thread) (state : State Thread) (cpu : Cpu)
    (frame : Frame) : Prop where
  outer : state.outer index = cpu.outer
  enabled : (state.cores index).enabled = cpu.enabled
  locks : state.locks = cpu.locks
  frame : state.frames agent = frame

theorem Shows.setOuter {frame : Frame} (shows : Shows index agent state cpu frame)
    (value : OuterSpinlock) :
    Shows index agent (state.setOuter index value) { cpu with outer := value } frame where
  outer := Function.update_self ..
  enabled := shows.enabled
  locks := shows.locks
  frame := shows.frame

theorem Shows.setEnabled {frame : Frame} (shows : Shows index agent state cpu frame)
    (enabled : Bool) :
    Shows index agent (state.setEnabled index enabled) { cpu with enabled := enabled }
      frame where
  outer := shows.outer
  enabled := by simp
  locks := shows.locks
  frame := shows.frame

theorem Shows.setLock {frame : Frame} (shows : Shows index agent state cpu frame)
    (lock : Lock) (value : Spinlock) :
    Shows index agent (state.setLock lock value)
      { cpu with locks := Function.update cpu.locks lock value } frame where
  outer := shows.outer
  enabled := shows.enabled
  locks := by rw [State.setLock, shows.locks]
  frame := shows.frame

variable [DecidableEq Thread]

theorem Shows.goto {frame : Frame} (shows : Shows index agent state cpu frame)
    (position : Position) :
    Shows index agent (state.goto agent position) cpu { frame with position := position } where
  outer := shows.outer
  enabled := shows.enabled
  locks := shows.locks
  frame := by rw [State.goto_frames, Function.update_self, shows.frame]

theorem Shows.setFrame {frame : Frame} (shows : Shows index agent state cpu frame)
    (other : Frame) : Shows index agent (state.setFrame agent other) cpu other where
  outer := shows.outer
  enabled := shows.enabled
  locks := shows.locks
  frame := Function.update_self ..

/-- An access in a call on a CPU, or a change that other CPUs make in between. -/
inductive Access (index : Nat) (agent : Agent Thread) : State Thread → State Thread → Prop
  | own {before after : State Thread} :
      before.advance index agent = some after → Access index agent before after
  | others {before : State Thread} (lock : Lock) (value : Spinlock) :
      lock ∉ (before.frames agent).held → Access index agent before (before.setLock lock value)

/-- Some accesses lead to a state that shows the CPU and the frame. -/
def Leads (index : Nat) (agent : Agent Thread) (state : State Thread) (cpu : Cpu)
    (frame : Frame) : Prop :=
  ∃ after, Relation.ReflTransGen (Access index agent) state after ∧
    Shows index agent after cpu frame

theorem Leads.of_access {after : State Thread} {frame : Frame}
    (access : Access index agent state after) (leads : Leads index agent after cpu frame) :
    Leads index agent state cpu frame := by
  obtain ⟨final, accesses, shows⟩ := leads
  exact ⟨final, accesses.head access, shows⟩

theorem Shows.leads {frame : Frame} (shows : Shows index agent state cpu frame) :
    Leads index agent state cpu frame :=
  ⟨state, .refl, shows⟩

theorem Leads.trans {middle final : Cpu} {frame frameAfter : Frame}
    (first : Leads index agent state middle frame)
    (second : ∀ after, Shows index agent after middle frame →
      Leads index agent after final frameAfter) :
    Leads index agent state final frameAfter := by
  obtain ⟨between, accesses, shows⟩ := first
  obtain ⟨after, more, shown⟩ := second between shows
  exact ⟨after, accesses.trans more, shown⟩

/-- The `cmpxchgq` of `acquire_spinlock`, and `cli` if it has written the entry. -/
theorem Shows.recording
    (shows : Shows index agent state cpu ⟨held, .recording lock tries index⟩) :
    Leads index agent state (cpu.record lock) ⟨held, .trying lock tries index⟩ := by
  have first : state.advance index agent = if cpu.outer = .null then
      some ((state.setOuter index (.lock lock)).goto agent (.masking lock tries index))
      else some (state.goto agent (.trying lock tries index)) := by
    rw [State.advance, shows.frame, ← shows.outer]
  split at first
  next isNull =>
      rw [Cpu.record, if_pos isNull]
      have recorded := (shows.setOuter (.lock lock)).goto (.masking lock tries index)
      refine .of_access (.own first) (.of_access (.own ?_)
        ((recorded.setEnabled false).goto (.trying lock tries index)).leads)
      rw [State.advance, recorded.frame]
  next notNull =>
      rw [Cpu.record, if_neg notNull]
      exact .of_access (.own first) (shows.goto _).leads

/-- The end of `acquire_spinlock` and `release_spinlock`, from the test of the entry. -/
theorem Shows.testing {caller : Caller}
    (shows : Shows index agent state cpu ⟨held, .testing caller lock index⟩) :
    Leads index agent state (cpu.clear lock) ⟨held, .idle⟩ := by
  have first : state.advance index agent = if cpu.outer = .lock lock then
      some (state.goto agent (.clearing caller index)) else some (state.goto agent .idle) := by
    rw [State.advance, shows.frame, ← shows.outer]
  split at first
  next recorded =>
      rw [Cpu.clear, if_pos recorded]
      have tested := shows.goto (.clearing caller index)
      have cleared := (tested.setOuter .null).goto (.unmasking caller)
      have last : Leads index agent _ { cpu with outer := .null, enabled := true }
          ⟨held, .idle⟩ :=
        .of_access (.own (by rw [State.advance, cleared.frame]))
          ((cleared.setEnabled true).goto .idle).leads
      exact .of_access (.own first)
        (.of_access (.own (by rw [State.advance, tested.frame])) last)
  next notRecorded =>
      rw [Cpu.clear, if_neg notRecorded]
      exact .of_access (.own first) (shows.goto _).leads

/-- One exchange. -/
theorem Shows.exchange
    (shows : Shows index agent state cpu ⟨held, .trying lock tries index⟩) :
    Leads index agent state
      { cpu with locks := Function.update cpu.locks lock { busy := true } }
      (if (cpu.locks lock).busy = false then ⟨lock :: held, .idle⟩
        else if tries - 1 ≠ 0 then ⟨held, .trying lock (tries - 1) index⟩
        else ⟨held, .testing .acquire lock index⟩) := by
  have changed := shows.setLock lock { busy := true }
  have value : state.locks lock = cpu.locks lock := congrFun shows.locks lock
  split
  next free =>
      refine .of_access (.own ?_) (changed.setFrame ⟨lock :: held, .idle⟩).leads
      simp [State.advance, shows.frame, value, Spinlock.exchange, free]
  next busy =>
      split
      next again =>
          refine .of_access (.own ?_) (changed.goto (.trying lock (tries - 1) index)).leads
          rw [State.advance, shows.frame]
          simpa [value, Spinlock.exchange, busy] using fun ends => absurd ends again
      next last =>
          refine .of_access (.own ?_) (changed.goto (.testing .acquire lock index)).leads
          rw [State.advance, shows.frame]
          simpa [value, Spinlock.exchange, busy] using fun more => absurd more last

/-- The first exchange, before which other CPUs change a spinlock that the CPU does not
hold. -/
theorem Shows.exchange_after_others
    (shows : Shows index agent state cpu ⟨held, .trying lock tries index⟩)
    (quiet : lock ∈ held → ∀ exchange value, others exchange value = value) :
    Leads index agent state
      { cpu with locks := Function.update cpu.locks lock { busy := true } }
      (if (others 0 (cpu.locks lock)).busy = false then ⟨lock :: held, .idle⟩
        else if tries - 1 ≠ 0 then ⟨held, .trying lock (tries - 1) index⟩
        else ⟨held, .testing .acquire lock index⟩) := by
  let meddled : Cpu :=
    { cpu with locks := Function.update cpu.locks lock (others 0 (cpu.locks lock)) }
  have meddles : Leads index agent state meddled ⟨held, .trying lock tries index⟩ := by
    by_cases isHeld : lock ∈ held
    · have same : meddled = cpu := by
        simp only [meddled, quiet isHeld, Function.update_eq_self]
      exact same ▸ shows.leads
    · exact .of_access (.others lock _ (by rwa [shows.frame])) (shows.setLock lock _).leads
  apply meddles.trans
  intro between shown
  simpa only [meddled, Function.update_self, Function.update_idem] using shown.exchange

/-- The exchanges of `acquire_spinlock_int`. -/
theorem Shows.trying
    (shows : Shows index agent state cpu ⟨held, .trying lock tries index⟩)
    (quiet : lock ∈ held → ∀ exchange value, others exchange value = value) :
    Leads index agent state
      { cpu with
        locks := Function.update cpu.locks lock
          (acquireSpinlockInt others (cpu.locks lock) tries).2 }
      (if (acquireSpinlockInt others (cpu.locks lock) tries).1 then ⟨lock :: held, .idle⟩
        else ⟨held, .testing .acquire lock index⟩) := by
  generalize isValue : cpu.locks lock = value
  revert state cpu shows quiet isValue
  apply acquireSpinlockInt_induction (motive := fun others value tries result =>
    ∀ {cpu : Cpu} {state : State Thread},
      Shows index agent state cpu ⟨held, .trying lock tries index⟩ →
      (lock ∈ held → ∀ exchange value, others exchange value = value) →
      cpu.locks lock = value →
      Leads index agent state
        { cpu with locks := Function.update cpu.locks lock result.2 }
        (if result.1 then ⟨lock :: held, .idle⟩ else ⟨held, .testing .acquire lock index⟩))
  case free =>
    intro others value tries isFree cpu state shows quiet isValue
    have exchanged := shows.exchange_after_others quiet
    rwa [isValue, if_pos isFree] at exchanged
  case again =>
    intro others value tries result isBusy more inductionHypothesis cpu state shows quiet isValue
    have exchanged := shows.exchange_after_others quiet
    have same : (⟨true⟩ : Spinlock) = others 0 value := Spinlock.exchange_of_busy isBusy
    rw [isValue, if_neg (by simp [isBusy]), if_pos more, same] at exchanged
    apply exchanged.trans
    intro after shown
    simpa using inductionHypothesis shown (fun isHeld exchange => quiet isHeld (exchange + 1))
  case last =>
    intro others value tries isBusy none cpu state shows quiet isValue
    have exchanged := shows.exchange_after_others quiet
    have same : (⟨true⟩ : Spinlock) = others 0 value := Spinlock.exchange_of_busy isBusy
    rwa [isValue, if_neg (by simp [isBusy]), if_neg (not_not.mpr none), same] at exchanged

/-- A call of `acquire_spinlock` is a run of the accesses of the function. -/
theorem Shows.acquire {session next : Session}
    (shows : Shows index agent state session.cpu ⟨session.held, .idle⟩)
    (taken : session.step (.acquire lock tries others) = some next) :
    ∃ called, state.acquireSpinlock index agent lock tries = some called ∧
      Leads index agent called next.cpu ⟨next.held, .idle⟩ := by
  have called : state.acquireSpinlock index agent lock tries =
      some (state.goto agent (.recording lock tries index)) := by
    rw [State.acquireSpinlock, shows.frame]
  have quiet : lock ∈ session.held → ∀ exchange value,
      session.meddling lock others exchange value = value := by
    intro isHeld exchange value
    rw [Session.meddling, if_pos isHeld]
  refine ⟨_, called, (shows.goto _).recording.trans fun between shown => ?_⟩
  refine (shown.trying quiet).trans fun tried shown => ?_
  obtain ⟨acquired, rfl⟩ | ⟨failed, rfl⟩ := Session.acquire_cases taken
  · have result := acquireSpinlock_fst.symm.trans acquired
    rw [Cpu.record_locks, if_pos result] at shown
    simpa [Session.acquires, acquireSpinlock, result] using shown.leads
  · have result := acquireSpinlock_fst.symm.trans failed
    rw [Cpu.record_locks, result] at shown
    simpa [Session.acquires, acquireSpinlock, result] using shown.testing

/-- A call of `release_spinlock` is a run of the accesses of the function. -/
theorem Shows.release {session next : Session}
    (shows : Shows index agent state session.cpu ⟨session.held, .idle⟩)
    (taken : session.step .release = some next) :
    ∃ called, state.releaseSpinlock agent = some called ∧
      Leads index agent called next.cpu ⟨next.held, .idle⟩ := by
  simp only [Session.step] at taken
  split at taken
  next => cases taken
  next lock older holds =>
      obtain rfl := Option.some.inj taken
      have freed := (shows.setLock lock (session.cpu.locks lock).release).setFrame
        ⟨older, .locating lock⟩
      have tested := freed.goto (.testing .release lock index)
      have called : state.releaseSpinlock agent = some
          ((state.setLock lock (session.cpu.locks lock).release).setFrame agent
            ⟨older, .locating lock⟩) := by
        rw [State.releaseSpinlock, shows.frame, holds, shows.locks]
      refine ⟨_, called, .of_access (.own ?_) tested.testing⟩
      rw [State.advance, freed.frame]

end Accesses

/-- Failed calls leave no trace exactly in those runs in which no call tries to acquire the
spinlock that is recorded as the outermost one. -/
theorem untraced_iff_fresh {session : Session} (starts : session.Initial) (calls : List Call) :
    system.Along (fun before call after => after.Masked ∧ before.Untraced call after)
        session calls ↔
      system.Along Session.Fresh session calls :=
  TransitionSystem.along_congr (fun _ _ _ invariant taken => invariant.untraced_iff taken)
    (fun _ _ _ invariant taken fresh => invariant.step taken fresh) starts.invariant

/-- A CPU that holds no spinlock, all of which are in the given state. -/
def uniform (lock : Spinlock) : Session where
  cpu := { outer := .null, enabled := true, locks := fun _ => lock }
  held := []

/-- What `acquire_spinlock` is called for below. -/
def someLock : Lock := .other 0x1000

/-- A call for a spinlock that another CPU holds fails and leaves no record. -/
theorem outer_uniform {lock : Lock} {tries : BitVec 64} {next : Session}
    (taken : (uniform { busy := true }).step (.acquire lock tries fun _ lock => lock) =
      some next) : next.cpu.outer = .null := by
  have starts : (uniform { busy := true }).Initial := ⟨rfl, rfl, rfl⟩
  have failed : ((uniform { busy := true }).acquires lock tries fun _ lock => lock).1 = false := by
    rw [Session.acquires, acquireSpinlock_fst]
    exact acquireSpinlockInt_of_busy (fun _ _ => rfl) rfl
  obtain ⟨acquired, -⟩ | ⟨-, rfl⟩ := Session.acquire_cases taken
  · cases acquired.symm.trans failed
  · exact (starts.invariant.untraced failed nofun).1

/-- Other CPUs hold the spinlocks, and all `2 ^ 64` exchanges of two calls find them busy. -/
theorem untraced_iff_fresh_foreign :
    system.Along (fun before call after => after.Masked ∧ before.Untraced call after)
      (uniform { busy := true })
      [.acquire someLock 0 fun _ lock => lock, .acquire .inactive 0 fun _ lock => lock] := by
  refine (untraced_iff_fresh ⟨rfl, rfl, rfl⟩ _).mpr fun next taken =>
    ⟨nofun, fun _ _ => ⟨fun recorded => ?_, trivial⟩⟩
  rw [outer_uniform taken] at recorded
  cases recorded

/-- A call for the outermost spinlock held fails and enables interrupts, while the CPU
still holds it. -/
theorem untraced_fails :
    ¬ ∀ (session : Session) (calls : List Call), session.Initial →
      system.Along (fun before call after => after.Masked ∧ before.Untraced call after)
        session calls := by
  intro always
  let again : Call := .acquire someLock 1 fun _ lock => lock
  have starts : (uniform { busy := false }).Initial := ⟨rfl, rfl, rfl⟩
  have acquired :
      ((uniform { busy := false }).acquires someLock 1 fun _ lock => lock).1 = true := by
    rw [Session.acquires, acquireSpinlock_fst, acquireSpinlockInt_eq]
    rfl
  obtain ⟨next, taken⟩ : ∃ next, system.step (uniform { busy := false }) again = some next :=
    ⟨_, rfl⟩
  obtain ⟨-, second⟩ := always _ [again, again] starts next taken
  obtain ⟨-, rfl⟩ | ⟨failed, -⟩ := Session.acquire_cases taken
  · obtain ⟨untraced, -⟩ := second _ rfl
    have invariant := starts.invariant.acquire acquired
    have fresh := (invariant.untraced_iff rfl).mp untraced
    exact fresh (acquireSpinlock_of_acquired acquired).1
  · cases acquired.symm.trans failed

end Calls
end Masking
end ToyKernel
