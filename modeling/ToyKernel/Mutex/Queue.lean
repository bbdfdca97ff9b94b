import ToyKernel.Library.Chain
import ToyKernel.Mutex.Defs
import Mathlib.Data.List.Perm.Subperm

/-!
# The wait queue of a mutex

`Mutex.Queue mutex queue` says that `tail`, `head` and the `next` fields
describe exactly the given blocks in arrival order.  Enqueueing appends to this
list and the wake-up loop computes the list-level function `wakeQueue`.
-/

namespace ToyKernel
namespace Mutex

/-- The pointers of the mutex describe exactly this list of waiters. -/
structure Queue (mutex : Mutex) (queue : List Block) : Prop where
  chain : Chain mutex.nextOf mutex.tail queue
  head_eq : mutex.head = queue.getLast?
  nodup : queue.Nodup
  allocated : ∀ block ∈ queue, block ∈ mutex.allocated

namespace Queue

variable {mutex : Mutex} {queue : List Block} {block : Block}

theorem create : Queue Mutex.create [] where
  chain := rfl
  head_eq := rfl
  nodup := List.nodup_nil
  allocated := by simp

theorem tail_eq (describes : Queue mutex queue) : mutex.tail = queue.head? :=
  describes.chain.first_eq

theorem tail_isSome_iff (describes : Queue mutex queue) :
    mutex.tail.isSome = true ↔ queue ≠ [] := by
  rw [describes.tail_eq]
  cases queue <;> simp

theorem tail_isNone_iff (describes : Queue mutex queue) :
    mutex.tail.isNone = true ↔ queue = [] := by
  rw [describes.tail_eq]
  cases queue <;> simp

/-- The pointers determine the queue. -/
theorem unique {other : List Block}
    (describes : Queue mutex queue) (alsoDescribes : Queue mutex other) :
    queue = other :=
  describes.chain.unique alsoDescribes.chain

/-- The queue does not depend on `mlock`. -/
theorem with_mlock (describes : Queue mutex queue) (mlock : Spinlock) :
    Queue { mutex with mlock := mlock } queue :=
  ⟨describes.chain, describes.head_eq, describes.nodup, describes.allocated⟩

/-- The queue is no longer than the number of allocated blocks. -/
theorem length_le (describes : Queue mutex queue) :
    queue.length ≤ mutex.allocated.length :=
  (describes.nodup.subperm describes.allocated).length_le

/-- A new node goes behind the last waiter. -/
theorem enqueue
    (describes : Queue mutex queue)
    (fresh : block ∉ mutex.allocated)
    (thread : ThreadId) :
    Queue (mutex.enqueue block thread) (queue ++ [block]) := by
  have absent : block ∉ queue :=
    fun present => fresh (describes.allocated block present)
  refine ⟨?_, by simp [Mutex.enqueue], ?_, ?_⟩
  · cases lastCase : queue.getLast? with
    | none =>
        obtain rfl : queue = [] := List.getLast?_eq_none_iff.mp lastCase
        have noTail := describes.tail_eq
        have noHead := describes.head_eq
        simp only [List.head?_nil, List.getLast?_nil] at noTail noHead
        simp [Mutex.enqueue, Mutex.nextOf, noTail, noHead]
    | some last =>
        have someHead : mutex.head = some last := describes.head_eq.trans lastCase
        have nonempty : queue ≠ [] := by
          rintro rfl
          simp at lastCase
        have someTail : mutex.tail.isSome = true :=
          describes.tail_isSome_iff.mpr nonempty
        have appended :=
          describes.chain.append_of_last describes.nodup lastCase absent
        have firstEq : (mutex.enqueue block thread).tail = mutex.tail := by
          simp [Mutex.enqueue, someTail]
        rw [firstEq]
        refine Chain.congr ?_ appended
        intro cell _
        by_cases isLast : cell = last
        · subst isLast
          simp [Mutex.enqueue, Mutex.nextOf, someHead]
        · by_cases isBlock : cell = block
          · subst isBlock
            simp [Mutex.enqueue, Mutex.nextOf, someHead, isLast]
          · simp [Mutex.enqueue, Mutex.nextOf, someHead, isLast, isBlock]
  · rw [List.nodup_append]
    refine ⟨describes.nodup, List.nodup_singleton block, ?_⟩
    intro left leftPresent right rightPresent same
    rw [List.mem_singleton] at rightPresent
    exact absent (rightPresent ▸ same ▸ leftPresent)
  · intro cell present
    rcases List.mem_append.mp present with inQueue | isBlock
    · exact List.mem_cons_of_mem _ (describes.allocated cell inQueue)
    · exact List.mem_singleton.mp isBlock ▸ List.mem_cons_self

/-- Taking the first waiter off and freeing its node leaves the others. -/
theorem dequeue
    (describes : Queue mutex (block :: queue)) :
    Queue ((mutex.dequeue block).freeBlock block) queue := by
  have notBehind : block ∉ queue := (List.nodup_cons.mp describes.nodup).1
  refine ⟨describes.chain.2, ?_, (List.nodup_cons.mp describes.nodup).2, ?_⟩
  · have headEq := describes.head_eq
    cases queue with
    | nil => simp_all [Mutex.dequeue, Mutex.freeBlock]
    | cons second others =>
        have lastPresent : (second :: others).getLast? ≠ some block := by
          intro isLast
          exact notBehind (List.mem_of_getLast? isLast)
        rw [List.getLast?_cons_cons] at headEq
        simp only [Mutex.dequeue, Mutex.freeBlock, headEq, if_neg lastPresent]
  · intro cell present
    have different : cell ≠ block := fun same => notBehind (same ▸ present)
    exact (List.mem_erase_of_ne different).mpr
      (describes.allocated cell (List.mem_cons_of_mem _ present))

end Queue

/-- Enqueueing writes the thread into the new node only. -/
theorem enqueue_node_id
    (mutex : Mutex) (block cell : Block) (thread : ThreadId) :
    ((mutex.enqueue block thread).node cell).id =
      if cell = block then thread else (mutex.node cell).id := by
  simp only [enqueue]
  cases mutex.head with
  | none => by_cases same : cell = block <;> simp [same]
  | some last =>
      by_cases isLast : cell = last
      · subst isLast
        by_cases same : cell = block <;> simp [same]
      · by_cases same : cell = block
        · subst same
          simp [isLast]
        · simp [same, isLast]

@[simp] theorem enqueue_mlock (mutex : Mutex) (block : Block) (thread : ThreadId) :
    (mutex.enqueue block thread).mlock = mutex.mlock := rfl

/-! ## The wake-up loop on lists -/

variable {Scheduler : Type*}

/-- The wake-up loop on the list of waiters: resume from the front until one
resumption succeeds or nobody is left.  The result is the remaining queue, the
scheduler state and the nodes taken off with the results of resuming them. -/
def wakeQueue
    (resumeThread : ThreadId → Scheduler → ErrCode × Scheduler)
    (idOf : Block → ThreadId) :
    List Block → Scheduler →
      List Block × Scheduler × List (Block × ErrCode)
  | [], scheduler => ([], scheduler, [])
  | block :: queue, scheduler =>
      let (err, scheduler) := resumeThread (idOf block) scheduler
      if !queue.isEmpty && !err.succeeded then
        let (queue, scheduler, log) := wakeQueue resumeThread idOf queue scheduler
        (queue, scheduler, (block, err) :: log)
      else
        (queue, scheduler, [(block, err)])

section

variable (resumeThread : ThreadId → Scheduler → ErrCode × Scheduler)
  {mutex : Mutex} {queue : List Block}

/-- The pointer loop terminates without following a null pointer and refines
the loop on lists. -/
theorem awakeLoop_refines
    (scheduler : Scheduler)
    (bound : Nat)
    (enough : queue.length ≤ bound)
    (nonempty : queue ≠ [])
    (describes : Queue mutex queue) :
    ∃ final,
      awakeLoop resumeThread bound mutex scheduler =
        some (final,
          (wakeQueue resumeThread (fun block => (mutex.node block).id)
            queue scheduler).2) ∧
      Queue final
        (wakeQueue resumeThread (fun block => (mutex.node block).id)
          queue scheduler).1 ∧
      final.node = mutex.node ∧ final.mlock = mutex.mlock := by
  induction queue generalizing mutex scheduler bound with
  | nil => exact absurd rfl nonempty
  | cons block queue inductionHypothesis =>
      cases bound with
      | zero => simp at enough
      | succ bound =>
          have remaining := describes.dequeue
          have isTail : mutex.tail = some block := describes.chain.1
          have more : ((mutex.dequeue block).freeBlock block).tail.isSome =
              !queue.isEmpty := by
            rw [remaining.tail_eq]
            cases queue <;> rfl
          -- `dequeue` and `freeBlock` leave the contents of the nodes alone.
          have sameNodes : (mutex.dequeue block).node = mutex.node := rfl
          simp only [awakeLoop, isTail, more, wakeQueue, sameNodes]
          by_cases again : (!queue.isEmpty &&
              !(resumeThread (mutex.node block).id scheduler).1.succeeded) = true
          · rw [if_pos again, if_pos again]
            have others : queue ≠ [] := by
              rintro rfl
              simp at again
            obtain ⟨final, looped, rest, sameNodes, sameLock⟩ :=
              inductionHypothesis
                (resumeThread (mutex.node block).id scheduler).2
                bound (by simpa using enough) others remaining
            refine ⟨final, ?_, rest, sameNodes, sameLock⟩
            rw [looped]
            rfl
          · rw [if_neg again, if_neg again]
            exact ⟨_, rfl, remaining, rfl, rfl⟩

/-- The `ilock` section of `release_mutex` always completes.  It runs the
wake-up loop on the queue and frees `mlock` exactly if the queue is then
empty. -/
theorem releaseMutex_refines
    (scheduler : Scheduler) (describes : Queue mutex queue) :
    ∃ final,
      releaseMutex resumeThread mutex scheduler =
        some (final,
          (wakeQueue resumeThread (fun block => (mutex.node block).id)
            queue scheduler).2) ∧
      Queue final
        (wakeQueue resumeThread (fun block => (mutex.node block).id)
          queue scheduler).1 ∧
      final.node = mutex.node ∧
      final.mlock.busy =
        (mutex.mlock.busy &&
          !(wakeQueue resumeThread (fun block => (mutex.node block).id)
            queue scheduler).1.isEmpty) := by
  by_cases empty : queue = []
  · subst empty
    have noTail : mutex.tail.isSome = false := by
      simp [describes.tail_eq]
    refine ⟨{ mutex with mlock := mutex.mlock.release }, ?_,
      describes.with_mlock _, rfl, ?_⟩
    · simp [releaseMutex, noTail, wakeQueue]
    · simp [wakeQueue]
  · obtain ⟨final, looped, rest, sameNodes, sameLock⟩ :=
      awakeLoop_refines resumeThread scheduler (mutex.allocated.length + 1)
        (Nat.le_succ_of_le describes.length_le) empty describes
    have someTail : mutex.tail.isSome = true :=
      describes.tail_isSome_iff.mpr empty
    simp only [releaseMutex, someTail, if_true, awakeInMutex, looped]
    by_cases drained : final.tail.isNone = true
    · rw [if_pos drained]
      have noneLeft := rest.tail_isNone_iff.mp drained
      exact ⟨_, rfl, rest.with_mlock _, sameNodes, by simp [noneLeft]⟩
    · rw [if_neg drained]
      have someLeft : (wakeQueue resumeThread (fun block => (mutex.node block).id)
          queue scheduler).1 ≠ [] :=
        fun noneLeft => drained (rest.tail_isNone_iff.mpr noneLeft)
      refine ⟨final, rfl, rest, sameNodes, ?_⟩
      simp [sameLock, someLeft]

end

/-- What the wake-up loop does when failed resumptions change nothing: it drops
waiters that cannot be resumed and stops at the first one that can, or at the
last one. -/
theorem wakeQueue_cases
    {resumeThread : ThreadId → Scheduler → ErrCode × Scheduler}
    (idOf : Block → ThreadId) (scheduler : Scheduler) {queue : List Block}
    (quiet : ∀ id scheduler, (resumeThread id scheduler).1 ≠ .errNone →
      (resumeThread id scheduler).2 = scheduler)
    (nonempty : queue ≠ []) :
    ∃ skipped block rest,
      queue = skipped ++ block :: rest ∧
      (∀ cell ∈ skipped, (resumeThread (idOf cell) scheduler).1 ≠ .errNone) ∧
      ((resumeThread (idOf block) scheduler).1 = .errNone ∨ rest = []) ∧
      wakeQueue resumeThread idOf queue scheduler =
        (rest, (resumeThread (idOf block) scheduler).2,
          (skipped ++ [block]).map fun cell =>
            (cell, (resumeThread (idOf cell) scheduler).1)) := by
  induction queue with
  | nil => exact absurd rfl nonempty
  | cons block queue inductionHypothesis =>
      by_cases again : (!queue.isEmpty &&
          !(resumeThread (idOf block) scheduler).1.succeeded) = true
      · simp only [Bool.and_eq_true, Bool.not_eq_true', List.isEmpty_eq_false_iff,
          ErrCode.succeeded_eq_false_iff] at again
        obtain ⟨others, failed⟩ := again
        obtain ⟨skipped, last, rest, splits, dead, stops, result⟩ :=
          inductionHypothesis others
        refine ⟨block :: skipped, last, rest, by rw [splits]; rfl, ?_, stops, ?_⟩
        · intro cell present
          rcases List.mem_cons.mp present with rfl | inTail
          · exact failed
          · exact dead cell inTail
        · have unchanged := quiet _ _ failed
          simp [wakeQueue, others, failed, unchanged, result]
      · refine ⟨[], block, queue, rfl, by simp, ?_, ?_⟩
        · by_cases done : (resumeThread (idOf block) scheduler).1 = .errNone
          · exact Or.inl done
          · right
            simpa [done] using again
        · simp only [wakeQueue]
          rw [if_neg again]
          rfl

end Mutex
end ToyKernel
