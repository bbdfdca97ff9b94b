import ToyKernel.Library.TwoListQueue
import ToyKernel.Scheduler.Fields

/-!
# The run queue of one priority

A `struct cpu_priority` and the links of the threads represent a queue of two
lists.  `add_expired`, the removal in `do_pause_task` and the rotation in the
timer interrupt are the operations of that queue.
-/

namespace ToyKernel
namespace Scheduler
namespace CpuPriority

/-- The record and the links represent a queue. -/
structure Represents (prio : CpuPriority) (links : Links Address)
    (queue : TwoListQueue Address) : Prop where
  active : links.Represents prio.activeTail queue.active
  expired : links.Represents prio.expiredTail queue.expired
  expiredHead : prio.expiredHead = queue.expired.getLast?
  totalThreads : prio.totalThreads = queue.toList.length
  filled : queue.Filled
  nodup : queue.toList.Nodup

/-! ## What the code does to the record -/

/-- The record after `add_expired`. -/
def push (prio : CpuPriority) (thread : Address) : CpuPriority :=
  let pushed : CpuPriority :=
    if prio.totalThreads ≠ 0 then
      { prio with
        expiredTail := if prio.expiredHead = none then some thread else prio.expiredTail
        expiredHead := some thread }
    else
      { prio with activeTail := some thread }
  { pushed with totalThreads := prio.totalThreads + 1 }

/-- The record after a removal, given the links of the thread. -/
def remove (prio : CpuPriority) (thread : Address) (next prev : Option Address) :
    CpuPriority :=
  { prio.dropThread thread next prev with totalThreads := prio.totalThreads - 1 }

@[simp] theorem dropThread_totalThreads (prio : CpuPriority) (thread : Address)
    (next prev : Option Address) :
    (prio.dropThread thread next prev).totalThreads = prio.totalThreads := by
  simp only [dropThread, takeExpired]
  split
  · split <;> rfl
  · rfl

/-- The record after a rotation and before the last adjustment. -/
def moveBehind (prio : CpuPriority) (thread : Address) (next : Option Address) :
    CpuPriority :=
  push { prio with activeTail := next, totalThreads := prio.totalThreads - 1 } thread

/-- The record after a rotation. -/
def rotate (prio : CpuPriority) (thread : Address) (next : Option Address) : CpuPriority :=
  let moved := prio.moveBehind thread next
  match moved.activeTail with
  | some _ => moved
  | none => moved.takeExpired

/-- The thread behind which `add_expired` links another one. -/
def pushTarget (prio : CpuPriority) : Option Address :=
  if prio.totalThreads ≠ 0 then prio.expiredHead else none

/-! ## The operations on what is represented -/

section Represented

variable {prio : CpuPriority} {links other : Links Address} {queue : TwoListQueue Address}
  {thread : Address}

theorem Represents.congr (represents : prio.Represents links queue)
    (agree : links.AgreeOn other queue.toList) : prio.Represents other queue where
  active := represents.active.congr fun node present =>
    agree node (TwoListQueue.mem_toList.mpr (.inl present))
  expired := represents.expired.congr fun node present =>
    agree node (TwoListQueue.mem_toList.mpr (.inr present))
  expiredHead := represents.expiredHead
  totalThreads := represents.totalThreads
  filled := represents.filled
  nodup := represents.nodup

/-- The empty record represents the empty queue. -/
theorem represents_empty (links : Links Address) :
    Represents ⟨none, none, none, 0⟩ links TwoListQueue.empty where
  active := Links.represents_nil links
  expired := Links.represents_nil links
  expiredHead := rfl
  totalThreads := rfl
  filled := fun _ => rfl
  nodup := List.nodup_nil

theorem Represents.totalThreads_eq_zero_iff (represents : prio.Represents links queue) :
    prio.totalThreads = 0 ↔ queue.active = [] := by
  rw [represents.totalThreads, ← represents.filled.toList_eq_nil_iff]
  simp

/-- The thread behind which a new one is linked is in the queue. -/
theorem Represents.mem_of_pushTarget (represents : prio.Represents links queue)
    {target : Address} (isTarget : prio.pushTarget = some target) :
    target ∈ queue.expired := by
  rw [pushTarget] at isTarget
  split at isTarget
  · rw [represents.expiredHead] at isTarget
    exact List.mem_of_getLast? isTarget
  · cases isTarget

/-- `add_expired` is a push. -/
theorem Represents.push (represents : prio.Represents links queue)
    (absent : thread ∉ queue.toList) :
    (prio.push thread).Represents (links.pushBack thread prio.pushTarget)
      (queue.push thread) := by
  have empty := represents.totalThreads_eq_zero_iff
  have counted : (prio.totalThreads + 1 : Int) = (queue.push thread).toList.length := by
    rw [TwoListQueue.toList_push, List.length_append, represents.totalThreads]
    simp
  have nodup := TwoListQueue.nodup_push represents.nodup absent
  have filled := TwoListQueue.filled_push queue thread
  have notActive : thread ∉ queue.active := fun present =>
    absent (TwoListQueue.mem_toList.mpr (.inl present))
  have notExpired : thread ∉ queue.expired := fun present =>
    absent (TwoListQueue.mem_toList.mpr (.inr present))
  cases activeList : queue.active with
  | nil =>
      -- the first thread of its priority becomes active
      have noExpired := represents.filled activeList
      have noThreads := empty.mpr activeList
      have active := represents.active
      have expired := represents.expired
      rw [activeList] at active
      rw [noExpired] at expired
      have pushed : queue.push thread = ⟨[thread], []⟩ := by
        simp [TwoListQueue.push, TwoListQueue.refill, activeList, noExpired]
      have target : prio.pushTarget = none := by simp [pushTarget, noThreads]
      have headNone : prio.expiredHead = none := by
        rw [represents.expiredHead, noExpired]
        rfl
      rw [pushed] at counted nodup filled ⊢
      rw [target]
      refine ⟨?_, ?_, ?_, ?_, filled, nodup⟩
      · have absentNil : thread ∉ ([] : List Address) := List.not_mem_nil
        have single := active.pushBack absentNil
        rw [active.first_eq] at single
        simpa [CpuPriority.push, noThreads] using single
      · have tailNone : prio.expiredTail = none := expired.first_eq
        simp only [CpuPriority.push, noThreads, ne_eq, not_true_eq_false, if_false, tailNone]
        exact Links.represents_nil _
      · simpa [CpuPriority.push, noThreads] using headNone
      · simpa [CpuPriority.push, noThreads] using counted
  | cons first rest =>
      -- a further thread is appended to the expired list
      have someThreads : prio.totalThreads ≠ 0 := by
        rw [ne_eq, empty, activeList]
        exact List.cons_ne_nil first rest
      have pushed : queue.push thread = ⟨queue.active, queue.expired ++ [thread]⟩ := by
        simp [TwoListQueue.push, TwoListQueue.refill, activeList]
      have target : prio.pushTarget = queue.expired.getLast? := by
        simp [pushTarget, someThreads, represents.expiredHead]
      rw [pushed] at counted nodup filled ⊢
      rw [target]
      refine ⟨?_, ?_, ?_, ?_, filled, nodup⟩
      · have agree : links.AgreeOn (links.pushBack thread queue.expired.getLast?)
            queue.active := by
          apply Links.agreeOn_pushBack notActive
          intro other present same
          exact (List.nodup_append.mp represents.nodup).2.2 other present other
            (List.mem_of_getLast? same) rfl
        have kept := represents.active.congr agree
        simpa [CpuPriority.push, someThreads] using kept
      · have appended := represents.expired.pushBack notExpired
        have tail : prio.expiredTail.or (some thread) =
            if prio.expiredHead = none then some thread else prio.expiredTail := by
          rw [represents.expiredHead, represents.expired.first_eq]
          cases queue.expired <;> simp
        rw [tail] at appended
        simpa [CpuPriority.push, someThreads] using appended
      · simp [CpuPriority.push, someThreads]
      · simpa [CpuPriority.push, someThreads] using counted

/-- Erasing a node of a list without repetitions. -/
theorem erase_split {front back : List Address} (nodup : (front ++ thread :: back).Nodup) :
    (front ++ thread :: back).erase thread = front ++ back := by
  have notFront : thread ∉ front := fun inFront =>
    (List.nodup_append.mp nodup).2.2 thread inFront thread List.mem_cons_self rfl
  rw [List.erase_append_right _ notFront, List.erase_cons_head]

theorem Represents.count_remove (represents : prio.Represents links queue)
    (present : thread ∈ queue.toList) :
    (prio.totalThreads - 1 : Int) = (queue.remove thread).toList.length := by
  have positive := List.length_pos_of_mem present
  rw [TwoListQueue.toList_remove represents.nodup, List.length_erase_of_mem present,
    represents.totalThreads]
  omega

/-- The removal of an active thread; the expired list moves up behind the last
one. -/
theorem Represents.remove_active (represents : prio.Represents links queue)
    (inActive : thread ∈ queue.active) :
    (prio.remove thread (links.next thread) (links.prev thread)).Represents
      (links.unlink thread) (queue.remove thread) := by
  have counted := represents.count_remove (TwoListQueue.mem_toList.mpr (.inl inActive))
  have nodup := TwoListQueue.nodup_remove represents.nodup thread
  have filled := TwoListQueue.filled_remove queue thread
  have disjoint := (List.nodup_append.mp represents.nodup).2.2
  have notExpired : thread ∉ queue.expired := fun inExpired =>
    disjoint thread inActive thread inExpired rfl
  have active := represents.active
  obtain ⟨front, back, activeList⟩ := List.append_of_mem inActive
  rw [activeList] at active
  have agree : links.AgreeOn (links.unlink thread) queue.expired := by
    apply active.agreeOn_unlink
    intro other inExpired
    constructor
    · intro inFront
      exact disjoint other (by simp [activeList, inFront]) other inExpired rfl
    · intro inBack
      exact disjoint other (by simp [activeList, inBack]) other inExpired rfl
  have expired := represents.expired.congr agree
  have unlinked := active.unlink
  obtain ⟨-, nextThread⟩ := active.neighbours
  have removed : queue.remove thread = TwoListQueue.refill ⟨front ++ back, queue.expired⟩ := by
    rw [TwoListQueue.remove, activeList, erase_split active.nodup,
      List.erase_of_not_mem notExpired]
  have activeTail := active.first_eq
  rw [removed] at counted nodup filled ⊢
  cases front with
  | nil =>
      simp only [List.nil_append, List.head?_cons] at activeTail
      cases back with
      | nil =>
          refine ⟨?_, ?_, ?_, ?_, filled, nodup⟩
          · simpa [CpuPriority.remove, dropThread, takeExpired, activeTail, nextThread,
              TwoListQueue.refill] using expired
          · simpa [CpuPriority.remove, dropThread, takeExpired, activeTail, nextThread,
              TwoListQueue.refill] using Links.represents_nil _
          · simp [CpuPriority.remove, dropThread, takeExpired, activeTail, nextThread,
              TwoListQueue.refill]
          · simpa [CpuPriority.remove, dropThread, takeExpired, activeTail] using counted
      | cons next back =>
          simp only [List.head?_cons] at nextThread
          refine ⟨?_, ?_, ?_, ?_, filled, nodup⟩
          · simpa [CpuPriority.remove, dropThread, takeExpired, activeTail, nextThread,
              TwoListQueue.refill] using unlinked
          · simpa [CpuPriority.remove, dropThread, takeExpired, activeTail, nextThread,
              TwoListQueue.refill] using expired
          · simpa [CpuPriority.remove, dropThread, takeExpired, activeTail, nextThread,
              TwoListQueue.refill] using represents.expiredHead
          · simpa [CpuPriority.remove, dropThread, takeExpired, activeTail] using counted
  | cons first front =>
      have notFirst : prio.activeTail ≠ some thread := by
        intro same
        rw [activeTail] at same
        exact (List.nodup_append.mp active.nodup).2.2 thread
          (List.mem_of_head? same) thread List.mem_cons_self rfl
      have notHead : prio.expiredHead ≠ some thread := by
        rw [represents.expiredHead]
        exact fun same => notExpired (List.mem_of_getLast? same)
      have notTail : prio.expiredTail ≠ some thread := by
        rw [represents.expired.first_eq]
        exact fun same => notExpired (List.mem_of_head? same)
      rw [if_neg notFirst] at unlinked
      refine ⟨?_, ?_, ?_, ?_, filled, nodup⟩
      · simpa [CpuPriority.remove, dropThread, notFirst, TwoListQueue.refill] using unlinked
      · simpa [CpuPriority.remove, dropThread, notFirst, notTail, TwoListQueue.refill] using expired
      · simpa [CpuPriority.remove, dropThread, notFirst, notHead, TwoListQueue.refill] using
          represents.expiredHead
      · simpa [CpuPriority.remove, dropThread, notFirst] using counted

/-- The removal of an expired thread. -/
theorem Represents.remove_expired (represents : prio.Represents links queue)
    (inExpired : thread ∈ queue.expired) :
    (prio.remove thread (links.next thread) (links.prev thread)).Represents
      (links.unlink thread) (queue.remove thread) := by
  have counted := represents.count_remove (TwoListQueue.mem_toList.mpr (.inr inExpired))
  have nodup := TwoListQueue.nodup_remove represents.nodup thread
  have filled := TwoListQueue.filled_remove queue thread
  have disjoint := (List.nodup_append.mp represents.nodup).2.2
  have notActive : thread ∉ queue.active := fun inActive =>
    disjoint thread inActive thread inExpired rfl
  have someActive : queue.active ≠ [] := by
    intro noActive
    rw [represents.filled noActive] at inExpired
    exact List.not_mem_nil inExpired
  have expired := represents.expired
  obtain ⟨front, back, expiredList⟩ := List.append_of_mem inExpired
  rw [expiredList] at expired
  have agree : links.AgreeOn (links.unlink thread) queue.active := by
    apply expired.agreeOn_unlink
    intro other inActive
    constructor
    · intro inFront
      exact disjoint other inActive other (by simp [expiredList, inFront]) rfl
    · intro inBack
      exact disjoint other inActive other (by simp [expiredList, inBack]) rfl
  have active := represents.active.congr agree
  have unlinked := expired.unlink
  obtain ⟨prevThread, nextThread⟩ := expired.neighbours
  have removed : queue.remove thread = ⟨queue.active, front ++ back⟩ := by
    rw [TwoListQueue.remove, expiredList, erase_split expired.nodup,
      List.erase_of_not_mem notActive]
    cases activeList : queue.active with
    | nil => exact absurd activeList someActive
    | cons first rest => rfl
  have notFirst : prio.activeTail ≠ some thread := by
    rw [represents.active.first_eq]
    exact fun same => notActive (List.mem_of_head? same)
  have last : (front ++ back).getLast? =
      if prio.expiredHead = some thread then links.prev thread else prio.expiredHead := by
    rw [represents.expiredHead, expiredList, prevThread]
    rcases List.eq_nil_or_concat back with rfl | ⟨init, final, rfl⟩
    · simp
    · have different : final ≠ thread := by
        intro same
        have backNodup := (List.nodup_append.mp expired.nodup).2.1
        exact (List.nodup_cons.mp backNodup).1 (by simp [same])
      simp [List.getLast?_append, List.getLast?_cons, different]
  rw [removed] at counted nodup filled ⊢
  refine ⟨?_, ?_, ?_, ?_, filled, nodup⟩
  · simpa [CpuPriority.remove, dropThread, notFirst] using active
  · simpa [CpuPriority.remove, dropThread, notFirst] using unlinked
  · simpa [CpuPriority.remove, dropThread, notFirst] using last.symm
  · simpa [CpuPriority.remove, dropThread, notFirst] using counted

/-- The removal in `do_pause_task` is a removal. -/
theorem Represents.remove (represents : prio.Represents links queue)
    (present : thread ∈ queue.toList) :
    (prio.remove thread (links.next thread) (links.prev thread)).Represents
      (links.unlink thread) (queue.remove thread) := by
  rcases TwoListQueue.mem_toList.mp present with inActive | inExpired
  · exact represents.remove_active inActive
  · exact represents.remove_expired inExpired

/-- The links after a rotation. -/
def rotateLinks (prio : CpuPriority) (links : Links Address) (thread : Address) :
    Links Address :=
  (links.pushBack thread
    (pushTarget { prio with totalThreads := prio.totalThreads - 1 })).setPrevOf
      (prio.moveBehind thread (links.next thread)).activeTail none

/-- The rotation of the only active thread. -/
theorem Represents.rotate_single (represents : prio.Represents links queue)
    (activeList : queue.active = [thread]) :
    (prio.rotate thread (links.next thread)).Represents (prio.rotateLinks links thread)
      queue.rotate := by
  have active := represents.active
  rw [activeList] at active
  have nextThread : links.next thread = none := active.segment.2.1
  have notExpired : thread ∉ queue.expired := fun inExpired =>
    (List.nodup_append.mp represents.nodup).2.2 thread (by simp [activeList]) thread
      inExpired rfl
  have total := represents.totalThreads
  have headEq := represents.expiredHead
  have tailEq := represents.expired.first_eq
  have filled := TwoListQueue.filled_rotate represents.filled
  have nodup := (TwoListQueue.perm_rotate queue).nodup_iff.mpr represents.nodup
  have length := (TwoListQueue.perm_rotate queue).length_eq
  rw [TwoListQueue.toList, activeList] at total
  cases expiredList : queue.expired with
  | nil =>
      -- it stays the only thread
      have one : prio.totalThreads = 1 := by simpa [expiredList] using total
      have rotated : queue.rotate = ⟨[thread], []⟩ := by
        simp [TwoListQueue.rotate, TwoListQueue.refill, activeList, expiredList]
      rw [expiredList] at headEq tailEq
      simp only [List.getLast?_nil, List.head?_nil] at headEq tailEq
      rw [rotated] at filled nodup ⊢
      refine ⟨?_, ?_, ?_, ?_, filled, nodup⟩
      · refine ⟨?_, ?_, List.nodup_singleton thread⟩
        · simp [CpuPriority.rotate, moveBehind, CpuPriority.push, one]
        · rw [Links.segment_singleton]
          simp [rotateLinks, moveBehind, CpuPriority.push, pushTarget, one, Links.pushBack]
      · simpa [CpuPriority.rotate, moveBehind, CpuPriority.push, one, tailEq] using
          Links.represents_nil _
      · simp [CpuPriority.rotate, moveBehind, CpuPriority.push, one, headEq]
      · simp [CpuPriority.rotate, moveBehind, CpuPriority.push, one, TwoListQueue.toList]
  | cons first rest =>
      -- the expired threads move up and it goes behind them
      have many : prio.totalThreads - 1 ≠ 0 := by
        rw [total, expiredList]
        simp only [List.length_append, List.length_cons]
        omega
      have rotated : queue.rotate = ⟨queue.expired ++ [thread], []⟩ := by
        simp [TwoListQueue.rotate, TwoListQueue.refill, activeList, expiredList]
      have headSome : prio.expiredHead ≠ none := by
        rw [headEq, expiredList]
        simp [List.getLast?_cons]
      have appended := represents.expired.pushBack notExpired
      rw [← headEq, tailEq, expiredList] at appended
      rw [expiredList] at tailEq
      rw [rotated] at filled nodup length ⊢
      rw [expiredList] at filled nodup length ⊢
      refine ⟨?_, ?_, ?_, ?_, filled, nodup⟩
      · simpa [CpuPriority.rotate, rotateLinks, moveBehind, CpuPriority.push, takeExpired, many,
          nextThread,
          headSome, tailEq, pushTarget] using appended
      · simpa [CpuPriority.rotate, moveBehind, CpuPriority.push, takeExpired, many,
          nextThread] using
          Links.represents_nil _
      · simp [CpuPriority.rotate, moveBehind, CpuPriority.push, takeExpired, many,
          nextThread]
      · rw [length, ← represents.totalThreads]
        simp [CpuPriority.rotate, moveBehind, CpuPriority.push, takeExpired, many,
          nextThread]

/-- The rotation with further active threads. -/
theorem Represents.rotate_many {next : Address} {rest : List Address}
    (represents : prio.Represents links queue)
    (activeList : queue.active = thread :: next :: rest) :
    (prio.rotate thread (links.next thread)).Represents (prio.rotateLinks links thread)
      queue.rotate := by
  have active := represents.active
  rw [activeList] at active
  obtain ⟨-, nextThread, restSegment⟩ := active.segment
  simp only [List.head?_cons, Option.some_or] at nextThread
  obtain ⟨threadNotRest, restNodup⟩ := List.nodup_cons.mp active.nodup
  have disjoint := (List.nodup_append.mp represents.nodup).2.2
  have notExpired : ∀ other ∈ queue.active, other ∉ queue.expired :=
    fun other inActive inExpired => disjoint other inActive other inExpired rfl
  have threadNotExpired := notExpired thread (by simp [activeList])
  have total := represents.totalThreads
  have many : prio.totalThreads - 1 ≠ 0 := by
    rw [total, TwoListQueue.toList, activeList]
    simp only [List.length_append, List.length_cons]
    omega
  have filled := TwoListQueue.filled_rotate represents.filled
  have nodup := (TwoListQueue.perm_rotate queue).nodup_iff.mpr represents.nodup
  have length := (TwoListQueue.perm_rotate queue).length_eq
  have rotated : queue.rotate = ⟨next :: rest, queue.expired ++ [thread]⟩ := by
    simp [TwoListQueue.rotate, TwoListQueue.refill, activeList]
  have linksEq : prio.rotateLinks links thread =
      (links.pushBack thread queue.expired.getLast?).setPrev next none := by
    simp [rotateLinks, moveBehind, CpuPriority.push, pushTarget, many, nextThread,
      represents.expiredHead]
  have tail : prio.expiredTail.or (some thread) =
      if prio.expiredHead = none then some thread else prio.expiredTail := by
    rw [represents.expiredHead, represents.expired.first_eq]
    cases queue.expired <;> simp
  rw [rotated] at filled nodup length ⊢
  rw [linksEq]
  refine ⟨?_, ?_, ?_, ?_, filled, nodup⟩
  · refine ⟨?_, ?_, restNodup⟩
    · simp [CpuPriority.rotate, moveBehind, CpuPriority.push, many, nextThread]
    · apply Links.Segment.setPrev_first _ restNodup
      · exact some thread
      · apply restSegment.congr
        apply Links.agreeOn_pushBack threadNotRest
        intro other present same
        exact notExpired other (by simp only [activeList, List.mem_cons] at present ⊢; tauto)
          (List.mem_of_getLast? same)
  · have appended := represents.expired.pushBack threadNotExpired
    rw [tail] at appended
    have nextNotMember : next ∉ queue.expired ++ [thread] := by
      simp only [List.mem_append, List.mem_singleton, not_or]
      refine ⟨notExpired next (by simp [activeList]), fun same => threadNotRest ?_⟩
      rw [← same]
      exact List.mem_cons_self
    have kept : Links.Represents
        ((links.pushBack thread queue.expired.getLast?).setPrev next none) _ _ :=
      appended.congr (Links.agreeOn_setPrev nextNotMember)
    simpa [CpuPriority.rotate, moveBehind, CpuPriority.push, many, nextThread] using kept
  · simp [CpuPriority.rotate, moveBehind, CpuPriority.push, many, nextThread]
  · rw [length, ← represents.totalThreads]
    simp [CpuPriority.rotate, moveBehind, CpuPriority.push, many, nextThread]

/-- The rotation in the timer interrupt is a rotation. -/
theorem Represents.rotate {rest : List Address} (represents : prio.Represents links queue)
    (activeList : queue.active = thread :: rest) :
    (prio.rotate thread (links.next thread)).Represents (prio.rotateLinks links thread)
      queue.rotate := by
  cases rest with
  | nil => exact represents.rotate_single activeList
  | cons next rest => exact represents.rotate_many activeList

/-- A rotation changes no links outside the queue. -/
theorem Represents.agreeOn_rotateLinks {rest others : List Address}
    (represents : prio.Represents links queue) (activeList : queue.active = thread :: rest)
    (elsewhere : ∀ node ∈ others, node ∉ queue.toList) :
    links.AgreeOn (prio.rotateLinks links thread) others := by
  have active := represents.active
  rw [activeList] at active
  have threadIn : thread ∈ queue.toList :=
    TwoListQueue.mem_toList.mpr (.inl (by simp [activeList]))
  have nextIn : ∀ node, links.next thread = some node → node ∈ queue.toList := by
    intro node isNext
    have nextThread := active.segment.2.1
    rw [Option.or_none, isNext] at nextThread
    have inRest := List.mem_of_head? nextThread.symm
    exact TwoListQueue.mem_toList.mpr (.inl (by simp [activeList, inRest]))
  have targetIn : ∀ node,
      pushTarget { prio with totalThreads := prio.totalThreads - 1 } = some node →
        node ∈ queue.toList := by
    intro node isTarget
    simp only [pushTarget] at isTarget
    split at isTarget
    · rw [represents.expiredHead] at isTarget
      exact TwoListQueue.mem_toList.mpr (.inr (List.mem_of_getLast? isTarget))
    · cases isTarget
  have pushed : links.AgreeOn (links.pushBack thread
      (pushTarget { prio with totalThreads := prio.totalThreads - 1 })) others := by
    apply Links.agreeOn_pushBack
    · exact fun inOthers => elsewhere thread inOthers threadIn
    · exact fun node inOthers same => elsewhere node inOthers (targetIn node same)
  rw [rotateLinks]
  cases tailEq : (prio.moveBehind thread (links.next thread)).activeTail with
  | none => exact pushed
  | some tail =>
      have tailIn : tail ∈ queue.toList := by
        simp only [moveBehind, CpuPriority.push] at tailEq
        split at tailEq
        · exact nextIn tail tailEq
        · simp only [Option.some.injEq] at tailEq
          exact tailEq ▸ threadIn
      refine pushed.trans ?_
      rw [Links.setPrevOf_some]
      apply Links.agreeOn_setPrev
      exact fun inOthers => elsewhere tail inOthers tailIn

end Represented
end CpuPriority

/-! ## The code -/

section Code

variable (state : State) (cpu : Nat) (thread : Address)

theorem linkExpired_links :
    (linkExpired state cpu thread).links =
      state.links.pushBack thread
        ((state.cpus cpu).priorities (state.threads thread).realPriority).pushTarget := by
  have cleared : (state.setThread thread ({ · with prev := none, next := none })).links =
      (state.links.setPrev thread none).setNext thread none := State.setThread_links ..
  simp only [linkExpired, CpuPriority.pushTarget, Links.pushBack]
  split
  · simp only [State.setPriority_links]
    cases ((state.cpus cpu).priorities (state.threads thread).realPriority).expiredHead with
    | none =>
        rw [State.setPriority_links, cleared, Links.setNextOf_none]
        ext other : 2 <;> simp +contextual
    | some head =>
        rw [links_setPrev, links_setNext, cleared, Links.setNextOf_some]
  · rw [State.setPriority_links, cleared, Links.setNextOf_none]
    ext other : 2 <;> simp +contextual

theorem linkExpired_allLinks : (linkExpired state cpu thread).allLinks = state.allLinks := by
  have cleared :
      (state.setThread thread ({ · with prev := none, next := none })).allLinks =
        state.allLinks := allLinks_setThread state thread rfl rfl
  simp only [linkExpired]
  split
  · rw [State.setPriority_allLinks]
    split
    · rw [allLinks_setThread _ _ rfl rfl, allLinks_setThread _ _ rfl rfl, cleared]
    · rw [State.setPriority_allLinks, cleared]
  · rw [State.setPriority_allLinks, cleared]

theorem linkExpired_all : (linkExpired state cpu thread).all = state.all := by
  simp only [linkExpired]
  split
  · split <;> rfl
  · rfl

theorem linkExpired_inactive :
    (linkExpired state cpu thread).inactive = state.inactive := by
  simp only [linkExpired]
  split
  · split <;> rfl
  · rfl

@[simp] theorem linkExpired_priorityMask (otherCpu : Nat) :
    ((linkExpired state cpu thread).cpus otherCpu).priorityMask =
      (state.cpus otherCpu).priorityMask := by
  simp only [linkExpired]
  split
  · split <;> simp
  · simp

theorem addExpired_links :
    (addExpired state cpu thread).links =
      state.links.pushBack thread
        ((state.cpus cpu).priorities (state.threads thread).realPriority).pushTarget :=
  linkExpired_links state cpu thread

@[simp] theorem addExpired_allLinks :
    (addExpired state cpu thread).allLinks = state.allLinks :=
  linkExpired_allLinks state cpu thread

@[simp] theorem addExpired_all : (addExpired state cpu thread).all = state.all :=
  linkExpired_all state cpu thread

@[simp] theorem addExpired_inactive :
    (addExpired state cpu thread).inactive = state.inactive :=
  linkExpired_inactive state cpu thread

/-- `add_expired` changes one record. -/
theorem addExpired_priorities (otherCpu otherPriority : Nat) :
    ((addExpired state cpu thread).cpus otherCpu).priorities otherPriority =
      if otherCpu = cpu ∧ otherPriority = (state.threads thread).realPriority then
        ((state.cpus cpu).priorities otherPriority).push thread
      else
        (state.cpus otherCpu).priorities otherPriority := by
  simp only [addExpired, linkExpired, State.setPriority_priorities, State.setMask_priorities]
  split
  · rename_i same
    obtain ⟨-, rfl⟩ := same
    simp only [CpuPriority.push]
    split
    · rw [State.setPriority_priorities_self]
      cases ((state.cpus cpu).priorities (state.threads thread).realPriority).expiredHead with
      | none => simp
      | some head => simp
    · rw [State.setPriority_priorities_self]
      simp
  · rename_i different
    split
    · rw [State.setPriority_priorities, if_neg different]
      cases ((state.cpus cpu).priorities (state.threads thread).realPriority).expiredHead with
      | none => simp [State.setPriority_priorities, different]
      | some head => simp
    · rw [State.setPriority_priorities, if_neg different]
      simp

/-- `add_expired` sets one bit of one mask. -/
theorem addExpired_priorityMask (otherCpu : Nat) :
    ((addExpired state cpu thread).cpus otherCpu).priorityMask =
      if otherCpu = cpu then
        BitArray.set (state.cpus cpu).priorityMask (state.threads thread).realPriority
      else
        (state.cpus otherCpu).priorityMask := by
  simp only [addExpired, State.setPriority_priorityMask, State.setMask_priorityMask,
    linkExpired_priorityMask]

/-! ### Removing a thread -/

theorem countRemoved_links (priority : Nat) :
    (countRemoved state cpu priority).links = state.links := by
  simp only [countRemoved]
  split <;> rfl

theorem countRemoved_allLinks (priority : Nat) :
    (countRemoved state cpu priority).allLinks = state.allLinks := by
  simp only [countRemoved]
  split <;> rfl

theorem countRemoved_all (priority : Nat) :
    (countRemoved state cpu priority).all = state.all := by
  simp only [countRemoved]
  split <;> rfl

theorem countRemoved_inactive (priority : Nat) :
    (countRemoved state cpu priority).inactive = state.inactive := by
  simp only [countRemoved]
  split <;> rfl

theorem countRemoved_priorities (priority otherCpu otherPriority : Nat) :
    ((countRemoved state cpu priority).cpus otherCpu).priorities otherPriority =
      if otherCpu = cpu ∧ otherPriority = priority then
        { (state.cpus cpu).priorities priority with
          totalThreads := ((state.cpus cpu).priorities priority).totalThreads - 1 }
      else
        (state.cpus otherCpu).priorities otherPriority := by
  simp only [countRemoved]
  split
  · rw [State.setMask_priorities, State.setPriority_priorities]
  · rw [State.setPriority_priorities]

/-- The bit of a priority is reset when its last thread is removed. -/
theorem countRemoved_priorityMask (priority otherCpu : Nat) :
    ((countRemoved state cpu priority).cpus otherCpu).priorityMask =
      if otherCpu = cpu ∧ ((state.cpus cpu).priorities priority).totalThreads - 1 = 0 then
        BitArray.reset (state.cpus cpu).priorityMask priority
      else
        (state.cpus otherCpu).priorityMask := by
  simp only [countRemoved, State.setPriority_priorities_self]
  by_cases last : ((state.cpus cpu).priorities priority).totalThreads - 1 = 0
  · simp only [last, if_true, and_true, State.setMask_priorityMask,
      State.setPriority_priorityMask]
  · simp only [last, if_false, and_false, State.setPriority_priorityMask]

theorem removeQueued_links :
    (removeQueued state cpu thread).links = state.links.unlink thread := by
  rw [← unlink_links, removeQueued, countRemoved_links, State.setPriority_links]

theorem removeQueued_allLinks : (removeQueued state cpu thread).allLinks = state.allLinks := by
  rw [← unlink_allLinks state thread, removeQueued, countRemoved_allLinks,
    State.setPriority_allLinks]

theorem removeQueued_all : (removeQueued state cpu thread).all = state.all := by
  rw [← unlink_all state thread, removeQueued, countRemoved_all, State.setPriority_all]

theorem removeQueued_inactive : (removeQueued state cpu thread).inactive = state.inactive := by
  rw [← unlink_inactive state thread, removeQueued, countRemoved_inactive,
    State.setPriority_inactive]

/-- A removal changes one record. -/
theorem removeQueued_priorities (otherCpu otherPriority : Nat) :
    ((removeQueued state cpu thread).cpus otherCpu).priorities otherPriority =
      if otherCpu = cpu ∧ otherPriority = (state.threads thread).realPriority then
        ((state.cpus cpu).priorities otherPriority).remove thread
          ((state.links.unlink thread).next thread) ((state.links.unlink thread).prev thread)
      else
        (state.cpus otherCpu).priorities otherPriority := by
  rw [removeQueued, countRemoved_priorities, ← unlink_links]
  simp only [State.setPriority_priorities, unlink_cpus, and_self, if_true]
  split
  · rename_i same
    rw [same.2]
    rw [CpuPriority.dropThread_totalThreads]
    rfl
  · rfl

theorem removeQueued_priorityMask (otherCpu : Nat) :
    ((removeQueued state cpu thread).cpus otherCpu).priorityMask =
      if otherCpu = cpu ∧ ((state.cpus cpu).priorities
          (state.threads thread).realPriority).totalThreads - 1 = 0 then
        BitArray.reset (state.cpus cpu).priorityMask (state.threads thread).realPriority
      else
        (state.cpus otherCpu).priorityMask := by
  rw [removeQueued, countRemoved_priorityMask]
  simp only [State.setPriority_priorities_self, State.setPriority_priorityMask, unlink_cpus,
    CpuPriority.dropThread_totalThreads]

/-! ### Rotating -/

section Rotate

variable {state cpu thread}

@[simp] theorem loadThreadContext_links :
    (loadThreadContext state cpu thread).links = state.links :=
  links_setThread state thread rfl rfl

@[simp] theorem loadThreadContext_allLinks :
    (loadThreadContext state cpu thread).allLinks = state.allLinks :=
  allLinks_setThread state thread rfl rfl

@[simp] theorem loadThreadContext_cpus :
    (loadThreadContext state cpu thread).cpus = state.cpus := rfl

@[simp] theorem updatePriorityQuantum_links :
    (updatePriorityQuantum state thread).links = state.links :=
  links_setThread state thread rfl rfl

@[simp] theorem updatePriorityQuantum_allLinks :
    (updatePriorityQuantum state thread).allLinks = state.allLinks :=
  allLinks_setThread state thread rfl rfl

@[simp] theorem updatePriorityQuantum_cpus :
    (updatePriorityQuantum state thread).cpus = state.cpus := rfl

/-- In `moveCurrent` the thread is appended to the queue it came from. -/
theorem moveCurrent_realPriority
    (samePriority : (state.threads thread).priority = (state.cpus cpu).currentPriority) :
    ((updatePriorityQuantum (loadThreadContext (countRemoved
      (state.setPriority cpu (state.cpus cpu).currentPriority
        ({ · with activeTail := (state.threads thread).next }))
      cpu (state.cpus cpu).currentPriority) cpu thread) thread).threads thread).realPriority =
      (state.cpus cpu).currentPriority := by
  have core := (OnlyLists.countRemoved (state.setPriority cpu (state.cpus cpu).currentPriority
    ({ · with activeTail := (state.threads thread).next })) cpu
    (state.cpus cpu).currentPriority).core thread
  have priority := congrArg ThreadData.priority core
  simpa [updatePriorityQuantum, loadThreadContext] using priority.trans samePriority

theorem moveCurrent_links
    (samePriority : (state.threads thread).priority = (state.cpus cpu).currentPriority) :
    (moveCurrent state cpu thread).links =
      state.links.pushBack thread (CpuPriority.pushTarget
        { (state.cpus cpu).priorities (state.cpus cpu).currentPriority with
          totalThreads := ((state.cpus cpu).priorities
            (state.cpus cpu).currentPriority).totalThreads - 1 }) := by
  rw [moveCurrent, addExpired_links, moveCurrent_realPriority samePriority,
    updatePriorityQuantum_links, loadThreadContext_links, countRemoved_links,
    State.setPriority_links, updatePriorityQuantum_cpus, loadThreadContext_cpus,
    countRemoved_priorities]
  simp only [and_self, if_true, State.setPriority_priorities_self]
  rfl

theorem moveCurrent_priorities
    (samePriority : (state.threads thread).priority = (state.cpus cpu).currentPriority)
    (otherCpu otherPriority : Nat) :
    ((moveCurrent state cpu thread).cpus otherCpu).priorities otherPriority =
      if otherCpu = cpu ∧ otherPriority = (state.cpus cpu).currentPriority then
        ((state.cpus cpu).priorities otherPriority).moveBehind thread (state.links.next thread)
      else
        (state.cpus otherCpu).priorities otherPriority := by
  rw [moveCurrent, addExpired_priorities, moveCurrent_realPriority samePriority,
    updatePriorityQuantum_cpus, loadThreadContext_cpus, countRemoved_priorities,
    countRemoved_priorities]
  split
  · rename_i same
    rw [if_pos ⟨rfl, same.2⟩, State.setPriority_priorities_self, same.2]
    rfl
  · rename_i different
    rw [State.setPriority_priorities, if_neg different]

/-- The bit of the priority is set again if it was reset. -/
theorem moveCurrent_priorityMask
    (samePriority : (state.threads thread).priority = (state.cpus cpu).currentPriority)
    (inMask : (state.cpus cpu).currentPriority < 64 * (state.cpus cpu).priorityMask.length)
    (otherCpu bit : Nat) :
    BitArray.get ((moveCurrent state cpu thread).cpus otherCpu).priorityMask bit =
      (decide (otherCpu = cpu ∧ bit = (state.cpus cpu).currentPriority) ||
        BitArray.get (state.cpus otherCpu).priorityMask bit) := by
  rw [moveCurrent, addExpired_priorityMask, moveCurrent_realPriority samePriority,
    updatePriorityQuantum_cpus, loadThreadContext_cpus, countRemoved_priorityMask,
    countRemoved_priorityMask]
  simp only [State.setPriority_priorities_self, State.setPriority_priorityMask, true_and]
  by_cases same : otherCpu = cpu
  · subst same
    simp only [if_true, true_and]
    split
    · rw [BitArray.get_set (by simpa using inMask), BitArray.get_reset inMask]
      by_cases sameBit : bit = (state.cpus otherCpu).currentPriority <;> simp [sameBit]
    · rw [BitArray.get_set inMask]
  · simp [same]

@[simp] theorem moveCurrent_allLinks :
    (moveCurrent state cpu thread).allLinks = state.allLinks := by
  rw [moveCurrent, addExpired_allLinks, updatePriorityQuantum_allLinks,
    loadThreadContext_allLinks, countRemoved_allLinks, State.setPriority_allLinks]

theorem rotate_links
    (samePriority : (state.threads thread).priority = (state.cpus cpu).currentPriority) :
    (rotate state cpu thread).links =
      ((state.cpus cpu).priorities (state.cpus cpu).currentPriority).rotateLinks state.links
        thread := by
  have active : (((moveCurrent state cpu thread).cpus cpu).priorities
      (state.cpus cpu).currentPriority).activeTail =
      (((state.cpus cpu).priorities (state.cpus cpu).currentPriority).moveBehind thread
        (state.links.next thread)).activeTail := by
    rw [moveCurrent_priorities samePriority, if_pos ⟨rfl, rfl⟩]
  rw [CpuPriority.rotateLinks, ← moveCurrent_links samePriority, ← active]
  simp only [rotate]
  cases (((moveCurrent state cpu thread).cpus cpu).priorities
      (state.cpus cpu).currentPriority).activeTail with
  | none => rfl
  | some tail => exact links_setPrev _ tail none

theorem rotate_priorities
    (samePriority : (state.threads thread).priority = (state.cpus cpu).currentPriority)
    (otherCpu otherPriority : Nat) :
    ((rotate state cpu thread).cpus otherCpu).priorities otherPriority =
      if otherCpu = cpu ∧ otherPriority = (state.cpus cpu).currentPriority then
        ((state.cpus cpu).priorities otherPriority).rotate thread (state.links.next thread)
      else
        (state.cpus otherCpu).priorities otherPriority := by
  have moved := moveCurrent_priorities samePriority
  have here := moved cpu (state.cpus cpu).currentPriority
  rw [if_pos ⟨rfl, rfl⟩] at here
  simp only [rotate, CpuPriority.rotate, here]
  cases active : (((state.cpus cpu).priorities (state.cpus cpu).currentPriority).moveBehind
      thread (state.links.next thread)).activeTail with
  | none =>
      simp only [State.setPriority_priorities, here]
      split
      · rename_i same
        rw [same.2, active]
      · rename_i different
        rw [moved, if_neg different]
  | some tail =>
      simp only [State.setThread_cpus, moved]
      split
      · rename_i same
        rw [same.2, active]
      · rfl

theorem rotate_priorityMask
    (samePriority : (state.threads thread).priority = (state.cpus cpu).currentPriority)
    (inMask : (state.cpus cpu).currentPriority < 64 * (state.cpus cpu).priorityMask.length)
    (otherCpu bit : Nat) :
    BitArray.get ((rotate state cpu thread).cpus otherCpu).priorityMask bit =
      (decide (otherCpu = cpu ∧ bit = (state.cpus cpu).currentPriority) ||
        BitArray.get (state.cpus otherCpu).priorityMask bit) := by
  rw [← moveCurrent_priorityMask samePriority inMask]
  simp only [rotate]
  split
  · rfl
  · rw [State.setPriority_priorityMask]

theorem rotate_priorityMask_length (otherCpu : Nat) :
    ((rotate state cpu thread).cpus otherCpu).priorityMask.length =
      (state.cpus otherCpu).priorityMask.length := by
  have moved : ((moveCurrent state cpu thread).cpus otherCpu).priorityMask.length =
      (state.cpus otherCpu).priorityMask.length := by
    rw [moveCurrent, addExpired_priorityMask, updatePriorityQuantum_cpus,
      loadThreadContext_cpus, countRemoved_priorityMask, countRemoved_priorityMask]
    simp only [State.setPriority_priorityMask, true_and]
    by_cases same : otherCpu = cpu
    · subst same
      simp only [if_true, true_and]
      split <;> simp
    · simp [same]
  rw [← moved]
  simp only [rotate]
  split
  · rfl
  · rw [State.setPriority_priorityMask]

theorem rotate_allLinks : (rotate state cpu thread).allLinks = state.allLinks := by
  have moved : (moveCurrent state cpu thread).allLinks = state.allLinks := moveCurrent_allLinks
  rw [← moved]
  simp only [rotate]
  split
  · exact allLinks_setThread _ _ rfl rfl
  · rfl

theorem moveCurrent_all : (moveCurrent state cpu thread).all = state.all := by
  rw [moveCurrent, addExpired_all]
  exact countRemoved_all _ cpu _

theorem moveCurrent_inactive :
    (moveCurrent state cpu thread).inactive = state.inactive := by
  rw [moveCurrent, addExpired_inactive]
  exact countRemoved_inactive _ cpu _

theorem rotate_all : (rotate state cpu thread).all = state.all := by
  have moved : (moveCurrent state cpu thread).all = state.all := moveCurrent_all
  rw [← moved]
  simp only [rotate]
  split <;> rfl

theorem rotate_inactive : (rotate state cpu thread).inactive = state.inactive := by
  have moved : (moveCurrent state cpu thread).inactive = state.inactive := moveCurrent_inactive
  rw [← moved]
  simp only [rotate]
  split <;> rfl

end Rotate

end Code
end Scheduler
end ToyKernel
