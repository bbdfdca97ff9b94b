import ToyKernel.Scheduler.RunQueue

/-!
# The lists of the scheduler

A view gives the contents of the `all` list, the `inactive` list and all run
queues, and the place of each thread in one of the latter.  `Lists` says that the
memory represents a view; each operation of the scheduler on a list keeps it
represented and changes the view as its name says.
-/

namespace ToyKernel
namespace Scheduler

section Code

variable (state : State) (thread : Address)

theorem unlinkInactive_links :
    (unlinkInactive state thread).links = state.links.unlink thread := by
  rw [← unlink_links]
  simp only [unlinkInactive]
  split <;> rfl

theorem unlinkInactive_allLinks : (unlinkInactive state thread).allLinks = state.allLinks := by
  rw [← unlink_allLinks state thread]
  simp only [unlinkInactive]
  split <;> rfl

theorem unlinkInactive_all : (unlinkInactive state thread).all = state.all := by
  rw [← unlink_all state thread]
  simp only [unlinkInactive]
  split <;> rfl

theorem unlinkInactive_cpus : (unlinkInactive state thread).cpus = state.cpus := by
  rw [← unlink_cpus state thread]
  simp only [unlinkInactive]
  split <;> rfl

theorem unlinkInactive_tail :
    (unlinkInactive state thread).inactive.tail =
      if state.inactive.tail = some thread then ((unlink state thread).threads thread).next
      else state.inactive.tail := by
  simp only [unlinkInactive, unlink_inactive, State.setInactive_inactive]
  split
  · rfl
  · rw [unlink_inactive]

theorem unlinkInactive_totalThreads :
    (unlinkInactive state thread).inactive.totalThreads = state.inactive.totalThreads - 1 := by
  simp only [unlinkInactive, unlink_inactive, State.setInactive_inactive]
  split
  · rw [State.setInactive_inactive, unlink_inactive]
  · rw [unlink_inactive]

theorem linkInactive_links :
    (linkInactive state thread).links =
      (state.links.setNext thread state.inactive.tail).setPrevOf state.inactive.tail
        (some thread) := by
  simp only [linkInactive, State.setInactive_links, setPrevOf_links, links_setNext]
  rfl

theorem linkInactive_allLinks : (linkInactive state thread).allLinks = state.allLinks := by
  simp only [linkInactive, State.setInactive_allLinks, setPrevOf_allLinks]
  exact allLinks_setThread state thread rfl rfl

theorem linkInactive_all : (linkInactive state thread).all = state.all := by
  simp only [linkInactive, State.setInactive_all, setPrevOf_all]
  rfl

theorem linkInactive_cpus : (linkInactive state thread).cpus = state.cpus := by
  simp only [linkInactive, State.setInactive_cpus, setPrevOf_cpus]
  rfl

theorem linkInactive_inactive :
    (linkInactive state thread).inactive =
      ⟨state.inactive.totalThreads + 1, some thread⟩ := by
  simp only [linkInactive, State.setInactive_inactive, setPrevOf_inactive]
  rfl

theorem unlinkAll_links : (unlinkAll state thread).links = state.links := by
  rw [← unlinkFromAll_links state thread]
  simp only [unlinkAll]
  split <;> rfl

theorem unlinkAll_allLinks :
    (unlinkAll state thread).allLinks = state.allLinks.unlink thread := by
  rw [← unlinkFromAll_allLinks]
  simp only [unlinkAll]
  split <;> rfl

theorem unlinkAll_inactive : (unlinkAll state thread).inactive = state.inactive := by
  rw [← unlinkFromAll_inactive state thread]
  simp only [unlinkAll]
  split <;> rfl

theorem unlinkAll_cpus : (unlinkAll state thread).cpus = state.cpus := by
  rw [← unlinkFromAll_cpus state thread]
  simp only [unlinkAll]
  split <;> rfl

theorem unlinkAll_tail :
    (unlinkAll state thread).all.tail =
      if state.all.tail = some thread then
        ((unlinkFromAll state thread).threads thread).allNext
      else state.all.tail := by
  simp only [unlinkAll, unlinkFromAll_all, State.setAll_all]
  split
  · rfl
  · rw [unlinkFromAll_all]

theorem unlinkAll_totalThreads :
    (unlinkAll state thread).all.totalThreads = state.all.totalThreads - 1 := by
  simp only [unlinkAll, unlinkFromAll_all, State.setAll_all]
  split
  · rw [State.setAll_all, unlinkFromAll_all]
  · rw [unlinkFromAll_all]

theorem linkAll_links : (linkAll state thread).links = state.links := by
  simp only [linkAll, State.setAll_links, setAllPrevOf_links]
  exact links_setThread state thread rfl rfl

theorem linkAll_allLinks :
    (linkAll state thread).allLinks =
      (state.allLinks.setNext thread state.all.tail).setPrevOf state.all.tail (some thread) := by
  simp only [linkAll, State.setAll_allLinks, setAllPrevOf_allLinks, allLinks_setNext]
  rfl

theorem linkAll_inactive : (linkAll state thread).inactive = state.inactive := by
  simp only [linkAll, State.setAll_inactive, setAllPrevOf_inactive]
  rfl

theorem linkAll_cpus : (linkAll state thread).cpus = state.cpus := by
  simp only [linkAll, State.setAll_cpus, setAllPrevOf_cpus]
  rfl

theorem linkAll_all :
    (linkAll state thread).all = ⟨state.all.totalThreads + 1, some thread⟩ := by
  simp only [linkAll, State.setAll_all, setAllPrevOf_all]
  rfl

end Code

/-- The list, other than the `all` list, that holds a thread. -/
inductive Place
  | nowhere
  | inactive
  | queued (cpu priority : Nat)
  deriving DecidableEq

/-- The contents of the lists. -/
structure View where
  all : List Address
  inactive : List Address
  queue : Nat → Nat → TwoListQueue Address
  place : Address → Place

namespace View

/-- Replace one run queue. -/
def setQueue (view : View) (cpu priority : Nat) (queue : TwoListQueue Address) : View :=
  { view with
    queue := Function.update view.queue cpu
      (Function.update (view.queue cpu) priority queue) }

/-- Record a new place of a thread. -/
def setPlace (view : View) (thread : Address) (place : Place) : View :=
  { view with place := Function.update view.place thread place }

/-- A thread leaves the `inactive` list. -/
def leaveInactive (view : View) (thread : Address) : View :=
  { view.setPlace thread .nowhere with inactive := view.inactive.erase thread }

/-- A thread enters the `inactive` list. -/
def enterInactive (view : View) (thread : Address) : View :=
  { view.setPlace thread .inactive with inactive := thread :: view.inactive }

/-- A thread enters the `all` list. -/
def enterAll (view : View) (thread : Address) : View :=
  { view with all := thread :: view.all }

/-- A thread leaves the `all` list. -/
def leaveAll (view : View) (thread : Address) : View :=
  { view with all := view.all.erase thread }

/-- A thread enters a run queue. -/
def enqueue (view : View) (cpu priority : Nat) (thread : Address) : View :=
  (view.setPlace thread (.queued cpu priority)).setQueue cpu priority
    ((view.queue cpu priority).push thread)

/-- A thread leaves a run queue. -/
def dequeue (view : View) (cpu priority : Nat) (thread : Address) : View :=
  (view.setPlace thread .nowhere).setQueue cpu priority
    ((view.queue cpu priority).remove thread)

/-- The first thread of a run queue goes to its end. -/
def rotate (view : View) (cpu priority : Nat) : View :=
  view.setQueue cpu priority (view.queue cpu priority).rotate

/-- The highest priority that has active threads on a CPU. -/
def Highest (view : View) (cpu priority : Nat) : Prop :=
  (view.queue cpu priority).active ≠ [] ∧
    ∀ lower, lower < priority → (view.queue cpu lower).active = []

theorem setQueue_queue (view : View) (cpu priority otherCpu otherPriority : Nat)
    (queue : TwoListQueue Address) :
    (view.setQueue cpu priority queue).queue otherCpu otherPriority =
      if otherCpu = cpu ∧ otherPriority = priority then queue
      else view.queue otherCpu otherPriority := by
  simp only [setQueue, Function.update_apply]
  by_cases sameCpu : otherCpu = cpu
  · subst sameCpu
    simp [Function.update_apply]
  · simp [sameCpu]

theorem setPlace_place (view : View) (thread other : Address) (place : Place) :
    (view.setPlace thread place).place other =
      if other = thread then place else view.place other := by
  simp [setPlace, Function.update_apply]

end View

/-- The memory represents the view. -/
structure Lists (state : State) (view : View) : Prop where
  all : state.allLinks.Represents state.all.tail view.all
  allTotal : state.all.totalThreads = view.all.length
  inactive : state.links.Represents state.inactive.tail view.inactive
  inactiveTotal : state.inactive.totalThreads = view.inactive.length
  queue : ∀ cpu priority,
    ((state.cpus cpu).priorities priority).Represents state.links (view.queue cpu priority)
  maskLength : ∀ cpu, (state.cpus cpu).priorityMask.length = priorityMaskSize
  mask : ∀ cpu priority, BitArray.get (state.cpus cpu).priorityMask priority = true ↔
    (view.queue cpu priority).active ≠ []
  inactivePlace : ∀ thread, thread ∈ view.inactive ↔ view.place thread = .inactive
  queuePlace : ∀ thread cpu priority,
    thread ∈ (view.queue cpu priority).toList ↔ view.place thread = .queued cpu priority

namespace Lists

variable {state after : State} {view : View} {thread : Address} {cpu priority : Nat}

/-- Steps that change no links of a thread in a list, no list head and no counter. -/
theorem transport (lists : Lists state view)
    (links : ∀ other, view.place other ≠ .nowhere →
      after.links.next other = state.links.next other ∧
        after.links.prev other = state.links.prev other)
    (allLinks : state.allLinks.AgreeOn after.allLinks view.all)
    (all : after.all = state.all) (inactive : after.inactive = state.inactive)
    (priorities : ∀ cpu, (after.cpus cpu).priorities = (state.cpus cpu).priorities)
    (masks : ∀ cpu, (after.cpus cpu).priorityMask = (state.cpus cpu).priorityMask) :
    Lists after view where
  all := by
    rw [all]
    exact lists.all.congr allLinks
  allTotal := by
    rw [all]
    exact lists.allTotal
  inactive := by
    rw [inactive]
    apply lists.inactive.congr
    intro other present
    apply links other
    rw [(lists.inactivePlace other).mp present]
    simp
  inactiveTotal := by
    rw [inactive]
    exact lists.inactiveTotal
  queue cpu priority := by
    rw [priorities]
    apply (lists.queue cpu priority).congr
    intro other present
    apply links other
    rw [(lists.queuePlace other cpu priority).mp present]
    simp
  maskLength cpu := by
    rw [masks]
    exact lists.maskLength cpu
  mask cpu priority := by
    rw [masks]
    exact lists.mask cpu priority
  inactivePlace := lists.inactivePlace
  queuePlace := lists.queuePlace

/-- Steps that leave the lists alone. -/
theorem congr (lists : Lists state view)
    (links : after.links = state.links) (allLinks : after.allLinks = state.allLinks)
    (all : after.all = state.all) (inactive : after.inactive = state.inactive)
    (priorities : ∀ cpu, (after.cpus cpu).priorities = (state.cpus cpu).priorities)
    (masks : ∀ cpu, (after.cpus cpu).priorityMask = (state.cpus cpu).priorityMask) :
    Lists after view := by
  apply transport lists _ _ all inactive priorities masks
  · intro other _
    rw [links]
    exact ⟨rfl, rfl⟩
  · rw [allLinks]
    exact fun _ _ => ⟨rfl, rfl⟩

/-- A priority that has a queue has a bit in the mask. -/
theorem inMask (lists : Lists state view) (inRange : priority < configSchedulerPriorities)
    (cpu : Nat) : priority < 64 * (state.cpus cpu).priorityMask.length := by
  rw [lists.maskLength]
  simp only [configSchedulerPriorities, priorityMaskSize] at *
  omega

/-! ## The `all` list -/

/-- A step on the `all` list. -/
theorem changeAll (lists : Lists state view) {all : List Address}
    (represents : after.allLinks.Represents after.all.tail all)
    (total : after.all.totalThreads = all.length)
    (links : after.links = state.links) (inactive : after.inactive = state.inactive)
    (cpus : after.cpus = state.cpus) :
    Lists after { view with all := all } where
  all := represents
  allTotal := total
  inactive := by
    rw [links, inactive]
    exact lists.inactive
  inactiveTotal := by
    rw [inactive]
    exact lists.inactiveTotal
  queue cpu priority := by
    rw [links, cpus]
    exact lists.queue cpu priority
  maskLength cpu := by
    rw [cpus]
    exact lists.maskLength cpu
  mask cpu priority := by
    rw [cpus]
    exact lists.mask cpu priority
  inactivePlace := lists.inactivePlace
  queuePlace := lists.queuePlace

theorem linkAll (lists : Lists state view) (absent : thread ∉ view.all)
    (noPrev : (state.threads thread).allPrev = none) :
    Lists (linkAll state thread) (view.enterAll thread) := by
  have links : (Scheduler.linkAll state thread).allLinks =
      state.allLinks.pushFront thread state.all.tail := by
    have cleared : state.allLinks.setPrev thread none = state.allLinks := by
      have self := Links.setPrev_self state.allLinks thread
      rwa [show state.allLinks.prev thread = none from noPrev] at self
    rw [linkAll_allLinks, Links.pushFront, cleared]
  apply changeAll lists
  · rw [links, linkAll_all]
    exact lists.all.pushFront absent
  · rw [linkAll_all, lists.allTotal]
    simp
  · exact linkAll_links state thread
  · exact linkAll_inactive state thread
  · exact linkAll_cpus state thread

theorem unlinkAll (lists : Lists state view) (present : thread ∈ view.all) :
    Lists (unlinkAll state thread) (view.leaveAll thread) := by
  obtain ⟨front, back, allList⟩ := List.append_of_mem present
  have all := lists.all
  rw [allList] at all
  have erased : view.all.erase thread = front ++ back := by
    rw [allList, CpuPriority.erase_split all.nodup]
  have nextKept :
      ((unlinkFromAll state thread).threads thread).allNext = state.allLinks.next thread := by
    have kept := all.unlink_self.1
    rw [← unlinkFromAll_allLinks] at kept
    exact kept
  apply changeAll lists
  · rw [unlinkAll_allLinks, unlinkAll_tail, nextKept, erased]
    exact all.unlink
  · rw [unlinkAll_totalThreads, lists.allTotal, List.length_erase_of_mem present]
    have positive := List.length_pos_of_mem present
    omega
  · exact unlinkAll_links state thread
  · exact unlinkAll_inactive state thread
  · exact unlinkAll_cpus state thread

/-! ## The `inactive` list -/

/-- A step on the `inactive` list. -/
theorem changeInactive (lists : Lists state view) {inactive : List Address} {place : Place}
    (represents : after.links.Represents after.inactive.tail inactive)
    (total : after.inactive.totalThreads = inactive.length)
    (agree : ∀ cpu priority,
      state.links.AgreeOn after.links (view.queue cpu priority).toList)
    (allLinks : after.allLinks = state.allLinks) (all : after.all = state.all)
    (cpus : after.cpus = state.cpus)
    (members : ∀ other, other ∈ inactive ↔ (view.setPlace thread place).place other = .inactive)
    (notQueued : ∀ cpu priority, view.place thread ≠ .queued cpu priority ∧
      place ≠ .queued cpu priority) :
    Lists after { view.setPlace thread place with inactive := inactive } where
  all := by
    rw [allLinks, all]
    exact lists.all
  allTotal := by
    rw [all]
    exact lists.allTotal
  inactive := represents
  inactiveTotal := total
  queue cpu priority := by
    rw [cpus]
    exact (lists.queue cpu priority).congr (agree cpu priority)
  maskLength cpu := by
    rw [cpus]
    exact lists.maskLength cpu
  mask cpu priority := by
    rw [cpus]
    exact lists.mask cpu priority
  inactivePlace := members
  queuePlace other cpu priority := by
    change other ∈ (view.queue cpu priority).toList ↔ _
    rw [lists.queuePlace, View.setPlace_place]
    split
    · rename_i same
      rw [same]
      exact ⟨fun queued => absurd queued (notQueued cpu priority).1,
        fun queued => absurd queued (notQueued cpu priority).2⟩
    · rfl

theorem unlinkInactive (lists : Lists state view) (place : view.place thread = .inactive) :
    Lists (unlinkInactive state thread) (view.leaveInactive thread) := by
  have present := (lists.inactivePlace thread).mpr place
  obtain ⟨front, back, inactiveList⟩ := List.append_of_mem present
  have inactive := lists.inactive
  rw [inactiveList] at inactive
  have erased : view.inactive.erase thread = front ++ back := by
    rw [inactiveList, CpuPriority.erase_split inactive.nodup]
  have nextKept : ((unlink state thread).threads thread).next = state.links.next thread := by
    have kept := inactive.unlink_self.1
    rw [← unlink_links] at kept
    exact kept
  apply changeInactive lists
  · rw [unlinkInactive_links, unlinkInactive_tail, nextKept, erased]
    exact inactive.unlink
  · rw [unlinkInactive_totalThreads, lists.inactiveTotal, List.length_erase_of_mem present]
    have positive := List.length_pos_of_mem present
    omega
  · intro cpu priority
    rw [unlinkInactive_links]
    apply inactive.agreeOn_unlink
    intro other queued
    have notInactive : other ∉ view.inactive := by
      rw [lists.inactivePlace, (lists.queuePlace other cpu priority).mp queued]
      simp
    rw [inactiveList] at notInactive
    simp only [List.mem_append, List.mem_cons, not_or] at notInactive
    exact ⟨notInactive.1, notInactive.2.2⟩
  · exact unlinkInactive_allLinks state thread
  · exact unlinkInactive_all state thread
  · exact unlinkInactive_cpus state thread
  · intro other
    rw [lists.inactive.nodup.mem_erase_iff, lists.inactivePlace, View.setPlace_place]
    by_cases same : other = thread <;> simp [same]
  · intro cpu priority
    simp [place]

theorem linkInactive (lists : Lists state view) (place : view.place thread = .nowhere)
    (noPrev : (state.threads thread).prev = none) :
    Lists (linkInactive state thread) (view.enterInactive thread) := by
  have absent : thread ∉ view.inactive := by
    rw [lists.inactivePlace, place]
    simp
  have links : (Scheduler.linkInactive state thread).links =
      state.links.pushFront thread state.inactive.tail := by
    have cleared : state.links.setPrev thread none = state.links := by
      have self := Links.setPrev_self state.links thread
      rwa [show state.links.prev thread = none from noPrev] at self
    rw [linkInactive_links, Links.pushFront, cleared]
  apply changeInactive lists
  · rw [links, linkInactive_inactive]
    exact lists.inactive.pushFront absent
  · rw [linkInactive_inactive, lists.inactiveTotal]
    simp
  · intro cpu priority
    rw [links]
    apply Links.agreeOn_pushFront
    · rw [lists.queuePlace, place]
      simp
    · intro other queued isTail
      rw [lists.inactive.first_eq] at isTail
      have inactive := (lists.inactivePlace other).mp (List.mem_of_head? isTail)
      rw [(lists.queuePlace other cpu priority).mp queued] at inactive
      cases inactive
  · exact linkInactive_allLinks state thread
  · exact linkInactive_all state thread
  · exact linkInactive_cpus state thread
  · intro other
    rw [List.mem_cons, lists.inactivePlace, View.setPlace_place]
    by_cases same : other = thread <;> simp [same]
  · intro cpu priority
    simp [place]

/-! ## Run queues -/

/-- A step on one run queue. -/
theorem changeQueue (lists : Lists state view) {queue : TwoListQueue Address} {place : Place}
    (represents :
      ((after.cpus cpu).priorities priority).Represents after.links queue)
    (agreeInactive : state.links.AgreeOn after.links view.inactive)
    (agree : ∀ otherCpu otherPriority, ¬ (otherCpu = cpu ∧ otherPriority = priority) →
      state.links.AgreeOn after.links (view.queue otherCpu otherPriority).toList)
    (allLinks : after.allLinks = state.allLinks) (all : after.all = state.all)
    (inactive : after.inactive = state.inactive)
    (priorities : ∀ otherCpu otherPriority,
      ¬ (otherCpu = cpu ∧ otherPriority = priority) →
        (after.cpus otherCpu).priorities otherPriority =
          (state.cpus otherCpu).priorities otherPriority)
    (maskLength : ∀ otherCpu, (after.cpus otherCpu).priorityMask.length =
      (state.cpus otherCpu).priorityMask.length)
    (mask : ∀ otherCpu bit, BitArray.get (after.cpus otherCpu).priorityMask bit =
      if otherCpu = cpu ∧ bit = priority then decide (queue.active ≠ [])
      else BitArray.get (state.cpus otherCpu).priorityMask bit)
    (members : ∀ other, other ∈ queue.toList ↔
      (view.setPlace thread place).place other = .queued cpu priority)
    (before : view.place thread = .nowhere ∨ view.place thread = .queued cpu priority)
    (behind : place = .nowhere ∨ place = .queued cpu priority) :
    Lists after ((view.setPlace thread place).setQueue cpu priority queue) where
  all := by
    rw [allLinks, all]
    exact lists.all
  allTotal := by
    rw [all]
    exact lists.allTotal
  inactive := by
    rw [inactive]
    exact lists.inactive.congr agreeInactive
  inactiveTotal := by
    rw [inactive]
    exact lists.inactiveTotal
  queue otherCpu otherPriority := by
    rw [View.setQueue_queue]
    split
    · rename_i same
      rw [same.1, same.2]
      exact represents
    · rename_i different
      rw [priorities otherCpu otherPriority different]
      exact (lists.queue otherCpu otherPriority).congr
        (agree otherCpu otherPriority different)
  maskLength otherCpu := by
    rw [maskLength]
    exact lists.maskLength otherCpu
  mask otherCpu bit := by
    rw [mask, View.setQueue_queue]
    split
    · exact decide_eq_true_iff
    · exact lists.mask otherCpu bit
  inactivePlace other := by
    change other ∈ view.inactive ↔ (view.setPlace thread place).place other = _
    rw [lists.inactivePlace, View.setPlace_place]
    split
    · rename_i same
      rw [same]
      rcases before with before | before <;> rcases behind with behind | behind <;>
        simp [before, behind]
    · rfl
  queuePlace other otherCpu otherPriority := by
    change _ ↔ (view.setPlace thread place).place other = _
    rw [View.setQueue_queue]
    split
    · rename_i same
      rw [members, same.1, same.2]
    · rename_i different
      have otherPlace : Place.queued cpu priority ≠ .queued otherCpu otherPriority := by
        intro same
        cases same
        exact different ⟨rfl, rfl⟩
      change other ∈ (view.queue otherCpu otherPriority).toList ↔ _
      rw [lists.queuePlace, View.setPlace_place]
      split
      · rename_i same
        rw [same]
        rcases before with before | before <;> rcases behind with behind | behind <;>
          simp [before, behind, otherPlace]
      · rfl

/-- A thread of one run queue is in no other list. -/
theorem not_mem_inactive (lists : Lists state view)
    (queued : thread ∈ (view.queue cpu priority).toList) : thread ∉ view.inactive := by
  rw [lists.inactivePlace, (lists.queuePlace thread cpu priority).mp queued]
  simp

theorem not_mem_otherQueue (lists : Lists state view)
    (queued : thread ∈ (view.queue cpu priority).toList) {otherCpu otherPriority : Nat}
    (different : ¬ (otherCpu = cpu ∧ otherPriority = priority)) :
    thread ∉ (view.queue otherCpu otherPriority).toList := by
  rw [lists.queuePlace, (lists.queuePlace thread cpu priority).mp queued]
  intro same
  cases same
  exact different ⟨rfl, rfl⟩

/-- `add_expired` puts a thread into the run queue of its priority. -/
theorem addExpired (lists : Lists state view) (place : view.place thread = .nowhere)
    (realPriority : (state.threads thread).realPriority = priority)
    (inRange : priority < configSchedulerPriorities) :
    Lists (addExpired state cpu thread) (view.enqueue cpu priority thread) := by
  have notQueued : ∀ otherCpu otherPriority,
      thread ∉ (view.queue otherCpu otherPriority).toList := by
    intro otherCpu otherPriority
    rw [lists.queuePlace, place]
    simp
  have represents := lists.queue cpu priority
  have target : ∀ node, ((state.cpus cpu).priorities priority).pushTarget = some node →
      node ∈ (view.queue cpu priority).toList := fun node isTarget =>
    TwoListQueue.mem_toList.mpr (.inr (represents.mem_of_pushTarget isTarget))
  have active : ((view.queue cpu priority).push thread).active ≠ [] := by
    have filled := TwoListQueue.filled_push (view.queue cpu priority) thread
    rw [ne_eq, ← filled.toList_eq_nil_iff, TwoListQueue.toList_push]
    simp
  apply changeQueue lists
  · rw [addExpired_priorities, if_pos ⟨rfl, realPriority.symm⟩, addExpired_links, realPriority]
    exact represents.push (notQueued cpu priority)
  · rw [addExpired_links, realPriority]
    apply Links.agreeOn_pushBack
    · rw [lists.inactivePlace, place]
      simp
    · exact fun other inactive isTarget =>
        lists.not_mem_inactive (target other isTarget) inactive
  · intro otherCpu otherPriority different
    rw [addExpired_links, realPriority]
    apply Links.agreeOn_pushBack (notQueued otherCpu otherPriority)
    exact fun other queued isTarget =>
      lists.not_mem_otherQueue (target other isTarget) different queued
  · exact addExpired_allLinks state cpu thread
  · exact addExpired_all state cpu thread
  · exact addExpired_inactive state cpu thread
  · intro otherCpu otherPriority different
    rw [addExpired_priorities, realPriority, if_neg different]
  · intro otherCpu
    rw [addExpired_priorityMask]
    split
    · rename_i same
      rw [BitArray.set_length, same]
    · rfl
  · intro otherCpu bit
    rw [addExpired_priorityMask, realPriority]
    by_cases sameCpu : otherCpu = cpu
    · subst sameCpu
      rw [if_pos rfl, BitArray.get_set (lists.inMask inRange otherCpu)]
      by_cases sameBit : bit = priority <;> simp [sameBit, active]
    · simp [sameCpu]
  · intro other
    rw [TwoListQueue.toList_push, List.mem_append, List.mem_singleton, lists.queuePlace,
      View.setPlace_place]
    by_cases same : other = thread <;> simp [same]
  · exact .inl place
  · exact .inr rfl

/-- The removal in `do_pause_task` takes a thread out of its run queue. -/
theorem removeQueued (lists : Lists state view)
    (place : view.place thread = .queued cpu priority)
    (realPriority : (state.threads thread).realPriority = priority)
    (inRange : priority < configSchedulerPriorities) :
    Lists (removeQueued state cpu thread) (view.dequeue cpu priority thread) := by
  have queued := (lists.queuePlace thread cpu priority).mpr place
  have represents := lists.queue cpu priority
  have agree : ∀ others : List Address,
      (∀ other ∈ others, other ∉ (view.queue cpu priority).toList) →
        state.links.AgreeOn (state.links.unlink thread) others := by
    intro others elsewhere
    have notIn : ∀ other ∈ others, other ∉ (view.queue cpu priority).active ∧
        other ∉ (view.queue cpu priority).expired := fun other present =>
      not_or.mp fun member => elsewhere other present (TwoListQueue.mem_toList.mpr member)
    rcases TwoListQueue.mem_toList.mp queued with inList | inList
    · obtain ⟨front, back, list⟩ := List.append_of_mem inList
      have active := represents.active
      rw [list] at active
      apply active.agreeOn_unlink
      intro other present
      have absent := (notIn other present).1
      simp only [list, List.mem_append, List.mem_cons, not_or] at absent
      exact ⟨absent.1, absent.2.2⟩
    · obtain ⟨front, back, list⟩ := List.append_of_mem inList
      have expired := represents.expired
      rw [list] at expired
      apply expired.agreeOn_unlink
      intro other present
      have absent := (notIn other present).2
      simp only [list, List.mem_append, List.mem_cons, not_or] at absent
      exact ⟨absent.1, absent.2.2⟩
  have self : (state.links.unlink thread).next thread = state.links.next thread ∧
      (state.links.unlink thread).prev thread = state.links.prev thread := by
    rcases TwoListQueue.mem_toList.mp queued with inList | inList
    · obtain ⟨front, back, list⟩ := List.append_of_mem inList
      have active := represents.active
      rw [list] at active
      exact active.unlink_self
    · obtain ⟨front, back, list⟩ := List.append_of_mem inList
      have expired := represents.expired
      rw [list] at expired
      exact expired.unlink_self
  have removed := represents.remove queued
  have last : ((state.cpus cpu).priorities priority).totalThreads - 1 = 0 ↔
      ((view.queue cpu priority).remove thread).active = [] := by
    have zero := removed.totalThreads_eq_zero_iff
    simpa [CpuPriority.remove] using zero
  apply changeQueue lists
  · rw [removeQueued_priorities, if_pos ⟨rfl, realPriority.symm⟩, removeQueued_links, self.1,
      self.2]
    exact removed
  · rw [removeQueued_links]
    exact agree _ fun other inactive inQueue => lists.not_mem_inactive inQueue inactive
  · intro otherCpu otherPriority different
    rw [removeQueued_links]
    exact agree _ fun other present inQueue =>
      lists.not_mem_otherQueue inQueue different present
  · exact removeQueued_allLinks state cpu thread
  · exact removeQueued_all state cpu thread
  · exact removeQueued_inactive state cpu thread
  · intro otherCpu otherPriority different
    rw [removeQueued_priorities, realPriority, if_neg different]
  · intro otherCpu
    rw [removeQueued_priorityMask]
    split
    · rename_i same
      rw [BitArray.reset_length, same.1]
    · rfl
  · intro otherCpu bit
    rw [removeQueued_priorityMask, realPriority]
    have wasSet := (lists.mask cpu priority).mpr (by
      rw [ne_eq, ← represents.filled.toList_eq_nil_iff]
      exact List.ne_nil_of_mem queued)
    by_cases sameCpu : otherCpu = cpu
    · subst sameCpu
      simp only [true_and, last]
      split
      · rename_i noActive
        rw [BitArray.get_reset (lists.inMask inRange otherCpu)]
        by_cases sameBit : bit = priority <;> simp [sameBit, noActive]
      · rename_i someActive
        by_cases sameBit : bit = priority <;> simp [sameBit, someActive, wasSet]
    · simp [sameCpu]
  · intro other
    rw [TwoListQueue.mem_toList_remove represents.nodup, lists.queuePlace,
      View.setPlace_place]
    by_cases same : other = thread <;> simp [same]
  · exact .inr place
  · exact .inl rfl

/-- The rotation in the timer interrupt. -/
theorem rotate {rest : List Address} (lists : Lists state view)
    (active : (view.queue cpu (state.cpus cpu).currentPriority).active = thread :: rest)
    (samePriority : (state.threads thread).priority = (state.cpus cpu).currentPriority)
    (inRange : (state.cpus cpu).currentPriority < configSchedulerPriorities) :
    Lists (rotate state cpu thread) (view.rotate cpu (state.cpus cpu).currentPriority) := by
  generalize current : (state.cpus cpu).currentPriority = priority at *
  have represents := lists.queue cpu priority
  have queued : thread ∈ (view.queue cpu priority).toList :=
    TwoListQueue.mem_toList.mpr (.inl (by simp [active]))
  have place := (lists.queuePlace thread cpu priority).mp queued
  have keepPlace : view.setPlace thread (.queued cpu priority) = view := by
    rw [← place]
    simp [View.setPlace]
  have rotated := represents.rotate active
  have permuted := TwoListQueue.perm_rotate (view.queue cpu priority)
  have stillActive : (view.queue cpu priority).rotate.active ≠ [] :=
    represents.filled.rotate_active_ne_nil (by simp [active])
  have samePriority := samePriority.trans current.symm
  have priorities := rotate_priorities samePriority
  have links := rotate_links samePriority
  have masks := rotate_priorityMask samePriority (by
    rw [current]
    exact lists.inMask inRange cpu)
  rw [current] at priorities links masks
  have result : Lists (Scheduler.rotate state cpu thread)
      ((view.setPlace thread (.queued cpu priority)).setQueue cpu priority
        (view.queue cpu priority).rotate) := by
    apply changeQueue lists
    · rw [priorities, if_pos ⟨rfl, rfl⟩, links]
      exact rotated
    · rw [links]
      exact represents.agreeOn_rotateLinks active fun other inactive inQueue =>
        lists.not_mem_inactive inQueue inactive
    · intro otherCpu otherPriority different
      rw [links]
      exact represents.agreeOn_rotateLinks active fun other present inQueue =>
        lists.not_mem_otherQueue inQueue different present
    · exact rotate_allLinks
    · exact rotate_all
    · exact rotate_inactive
    · intro otherCpu otherPriority different
      rw [priorities, if_neg different]
    · exact rotate_priorityMask_length
    · intro otherCpu bit
      rw [masks]
      by_cases same : otherCpu = cpu ∧ bit = priority
      · simp [same, stillActive]
      · simp [same]
    · intro other
      rw [permuted.mem_iff, keepPlace, lists.queuePlace]
    · exact .inr place
    · exact .inr rfl
  rw [keepPlace] at result
  exact result

/-- The search in the priority mask. -/
theorem findMaskBsf_eq_some_iff (lists : Lists state view) :
    BitArray.findMaskBsf (state.cpus cpu).priorityMask = some priority ↔
      view.Highest cpu priority := by
  rw [BitArray.findMaskBsf_eq_some_iff, lists.mask]
  simp only [← Bool.not_eq_true, lists.mask, not_not]
  rfl

theorem exists_findMaskBsf (lists : Lists state view)
    (someActive : ∃ priority, (view.queue cpu priority).active ≠ []) :
    ∃ highest, BitArray.findMaskBsf (state.cpus cpu).priorityMask = some highest := by
  obtain ⟨priority, active⟩ := someActive
  rw [← lists.mask] at active
  rw [← Option.isSome_iff_exists, Option.isSome_iff_ne_none]
  intro noBit
  have unset := (BitArray.findMaskBsf_eq_none_iff _).mp noBit priority
  rw [active] at unset
  cases unset

end Lists
end Scheduler
end ToyKernel
