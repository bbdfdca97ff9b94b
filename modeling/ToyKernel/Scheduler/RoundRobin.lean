import ToyKernel.Library.RoundRobin
import ToyKernel.Scheduler.Counters
import ToyKernel.Scheduler.Quanta

/-!
# Round robin on one CPU

As long as no task is sent to a CPU whose current priority is the highest one, its
timer interrupts serve the queue of that priority round robin with a quantum of 10,
wherever the queue is split into active and expired threads.
-/

namespace ToyKernel
namespace Scheduler

/-- The stack of the current thread has not overrun. -/
def State.StackIntact (state : State) (cpu : Nat) : Prop :=
  ∀ thread stack,
    ((state.cpus cpu).priorities (state.cpus cpu).currentPriority).activeTail = some thread →
      (state.threads thread).stack = some stack → state.memory stack = stackOverrunMagic

/-- Whether a step is a timer interrupt of the CPU. -/
def Action.interrupts (cpu : Nat) : Action → Bool
  | .timer timerCpu => timerCpu = cpu
  | _ => false

/-- The step sends no task to the CPU, and a timer interrupt finds the stack intact. -/
def Undisturbed (platform : Platform) (cpu : Nat) (world : World) (action : Action) : Prop :=
  action.taskCpu platform world.state ≠ some cpu ∧
    (action.interrupts cpu = true → world.state.StackIntact cpu)

/-- What a round of timer interrupts leaves behind, given the queues before. -/
structure RoundDone (before after : State) (cpu : Nat) (queues : FifoQueues) : Prop where
  /-- The threads of the current priority ran for 11 ticks each, the others did not. -/
  served : ∀ thread ∈ queues cpu (before.cpus cpu).currentPriority,
    (after.threads thread).runTime = (before.threads thread).runTime + 11
  waiting : ∀ priority, priority ≠ (before.cpus cpu).currentPriority →
    ∀ thread ∈ queues cpu priority,
      (after.threads thread).runTime = (before.threads thread).runTime
  /-- The queues are in the same order. -/
  order : ∃ queues', after.RunQueues queues' ∧ queues' cpu = queues cpu
  /-- The same thread is current. -/
  currentPriority : (after.cpus cpu).currentPriority = (before.cpus cpu).currentPriority
  executing : (after.machines cpu).executing = (before.machines cpu).executing
  fsBase : (after.machines cpu).fsBase = (before.machines cpu).fsBase
  /-- Every thread has as much left of its quantum. -/
  quantum : ∀ priority, ∀ thread ∈ queues cpu priority,
    (after.threads thread).quantum = (before.threads thread).quantum

/-- The threads of a CPU are served as the elements of a round robin are. -/
structure Follows (start summary : Summary) (cpu priority : Nat) (robin : RoundRobin Address) :
    Prop where
  current : (summary.cpus cpu).currentPriority = priority
  loaded : (summary.cpus cpu).loadContext = false
  highest : summary.view.Highest cpu priority
  queue : summary.view.fifo cpu priority = robin.queue
  others : ∀ other, other ≠ priority → summary.view.fifo cpu other = start.view.fifo cpu other
  left : ∀ first rest, robin.queue = first :: rest →
    (summary.threads first).quantum = robin.left ∧
      ∀ thread ∈ rest, (summary.threads thread).quantum = 10
  waiting : ∀ other, other ≠ priority → ∀ thread ∈ summary.view.fifo cpu other,
    (summary.threads thread).quantum = (start.threads thread).quantum
  runTime : ∀ other, ∀ thread ∈ summary.view.fifo cpu other,
    (summary.threads thread).runTime =
      (start.threads thread).runTime + BitVec.ofNat 64 (robin.served thread)

/-- The stacks of the threads stay where they are, and the CPU does not panic. -/
structure Summary.KeepsStacks (before after : Summary) (cpu : Nat) : Prop where
  stack : ∀ thread, (after.threads thread).stack = (before.threads thread).stack
  panicked : (after.machines cpu).panicked = (before.machines cpu).panicked

namespace Summary.KeepsStacks

variable {summary : Summary} {cpu highest : Nat} {thread : Address}

theorem tick : summary.KeepsStacks (summary.tick thread) cpu := by
  refine ⟨fun other => ?_, rfl⟩
  rw [Summary.tick, setThread_threads]
  split
  · rename_i same
    rw [same]
  · rfl

theorem switch (thread2 : Address) :
    summary.KeepsStacks (summary.switch cpu thread thread2 highest) cpu := by
  constructor
  · intro other
    rw [switch_threads, rotate, setCpu_threads, setThread_threads]
    split
    · rename_i same
      rw [same]
    · rfl
  · simp only [Summary.switch]
    split
    · rfl
    · simp [Machine.run]

end Summary.KeepsStacks

namespace Follows

variable {platform : Platform} {state : State} {attached : Address → Bool}
  {start summary changed : Summary} {cpu priority : Nat} {robin : RoundRobin Address}
  {first : Address} {rest : List Address}

/-- The first thread of the queue is the current one. -/
theorem first_eq (follows : Follows start summary cpu priority robin)
    (refines : Refines state summary) : summary.first cpu = robin.queue.head? := by
  rw [Summary.first, follows.current, ← follows.queue, View.fifo,
    (refines.lists.queue cpu priority).filled.head?_toList]

/-- The queue of the current priority is not empty. -/
theorem exists_cons (follows : Follows start summary cpu priority robin) :
    ∃ first rest, robin.queue = first :: rest := by
  apply List.exists_cons_of_ne_nil
  rw [← follows.queue]
  exact List.append_ne_nil_of_left_ne_nil follows.highest.1 _

/-- A step that changes no thread of the CPU. -/
theorem keeps (follows : Follows start summary cpu priority robin)
    (keeps : summary.Keeps changed cpu) : Follows start changed cpu priority robin := by
  have sameFifo : ∀ other, changed.view.fifo cpu other = summary.view.fifo cpu other := by
    intro other
    rw [View.fifo, View.fifo, keeps.queue]
  have inQueue : ∀ thread, thread ∈ robin.queue → thread ∈ summary.view.fifo cpu priority := by
    intro thread queued
    rwa [follows.queue]
  exact
    { current := by rw [keeps.control, follows.current]
      loaded := by rw [keeps.control, follows.loaded]
      highest := by
        rw [View.Highest, keeps.queue]
        exact follows.highest
      queue := by rw [sameFifo, follows.queue]
      others := fun other different => by rw [sameFifo, follows.others other different]
      left := fun first rest isQueue => by
        have old := follows.left first rest isQueue
        rw [keeps.quantum priority first (inQueue first (by simp [isQueue]))]
        refine ⟨old.1, fun thread queued => ?_⟩
        rw [keeps.quantum priority thread (inQueue thread (by simp [isQueue, queued]))]
        exact old.2 thread queued
      waiting := fun other different thread queued => by
        rw [sameFifo] at queued
        rw [keeps.quantum other thread queued]
        exact follows.waiting other different thread queued
      runTime := fun other thread queued => by
        rw [sameFifo] at queued
        rw [keeps.runTime other thread queued]
        exact follows.runTime other thread queued }

/-- The threads behind the first one are other threads. -/
theorem not_mem_rest (follows : Follows start summary cpu priority robin)
    (refines : Refines state summary) (isQueue : robin.queue = first :: rest) :
    first ∉ rest := by
  have nodup := (refines.lists.queue cpu priority).nodup
  change (summary.view.fifo cpu priority).Nodup at nodup
  rw [follows.queue, isQueue] at nodup
  exact (List.nodup_cons.mp nodup).1

/-- The first thread waits in no other queue. -/
theorem not_mem_other (follows : Follows start summary cpu priority robin)
    (refines : Refines state summary) (invariant : Invariant platform attached summary)
    (isQueue : robin.queue = first :: rest) {other : Nat} (different : other ≠ priority) :
    first ∉ summary.view.fifo cpu other := by
  intro queued
  have inQueue : first ∈ summary.view.fifo cpu priority := by
    rw [follows.queue, isQueue]
    exact List.mem_cons_self
  have here := (invariant.of_queued refines.lists inQueue).2.2.2
  have there := (invariant.of_queued refines.lists queued).2.2.2
  exact different (there.symm.trans here)

/-- One tick more is counted. -/
theorem runTime_add (thread first : Address) (before after : BitVec 64)
    (served : Address → Nat) (counted : before = after + BitVec.ofNat 64 (served thread)) :
    (if thread = first then before + 1 else before) =
      after + BitVec.ofNat 64 (RoundRobin.serve served first 1 thread) := by
  rw [RoundRobin.serve]
  split
  · rw [counted, BitVec.ofNat_add, BitVec.add_assoc]
    rfl
  · exact counted

/-- A tick within a slice. -/
theorem tick (follows : Follows start summary cpu priority robin)
    (refines : Refines state summary) (invariant : Invariant platform attached summary)
    (isQueue : robin.queue = first :: rest) (remains : robin.left ≠ 0) :
    Follows start (summary.tick first) cpu priority (robin.tick 10) := by
  have behind := follows.not_mem_rest refines isQueue
  have old := follows.left first rest isQueue
  have ticked : robin.tick 10 =
      ⟨first :: rest, robin.left - 1, RoundRobin.serve robin.served first 1⟩ := by
    rw [RoundRobin.tick, isQueue]
    exact if_neg remains
  rw [ticked]
  exact
    { current := follows.current
      loaded := follows.loaded
      highest := follows.highest
      queue := follows.queue.trans isQueue
      others := follows.others
      left := fun _ _ same => by
        obtain ⟨rfl, rfl⟩ := List.cons.inj same
        refine ⟨by simp [Summary.tick, old.1], fun thread queued => ?_⟩
        have different : thread ≠ first := fun equal => behind (equal ▸ queued)
        simpa [Summary.tick, different] using old.2 thread queued
      waiting := fun other different thread queued => by
        have distinct : thread ≠ first := fun equal =>
          follows.not_mem_other refines invariant isQueue different (equal ▸ queued)
        simpa [Summary.tick, distinct] using follows.waiting other different thread queued
      runTime := fun other thread queued => by
        rw [← runTime_add thread first _ _ robin.served (follows.runTime other thread queued),
          Summary.tick, Summary.setThread_threads]
        split
        · rename_i same
          rw [same]
        · rfl }

/-- The tick that ends a slice. -/
theorem switch (follows : Follows start summary cpu priority robin)
    (refines : Refines state summary) (invariant : Invariant platform attached summary)
    (isQueue : robin.queue = first :: rest) (used : robin.left = 0) (thread2 : Address) :
    Follows start (summary.switch cpu first thread2 priority) cpu priority (robin.tick 10) := by
  have old := follows.left first rest isQueue
  have ticked : robin.tick 10 =
      ⟨rest ++ [first], 10, RoundRobin.serve robin.served first 1⟩ := by
    rw [RoundRobin.tick, isQueue]
    exact if_pos used
  have isFifo : summary.view.fifo cpu priority = first :: rest := follows.queue.trans isQueue
  have rotated : (summary.view.rotate cpu priority).fifo =
      summary.view.fifo.set cpu priority (rest ++ [first]) := by
    rw [View.fifo_rotate _ _ _ (refines.lists.queue cpu priority).filled, FifoQueues.moveFirst,
      isFifo]
  have full : ∀ thread ∈ rest ++ [first],
      ((summary.switch cpu first thread2 priority).threads thread).quantum = 10 := by
    intro thread queued
    rw [Summary.quantum_switch]
    split
    · rfl
    · rename_i different
      rw [List.mem_append, List.mem_singleton] at queued
      exact old.2 thread (queued.resolve_right different)
  rw [ticked]
  exact
    { current := by simp [Summary.rotate]
      loaded := by simp [Summary.rotate, follows.loaded]
      highest := by
        rw [Summary.switch_view]
        exact refines.highest_rotate follows.highest
      queue := by simp [follows.current, rotated, FifoQueues.set]
      others := fun other different => by
        simp [follows.current, rotated, FifoQueues.set, different,
          follows.others other different]
      left := fun head tail same => by
        change rest ++ [first] = head :: tail at same
        rw [same] at full
        exact ⟨full head List.mem_cons_self,
          fun thread queued => full thread (List.mem_cons_of_mem _ queued)⟩
      waiting := fun other different thread queued => by
        rw [Summary.switch_view, View.mem_fifo_rotate] at queued
        have distinct : thread ≠ first := fun equal =>
          follows.not_mem_other refines invariant isQueue different (equal ▸ queued)
        rw [Summary.quantum_switch, if_neg distinct]
        exact follows.waiting other different thread queued
      runTime := fun other thread queued => by
        rw [Summary.switch_view, View.mem_fifo_rotate] at queued
        rw [← runTime_add thread first _ _ robin.served (follows.runTime other thread queued),
          Summary.switch_threads, Summary.rotate, Summary.setCpu_threads,
          Summary.setThread_threads]
        split
        · rename_i same
          rw [same]
        · rfl }

/-- The timer interrupt of the CPU is a tick of the round robin. -/
theorem schedule (follows : Follows start summary cpu priority robin)
    (refines : Refines state summary) (invariant : Invariant platform attached summary)
    (intact : state.StackIntact cpu) :
    ∃ after scheduled, Scheduler.schedule state cpu = some after ∧ Refines after scheduled ∧
      Invariant platform attached scheduled ∧
      Follows start scheduled cpu priority (robin.tick 10) ∧
      summary.KeepsStacks scheduled cpu := by
  obtain ⟨first, rest, isQueue⟩ := follows.exists_cons
  have isFirst : summary.first cpu = some first := by
    rw [follows.first_eq refines, isQueue]
    rfl
  have inQueue : first ∈ summary.view.fifo cpu priority := by
    rw [follows.queue, isQueue]
    exact List.mem_cons_self
  have busy := Summary.busy_of_queued refines invariant inQueue
  obtain ⟨isAttached, running, -, realPriority⟩ := invariant.of_queued refines.lists inQueue
  have fits := invariant.threads first
  obtain ⟨stack, hasStack⟩ := Option.ne_none_iff_exists'.mp (fits.stack isAttached)
  have memory : state.memory stack = stackOverrunMagic := by
    apply intact first stack
    · rw [refines.first, isFirst]
    · rw [← ThreadData.core_stack, refines.thread, hasStack]
  have found := refines.lists.findMaskBsf_eq_some_iff.mpr follows.highest
  have quantum : (state.threads first).quantum = robin.left := by
    rw [← ThreadData.core_quantum, refines.thread, (follows.left first rest isQueue).1]
  by_cases used : robin.left = 0
  · have samePriority : (summary.threads first).priority = (summary.cpus cpu).currentPriority := by
      rw [← (fits.running isAttached running).1, realPriority, follows.current]
    have inRange : (summary.cpus cpu).currentPriority < configSchedulerPriorities := by
      rw [← samePriority]
      exact fits.priority isAttached
    obtain ⟨after, thread2, done, first2, refinesAfter⟩ :=
      refines.schedule_switched busy isFirst hasStack follows.loaded memory found
        (by simp [quantum, used]) samePriority inRange
    exact ⟨after, _, done, refinesAfter,
      invariant.schedule refines.lists busy isFirst
        (.switch thread2 priority follows.loaded follows.highest first2),
      follows.switch refines invariant isQueue used thread2, .switch thread2⟩
  · obtain ⟨after, done, refinesAfter⟩ :=
      refines.schedule_kept busy isFirst hasStack follows.loaded memory found
        ⟨Nat.le_of_eq follows.current, by rwa [quantum]⟩
    exact ⟨after, _, done, refinesAfter,
      invariant.schedule refines.lists busy isFirst (.tick follows.loaded),
      follows.tick refines invariant isQueue used, .tick⟩

/-- The timer interrupt of the CPU is a tick of the round robin. -/
theorem timerInterrupt (follows : Follows start summary cpu priority robin)
    (refines : Refines state summary) (invariant : Invariant platform attached summary)
    (intact : state.StackIntact cpu) :
    ∃ after summary', Scheduler.timerInterrupt platform state cpu = some after ∧
      Refines after summary' ∧ Invariant platform attached summary' ∧
      Follows start summary' cpu priority (robin.tick 10) ∧
      summary.KeepsStacks summary' cpu := by
  obtain ⟨middle, scheduled, done, refinesMiddle, invariantAfter, followsAfter, unmoved⟩ :=
    follows.schedule refines invariant intact
  simp only [Scheduler.timerInterrupt, done, Option.bind_eq_bind, Option.bind_some]
  split
  · exact ⟨middle, scheduled, rfl, refinesMiddle, invariantAfter, followsAfter, unmoved⟩
  · exact ⟨_, scheduled, rfl, handleTimer_refines refinesMiddle cpu, invariantAfter,
      followsAfter, unmoved⟩

/-- What holds after a run in which the CPU is not disturbed. -/
theorem of_trace {world after : World} {actions : List Action}
    (follows : Follows start summary cpu priority robin)
    (refines : Refines world.state summary)
    (invariant : Invariant platform world.attached summary)
    (trace : ((system platform).startedIn world).Trace (Undisturbed platform cpu) actions after) :
    ∃ summary', Refines after.state summary' ∧ Invariant platform after.attached summary' ∧
      Follows start summary' cpu priority
        ((RoundRobin.tick 10)^[actions.countP (·.interrupts cpu)] robin) := by
  induction trace with
  | start starts =>
      obtain rfl := starts
      exact ⟨summary, refines, invariant, follows⟩
  | @extend actions world next action _ allowed taken inductionHypothesis =>
      obtain ⟨summary', refinesWorld, invariantWorld, followsWorld⟩ := inductionHypothesis
      rw [List.countP_append, List.countP_singleton]
      by_cases ticks : action.interrupts cpu = true
      · have isTimer : action = .timer cpu := by
          cases action with
          | timer timerCpu => rw [of_decide_eq_true ticks]
          | _ => cases ticks
        subst isTimer
        obtain ⟨-, sameAttached, interrupted⟩ := World.step_timer taken
        obtain ⟨state, summary'', done, refinesNext, invariantNext, followsNext, -⟩ :=
          followsWorld.timerInterrupt refinesWorld invariantWorld (allowed.2 ticks)
        obtain rfl := Option.some.inj (done.symm.trans interrupted)
        rw [if_pos ticks, Function.iterate_succ_apply', sameAttached]
        exact ⟨summary'', refinesNext, invariantNext, followsNext⟩
      · obtain ⟨summary'', refinesNext, invariantNext, affects⟩ :=
          World.step_affects refinesWorld invariantWorld taken
        rw [if_neg ticks, Nat.add_zero]
        refine ⟨summary'', refinesNext, invariantNext, ?_⟩
        cases affects cpu with
        | keeps keeps => exact followsWorld.keeps keeps
        | resume thread sent => exact absurd sent allowed.1
        | deactivate thread selfHalt stop output highest sent => exact absurd sent allowed.1
        | timer => exact absurd (decide_eq_true rfl) ticks

/-- A CPU that has loaded a thread of the highest priority starts a round. -/
theorem initial (refines : Refines state summary) (quanta : summary.Quanta)
    (loaded : (summary.cpus cpu).loadContext = false)
    (highest : summary.view.Highest cpu (summary.cpus cpu).currentPriority)
    (isQueue : summary.view.fifo cpu (summary.cpus cpu).currentPriority = first :: rest) :
    Follows summary summary cpu (summary.cpus cpu).currentPriority
      ⟨first :: rest, (summary.threads first).quantum, fun _ => 0⟩ where
  current := rfl
  loaded := loaded
  highest := highest
  queue := isQueue
  others := fun _ _ => rfl
  left := fun head tail same => by
    obtain ⟨rfl, rfl⟩ := List.cons.inj same
    refine ⟨rfl, fun thread queued => ?_⟩
    have nodup := (refines.lists.queue cpu (summary.cpus cpu).currentPriority).nodup
    change (summary.view.fifo cpu _).Nodup at nodup
    rw [isQueue] at nodup
    apply (quanta cpu (summary.cpus cpu).currentPriority thread
      (by rw [isQueue]; exact List.mem_cons_of_mem _ queued)).2
    intro isFirst
    rw [Summary.first, ← (refines.lists.queue cpu _).filled.head?_toList] at isFirst
    change (summary.view.fifo cpu _).head? = _ at isFirst
    rw [isQueue] at isFirst
    exact (List.nodup_cons.mp nodup).1 (Option.some.inj isFirst ▸ queued)
  waiting := fun _ _ _ _ => rfl
  runTime := fun _ _ _ => by simp

end Follows

/-! ## A round -/

section Round

variable {platform : Platform} {before after : State} {attached attached' : Address → Bool}
  {start summary : Summary} {cpu priority : Nat} {robin : RoundRobin Address}

/-- The CPU executes the first thread of the round robin. -/
theorem executing_of_follows {state : State} (follows : Follows start summary cpu priority robin)
    (refines : Refines state summary) (invariant : Invariant platform attached summary) :
    (state.machines cpu).executing = robin.queue.head? ∧
      (state.machines cpu).fsBase = robin.queue.head? := by
  have fits := invariant.cpus cpu
  obtain ⟨first, rest, isQueue⟩ := follows.exists_cons
  have inQueue : first ∈ summary.view.fifo cpu priority := by
    rw [follows.queue, isQueue]
    exact List.mem_cons_self
  have busy := Summary.busy_of_queued refines invariant inQueue
  have executing : (summary.machines cpu).executing = robin.queue.head? := by
    rw [fits.executing, executes, if_pos ⟨busy, follows.loaded⟩]
    exact follows.first_eq refines
  rw [refines.machine]
  exact ⟨executing, fits.fsBase.trans executing⟩

/-- The queues of the CPU at the end of a round are those at its start. -/
theorem fifo_of_follows {served : Address → Nat} (started : Follows start start cpu priority robin)
    (follows : Follows start summary cpu priority { robin with served := served }) :
    summary.view.fifo cpu = start.view.fifo cpu := by
  funext other
  by_cases same : other = priority
  · rw [same, follows.queue, started.queue]
  · exact follows.others other same

theorem roundDone {queues : FifoQueues} (refines : Refines before start)
    (invariant : Invariant platform attached start) (refinesAfter : Refines after summary)
    (invariantAfter : Invariant platform attached' summary)
    (started : Follows start start cpu priority robin)
    (follows : Follows start summary cpu priority
      { robin with served := fun thread => 11 * robin.queue.count thread })
    (represents : before.RunQueues queues) : RoundDone before after cpu queues := by
  obtain rfl := refines.lists.runQueues_iff.mp represents
  have current : (before.cpus cpu).currentPriority = priority := by
    rw [refines.currentPriority, started.current]
  have currentAfter : (after.cpus cpu).currentPriority = priority := by
    rw [refinesAfter.currentPriority, follows.current]
  have sameFifo := fifo_of_follows started follows
  have runTime : ∀ other, ∀ thread ∈ start.view.fifo cpu other, (after.threads thread).runTime =
      (before.threads thread).runTime + BitVec.ofNat 64 (11 * robin.queue.count thread) := by
    intro other thread queued
    rw [← sameFifo] at queued
    rw [← ThreadData.core_runTime, refinesAfter.thread,
      ← ThreadData.core_runTime (before.threads _), refines.thread]
    exact follows.runTime other thread queued
  have quantum : ∀ other, ∀ thread ∈ start.view.fifo cpu other,
      (summary.threads thread).quantum = (start.threads thread).quantum := by
    intro other thread queued
    by_cases same : other = priority
    · rw [same, started.queue] at queued
      obtain ⟨first, rest, isQueue⟩ := started.exists_cons
      rw [isQueue, List.mem_cons] at queued
      rcases queued with rfl | behind
      · rw [(follows.left thread rest isQueue).1, (started.left thread rest isQueue).1]
      · rw [(follows.left first rest isQueue).2 thread behind,
          (started.left first rest isQueue).2 thread behind]
    · rw [← sameFifo] at queued
      exact follows.waiting other same thread queued
  obtain ⟨executing, fsBase⟩ := executing_of_follows started refines invariant
  obtain ⟨executingAfter, fsBaseAfter⟩ := executing_of_follows follows refinesAfter invariantAfter
  exact
    { served := fun thread queued => by
        have nodup := (refines.lists.queue cpu priority).nodup
        change (start.view.fifo cpu priority).Nodup at nodup
        rw [current] at queued
        rw [runTime priority thread queued]
        rw [started.queue] at queued nodup
        rw [List.count_eq_one_of_mem nodup queued]
        rfl
      waiting := fun other different thread queued => by
        rw [current] at different
        have absent : thread ∉ robin.queue := by
          intro inQueue
          rw [← started.queue] at inQueue
          have here := (invariant.of_queued refines.lists inQueue).2.2.2
          exact different ((invariant.of_queued refines.lists queued).2.2.2.symm.trans here)
        rw [runTime other thread queued, List.count_eq_zero_of_not_mem absent]
        exact BitVec.add_zero _
      order := ⟨_, refinesAfter.lists.runQueues_iff.mpr rfl, sameFifo⟩
      currentPriority := currentAfter.trans current.symm
      executing := executingAfter.trans executing.symm
      fsBase := fsBaseAfter.trans fsBase.symm
      quantum := fun other thread queued => by
        rw [← ThreadData.core_quantum, refinesAfter.thread,
          ← ThreadData.core_quantum (before.threads _), refines.thread]
        exact quantum other thread queued }

end Round

/-! ## Timer interrupts in a row -/

section Rows

variable {platform : Platform} {state after : State} {cpu : Nat}

/-- The timer interrupt writes to no stack. -/
theorem schedule_memory (done : schedule state cpu = some after) :
    after.memory = state.memory := by
  simp only [schedule] at done
  split at done
  · obtain rfl := Option.some.inj done
    rfl
  · obtain ⟨thread, -, done⟩ := Option.bind_eq_some_iff.mp done
    split at done
    · obtain rfl := Option.some.inj done
      rfl
    · obtain ⟨stack, -, done⟩ := Option.bind_eq_some_iff.mp done
      split at done
      · obtain rfl := Option.some.inj done
        rfl
      · obtain ⟨highest, -, done⟩ := Option.bind_eq_some_iff.mp done
        split at done
        · obtain rfl := Option.some.inj done
          rfl
        · obtain ⟨thread2, -, done⟩ := Option.bind_eq_some_iff.mp done
          have rotated := (OnlyLists.rotate (state.setThread thread
            fun data => { data with runTime := data.runTime + 1 }) cpu thread).memory
          split at done
          · obtain rfl := Option.some.inj done
            exact rotated
          · obtain rfl := Option.some.inj done
            exact rotated

theorem timerInterrupt_memory (done : timerInterrupt platform state cpu = some after) :
    after.memory = state.memory := by
  obtain ⟨middle, scheduled, done⟩ := Option.bind_eq_some_iff.mp done
  rw [← schedule_memory scheduled]
  split at done
  · obtain rfl := Option.some.inj done
    rfl
  · obtain rfl := Option.some.inj done
    simp only [handleTimer]
    split
    · split <;> rfl
    · split <;> rfl

/-- The CPU runs a round robin over threads whose stacks are intact. -/
structure CanTick (platform : Platform) (start : Summary) (cpu priority : Nat) (world : World) :
    Prop where
  runs : world.Runs platform cpu
  follows : ∃ summary robin, Refines world.state summary ∧
    Invariant platform world.attached summary ∧ Follows start summary cpu priority robin ∧
    ∀ thread ∈ robin.queue, ∀ stack, (summary.threads thread).stack = some stack →
      world.state.memory stack = stackOverrunMagic

namespace CanTick

variable {start : Summary} {priority : Nat} {world : World}

theorem step (canTick : CanTick platform start cpu priority world) :
    Undisturbed platform cpu world (.timer cpu) ∧
      ∃ next, world.step platform (.timer cpu) = some next ∧
        CanTick platform start cpu priority next := by
  obtain ⟨runs, summary, robin, refines, invariant, follows, stacksIntact⟩ := canTick
  have intact : world.state.StackIntact cpu := by
    intro thread stack activeTail hasStack
    rw [refines.first, follows.first_eq refines] at activeTail
    rw [← ThreadData.core_stack, refines.thread] at hasStack
    exact stacksIntact thread (List.mem_of_head? activeTail) stack hasStack
  obtain ⟨after, summary', done, refinesAfter, invariantAfter, followsAfter, unmoved⟩ :=
    follows.timerInterrupt refines invariant intact
  have performed : world.perform platform (.timer cpu) = some (after, world.attached) := by
    simp only [World.perform, if_pos runs, done, Option.bind_eq_bind, Option.bind_some]
  refine ⟨⟨by simp [Action.taskCpu, Action.target], fun _ => intact⟩,
    ⟨after, world.attached, world.capture platform (.timer cpu) after⟩, ?_, ?_⟩
  · simp only [World.step, performed, Option.bind_eq_bind, Option.bind_some]
  · refine ⟨⟨runs.1, ?_⟩, summary', _, refinesAfter, invariantAfter, followsAfter, ?_⟩
    · change (after.machines cpu).panicked = false
      rw [refinesAfter.machine, unmoved.panicked, ← refines.machine]
      exact runs.2
    · intro thread queued stack hasStack
      rw [RoundRobin.mem_queue_tick] at queued
      rw [unmoved.stack] at hasStack
      rw [timerInterrupt_memory done]
      exact stacksIntact thread queued stack hasStack

/-- Any number of timer interrupts can follow each other. -/
theorem exists_trace (canTick : CanTick platform start cpu priority world) (ticks : Nat) :
    ∃ after, ((system platform).startedIn world).Trace (Undisturbed platform cpu)
        (List.replicate ticks (.timer cpu)) after ∧
      CanTick platform start cpu priority after := by
  induction ticks with
  | zero => exact ⟨world, .start rfl, canTick⟩
  | succ ticks inductionHypothesis =>
      obtain ⟨middle, trace, canTickMiddle⟩ := inductionHypothesis
      obtain ⟨allowed, next, taken, canTickNext⟩ := canTickMiddle.step
      rw [List.replicate_succ']
      exact ⟨next, trace.extend allowed taken, canTickNext⟩

end CanTick

end Rows

/-- From every reachable state of a CPU that has loaded a thread of the highest priority,
every run that does not disturb the CPU and in which its timer interrupts make up a round
of 11 ticks for each thread of that priority serves each of them for 11 ticks and restores
the rest.  If the stacks of these threads are intact, the timer interrupts in a row are
such a run. -/
theorem roundDone_of_reachable (platform : Platform) {world : World} {cpu : Nat}
    {queues : FifoQueues} (reached : (system platform).Reachable world)
    (loaded : (world.state.cpus cpu).loadContext = false)
    (lowest : BitArray.findMaskBsf (world.state.cpus cpu).priorityMask =
      some (world.state.cpus cpu).currentPriority)
    (represents : world.state.RunQueues queues) :
    (∀ actions after,
      ((system platform).startedIn world).Trace (Undisturbed platform cpu) actions after →
      actions.countP (·.interrupts cpu) =
        11 * (queues cpu (world.state.cpus cpu).currentPriority).length →
      RoundDone world.state after.state cpu queues) ∧
    (world.Runs platform cpu →
      (∀ thread ∈ queues cpu (world.state.cpus cpu).currentPriority, ∀ stack,
        (world.state.threads thread).stack = some stack →
          world.state.memory stack = stackOverrunMagic) →
      ∃ after, ((system platform).startedIn world).Trace (Undisturbed platform cpu)
        (List.replicate (11 * (queues cpu (world.state.cpus cpu).currentPriority).length)
          (.timer cpu)) after) := by
  obtain ⟨summary, refines, invariant, quanta⟩ := quanta_of_reachable reached
  obtain rfl := refines.lists.runQueues_iff.mp represents
  rw [refines.loadContext] at loaded
  rw [refines.currentPriority] at lowest ⊢
  have highest := refines.lists.findMaskBsf_eq_some_iff.mp lowest
  obtain ⟨first, rest, isQueue⟩ := List.exists_cons_of_ne_nil
    (List.append_ne_nil_of_left_ne_nil highest.1
      (summary.view.queue cpu (summary.cpus cpu).currentPriority).expired)
  change summary.view.fifo cpu (summary.cpus cpu).currentPriority = first :: rest at isQueue
  have started := Follows.initial refines quanta loaded highest isQueue
  have atMost : (summary.threads first).quantum ≤ 10 := by
    apply (quanta cpu (summary.cpus cpu).currentPriority first ?_).1
    rw [isQueue]
    exact List.mem_cons_self
  have restored := RoundRobin.tick_iterate_round
    ⟨first :: rest, (summary.threads first).quantum, fun _ => 0⟩ atMost
  simp only [Nat.zero_add] at restored
  rw [isQueue]
  refine ⟨fun actions after trace ticks => ?_, fun runs intact => ?_⟩
  · obtain ⟨summary', refinesAfter, invariantAfter, follows⟩ :=
      started.of_trace refines invariant trace
    rw [ticks] at follows
    rw [restored] at follows
    exact roundDone refines invariant refinesAfter invariantAfter started follows represents
  · have canTick : CanTick platform summary cpu (summary.cpus cpu).currentPriority world := by
      refine ⟨runs, summary, _, refines, invariant, started, ?_⟩
      intro thread queued stack hasStack
      rw [← refines.thread, ThreadData.core_stack] at hasStack
      exact intact thread queued stack hasStack
    obtain ⟨after, trace, -⟩ := canTick.exists_trace (11 * (first :: rest).length)
    exact ⟨after, trace⟩

/-- CPU 1 has loaded one of two threads. -/
theorem roundDone_of_reachable_loaded :
    ∃ world queues, (system twoCpus).exec bootWorld
        [.attach 0 0x10000, .attach 0 0x20000, .resume 0 0x10000, .resume 0 0x10000000020000,
          .timer 1] = some world ∧
      world.state.RunQueues queues ∧
      (∀ actions after,
        ((system twoCpus).startedIn world).Trace (Undisturbed twoCpus 1) actions after →
        actions.countP (·.interrupts 1) =
          11 * (queues 1 (world.state.cpus 1).currentPriority).length →
        RoundDone world.state after.state 1 queues) ∧
      (world.Runs twoCpus 1 →
        (∀ thread ∈ queues 1 (world.state.cpus 1).currentPriority, ∀ stack,
          (world.state.threads thread).stack = some stack →
            world.state.memory stack = stackOverrunMagic) →
        ∃ after, ((system twoCpus).startedIn world).Trace (Undisturbed twoCpus 1)
          (List.replicate (11 * (queues 1 (world.state.cpus 1).currentPriority).length)
            (.timer 1)) after) := by
  obtain ⟨world, executed, checked⟩ := (Option.any_eq_true _ _).mp
    (show ((system twoCpus).exec bootWorld
      [.attach 0 0x10000, .attach 0 0x20000, .resume 0 0x10000, .resume 0 0x10000000020000,
        .timer 1]).any (fun world =>
          !(world.state.cpus 1).loadContext &&
            BitArray.findMaskBsf (world.state.cpus 1).priorityMask ==
              some (world.state.cpus 1).currentPriority) = true by decide +kernel)
  rw [Bool.and_eq_true, Bool.not_eq_true', beq_iff_eq] at checked
  have reached := TransitionSystem.reachable_of_exec bootWorld_initial executed
  obtain ⟨summary, refines, -⟩ := sound_of_reachable reached
  have represents := refines.lists.runQueues_iff.mpr rfl
  exact ⟨world, _, executed, represents,
    roundDone_of_reachable twoCpus reached checked.1 checked.2 represents⟩

end Scheduler
end ToyKernel
