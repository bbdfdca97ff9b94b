import ToyKernel.Library.Transition
import ToyKernel.Scheduler.Calls

/-!
# Runs of the scheduler

The calls of the scheduler and the timer interrupts on any number of CPUs, each as
one atomic step, together with what the code around them does: prepare the data of
threads that are not attached, write to stacks, and change the registers of the
CPU it runs on.
-/

namespace ToyKernel
namespace Scheduler

/-- The scheduler with two histories: which threads are attached, and the registers
that each thread last had on a CPU, or was given before it first ran. -/
structure World where
  state : State
  attached : Address → Bool
  captured : Address → IntStackFrame

/-- The steps.  Calls and interrupts name the CPU on which they happen. -/
inductive Action
  | prepare (thread : Address) (data : ThreadData)
  | setContext (thread : Address) (proc input : BitVec 64)
  | store (address : Address) (word : BitVec 64)
  | execute (cpu : Nat) (frame : IntStackFrame)
  | setTimerTicks (cpu : Nat) (ticks : BitVec 64)
  | attach (cpu : Nat) (thread : Address)
  | detach (cpu : Nat) (id : BitVec 64)
  | resume (cpu : Nat) (id : BitVec 64)
  | pause (cpu : Nat) (id : BitVec 64)
  | stop (cpu : Nat) (id output : BitVec 64)
  | pauseThis (cpu : Nat) (lockToRelease : Option Address)
  | timer (cpu : Nat)

/-- Whether a thread that is taken off the CPU in this step halts itself. -/
def Action.selfHalts : Action → Nat → Bool
  | .pause caller _, cpu => caller = cpu
  | .stop caller _ _, cpu => caller = cpu
  | .pauseThis caller _, cpu => caller = cpu
  | _, _ => false

/-- Whether the step gives the thread the context with which it first runs. -/
def Action.prepares : Action → Address → Bool
  | .prepare target _, thread => target = thread
  | .setContext target _ _, thread => target = thread
  | _, _ => false

/-- The thread that a step pauses or stops. -/
def Action.target (state : State) : Action → Except ErrCode Address
  | .pause _ id => withStampId state id
  | .stop _ id _ => withStampId state id
  | .pauseThis cpu _ => withStampId state (getThread state cpu)
  | _ => .error .errNotFound

namespace World

/-- The CPU that executes a thread. -/
def executor (platform : Platform) (world : World) (thread : Address) : Option Nat :=
  (List.range platform.cpus).find? fun cpu =>
    (world.state.machines cpu).executing = some thread

/-- The registers of each thread at its last moment on a CPU, if this moment is the
step that leads to the given state. -/
def capture (platform : Platform) (world : World) (action : Action) (after : State)
    (thread : Address) : IntStackFrame :=
  if action.prepares thread then
    (after.threads thread).context
  else
    match world.executor platform thread with
    | some cpu => (world.state.machines cpu).interrupted (action.selfHalts cpu)
    | none => world.captured thread

/-- A CPU that executes instructions. -/
def Runs (platform : Platform) (world : World) (cpu : Nat) : Prop :=
  cpu < platform.cpus ∧ (world.state.machines cpu).panicked = false

instance (platform : Platform) (world : World) (cpu : Nat) :
    Decidable (world.Runs platform cpu) :=
  inferInstanceAs (Decidable (_ ∧ _))

/-- What a step does to the state and to the attached threads. -/
def perform (platform : Platform) (world : World) (action : Action) :
    Option (State × (Address → Bool)) :=
  match action with
  | .prepare thread data =>
      -- fields of an attached thread are not assigned, and nothing else has its magic
      if world.attached thread = false ∧ data.magic ≠ threadMagic then
        some (world.state.setThread thread fun _ => data, world.attached)
      else
        none
  | .setContext thread proc input =>
      if world.attached thread = false then
        some ((setThreadContext platform world.state thread proc input).1, world.attached)
      else
        none
  | .store address word =>
      some ({ world.state with memory := Function.update world.state.memory address word },
        world.attached)
  | .execute cpu frame =>
      if world.Runs platform cpu then
        some (world.state.setMachine cpu ({ · with frame := frame }), world.attached)
      else
        none
  | .setTimerTicks cpu ticks =>
      if world.Runs platform cpu then
        some ({ world.state with
          timerTicks := Function.update world.state.timerTicks cpu ticks }, world.attached)
      else
        none
  | .attach cpu thread =>
      if world.Runs platform cpu ∧ thread ≠ 0 then
        let (state, err, _) := attachThread platform world.state thread
        some (state,
          if err = .errNone then Function.update world.attached thread true
          else world.attached)
      else
        none
  | .detach cpu id =>
      if world.Runs platform cpu then
        let (state, _, thread) := detachThread world.state id
        some (state,
          match thread with
          | some thread => Function.update world.attached thread false
          | none => world.attached)
      else
        none
  | .resume cpu id =>
      if world.Runs platform cpu then do
        let (state, _) ← resumeThread platform world.state cpu id
        some (state, world.attached)
      else
        none
  | .pause cpu id =>
      if world.Runs platform cpu then do
        let (state, _) ← pauseThread platform world.state cpu id
        some (state, world.attached)
      else
        none
  | .stop cpu id output =>
      if world.Runs platform cpu then do
        let (state, _) ← stopThread platform world.state cpu id output
        some (state, world.attached)
      else
        none
  | .pauseThis cpu lockToRelease =>
      if world.Runs platform cpu then do
        let (state, _) ← pauseThisThread platform world.state cpu lockToRelease
        some (state, world.attached)
      else
        none
  | .timer cpu =>
      if world.Runs platform cpu then do
        let state ← timerInterrupt platform world.state cpu
        some (state, world.attached)
      else
        none

/-- One step. -/
def step (platform : Platform) (world : World) (action : Action) : Option World := do
  let (state, attached) ← world.perform platform action
  some { state := state, attached := attached, captured := world.capture platform action state }

end World

/-- `struct cpu_priority` before the first thread. -/
def CpuPriority.zero : CpuPriority := ⟨none, none, none, 0⟩

/-- `struct cpu_data` before the first thread. -/
def CpuData.zero : CpuData where
  totalThreads := 0
  currentPriority := 0
  priorities := fun _ => .zero
  priorityMask := List.replicate priorityMaskSize 0
  task := ⟨.resume, .errNone, none, none⟩
  loadContext := false

/-- The zero-initialised scheduler; no memory has the magic number of a thread. -/
structure World.Initial (world : World) : Prop where
  cpus : ∀ cpu, world.state.cpus cpu = .zero
  all : world.state.all = ⟨0, none⟩
  inactive : world.state.inactive = ⟨0, none⟩
  magic : ∀ thread, (world.state.threads thread).magic ≠ threadMagic
  machines : ∀ cpu, (world.state.machines cpu).fsBase = none ∧
    (world.state.machines cpu).executing = none ∧
    (world.state.machines cpu).panicked = false
  attached : ∀ thread, world.attached thread = false
  captured : ∀ thread, world.captured thread = (world.state.threads thread).context

/-- The scheduler as a transition system. -/
def system (platform : Platform) : TransitionSystem World Action where
  initial := World.Initial
  step := World.step platform

/-! ## What a step does -/

/-- What the steps do to the summary of a state and to the set of attached threads. -/
inductive Moves (platform : Platform) (state : State) (attached : Address → Bool)
    (summary : Summary) : Action → (Address → Bool) → Summary → Prop
  | stay {action : Action} : Moves platform state attached summary action attached summary
  | prepare {thread : Address} {data : ThreadData} :
      attached thread = false →
      data.magic ≠ threadMagic →
      Moves platform state attached summary (.prepare thread data) attached
        (summary.setThread thread data.core)
  | setContext {thread : Address} {proc input : BitVec 64} (context : IntStackFrame) :
      attached thread = false →
      Moves platform state attached summary (.setContext thread proc input) attached
        (summary.setThread thread { summary.threads thread with context := context })
  | execute {cpu : Nat} {frame : IntStackFrame} :
      Moves platform state attached summary (.execute cpu frame) attached
        (summary.setMachine cpu { summary.machines cpu with frame := frame })
  | attach {cpu : Nat} {thread : Address} (stamp : Nat) :
      attached thread = false →
      (summary.threads thread).priority < configSchedulerPriorities →
      (summary.threads thread).stack ≠ none →
      Moves platform state attached summary (.attach cpu thread)
        (Function.update attached thread true) (summary.attach thread stamp)
  | detach {cpu : Nat} {id : BitVec 64} (thread : Address) :
      attached thread = true →
      (summary.threads thread).state ≠ .running →
      Moves platform state attached summary (.detach cpu id)
        (Function.update attached thread false) (summary.detach thread)
  | resume {caller : Nat} {id : BitVec 64} (thread : Address) (cpu : Nat) :
      attached thread = true →
      (summary.threads thread).state = .paused →
      cpu < platform.cpus →
      Moves platform state attached summary (.resume caller id) attached
        (summary.resume thread cpu)
  | deactivate {action : Action} (thread : Address) (stop : Bool) (output : BitVec 64)
      (highest : Nat) :
      action.target state = .ok thread →
      attached thread = true →
      (summary.threads thread).state = .running →
      (summary.first (summary.threads thread).cpu = some thread →
        (summary.cpus (summary.threads thread).cpu).totalThreads - 1 ≠ 0 →
        (summary.dismiss thread highest).view.Highest (summary.threads thread).cpu highest) →
      Moves platform state attached summary action attached
        (summary.deactivate platform thread (action.selfHalts (summary.threads thread).cpu)
          stop output highest)
  | stop {action : Action} (thread : Address) (output : BitVec 64) :
      attached thread = true →
      (summary.threads thread).state = .paused →
      Moves platform state attached summary action attached (summary.stop thread output)
  | schedule {cpu : Nat} (thread : Address) (scheduled : Summary) :
      (summary.cpus cpu).totalThreads ≠ 0 →
      summary.first cpu = some thread →
      summary.Scheduled cpu thread scheduled →
      Moves platform state attached summary (.timer cpu) attached scheduled

section Moves

variable {platform : Platform} {state after : State} {summary : Summary}
  {attached : Address → Bool} {thread : Address} {caller cpu : Nat} {id output : BitVec 64}
  {err : ErrCode}

theorem attachThread_moves (refines : Refines state summary)
    (invariant : Invariant platform attached summary) (cpu : Nat) :
    ∃ summary', Refines (attachThread platform state thread).1 summary' ∧
      Moves platform state attached summary (.attach cpu thread)
        (if (attachThread platform state thread).2.1 = .errNone then
          Function.update attached thread true
        else attached) summary' := by
  by_cases accepted : checkAttach platform state thread = .errNone
  · obtain ⟨succeeded, unattached, refinesAfter⟩ :=
      attachThread_accepted refines invariant accepted
    obtain ⟨-, stack, priority⟩ := of_checkAttach accepted
    rw [← ThreadData.core_stack, refines.thread] at stack
    rw [← ThreadData.core_priority, refines.thread] at priority
    rw [if_pos succeeded]
    exact ⟨_, refinesAfter, .attach state.stamp unattached priority stack⟩
  · rw [attachThread_refused accepted, if_neg accepted]
    exact ⟨summary, refines, .stay⟩

theorem detachThread_moves (refines : Refines state summary)
    (invariant : Invariant platform attached summary) (cpu : Nat) :
    ∃ summary', Refines (detachThread state id).1 summary' ∧
      Moves platform state attached summary (.detach cpu id)
        (match (detachThread state id).2.2 with
        | some thread => Function.update attached thread false
        | none => attached) summary' := by
  cases found : withStampId state id with
  | error err =>
      simp only [detachThread, found]
      exact ⟨summary, refines, .stay⟩
  | ok thread =>
      by_cases idle : (summary.threads thread).state = .paused ∨
          (summary.threads thread).state = .stopped
      · obtain ⟨after, done, refinesAfter⟩ :=
          detachThread_accepted refines invariant found idle
        have isAttached := attached_of_withStampId refines invariant found
        have notRunning : (summary.threads thread).state ≠ .running := by
          rcases idle with paused | stopped
          · simp [paused]
          · simp [stopped]
        rw [done]
        exact ⟨_, refinesAfter, .detach thread isAttached notRunning⟩
      · rw [detachThread_refused refines found idle]
        exact ⟨summary, refines, .stay⟩

theorem resumeThread_moves (refines : Refines state summary)
    (invariant : Invariant platform attached summary)
    (done : resumeThread platform state caller id = some (after, err)) :
    ∃ summary', Refines after summary' ∧
      Moves platform state attached summary (.resume caller id) attached summary' := by
  obtain ⟨summary', refinesAfter, resumed⟩ := resumeThread_resumed refines invariant done
  refine ⟨summary', refinesAfter, ?_⟩
  cases resumed with
  | unknown => exact .stay
  | refused => exact .stay
  | resumed thread cpu found paused onPlatform =>
      exact .resume thread cpu (attached_of_withStampId refines invariant found) paused onPlatform

theorem deactivateThread_moves {action : Action} {stop : Bool}
    {lockToRelease : Option Address} (refines : Refines state summary)
    (invariant : Invariant platform attached summary)
    (target : action.target state = withStampId state id)
    (called : ∀ cpu, action.selfHalts cpu = decide (caller = cpu))
    (done : deactivateThread platform state caller stop id output lockToRelease =
      some (after, err)) :
    ∃ summary', Refines after summary' ∧
      Moves platform state attached summary action attached summary' := by
  obtain ⟨summary', refinesAfter, deactivated⟩ :=
    deactivateThread_deactivated refines invariant done
  refine ⟨summary', refinesAfter, ?_⟩
  cases deactivated with
  | unknown => exact .stay
  | refused => exact .stay
  | stopped thread found paused =>
      exact .stop thread output (attached_of_withStampId refines invariant found) paused
  | halted thread highest found running dismissed =>
      rw [← called]
      exact .deactivate thread stop output highest (target.trans found)
        (attached_of_withStampId refines invariant found) running dismissed

theorem timerInterrupt_moves (refines : Refines state summary)
    (invariant : Invariant platform attached summary)
    (done : timerInterrupt platform state cpu = some after) :
    ∃ summary', Refines after summary' ∧
      Moves platform state attached summary (.timer cpu) attached summary' := by
  obtain ⟨middle, summary', done', refinesAfter, ticked⟩ :=
    timerInterrupt_ticked refines invariant cpu
  obtain rfl := Option.some.inj (done.symm.trans done')
  refine ⟨summary', refinesAfter, ?_⟩
  cases ticked with
  | idle => exact .stay
  | busy thread scheduled busy first ended => exact .schedule thread _ busy first ended

theorem setThreadContext_moves {proc input : BitVec 64} (refines : Refines state summary)
    (unattached : attached thread = false) :
    ∃ summary', Refines (setThreadContext platform state thread proc input).1 summary' ∧
      Moves platform state attached summary (.setContext thread proc input) attached
        summary' := by
  simp only [setThreadContext]
  split
  · exact ⟨summary, refines, .stay⟩
  · rename_i stack _
    split
    · exact ⟨summary, refines, .stay⟩
    · have stored : Refines { state with
          memory := Function.update (Function.update state.memory stack stackOverrunMagic)
            (stack + (state.threads thread).stackSize - 8) platform.exitThread } summary :=
        refines.outside
      have changed : Refines (State.setThread _ thread
          fun data => { data with context := initialContext platform data stack proc input }) _ :=
        stored.setThread fun _ _ _ _ _ => rfl
      exact ⟨_, changed, .setContext _ unattached⟩

/-- Each step of the scheduler is one of the moves. -/
theorem perform_moves {world : World} {action : Action} {attached' : Address → Bool}
    (refines : Refines world.state summary)
    (invariant : Invariant platform world.attached summary)
    (taken : world.perform platform action = some (after, attached')) :
    ∃ summary', Refines after summary' ∧
      Moves platform world.state world.attached summary action attached' summary' := by
  have unlisted : ∀ thread, world.attached thread = false →
      thread ∉ summary.view.all ∧ summary.view.place thread = .nowhere := by
    intro thread unattached
    have fits := invariant.threads thread
    rw [fits.listed, fits.place, unattached]
    simp
  cases action with
  | store address word =>
      obtain ⟨rfl, rfl⟩ := Prod.mk.inj (Option.some.inj taken)
      exact ⟨summary, refines.outside, .stay⟩
  | prepare thread data =>
      obtain ⟨allowed, taken⟩ := Option.ite_none_right_eq_some.mp taken
      obtain ⟨rfl, rfl⟩ := Prod.mk.inj (Option.some.inj taken)
      obtain ⟨absent, unplaced⟩ := unlisted thread allowed.1
      exact ⟨_, refines.replace data unplaced absent, .prepare allowed.1 allowed.2⟩
  | setContext thread proc input =>
      obtain ⟨unattached, taken⟩ := Option.ite_none_right_eq_some.mp taken
      obtain ⟨rfl, rfl⟩ := Prod.mk.inj (Option.some.inj taken)
      exact setThreadContext_moves refines unattached
  | execute cpu frame =>
      obtain ⟨-, taken⟩ := Option.ite_none_right_eq_some.mp taken
      obtain ⟨rfl, rfl⟩ := Prod.mk.inj (Option.some.inj taken)
      have changed : Refines (world.state.setMachine cpu ({ · with frame := frame })) _ :=
        refines.setMachine rfl
      exact ⟨_, changed, .execute⟩
  | setTimerTicks cpu ticks =>
      obtain ⟨-, taken⟩ := Option.ite_none_right_eq_some.mp taken
      obtain ⟨rfl, rfl⟩ := Prod.mk.inj (Option.some.inj taken)
      exact ⟨summary, refines.outside, .stay⟩
  | attach cpu thread =>
      obtain ⟨-, taken⟩ := Option.ite_none_right_eq_some.mp taken
      obtain ⟨rfl, rfl⟩ := Prod.mk.inj (Option.some.inj taken)
      exact attachThread_moves refines invariant cpu
  | detach cpu id =>
      obtain ⟨-, taken⟩ := Option.ite_none_right_eq_some.mp taken
      obtain ⟨rfl, rfl⟩ := Prod.mk.inj (Option.some.inj taken)
      exact detachThread_moves refines invariant cpu
  | resume cpu id =>
      obtain ⟨-, taken⟩ := Option.ite_none_right_eq_some.mp taken
      obtain ⟨⟨state, err⟩, done, taken⟩ := Option.bind_eq_some_iff.mp taken
      obtain ⟨rfl, rfl⟩ := Prod.mk.inj (Option.some.inj taken)
      exact resumeThread_moves refines invariant done
  | pause cpu id =>
      obtain ⟨-, taken⟩ := Option.ite_none_right_eq_some.mp taken
      obtain ⟨⟨state, err⟩, done, taken⟩ := Option.bind_eq_some_iff.mp taken
      obtain ⟨rfl, rfl⟩ := Prod.mk.inj (Option.some.inj taken)
      exact deactivateThread_moves refines invariant rfl (fun _ => rfl) done
  | stop cpu id output =>
      obtain ⟨-, taken⟩ := Option.ite_none_right_eq_some.mp taken
      obtain ⟨⟨state, err⟩, done, taken⟩ := Option.bind_eq_some_iff.mp taken
      obtain ⟨rfl, rfl⟩ := Prod.mk.inj (Option.some.inj taken)
      exact deactivateThread_moves refines invariant rfl (fun _ => rfl) done
  | pauseThis cpu lockToRelease =>
      obtain ⟨-, taken⟩ := Option.ite_none_right_eq_some.mp taken
      obtain ⟨⟨state, err⟩, done, taken⟩ := Option.bind_eq_some_iff.mp taken
      obtain ⟨rfl, rfl⟩ := Prod.mk.inj (Option.some.inj taken)
      exact deactivateThread_moves refines invariant rfl (fun _ => rfl) done
  | timer cpu =>
      obtain ⟨-, taken⟩ := Option.ite_none_right_eq_some.mp taken
      obtain ⟨state, done, taken⟩ := Option.bind_eq_some_iff.mp taken
      obtain ⟨rfl, rfl⟩ := Prod.mk.inj (Option.some.inj taken)
      exact timerInterrupt_moves refines invariant done

theorem step_moves {world next : World} {action : Action}
    (refines : Refines world.state summary)
    (invariant : Invariant platform world.attached summary)
    (taken : world.step platform action = some next) :
    next.captured = world.capture platform action next.state ∧
    ∃ summary', Refines next.state summary' ∧
      Moves platform world.state world.attached summary action next.attached summary' := by
  obtain ⟨⟨state, attached⟩, done, taken⟩ := Option.bind_eq_some_iff.mp taken
  obtain rfl := Option.some.inj taken
  exact ⟨rfl, perform_moves refines invariant done⟩

end Moves

end Scheduler
end ToyKernel
