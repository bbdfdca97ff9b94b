import ToyKernel.Interrupts.Simulation

/-!
# Switching between threads

What the simulation says of whole runs: the scheduler's operations follow the registers of all
processors and threads, and a thread goes on with the registers with which it was interrupted.
-/

namespace ToyKernel
namespace Interrupts

open Amd64 ByteMemory

/-! ## What a step leaves alone -/

/-- The steps that change the frame of a processor, or end its use. -/
def Action.changesFrame (cpu : Nat) : Action → Bool
  | .storeContext other _ | .storeHalt other | .storeIntEnabled other | .leave other => other = cpu
  | _ => false

/-- The steps that change the context of a thread. -/
def Action.changesContext (thread : Address) : Action → Bool
  | .loadContext _ other | .setContext other _ _ => other = thread
  | _ => false

deriving instance Inhabited for ErrCode, Scheduler.ThreadState, Scheduler.TaskType,
  Scheduler.IntStackFrame, Scheduler.ThreadData, Scheduler.CpuPriority, Scheduler.CpuTask,
  Scheduler.CpuData, Scheduler.ThreadList, Scheduler.Machine, Scheduler.State

/-- A state of the scheduler that represents the processors. -/
def Hardware.observe (hardware : Hardware) : Scheduler.State :=
  { (default : Scheduler.State) with
    machines := fun cpu => { (default : Scheduler.Machine) with
      frame := view (hardware.registers cpu) }
    threads := fun thread => { (default : Scheduler.ThreadData) with
      context := view (hardware.saved thread)
      stack := pointer (threadStack hardware.memory thread)
      stackSize := threadStackSize hardware.memory thread } }

theorem observe_represents (layout : Layout) (hardware : Hardware) :
    Represents layout hardware hardware.observe :=
  ⟨fun _ _ => rfl, fun _ _ => rfl, fun _ _ => rfl, fun _ _ => rfl⟩

section Runs

variable {status : Status} {platform : Scheduler.Platform} {layout : Layout}
  {hardware next final : Hardware} {state : Scheduler.State} {action : Action}
  {actions : List Action} {cpu : Nat} {thread : Address}

/-- The invariant holds while no handler runs. -/
theorem consistent_of_initial (noHandlers : ∀ cpu, hardware.handlers cpu = none) :
    Consistent layout hardware := by
  refine ⟨fun cpu handler running => ?_, fun cpu handler running => ?_,
    fun cpu handler running => ?_⟩
  all_goals
    rw [noHandlers cpu] at running
    exact absurd running (Option.not_mem_none handler)

/-- The first step of a run. -/
theorem first_step
    (executed : (system status platform layout).exec hardware (action :: actions) = some final) :
    ∃ next, Hardware.step status platform layout hardware action = some next ∧
      (system status platform layout).exec next actions = some final :=
  TransitionSystem.exec_cons executed

theorem consistent_of_exec (consistent : Consistent layout hardware)
    (executed : (system status platform layout).exec hardware actions = some final) :
    Consistent layout final := by
  induction actions generalizing hardware with
  | nil => exact Option.some.inj executed ▸ consistent
  | cons action actions inductionHypothesis =>
      obtain ⟨next, taken, executed⟩ := first_step executed
      exact inductionHypothesis (consistent.step taken) executed

/-- In every run of the processors the registers of all of them, and the contexts of all threads,
are those that the operations of the scheduler compute. -/
theorem operations_represent (consistent : Consistent layout hardware)
    (represents : Represents layout hardware state)
    (executed : (system status platform layout).exec hardware actions = some final) :
    Represents layout final (operations status platform layout hardware state actions) := by
  induction actions generalizing hardware state with
  | nil => exact Option.some.inj executed ▸ represents
  | cons action actions inductionHypothesis =>
      obtain ⟨next, taken, executed⟩ := first_step executed
      simp only [operations, taken]
      exact inductionHypothesis (consistent.step taken) (represents.step consistent taken)
        executed

/-- A handler stays entered until it returns. -/
theorem handlers_of_step (consistent : Consistent layout hardware)
    (taken : Hardware.step status platform layout hardware action = some next)
    (quiet : action.changesFrame cpu = false) (running : (hardware.handlers cpu).isSome) :
    next.handlers cpu = hardware.handlers cpu := by
  cases action with
  | interrupt other isr errorCode =>
      obtain ⟨noHandler, -, entered, -, rfl⟩ := Hardware.interrupt_eq consistent taken
      refine Function.update_of_ne ?_ ..
      rintro rfl
      rw [noHandler] at running
      cases running
  | leave other =>
      obtain ⟨-, -, rfl⟩ := Hardware.leave_eq consistent taken
      exact Function.update_of_ne (Ne.symm (of_decide_eq_false quiet)) ..
  | execute | write | prepare | setContext =>
      obtain ⟨-, isNext⟩ := Option.ite_none_right_eq_some.mp taken
      exact (Option.some.inj isNext) ▸ rfl
  | loadContext | storeContext =>
      obtain ⟨-, taken⟩ := Option.ite_none_right_eq_some.mp taken
      obtain ⟨-, -, -, rfl⟩ := Hardware.inHandler_eq_some taken
      rfl
  | storeHalt | storeIntEnabled =>
      obtain ⟨-, -, -, rfl⟩ := Hardware.inHandler_eq_some taken
      rfl

/-- The operations that leave the frame of a processor alone. -/
theorem operation_frame (quiet : action.changesFrame cpu = false)
    (running : (hardware.handlers cpu).isSome) :
    ((operation platform hardware state action).machines cpu).frame =
      (state.machines cpu).frame := by
  cases action with
  | execute other context =>
      rw [operation]
      split
      · rename_i noHandler
        rw [Scheduler.State.setMachine_machines, if_neg]
        rintro rfl
        rw [noHandler] at running
        cases running
      · rfl
  | storeContext other | storeHalt other | storeIntEnabled other =>
      rw [operation]
      exact congrArg Scheduler.Machine.frame
        (Function.update_of_ne (Ne.symm (of_decide_eq_false quiet)) ..)
  | setContext thread proc input =>
      rw [operation, Scheduler.setThreadContext]
      split
      · rfl
      · split <;> rfl
  | _ => rfl

/-- The operations that leave the context of a thread alone. -/
theorem operation_context (quiet : action.changesContext thread = false) :
    ((operation platform hardware state action).threads thread).context =
      (state.threads thread).context := by
  cases action with
  | execute other context =>
      rw [operation]
      split <;> rfl
  | loadContext cpu other =>
      exact congrArg Scheduler.ThreadData.context
        (Function.update_of_ne (Ne.symm (of_decide_eq_false quiet)) ..)
  | prepare other stack stackSize =>
      rw [operation, Scheduler.State.setThread_threads]
      split <;> simp_all
  | setContext other proc input =>
      have different : thread ≠ other := Ne.symm (of_decide_eq_false quiet)
      rw [operation, Scheduler.setThreadContext]
      split
      · rfl
      · split
        · rfl
        · exact congrArg Scheduler.ThreadData.context (Function.update_of_ne different ..)
  | _ => rfl

/-- While a handler leaves its frame alone, it holds the interrupted processor. -/
theorem registers_of_exec (consistent : Consistent layout hardware) (inside : cpu < layout.cpus)
    (quiet : ∀ action ∈ actions, action.changesFrame cpu = false)
    (running : (hardware.handlers cpu).isSome)
    (executed : (system status platform layout).exec hardware actions = some final) :
    final.registers cpu = hardware.registers cpu ∧
      final.handlers cpu = hardware.handlers cpu := by
  induction actions generalizing hardware with
  | nil => exact Option.some.inj executed ▸ ⟨rfl, rfl⟩
  | cons action actions inductionHypothesis =>
      obtain ⟨next, taken, executed⟩ := first_step executed
      have head := quiet action List.mem_cons_self
      have handlers := handlers_of_step consistent taken head running
      have represents := (observe_represents layout hardware).step consistent taken
      have same : ((operation platform hardware hardware.observe action).machines cpu).frame =
          view (hardware.registers cpu) := operation_frame head running
      rw [represents.registers cpu inside] at same
      obtain ⟨registers, rest⟩ := inductionHypothesis (consistent.step taken)
        (fun later present => quiet later (List.mem_cons_of_mem _ present))
        (handlers ▸ running) executed
      exact ⟨registers.trans (view_injective same), rest.trans handlers⟩

/-- A context that is not assigned to stays. -/
theorem saved_of_exec (consistent : Consistent layout hardware)
    (present : thread ∈ layout.threads)
    (quiet : ∀ action ∈ actions, action.changesContext thread = false)
    (executed : (system status platform layout).exec hardware actions = some final) :
    final.saved thread = hardware.saved thread := by
  induction actions generalizing hardware with
  | nil => exact Option.some.inj executed ▸ rfl
  | cons action actions inductionHypothesis =>
      obtain ⟨next, taken, executed⟩ := first_step executed
      have represents := (observe_represents layout hardware).step consistent taken
      have same : ((operation platform hardware hardware.observe action).threads thread).context =
          view (hardware.saved thread) := operation_context (quiet action List.mem_cons_self)
      rw [represents.contexts thread present] at same
      exact (inductionHypothesis (consistent.step taken)
        (fun later isLater => quiet later (List.mem_cons_of_mem _ isLater)) executed).trans
          (view_injective same)

/-- A processor that takes up a thread goes on with the context of the thread as it was before,
whatever happened to other threads and on other processors. -/
theorem context_takenUp (away after : List Action) (consistent : Consistent layout hardware)
    (executed : (system status platform layout).exec hardware
      (away ++ .storeContext cpu thread :: after ++ [.leave cpu]) = some final)
    (notSaved : ∀ action ∈ away, action.changesContext thread = false)
    (notReplaced : ∀ action ∈ after, action.changesFrame cpu = false) :
    final.contexts cpu = hardware.saved thread := by
  rw [TransitionSystem.exec_append, TransitionSystem.exec_append] at executed
  obtain ⟨stored, executed, left⟩ := Option.bind_eq_some_iff.mp executed
  obtain ⟨waited, waiting, storing⟩ := Option.bind_eq_some_iff.mp executed
  have consistentWaited := consistent_of_exec consistent waiting
  -- the frame holds the context from the assignment to the frame on
  obtain ⟨replaced, taken, storing⟩ := first_step storing
  obtain ⟨present, handled⟩ := Option.ite_none_right_eq_some.mp taken
  obtain ⟨handler, isRunning, inside, isReplaced⟩ := Hardware.inHandler_eq_some handled
  have beforeStore := saved_of_exec consistent present notSaved waiting
  have atStore : replaced.registers cpu = waited.saved thread := by
    have same := ((observe_represents layout waited).step consistentWaited taken).registers
      cpu inside
    rw [operation, Scheduler.storeThreadContext, Scheduler.State.setMachine_machines,
      if_pos rfl] at same
    exact (view_injective same).symm
  have running : (replaced.handlers cpu).isSome := by
    rw [isReplaced]
    exact Option.isSome_of_mem isRunning
  have consistentReplaced := consistentWaited.step taken
  obtain ⟨beforeLeave, -⟩ := registers_of_exec consistentReplaced inside notReplaced running
    storing
  -- it is what the wrapper returns to
  obtain ⟨last, taken, isLast⟩ := first_step left
  obtain ⟨-, -, isLeft⟩ :=
    Hardware.leave_eq (consistent_of_exec consistentReplaced storing) taken
  rw [← Option.some.inj isLast, isLeft]
  dsimp only
  rw [Function.update_self, beforeLeave, atStore, beforeStore]

/-- A thread goes on as it was interrupted: whatever happens while its context is saved, the
processor that takes it up again, which may be another one, returns from its interrupt with every
register of the processor that the thread was taken off. -/
theorem thread_resumes {isr : Isr} {errorCode : Option (BitVec 64)} {another : Nat}
    (before away after : List Action) (consistent : Consistent layout hardware)
    (executed : (system status platform layout).exec hardware
      (.interrupt cpu isr errorCode :: before ++ .loadContext cpu thread :: (away ++
        .storeContext another thread :: after ++ [.leave another])) = some final)
    (notChanged : ∀ action ∈ before, action.changesFrame cpu = false)
    (notSaved : ∀ action ∈ away, action.changesContext thread = false)
    (notReplaced : ∀ action ∈ after, action.changesFrame another = false) :
    final.contexts another = hardware.contexts cpu := by
  rw [TransitionSystem.exec_append] at executed
  obtain ⟨waited, interrupting, loading⟩ := Option.bind_eq_some_iff.mp executed
  -- the frame holds the interrupted processor up to the assignment to the context
  obtain ⟨entered, taken, interrupting⟩ := first_step interrupting
  obtain ⟨noHandler, inside, machine, -, isEntered⟩ := Hardware.interrupt_eq consistent taken
  have running : (entered.handlers cpu).isSome := by
    rw [isEntered]
    dsimp only
    rw [Function.update_self]
    rfl
  have atEntry : entered.registers cpu = hardware.contexts cpu := by
    have same := ((observe_represents layout hardware).step consistent taken).registers cpu inside
    rw [← Hardware.registers_of_none noHandler]
    exact (view_injective same).symm
  have consistentEntered := consistent.step taken
  obtain ⟨beforeLoad, -⟩ := registers_of_exec consistentEntered inside notChanged running
    interrupting
  have consistentWaited := consistent_of_exec consistentEntered interrupting
  -- the context keeps it
  obtain ⟨saved, taken, loading⟩ := first_step loading
  have present : thread ∈ layout.threads := (Option.ite_none_right_eq_some.mp taken).1
  have atLoad : saved.saved thread = waited.registers cpu := by
    have same := ((observe_represents layout waited).step consistentWaited taken).contexts thread
      present
    rw [operation, Scheduler.loadThreadContext, Scheduler.State.setThread_threads,
      if_pos rfl] at same
    exact (view_injective same).symm
  rw [context_takenUp away after (consistentWaited.step taken) loading notSaved notReplaced,
    atLoad, beforeLoad, atEntry]

/-- The context that `set_thread_context` installs. -/
def startContext (platform : Scheduler.Platform) (old : Context) (top proc input : BitVec 64) :
    Context where
  general := Function.update (Function.update old.general .rsp top) .rdi input
  fx := old.fx
  rip := proc
  cs := platform.segmentCode
  rflags := Scheduler.rflagsIf
  ss := platform.segmentData

/-- What an accepted `set_thread_context` leaves in memory. -/
theorem setContext_saved {proc input : BitVec 64} (stack stackSize : BitVec 64)
    (isStack : threadStack hardware.memory thread = stack)
    (isSize : threadStackSize hardware.memory thread = stackSize)
    (accepted : stack ≠ 0 ∧ Scheduler.threadStackSizeMin ≤ stackSize)
    (taken : Hardware.step status platform layout hardware (.setContext thread proc input) =
      some next) :
    next.saved thread = startContext platform (hardware.saved thread) (stack + stackSize - 8)
        proc input ∧
      load 64 next.memory (stack + stackSize - 8) = platform.exitThread := by
  subst isStack isSize
  obtain ⟨⟨present, stackFree, topFree⟩, isNext⟩ := Option.ite_none_right_eq_some.mp taken
  obtain rfl := Option.some.inj isNext
  have good : ¬ (threadStack hardware.memory thread = 0 ∨
      threadStackSize hardware.memory thread < Scheduler.threadStackSizeMin) :=
    not_or.mpr ⟨accepted.1, BitVec.not_lt.mpr accepted.2⟩
  have kept : Kept hardware.memory
      ((hardware.memory.store (threadStack hardware.memory thread)
        Scheduler.stackOverrunMagic).store (threadStack hardware.memory thread +
          threadStackSize hardware.memory thread - 8) platform.exitThread)
      (contextAt thread) frameSize :=
    ((kept_store _ (stackFree.2 thread present)).trans
      (kept_store _ (topFree.2 thread present))).mono (by decide)
  rw [Hardware.saved, setThreadContext_eq platform (stackFree.2 thread present) good]
  refine ⟨?_, ?_⟩
  · rw [readFrame_assignContext, kept.frame]
    rfl
  · have apart := Layout.context_apart (topFree.2 thread present).symm (by decide) (by decide)
    refine (load_congr rfl (kept_assignContext platform _ proc input apart (by decide)
      (by decide))).trans ?_
    exact load_store rfl (by decide) ..

end Runs

/-! ## Two processors -/

/-- Two processors and one thread. -/
def twoStacks : Layout where
  cpus := 2
  stack cpu := if cpu = 0 then 0x201000 else 0x202000
  threads := [0x300000]
  stacks_apart := by decide +kernel
  threads_apart := by simp
  stacks_threads := by
    simp only [List.forall_mem_singleton]
    decide +kernel

def somePlatform : Scheduler.Platform where
  halt := 0x103000
  exitThread := 0x104000
  segmentCode := 8
  segmentData := 16
  cpus := 2
  bspCpu := 0

/-- A thread runs on the first processor, and the second one halts. -/
def running : Hardware where
  memory _ := 0
  contexts cpu := someContext (if cpu = 0 then 0x400123 else somePlatform.halt)
  handlers _ := none

/-- The registers of a handler that has returned. -/
def returned (stack : BitVec 64) : Context where
  general := Function.update (fun _ => 0) .rsp (frameAt stack)
  fx := 0
  rip := someIsr.behind
  cs := 8
  rflags := 0
  ss := 16

/-- The first processor saves a thread. -/
def saving : List Action :=
  [.interrupt 0 someIsr none, .loadContext 0 0x300000]

/-- The second processor takes it up. -/
def takingUp : List Action :=
  [.interrupt 1 someIsr none, .storeContext 1 0x300000, .execute 1 (returned 0x202000), .leave 1]

theorem thread_resumes_onOther : ∃ final,
    (system keepFlags somePlatform twoStacks).exec running (saving ++ takingUp) = some final ∧
      final.contexts 1 = running.contexts 0 := by
  obtain ⟨final, executed⟩ := Option.isSome_iff_exists.mp
    (show ((system keepFlags somePlatform twoStacks).exec running
      (saving ++ takingUp)).isSome = true by decide +kernel)
  exact ⟨final, executed, thread_resumes [] [.interrupt 1 someIsr none]
    [.execute 1 (returned 0x202000)] (consistent_of_initial fun _ => rfl) executed
    (by decide) (by decide) (by decide)⟩

/-- The same run with the operations of the scheduler beside it. -/
theorem operations_represent_onOther : ∃ final,
    (system keepFlags somePlatform twoStacks).exec running (saving ++ takingUp) = some final ∧
      Represents twoStacks final (operations keepFlags somePlatform twoStacks running
        running.observe (saving ++ takingUp)) := by
  obtain ⟨final, executed⟩ := Option.isSome_iff_exists.mp
    (show ((system keepFlags somePlatform twoStacks).exec running
      (saving ++ takingUp)).isSome = true by decide +kernel)
  exact ⟨final, executed, operations_represent (consistent_of_initial fun _ => rfl)
    (observe_represents twoStacks running) executed⟩

end Interrupts
end ToyKernel
