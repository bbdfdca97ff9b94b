import ToyKernel.Interrupts.Frames
import ToyKernel.Library.Transition

/-!
# Processors that switch between threads

Any number of processors with one memory.  Each takes interrupts on a stack of its own, and what
the scheduler does to the registers of threads is what its handlers do to frames in memory.
-/

namespace ToyKernel
namespace Interrupts

open Amd64 ByteMemory
open Scheduler (rflagsIf)

/-! ## Contexts of threads -/

/-- `offsetof` for the fields of `struct thread_data` that the handlers use. -/
def contextOffset : Nat := 40

def stackOffset : Nat := 720

def stackSizeOffset : Nat := 728

/-- `&thread->context`. -/
def contextAt (thread : Address) : BitVec 64 :=
  thread + BitVec.ofNat 64 contextOffset

/-- The bytes from `context` to `stack_size`. -/
def threadArea : Nat := 696

/-- `thread->stack` and `thread->stack_size`. -/
def threadStack (memory : ByteMemory) (thread : Address) : BitVec 64 :=
  load 64 memory (thread + BitVec.ofNat 64 stackOffset)

def threadStackSize (memory : ByteMemory) (thread : Address) : BitVec 64 :=
  load 64 memory (thread + BitVec.ofNat 64 stackSizeOffset)

/-- `__load_thread_context`. -/
def loadThreadContext (memory : ByteMemory) (stackFrame context : BitVec 64) : ByteMemory :=
  copyFrame memory context stackFrame

/-- `__store_thread_context`. -/
def storeThreadContext (memory : ByteMemory) (stackFrame context : BitVec 64) : ByteMemory :=
  copyFrame memory stackFrame context

/-- `__store_halt`. -/
def storeHalt (halt : Address) (memory : ByteMemory) (stackFrame : BitVec 64) : ByteMemory :=
  assignMember memory stackFrame .rip halt

/-- `__store_int_enabled`. -/
def storeIntEnabled (memory : ByteMemory) (stackFrame : BitVec 64) : ByteMemory :=
  assignMember memory stackFrame .rflags ((readFrame memory stackFrame).rflags ||| rflagsIf)

/-- The assignments of `set_thread_context` to the context of the thread. -/
def assignContext (platform : Scheduler.Platform) (memory : ByteMemory)
    (context top proc input : BitVec 64) : ByteMemory :=
  let memory := assignMember memory context .rflags rflagsIf
  let memory := assignMember memory context .cs platform.segmentCode
  let memory := assignMember memory context .ss platform.segmentData
  let memory := assignMember memory context (.general .rsp) top
  let memory := assignMember memory context .rip proc
  assignMember memory context (.general .rdi) input

/-- `set_thread_context`. -/
def setThreadContext (platform : Scheduler.Platform) (memory : ByteMemory) (thread : Address)
    (proc input : BitVec 64) : ByteMemory × ErrCode :=
  if threadStack memory thread = 0 ∨
      threadStackSize memory thread < Scheduler.threadStackSizeMin then
    (memory, .errBadInput)
  else
    let memory := memory.store (threadStack memory thread) Scheduler.stackOverrunMagic
    let top := threadStack memory thread + threadStackSize memory thread - 8
    let memory := memory.store top platform.exitThread
    (assignContext platform memory (contextAt thread) top proc input, .errNone)

/-! ## What the scheduler sees of a context -/

/-- The bytes of a word, the lowest one first. -/
def bytesOf {width : Nat} (word : BitVec width) : List (BitVec 8) :=
  (List.range (width / 8)).map fun byte => word.extractLsb' (8 * byte) 8

/-- The registers that the scheduler only copies. -/
def copiedRegisters : List Register :=
  [.r15, .r14, .r13, .r12, .r11, .r10, .r9, .r8, .rsi, .rbp, .rdx, .rcx, .rbx, .rax]

/-- A context as a frame of the scheduler. -/
def view (context : Context) : Scheduler.IntStackFrame where
  rdi := context.general .rdi
  rip := context.rip
  cs := context.cs
  rflags := context.rflags
  rsp := context.general .rsp
  ss := context.ss
  others :=
    bytesOf context.fx ++
      copiedRegisters.flatMap fun register => bytesOf (context.general register)

theorem bytesOf_length {width : Nat} (word : BitVec width) :
    (bytesOf word).length = width / 8 := by
  rw [bytesOf, List.length_map, List.length_range]

theorem bytesOf_injective {width : Nat} (whole : width % 8 = 0) {word other : BitVec width}
    (same : bytesOf word = bytesOf other) : word = other := by
  apply BitVec.eq_of_getLsbD_eq
  intro bit inside
  have byte := List.map_inj_left.mp same (bit / 8) (List.mem_range.mpr (by omega))
  have bits := congrArg (BitVec.getLsbD · (bit % 8)) byte
  have small : bit % 8 < 8 := Nat.mod_lt bit (by decide)
  have together : 8 * (bit / 8) + bit % 8 = bit := by omega
  simpa [BitVec.getLsbD_extractLsb', small, together] using bits

/-- Equal lists of bytes of words are equal words. -/
theorem bytes_of_registers {general other : Register → BitVec 64} {registers : List Register}
    (same : registers.flatMap (fun register => bytesOf (general register)) =
      registers.flatMap fun register => bytesOf (other register)) :
    ∀ register ∈ registers, general register = other register := by
  induction registers with
  | nil => exact fun _ present => absurd present List.not_mem_nil
  | cons register registers inductionHypothesis =>
      rw [List.flatMap_cons, List.flatMap_cons] at same
      obtain ⟨first, rest⟩ := List.append_inj same (by rw [bytesOf_length, bytesOf_length])
      rintro another (_ | ⟨_, present⟩)
      · exact bytesOf_injective rfl first
      · exact inductionHypothesis rest another present

/-- Nothing of a context is lost. -/
theorem view_injective {context other : Context} (same : view context = view other) :
    context = other := by
  obtain ⟨rdi, rip, cs, rflags, rsp, ss, others⟩ := Scheduler.IntStackFrame.mk.inj same
  obtain ⟨fx, copied⟩ := List.append_inj others (by rw [bytesOf_length, bytesOf_length])
  refine Context.ext (funext fun register => ?_) (bytesOf_injective rfl fx) rip cs rflags ss
  by_cases isCopied : register ∈ copiedRegisters
  · exact bytes_of_registers copied register isCopied
  · cases register with
    | rdi => exact rdi
    | rsp => exact rsp
    | _ => exact absurd (by decide) isCopied

/-! ## The processors -/

/-- Where the stacks for interrupts and the data of threads are: no two of them have a byte in
common. -/
structure Layout where
  cpus : Nat
  stack : Nat → BitVec 64
  threads : List Address
  stacks_apart : ∀ cpu < cpus, ∀ other < cpus, cpu ≠ other →
    Apart (frameAt (stack cpu) - 8) (frameSize + 8) (frameAt (stack other) - 8) (frameSize + 8)
  threads_apart : ∀ thread ∈ threads, ∀ other ∈ threads, thread ≠ other →
    Apart (contextAt thread) threadArea (contextAt other) threadArea
  stacks_threads : ∀ cpu < cpus, ∀ thread ∈ threads,
    Apart (frameAt (stack cpu) - 8) (frameSize + 8) (contextAt thread) threadArea

/-- A handler that has been entered, with its first argument. -/
structure Handler where
  isr : Isr
  stackFrame : BitVec 64

/-- The memory and, for each processor, its registers and the handler that it is in. -/
structure Hardware where
  memory : ByteMemory
  contexts : Nat → Context
  handlers : Nat → Option Handler

/-- The steps; all but three of them are statements of handlers and of `set_thread_context`. -/
inductive Action
  | execute (cpu : Nat) (context : Context)
  | write (address : BitVec 64) (byte : BitVec 8)
  | interrupt (cpu : Nat) (isr : Isr) (errorCode : Option (BitVec 64))
  | loadContext (cpu : Nat) (thread : Address)
  | storeContext (cpu : Nat) (thread : Address)
  | storeHalt (cpu : Nat)
  | storeIntEnabled (cpu : Nat)
  | prepare (thread : Address) (stack stackSize : BitVec 64)
  | setContext (thread : Address) (proc input : BitVec 64)
  | leave (cpu : Nat)

namespace Hardware

/-- Bytes that belong neither to a frame in use nor to a thread. -/
def Free (layout : Layout) (hardware : Hardware) (address : BitVec 64) (count : Nat) : Prop :=
  (∀ cpu < layout.cpus, ∀ handler ∈ hardware.handlers cpu,
    Apart address count handler.stackFrame frameSize) ∧
  ∀ thread ∈ layout.threads, Apart address count (contextAt thread) threadArea

instance (layout : Layout) (hardware : Hardware) (address : BitVec 64) (count : Nat) :
    Decidable (hardware.Free layout address count) :=
  -- the list of threads, not all addresses
  @instDecidableAnd _ _ inferInstance (List.decidableBAll _ layout.threads)

/-- The registers of the code that runs on a processor outside its handlers. -/
def registers (hardware : Hardware) (cpu : Nat) : Context :=
  match hardware.handlers cpu with
  | none => hardware.contexts cpu
  | some handler => (readFrame hardware.memory handler.stackFrame).context

/-- The context of a thread. -/
def saved (hardware : Hardware) (thread : Address) : Context :=
  (readFrame hardware.memory (contextAt thread)).context

/-- A statement of the handler that a processor is in. -/
def inHandler (layout : Layout) (hardware : Hardware) (cpu : Nat)
    (statement : ByteMemory → BitVec 64 → ByteMemory) : Option Hardware :=
  if cpu < layout.cpus then
    (hardware.handlers cpu).map fun handler =>
      { hardware with memory := statement hardware.memory handler.stackFrame }
  else
    none

/-- One step. -/
def step (status : Status) (platform : Scheduler.Platform) (layout : Layout)
    (hardware : Hardware) : Action → Option Hardware
  | .execute cpu context =>
      -- the code of handlers does not enable interrupts
      if cpu < layout.cpus ∧
          ((hardware.handlers cpu).isSome → context.rflags &&& rflagsIf = 0) then
        some { hardware with contexts := Function.update hardware.contexts cpu context }
      else
        none
  | .write address byte =>
      if hardware.Free layout address 1 then
        some { hardware with memory := hardware.memory.store address byte }
      else
        none
  | .interrupt cpu isr errorCode =>
      if cpu < layout.cpus ∧ (hardware.handlers cpu = none ∨
          (hardware.contexts cpu).rflags &&& rflagsIf ≠ 0) then
        (enter status isr (layout.stack cpu) errorCode
            ⟨hardware.contexts cpu, hardware.memory⟩).map fun entered =>
          { memory := entered.memory
            contexts := Function.update hardware.contexts cpu entered.context
            handlers := Function.update hardware.handlers cpu
              (some ⟨isr, entered.context.general .rdi⟩) }
      else
        none
  | .loadContext cpu thread =>
      if thread ∈ layout.threads then
        hardware.inHandler layout cpu fun memory stackFrame =>
          loadThreadContext memory stackFrame (contextAt thread)
      else
        none
  | .storeContext cpu thread =>
      if thread ∈ layout.threads then
        hardware.inHandler layout cpu fun memory stackFrame =>
          storeThreadContext memory stackFrame (contextAt thread)
      else
        none
  | .storeHalt cpu =>
      hardware.inHandler layout cpu fun memory stackFrame =>
        storeHalt platform.halt memory stackFrame
  | .storeIntEnabled cpu => hardware.inHandler layout cpu storeIntEnabled
  | .prepare thread stack stackSize =>
      if thread ∈ layout.threads then
        let memory := hardware.memory.store (thread + BitVec.ofNat 64 stackOffset) stack
        let memory := memory.store (thread + BitVec.ofNat 64 stackSizeOffset) stackSize
        some { hardware with memory := memory }
      else
        none
  | .setContext thread proc input =>
      let stack := threadStack hardware.memory thread
      let top := stack + threadStackSize hardware.memory thread - 8
      -- the ends of a stack are no place for frames and threads
      if thread ∈ layout.threads ∧ hardware.Free layout stack 8 ∧ hardware.Free layout top 8 then
        some { hardware with
          memory := (setThreadContext platform hardware.memory thread proc input).1 }
      else
        none
  | .leave cpu =>
      match hardware.handlers cpu with
      | none => none
      | some handler =>
          -- the handler returns with the stack as it found it
          if cpu < layout.cpus ∧ (hardware.contexts cpu).general .rsp = handler.stackFrame then
            (leave status handler.isr ⟨hardware.contexts cpu, hardware.memory⟩).map fun final =>
              { memory := final.memory
                contexts := Function.update hardware.contexts cpu final.context
                handlers := Function.update hardware.handlers cpu none }
          else
            none

end Hardware

/-- The processors as a transition system; at first no handler runs. -/
def system (status : Status) (platform : Scheduler.Platform) (layout : Layout) :
    TransitionSystem Hardware Action where
  initial hardware := ∀ cpu, hardware.handlers cpu = none
  step := Hardware.step status platform layout

/-- A pointer as the scheduler sees it. -/
def pointer (word : BitVec 64) : Option Address :=
  if word = 0 then none else some word

/-- The operation of the scheduler that a step stands for. -/
def operation (platform : Scheduler.Platform) (hardware : Hardware) (state : Scheduler.State) :
    Action → Scheduler.State
  | .execute cpu context =>
      if hardware.handlers cpu = none then
        state.setMachine cpu ({ · with frame := view context })
      else
        state
  | .loadContext cpu thread => Scheduler.loadThreadContext state cpu thread
  | .storeContext cpu thread => Scheduler.storeThreadContext state cpu thread
  | .storeHalt cpu => Scheduler.storeHalt platform state cpu
  | .storeIntEnabled cpu => Scheduler.storeIntEnabled state cpu
  | .prepare thread stack stackSize =>
      state.setThread thread
        ({ · with stack := pointer stack, stackSize := stackSize })
  | .setContext thread proc input =>
      (Scheduler.setThreadContext platform state thread proc input).1
  | .write .. | .interrupt .. | .leave .. => state

/-- The operations of the scheduler that a run stands for. -/
def operations (status : Status) (platform : Scheduler.Platform) (layout : Layout) :
    Hardware → Scheduler.State → List Action → Scheduler.State
  | _, state, [] => state
  | hardware, state, action :: actions =>
      match Hardware.step status platform layout hardware action with
      | none => state
      | some next =>
          operations status platform layout next (operation platform hardware state action)
            actions

/-- The state of the scheduler says what is in memory and in the registers. -/
structure Represents (layout : Layout) (hardware : Hardware) (state : Scheduler.State) :
    Prop where
  registers : ∀ cpu < layout.cpus,
    (state.machines cpu).frame = view (hardware.registers cpu)
  contexts : ∀ thread ∈ layout.threads,
    (state.threads thread).context = view (hardware.saved thread)
  stack : ∀ thread ∈ layout.threads,
    (state.threads thread).stack = pointer (threadStack hardware.memory thread)
  stackSize : ∀ thread ∈ layout.threads,
    (state.threads thread).stackSize = threadStackSize hardware.memory thread

end Interrupts
end ToyKernel
