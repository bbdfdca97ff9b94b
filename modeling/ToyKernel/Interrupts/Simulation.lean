import ToyKernel.Interrupts.Contexts
import ToyKernel.Scheduler.Fields

/-!
# The scheduler sees the registers

Every run of the processors, byte by byte, does to the registers of processors and threads what
the scheduler's operations do to frames that are values.
-/

namespace ToyKernel
namespace Interrupts

open Amd64 ByteMemory
open Scheduler (rflagsIf)
open Scheduler.State

/-! ## Bytes that stay -/

/-- The same bytes before and after. -/
def Kept (memory other : ByteMemory) (base : BitVec 64) (count : Nat) : Prop :=
  ∀ offset < count, other (base + BitVec.ofNat 64 offset) = memory (base + BitVec.ofNat 64 offset)

section Kept

variable {memory other last : ByteMemory} {base address : BitVec 64} {count others : Nat}
  {thread : Address}

theorem Kept.trans (first : Kept memory other base count) (second : Kept other last base count) :
    Kept memory last base count :=
  fun offset inside => (second offset inside).trans (first offset inside)

theorem Kept.mono {part : Nat} (kept : Kept memory other base count) (fewer : part ≤ count) :
    Kept memory other base part :=
  fun offset inside => kept offset (by omega)

theorem Kept.frame (kept : Kept memory other base frameSize) :
    readFrame other base = readFrame memory base :=
  readFrame_congr kept

theorem kept_store {width : Nat} (word : BitVec width)
    (apart : Apart address (width / 8) base count) :
    Kept memory (memory.store address word) base count :=
  fun _ inside => store_of_apart word apart inside

theorem kept_copyFrame {src : BitVec 64} (apart : Apart address frameSize base count) :
    Kept memory (copyFrame memory address src) base count :=
  fun _ inside => copy_of_apart apart inside

theorem kept_assignMember (member : Member) (value : BitVec member.width)
    (apart : Apart address frameSize base count) (small : count < 2 ^ 64) (positive : 0 < count) :
    Kept memory (assignMember memory address member value) base count :=
  kept_store value (member.apart apart small positive)

theorem kept_assignContext (platform : Scheduler.Platform) (top proc input : BitVec 64)
    (apart : Apart address frameSize base count) (small : count < 2 ^ 64) (positive : 0 < count) :
    Kept memory (assignContext platform memory address top proc input) base count :=
  ((((kept_assignMember .rflags _ apart small positive).trans
    (kept_assignMember .cs _ apart small positive)).trans
    (kept_assignMember .ss _ apart small positive)).trans
    (kept_assignMember (.general .rsp) _ apart small positive)).trans
    ((kept_assignMember .rip _ apart small positive).trans
    (kept_assignMember (.general .rdi) _ apart small positive))

/-- A word of the data of a thread. -/
theorem Kept.threadWord {offset : Nat} (kept : Kept memory other (contextAt thread) threadArea)
    (inside : contextOffset ≤ offset ∧ offset + 8 ≤ contextOffset + threadArea) :
    load 64 other (thread + BitVec.ofNat 64 offset) =
      load 64 memory (thread + BitVec.ofNat 64 offset) := by
  refine load_congr rfl fun byte below => ?_
  have position : thread + BitVec.ofNat 64 offset + BitVec.ofNat 64 byte =
      contextAt thread + BitVec.ofNat 64 (offset - contextOffset + byte) := by
    rw [contextAt, add_assoc, add_assoc, ← BitVec.ofNat_add, ← BitVec.ofNat_add]
    congr 2
    omega
  rw [position]
  exact kept _ (by omega)

theorem Kept.threadStack (kept : Kept memory other (contextAt thread) threadArea) :
    Interrupts.threadStack other thread = Interrupts.threadStack memory thread :=
  kept.threadWord (by decide)

theorem Kept.threadStackSize (kept : Kept memory other (contextAt thread) threadArea) :
    Interrupts.threadStackSize other thread = Interrupts.threadStackSize memory thread :=
  kept.threadWord (by decide)

end Kept

/-- `set_thread_context` assigns to the context only. -/
theorem load_assignContext (platform : Scheduler.Platform) (memory : ByteMemory)
    (thread top proc input : BitVec 64) {offset : Nat}
    (behind : contextOffset + frameSize ≤ offset ∧ offset + 8 ≤ 2 ^ 64) :
    load 64 (assignContext platform memory (contextAt thread) top proc input)
      (thread + BitVec.ofNat 64 offset) = load 64 memory (thread + BitVec.ofNat 64 offset) :=
  load_congr rfl (kept_assignContext platform top proc input
    (apart_offsets thread behind.1 behind.2 (by decide) (by decide)) (by decide) (by decide))

theorem threadStack_assignContext (platform : Scheduler.Platform) (memory : ByteMemory)
    (thread top proc input : BitVec 64) :
    threadStack (assignContext platform memory (contextAt thread) top proc input) thread =
      threadStack memory thread :=
  load_assignContext platform memory thread top proc input (by decide)

theorem threadStackSize_assignContext (platform : Scheduler.Platform) (memory : ByteMemory)
    (thread top proc input : BitVec 64) :
    threadStackSize (assignContext platform memory (contextAt thread) top proc input) thread =
      threadStackSize memory thread :=
  load_assignContext platform memory thread top proc input (by decide)

/-- What `set_thread_context` makes of a frame. -/
theorem readFrame_assignContext (platform : Scheduler.Platform) (memory : ByteMemory)
    (base top proc input : BitVec 64) :
    readFrame (assignContext platform memory base top proc input) base =
      { readFrame memory base with
        general := Function.update
          (Function.update (readFrame memory base).general .rsp top) .rdi input
        rip := proc
        cs := platform.segmentCode
        rflags := rflagsIf
        ss := platform.segmentData } := by
  unfold assignContext
  simp only [readFrame_assignMember]
  rfl

/-! ## Areas of a layout -/

namespace Layout

variable {layout : Layout} {cpu other : Nat} {thread another : Address}

/-- A frame is inside the area of an interrupt. -/
theorem frame_apart {address : BitVec 64} {count : Nat} {stack : BitVec 64}
    (apart : Apart (frameAt stack - 8) (frameSize + 8) address count) (small : count < 2 ^ 64)
    (positive : 0 < count) : Apart (frameAt stack) frameSize address count := by
  have within : Apart (frameAt stack - 8 + BitVec.ofNat 64 8) frameSize
      (address + BitVec.ofNat 64 0) count :=
    apart.within (by omega) (by omega) (by decide) small (by decide) positive
  simpa using within

theorem frame_frame (layout : Layout) (inside : cpu < layout.cpus)
    (alsoInside : other < layout.cpus)
    (different : cpu ≠ other) :
    Apart (frameAt (layout.stack cpu) - 8) (frameSize + 8) (frameAt (layout.stack other))
      frameSize :=
  (frame_apart (layout.stacks_apart other alsoInside cpu inside different.symm) (by decide)
    (by decide)).symm

theorem frame_thread (layout : Layout) (inside : cpu < layout.cpus)
    (present : thread ∈ layout.threads) :
    Apart (frameAt (layout.stack cpu)) frameSize (contextAt thread) threadArea :=
  frame_apart (layout.stacks_threads cpu inside thread present) (by decide) (by decide)

/-- A context is inside the area of its thread. -/
theorem context_apart {address : BitVec 64} {count : Nat}
    (apart : Apart (contextAt thread) threadArea address count) (small : count < 2 ^ 64)
    (positive : 0 < count) : Apart (contextAt thread) frameSize address count := by
  have within : Apart (contextAt thread + BitVec.ofNat 64 0) frameSize
      (address + BitVec.ofNat 64 0) count :=
    apart.within (by decide) (by omega) (by decide) small (by decide) positive
  simpa using within

/-- The words behind the context are in the area of the thread. -/
theorem word_apart {address : BitVec 64} {count offset : Nat}
    (apart : Apart (contextAt thread) threadArea address count)
    (isWord : contextOffset ≤ offset ∧ offset + 8 ≤ contextOffset + threadArea)
    (small : count < 2 ^ 64) (positive : 0 < count) :
    Apart (thread + BitVec.ofNat 64 offset) 8 address count := by
  have within : Apart (contextAt thread + BitVec.ofNat 64 (offset - contextOffset)) 8
      (address + BitVec.ofNat 64 0) count :=
    apart.within (by omega) (by omega) (by decide) small (by decide) positive
  have position : contextAt thread + BitVec.ofNat 64 (offset - contextOffset) =
      thread + BitVec.ofNat 64 offset := by
    rw [contextAt, add_assoc, ← BitVec.ofNat_add, Nat.add_sub_cancel' isWord.1]
  rw [position] at within
  simpa using within

end Layout

/-! ## The invariant -/

/-- A handler works on the frame of its processor, with interrupts masked. -/
structure Consistent (layout : Layout) (hardware : Hardware) : Prop where
  inside : ∀ cpu, ∀ handler ∈ hardware.handlers cpu, cpu < layout.cpus
  stackFrame : ∀ cpu, ∀ handler ∈ hardware.handlers cpu,
    handler.stackFrame = frameAt (layout.stack cpu)
  masked : ∀ cpu, ∀ handler ∈ hardware.handlers cpu,
    (hardware.contexts cpu).rflags &&& rflagsIf = 0

section Represents

variable {status : Status} {platform : Scheduler.Platform} {layout : Layout}
  {hardware next : Hardware} {state : Scheduler.State} {cpu : Nat} {thread : Address}
  {handler : Handler} {memory : ByteMemory}

theorem Hardware.registers_of_none (noHandler : hardware.handlers cpu = none) :
    hardware.registers cpu = hardware.contexts cpu := by
  rw [Hardware.registers, noHandler]

theorem Hardware.registers_of_mem (running : handler ∈ hardware.handlers cpu) :
    hardware.registers cpu = (readFrame hardware.memory handler.stackFrame).context := by
  rw [Hardware.registers, Option.mem_def.mp running]

/-- Registers stay if the frame in use stays. -/
theorem Hardware.registers_congr (sameHandler : next.handlers cpu = hardware.handlers cpu)
    (sameContext : next.contexts cpu = hardware.contexts cpu)
    (kept : ∀ handler ∈ hardware.handlers cpu,
      Kept hardware.memory next.memory handler.stackFrame frameSize) :
    next.registers cpu = hardware.registers cpu := by
  cases noHandler : hardware.handlers cpu with
  | none =>
      rw [registers_of_none noHandler, registers_of_none (sameHandler.trans noHandler),
        sameContext]
  | some handler =>
      rw [registers_of_mem noHandler, registers_of_mem (sameHandler.trans noHandler),
        (kept handler noHandler).frame]

theorem Hardware.saved_congr
    (kept : Kept hardware.memory next.memory (contextAt thread) threadArea) :
    next.saved thread = hardware.saved thread := by
  rw [saved, saved, (kept.mono (by decide : frameSize ≤ _)).frame]

theorem Hardware.registers_withMemory (kept : ∀ handler ∈ hardware.handlers cpu,
    Kept hardware.memory memory handler.stackFrame frameSize) :
    ({ hardware with memory := memory } : Hardware).registers cpu = hardware.registers cpu :=
  registers_congr rfl rfl kept

theorem Hardware.saved_withMemory
    (kept : Kept hardware.memory memory (contextAt thread) threadArea) :
    ({ hardware with memory := memory } : Hardware).saved thread = hardware.saved thread :=
  saved_congr kept

/-- The same registers and the same data of threads. -/
theorem Represents.congr (represents : Represents layout hardware state)
    (registers : ∀ cpu < layout.cpus, next.registers cpu = hardware.registers cpu)
    (threads : ∀ thread ∈ layout.threads,
      Kept hardware.memory next.memory (contextAt thread) threadArea) :
    Represents layout next state where
  registers cpu inside := by rw [registers cpu inside, represents.registers cpu inside]
  contexts thread present := by
    rw [Hardware.saved_congr (threads thread present), represents.contexts thread present]
  stack thread present := by
    rw [(threads thread present).threadStack, represents.stack thread present]
  stackSize thread present := by
    rw [(threads thread present).threadStackSize, represents.stackSize thread present]

/-- A change of the frame of a processor. -/
theorem Represents.changeFrame (represents : Represents layout hardware state)
    (consistent : Consistent layout hardware) (running : handler ∈ hardware.handlers cpu)
    (kept : ∀ {base count}, Apart handler.stackFrame frameSize base count → count < 2 ^ 64 →
      0 < count → Kept hardware.memory memory base count)
    {change : Scheduler.Machine → Scheduler.Machine}
    (changed : (change (state.machines cpu)).frame =
      view (readFrame memory handler.stackFrame).context) :
    Represents layout { hardware with memory := memory } (state.setMachine cpu change) := by
  have isFrame := consistent.stackFrame cpu handler running
  have inside := consistent.inside cpu handler running
  rw [isFrame] at kept
  have threads : ∀ thread ∈ layout.threads,
      Kept hardware.memory memory (contextAt thread) threadArea := fun thread present =>
    kept (layout.frame_thread inside present) (by decide) (by decide)
  refine ⟨fun other alsoInside => ?_, fun thread present => ?_, fun thread present => ?_,
    fun thread present => ?_⟩
  · rw [setMachine_machines]
    obtain rfl | different := eq_or_ne other cpu
    · have now : ({ hardware with memory := memory } : Hardware).registers other =
          (readFrame memory handler.stackFrame).context := Hardware.registers_of_mem running
      rw [if_pos rfl, changed, now]
    · rw [if_neg different, represents.registers other alsoInside]
      refine congrArg view (Hardware.registers_withMemory fun another alsoRunning => ?_).symm
      rw [consistent.stackFrame other another alsoRunning]
      exact kept (Layout.frame_apart (layout.frame_frame inside alsoInside different.symm)
        (by decide) (by decide)) (by decide) (by decide)
  · rw [Hardware.saved_withMemory (threads thread present)]
    exact represents.contexts thread present
  · rw [(threads thread present).threadStack]
    exact represents.stack thread present
  · rw [(threads thread present).threadStackSize]
    exact represents.stackSize thread present

/-- A change of the data of a thread. -/
theorem Represents.changeThread (represents : Represents layout hardware state)
    (frames : ∀ cpu < layout.cpus, ∀ handler ∈ hardware.handlers cpu,
      Kept hardware.memory memory handler.stackFrame frameSize)
    (others : ∀ other ∈ layout.threads, other ≠ thread →
      Kept hardware.memory memory (contextAt other) threadArea)
    {change : Scheduler.ThreadData → Scheduler.ThreadData}
    (context : (change (state.threads thread)).context =
      view (readFrame memory (contextAt thread)).context)
    (stack : (change (state.threads thread)).stack = pointer (threadStack memory thread))
    (stackSize : (change (state.threads thread)).stackSize = threadStackSize memory thread) :
    Represents layout { hardware with memory := memory } (state.setThread thread change) := by
  refine ⟨fun cpu inside => ?_, fun other present => ?_, fun other present => ?_,
    fun other present => ?_⟩
  · rw [setThread_machines, Hardware.registers_withMemory (frames cpu inside)]
    exact represents.registers cpu inside
  all_goals
    rw [setThread_threads]
    obtain rfl | different := eq_or_ne other thread
  · rw [if_pos rfl]
    exact context
  · rw [if_neg different, Hardware.saved_withMemory (others other present different)]
    exact represents.contexts other present
  · rw [if_pos rfl]
    exact stack
  · rw [if_neg different, (others other present different).threadStack]
    exact represents.stack other present
  · rw [if_pos rfl]
    exact stackSize
  · rw [if_neg different, (others other present different).threadStackSize]
    exact represents.stackSize other present

end Represents

/-! ## Steps -/

section Steps

variable {status : Status} {platform : Scheduler.Platform} {layout : Layout}
  {hardware next : Hardware} {state : Scheduler.State} {action : Action} {cpu : Nat}
  {thread : Address} {statement : ByteMemory → BitVec 64 → ByteMemory}

theorem Hardware.inHandler_eq_some (taken : hardware.inHandler layout cpu statement = some next) :
    ∃ handler ∈ hardware.handlers cpu, cpu < layout.cpus ∧
      next = { hardware with memory := statement hardware.memory handler.stackFrame } := by
  obtain ⟨inside, taken⟩ := Option.ite_none_right_eq_some.mp taken
  obtain ⟨handler, running, isNext⟩ := Option.map_eq_some_iff.mp taken
  exact ⟨handler, running, inside, isNext.symm⟩

theorem Represents.loadContext (represents : Represents layout hardware state)
    (consistent : Consistent layout hardware)
    (taken : Hardware.step status platform layout hardware (.loadContext cpu thread) =
      some next) : Represents layout next (Scheduler.loadThreadContext state cpu thread) := by
  obtain ⟨present, taken⟩ := Option.ite_none_right_eq_some.mp taken
  obtain ⟨handler, running, inside, rfl⟩ := Hardware.inHandler_eq_some taken
  have words : ∀ offset, contextOffset + frameSize ≤ offset → offset + 8 ≤ 2 ^ 64 →
      load 64 (copyFrame hardware.memory (contextAt thread) handler.stackFrame)
        (thread + BitVec.ofNat 64 offset) =
          load 64 hardware.memory (thread + BitVec.ofNat 64 offset) := fun offset above fits =>
    load_copy_of_apart rfl (apart_offsets thread above fits (by decide) (by decide))
  refine represents.changeThread (fun other alsoInside another alsoRunning => ?_)
    (fun other alsoPresent different => ?_) ?_ ?_ ?_
  · rw [consistent.stackFrame other another alsoRunning]
    exact kept_copyFrame (Layout.context_apart (Layout.frame_apart
      (layout.stacks_threads other alsoInside thread present) (by decide) (by decide)).symm
      (by decide) (by decide))
  · exact kept_copyFrame (Layout.context_apart
      (layout.threads_apart thread present other alsoPresent different.symm) (by decide)
      (by decide))
  · rw [loadThreadContext, readFrame_copyFrame, represents.registers cpu inside,
      Hardware.registers_of_mem running]
  · exact (represents.stack thread present).trans
      (congrArg pointer (words stackOffset (by decide) (by decide)).symm)
  · exact (represents.stackSize thread present).trans
      (words stackSizeOffset (by decide) (by decide)).symm

theorem Represents.storeContext (represents : Represents layout hardware state)
    (consistent : Consistent layout hardware)
    (taken : Hardware.step status platform layout hardware (.storeContext cpu thread) =
      some next) : Represents layout next (Scheduler.storeThreadContext state cpu thread) := by
  obtain ⟨present, taken⟩ := Option.ite_none_right_eq_some.mp taken
  obtain ⟨handler, running, inside, rfl⟩ := Hardware.inHandler_eq_some taken
  refine represents.changeFrame consistent running
    (fun apart _ _ => kept_copyFrame apart) ?_
  dsimp only [storeThreadContext]
  rw [readFrame_copyFrame]
  exact represents.contexts thread present

theorem Represents.storeHalt (represents : Represents layout hardware state)
    (consistent : Consistent layout hardware)
    (taken : Hardware.step status platform layout hardware (.storeHalt cpu) = some next) :
    Represents layout next (Scheduler.storeHalt platform state cpu) := by
  obtain ⟨handler, running, inside, rfl⟩ := Hardware.inHandler_eq_some taken
  refine represents.changeFrame consistent running (kept_assignMember .rip _) ?_
  dsimp only [Interrupts.storeHalt]
  rw [readFrame_assignMember, represents.registers cpu inside,
    Hardware.registers_of_mem running]
  rfl

theorem Represents.storeIntEnabled (represents : Represents layout hardware state)
    (consistent : Consistent layout hardware)
    (taken : Hardware.step status platform layout hardware (.storeIntEnabled cpu) = some next) :
    Represents layout next (Scheduler.storeIntEnabled state cpu) := by
  obtain ⟨handler, running, inside, rfl⟩ := Hardware.inHandler_eq_some taken
  refine represents.changeFrame consistent running (kept_assignMember .rflags _) ?_
  dsimp only [Interrupts.storeIntEnabled]
  rw [readFrame_assignMember, represents.registers cpu inside,
    Hardware.registers_of_mem running]
  rfl

/-- A processor that executes code keeps what is saved of it. -/
theorem Represents.execute {context : Context} (represents : Represents layout hardware state)
    (taken : Hardware.step status platform layout hardware (.execute cpu context) =
      some next) : Represents layout next (operation platform hardware state
        (.execute cpu context)) := by
  obtain ⟨-, isNext⟩ := Option.ite_none_right_eq_some.mp taken
  obtain rfl := Option.some.inj isNext
  have others : ∀ other, other ≠ cpu →
      ({ hardware with contexts := Function.update hardware.contexts cpu context } :
        Hardware).registers other = hardware.registers other := fun other different =>
    Hardware.registers_congr rfl (Function.update_of_ne different ..) fun _ _ _ _ => rfl
  rw [operation]
  cases noHandler : hardware.handlers cpu with
  | none =>
      rw [if_pos rfl]
      refine ⟨fun other inside => ?_, represents.contexts, represents.stack,
        represents.stackSize⟩
      rw [setMachine_machines]
      obtain rfl | different := eq_or_ne other cpu
      · have now : ({ hardware with contexts := Function.update hardware.contexts other context } :
            Hardware).registers other = Function.update hardware.contexts other context other :=
          Hardware.registers_of_none noHandler
        rw [if_pos rfl, now, Function.update_self]
      · rw [if_neg different, others other different]
        exact represents.registers other inside
  | some handler =>
      rw [if_neg (Option.some_ne_none handler)]
      refine represents.congr (fun other inside => ?_) fun _ _ _ _ => rfl
      obtain rfl | different := eq_or_ne other cpu
      · rw [Hardware.registers_of_mem noHandler]
        exact Hardware.registers_of_mem noHandler
      · exact others other different

theorem Represents.write {address : BitVec 64} {byte : BitVec 8}
    (represents : Represents layout hardware state)
    (taken : Hardware.step status platform layout hardware (.write address byte) = some next) :
    Represents layout next state := by
  obtain ⟨free, isNext⟩ := Option.ite_none_right_eq_some.mp taken
  obtain rfl := Option.some.inj isNext
  exact represents.congr
    (fun cpu inside => Hardware.registers_withMemory fun handler running =>
      kept_store byte (free.1 cpu inside handler running))
    fun thread present => kept_store byte (free.2 thread present)

/-- What a taken interrupt changes. -/
theorem Hardware.interrupt_eq {isr : Isr} {errorCode : Option (BitVec 64)}
    (consistent : Consistent layout hardware)
    (taken : Hardware.step status platform layout hardware (.interrupt cpu isr errorCode) =
      some next) :
    hardware.handlers cpu = none ∧ cpu < layout.cpus ∧
      ∃ entered, Entered isr (layout.stack cpu) errorCode
          ⟨hardware.contexts cpu, hardware.memory⟩ entered ∧
        next = { memory := entered.memory
                 contexts := Function.update hardware.contexts cpu entered.context
                 handlers := Function.update hardware.handlers cpu
                  (some ⟨isr, frameAt (layout.stack cpu)⟩) } := by
  obtain ⟨⟨inside, allowed⟩, taken⟩ := Option.ite_none_right_eq_some.mp taken
  obtain ⟨entered, entry, isEntered⟩ := enter_spec status isr (layout.stack cpu) errorCode
    ⟨hardware.contexts cpu, hardware.memory⟩
  rw [entry, Option.map_some, isEntered.stackFrame] at taken
  refine ⟨?_, inside, entered, isEntered, (Option.some.inj taken).symm⟩
  obtain noHandler | enabled := allowed
  · exact noHandler
  · exact Option.eq_none_iff_forall_not_mem.mpr fun handler running =>
      enabled (consistent.masked cpu handler running)

/-- What is apart from the area of an interrupt stays when it is taken. -/
theorem Entered.kept_of_apart {isr : Isr} {stack : BitVec 64} {errorCode : Option (BitVec 64)}
    {machine entered : Machine} (isEntered : Entered isr stack errorCode machine entered)
    {base : BitVec 64} {count : Nat}
    (apart : Apart (frameAt stack - 8) (frameSize + 8) base count) :
    Kept machine.memory entered.memory base count :=
  fun _ inside => isEntered.kept _ (apart.notMem inside)

theorem Represents.interrupt {isr : Isr} {errorCode : Option (BitVec 64)}
    (represents : Represents layout hardware state) (consistent : Consistent layout hardware)
    (taken : Hardware.step status platform layout hardware (.interrupt cpu isr errorCode) =
      some next) : Represents layout next state := by
  obtain ⟨noHandler, inside, entered, isEntered, rfl⟩ := Hardware.interrupt_eq consistent taken
  refine represents.congr (fun other alsoInside => ?_) fun thread present =>
    isEntered.kept_of_apart (layout.stacks_threads cpu inside thread present)
  obtain rfl | different := eq_or_ne other cpu
  · rw [Hardware.registers_of_none noHandler,
      Hardware.registers_of_mem (Function.update_self other _ hardware.handlers)]
    exact isEntered.context
  · refine Hardware.registers_congr (Function.update_of_ne different ..)
      (Function.update_of_ne different ..) fun handler running => ?_
    rw [consistent.stackFrame other handler running]
    exact isEntered.kept_of_apart (layout.frame_frame inside alsoInside different.symm)

/-- What a handler that has returned changes. -/
theorem Hardware.leave_eq (consistent : Consistent layout hardware)
    (taken : Hardware.step status platform layout hardware (.leave cpu) = some next) :
    ∃ handler ∈ hardware.handlers cpu,
      next = { memory := hardware.memory
               contexts := Function.update hardware.contexts cpu (hardware.registers cpu)
               handlers := Function.update hardware.handlers cpu none } := by
  cases running : hardware.handlers cpu with
  | none => simp [Hardware.step, running] at taken
  | some handler =>
      simp only [Hardware.step, running] at taken
      obtain ⟨⟨inside, top⟩, taken⟩ := Option.ite_none_right_eq_some.mp taken
      obtain ⟨final, left, isNext⟩ := Option.map_eq_some_iff.mp taken
      obtain ⟨-, left⟩ := Option.ite_none_right_eq_some.mp left
      rw [consistent.stackFrame cpu handler running] at top
      obtain ⟨result, exit, memory, context⟩ : ∃ result,
          run status isrExit ⟨hardware.contexts cpu, hardware.memory⟩ = some result ∧
            result.memory = hardware.memory ∧ result.context =
              (readFrame hardware.memory (frameAt (layout.stack cpu))).context :=
        run_isrExit status top
      obtain rfl := Option.some.inj (left.symm.trans exit)
      refine ⟨handler, rfl, ?_⟩
      rw [← isNext, memory, context, Hardware.registers_of_mem running,
        consistent.stackFrame cpu handler running]

theorem Represents.leave (represents : Represents layout hardware state)
    (consistent : Consistent layout hardware)
    (taken : Hardware.step status platform layout hardware (.leave cpu) = some next) :
    Represents layout next state := by
  obtain ⟨handler, running, rfl⟩ := Hardware.leave_eq consistent taken
  refine represents.congr (fun other inside => ?_) fun _ _ _ _ => rfl
  obtain rfl | different := eq_or_ne other cpu
  · rw [Hardware.registers_of_none (Function.update_self other none hardware.handlers)]
    exact Function.update_self ..
  · exact Hardware.registers_congr (Function.update_of_ne different ..)
      (Function.update_of_ne different ..) fun _ _ _ _ => rfl

theorem Represents.prepare {stack stackSize : BitVec 64}
    (represents : Represents layout hardware state) (consistent : Consistent layout hardware)
    (taken : Hardware.step status platform layout hardware (.prepare thread stack stackSize) =
      some next) :
    Represents layout next (state.setThread thread
      ({ · with stack := pointer stack, stackSize := stackSize })) := by
  obtain ⟨present, isNext⟩ := Option.ite_none_right_eq_some.mp taken
  obtain rfl := Option.some.inj isNext
  have kept : ∀ {base count}, (∀ offset, offset = stackOffset ∨ offset = stackSizeOffset →
      Apart (thread + BitVec.ofNat 64 offset) 8 base count) →
      Kept hardware.memory ((hardware.memory.store (thread + BitVec.ofNat 64 stackOffset)
        stack).store (thread + BitVec.ofNat 64 stackSizeOffset) stackSize) base count :=
    fun apart => (kept_store stack (apart _ (.inl rfl))).trans (kept_store stackSize
      (apart _ (.inr rfl)))
  have words : ∀ {base count}, Apart (contextAt thread) threadArea base count → count < 2 ^ 64 →
      0 < count → ∀ offset, offset = stackOffset ∨ offset = stackSizeOffset →
        Apart (thread + BitVec.ofNat 64 offset) 8 base count := by
    rintro base count apart small positive offset (rfl | rfl)
    · exact Layout.word_apart apart (by decide) small positive
    · exact Layout.word_apart apart (by decide) small positive
  refine represents.changeThread (fun cpu inside handler running => ?_)
    (fun other alsoPresent different => ?_) ?_ ?_ ?_
  · rw [consistent.stackFrame cpu handler running]
    exact kept (words (Layout.frame_apart (layout.stacks_threads cpu inside thread present)
      (by decide) (by decide)).symm (by decide) (by decide))
  · exact kept (words (layout.threads_apart thread present other alsoPresent different.symm)
      (by decide) (by decide))
  · refine (represents.contexts thread present).trans (congrArg view (congrArg
      IntStackFrame.context (Kept.frame (kept ?_)).symm))
    rintro offset (rfl | rfl)
    · exact (apart_offsets thread (by decide) (by decide) (by decide) (by decide)).symm
    · exact (apart_offsets thread (by decide) (by decide) (by decide) (by decide)).symm
  · refine congrArg pointer (Eq.symm ?_)
    rw [threadStack, load_store_of_apart rfl stackSize
      (apart_offsets thread (by decide) (by decide) (by decide) (by decide)).symm]
    exact load_store rfl (by decide) ..
  · exact (load_store rfl (by decide) ..).symm

/-- An accepted `set_thread_context`. -/
theorem setThreadContext_eq (platform : Scheduler.Platform) {memory : ByteMemory}
    {proc input : BitVec 64}
    (apart : Apart (threadStack memory thread) 8 (contextAt thread) threadArea)
    (accepted : ¬ (threadStack memory thread = 0 ∨
      threadStackSize memory thread < Scheduler.threadStackSizeMin)) :
    setThreadContext platform memory thread proc input =
      (assignContext platform
        ((memory.store (threadStack memory thread) Scheduler.stackOverrunMagic).store
          (threadStack memory thread + threadStackSize memory thread - 8) platform.exitThread)
        (contextAt thread) (threadStack memory thread + threadStackSize memory thread - 8)
        proc input, .errNone) := by
  have kept : Kept memory (memory.store (threadStack memory thread) Scheduler.stackOverrunMagic)
      (contextAt thread) threadArea := kept_store _ apart
  rw [setThreadContext, if_neg accepted]
  simp only [kept.threadStack, kept.threadStackSize]

/-- `set_thread_context` gives a thread the context that the scheduler's model gives it. -/
theorem Represents.setContext {proc input : BitVec 64}
    (represents : Represents layout hardware state) (consistent : Consistent layout hardware)
    (taken : Hardware.step status platform layout hardware (.setContext thread proc input) =
      some next) :
    Represents layout next
      (Scheduler.setThreadContext platform state thread proc input).1 := by
  obtain ⟨⟨present, stackFree, topFree⟩, isNext⟩ := Option.ite_none_right_eq_some.mp taken
  obtain rfl := Option.some.inj isNext
  have isStack := represents.stack thread present
  have isSize := represents.stackSize thread present
  by_cases bad : threadStack hardware.memory thread = 0 ∨
      threadStackSize hardware.memory thread < Scheduler.threadStackSizeMin
  · have stays : (Scheduler.setThreadContext platform state thread proc input).1 = state := by
      rw [Scheduler.setThreadContext, isStack, isSize, pointer]
      obtain noStack | small := bad
      · rw [if_pos noStack]
      · split
        · rfl
        · rw [if_pos small]
    rw [stays, setThreadContext, if_pos bad]
    exact represents
  · rw [setThreadContext_eq platform (stackFree.2 thread present) bad]
    rw [not_or] at bad
    rw [pointer, if_neg bad.1] at isStack
    rw [Scheduler.setThreadContext, isStack]
    simp only [isSize, if_neg bad.2]
    have frames : ∀ cpu < layout.cpus, ∀ handler ∈ hardware.handlers cpu, Kept hardware.memory
        ((hardware.memory.store (threadStack hardware.memory thread)
          Scheduler.stackOverrunMagic).store (threadStack hardware.memory thread +
            threadStackSize hardware.memory thread - 8) platform.exitThread)
        handler.stackFrame frameSize := fun cpu inside handler running =>
      (kept_store _ (stackFree.1 cpu inside handler running)).trans
        (kept_store _ (topFree.1 cpu inside handler running))
    have threads : ∀ other ∈ layout.threads, Kept hardware.memory
        ((hardware.memory.store (threadStack hardware.memory thread)
          Scheduler.stackOverrunMagic).store (threadStack hardware.memory thread +
            threadStackSize hardware.memory thread - 8) platform.exitThread)
        (contextAt other) threadArea := fun other alsoPresent =>
      (kept_store _ (stackFree.2 other alsoPresent)).trans
        (kept_store _ (topFree.2 other alsoPresent))
    generalize (hardware.memory.store _ Scheduler.stackOverrunMagic).store _ platform.exitThread =
      words at frames threads ⊢
    have same : ∀ memory, Represents layout hardware { state with memory := memory } :=
      fun _ => ⟨represents.registers, represents.contexts, represents.stack, represents.stackSize⟩
    refine (same _).changeThread (fun cpu inside handler running => ?_)
      (fun other alsoPresent different => ?_) ?_ ?_ ?_
    · refine (frames cpu inside handler running).trans
        (kept_assignContext platform _ _ _ ?_ (by decide) (by decide))
      rw [consistent.stackFrame cpu handler running]
      exact Layout.context_apart (layout.frame_thread inside present).symm (by decide) (by decide)
    · exact (threads other alsoPresent).trans (kept_assignContext platform _ _ _
        (Layout.context_apart (layout.threads_apart thread present other alsoPresent
          different.symm) (by decide) (by decide)) (by decide) (by decide))
    · have saved : readFrame words (contextAt thread) =
          readFrame hardware.memory (contextAt thread) :=
        ((threads thread present).mono (by decide : frameSize ≤ _)).frame
      rw [readFrame_assignContext, saved]
      dsimp only
      rw [Scheduler.initialContext, represents.contexts thread present, isSize]
      rfl
    · rw [threadStack_assignContext, (threads thread present).threadStack, pointer,
        if_neg bad.1]
      exact isStack
    · rw [threadStackSize_assignContext, (threads thread present).threadStackSize]
      exact isSize

/-- A step keeps handlers on the frames of their processors. -/
theorem Consistent.step (consistent : Consistent layout hardware)
    (taken : Hardware.step status platform layout hardware action = some next) :
    Consistent layout next := by
  have ofMemory : ∀ memory, Consistent layout { hardware with memory := memory } :=
    fun _ => ⟨consistent.inside, consistent.stackFrame, consistent.masked⟩
  cases action with
  | execute cpu context =>
      obtain ⟨⟨-, masks⟩, isNext⟩ := Option.ite_none_right_eq_some.mp taken
      obtain rfl := Option.some.inj isNext
      refine ⟨consistent.inside, consistent.stackFrame, fun other handler running => ?_⟩
      obtain rfl | different := eq_or_ne other cpu
      · dsimp only
        rw [Function.update_self]
        exact masks (Option.isSome_of_mem running)
      · dsimp only
        rw [Function.update_of_ne different]
        exact consistent.masked other handler running
  | interrupt cpu isr errorCode =>
      obtain ⟨-, inside, entered, isEntered, rfl⟩ := Hardware.interrupt_eq consistent taken
      have handlers : ∀ other, ∀ handler ∈ Function.update hardware.handlers cpu
          (some ⟨isr, frameAt (layout.stack cpu)⟩) other,
          other = cpu ∧ handler.stackFrame = frameAt (layout.stack cpu) ∨
            other ≠ cpu ∧ handler ∈ hardware.handlers other := by
        intro other handler running
        obtain rfl | different := eq_or_ne other cpu
        · rw [Function.update_self, Option.mem_some_iff] at running
          exact .inl ⟨rfl, running ▸ rfl⟩
        · rw [Function.update_of_ne different] at running
          exact .inr ⟨different, running⟩
      refine ⟨fun other handler running => ?_, fun other handler running => ?_,
        fun other handler running => ?_⟩
      all_goals obtain ⟨rfl, isFrame⟩ | ⟨different, before⟩ := handlers other handler running
      · exact inside
      · exact consistent.inside other handler before
      · exact isFrame
      · exact consistent.stackFrame other handler before
      · dsimp only
        rw [Function.update_self]
        exact isEntered.masked
      · dsimp only
        rw [Function.update_of_ne different]
        exact consistent.masked other handler before
  | leave cpu =>
      obtain ⟨-, -, rfl⟩ := Hardware.leave_eq consistent taken
      have handlers : ∀ other, ∀ handler ∈ Function.update hardware.handlers cpu none other,
          other ≠ cpu ∧ handler ∈ hardware.handlers other := by
        intro other handler running
        obtain rfl | different := eq_or_ne other cpu
        · rw [Function.update_self] at running
          exact absurd running (Option.not_mem_none handler)
        · rw [Function.update_of_ne different] at running
          exact ⟨different, running⟩
      refine ⟨fun other handler running => ?_, fun other handler running => ?_,
        fun other handler running => ?_⟩
      all_goals obtain ⟨different, before⟩ := handlers other handler running
      · exact consistent.inside other handler before
      · exact consistent.stackFrame other handler before
      · dsimp only
        rw [Function.update_of_ne different]
        exact consistent.masked other handler before
  | write | prepare | setContext =>
      obtain ⟨-, isNext⟩ := Option.ite_none_right_eq_some.mp taken
      obtain rfl := Option.some.inj isNext
      exact ofMemory _
  | loadContext | storeContext =>
      obtain ⟨-, taken⟩ := Option.ite_none_right_eq_some.mp taken
      obtain ⟨-, -, -, rfl⟩ := Hardware.inHandler_eq_some taken
      exact ofMemory _
  | storeHalt | storeIntEnabled =>
      obtain ⟨-, -, -, rfl⟩ := Hardware.inHandler_eq_some taken
      exact ofMemory _

/-- A step does to the registers what the operation of the scheduler does to frames. -/
theorem Represents.step (represents : Represents layout hardware state)
    (consistent : Consistent layout hardware)
    (taken : Hardware.step status platform layout hardware action = some next) :
    Represents layout next (operation platform hardware state action) := by
  cases action with
  | execute cpu context => exact represents.execute taken
  | write address byte => exact represents.write taken
  | interrupt cpu isr errorCode => exact represents.interrupt consistent taken
  | loadContext cpu thread => exact represents.loadContext consistent taken
  | storeContext cpu thread => exact represents.storeContext consistent taken
  | storeHalt cpu => exact represents.storeHalt consistent taken
  | storeIntEnabled cpu => exact represents.storeIntEnabled consistent taken
  | prepare thread stack stackSize => exact represents.prepare consistent taken
  | setContext thread proc input => exact represents.setContext consistent taken
  | leave cpu => exact represents.leave consistent taken

end Steps

end Interrupts
end ToyKernel
