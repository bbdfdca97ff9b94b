import ToyKernel.Interrupts.Defs

/-!
# What the code around a handler does

Whatever a processor was doing, the handler finds all of it in the frame that its first argument
points to, and after the handler the processor goes on with what the frame holds then.
-/

namespace ToyKernel
namespace Interrupts

open Amd64 ByteMemory
open Scheduler (rflagsIf)

/-- The address of the frame, for the stack of the interrupt. -/
def frameAt (stack : BitVec 64) : BitVec 64 :=
  (stack &&& ~~~15#64) - BitVec.ofNat 64 frameSize

section Layout

variable {register : Register} {memory : ByteMemory} {base : BitVec 64}

theorem rsp_notMem_savedRegisters : Register.rsp ∉ savedRegisters := by decide

theorem mem_savedRegisters (notStack : register ≠ .rsp) : register ∈ savedRegisters := by
  cases register <;> first | exact absurd rfl notStack | decide

/-- The members of the frame are in the order in which registers are popped. -/
theorem registerOffset_eq (notStack : register ≠ .rsp) :
    registerOffset register = 8 * savedRegisters.reverse.idxOf register := by
  cases register <;> first | exact absurd rfl notStack | decide

theorem idxOf_lt (notStack : register ≠ .rsp) :
    savedRegisters.reverse.idxOf register < savedRegisters.reverse.length :=
  List.idxOf_lt_length_of_mem (List.mem_reverse.mpr (mem_savedRegisters notStack))

end Layout

/-! ## Up to the handler -/

section Delivery

variable {stack : BitVec 64} {address : BitVec 64}

theorem frameAt_add (stack : BitVec 64) {offset below : Nat} (sum : offset + below = frameSize) :
    frameAt stack + BitVec.ofNat 64 offset = (stack &&& ~~~15#64) - BitVec.ofNat 64 below := by
  rw [frameAt, ← sum]
  generalize stack &&& ~~~15#64 = aligned
  bv_omega

/-- Where the wrapper finds the stack: the error code takes the place of what the alignment
skips. -/
theorem aligned_top (machine : Machine) (stack handler : BitVec 64) (segment : BitVec 16)
    (errorCode : Option (BitVec 64)) :
    (deliver machine stack handler segment errorCode).top &&& ~~~15#64 =
      frameAt stack + BitVec.ofNat 64 errorCodeOffset := by
  have aligned : (stack &&& ~~~15#64).toNat % 16 = 0 := by
    rw [and_not_15]
    omega
  rw [deliver_top, and_not_15_sub aligned (by cases errorCode <;> simp)]
  exact (frameAt_add stack (show errorCodeOffset + 48 = frameSize from rfl)).symm

/-- The words that hold where the processor was, the last one saved first. -/
def savedWords (context : Context) : List (BitVec 64) :=
  [context.rip, context.cs.setWidth 64, context.rflags, context.general .rsp,
    context.ss.setWidth 64]

theorem deliver_fits (errorCode : Option (BitVec 64)) (machine : Machine) :
    8 * (deliveredWords machine.context errorCode).length ≤ 2 ^ 64 := by
  rw [deliveredWords_length]
  cases errorCode <;> simp

/-- The words of a delivery, from the top of the stack up. -/
theorem deliver_holds (machine : Machine) (stack handler : BitVec 64) (segment : BitVec 16)
    (errorCode : Option (BitVec 64)) :
    Holds (deliver machine stack handler segment errorCode).memory
      (frameAt stack + BitVec.ofNat 64 (ripOffset - 8 * errorCode.toList.length))
      (errorCode.toList ++ savedWords machine.context) := by
  have holds := pushWords_holds (machine.set .rsp (stack &&& ~~~15#64))
    (deliveredWords machine.context errorCode) (deliver_fits errorCode machine)
  rw [← deliver_memory machine stack handler segment, pushWords_top, Machine.set_top,
    deliveredWords_length] at holds
  rw [frameAt_add stack (show ripOffset - 8 * errorCode.toList.length +
    8 * (5 + errorCode.toList.length) = frameSize by cases errorCode <;> rfl)]
  cases errorCode <;> exact holds

theorem deliver_words (machine : Machine) (stack handler : BitVec 64) (segment : BitVec 16)
    (errorCode : Option (BitVec 64)) :
    Holds (deliver machine stack handler segment errorCode).memory
      (frameAt stack + BitVec.ofNat 64 ripOffset) (savedWords machine.context) := by
  have words := (Holds.append.mp (deliver_holds machine stack handler segment errorCode)).2
  rw [add_assoc, ← BitVec.ofNat_add] at words
  cases errorCode <;> exact words

theorem deliver_errorCode (machine : Machine) (stack handler : BitVec 64) (segment : BitVec 16)
    {errorCode : Option (BitVec 64)} {code : BitVec 64} (isCode : code ∈ errorCode) :
    load 64 (deliver machine stack handler segment errorCode).memory
      (frameAt stack + BitVec.ofNat 64 errorCodeOffset) = code := by
  obtain rfl := Option.mem_def.mp isCode
  exact (deliver_holds machine stack handler segment (some code)).1

/-- A delivery writes nothing else. -/
theorem deliver_kept (machine : Machine) (stack handler : BitVec 64) (segment : BitVec 16)
    (errorCode : Option (BitVec 64))
    (outside : ¬ (address - (frameAt stack + BitVec.ofNat 64 errorCodeOffset)).toNat < 48) :
    (deliver machine stack handler segment errorCode).memory address =
      machine.memory address := by
  rw [frameAt_add stack (show errorCodeOffset + 48 = frameSize from rfl)] at outside
  rw [deliver_memory]
  refine pushWords_memory _ _ ?_ (deliver_fits errorCode machine)
  rw [pushWords_top, Machine.set_top, deliveredWords_length]
  generalize stack &&& ~~~15#64 = aligned at outside ⊢
  cases errorCode <;> simp only [Option.toList, List.length_nil, List.length_singleton] <;>
    bv_omega

end Delivery

section Entry

variable {status : Status} {isr : Isr} {stack address : BitVec 64}
  {errorCode : Option (BitVec 64)} {machine prepared entered : Machine}

/-- What holds before the registers are pushed. -/
structure Prepared (stack : BitVec 64) (errorCode : Option (BitVec 64))
    (machine prepared : Machine) : Prop where
  top : prepared.top = frameAt stack + BitVec.ofNat 64 fxdataOffset
  general : ∀ register, register ≠ .rsp →
    prepared.context.general register = machine.context.general register
  fxdata : load 4096 prepared.memory (frameAt stack + BitVec.ofNat 64 fxdataOffset) =
    machine.context.fx
  words : Holds prepared.memory (frameAt stack + BitVec.ofNat 64 ripOffset)
    (savedWords machine.context)
  errorCode : ∀ code ∈ errorCode,
    load 64 prepared.memory (frameAt stack + BitVec.ofNat 64 errorCodeOffset) = code
  masked : prepared.context.rflags &&& rflagsIf = 0
  kept : ∀ address, ¬ (address - (frameAt stack + BitVec.ofNat 64 fxdataOffset)).toNat < 560 →
    prepared.memory address = machine.memory address

/-- The wrapper aligns the stack, so that `fxsave` takes its address. -/
theorem run_prepare (status : Status) (isr : Isr) (stack : BitVec 64)
    (errorCode : Option (BitVec 64)) (machine : Machine) :
    ∃ prepared, run status
        [.andImmediate (~~~15#64) .rsp, .subImmediate 512 .rsp, .fxsave]
        (deliver machine stack isr.address segmentCode errorCode) = some prepared ∧
      Prepared stack errorCode machine prepared := by
  have rounded := aligned_top machine stack isr.address segmentCode errorCode
  have words := deliver_words machine stack isr.address segmentCode errorCode
  have codes : ∀ code ∈ errorCode,
      load 64 (deliver machine stack isr.address segmentCode errorCode).memory
        (frameAt stack + BitVec.ofNat 64 errorCodeOffset) = code :=
    fun _ => deliver_errorCode machine stack isr.address segmentCode
  have kept : ∀ address,
      ¬ (address - (frameAt stack + BitVec.ofNat 64 errorCodeOffset)).toNat < 48 →
        (deliver machine stack isr.address segmentCode errorCode).memory address =
          machine.memory address :=
    fun _ => deliver_kept machine stack isr.address segmentCode errorCode
  have context := deliver_context machine stack isr.address segmentCode errorCode
  generalize deliver machine stack isr.address segmentCode errorCode = delivered at *
  have top : (delivered.top &&& ~~~15#64) - 512 =
      frameAt stack + BitVec.ofNat 64 fxdataOffset := by
    rw [rounded, errorCodeOffset, fxdataOffset]
    bv_omega
  have aligned : (frameAt stack + BitVec.ofNat 64 fxdataOffset).toNat % 16 = 0 := by
    rw [← top]
    have rounded := and_not_15 delivered.top
    bv_omega
  obtain ⟨reserved, isReserved⟩ : ∃ reserved, reserved =
    (delivered.compute status .rsp (delivered.top &&& ~~~15#64)).compute status .rsp
      ((delivered.top &&& ~~~15#64) - 512) := ⟨_, rfl⟩
  have reservedTop : reserved.top = frameAt stack + BitVec.ofNat 64 fxdataOffset := by
    rw [isReserved, Machine.compute_top, top]
  have fx : reserved.context.fx = machine.context.fx := by
    have same := congrArg Context.fx context
    rw [isReserved]
    exact same
  have memory : reserved.memory = delivered.memory := by
    rw [isReserved, Machine.compute_memory, Machine.compute_memory]
  refine ⟨{ reserved with memory := reserved.memory.store reserved.top reserved.context.fx },
    ?_, ?_⟩
  · have taken : run status [.andImmediate (~~~15#64) .rsp, .subImmediate 512 .rsp, .fxsave]
        delivered = exec status .fxsave reserved >>= run status [] := by
      rw [isReserved]
      rfl
    rw [taken, exec, if_pos (reservedTop ▸ aligned)]
    rfl
  · constructor
    · exact reservedTop
    · intro register notStack
      rw [isReserved, Machine.compute_general, Function.update_of_ne notStack,
        Machine.compute_general, Function.update_of_ne notStack, context]
      exact Function.update_of_ne notStack ..
    · dsimp only
      rw [reservedTop, fx, load_store rfl (by decide)]
    · refine words.congr fun offset inside => ?_
      dsimp only
      rw [reservedTop, memory]
      exact store_of_apart _ (apart_offsets _ (by decide) (by simp [savedWords, ripOffset])
        (by decide) (by simp [savedWords])) inside
    · intro code isCode
      dsimp only
      rw [reservedTop, memory, ← codes code isCode]
      exact load_store_of_apart rfl _
        (apart_offsets _ (by decide) (by decide) (by decide) (by decide))
    · rw [isReserved, Machine.compute_rflags, status.flags_and (by decide),
        Machine.compute_rflags, status.flags_and (by decide), context, BitVec.and_assoc]
      exact BitVec.and_zero
    · intro address outside
      dsimp only
      rw [reservedTop, memory]
      rw [fxdataOffset] at outside ⊢
      rw [errorCodeOffset] at kept
      generalize frameAt stack = base at outside kept ⊢
      exact (if_neg (by bv_omega)).trans (kept address (by bv_omega))

/-- The registers are in the members of the frame that have their names. -/
theorem readFrame_general {memory : ByteMemory} {base : BitVec 64}
    {general : Register → BitVec 64} {register : Register}
    (holds : Holds memory base (savedRegisters.map general).reverse)
    (notStack : register ≠ .rsp) :
    (readFrame memory base).general register = general register := by
  have inside := idxOf_lt notStack
  have word := holds.load (show savedRegisters.reverse.idxOf register <
    (savedRegisters.map general).reverse.length by simpa using inside)
  rw [← registerOffset_eq notStack] at word
  simp only [← List.map_reverse, List.getElem_map, List.getElem_idxOf] at word
  exact word

/-- Where the processor was is in the members behind the error code. -/
theorem load_savedWords {memory : ByteMemory} {base : BitVec 64} {context : Context}
    {position offset : Nat}
    (holds : Holds memory (base + BitVec.ofNat 64 ripOffset) (savedWords context))
    (inside : position < (savedWords context).length)
    (isOffset : ripOffset + 8 * position = offset) :
    load 64 memory (base + BitVec.ofNat 64 offset) = (savedWords context)[position] := by
  rw [← isOffset, BitVec.ofNat_add, ← add_assoc]
  exact holds.load inside

/-- What holds when the registers have been pushed. -/
structure Pushed (stack : BitVec 64) (errorCode : Option (BitVec 64))
    (machine pushed : Machine) : Prop where
  top : pushed.top = frameAt stack
  context : (readFrame pushed.memory (frameAt stack)).context = machine.context
  errorCode : ∀ code ∈ errorCode,
    (readFrame pushed.memory (frameAt stack)).errorCode = code.setWidth 32
  masked : pushed.context.rflags &&& rflagsIf = 0
  kept : ∀ address, ¬ (address - frameAt stack).toNat < frameSize →
    pushed.memory address = machine.memory address

/-- The `push` instructions complete the frame. -/
theorem Prepared.push (isPrepared : Prepared stack errorCode machine prepared) :
    Pushed stack errorCode machine
      (pushWords prepared (savedRegisters.map prepared.context.general)) := by
  have top : (pushWords prepared (savedRegisters.map prepared.context.general)).top =
      frameAt stack := by
    rw [pushWords_top, isPrepared.top]
    exact add_sub_cancel_right _ _
  have registers := pushWords_holds prepared (savedRegisters.map prepared.context.general)
    (by simp [savedRegisters])
  have context := pushWords_general prepared (savedRegisters.map prepared.context.general)
  have below : ∀ address, ¬ (address - frameAt stack).toNat < fxdataOffset →
      (pushWords prepared (savedRegisters.map prepared.context.general)).memory address =
        prepared.memory address := by
    intro address outside
    refine pushWords_memory _ _ ?_ (by simp [savedRegisters])
    rw [top]
    exact outside
  generalize pushWords prepared (savedRegisters.map prepared.context.general) = pushed at *
  rw [top, List.map_congr_left fun register present =>
    isPrepared.general register (ne_of_mem_of_not_mem present rsp_notMem_savedRegisters)]
    at registers
  have above : ∀ offset more, fxdataOffset ≤ offset → offset + more < frameSize →
      pushed.memory (frameAt stack + BitVec.ofNat 64 offset + BitVec.ofNat 64 more) =
        prepared.memory (frameAt stack + BitVec.ofNat 64 offset + BitVec.ofNat 64 more) := by
    intro offset more enough inside
    refine below _ ?_
    rw [frameSize] at inside
    rw [fxdataOffset] at enough ⊢
    bv_omega
  have words : Holds pushed.memory (frameAt stack + BitVec.ofNat 64 ripOffset)
      (savedWords machine.context) :=
    isPrepared.words.congr fun offset inside => above _ _ (by decide) (by
      simp only [savedWords, List.length_cons, List.length_nil] at inside
      rw [ripOffset, frameSize]
      omega)
  refine ⟨top, Context.ext ?_ ?_ ?_ ?_ ?_ ?_, fun code isCode => ?_, ?_, fun address outside => ?_⟩
  · funext register
    by_cases isStack : register = .rsp
    · rw [isStack]
      exact load_savedWords words (Nat.le_of_ble_eq_true rfl : 3 < _) rfl
    · exact readFrame_general registers isStack
  · rw [← isPrepared.fxdata]
    exact load_congr rfl fun offset inside => above _ _ (by decide) (by
      rw [fxdataOffset, frameSize]
      omega)
  · exact load_savedWords words (Nat.le_of_ble_eq_true rfl : 0 < _) rfl
  · exact load_of_setWidth rfl rfl (by decide)
      (load_savedWords words (Nat.le_of_ble_eq_true rfl : 1 < _) rfl)
  · exact load_savedWords words (Nat.le_of_ble_eq_true rfl : 2 < _) rfl
  · exact load_of_setWidth rfl rfl (by decide)
      (load_savedWords words (Nat.le_of_ble_eq_true rfl : 4 < _) rfl)
  · have word : load 64 pushed.memory (frameAt stack + BitVec.ofNat 64 errorCodeOffset) =
        code := by
      rw [← isPrepared.errorCode code isCode]
      exact load_congr rfl fun offset inside => above _ _ (by decide) (by
        rw [errorCodeOffset, frameSize]
        omega)
    rw [← word]
    exact (load_setWidth rfl rfl (by decide) ..).symm
  · rw [context]
    exact isPrepared.masked
  · rw [frameSize] at outside
    have kept := isPrepared.kept address
    rw [fxdataOffset] at kept below
    generalize frameAt stack = base at outside kept below
    exact (below address (by bv_omega)).trans (kept (by bv_omega))

/-- Frames with the same bytes. -/
theorem readFrame_congr {memory other : ByteMemory} {base : BitVec 64}
    (same : ∀ offset < frameSize, other (base + BitVec.ofNat 64 offset) =
      memory (base + BitVec.ofNat 64 offset)) : readFrame other base = readFrame memory base := by
  have loads : ∀ width offset, width % 8 = 0 → offset + width / 8 ≤ frameSize →
      load width other (base + BitVec.ofNat 64 offset) =
        load width memory (base + BitVec.ofNat 64 offset) := by
    intro width offset whole inside
    refine load_congr whole fun byte below => ?_
    rw [add_assoc, ← BitVec.ofNat_add]
    exact same _ (by omega)
  have general : ∀ register, load 64 other (base + BitVec.ofNat 64 (registerOffset register)) =
      load 64 memory (base + BitVec.ofNat 64 (registerOffset register)) :=
    fun register => loads 64 _ rfl (by cases register <;> decide)
  simp only [readFrame, general, loads 4096 _ rfl (by decide : fxdataOffset + 4096 / 8 ≤ _),
    loads 32 _ rfl (by decide : errorCodeOffset + 32 / 8 ≤ _),
    loads 64 _ rfl (by decide : ripOffset + 64 / 8 ≤ _),
    loads 16 _ rfl (by decide : csOffset + 16 / 8 ≤ _),
    loads 64 _ rfl (by decide : rflagsOffset + 64 / 8 ≤ _),
    loads 16 _ rfl (by decide : ssOffset + 16 / 8 ≤ _)]

/-- What the handler finds when it is entered. -/
structure Entered (isr : Isr) (stack : BitVec 64) (errorCode : Option (BitVec 64))
    (machine entered : Machine) : Prop where
  rip : entered.context.rip = isr.handler
  stackFrame : entered.context.general .rdi = frameAt stack
  data : entered.context.general .rsi = isr.data
  top : entered.top = frameAt stack - 8
  behind : entered.topWord = isr.behind
  masked : entered.context.rflags &&& rflagsIf = 0
  context : (readFrame entered.memory (frameAt stack)).context = machine.context
  errorCode : ∀ code ∈ errorCode,
    (readFrame entered.memory (frameAt stack)).errorCode = code.setWidth 32
  kept : ∀ address, ¬ (address - (frameAt stack - 8)).toNat < frameSize + 8 →
    entered.memory address = machine.memory address

/-- An interrupt reaches the handler with the interrupted processor in the frame. -/
theorem enter_spec (status : Status) (isr : Isr) (stack : BitVec 64)
    (errorCode : Option (BitVec 64)) (machine : Machine) :
    ∃ entered, enter status isr stack errorCode machine = some entered ∧
      Entered isr stack errorCode machine entered := by
  obtain ⟨prepared, taken, isPrepared⟩ := run_prepare status isr stack errorCode machine
  have pushes := run_push status prepared savedRegisters rsp_notMem_savedRegisters
  have isPushed := isPrepared.push
  generalize pushWords prepared (savedRegisters.map prepared.context.general) = pushed at *
  obtain ⟨entered, isEntered⟩ : ∃ entered : Machine, entered =
    { context := { (((pushed.set .rdi pushed.top).set .rsi isr.data).pushWord
        isr.behind).context with rip := isr.handler }
      memory := pushed.memory.store (frameAt stack - 8) isr.behind } := ⟨_, rfl⟩
  have top : entered.top = frameAt stack - 8 := by
    rw [isEntered, ← isPushed.top]
    rfl
  have frame : readFrame entered.memory (frameAt stack) =
      readFrame pushed.memory (frameAt stack) := by
    refine readFrame_congr fun offset inside => ?_
    rw [isEntered]
    refine if_neg ?_
    rw [frameSize] at inside
    bv_omega
  refine ⟨entered, ?_, ?_, ?_, ?_, top, ?_, ?_, ?_, ?_, fun address outside => ?_⟩
  · rw [enter, isrEntry, run_append, run_append, taken, Option.bind_some, pushes, isEntered,
      ← isPushed.top]
    rfl
  · rw [isEntered]
  · rw [isEntered, ← isPushed.top]
    rfl
  · rw [isEntered]
    rfl
  · rw [Machine.topWord, top, isEntered]
    exact load_store rfl (by decide) ..
  · rw [isEntered]
    exact isPushed.masked
  · rw [frame, isPushed.context]
  · rw [frame]
    exact isPushed.errorCode
  · rw [frameSize] at outside
    have kept := isPushed.kept address
    rw [frameSize] at kept
    rw [isEntered]
    generalize frameAt stack = base at outside kept ⊢
    exact (if_neg (by bv_omega)).trans (kept (by bv_omega))

end Entry

/-! ## From the handler on -/

section Exit

variable {status : Status} {isr : Isr} {stack : BitVec 64} {errorCode : Option (BitVec 64)}
  {machine entered exited final : Machine}

theorem frameAt_aligned (stack : BitVec 64) :
    (frameAt stack + BitVec.ofNat 64 fxdataOffset).toNat % 16 = 0 := by
  have rounded := and_not_15 stack
  rw [frameAt_add stack (show fxdataOffset + 560 = frameSize from rfl)]
  bv_omega

/-- Behind the handler the processor takes everything from the frame. -/
theorem run_isrExit (status : Status) {stack : BitVec 64} {exited : Machine}
    (top : exited.top = frameAt stack) :
    ∃ final, run status isrExit exited = some final ∧ final.memory = exited.memory ∧
      final.context = (readFrame exited.memory (frameAt stack)).context := by
  obtain ⟨popped, taken, isPopped⟩ := run_pop status exited savedRegisters.reverse
    (by decide) (by decide)
  have poppedTop : popped.top = frameAt stack + BitVec.ofNat 64 fxdataOffset := by
    rw [isPopped.top, top]
    rfl
  have aligned := frameAt_aligned stack
  rw [← poppedTop] at aligned
  obtain ⟨restored, isRestored⟩ : ∃ restored, restored =
    Machine.compute status { popped with
      context := { popped.context with fx := load 4096 popped.memory popped.top } } .rsp
      (popped.top + (512 + 8)) := ⟨_, rfl⟩
  have restoredTop : restored.top = frameAt stack + BitVec.ofNat 64 ripOffset := by
    rw [isRestored, Machine.compute_top, poppedTop, add_assoc]
    rfl
  have memory : restored.memory = exited.memory := by
    rw [isRestored, Machine.compute_memory]
    exact isPopped.memory
  have word : ∀ position offset, ripOffset + 8 * position = offset →
      restored.stackWord position =
        load 64 exited.memory (frameAt stack + BitVec.ofNat 64 offset) := by
    rintro position _ rfl
    rw [Machine.stackWord, memory, restoredTop, add_assoc, ← BitVec.ofNat_add]
  have narrow : ∀ position offset, ripOffset + 8 * position = offset →
      (restored.stackWord position).setWidth 16 =
        load 16 exited.memory (frameAt stack + BitVec.ofNat 64 offset) := by
    intro position offset isOffset
    rw [word position offset isOffset]
    exact load_setWidth rfl rfl (by decide) ..
  refine ⟨restored.returnFromInterrupt, ?_, memory, Context.ext ?_ ?_ ?_ ?_ ?_ ?_⟩
  · rw [isrExit, run_append, taken, Option.bind_some, run, exec, if_pos aligned,
      Option.bind_some, run, exec, Option.bind_some, isRestored]
    rfl
  · funext register
    by_cases isStack : register = .rsp
    · have saved := word 3 (registerOffset .rsp) rfl
      rw [isStack, Machine.returnFromInterrupt_general, Function.update_self]
      exact saved
    · have saved := isPopped.words _ (idxOf_lt isStack)
      rw [List.getElem_idxOf, ← registerOffset_eq isStack, top] at saved
      rw [Machine.returnFromInterrupt_general, Function.update_of_ne isStack, isRestored,
        Machine.compute_general, Function.update_of_ne isStack]
      exact saved
  · have fx : restored.context.fx = load 4096 popped.memory popped.top := by
      rw [isRestored]
      rfl
    rw [isPopped.memory, poppedTop] at fx
    exact fx
  · exact word 0 _ rfl
  · exact narrow 1 _ rfl
  · exact word 2 _ rfl
  · exact narrow 4 _ rfl

/-- An interrupt applies what its handler does with the frame to the processor: the frame that the
handler finds is the interrupted processor, and the processor goes on as the frame that the
handler leaves, with the memory that it leaves. -/
theorem interrupt_transforms (status : Status) (isr : Isr) (stack : BitVec 64)
    (errorCode : Option (BitVec 64)) (machine : Machine) :
    ∃ entered, enter status isr stack errorCode machine = some entered ∧
      Entered isr stack errorCode machine entered ∧
      ∀ exited, Returned entered exited →
        ∃ final, leave status isr exited = some final ∧ final.memory = exited.memory ∧
          final.context = (readFrame exited.memory (frameAt stack)).context := by
  obtain ⟨entered, taken, isEntered⟩ := enter_spec status isr stack errorCode machine
  refine ⟨entered, taken, isEntered, fun exited returned => ?_⟩
  have top : exited.top = frameAt stack := by
    rw [returned.top, isEntered.top]
    exact sub_add_cancel _ _
  rw [leave, if_pos (returned.rip.trans isEntered.behind)]
  exact run_isrExit status top

/-- The handler executes `ret`. -/
theorem returned_returnNear {entered exited : Machine} (top : exited.top = entered.top)
    (word : exited.topWord = entered.topWord) : Returned entered exited.returnNear where
  rip := word
  top := congrArg (· + 8) top

end Exit

/-! ## A handler that does nothing -/

/-- Arithmetic that leaves the flags alone. -/
def keepFlags : Status where
  flags before _ := before
  system _ _ := rfl

def someIsr : Isr where
  address := 0x101000
  handler := 0x102000
  behind := 0x101080
  data := 0

/-- A processor with interrupts enabled. -/
def someContext (rip : BitVec 64) : Context where
  general _ := 0x7000
  fx := 0
  rip := rip
  cs := 8
  rflags := rflagsIf
  ss := 16

/-- The processor returns to where it was interrupted. -/
theorem interrupt_transforms_nothing : ∃ entered final,
    enter keepFlags someIsr 0x201000 none ⟨someContext 0x400123, fun _ => 0⟩ = some entered ∧
      leave keepFlags someIsr entered.returnNear = some final ∧
      final.context = (readFrame entered.memory (frameAt 0x201000)).context := by
  obtain ⟨entered, taken, -, returns⟩ := interrupt_transforms keepFlags someIsr 0x201000 none
    ⟨someContext 0x400123, fun _ => 0⟩
  obtain ⟨final, left, -, context⟩ := returns entered.returnNear (returned_returnNear rfl rfl)
  exact ⟨entered, final, taken, left, context⟩

end Interrupts
end ToyKernel
