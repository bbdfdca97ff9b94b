import ToyKernel.Library.LittleEndian
import Mathlib.Logic.Function.Basic

/-!
# Straight code on an AMD64 processor

The registers, a few instructions that move data between registers and a stack, and what the
processor does by itself when it takes an interrupt and when it returns from one.  An
`fxsave` or `fxrstor` that is not aligned has no result; memory accesses and the checks that
`iretq` makes of the selectors are taken to succeed.
-/

namespace ToyKernel
namespace Amd64

open ByteMemory

/-- The general registers. -/
inductive Register
  | rax | rbx | rcx | rdx | rbp | rsi | rdi | rsp
  | r8 | r9 | r10 | r11 | r12 | r13 | r14 | r15
  deriving DecidableEq, Repr

/-- What a processor holds; `fx` is the image that `fxsave` stores. -/
@[ext]
structure Context where
  general : Register → BitVec 64
  fx : BitVec 4096
  rip : BitVec 64
  cs : BitVec 16
  rflags : BitVec 64
  ss : BitVec 16

/-- A processor and the memory. -/
structure Machine where
  context : Context
  memory : ByteMemory

/-- The flags that arithmetic instructions change: carry, parity, auxiliary carry, zero, sign and
overflow. -/
def statusFlags : BitVec 64 := 0x8D5

/-- What an arithmetic instruction leaves in the flags, given the flags before it and its
result. -/
structure Status where
  flags : BitVec 64 → BitVec 64 → BitVec 64
  system : ∀ before result, flags before result &&& ~~~statusFlags = before &&& ~~~statusFlags

/-- The instructions; `fxsave` and `fxrstor` address the top of the stack, and `call` names the
address behind it. -/
inductive Instruction
  | push (src : Register)
  | pop (dst : Register)
  | mov (src dst : Register)
  | movImmediate (value : BitVec 64) (dst : Register)
  | andImmediate (value : BitVec 64) (dst : Register)
  | subImmediate (value : BitVec 64) (dst : Register)
  | addImmediate (value : BitVec 64) (dst : Register)
  | fxsave
  | fxrstor
  | call (target behind : BitVec 64)
  | ret
  | iretq
  deriving DecidableEq

namespace Machine

/-- The top of the stack. -/
def top (machine : Machine) : BitVec 64 :=
  machine.context.general .rsp

/-- Assign to a register. -/
def set (machine : Machine) (dst : Register) (value : BitVec 64) : Machine :=
  { machine with
    context := { machine.context with
      general := Function.update machine.context.general dst value } }

/-- Assign to a register and to the flags. -/
def compute (status : Status) (machine : Machine) (dst : Register) (value : BitVec 64) :
    Machine :=
  { machine.set dst value with
    context := { (machine.set dst value).context with
      rflags := status.flags machine.context.rflags value } }

/-- The word at the top of the stack. -/
def topWord (machine : Machine) : BitVec 64 :=
  load 64 machine.memory machine.top

/-- Put a word on the stack. -/
def pushWord (machine : Machine) (word : BitVec 64) : Machine :=
  { machine.set .rsp (machine.top - 8) with
    memory := machine.memory.store (machine.top - 8) word }

/-- The word at a position from the top of the stack down. -/
def stackWord (machine : Machine) (position : Nat) : BitVec 64 :=
  load 64 machine.memory (machine.top + BitVec.ofNat 64 (8 * position))

/-- Go on with what is on the stack: the place, the segments, the flags and the stack. -/
def returnFromInterrupt (machine : Machine) : Machine :=
  { machine with
    context := {
      general := Function.update machine.context.general .rsp (machine.stackWord 3)
      fx := machine.context.fx
      rip := machine.stackWord 0
      cs := (machine.stackWord 1).setWidth 16
      rflags := machine.stackWord 2
      ss := (machine.stackWord 4).setWidth 16 } }

/-- Take so many words off the stack. -/
def drop (machine : Machine) (words : Nat) : Machine :=
  machine.set .rsp (machine.top + BitVec.ofNat 64 (8 * words))

/-- Go on somewhere else. -/
def jump (machine : Machine) (target : BitVec 64) : Machine :=
  { machine with context := { machine.context with rip := target } }

/-- Go on at the address on top of the stack. -/
def returnNear (machine : Machine) : Machine :=
  (machine.drop 1).jump machine.topWord

end Machine

/-- What an instruction does; `none` for an address that `fxsave` and `fxrstor` refuse. -/
def exec (status : Status) : Instruction → Machine → Option Machine
  | .push src, machine => some (machine.pushWord (machine.context.general src))
  | .pop dst, machine => some ((machine.drop 1).set dst machine.topWord)
  | .mov src dst, machine => some (machine.set dst (machine.context.general src))
  | .movImmediate value dst, machine => some (machine.set dst value)
  | .andImmediate value dst, machine =>
      some (machine.compute status dst (machine.context.general dst &&& value))
  | .subImmediate value dst, machine =>
      some (machine.compute status dst (machine.context.general dst - value))
  | .addImmediate value dst, machine =>
      some (machine.compute status dst (machine.context.general dst + value))
  | .fxsave, machine =>
      if machine.top.toNat % 16 = 0 then
        some { machine with memory := machine.memory.store machine.top machine.context.fx }
      else
        none
  | .fxrstor, machine =>
      if machine.top.toNat % 16 = 0 then
        some { machine with
          context := { machine.context with fx := load 4096 machine.memory machine.top } }
      else
        none
  | .call target behind, machine => some ((machine.pushWord behind).jump target)
  | .ret, machine => some machine.returnNear
  | .iretq, machine => some machine.returnFromInterrupt

/-- What a row of instructions does. -/
def run (status : Status) : List Instruction → Machine → Option Machine
  | [], machine => some machine
  | instruction :: rest, machine => (exec status instruction machine).bind (run status rest)

/-- The flags that an interrupt gate clears: trap, interrupt, nested task, resume and virtual
8086 mode. -/
def maskedFlags : BitVec 64 := 0x34300

section Machine

variable {machine : Machine} {register dst : Register} {value word : BitVec 64} {status : Status}

namespace Machine

@[simp] theorem set_memory (machine : Machine) (dst : Register) (value : BitVec 64) :
    (machine.set dst value).memory = machine.memory := rfl

@[simp] theorem set_general (machine : Machine) (dst : Register) (value : BitVec 64) :
    (machine.set dst value).context.general =
      Function.update machine.context.general dst value := rfl

@[simp] theorem set_top (machine : Machine) (value : BitVec 64) :
    (machine.set .rsp value).top = value := rfl

theorem set_top_of_ne (notStack : dst ≠ .rsp) : (machine.set dst value).top = machine.top :=
  Function.update_of_ne (Ne.symm notStack) ..

@[simp] theorem compute_top (status : Status) (machine : Machine) (value : BitVec 64) :
    (machine.compute status .rsp value).top = value := rfl

@[simp] theorem compute_memory (status : Status) (machine : Machine) (dst : Register)
    (value : BitVec 64) : (machine.compute status dst value).memory = machine.memory := rfl

@[simp] theorem compute_general (status : Status) (machine : Machine) (dst : Register)
    (value : BitVec 64) : (machine.compute status dst value).context.general =
      Function.update machine.context.general dst value := rfl

@[simp] theorem compute_rflags (status : Status) (machine : Machine) (dst : Register)
    (value : BitVec 64) : (machine.compute status dst value).context.rflags =
      status.flags machine.context.rflags value := rfl

@[simp] theorem pushWord_memory (machine : Machine) (word : BitVec 64) :
    (machine.pushWord word).memory = machine.memory.store (machine.top - 8) word := rfl

@[simp] theorem pushWord_top (machine : Machine) (word : BitVec 64) :
    (machine.pushWord word).top = machine.top - 8 := rfl

@[simp] theorem pushWord_general (machine : Machine) (word : BitVec 64) :
    (machine.pushWord word).context.general =
      Function.update machine.context.general .rsp (machine.top - 8) := rfl

@[simp] theorem returnFromInterrupt_general (machine : Machine) :
    machine.returnFromInterrupt.context.general =
      Function.update machine.context.general .rsp (machine.stackWord 3) := rfl

@[simp] theorem jump_memory (machine : Machine) (target : BitVec 64) :
    (machine.jump target).memory = machine.memory := rfl

@[simp] theorem jump_general (machine : Machine) (target : BitVec 64) :
    (machine.jump target).context.general = machine.context.general := rfl

@[simp] theorem jump_top (machine : Machine) (target : BitVec 64) :
    (machine.jump target).top = machine.top := rfl

@[simp] theorem drop_memory (machine : Machine) (words : Nat) :
    (machine.drop words).memory = machine.memory := rfl

@[simp] theorem drop_top (machine : Machine) (words : Nat) :
    (machine.drop words).top = machine.top + BitVec.ofNat 64 (8 * words) := rfl

end Machine

end Machine

theorem run_append (status : Status) (first second : List Instruction) (machine : Machine) :
    run status (first ++ second) machine =
      (run status first machine).bind (run status second) := by
  induction first generalizing machine with
  | nil => rfl
  | cons instruction rest inductionHypothesis =>
      rw [List.cons_append, run, run, Option.bind_assoc]
      congr 1
      exact funext inductionHypothesis

/-! ## Words on a stack -/

/-- From an address on, memory holds these words. -/
def Holds (memory : ByteMemory) : BitVec 64 → List (BitVec 64) → Prop
  | _, [] => True
  | stack, word :: words => load 64 memory stack = word ∧ Holds memory (stack + 8) words

/-- Put words on the stack, the first one first. -/
def pushWords (machine : Machine) (words : List (BitVec 64)) : Machine :=
  words.foldl Machine.pushWord machine

/-- What the processor saves when it takes an interrupt, the first word first: where it is, and
the error code of some exceptions. -/
def deliveredWords (context : Context) (errorCode : Option (BitVec 64)) : List (BitVec 64) :=
  [context.ss.setWidth 64, context.general .rsp, context.rflags, context.cs.setWidth 64,
    context.rip] ++ errorCode.toList

/-- The processor takes an interrupt through an interrupt gate with a stack of its own, which it
aligns. -/
def deliver (machine : Machine) (stack handler : BitVec 64) (segment : BitVec 16)
    (errorCode : Option (BitVec 64)) : Machine :=
  let context := machine.context
  let machine := pushWords (machine.set .rsp (stack &&& ~~~15#64))
    (deliveredWords context errorCode)
  { machine with
    context := { machine.context with
      rip := handler, cs := segment, rflags := context.rflags &&& ~~~maskedFlags } }

theorem and_not_15 (value : BitVec 64) :
    (value &&& ~~~15#64).toNat = value.toNat - value.toNat % 16 := by
  have shifted : value &&& ~~~15#64 = value >>> 4 <<< 4 := by
    apply BitVec.eq_of_getLsbD_eq
    intro bit inside
    have low : ∀ bit < 64, (~~~15#64).getLsbD bit = decide (4 ≤ bit) := by decide
    rw [BitVec.getLsbD_and, low bit inside, BitVec.getLsbD_shiftLeft, BitVec.getLsbD_ushiftRight]
    by_cases high : 4 ≤ bit
    · have back : 4 + (bit - 4) = bit := by omega
      simp [inside, high, back, Nat.not_lt.mpr high]
    · simp [high, Nat.not_le.mp high]
  rw [shifted]
  simp only [BitVec.toNat_shiftLeft, BitVec.toNat_ushiftRight, Nat.shiftRight_eq_div_pow,
    Nat.shiftLeft_eq]
  omega

/-- The words that the processor saves take up a multiple of the alignment, or one word less. -/
theorem and_not_15_sub {stack : BitVec 64} (aligned : stack.toNat % 16 = 0) {bytes : Nat}
    (isWhole : bytes = 40 ∨ bytes = 48) :
    (stack - BitVec.ofNat 64 bytes) &&& ~~~15#64 = stack - 48 := by
  apply BitVec.eq_of_toNat_eq
  rw [and_not_15]
  obtain rfl | rfl := isWhole <;> bv_omega

/-- Flags that arithmetic does not change. -/
theorem Status.flags_and (status : Status) {mask : BitVec 64} (system : mask &&& statusFlags = 0#64)
    (before result : BitVec 64) : status.flags before result &&& mask = before &&& mask := by
  have above : ~~~statusFlags &&& mask = mask := by
    apply BitVec.eq_of_getLsbD_eq
    intro bit inside
    have clear := congrArg (BitVec.getLsbD · bit) system
    rw [BitVec.getLsbD_and, BitVec.getLsbD_zero] at clear
    rw [BitVec.getLsbD_and, BitVec.getLsbD_not, decide_eq_true inside, Bool.true_and]
    cases isSet : mask.getLsbD bit
    · rw [Bool.and_false]
    · rw [isSet, Bool.true_and] at clear
      rw [clear, Bool.not_false, Bool.and_true]
  rw [← above, ← BitVec.and_assoc, status.system, BitVec.and_assoc]

section Stack

variable {memory other : ByteMemory} {stack address : BitVec 64} {words : List (BitVec 64)}
  {machine : Machine} {width : Nat} {status : Status}

theorem Holds.congr (holds : Holds memory stack words)
    (same : ∀ offset < 8 * words.length, other (stack + BitVec.ofNat 64 offset) =
      memory (stack + BitVec.ofNat 64 offset)) : Holds other stack words := by
  induction words generalizing stack with
  | nil => trivial
  | cons word words inductionHypothesis =>
      rw [List.length_cons] at same
      refine ⟨?_, inductionHypothesis holds.2 fun offset inside => ?_⟩
      · rw [← holds.1]
        exact load_congr rfl fun offset inside => same offset (by omega)
      · have next := same (offset + 8) (by omega)
        rw [BitVec.ofNat_add, add_comm (BitVec.ofNat 64 offset), ← add_assoc] at next
        exact next

theorem Holds.append {more : List (BitVec 64)} :
    Holds memory stack (words ++ more) ↔ Holds memory stack words ∧
      Holds memory (stack + BitVec.ofNat 64 (8 * words.length)) more := by
  induction words generalizing stack with
  | nil => simp [Holds]
  | cons word words inductionHypothesis =>
      have next : stack + 8 + BitVec.ofNat 64 (8 * words.length) =
          stack + BitVec.ofNat 64 (8 * (word :: words).length) := by
        rw [List.length_cons, Nat.mul_succ, BitVec.ofNat_add, add_comm (BitVec.ofNat 64 _),
          ← add_assoc]
        rfl
      rw [List.cons_append, Holds, Holds, inductionHypothesis, next, and_assoc]

/-- The word at a position. -/
theorem Holds.load {position : Nat} (holds : Holds memory stack words)
    (inside : position < words.length) :
    load 64 memory (stack + BitVec.ofNat 64 (8 * position)) = words[position] := by
  induction words generalizing stack position with
  | nil => cases inside
  | cons word words inductionHypothesis =>
      cases position with
      | zero => simpa using holds.1
      | succ position =>
          have next : stack + BitVec.ofNat 64 (8 * (position + 1)) =
              stack + 8 + BitVec.ofNat 64 (8 * position) := by
            rw [Nat.mul_succ, BitVec.ofNat_add, add_comm (BitVec.ofNat 64 _), ← add_assoc]
            rfl
          rw [next]
          exact inductionHypothesis holds.2 (Nat.lt_of_succ_lt_succ inside)

@[simp] theorem pushWords_nil (machine : Machine) : pushWords machine [] = machine := rfl

@[simp] theorem pushWords_cons (machine : Machine) (word : BitVec 64) :
    pushWords machine (word :: words) = pushWords (machine.pushWord word) words := rfl

theorem pushWords_top (machine : Machine) (words : List (BitVec 64)) :
    (pushWords machine words).top = machine.top - BitVec.ofNat 64 (8 * words.length) := by
  induction words generalizing machine with
  | nil => simp
  | cons word words inductionHypothesis =>
      rw [pushWords_cons, inductionHypothesis, Machine.pushWord_top, List.length_cons]
      bv_omega

/-- Pushing words leaves the other registers alone. -/
theorem pushWords_general (machine : Machine) (words : List (BitVec 64)) :
    (pushWords machine words).context = { machine.context with
      general := Function.update machine.context.general .rsp (pushWords machine words).top } := by
  induction words generalizing machine with
  | nil => simp [Machine.top]
  | cons word words inductionHypothesis =>
      rw [pushWords_cons, inductionHypothesis, Machine.pushWord_general, Function.update_idem]
      rfl

/-- It writes only below the old top of the stack. -/
theorem pushWords_memory (machine : Machine) (words : List (BitVec 64))
    (outside : ¬ (address - (pushWords machine words).top).toNat < 8 * words.length)
    (fits : 8 * words.length ≤ 2 ^ 64) :
    (pushWords machine words).memory address = machine.memory address := by
  rw [pushWords_top] at outside
  induction words generalizing machine with
  | nil => rfl
  | cons word words inductionHypothesis =>
      rw [List.length_cons] at outside fits
      rw [pushWords_cons, inductionHypothesis _ ?_ (by omega)]
      · refine if_neg ?_
        bv_omega
      · rw [Machine.pushWord_top]
        bv_omega

/-- The words are on the stack, the last one on top. -/
theorem pushWords_holds (machine : Machine) (words : List (BitVec 64))
    (fits : 8 * words.length ≤ 2 ^ 64) :
    Holds (pushWords machine words).memory (pushWords machine words).top words.reverse := by
  induction words generalizing machine with
  | nil => trivial
  | cons word words inductionHypothesis =>
      rw [List.length_cons] at fits
      rw [pushWords_cons, List.reverse_cons, Holds.append, List.length_reverse]
      refine ⟨inductionHypothesis _ (by omega), ?_, trivial⟩
      have position : (pushWords (machine.pushWord word) words).top +
          BitVec.ofNat 64 (8 * words.length) = machine.top - 8 := by
        rw [pushWords_top, Machine.pushWord_top, sub_add_cancel]
      rw [position]
      have kept : load 64 (pushWords (machine.pushWord word) words).memory (machine.top - 8) =
          load 64 (machine.pushWord word).memory (machine.top - 8) := by
        refine load_congr rfl fun offset inside => pushWords_memory _ _ ?_ (by omega)
        rw [← position]
        bv_omega
      rw [kept, Machine.pushWord_memory, load_store rfl (by decide)]

end Stack

section Deliver

variable (machine : Machine) (stack handler : BitVec 64) (segment : BitVec 16)
  (errorCode : Option (BitVec 64))

theorem deliver_memory : (deliver machine stack handler segment errorCode).memory =
    (pushWords (machine.set .rsp (stack &&& ~~~15#64))
      (deliveredWords machine.context errorCode)).memory := by
  dsimp only [deliver]

theorem deliveredWords_length :
    (deliveredWords machine.context errorCode).length = 5 + errorCode.toList.length :=
  List.length_append

theorem deliver_top : (deliver machine stack handler segment errorCode).top =
    (stack &&& ~~~15#64) - BitVec.ofNat 64 (8 * (5 + errorCode.toList.length)) := by
  rw [← deliveredWords_length machine, ← Machine.set_top machine (stack &&& ~~~15#64),
    ← pushWords_top]
  dsimp only [deliver, Machine.top]

/-- The processor keeps its general registers, except for the stack, and masks interrupts. -/
theorem deliver_context : (deliver machine stack handler segment errorCode).context =
    { machine.context with
      general := Function.update machine.context.general .rsp
        (deliver machine stack handler segment errorCode).top
      rip := handler
      cs := segment
      rflags := machine.context.rflags &&& ~~~maskedFlags } := by
  have pushed := pushWords_general (machine.set .rsp (stack &&& ~~~15#64))
    (deliveredWords machine.context errorCode)
  dsimp only [deliver, Machine.top] at pushed ⊢
  rw [pushed, Machine.set_general, Function.update_idem]
  simp only [Function.update_self]
  rfl

end Deliver

/-! ## Saving and restoring registers -/

section Registers

variable {machine result : Machine} {registers : List Register} {status : Status}

/-- A row of `push` instructions. -/
theorem run_push (status : Status) (machine : Machine) (registers : List Register)
    (notStack : .rsp ∉ registers) :
    run status (registers.map .push) machine =
      some (pushWords machine (registers.map machine.context.general)) := by
  induction registers generalizing machine with
  | nil => rfl
  | cons register registers inductionHypothesis =>
      rw [List.mem_cons, not_or] at notStack
      have same : registers.map
          (machine.pushWord (machine.context.general register)).context.general =
            registers.map machine.context.general := by
        refine List.map_congr_left fun other present => ?_
        rw [Machine.pushWord_general, Function.update_of_ne]
        rintro rfl
        exact notStack.2 present
      rw [List.map_cons, List.map_cons, run, exec, Option.bind_some,
        inductionHypothesis _ notStack.2, same, pushWords_cons]

/-- What a row of `pop` instructions does. -/
structure Popped (registers : List Register) (machine result : Machine) : Prop where
  memory : result.memory = machine.memory
  top : result.top = machine.top + BitVec.ofNat 64 (8 * registers.length)
  words : ∀ (position : Nat) (inside : position < registers.length),
    result.context.general registers[position] =
      load 64 machine.memory (machine.top + BitVec.ofNat 64 (8 * position))
  others : ∀ register ∉ registers, register ≠ .rsp →
    result.context.general register = machine.context.general register
  fx : result.context.fx = machine.context.fx

theorem run_pop (status : Status) (machine : Machine) (registers : List Register)
    (notStack : .rsp ∉ registers) (once : registers.Nodup) :
    ∃ result, run status (registers.map .pop) machine = some result ∧
      Popped registers machine result := by
  induction registers generalizing machine with
  | nil =>
      refine ⟨machine, rfl, rfl, by simp, ?_, fun _ _ _ => rfl, rfl⟩
      intro position inside
      cases inside
  | cons register registers inductionHypothesis =>
      rw [List.mem_cons, not_or] at notStack
      rw [List.nodup_cons] at once
      have notTop : register ≠ .rsp := Ne.symm notStack.1
      obtain ⟨result, taken, popped⟩ := inductionHypothesis
        ((machine.drop 1).set register machine.topWord) notStack.2 once.2
      have top : ((machine.drop 1).set register machine.topWord).top = machine.top + 8 :=
        Machine.set_top_of_ne notTop
      refine ⟨result, taken, popped.memory, ?_, ?_, ?_, popped.fx⟩
      · rw [popped.top, top, List.length_cons]
        bv_omega
      · intro position inside
        cases position with
        | zero =>
            rw [List.getElem_cons_zero, popped.others register once.1 notTop,
              Machine.set_general, Function.update_self]
            simp [Machine.topWord]
        | succ position =>
            rw [List.getElem_cons_succ, popped.words position (Nat.lt_of_succ_lt_succ inside), top]
            congr 1
            bv_omega
      · intro other absent notStackPointer
        rw [List.mem_cons, not_or] at absent
        rw [popped.others other absent.2 notStackPointer, Machine.set_general,
          Function.update_of_ne absent.1]
        exact Function.update_of_ne notStackPointer ..

end Registers

end Amd64
end ToyKernel
