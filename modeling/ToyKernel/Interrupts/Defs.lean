import ToyKernel.Library.Amd64
import ToyKernel.Scheduler.Defs

/-!
# Interrupt service routines

The frame that `interrupt.h` lays out, and the code around a handler that the macro
`DEFINE_ISR_WRAPPER` writes.
-/

namespace ToyKernel
namespace Interrupts

open Amd64 ByteMemory

/-! ## The frame -/

/-- `struct int_stack_frame`; `general` has the members `r15` to `rax` and `rsp`. -/
@[ext]
structure IntStackFrame where
  general : Register → BitVec 64
  fxdata : BitVec 4096
  errorCode : BitVec 32
  rip : BitVec 64
  cs : BitVec 16
  rflags : BitVec 64
  ss : BitVec 16

/-- The offset of a register in the frame. -/
def registerOffset : Register → Nat
  | .r15 => 0
  | .r14 => 8
  | .r13 => 16
  | .r12 => 24
  | .r11 => 32
  | .r10 => 40
  | .r9 => 48
  | .r8 => 56
  | .rdi => 64
  | .rsi => 72
  | .rbp => 80
  | .rdx => 88
  | .rcx => 96
  | .rbx => 104
  | .rax => 112
  | .rsp => 664

/-- The offsets of the other members. -/
def fxdataOffset : Nat := 120

def errorCodeOffset : Nat := 632

def ripOffset : Nat := 640

def csOffset : Nat := 648

def rflagsOffset : Nat := 656

def ssOffset : Nat := 672

/-- `sizeof(struct int_stack_frame)`. -/
def frameSize : Nat := 680

/-- The frame at an address, as C code reads its members. -/
def readFrame (memory : ByteMemory) (base : BitVec 64) : IntStackFrame where
  general register := load 64 memory (base + BitVec.ofNat 64 (registerOffset register))
  fxdata := load 4096 memory (base + BitVec.ofNat 64 fxdataOffset)
  errorCode := load 32 memory (base + BitVec.ofNat 64 errorCodeOffset)
  rip := load 64 memory (base + BitVec.ofNat 64 ripOffset)
  cs := load 16 memory (base + BitVec.ofNat 64 csOffset)
  rflags := load 64 memory (base + BitVec.ofNat 64 rflagsOffset)
  ss := load 16 memory (base + BitVec.ofNat 64 ssOffset)

/-- What the frame says of a processor. -/
def IntStackFrame.context (frame : IntStackFrame) : Context where
  general := frame.general
  fx := frame.fxdata
  rip := frame.rip
  cs := frame.cs
  rflags := frame.rflags
  ss := frame.ss

/-! ## Assignments to a frame -/

/-- The members that the kernel assigns to. -/
inductive Member
  | general (register : Register)
  | rip
  | cs
  | rflags
  | ss
  deriving DecidableEq

namespace Member

/-- `offsetof`. -/
def offset : Member → Nat
  | .general register => registerOffset register
  | .rip => ripOffset
  | .cs => csOffset
  | .rflags => rflagsOffset
  | .ss => ssOffset

/-- `sizeof`. -/
def size : Member → Nat
  | .general _ | .rip | .rflags => 8
  | .cs | .ss => 2

/-- The width of a member, in bits. -/
@[reducible] def width : Member → Nat
  | .general _ | .rip | .rflags => 64
  | .cs | .ss => 16

theorem width_eq (member : Member) : member.width = 8 * member.size := by
  cases member <;> rfl

theorem width_div (member : Member) : member.width / 8 = member.size := by
  rw [width_eq, Nat.mul_div_cancel_left _ (by decide)]

end Member

/-- Assign to a member. -/
def IntStackFrame.assign (frame : IntStackFrame) :
    (member : Member) → BitVec member.width → IntStackFrame
  | .general register, value =>
      { frame with general := Function.update frame.general register value }
  | .rip, value => { frame with rip := value }
  | .cs, value => { frame with cs := value }
  | .rflags, value => { frame with rflags := value }
  | .ss, value => { frame with ss := value }

/-- Assign to a member of the frame at an address. -/
def assignMember (memory : ByteMemory) (base : BitVec 64) (member : Member)
    (value : BitVec member.width) : ByteMemory :=
  memory.store (base + BitVec.ofNat 64 member.offset) value

/-- The assignment of one frame to another. -/
def copyFrame (memory : ByteMemory) (dst src : BitVec 64) : ByteMemory :=
  memory.copy dst src frameSize

/-! ## The code around a handler -/

/-- The registers in the order in which they are pushed. -/
def savedRegisters : List Register :=
  [.rax, .rbx, .rcx, .rdx, .rbp, .rsi, .rdi, .r8, .r9, .r10, .r11, .r12, .r13, .r14, .r15]

/-- What the build fixes for an interrupt service routine: its address, the handler, the address
behind the call of the handler, and the second argument of the handler. -/
structure Isr where
  address : BitVec 64
  handler : BitVec 64
  behind : BitVec 64
  data : BitVec 64

/-- The instructions of `DEFINE_ISR_WRAPPER` up to the call of the handler. -/
def isrEntry (isr : Isr) : List Instruction :=
  [.andImmediate (~~~15#64) .rsp, .subImmediate 512 .rsp, .fxsave] ++ savedRegisters.map .push ++
    [.mov .rsp .rdi, .movImmediate isr.data .rsi, .call isr.handler isr.behind]

/-- The instructions behind the call. -/
def isrExit : List Instruction :=
  savedRegisters.reverse.map .pop ++ [.fxrstor, .addImmediate (512 + 8) .rsp, .iretq]

/-- `SEGMENT_CODE`. -/
def segmentCode : BitVec 16 := 8

/-- The processor takes an interrupt on a stack and runs up to the first instruction of the
handler. -/
def enter (status : Status) (isr : Isr) (stack : BitVec 64) (errorCode : Option (BitVec 64))
    (machine : Machine) : Option Machine :=
  run status (isrEntry isr) (deliver machine stack isr.address segmentCode errorCode)

/-- From the return of the handler on, if it returns to where it was called. -/
def leave (status : Status) (isr : Isr) (machine : Machine) : Option Machine :=
  if machine.context.rip = isr.behind then run status isrExit machine else none

/-- The handler has executed `ret` with the stack as it found it. -/
structure Returned (entered exited : Machine) : Prop where
  rip : exited.context.rip = entered.topWord
  top : exited.top = entered.top + 8

end Interrupts
end ToyKernel
