import ToyKernel.Common
import ToyKernel.Interrupts.Defs
import ToyKernel.Interrupts.Descriptors
import ToyKernel.Library.Transition

/-!
# Descriptor tables

The tables that `interrupt.c` builds in memory and loads on each processor, and what a processor
does with them when it takes an interrupt.
-/

namespace ToyKernel
namespace Interrupts

open ByteMemory

/-! ## Places -/

/-- The tables: `__gdt`, `idt` and `task_segments`. -/
inductive Table
  | gdt
  | idt
  | taskSegments
  deriving DecidableEq

/-- `INT_VECTORS`. -/
def intVectors : Nat := 35

/-- `GDT_DESC_SIZE`, `GDT_DESC2_SIZE` and `IDT_DESC_SIZE`. -/
def gdtDescSize : Nat := 8

def gdtDesc2Size : Nat := 16

def idtDescSize : Nat := 16

/-- `sizeof(struct task_segment)` and the offset of `ists` in it. -/
def taskSegmentSize : Nat := 104

def istsOffset : Nat := 36

/-- `CONFIG_ISR_STACK_SIZE`. -/
def configIsrStackSize : Nat := 4096

/-- The bytes of a table, for a number of processors. -/
def Table.size (cpus : Nat) : Table → Nat
  | .gdt => (3 + 2 * configMaxCpus) * gdtDescSize
  | .idt => intVectors * idtDescSize
  | .taskSegments => cpus * taskSegmentSize

/-- Where the build and `kmalloc` put the tables and the stacks for interrupts. -/
structure Places where
  base : Table → BitVec 64
  isrStacks : BitVec 64
  cpus : Nat
  bspCpu : Nat
  cpus_le : cpus ≤ configMaxCpus
  bspCpu_lt : bspCpu < cpus
  apart : ∀ first second, first ≠ second →
    Apart (base first) (first.size cpus) (base second) (second.size cpus)

namespace Places

/-- An address in a table. -/
def slot (places : Places) (table : Table) (offset : Nat) : BitVec 64 :=
  places.base table + BitVec.ofNat 64 offset

/-- `&isr_stacks[cpu + 1]`. -/
def isrStack (places : Places) (cpu : Nat) : BitVec 64 :=
  places.isrStacks + BitVec.ofNat 64 ((cpu + 1) * configIsrStackSize)

/-- `&task_segments[cpu]`. -/
def taskSegment (places : Places) (cpu : Nat) : BitVec 64 :=
  places.slot .taskSegments (cpu * taskSegmentSize)

end Places

/-- The offset of the descriptor of a task segment. -/
def tssDescOffset (cpu : Nat) : Nat := 3 * gdtDescSize + cpu * gdtDesc2Size

/-! ## Building the tables -/

/-- The descriptors that `create_gdt` of `boot32.c` makes for code and for data. -/
def codeDesc : GdtDesc :=
  { GdtDesc.zero with type := 0xA, nonsys := 1, present := 1, bits64 := 1 }

def dataDesc : GdtDesc :=
  { GdtDesc.zero with type := 0x2, nonsys := 1, present := 1, bits32 := 1 }

/-- `create_gdt` of `boot32.c`. -/
def createBootGdt (places : Places) (memory : ByteMemory) : ByteMemory :=
  let memory := memory.store (places.slot .gdt gdtDescSize) codeDesc.word
  memory.store (places.slot .gdt (2 * gdtDescSize)) dataDesc.word

/-- The descriptor that `create_gdt` makes for a task segment. -/
def tssDesc (tssAddr : BitVec 64) : GdtDesc2 where
  base := { GdtDesc.zero with
    type := 9
    nonsys := 0
    present := 1
    base0 := tssAddr.setWidth 16
    base1 := (tssAddr >>> 16).setWidth 8
    limit0 := BitVec.ofNat 16 (taskSegmentSize - 1)
    base2 := (tssAddr >>> 24).setWidth 8 }
  base3 := (tssAddr >>> 32).setWidth 32
  reserved := 0

/-- One round of the loop of `create_gdt`. -/
def createTaskSegment (places : Places) (memory : ByteMemory) (cpu : Nat) : ByteMemory :=
  let memory := memory.store (places.slot .taskSegments (cpu * taskSegmentSize + istsOffset))
    (places.isrStack cpu)
  memory.store (places.slot .gdt (tssDescOffset cpu)) (tssDesc (places.taskSegment cpu)).word

/-- `create_gdt`, after `kmalloc`. -/
def createGdt (places : Places) (memory : ByteMemory) : ByteMemory :=
  let memory := memory.fill (places.base .taskSegments) (places.cpus * taskSegmentSize) 0
  (List.range places.cpus).foldl (createTaskSegment places) memory

/-- `is_int_reserved`. -/
def isIntReserved (vector : Nat) : Bool :=
  vector = 15 ∨ (20 ≤ vector ∧ vector ≤ 31)

/-- The descriptor of a vector. -/
def readIdtDesc (places : Places) (memory : ByteMemory) (vector : Nat) : IdtDesc :=
  .ofWord (load 128 memory (places.slot .idt (vector * idtDescSize)))

def writeIdtDesc (places : Places) (memory : ByteMemory) (vector : Nat) (desc : IdtDesc) :
    ByteMemory :=
  memory.store (places.slot .idt (vector * idtDescSize)) desc.word

/-- `get_isr`. -/
def getIsr (places : Places) (memory : ByteMemory) (vector : Nat) : BitVec 64 :=
  let desc := readIdtDesc places memory vector
  desc.handler0.setWidth 64 + desc.handler1.setWidth 64 <<< 16 +
    desc.handler2.setWidth 64 <<< 32

/-- What `set_isr` makes of a descriptor. -/
def IdtDesc.setIsr (desc : IdtDesc) (isr : BitVec 64) : IdtDesc :=
  { desc with
    present := if isr = 0 then 0 else 1
    handler0 := isr.setWidth 16
    handler1 := (isr >>> 16).setWidth 16
    handler2 := (isr >>> 32).setWidth 32 }

/-- `set_isr`. -/
def setIsr (places : Places) (memory : ByteMemory) (vector : Nat) (isr : BitVec 64) :
    ByteMemory :=
  writeIdtDesc places memory vector ((readIdtDesc places memory vector).setIsr isr)

/-- A gate of `create_idt` without a handler. -/
def emptyGate : IdtDesc :=
  { IdtDesc.zeroed with cs := segmentCode, ist := 1, type := 0xE }

/-- One round of the loop of `create_idt`. -/
def createGate (places : Places) (memory : ByteMemory) (vector : Nat) : ByteMemory :=
  if isIntReserved vector then memory else writeIdtDesc places memory vector emptyGate

/-- The vectors with a default handler. -/
def defaultVectors : List Nat :=
  [0, 2, 3, 4, 5, 6, 7, 8, 10, 11, 12, 13, 14, 16, 17, 18, 19]

/-- `create_idt`, given the addresses of the default handlers. -/
def createIdt (places : Places) (defaultIsr : Nat → BitVec 64) (memory : ByteMemory) :
    ByteMemory :=
  let memory := (List.range intVectors).foldl (createGate places) memory
  defaultVectors.foldl (fun memory vector => setIsr places memory vector (defaultIsr vector))
    memory

/-! ## The processor -/

/-- What `lgdt` and `lidt` load. -/
structure TableInfo where
  limit : BitVec 16
  base : BitVec 64
  deriving DecidableEq

/-- What `ltr` loads. -/
structure TaskRegister where
  base : BitVec 64
  limit : Nat
  deriving DecidableEq

/-- The registers of a processor for its tables. -/
structure TableRegisters where
  gdt : TableInfo
  idt : TableInfo
  task : TaskRegister
  deriving DecidableEq

/-- The descriptor of a busy task segment. -/
def markBusy (word : BitVec 128) : BitVec 128 :=
  word ||| 1#128 <<< 41

/-- `ltr`: the descriptor must be that of a task segment that no processor uses. -/
def loadTaskRegister (memory : ByteMemory) (gdt : TableInfo) (sel : BitVec 16) :
    Option (ByteMemory × TaskRegister) :=
  let offset := sel &&& ~~~7#16
  let word := load 128 memory (gdt.base + offset.setWidth 64)
  let segment := decodeSystemSegment word
  if offset ≠ 0 ∧ offset.toNat + 15 ≤ gdt.limit.toNat ∧ segment.nonsys = 0 ∧ segment.type = 9 ∧
      segment.present = 1 then
    some (memory.store (gdt.base + offset.setWidth 64) (markBusy word),
      { base := segment.base, limit := segment.limitBytes })
  else
    none

/-- Where a processor goes when it takes an interrupt. -/
structure Target where
  handler : BitVec 64
  segment : BitVec 16
  stack : BitVec 64
  deriving DecidableEq

/-- What the processor makes of its tables for a vector; `none` is a fault, or a kind of gate or
selector that this code never makes. -/
def interruptTarget (memory : ByteMemory) (registers : TableRegisters) (vector : Nat) :
    Option Target :=
  let gate := decodeGate (load 128 memory
    (registers.idt.base + BitVec.ofNat 64 (vector * idtDescSize)))
  let code := decodeSegment (load 64 memory (registers.gdt.base + gate.selector.setWidth 64))
  let stackOffset := istsOffset + (gate.ist.toNat - 1) * 8
  if vector * idtDescSize + 15 ≤ registers.idt.limit.toNat ∧ gate.present = 1 ∧
      gate.nonsys = 0 ∧ gate.type = 0xE ∧ gate.ist ≠ 0 ∧
      gate.selector &&& 7 = 0 ∧ gate.selector.toNat + 7 ≤ registers.gdt.limit.toNat ∧
      code.isLongCode ∧
      stackOffset + 7 ≤ registers.task.limit then
    some {
      handler := gate.offset
      segment := gate.selector
      stack := load 64 memory (registers.task.base + BitVec.ofNat 64 stackOffset) }
  else
    none

/-! ## Loading the tables -/

/-- `load_gdt_idt_tr`. -/
def loadGdtIdtTr (places : Places) (memory : ByteMemory) (cpu : Nat) :
    Option (ByteMemory × TableRegisters) := do
  let gdti : TableInfo :=
    { limit := BitVec.ofNat 16 (3 * gdtDescSize + places.cpus * gdtDesc2Size - 1)
      base := places.base .gdt }
  let idti : TableInfo :=
    { limit := BitVec.ofNat 16 (idtDescSize * intVectors - 1), base := places.base .idt }
  let sel := BitVec.ofNat 16 (gdtDescSize * 3 + gdtDesc2Size * cpu)
  let (memory, task) ← loadTaskRegister memory gdti sel
  some (memory, { gdt := gdti, idt := idti, task := task })

/-- The tables in memory, and the registers of the processors that have loaded them. -/
structure Tables where
  memory : ByteMemory
  registers : Nat → Option TableRegisters

/-- `init_interrupts`, called on a processor. -/
def initInterrupts (places : Places) (defaultIsr : Nat → BitVec 64) (tables : Tables)
    (cpu : Nat) : Option Tables := do
  let memory :=
    if cpu = places.bspCpu then createIdt places defaultIsr (createGdt places tables.memory)
    else tables.memory
  let (memory, registers) ← loadGdtIdtTr places memory cpu
  some { memory := memory
         registers := Function.update tables.registers cpu (some registers) }

/-! ## Runs -/

namespace Tables

/-- The memory when the boot processor enters `boot64`: the boot code has built its table, and
`idt` is zero. -/
def Initial (places : Places) (tables : Tables) : Prop :=
  (∃ memory, tables.memory = createBootGdt places memory ∧
    ∀ vector < intVectors, load 128 memory (places.slot .idt (vector * idtDescSize)) = 0) ∧
  ∀ cpu, tables.registers cpu = none

/-- The steps: processors that boot, calls of `set_isr`, and writes elsewhere. -/
inductive Action
  | init (cpu : Nat)
  | setIsr (vector : Nat) (isr : BitVec 64)
  | write (address : BitVec 64) (byte : BitVec 8)

/-- A byte outside the tables. -/
def Outside (places : Places) (address : BitVec 64) : Prop :=
  ∀ table ∈ [Table.gdt, .idt, .taskSegments],
    Apart address 1 (places.base table) (table.size places.cpus)

instance (places : Places) (address : BitVec 64) : Decidable (Outside places address) :=
  inferInstanceAs (Decidable (∀ _ ∈ _, _))

/-- One step.  The other processors boot when the boot processor has built the tables; each
processor boots once, and none whose descriptor is not there. -/
def step (places : Places) (defaultIsr : Nat → BitVec 64) (tables : Tables) :
    Action → Option Tables
  | .init cpu =>
      if cpu < places.cpus ∧ tables.registers cpu = none ∧
          (cpu = places.bspCpu ∨ (tables.registers places.bspCpu).isSome) then
        initInterrupts places defaultIsr tables cpu
      else
        none
  | .setIsr vector isr =>
      if vector < intVectors ∧ (tables.registers places.bspCpu).isSome then
        some { tables with memory := Interrupts.setIsr places tables.memory vector isr }
      else
        none
  | .write address byte =>
      if Outside places address then
        some { tables with memory := tables.memory.store address byte }
      else
        none

end Tables

/-- The tables as a transition system. -/
def tableSystem (places : Places) (defaultIsr : Nat → BitVec 64) :
    TransitionSystem Tables Tables.Action where
  initial := Tables.Initial places
  step := Tables.step places defaultIsr

end Interrupts
end ToyKernel
