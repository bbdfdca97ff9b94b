import ToyKernel.Interrupts.Delivery
import ToyKernel.Interrupts.Contexts
import Mathlib.Tactic.Abel

/-!
# The tables in every run

Processors boot in any order, handlers are set at any time, and whatever the kernel writes
elsewhere: the tables stay what the processors need.
-/

namespace ToyKernel
namespace Interrupts

open Amd64 ByteMemory

namespace Tables

variable {places : Places} {defaultIsr : Nat → BitVec 64} {tables next : Tables}
  {action : Action} {cpu vector : Nat} {memory later : ByteMemory}

/-! ## The invariant -/

/-- Before the boot processor builds the tables. -/
structure Unbuilt (places : Places) (tables : Tables) : Prop where
  code : load 64 tables.memory (places.slot .gdt gdtDescSize) = codeDesc.word
  gates : ∀ vector < intVectors, readIdtDesc places tables.memory vector = .zeroed
  registers : ∀ cpu, tables.registers cpu = none

/-- The tables in memory, with the processors whose task segments are not in use. -/
structure Holds (places : Places) (free : Nat → Prop) (memory : ByteMemory) : Prop where
  code : load 64 memory (places.slot .gdt gdtDescSize) = codeDesc.word
  gates : ∃ isrs, Gates places memory isrs
  ists : ∀ cpu < places.cpus, load 64 memory
    (places.slot .taskSegments (cpu * taskSegmentSize + istsOffset)) = places.isrStack cpu
  descs : ∀ cpu < places.cpus, free cpu → load 128 memory (places.slot .gdt (tssDescOffset cpu)) =
    (tssDesc (places.taskSegment cpu)).word

/-- Afterwards. -/
structure Built (places : Places) (tables : Tables) : Prop where
  holds : Holds places (tables.registers · = none) tables.memory
  registers : ∀ cpu, ∀ registers ∈ tables.registers cpu,
    cpu < places.cpus ∧ registers = loadedRegisters places cpu
  booted : (tables.registers places.bspCpu).isSome

/-- What holds in every state. -/
def Sound (places : Places) (tables : Tables) : Prop :=
  Unbuilt places tables ∨ Built places tables

/-- What `create_gdt` and `create_idt` make of the memory. -/
theorem Unbuilt.create (unbuilt : Unbuilt places tables) (defaultIsr : Nat → BitVec 64) :
    Holds places (fun _ => True)
      (createIdt places defaultIsr (createGdt places tables.memory)) := by
  have created := created_createGdt places tables.memory
  refine ⟨?_, ⟨_, gates_createIdt defaultIsr fun vector isVector => ?_⟩, fun cpu inside => ?_,
    fun cpu inside _ => ?_⟩
  · rw [load_createIdt defaultIsr rfl (by decide) ⟨code_inside places, by decide⟩, created.code,
      unbuilt.code]
  · rw [readIdtDesc, created.gates vector isVector, ← readIdtDesc, unbuilt.gates vector isVector]
  · rw [load_createIdt defaultIsr rfl (by decide) ⟨ists_inside inside, by decide⟩,
      created.ists cpu inside]
  · rw [load_createIdt defaultIsr rfl (by decide) ⟨tssDesc_inside inside, by decide⟩,
      created.descs cpu inside]

/-- A processor marks its task segment busy and leaves the rest. -/
theorem Holds.load {free : Nat → Prop} (holds : Holds places free memory)
    (inside : cpu < places.cpus) (word : BitVec 128) :
    Holds places (fun other => free other ∧ other ≠ cpu)
      (memory.store (places.slot .gdt (tssDescOffset cpu)) word) := by
  obtain ⟨isrs, gates⟩ := holds.gates
  refine ⟨?_, ⟨isrs, gates.congr fun vector isVector => ?_⟩, fun other alsoInside => ?_,
    fun other alsoInside isFree => ?_⟩
  · refine (load_store_slot places rfl word (.inr (.inr ?_)) ⟨tssDesc_inside inside, by decide⟩
      ⟨code_inside places, by decide⟩).trans holds.code
    simp only [tssDescOffset, gdtDescSize, gdtDesc2Size]
    omega
  · exact load_store_slot places rfl word (.inl (by decide)) ⟨tssDesc_inside inside, by decide⟩
      ⟨gate_inside isVector, by decide⟩
  · exact (load_store_slot places rfl word (.inl (by decide))
      ⟨tssDesc_inside inside, by decide⟩ ⟨ists_inside alsoInside, by decide⟩).trans
        (holds.ists other alsoInside)
  · refine (load_store_slot places rfl word (.inr ?_) ⟨tssDesc_inside inside, by decide⟩
      ⟨tssDesc_inside alsoInside, by decide⟩).trans (holds.descs other alsoInside isFree.1)
    have different := isFree.2
    simp only [tssDescOffset, gdtDescSize, gdtDesc2Size]
    omega

theorem Holds.setIsr {free : Nat → Prop} (holds : Holds places free memory)
    (isVector : vector < intVectors) (isr : BitVec 64) :
    Holds places free (Interrupts.setIsr places memory vector isr) := by
  obtain ⟨isrs, gates⟩ := holds.gates
  refine ⟨?_, ⟨_, gates.setIsr isVector isr⟩, fun cpu inside => ?_, fun cpu inside isFree => ?_⟩
  · exact (load_writeIdtDesc rfl isVector (.inl (by decide))
      ⟨code_inside places, by decide⟩).trans holds.code
  · exact (load_writeIdtDesc rfl isVector (.inl (by decide))
      ⟨ists_inside inside, by decide⟩).trans (holds.ists cpu inside)
  · exact (load_writeIdtDesc rfl isVector (.inl (by decide))
      ⟨tssDesc_inside inside, by decide⟩).trans (holds.descs cpu inside isFree)

theorem outside_all {address : BitVec 64} (outside : Outside places address) (table : Table) :
    Apart address 1 (places.base table) (table.size places.cpus) :=
  outside table (by cases table <;> decide)

/-- A word of a table when a byte elsewhere is written. -/
theorem load_write {address : BitVec 64} (outside : Outside places address) (byte : BitVec 8)
    {wide position : Nat} {table : Table} (whole : wide % 8 = 0)
    (isSlot : position + wide / 8 ≤ table.size places.cpus ∧ 0 < wide / 8) :
    ByteMemory.load wide (memory.store address byte) (places.slot table position) =
      ByteMemory.load wide memory (places.slot table position) := by
  have small := table.size_le places
  have within : Apart (address + BitVec.ofNat 64 0) 1
      (places.base table + BitVec.ofNat 64 position) (wide / 8) :=
    (outside_all outside table).within (by omega) isSlot.1 (by omega) (by omega) (by decide)
      isSlot.2
  rw [BitVec.add_zero] at within
  exact load_store_of_apart whole byte within

theorem Holds.write {free : Nat → Prop} {address : BitVec 64}
    (holds : Holds places free memory) (outside : Outside places address) (byte : BitVec 8) :
    Holds places free (memory.store address byte) := by
  obtain ⟨isrs, gates⟩ := holds.gates
  refine ⟨?_, ⟨isrs, gates.congr fun vector isVector => ?_⟩, fun cpu inside => ?_,
    fun cpu inside isFree => ?_⟩
  · exact (load_write outside byte rfl ⟨code_inside places, by decide⟩).trans holds.code
  · exact load_write outside byte rfl ⟨gate_inside isVector, by decide⟩
  · exact (load_write outside byte rfl ⟨ists_inside inside, by decide⟩).trans
      (holds.ists cpu inside)
  · exact (load_write outside byte rfl ⟨tssDesc_inside inside, by decide⟩).trans
      (holds.descs cpu inside isFree)

/-! ## Steps -/

theorem Holds.mono {free fewer : Nat → Prop} (holds : Holds places free memory)
    (isFree : ∀ cpu, fewer cpu → free cpu) : Holds places fewer memory :=
  ⟨holds.code, holds.gates, holds.ists, fun cpu inside still =>
    holds.descs cpu inside (isFree cpu still)⟩

/-- The state behind the boot of a processor. -/
def withLoaded (places : Places) (tables : Tables) (memory : ByteMemory) (cpu : Nat) : Tables where
  memory := memory
  registers := Function.update tables.registers cpu (some (loadedRegisters places cpu))

theorem withLoaded_self : (withLoaded places tables memory cpu).registers cpu =
    some (loadedRegisters places cpu) := Function.update_self ..

theorem withLoaded_of_ne {other : Nat} (different : other ≠ cpu) :
    (withLoaded places tables memory cpu).registers other = tables.registers other :=
  Function.update_of_ne different ..

/-- A processor that boots loads the tables. -/
theorem Sound.init (sound : Sound places tables) (defaultIsr : Nat → BitVec 64)
    (inside : cpu < places.cpus) (first : tables.registers cpu = none)
    (inOrder : cpu = places.bspCpu ∨ (tables.registers places.bspCpu).isSome) :
    ∃ memory, initInterrupts places defaultIsr tables cpu =
        some (withLoaded places tables memory cpu) ∧
      Built places (withLoaded places tables memory cpu) := by
  obtain ⟨memory, isMemory⟩ : ∃ memory, memory =
      if cpu = places.bspCpu then createIdt places defaultIsr (createGdt places tables.memory)
      else tables.memory := ⟨_, rfl⟩
  have holds : Holds places (tables.registers · = none) memory := by
    obtain unbuilt | built := sound
    · have isBsp : cpu = places.bspCpu := inOrder.resolve_right (by
        rw [unbuilt.registers places.bspCpu]
        exact Bool.false_ne_true)
      rw [isMemory, if_pos isBsp]
      exact (unbuilt.create defaultIsr).mono fun _ _ => trivial
    · have notBsp : cpu ≠ places.bspCpu := by
        rintro rfl
        have booted := built.booted
        rw [first] at booted
        cases booted
      rw [isMemory, if_neg notBsp]
      exact built.holds
  have others : ∀ other, ∀ registers ∈ tables.registers other,
      other < places.cpus ∧ registers = loadedRegisters places other := by
    intro other registers loaded
    obtain unbuilt | built := sound
    · rw [unbuilt.registers other] at loaded
      exact absurd loaded (Option.not_mem_none registers)
    · exact built.registers other registers loaded
  refine ⟨memory.store (places.slot .gdt (tssDescOffset cpu))
    (markBusy (tssDesc (places.taskSegment cpu)).word), ?_, (holds.load inside _).mono
      fun other isFree => ?_, fun other registers loaded => ?_, ?_⟩
  · rw [initInterrupts, ← isMemory, loadGdtIdtTr_eq inside (holds.descs cpu inside first)]
    rfl
  · obtain rfl | different := eq_or_ne other cpu
    · rw [withLoaded_self] at isFree
      cases isFree
    · rw [withLoaded_of_ne different] at isFree
      exact ⟨isFree, different⟩
  · obtain rfl | different := eq_or_ne other cpu
    · rw [withLoaded_self] at loaded
      exact ⟨inside, (Option.some.inj loaded).symm⟩
    · rw [withLoaded_of_ne different] at loaded
      exact others other registers loaded
  · obtain rfl | different := eq_or_ne places.bspCpu cpu
    · rw [withLoaded_self]
      rfl
    · rw [withLoaded_of_ne different]
      exact inOrder.resolve_left different.symm

theorem Sound.setIsr (sound : Sound places tables) (isVector : vector < intVectors)
    (booted : (tables.registers places.bspCpu).isSome) (isr : BitVec 64) :
    Built places { tables with memory := Interrupts.setIsr places tables.memory vector isr } := by
  obtain unbuilt | built := sound
  · rw [unbuilt.registers places.bspCpu] at booted
    cases booted
  · exact ⟨built.holds.setIsr isVector isr, built.registers, built.booted⟩

theorem Sound.write {address : BitVec 64} (sound : Sound places tables)
    (outside : Outside places address) (byte : BitVec 8) :
    Sound places { tables with memory := tables.memory.store address byte } := by
  obtain unbuilt | built := sound
  · refine .inl ⟨?_, fun vector isVector => ?_, unbuilt.registers⟩
    · exact (load_write outside byte rfl ⟨code_inside places, by decide⟩).trans unbuilt.code
    · rw [readIdtDesc, load_write outside byte rfl ⟨gate_inside isVector, by decide⟩,
        ← readIdtDesc, unbuilt.gates vector isVector]
  · exact .inr ⟨built.holds.write outside byte, built.registers, built.booted⟩

theorem Sound.step (sound : Sound places tables)
    (taken : Tables.step places defaultIsr tables action = some next) : Sound places next := by
  cases action with
  | init cpu =>
      obtain ⟨⟨inside, first, inOrder⟩, taken⟩ := Option.ite_none_right_eq_some.mp taken
      obtain ⟨result, loads, built⟩ := sound.init defaultIsr inside first inOrder
      obtain rfl := Option.some.inj (loads.symm.trans taken)
      exact .inr built
  | setIsr vector isr =>
      obtain ⟨⟨isVector, booted⟩, isNext⟩ := Option.ite_none_right_eq_some.mp taken
      obtain rfl := Option.some.inj isNext
      exact .inr (sound.setIsr isVector booted isr)
  | write address byte =>
      obtain ⟨outside, isNext⟩ := Option.ite_none_right_eq_some.mp taken
      obtain rfl := Option.some.inj isNext
      exact sound.write outside byte

theorem sound_of_initial (initial : Initial places tables) : Sound places tables := by
  obtain ⟨⟨memory, isMemory, zero⟩, registers⟩ := initial
  refine .inl ⟨?_, fun vector isVector => ?_, registers⟩
  · rw [isMemory, createBootGdt, load_store_slot places rfl _ (.inr (.inr (by decide)))
      ⟨Nat.le_of_ble_eq_true rfl, by decide⟩ ⟨code_inside places, by decide⟩]
    exact load_store rfl (by decide) ..
  · have same :
        ByteMemory.load 128 tables.memory (places.slot .idt (vector * idtDescSize)) = 0 := by
      rw [isMemory, createBootGdt, load_store_slot places rfl _ (.inl (by decide))
        ⟨Nat.le_of_ble_eq_true rfl, by decide⟩ ⟨gate_inside isVector, by decide⟩,
        load_store_slot places rfl _ (.inl (by decide))
        ⟨code_inside places, by decide⟩ ⟨gate_inside isVector, by decide⟩, zero vector isVector]
    rw [readIdtDesc, same]
    rfl

theorem sound_of_reachable (reached : (tableSystem places defaultIsr).Reachable tables) :
    Sound places tables :=
  reached.invariant (fun _ => sound_of_initial) fun _ _ _ sound taken => sound.step taken

/-- In every state that the kernel can reach, a processor that boots loads the tables without a
fault. -/
theorem init_loads (reached : (tableSystem places defaultIsr).Reachable tables)
    (inside : cpu < places.cpus) (first : tables.registers cpu = none)
    (inOrder : cpu = places.bspCpu ∨ (tables.registers places.bspCpu).isSome) :
    ∃ next, initInterrupts places defaultIsr tables cpu = some next ∧
      next.registers cpu = some (loadedRegisters places cpu) := by
  obtain ⟨memory, loads, -⟩ := (sound_of_reachable reached).init defaultIsr inside first inOrder
  exact ⟨_, loads, Function.update_self ..⟩

/-- A processor other than the boot processor leaves the handlers as they are. -/
theorem init_other (reached : (tableSystem places defaultIsr).Reachable tables)
    (inside : cpu < places.cpus) (first : tables.registers cpu = none)
    (booted : (tables.registers places.bspCpu).isSome) (other : cpu ≠ places.bspCpu) :
    ∃ memory, initInterrupts places defaultIsr tables cpu =
        some (withLoaded places tables memory cpu) ∧
      ∀ vector < intVectors, getIsr places memory vector = getIsr places tables.memory vector := by
  obtain unbuilt | built := sound_of_reachable reached
  · rw [unbuilt.registers places.bspCpu] at booted
    cases booted
  · refine ⟨tables.memory.store (places.slot .gdt (tssDescOffset cpu))
      (markBusy (tssDesc (places.taskSegment cpu)).word), ?_, fun vector isVector => ?_⟩
    · rw [initInterrupts, if_neg other,
        loadGdtIdtTr_eq inside (built.holds.descs cpu inside first)]
      rfl
    · rw [getIsr, readIdtDesc, load_store_slot places rfl _ (.inl (by decide))
        ⟨tssDesc_inside inside, by decide⟩ ⟨gate_inside isVector, by decide⟩, ← readIdtDesc,
        ← getIsr]

/-- So do writes elsewhere. -/
theorem getIsr_write {address : BitVec 64} (outside : Outside places address) (byte : BitVec 8)
    (isVector : vector < intVectors) :
    getIsr places (memory.store address byte) vector = getIsr places memory vector := by
  rw [getIsr, readIdtDesc, load_write outside byte rfl ⟨gate_inside isVector, by decide⟩,
    ← readIdtDesc, ← getIsr]

/-! ## Interrupts -/

/-- The gate of a vector with a handler. -/
theorem gate_setIsr (vector : Nat) (isr : BitVec 64) : ((blankDesc vector).setIsr isr).gate =
    { offset := isr
      selector := if isIntReserved vector then 0 else segmentCode
      ist := if isIntReserved vector then 0 else 1
      type := if isIntReserved vector then 0 else 0xE
      nonsys := 0
      present := if isr = 0 then 0 else 1 } := by
  simp only [IdtDesc.gate, IdtDesc.setIsr, address_split, blankDesc]
  split <;> rfl

/-- What a processor makes of the tables. -/
theorem Holds.target {free : Nat → Prop} (holds : Holds places free memory)
    (inside : cpu < places.cpus) (vector : Nat) :
    interruptTarget memory (loadedRegisters places cpu) vector =
      if vector < intVectors ∧ isIntReserved vector = false ∧ getIsr places memory vector ≠ 0 then
        some {
          handler := getIsr places memory vector
          segment := segmentCode
          stack := places.isrStack cpu }
      else
        none := by
  obtain ⟨isrs, gates⟩ := holds.gates
  by_cases isVector : vector < intVectors
  · have gate : decodeGate (ByteMemory.load 128 memory ((loadedRegisters places cpu).idt.base +
        BitVec.ofNat 64 (vector * idtDescSize))) =
          ((blankDesc vector).setIsr (isrs vector)).gate := by
      rw [decodeGate_eq, ← gates vector isVector]
      rfl
    have ist : ByteMemory.load 64 memory ((loadedRegisters places cpu).task.base +
        BitVec.ofNat 64 istsOffset) = places.isrStack cpu := by
      rw [← holds.ists cpu inside, Places.slot, BitVec.ofNat_add, ← BitVec.add_assoc]
      rfl
    have code : decodeSegment (ByteMemory.load 64 memory
        ((loadedRegisters places cpu).gdt.base + BitVec.setWidth 64 segmentCode)) =
          decodeSegment codeDesc.word := congrArg decodeSegment holds.code
    have fits : vector * idtDescSize + 15 ≤
        (loadedRegisters places cpu).idt.limit.toNat := by
      show vector * 16 + 15 ≤ 559
      rw [intVectors] at isVector
      omega
    have selector : segmentCode.toNat + 7 ≤ (loadedRegisters places cpu).gdt.limit.toNat := by
      have few := places.cpus_le
      rw [configMaxCpus] at few
      show 8 + 7 ≤ (24 + places.cpus * 16 - 1) % 2 ^ 16
      omega
    rw [interruptTarget, gate, gate_setIsr, gates.getIsr isVector]
    dsimp only
    by_cases reserved : isIntReserved vector = true
    · rw [if_pos reserved, if_neg, if_neg]
      · exact fun taken => Bool.false_ne_true (taken.2.1.symm.trans reserved)
      · rintro ⟨-, -, -, isGate, -⟩
        exact absurd isGate (by decide)
    · rw [if_neg reserved, if_neg reserved, if_neg reserved]
      by_cases noHandler : isrs vector = 0
      · rw [if_pos noHandler, if_neg, if_neg]
        · exact fun taken => taken.2.2 noHandler
        · rintro ⟨-, isPresent, -⟩
          exact absurd isPresent (by decide)
      · rw [if_neg noHandler, if_pos, if_pos]
        · exact congrArg (fun stack => some (Target.mk (isrs vector) segmentCode stack)) ist
        · exact ⟨isVector, Bool.eq_false_of_not_eq_true reserved, noHandler⟩
        · rw [code]
          exact ⟨fits, rfl, rfl, rfl, by decide, by decide, selector, by decide,
            Nat.le_of_ble_eq_true rfl⟩
  · have above : ¬ vector * idtDescSize + 15 ≤
        (loadedRegisters places cpu).idt.limit.toNat := by
      show ¬ vector * 16 + 15 ≤ 559
      rw [intVectors] at isVector
      omega
    rw [interruptTarget, if_neg fun taken => above taken.1, if_neg fun taken => isVector taken.1]

theorem Sound.target {registers : TableRegisters} (sound : Sound places tables)
    (loaded : tables.registers cpu = some registers) (vector : Nat) :
    interruptTarget tables.memory registers vector =
      if vector < intVectors ∧ isIntReserved vector = false ∧
          getIsr places tables.memory vector ≠ 0 then
        some {
          handler := getIsr places tables.memory vector
          segment := segmentCode
          stack := places.isrStack cpu }
      else
        none := by
  obtain unbuilt | built := sound
  · rw [unbuilt.registers cpu] at loaded
    cases loaded
  · obtain ⟨inside, rfl⟩ := built.registers cpu registers loaded
    exact built.holds.target inside vector

/-- In every state that the kernel can reach, a processor that has loaded the tables takes an
interrupt exactly if the vector is not reserved and has a handler, and then it enters the handler
that was set last, on its own stack. -/
theorem interrupts_reach {registers : TableRegisters}
    (reached : (tableSystem places defaultIsr).Reachable tables)
    (loaded : tables.registers cpu = some registers) (vector : Nat) :
    interruptTarget tables.memory registers vector =
      if vector < intVectors ∧ isIntReserved vector = false ∧
          getIsr places tables.memory vector ≠ 0 then
        some {
          handler := getIsr places tables.memory vector
          segment := segmentCode
          stack := places.isrStack cpu }
      else
        none :=
  (sound_of_reachable reached).target loaded vector

end Tables

/-! ## The stacks -/

/-- How far the processor moves a stack to align it. -/
theorem align_skips (stack : BitVec 64) :
    ∃ skipped < 16, stack &&& ~~~15#64 = stack - BitVec.ofNat 64 skipped := by
  refine ⟨stack.toNat % 16, Nat.mod_lt _ (by decide), ?_⟩
  have less := Nat.mod_le stack.toNat 16
  have small : stack.toNat % 16 < 16 := Nat.mod_lt _ (by decide)
  apply BitVec.eq_of_toNat_eq
  rw [and_not_15, BitVec.toNat_sub, BitVec.toNat_ofNat]
  generalize stack.toNat % 16 = skipped at less small ⊢
  omega

/-- The end of the part of a processor, above the bytes that it uses. -/
theorem below_end (cpu : Nat) {used size : Nat} (fits : used ≤ size) :
    (cpu + 1) * size = cpu * size + (size - used) + used := by
  rw [Nat.succ_mul, Nat.add_assoc, Nat.sub_add_cancel fits]

theorem top_sub (base : BitVec 64) (start skipped frame code : Nat) :
    base + BitVec.ofNat 64 (start + (skipped + frame + code)) - BitVec.ofNat 64 skipped -
      BitVec.ofNat 64 frame - BitVec.ofNat 64 code = base + BitVec.ofNat 64 start := by
  rw [BitVec.ofNat_add start, BitVec.ofNat_add (skipped + frame), BitVec.ofNat_add skipped,
    sub_sub, sub_sub, ← add_assoc base, ← add_assoc (BitVec.ofNat 64 skipped),
    add_sub_cancel_right]

/-- The bytes that an interrupt writes are in the part of `isr_stacks` that belongs to the
processor. -/
theorem interrupt_area (places : Places) (cpu : Nat) :
    ∃ position, position + (frameSize + 8) ≤ configIsrStackSize ∧
      frameAt (places.isrStack cpu) - 8 =
        places.isrStacks + BitVec.ofNat 64 (cpu * configIsrStackSize + position) := by
  obtain ⟨skipped, small, isSkipped⟩ := align_skips (places.isrStack cpu)
  have fits : skipped + frameSize + 8 ≤ configIsrStackSize := by
    simp only [configIsrStackSize, frameSize]
    omega
  refine ⟨configIsrStackSize - (skipped + frameSize + 8), ?_, ?_⟩
  · omega
  · rw [frameAt, isSkipped, Places.isrStack, below_end cpu fits]
    exact top_sub ..

/-- The processors do not write to the frames of each other. -/
theorem isrStacks_apart (places : Places) {cpu other : Nat} (inside : cpu < places.cpus)
    (alsoInside : other < places.cpus) (different : cpu ≠ other) :
    Apart (frameAt (places.isrStack cpu) - 8) (frameSize + 8)
      (frameAt (places.isrStack other) - 8) (frameSize + 8) := by
  have few := places.cpus_le
  rw [configMaxCpus] at few
  obtain ⟨position, fits, address⟩ := interrupt_area places cpu
  obtain ⟨otherPosition, otherFits, otherAddress⟩ := interrupt_area places other
  rw [configIsrStackSize, frameSize] at fits otherFits
  rw [address, otherAddress, configIsrStackSize, frameSize]
  obtain less | greater := Nat.lt_or_gt_of_ne different
  · exact apart_offsets _ (by omega) (by omega) (by decide) (by decide)
  · exact (apart_offsets _ (by omega) (by omega) (by decide) (by decide)).symm

/-- The stacks that `create_gdt` allocates make a layout with threads that are elsewhere. -/
def Places.layout (places : Places) (threads : List Address)
    (threadsApart : ∀ thread ∈ threads, ∀ other ∈ threads, thread ≠ other →
      Apart (contextAt thread) threadArea (contextAt other) threadArea)
    (elsewhere : ∀ cpu < places.cpus, ∀ thread ∈ threads,
      Apart (frameAt (places.isrStack cpu) - 8) (frameSize + 8) (contextAt thread) threadArea) :
    Layout where
  cpus := places.cpus
  stack := places.isrStack
  threads := threads
  stacks_apart _ inside _ alsoInside different := isrStacks_apart places inside alsoInside different
  threads_apart := threadsApart
  stacks_threads := elsewhere

/-- An interrupt through the tables enters its handler as the handlers of a layout are entered. -/
theorem interrupt_enters {places : Places} {defaultIsr : Nat → BitVec 64} {tables : Tables}
    {registers : TableRegisters} {cpu vector : Nat} {isr : Isr} (status : Status)
    (errorCode : Option (BitVec 64)) (machine : Machine)
    (reached : (tableSystem places defaultIsr).Reachable tables)
    (loaded : tables.registers cpu = some registers)
    (isVector : vector < intVectors ∧ isIntReserved vector = false)
    (isHandler : getIsr places tables.memory vector = isr.address ∧ isr.address ≠ 0) :
    ∃ target entered, interruptTarget tables.memory registers vector = some target ∧
      run status (isrEntry isr)
        (deliver machine target.stack target.handler target.segment errorCode) = some entered ∧
      Entered isr (places.isrStack cpu) errorCode machine entered := by
  obtain ⟨entered, taken, isEntered⟩ :=
    enter_spec status isr (places.isrStack cpu) errorCode machine
  have target := (Tables.sound_of_reachable reached).target loaded vector
  rw [if_pos ⟨isVector.1, isVector.2, by rw [isHandler.1]; exact isHandler.2⟩] at target
  refine ⟨_, entered, target, ?_, isEntered⟩
  rw [isHandler.1]
  exact taken

/-! ## Two processors that boot -/

/-- Where the tables of two processors are. -/
def twoBases : Table → BitVec 64
  | .gdt => 0x110000
  | .idt => 0x111000
  | .taskSegments => 0x142000

theorem twoBases_apart : ∀ first second : Table, first ≠ second →
    Apart (twoBases first) (first.size 2) (twoBases second) (second.size 2) := by
  intro first second different
  cases first <;> cases second <;> first | exact absurd rfl different | decide +kernel

theorem two_le_configMaxCpus : 2 ≤ configMaxCpus := by decide

/-- The tables of two processors. -/
def twoTables : Places where
  base := twoBases
  isrStacks := 0x140000
  cpus := 2
  bspCpu := 0
  cpus_le := two_le_configMaxCpus
  bspCpu_lt := Nat.two_pos
  apart := twoBases_apart

/-- Before the boot processor builds them. -/
def unbuilt : Tables where
  memory := createBootGdt twoTables fun _ => 0
  registers _ := none

theorem unbuilt_initial : unbuilt.Initial twoTables :=
  ⟨⟨fun _ => 0, rfl, fun _ _ => load_zero rfl _⟩, fun _ => rfl⟩

/-- The addresses of the default handlers. -/
def someIsrs (vector : Nat) : BitVec 64 :=
  0x106000 + BitVec.ofNat 64 (vector * 64)

/-- The boot processor boots, the driver of the keyboard sets its handler, and the other processor
boots. -/
def bothBoot : List Tables.Action := [.init 0, .setIsr 33 someIsr.address, .init 1]

theorem bothBoot_runs : ∃ tables, (tableSystem twoTables someIsrs).exec unbuilt bothBoot =
    some tables ∧ tables.registers 1 = some (loadedRegisters twoTables 1) ∧
      getIsr twoTables tables.memory 33 = someIsr.address := by
  obtain ⟨tables, executed, holds⟩ := (Option.any_eq_true _ _).mp
    (show ((tableSystem twoTables someIsrs).exec unbuilt bothBoot).any (fun tables =>
      tables.registers 1 = some (loadedRegisters twoTables 1) ∧
        getIsr twoTables tables.memory 33 = someIsr.address) = true by decide +kernel)
  exact ⟨tables, executed, of_decide_eq_true holds⟩

/-- The second processor loads the tables. -/
theorem init_loads_second : ∃ tables next,
    (tableSystem twoTables someIsrs).exec unbuilt (bothBoot.take 2) = some tables ∧
      initInterrupts twoTables someIsrs tables 1 = some next ∧
      next.registers 1 = some (loadedRegisters twoTables 1) := by
  obtain ⟨tables, executed, holds⟩ := (Option.any_eq_true _ _).mp
    (show ((tableSystem twoTables someIsrs).exec unbuilt (bothBoot.take 2)).any (fun tables =>
      tables.registers 1 = none ∧ (tables.registers 0).isSome) = true by decide +kernel)
  obtain ⟨first, booted⟩ := of_decide_eq_true holds
  obtain ⟨next, loads, registers⟩ := Tables.init_loads
    (TransitionSystem.reachable_of_exec unbuilt_initial executed) (by decide) first (.inr booted)
  exact ⟨tables, next, executed, loads, registers⟩

/-- The second processor enters the handler of the keyboard. -/
theorem interrupts_reach_keyboard : ∃ tables,
    (tableSystem twoTables someIsrs).exec unbuilt bothBoot = some tables ∧
      interruptTarget tables.memory (loadedRegisters twoTables 1) 33 =
        some ⟨someIsr.address, segmentCode, 0x142000⟩ := by
  obtain ⟨tables, executed, loaded, handler⟩ := bothBoot_runs
  have target := Tables.interrupts_reach
    (TransitionSystem.reachable_of_exec unbuilt_initial executed) loaded 33
  rw [handler] at target
  exact ⟨tables, executed, target⟩

theorem interrupt_enters_keyboard : ∃ tables entered,
    (tableSystem twoTables someIsrs).exec unbuilt bothBoot = some tables ∧
      Entered someIsr 0x142000 none ⟨someContext 0x400123, tables.memory⟩ entered := by
  obtain ⟨tables, executed, loaded, handler⟩ := bothBoot_runs
  obtain ⟨-, entered, -, -, isEntered⟩ := interrupt_enters keepFlags none
    ⟨someContext 0x400123, tables.memory⟩
    (TransitionSystem.reachable_of_exec unbuilt_initial executed) loaded (by decide)
    ⟨handler, by decide⟩
  exact ⟨tables, entered, executed, isEntered⟩

end Interrupts
end ToyKernel
