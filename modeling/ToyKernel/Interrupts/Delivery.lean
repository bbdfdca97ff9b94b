import ToyKernel.Interrupts.Tables
import Mathlib.Tactic.IntervalCases

/-!
# Where interrupts go

On every processor that has loaded the tables, in every run, an interrupt goes to the handler that
was last set for its vector, on the stack of the processor, and a processor that boots can load
the tables.
-/

namespace ToyKernel
namespace Interrupts

open ByteMemory

/-! ## Words in the tables -/

section Slots

variable (places : Places) {memory : ByteMemory} {table other : Table}
  {offset position width wide : Nat}

theorem Table.size_le (table : Table) : table.size places.cpus ≤ 2048 := by
  have few := places.cpus_le
  cases table <;> simp only [Table.size, configMaxCpus, taskSegmentSize] at few ⊢
  · decide
  · decide
  · omega

/-- Two ranges of bytes in the tables without a common byte. -/
def Disjoint (table : Table) (offset count : Nat) (other : Table) (position others : Nat) :
    Prop :=
  table ≠ other ∨ offset + count ≤ position ∨ position + others ≤ offset

theorem slots_apart {count others : Nat}
    (disjoint : Disjoint table offset count other position others)
    (inside : offset + count ≤ table.size places.cpus ∧ 0 < count)
    (alsoInside : position + others ≤ other.size places.cpus ∧ 0 < others) :
    Apart (places.slot table offset) count (places.slot other position) others := by
  have small := table.size_le places
  have alsoSmall := other.size_le places
  by_cases same : table = other
  · subst same
    obtain before | after := disjoint.resolve_left (fun different => different rfl)
    · exact apart_offsets _ before (by omega) inside.2 alsoInside.2
    · exact (apart_offsets _ after (by omega) alsoInside.2 inside.2).symm
  · exact (places.apart table other same).within inside.1 alsoInside.1 (by omega) (by omega)
      inside.2 alsoInside.2

/-- A store to one place and a load from another. -/
theorem load_store_slot (whole : wide % 8 = 0) (word : BitVec width)
    (disjoint : Disjoint table offset (width / 8) other position (wide / 8))
    (inside : offset + width / 8 ≤ table.size places.cpus ∧ 0 < width / 8)
    (alsoInside : position + wide / 8 ≤ other.size places.cpus ∧ 0 < wide / 8) :
    load wide (memory.store (places.slot table offset) word) (places.slot other position) =
      load wide memory (places.slot other position) :=
  load_store_of_apart whole word (slots_apart places disjoint inside alsoInside)

end Slots

/-! ## The loop of `create_gdt` -/

section CreateGdt

variable {places : Places} {memory : ByteMemory}

theorem tssDesc_inside {cpu : Nat} (inside : cpu < places.cpus) :
    tssDescOffset cpu + 128 / 8 ≤ Table.gdt.size places.cpus := by
  have few := places.cpus_le
  simp only [configMaxCpus] at few
  simp only [tssDescOffset, Table.size, gdtDescSize, gdtDesc2Size, configMaxCpus]
  omega

theorem ists_inside {cpu : Nat} (inside : cpu < places.cpus) :
    cpu * taskSegmentSize + istsOffset + 64 / 8 ≤ Table.taskSegments.size places.cpus := by
  simp only [Table.size, taskSegmentSize, istsOffset]
  omega

theorem code_inside (places : Places) :
    gdtDescSize + 64 / 8 ≤ Table.gdt.size places.cpus :=
  Nat.le_of_ble_eq_true rfl

/-- What a round leaves alone. -/
theorem load_createTaskSegment {wide position cpu : Nat} {other : Table} (whole : wide % 8 = 0)
    (inside : cpu < places.cpus)
    (gdt : Disjoint .gdt (tssDescOffset cpu) (128 / 8) other position (wide / 8))
    (segments : Disjoint .taskSegments (cpu * taskSegmentSize + istsOffset) (64 / 8) other position
      (wide / 8))
    (isSlot : position + wide / 8 ≤ other.size places.cpus ∧ 0 < wide / 8) :
    load wide (createTaskSegment places memory cpu) (places.slot other position) =
      load wide memory (places.slot other position) := by
  rw [createTaskSegment, load_store_slot places whole _ gdt ⟨tssDesc_inside inside, by decide⟩
    isSlot, load_store_slot places whole _ segments ⟨ists_inside inside, by decide⟩ isSlot]

/-- What a round writes. -/
theorem createTaskSegment_ist {cpu : Nat} (inside : cpu < places.cpus) :
    load 64 (createTaskSegment places memory cpu)
      (places.slot .taskSegments (cpu * taskSegmentSize + istsOffset)) = places.isrStack cpu := by
  rw [createTaskSegment, load_store_slot places rfl _ (.inl (by decide))
    ⟨tssDesc_inside inside, by decide⟩ ⟨ists_inside inside, by decide⟩]
  exact load_store rfl (by decide) ..

theorem createTaskSegment_desc (cpu : Nat) :
    load 128 (createTaskSegment places memory cpu) (places.slot .gdt (tssDescOffset cpu)) =
      (tssDesc (places.taskSegment cpu)).word :=
  load_store rfl (by decide) ..

/-- After so many rounds. -/
structure Created (places : Places) (before : ByteMemory) (rounds : Nat) (memory : ByteMemory) :
    Prop where
  ists : ∀ cpu < rounds, load 64 memory
    (places.slot .taskSegments (cpu * taskSegmentSize + istsOffset)) = places.isrStack cpu
  descs : ∀ cpu < rounds, load 128 memory (places.slot .gdt (tssDescOffset cpu)) =
    (tssDesc (places.taskSegment cpu)).word
  code : load 64 memory (places.slot .gdt gdtDescSize) =
    load 64 before (places.slot .gdt gdtDescSize)
  gates : ∀ vector < intVectors, load 128 memory (places.slot .idt (vector * idtDescSize)) =
    load 128 before (places.slot .idt (vector * idtDescSize))

theorem gate_inside {vector : Nat} (inside : vector < intVectors) :
    vector * idtDescSize + 128 / 8 ≤ Table.idt.size places.cpus := by
  simp only [Table.size, idtDescSize, intVectors] at inside ⊢
  omega

theorem Created.round {before : ByteMemory} {rounds : Nat}
    (created : Created places before rounds memory) (inside : rounds < places.cpus) :
    Created places before (rounds + 1) (createTaskSegment places memory rounds) := by
  refine ⟨fun cpu less => ?_, fun cpu less => ?_, ?_, fun vector isVector => ?_⟩
  · obtain rfl | earlier := Nat.eq_or_lt_of_le (Nat.le_of_lt_succ less)
    · exact createTaskSegment_ist inside
    · refine (load_createTaskSegment rfl inside (.inl (by decide)) (.inr (.inr ?_))
        ⟨ists_inside (earlier.trans inside), by decide⟩).trans (created.ists cpu earlier)
      simp only [taskSegmentSize, istsOffset]
      omega
  · obtain rfl | earlier := Nat.eq_or_lt_of_le (Nat.le_of_lt_succ less)
    · exact createTaskSegment_desc cpu
    · refine (load_createTaskSegment rfl inside (.inr (.inr ?_)) (.inl (by decide))
        ⟨tssDesc_inside (earlier.trans inside), by decide⟩).trans (created.descs cpu earlier)
      simp only [tssDescOffset, gdtDesc2Size]
      omega
  · refine (load_createTaskSegment rfl inside (.inr (.inr ?_)) (.inl (by decide))
      ⟨code_inside places, by decide⟩).trans created.code
    simp only [tssDescOffset, gdtDescSize, gdtDesc2Size]
    omega
  · exact (load_createTaskSegment rfl inside (.inl (by decide)) (.inl (by decide))
      ⟨gate_inside isVector, by decide⟩).trans (created.gates vector isVector)

theorem created_rounds (places : Places) (memory : ByteMemory) {rounds : Nat}
    (inside : rounds ≤ places.cpus) :
    Created places memory rounds
      ((List.range rounds).foldl (createTaskSegment places) memory) := by
  induction rounds with
  | zero =>
      exact ⟨fun _ less => absurd less (Nat.not_lt_zero _),
        fun _ less => absurd less (Nat.not_lt_zero _), rfl, fun _ _ => rfl⟩
  | succ rounds inductionHypothesis =>
      rw [List.range_succ, List.foldl_append, List.foldl_cons, List.foldl_nil]
      exact (inductionHypothesis (Nat.le_of_succ_le inside)).round inside

theorem created_createGdt (places : Places) (memory : ByteMemory) :
    Created places memory places.cpus (createGdt places memory) := by
  have created := created_rounds places
    (memory.fill (places.base .taskSegments) (places.cpus * taskSegmentSize) 0) le_rfl
  have outside : ∀ {other position count}, Table.taskSegments ≠ other →
      position + count ≤ other.size places.cpus ∧ 0 < count →
      Apart (places.base .taskSegments) (places.cpus * taskSegmentSize)
        (places.slot other position) count := by
    intro other position count different isSlot
    have small := Table.taskSegments.size_le places
    have alsoSmall := other.size_le places
    have positive : 0 < places.cpus := Nat.zero_lt_of_lt places.bspCpu_lt
    have within : Apart (places.base .taskSegments + BitVec.ofNat 64 0)
        (places.cpus * taskSegmentSize) (places.slot other position) count :=
      (places.apart .taskSegments other different).within (by simp [Table.size]) isSlot.1
        (by omega) (by omega) (Nat.mul_pos positive (by decide)) isSlot.2
    simpa using within
  refine ⟨created.ists, created.descs, created.code.trans ?_, fun vector isVector =>
    (created.gates vector isVector).trans ?_⟩
  · exact load_fill_of_apart rfl (outside (by decide) ⟨code_inside places, by decide⟩)
  · exact load_fill_of_apart rfl (outside (by decide) ⟨gate_inside isVector, by decide⟩)

end CreateGdt

/-! ## Gates -/

section Gates

variable {places : Places} {memory : ByteMemory} {vector other : Nat} {desc : IdtDesc}
  {isr another : BitVec 64}

theorem readIdtDesc_write (places : Places) (memory : ByteMemory) (vector : Nat)
    (desc : IdtDesc) :
    readIdtDesc places (writeIdtDesc places memory vector desc) vector = desc := by
  rw [readIdtDesc, writeIdtDesc, load_store rfl (by decide), IdtDesc.ofWord_word]

/-- The descriptors do not overlap. -/
theorem load_writeIdtDesc {wide position : Nat} {table : Table} (whole : wide % 8 = 0)
    (isVector : vector < intVectors)
    (disjoint : Disjoint .idt (vector * idtDescSize) (128 / 8) table position (wide / 8))
    (isSlot : position + wide / 8 ≤ table.size places.cpus ∧ 0 < wide / 8) :
    load wide (writeIdtDesc places memory vector desc) (places.slot table position) =
      load wide memory (places.slot table position) :=
  load_store_slot places whole _ disjoint ⟨gate_inside isVector, by decide⟩ isSlot

theorem readIdtDesc_write_of_ne (isVector : vector < intVectors)
    (alsoVector : other < intVectors) (different : other ≠ vector) :
    readIdtDesc places (writeIdtDesc places memory vector desc) other =
      readIdtDesc places memory other := by
  rw [readIdtDesc, load_writeIdtDesc rfl isVector (.inr ?_) ⟨gate_inside alsoVector, by decide⟩,
    ← readIdtDesc]
  simp only [idtDescSize]
  omega

/-- `get_isr` puts together what `set_isr` takes apart. -/
theorem handler_sum (isr : BitVec 64) :
    (isr.setWidth 16).setWidth 64 + ((isr >>> 16).setWidth 16).setWidth 64 <<< 16 +
      ((isr >>> 32).setWidth 32).setWidth 64 <<< 32 = isr := by
  apply BitVec.eq_of_toNat_eq
  simp only [BitVec.toNat_add, BitVec.toNat_shiftLeft, BitVec.toNat_setWidth,
    BitVec.toNat_ushiftRight, Nat.shiftRight_eq_div_pow, Nat.shiftLeft_eq]
  omega

/-- The last `set_isr` counts. -/
theorem IdtDesc.setIsr_setIsr (desc : IdtDesc) (isr another : BitVec 64) :
    (desc.setIsr isr).setIsr another = desc.setIsr another := rfl

theorem getIsr_setIsr (places : Places) (memory : ByteMemory) (vector : Nat)
    (isr : BitVec 64) : getIsr places (setIsr places memory vector isr) vector = isr := by
  rw [getIsr, setIsr, readIdtDesc_write]
  exact handler_sum isr

theorem getIsr_setIsr_of_ne (isVector : vector < intVectors) (alsoVector : other < intVectors)
    (different : other ≠ vector) :
    getIsr places (setIsr places memory vector isr) other = getIsr places memory other := by
  rw [getIsr, setIsr, readIdtDesc_write_of_ne isVector alsoVector different, ← getIsr]

/-- The descriptor of a vector without a handler. -/
def blankDesc (vector : Nat) : IdtDesc :=
  if isIntReserved vector then .zeroed else emptyGate

/-- The table of gates holds these handlers. -/
def Gates (places : Places) (memory : ByteMemory) (isrs : Nat → BitVec 64) : Prop :=
  ∀ vector < intVectors, readIdtDesc places memory vector =
    (blankDesc vector).setIsr (isrs vector)

theorem Gates.setIsr {isrs : Nat → BitVec 64} (gates : Gates places memory isrs)
    (isVector : vector < intVectors) (isr : BitVec 64) :
    Gates places (Interrupts.setIsr places memory vector isr)
      (Function.update isrs vector isr) := by
  intro other alsoVector
  obtain rfl | different := eq_or_ne other vector
  · rw [Interrupts.setIsr, readIdtDesc_write, gates other alsoVector, Function.update_self,
      IdtDesc.setIsr_setIsr]
  · rw [Interrupts.setIsr, readIdtDesc_write_of_ne isVector alsoVector different,
      gates other alsoVector, Function.update_of_ne different]

theorem Gates.getIsr {isrs : Nat → BitVec 64} (gates : Gates places memory isrs)
    (isVector : vector < intVectors) : Interrupts.getIsr places memory vector = isrs vector := by
  rw [Interrupts.getIsr, gates vector isVector]
  exact handler_sum (isrs vector)

theorem Gates.congr {isrs : Nat → BitVec 64} {later : ByteMemory}
    (gates : Gates places memory isrs)
    (same : ∀ vector < intVectors, load 128 later (places.slot .idt (vector * idtDescSize)) =
      load 128 memory (places.slot .idt (vector * idtDescSize))) : Gates places later isrs := by
  intro vector isVector
  rw [readIdtDesc, same vector isVector, ← readIdtDesc, gates vector isVector]

/-- Gates without handlers. -/
theorem blankDesc_setIsr_zero (vector : Nat) :
    (blankDesc vector).setIsr 0 = blankDesc vector := by
  rw [blankDesc]
  split <;> rfl

/-- The loop of `create_idt`: what it has passed is blank, and the reserved vectors are zero as
they were. -/
theorem gates_rounds {rounds : Nat} (inside : rounds ≤ intVectors)
    (zero : ∀ vector < intVectors, readIdtDesc places memory vector = .zeroed) :
    ∀ vector < intVectors,
      readIdtDesc places ((List.range rounds).foldl (createGate places) memory) vector =
        if vector < rounds then blankDesc vector else .zeroed := by
  induction rounds with
  | zero => exact fun vector isVector => zero vector isVector
  | succ rounds inductionHypothesis =>
      intro vector isVector
      rw [List.range_succ, List.foldl_append, List.foldl_cons, List.foldl_nil, createGate]
      have before := inductionHypothesis (Nat.le_of_succ_le inside) vector isVector
      obtain rfl | different := eq_or_ne vector rounds
      · rw [if_pos (Nat.lt_succ_self vector), blankDesc]
        split
        · rw [before, if_neg (Nat.lt_irrefl vector)]
        · rw [readIdtDesc_write]
      · have same : vector < rounds + 1 ↔ vector < rounds := by omega
        simp only [same]
        split
        · exact before
        · rw [readIdtDesc_write_of_ne inside isVector different, before]

theorem gates_setIsrs {isrs : Nat → BitVec 64} (defaultIsr : Nat → BitVec 64)
    (vectors : List Nat) (areVectors : ∀ vector ∈ vectors, vector < intVectors)
    (gates : Gates places memory isrs) :
    Gates places
      (vectors.foldl (fun memory vector =>
        Interrupts.setIsr places memory vector (defaultIsr vector)) memory)
      (fun vector => if vector ∈ vectors then defaultIsr vector else isrs vector) := by
  induction vectors generalizing memory isrs with
  | nil => simpa using gates
  | cons first vectors inductionHypothesis =>
      rw [List.forall_mem_cons] at areVectors
      rw [List.foldl_cons]
      have later := inductionHypothesis areVectors.2
        (gates.setIsr areVectors.1 (defaultIsr first))
      have same : (fun vector => if vector ∈ vectors then defaultIsr vector else
          Function.update isrs first (defaultIsr first) vector) =
          fun vector => if vector ∈ first :: vectors then defaultIsr vector else isrs vector := by
        funext vector
        by_cases isFirst : vector = first
        · simp [isFirst]
        · simp [isFirst]
      rwa [same] at later

/-- The handlers behind `create_idt`. -/
theorem gates_createIdt (defaultIsr : Nat → BitVec 64)
    (zero : ∀ vector < intVectors, readIdtDesc places memory vector = .zeroed) :
    Gates places (createIdt places defaultIsr memory)
      (fun vector => if vector ∈ defaultVectors then defaultIsr vector else 0) := by
  have blank : Gates places ((List.range intVectors).foldl (createGate places) memory)
      fun _ => 0 := by
    intro vector isVector
    rw [gates_rounds le_rfl zero vector isVector, if_pos isVector, blankDesc_setIsr_zero]
  have areVectors : ∀ vector ∈ defaultVectors, vector < intVectors := by decide
  rw [createIdt]
  generalize defaultVectors = vectors at areVectors
  exact gates_setIsrs defaultIsr vectors areVectors blank

/-- The rest of memory behind `create_idt`. -/
theorem load_createIdt (defaultIsr : Nat → BitVec 64) {wide position : Nat} {table : Table}
    (whole : wide % 8 = 0) (notGate : table ≠ .idt)
    (isSlot : position + wide / 8 ≤ table.size places.cpus ∧ 0 < wide / 8) :
    load wide (createIdt places defaultIsr memory) (places.slot table position) =
      load wide memory (places.slot table position) := by
  have written : ∀ {memory vector desc}, vector < intVectors →
      load wide (writeIdtDesc places memory vector desc) (places.slot table position) =
        load wide memory (places.slot table position) :=
    fun isVector => load_writeIdtDesc whole isVector (.inl notGate.symm) isSlot
  have rounds : ∀ rounds ≤ intVectors,
      load wide ((List.range rounds).foldl (createGate places) memory)
        (places.slot table position) = load wide memory (places.slot table position) := by
    intro rounds inside
    induction rounds with
    | zero => rfl
    | succ rounds inductionHypothesis =>
        rw [List.range_succ, List.foldl_append, List.foldl_cons, List.foldl_nil, createGate]
        split
        · exact inductionHypothesis (Nat.le_of_succ_le inside)
        · exact (written inside).trans (inductionHypothesis (Nat.le_of_succ_le inside))
  have set : ∀ (vectors : List Nat) (memory : ByteMemory),
      (∀ vector ∈ vectors, vector < intVectors) →
      load wide (vectors.foldl (fun memory vector =>
        Interrupts.setIsr places memory vector (defaultIsr vector)) memory)
        (places.slot table position) = load wide memory (places.slot table position) := by
    intro vectors
    induction vectors with
    | nil => exact fun _ _ => rfl
    | cons first vectors inductionHypothesis =>
        intro memory areVectors
        rw [List.forall_mem_cons] at areVectors
        exact (inductionHypothesis _ areVectors.2).trans (written areVectors.1)
  rw [createIdt, set defaultVectors _ (by decide), rounds intVectors le_rfl]

end Gates

/-! ## Loading the tables -/

section Load

variable {places : Places} {memory : ByteMemory} {cpu : Nat}

/-- The registers of a processor that has loaded the tables. -/
def loadedRegisters (places : Places) (cpu : Nat) : TableRegisters where
  gdt :=
    { limit := BitVec.ofNat 16 (3 * gdtDescSize + places.cpus * gdtDesc2Size - 1)
      base := places.base .gdt }
  idt :=
    { limit := BitVec.ofNat 16 (idtDescSize * intVectors - 1), base := places.base .idt }
  task := { base := places.taskSegment cpu, limit := taskSegmentSize - 1 }

/-- The segment that the processor finds in the descriptor of a task segment. -/
theorem decode_tssDesc (tssAddr : BitVec 64) : decodeSystemSegment (tssDesc tssAddr).word =
    { base := tssAddr
      limit := BitVec.ofNat 20 (taskSegmentSize - 1)
      gran := 0
      type := 9
      nonsys := 0
      present := 1 } := by
  rw [decodeSystemSegment_word]
  simp only [tssDesc, base_split]
  rfl

/-- The selector of a task segment is a multiple of eight. -/
theorem selector_aligned : ∀ cpu < configMaxCpus,
    BitVec.ofNat 16 (gdtDescSize * 3 + gdtDesc2Size * cpu) &&& ~~~7#16 =
      BitVec.ofNat 16 (tssDescOffset cpu) ∧ BitVec.ofNat 16 (tssDescOffset cpu) ≠ 0 ∧
    (BitVec.ofNat 16 (tssDescOffset cpu)).setWidth 64 = BitVec.ofNat 64 (tssDescOffset cpu) := by
  decide

/-- A processor whose task segment is not in use loads the tables. -/
theorem loadGdtIdtTr_eq (inside : cpu < places.cpus)
    (desc : load 128 memory (places.slot .gdt (tssDescOffset cpu)) =
      (tssDesc (places.taskSegment cpu)).word) :
    loadGdtIdtTr places memory cpu =
      some (memory.store (places.slot .gdt (tssDescOffset cpu))
        (markBusy (tssDesc (places.taskSegment cpu)).word), loadedRegisters places cpu) := by
  have few := places.cpus_le
  obtain ⟨aligned, notNull, wide⟩ := selector_aligned cpu (by omega)
  have address : places.base .gdt + (BitVec.ofNat 16 (tssDescOffset cpu)).setWidth 64 =
      places.slot .gdt (tssDescOffset cpu) := by
    rw [wide, Places.slot]
  have fits : (BitVec.ofNat 16 (tssDescOffset cpu)).toNat + 15 ≤
      (BitVec.ofNat 16 (3 * gdtDescSize + places.cpus * gdtDesc2Size - 1)).toNat := by
    simp only [configMaxCpus] at few
    simp only [BitVec.toNat_ofNat, tssDescOffset, gdtDescSize, gdtDesc2Size]
    omega
  rw [loadGdtIdtTr, loadTaskRegister]
  simp only [aligned, address, desc, decode_tssDesc, and_self, and_true]
  rw [if_pos ⟨notNull, fits⟩]
  rfl

end Load

end Interrupts
end ToyKernel
