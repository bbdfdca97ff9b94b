import ToyKernel.ApicTimer
import ToyKernel.CpuInfo.Table

/-!
# Interrupts between processors

What `apic.c` writes to the interrupt command register of the local APIC, and which processors an
interrupt then reaches.
-/

namespace ToyKernel
namespace Boot

open ApicTimer CpuInfo

/-! ## The registers -/

/-- `LAPIC_ICR_LOW_REG`. -/
def lapicIcrLowReg : Nat := 0x300

/-- `LAPIC_ICR_HIGH_REG`. -/
def lapicIcrHighReg : Nat := 0x310

/-- `LAPIC_ICR_DELIVERY_FIXED`. -/
def lapicIcrDeliveryFixed : BitVec 32 := 0x0 <<< 8

/-- `LAPIC_ICR_DELIVERY_INIT`. -/
def lapicIcrDeliveryInit : BitVec 32 := 0x5 <<< 8

/-- `LAPIC_ICR_DELIVERY_STARTUP`. -/
def lapicIcrDeliveryStartup : BitVec 32 := 0x6 <<< 8

/-- `LAPIC_ICR_LEVEL_ASSERT`. -/
def lapicIcrLevelAssert : BitVec 32 := 1 <<< 14

/-- The kinds of interrupts that this code sends. -/
inductive Delivery
  | fixed
  | init
  | startup
  deriving DecidableEq

/-- An interrupt that a local APIC sends. -/
structure Ipi where
  delivery : Delivery
  vector : BitVec 8
  destination : BitVec 8
  deriving DecidableEq

/-- The delivery modes of the register. -/
def decodeDelivery (mode : BitVec 3) : Option Delivery :=
  match mode.toNat with
  | 0 => some .fixed
  | 5 => some .init
  | 6 => some .startup
  | _ => none

/-- What the local APIC makes of the two halves of the register; `none` is a kind of interrupt or
of destination that this code never asks for. -/
def decodeIpi (high low : BitVec 32) : Option Ipi := do
  let delivery ← decodeDelivery (low.extractLsb' 8 3)
  if low.extractLsb' 11 1 = 0 ∧ low.extractLsb' 14 1 = 1 ∧ low.extractLsb' 15 1 = 0 ∧
      low.extractLsb' 18 2 = 0 then
    some {
      delivery := delivery
      vector := low.extractLsb' 0 8
      destination := high.extractLsb' 24 8 }
  else
    none

/-- A local APIC accepts what is for its identifier, or for all. -/
def Ipi.Reaches (ipi : Ipi) (id : BitVec 8) : Prop :=
  ipi.destination = id ∨ ipi.destination = 0xFF

instance (ipi : Ipi) (id : BitVec 8) : Decidable (ipi.Reaches id) :=
  inferInstanceAs (Decidable (_ ∨ _))

/-! ## The writes -/

/-- `get_cpu_desc(cpu)->id << 24`. -/
def icrHigh (table : CpuTable) (cpu : Nat) : BitVec 32 :=
  (table.descs cpu).id.setWidth 32 <<< 24

/-- The second write of `issue_cpu_interrupt`. -/
def fixedIcrLow (vector : BitVec 32) : BitVec 32 :=
  (vector.setWidth 8).setWidth 32 ||| lapicIcrDeliveryFixed ||| lapicIcrLevelAssert

/-- The second write of `start_ap_cpu`. -/
def initIcrLow : BitVec 32 :=
  lapicIcrDeliveryInit ||| lapicIcrLevelAssert

/-- The second write of its loop. -/
def startupIcrLow (startupAddr : BitVec 32) : BitVec 32 :=
  ((startupAddr.sshiftRight 12).setWidth 8).setWidth 32 ||| lapicIcrDeliveryStartup |||
    lapicIcrLevelAssert

/-- `issue_cpu_interrupt`. -/
def issueCpuInterrupt (table : CpuTable) (cpu : Nat) (vector : BitVec 32) : List Write :=
  [⟨lapicIcrHighReg, icrHigh table cpu⟩, ⟨lapicIcrLowReg, fixedIcrLow vector⟩]

/-- The upper half of the register, and the interrupts that have been sent. -/
structure Lapic where
  icrHigh : BitVec 32
  sent : List (Option Ipi)

/-- `write_lapic`, as far as the interrupt command register is concerned. -/
def Lapic.write (lapic : Lapic) (write : Write) : Lapic :=
  if write.reg = lapicIcrHighReg then
    { lapic with icrHigh := write.value }
  else if write.reg = lapicIcrLowReg then
    { lapic with sent := lapic.sent ++ [decodeIpi lapic.icrHigh write.value] }
  else
    lapic

theorem Lapic.write_high (lapic : Lapic) (value : BitVec 32) :
    lapic.write ⟨lapicIcrHighReg, value⟩ = { lapic with icrHigh := value } :=
  if_pos rfl

theorem Lapic.write_low (lapic : Lapic) (value : BitVec 32) :
    lapic.write ⟨lapicIcrLowReg, value⟩ =
      { lapic with sent := lapic.sent ++ [decodeIpi lapic.icrHigh value] } :=
  (if_neg (by decide : lapicIcrLowReg ≠ lapicIcrHighReg)).trans (if_pos rfl)

/-! ## Destinations -/

theorem icrHigh_destination (table : CpuTable) (cpu : Nat) :
    (icrHigh table cpu).extractLsb' 24 8 = (table.descs cpu).id := by
  apply BitVec.eq_of_getLsbD_eq
  intro i inside
  have shifted : ¬ 24 + i < 24 := by omega
  have back : 24 + i - 24 = i := by omega
  have low : 24 + i < 32 := by omega
  simp [icrHigh, inside, low, back]

/-- A vector in the lower half of the register, next to a delivery mode and the level. -/
structure Encodes (low : BitVec 32) (delivery : Delivery) (vector : BitVec 8) : Prop where
  delivery : decodeDelivery (low.extractLsb' 8 3) = some delivery
  kind : low.extractLsb' 11 1 = 0 ∧ low.extractLsb' 14 1 = 1 ∧ low.extractLsb' 15 1 = 0 ∧
    low.extractLsb' 18 2 = 0
  vector : low.extractLsb' 0 8 = vector

theorem Encodes.decode {low : BitVec 32} {delivery : Delivery} {vector : BitVec 8}
    (encodes : Encodes low delivery vector) (high : BitVec 32) :
    decodeIpi high low = some ⟨delivery, vector, high.extractLsb' 24 8⟩ := by
  rw [decodeIpi, encodes.delivery, Option.bind_eq_bind, Option.bind_some, if_pos encodes.kind,
    encodes.vector]

theorem encodes_fixed (vector : BitVec 32) :
    Encodes (fixedIcrLow vector) .fixed (vector.setWidth 8) := by
  have all : ∀ vector : BitVec 8, ∀ low, low = vector.setWidth 32 ||| 0x4000#32 →
      decodeDelivery (low.extractLsb' 8 3) = some .fixed ∧
        (low.extractLsb' 11 1 = 0 ∧ low.extractLsb' 14 1 = 1 ∧ low.extractLsb' 15 1 = 0 ∧
          low.extractLsb' 18 2 = 0) ∧ low.extractLsb' 0 8 = vector := by
    simp only [forall_eq]
    decide +kernel
  obtain ⟨delivery, kind, isVector⟩ := all (vector.setWidth 8) (fixedIcrLow vector)
    (BitVec.or_assoc ..)
  exact ⟨delivery, kind, isVector⟩

theorem encodes_init : Encodes initIcrLow .init 0 := ⟨rfl, by decide, rfl⟩

theorem encodes_startup (startupAddr : BitVec 32) :
    Encodes (startupIcrLow startupAddr) .startup ((startupAddr.sshiftRight 12).setWidth 8) := by
  have all : ∀ vector : BitVec 8, ∀ low, low = vector.setWidth 32 ||| 0x4600#32 →
      decodeDelivery (low.extractLsb' 8 3) = some .startup ∧
        (low.extractLsb' 11 1 = 0 ∧ low.extractLsb' 14 1 = 1 ∧ low.extractLsb' 15 1 = 0 ∧
          low.extractLsb' 18 2 = 0) ∧ low.extractLsb' 0 8 = vector := by
    simp only [forall_eq]
    decide +kernel
  obtain ⟨delivery, kind, isVector⟩ := all ((startupAddr.sshiftRight 12).setWidth 8)
    (startupIcrLow startupAddr) (BitVec.or_assoc ..)
  exact ⟨delivery, kind, isVector⟩

/-- Two processors of the table have different identifiers. -/
theorem id_injective {table : CpuTable} {ids : List (BitVec 8)} {srat : List Acpi.Entry}
    {bits : Bits} (describes : Describes table ids srat bits) {cpu other : Nat}
    (inside : cpu < table.num) (alsoInside : other < table.num)
    (same : (table.descs cpu).id = (table.descs other).id) : cpu = other := by
  rw [← describes.index cpu inside, same, describes.index other alsoInside]

/-- `issue_cpu_interrupt` raises the vector on the processor that it is called for, and on no
other. -/
theorem issueCpuInterrupt_reaches {table : CpuTable} {ids : List (BitVec 8)}
    {srat : List Acpi.Entry} {bits : Bits} {cpu : Nat} (lapic : Lapic) (vector : BitVec 32)
    (describes : Describes table ids srat bits) (inside : cpu < table.num)
    (single : (table.descs cpu).id ≠ 0xFF) :
    ∃ ipi, ((issueCpuInterrupt table cpu vector).foldl Lapic.write lapic).sent =
        lapic.sent ++ [some ipi] ∧ ipi.delivery = .fixed ∧ ipi.vector = vector.setWidth 8 ∧
      ∀ other < table.num, ipi.Reaches (table.descs other).id ↔ other = cpu := by
  refine ⟨⟨.fixed, vector.setWidth 8, (table.descs cpu).id⟩, ?_, rfl, rfl,
    fun other alsoInside => ⟨?_, ?_⟩⟩
  · rw [issueCpuInterrupt, List.foldl_cons, List.foldl_cons, List.foldl_nil, Lapic.write_high,
      Lapic.write_low, (encodes_fixed vector).decode, icrHigh_destination]
  · rintro (isOther | isAll)
    · exact id_injective describes alsoInside inside isOther.symm
    · exact absurd isAll single
  · rintro rfl
    exact .inl rfl

/-- The table of two processors. -/
def twoCpus : CpuTable where
  num := 2
  descs cpu := {
    id := BitVec.ofNat 8 cpu, thread := BitVec.ofNat 8 cpu, core := 0, chip := 0, domain := 0 }
  cpuIndexes id := id

theorem twoCpus_describes : Describes twoCpus [0, 1] [] ⟨1, 0⟩ where
  num := rfl
  id := by decide
  index := by decide
  thread := by decide
  core := by decide
  recombines := by decide
  differ := by decide
  domain := by decide

/-- An interrupt for the second of two processors reaches this one only. -/
theorem issueCpuInterrupt_reaches_second : ∃ ipi : Ipi,
    ((issueCpuInterrupt twoCpus 1 34).foldl Lapic.write ⟨0, []⟩).sent = [some ipi] ∧
      ipi.vector = 34 ∧ ∀ other < 2, ipi.Reaches (twoCpus.descs other).id ↔ other = 1 := by
  obtain ⟨ipi, sent, -, vector, reaches⟩ :=
    @issueCpuInterrupt_reaches twoCpus _ _ _ 1 ⟨0, []⟩ 34 twoCpus_describes (by decide) (by decide)
  exact ⟨ipi, sent, vector, reaches⟩

end Boot
end ToyKernel
