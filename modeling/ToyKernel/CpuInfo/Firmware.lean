import ToyKernel.CpuInfo.Table
import ToyKernel.Acpi.KernelMap

/-!
# From the firmware to the table of CPUs

`init_acpi` finds the MADT and the SRAT by their signatures among the tables that the RSDT
lists, and `init_cpu_info` makes the table of CPUs from them.  Both read the tables through
the page map that `init_acpi` has extended.
-/

namespace ToyKernel
namespace CpuInfo

open Acpi Pci PageMap

/-! ### The code -/

/-- `MADT_SIGNATURE`. -/
def madtSignature : List (BitVec 8) := [0x41, 0x50, 0x49, 0x43]

/-- `SRAT_SIGNATURE`. -/
def sratSignature : List (BitVec 8) := [0x53, 0x52, 0x41, 0x54]

section Provides

variable (firmware : Firmware)

/-- The tables that the RSDT lists. -/
def rsdtTables : List (BitVec 64) :=
  rsdtSlots firmware (findRsdp firmware) (rsdtLength firmware)

/-- This table is the first one in the RSDT with the signature. -/
def Lists (signature : List (BitVec 8)) (table : BitVec 64) : Prop :=
  ∃ front back, rsdtTables firmware = front ++ table :: back ∧
    sameBytes firmware table signature = true ∧
      ∀ other ∈ front, sameBytes firmware other signature = false

/-- No table in the RSDT has the signature. -/
def Lacks (signature : List (BitVec 8)) : Prop :=
  ∀ table ∈ rsdtTables firmware, sameBytes firmware table signature = false

/-- The entries of the SRAT, none without a SRAT. -/
inductive ProvidesSrat : List Entry → Prop
  | absent (lacks : Lacks firmware sratSignature) : ProvidesSrat []
  | present {table : BitVec 64} {entries : List Entry}
      (lists : Lists firmware sratSignature table) (notNull : table ≠ 0)
      (madeOf : MadeOf firmware table sratSize.toNat entries)
      (lapics : ∀ entry ∈ entries, entry.Wanted acpiSratLapicType → 16 ≤ entry.length) :
      ProvidesSrat entries

/-- The firmware has an RSDP and an RSDT, which lists a MADT made of these entries, and
perhaps a SRAT made of those. -/
structure Provides (madt srat : List Entry) : Prop where
  rsdp : findRsdp firmware ≠ 0
  rsdt : rsdtAddr firmware (findRsdp firmware) ≠ 0
  sized : 36 ≤ tableLength firmware (getAcpiRsdt firmware (findRsdp firmware))
  listsMadt : ∃ table, Lists firmware madtSignature table ∧ table ≠ 0 ∧
    MadeOf firmware table madtSize.toNat madt
  lapics : ∀ entry ∈ madt, entry.Wanted acpiMadtLapicType → 8 ≤ entry.length
  providesSrat : ProvidesSrat firmware srat

end Provides

/-! ### Finding the tables -/

section Find

variable {firmware : Firmware} {signature : List (BitVec 8)} {table : BitVec 64}
  {madt srat : List Entry}

/-- The addresses that the RSDT lists have 32 bits. -/
theorem setWidth_of_mem_rsdtTables (listed : table ∈ rsdtTables firmware) :
    (table.setWidth 32).setWidth 64 = table := by
  obtain ⟨i, -, rfl⟩ := List.mem_map.mp listed
  have small := (read32 firmware (getAcpiRsdt firmware (findRsdp firmware) + headerSize +
    BitVec.ofNat 64 (4 * i))).isLt
  apply BitVec.eq_of_toNat_eq
  simp only [rsdtSlot, BitVec.toNat_setWidth]
  omega

/-- `find_psdt_table` searches the tables of the RSDT. -/
theorem findPsdtTable_eq (rsdp : findRsdp firmware ≠ 0)
    (rsdt : rsdtAddr firmware (findRsdp firmware) ≠ 0)
    (sized : 36 ≤ tableLength firmware (getAcpiRsdt firmware (findRsdp firmware))) :
    findPsdtTable firmware (findRsdp firmware) signature =
      (((rsdtTables firmware).find? fun table => sameBytes firmware table signature).getD
        0).setWidth 32 := by
  have isRsdt : getAcpiRsdt firmware (findRsdp firmware) =
      rsdtAddr firmware (findRsdp firmware) := if_pos rsdp
  simp only [findPsdtTable]
  rw [if_neg (by rwa [isRsdt]), rsdtTables, rsdtSlots, rsdtLength,
    slotCount_eq (Nat.le_refl 2) sized]
  rfl

/-- `find_psdt_table` returns the first table with the signature. -/
theorem Lists.findPsdtTable (lists : Lists firmware signature table)
    (rsdp : findRsdp firmware ≠ 0) (rsdt : rsdtAddr firmware (findRsdp firmware) ≠ 0)
    (sized : 36 ≤ tableLength firmware (getAcpiRsdt firmware (findRsdp firmware))) :
    (findPsdtTable firmware (findRsdp firmware) signature).setWidth 64 = table := by
  obtain ⟨front, back, listed, signed, others⟩ := lists
  have found : (rsdtTables firmware).find? (fun table => sameBytes firmware table signature) =
      some table := by
    rw [List.find?_eq_some_iff_append]
    exact ⟨signed, front, back, listed, fun other before => by rw [others other before]; rfl⟩
  rw [findPsdtTable_eq rsdp rsdt sized, found, Option.getD_some]
  exact setWidth_of_mem_rsdtTables (by rw [listed]; simp)

/-- `find_psdt_table` returns `NULL` if no table has the signature. -/
theorem Lacks.findPsdtTable (lacks : Lacks firmware signature)
    (rsdp : findRsdp firmware ≠ 0) (rsdt : rsdtAddr firmware (findRsdp firmware) ≠ 0)
    (sized : 36 ≤ tableLength firmware (getAcpiRsdt firmware (findRsdp firmware))) :
    (findPsdtTable firmware (findRsdp firmware) signature).setWidth 64 = (0 : BitVec 64) := by
  have found : (rsdtTables firmware).find? (fun table => sameBytes firmware table signature) =
      none := by
    rw [List.find?_eq_none]
    intro table listed
    rw [lacks table listed]
    exact Bool.false_ne_true
  rw [findPsdtTable_eq rsdp rsdt sized, found]
  rfl

end Find

/-! ### The table of CPUs -/

/-- A table that does not cross the end of the page in which it begins. -/
def InOnePage (firmware : Firmware) (table : BitVec 64) : Prop :=
  table.toNat % pageBytes + tableLength firmware table ≤ pageBytes

/-- **The tables are read through the page map.**  When `init_acpi` has visited the root
tables, the processor translates to themselves the first two megabytes, where the RSDP is, and
all bytes of the RSDT, the XSDT and the tables that were visited in them and lie in one page;
so `find_psdt_table` and `init_cpu_info` read what the firmware left there. -/
theorem firmware_readable (initial : PageMemory) (pageMap : BitVec 64) (rounds kernelSize : Nat)
    (firmware : Firmware) (memHigher : BitVec 32)
    (space : AddressSpace pageMap configAddrSpaceSize)
    (cleared : Cleared initial pageMap.toNat (pageMapSize configAddrSpaceSize))
    (enough : pageTableDescs ≤ rounds) (found : findRsdp firmware ≠ 0)
    (below : BelowLimit firmware memHigher) :
    ∃ memory, createPageMap rounds initial pageMap.toNat configAddrSpaceSize configKernelAddr
        kernelSize = some memory ∧
      let mapped := (accessRootTables firmware pageMap ⟨memory, []⟩).memory
      (∀ address : BitVec 64, address.toNat < pageBytes →
        PageMap.translate mapped pageMap.toNat address = some address.toNat) ∧
      ∀ table ∈ visited firmware (findRsdp firmware), InOnePage firmware table →
        ∀ offset < tableLength firmware table,
          PageMap.translate mapped pageMap.toNat (atOffset table offset) =
            some (atOffset table offset).toNat := by
  obtain ⟨memory, created, kernel⟩ := oneToOne_createPageMap kernelSize space cleared enough
  have tables := kernel.accessRootTables space found below
  refine ⟨memory, created, ?_, ?_⟩
  · intro address first
    have inSpace : address.toNat < configAddrSpaceSize := first.trans (by decide)
    refine tables.mapped address inSpace (.inl ?_)
    have isFirst : pageOf address = 0 := Nat.div_eq_of_lt first
    rw [isFirst]
    exact ⟨Nat.le_refl 0, Nat.zero_le _⟩
  · intro table visits inOne offset inTable
    have low := below.visited_lt found table visits
    rw [configAddrSpaceSize] at low
    rw [InOnePage, pageBytes] at inOne
    have address : (atOffset table offset).toNat = table.toNat + offset := by
      rw [atOffset, BitVec.toNat_add, BitVec.toNat_ofNat]
      omega
    have samePage : pageOf table = pageOf (atOffset table offset) := by
      rw [pageOf, pageOf, address]
      omega
    refine tables.mapped _ ?_ (.inr ⟨table, visits, samePage⟩)
    rw [address, configAddrSpaceSize]
    omega

/-! ### A machine with two CPUs -/

/-- The RSDP at `0x9FC00`, the RSDT at `0x1000`, which lists the SRAT at `0x2000` and the MADT
at `0x3000`. -/
def twoCpusFirmware : Firmware := fun address =>
  if address < 0x2000 then
    ([0x52, 0x53, 0x44, 0x54, 44, 0, 0, 0] ++ List.replicate 28 0 ++
      [0x00, 0x20, 0, 0, 0x00, 0x30, 0, 0]).getD (address - 0x1000).toNat 0
  else if address < 0x3000 then
    (sratSignature ++ [80, 0, 0, 0] ++ List.replicate 40 0 ++ affinity.bytes ++
      otherAffinity.bytes).getD (address - 0x2000).toNat 0
  else if address < 0x4000 then
    (madtSignature ++ [60, 0, 0, 0] ++ List.replicate 36 0 ++ lapic.bytes ++
      otherLapic.bytes).getD (address - 0x3000).toNat 0
  else
    (rsdpSignature ++ List.replicate 8 0 ++ [0x00, 0x10, 0, 0]).getD (address - 0x9FC00).toNat 0

/-- Where the tables are, and how long. -/
theorem tables_twoCpusFirmware :
    findRsdp twoCpusFirmware = 0x9FC00 ∧ rsdtTables twoCpusFirmware = [0x2000, 0x3000] ∧
      rsdtAddr twoCpusFirmware 0x9FC00 ≠ 0 ∧
      36 ≤ tableLength twoCpusFirmware (getAcpiRsdt twoCpusFirmware 0x9FC00) ∧
      tableLength twoCpusFirmware 0x2000 = 80 ∧ tableLength twoCpusFirmware 0x3000 = 60 := by
  decide +kernel

/-- What is in the tables. -/
theorem bytes_twoCpusFirmware :
    sameBytes twoCpusFirmware 0x2000 madtSignature = false ∧
      sameBytes twoCpusFirmware 0x3000 madtSignature = true ∧
      sameBytes twoCpusFirmware 0x2000 sratSignature = true ∧
      (∀ i < 16, ([lapic, otherLapic].flatMap Entry.bytes)[i]? =
        some (twoCpusFirmware (atOffset 0x3000 (madtSize.toNat + i)))) ∧
      ∀ i < 32, ([affinity, otherAffinity].flatMap Entry.bytes)[i]? =
        some (twoCpusFirmware (atOffset 0x2000 (sratSize.toNat + i))) := by
  decide +kernel

theorem listsMadt_twoCpusFirmware : Lists twoCpusFirmware madtSignature 0x3000 := by
  obtain ⟨-, tables, -⟩ := tables_twoCpusFirmware
  obtain ⟨other, signed, -⟩ := bytes_twoCpusFirmware
  refine ⟨[0x2000], [], tables, signed, ?_⟩
  simpa using other

theorem listsSrat_twoCpusFirmware : Lists twoCpusFirmware sratSignature 0x2000 := by
  obtain ⟨-, tables, -⟩ := tables_twoCpusFirmware
  obtain ⟨-, -, signed, -⟩ := bytes_twoCpusFirmware
  exact ⟨[], [0x3000], tables, signed, by simp⟩

theorem madtMadeOf_twoCpusFirmware :
    MadeOf twoCpusFirmware 0x3000 madtSize.toNat [lapic, otherLapic] := by
  obtain ⟨-, -, -, -, -, length⟩ := tables_twoCpusFirmware
  obtain ⟨-, -, -, all, -⟩ := bytes_twoCpusFirmware
  refine ⟨length, fun i byte present => ?_⟩
  have inside : i < 16 := (List.getElem?_eq_some_iff.mp present).1
  exact Option.some.inj ((all i inside).symm.trans present)

theorem sratMadeOf_twoCpusFirmware :
    MadeOf twoCpusFirmware 0x2000 sratSize.toNat [affinity, otherAffinity] := by
  obtain ⟨-, -, -, -, length, -⟩ := tables_twoCpusFirmware
  obtain ⟨-, -, -, -, all⟩ := bytes_twoCpusFirmware
  refine ⟨length, fun i byte present => ?_⟩
  have inside : i < 32 := (List.getElem?_eq_some_iff.mp present).1
  exact Option.some.inj ((all i inside).symm.trans present)

theorem provides_twoCpusFirmware :
    Provides twoCpusFirmware [lapic, otherLapic] [affinity, otherAffinity] := by
  obtain ⟨rsdp, -, rsdt, sized, -⟩ := tables_twoCpusFirmware
  refine ⟨?_, by rwa [rsdp], by rwa [rsdp],
    ⟨0x3000, listsMadt_twoCpusFirmware, by decide, madtMadeOf_twoCpusFirmware⟩, by decide,
    .present listsSrat_twoCpusFirmware (by decide) sratMadeOf_twoCpusFirmware (by decide)⟩
  rw [rsdp]
  decide

/-- The last byte of the MADT is readable. -/
theorem firmware_readable_twoCpus :
    ∃ memory, createPageMap 512 unmapped 0x400000 configAddrSpaceSize configKernelAddr
        0x800000 = some memory ∧
      PageMap.translate (accessRootTables twoCpusFirmware 0x400000 ⟨memory, []⟩).memory
        (0x400000#64).toNat (atOffset 0x3000 59) = some 0x303B := by
  obtain ⟨rsdp, -, -, -, -, length⟩ := tables_twoCpusFirmware
  have below : BelowLimit twoCpusFirmware 0x1FC00 := by
    refine ⟨by decide, fun _ => by decide +kernel, fun _ => ?_⟩
    decide +kernel
  have found : findRsdp twoCpusFirmware ≠ 0 := provides_twoCpusFirmware.rsdp
  obtain ⟨memory, created, -, readable⟩ :=
    firmware_readable unmapped 0x400000 512 0x800000 twoCpusFirmware 0x1FC00
      ⟨by decide, by decide, by decide, by decide, by decide⟩ (fun _ _ _ => rfl)
      (Nat.le_refl 512) found below
  refine ⟨memory, created, ?_⟩
  have listed : (0x3000 : BitVec 64) ∈ visited twoCpusFirmware (findRsdp twoCpusFirmware) := by
    have tables : visited twoCpusFirmware 0x9FC00 = [0x1000, 0, 0x2000, 0x3000] := by
      decide +kernel
    rw [rsdp, tables]
    simp
  refine readable 0x3000 listed ?_ 59 (by rw [length]; decide)
  rw [InOnePage, length]
  decide

end CpuInfo
end ToyKernel
