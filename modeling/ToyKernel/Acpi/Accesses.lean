import ToyKernel.Acpi.RootTables
import ToyKernel.PageMap.Boot

/-!
# Accesses of the page map

`get_page_desc` has no bound check.  `__map_memory` passes it the addresses of all memory
that the boot loader reports, and `init_root_tables` those that the firmware has left in the
root tables.  Here the descriptors that they read and write are recorded.
-/

namespace ToyKernel
namespace Acpi

open PageMap

/-- `CONFIG_ADDR_SPACE_SIZE`. -/
def configAddrSpaceSize : Nat := 2 ^ 40

/-- The page descriptors, and the addresses of those that have been read or written through
`get_page_desc`. -/
structure Accessed where
  memory : PageMemory
  descs : List (BitVec 64)

namespace Accessed

/-- `map_page`, which writes a descriptor. -/
def mapPage (pageMap : BitVec 64) (accessed : Accessed) (virtAddr physAddr : BitVec 64)
    (flags availData : BitVec 32) : Accessed where
  memory := PageMap.mapPage accessed.memory pageMap virtAddr physAddr flags availData
  descs := accessed.descs ++ [getPageDesc pageMap virtAddr]

/-- Map the page of an address to itself unless `get_page_mapping` finds it mapped, which
reads the descriptor. -/
def ensureMapped (pageMap : BitVec 64) (accessed : Accessed) (address : BitVec 64) :
    Accessed :=
  let looked := { accessed with descs := accessed.descs ++ [getPageDesc pageMap address] }
  if getPageMapping looked.memory pageMap address = none then
    looked.mapPage pageMap address address 0 0
  else
    looked

end Accessed

/-- The variable `high_mem_hole` of `__map_memory`. -/
def highMemHole (memHigher : BitVec 32) : BitVec 64 :=
  (memHigher.setWidth 64 + 1024) * 1024 / pageSize * pageSize

/-- `PAGE_MAPPING_WRITE`. -/
def pageMappingWrite : BitVec 32 := 1#32 <<< 1

/-- `__map_memory`; the loop visits the multiples of `PAGE_SIZE` below `high_mem_hole`. -/
def mapMemory (pageMap : BitVec 64) (memHigher : BitVec 32) (accessed : Accessed) : Accessed :=
  (List.range ((highMemHole memHigher).toNat / pageSize.toNat)).foldl
    (fun accessed i =>
      let addr := BitVec.ofNat 64 i * pageSize
      accessed.mapPage pageMap addr addr pageMappingWrite 0)
    accessed

/-- `init_root_tables`, with the descriptors that it accesses. -/
def accessRootTables (firmware : Firmware) (pageMap : BitVec 64) (accessed : Accessed) :
    Accessed :=
  let rsdp := findRsdp firmware
  let accessed :=
    if rsdp ≠ 0 then
      let accessed := accessed.ensureMapped pageMap (rsdtAddr firmware rsdp)
      accessed.ensureMapped pageMap (xsdtAddr firmware rsdp)
    else
      accessed
  let accessed :=
    if rsdtAddr firmware rsdp ≠ 0 then
      let rsdt := getAcpiRsdt firmware rsdp
      (List.range (slotCount firmware rsdt 2)).foldl
        (fun accessed i => accessed.ensureMapped pageMap (rsdtSlot firmware rsdt i)) accessed
    else
      accessed
  if xsdtAddr firmware rsdp ≠ 0 then
    let xsdt := getAcpiXsdt firmware rsdp
    (List.range (slotCount firmware xsdt 4)).foldl
      (fun accessed i => accessed.ensureMapped pageMap (xsdtSlot firmware xsdt i)) accessed
  else
    accessed

/-- `__map_memory` and then `init_root_tables`, on a page map nothing has accessed yet. -/
def bootAccesses (firmware : Firmware) (pageMap : BitVec 64) (memHigher : BitVec 32)
    (memory : PageMemory) : Accessed :=
  accessRootTables firmware pageMap (mapMemory pageMap memHigher ⟨memory, []⟩)

/-- A descriptor lies inside the `PAGE_MAP_SIZE` bytes of `__page_map`. -/
def InPageMap (pageMap desc : BitVec 64) : Prop :=
  (desc - pageMap).toNat + pageDescSize ≤ pageMapSize configAddrSpaceSize

/-- The memory that the boot loader reports has no page of 2 MiB behind 1 TiB, and the XSDT
and the tables in its slots that are visited lie below 1 TiB. -/
structure BelowLimit (firmware : Firmware) (memHigher : BitVec 32) : Prop where
  memory : memHigher.toNat < 2 ^ 30 + 1024
  xsdt : findRsdp firmware ≠ 0 →
    (xsdtAddr firmware (findRsdp firmware)).toNat < configAddrSpaceSize
  slots : xsdtAddr firmware (findRsdp firmware) ≠ 0 →
    ∀ i < slotCount firmware (getAcpiXsdt firmware (findRsdp firmware)) 4,
      (xsdtSlot firmware (getAcpiXsdt firmware (findRsdp firmware)) i).toNat <
        configAddrSpaceSize

/-! ### Descriptors and addresses -/

/-- `get_page_desc` stays inside the page map exactly for the addresses of the address
space. -/
theorem inPageMap_getPageDesc_iff (pageMap address : BitVec 64) :
    InPageMap pageMap (getPageDesc pageMap address) ↔ address.toNat < configAddrSpaceSize := by
  have size : pageMapSize configAddrSpaceSize = 1027 * 4096 := by decide
  rw [InPageMap, getPageDesc_sub_toNat, size]
  simp only [pageOf, pageDescSize, configAddrSpaceSize]
  omega

section Accesses

variable {pageMap : BitVec 64} {accessed : Accessed} {desc : BitVec 64}

@[simp] theorem mem_descs_mapPage {virtAddr physAddr : BitVec 64} {flags availData : BitVec 32} :
    desc ∈ (accessed.mapPage pageMap virtAddr physAddr flags availData).descs ↔
      desc ∈ accessed.descs ∨ desc = getPageDesc pageMap virtAddr := by
  simp [Accessed.mapPage]

@[simp] theorem mem_descs_ensureMapped {address : BitVec 64} :
    desc ∈ (accessed.ensureMapped pageMap address).descs ↔
      desc ∈ accessed.descs ∨ desc = getPageDesc pageMap address := by
  simp only [Accessed.ensureMapped]
  split
  · simp only [mem_descs_mapPage, List.mem_append, List.mem_singleton, or_assoc, or_self]
  · simp only [List.mem_append, List.mem_singleton]

/-- Recording the accesses changes nothing. -/
theorem ensureMapped_memory (address : BitVec 64) :
    (accessed.ensureMapped pageMap address).memory =
      ensureMapped pageMap accessed.memory address := by
  simp only [Accessed.ensureMapped, ensureMapped]
  split
  · rfl
  · rfl

theorem foldl_ensureMapped_memory {Index : Type} (address : Index → BitVec 64)
    (indices : List Index) (accessed : Accessed) :
    (indices.foldl (fun accessed i => accessed.ensureMapped pageMap (address i))
        accessed).memory =
      indices.foldl (fun memory i => ensureMapped pageMap memory (address i))
        accessed.memory := by
  induction indices generalizing accessed with
  | nil => rfl
  | cons i indices inductionHypothesis =>
      rw [List.foldl_cons, List.foldl_cons, inductionHypothesis, ensureMapped_memory]

/-- The page descriptors are those of `init_root_tables`. -/
theorem accessRootTables_memory (firmware : Firmware) :
    (accessRootTables firmware pageMap accessed).memory =
      (initRootTables firmware pageMap accessed.memory).memory := by
  simp only [accessRootTables, initRootTables, apply_ite Accessed.memory,
    foldl_ensureMapped_memory, ensureMapped_memory]

/-- A loop accesses the descriptors of the addresses that it visits. -/
theorem forall_descs_foldl {Index : Type} {visit : Accessed → Index → Accessed}
    (property : BitVec 64 → Prop) (address : Index → BitVec 64)
    (visits : ∀ accessed i desc, desc ∈ (visit accessed i).descs ↔
      desc ∈ accessed.descs ∨ desc = getPageDesc pageMap (address i))
    (indices : List Index) (accessed : Accessed) :
    (∀ desc ∈ (indices.foldl visit accessed).descs, property desc) ↔
      (∀ desc ∈ accessed.descs, property desc) ∧
        ∀ i ∈ indices, property (getPageDesc pageMap (address i)) := by
  induction indices generalizing accessed with
  | nil => simp
  | cons i indices inductionHypothesis =>
      rw [List.foldl_cons, inductionHypothesis]
      simp only [visits, or_imp, forall_and, forall_eq, List.forall_mem_cons, and_assoc]

/-- Accesses under a condition. -/
theorem forall_descs_ite {condition extra : Prop} [Decidable condition] {visited : Accessed}
    {property : BitVec 64 → Prop}
    (visits : (∀ desc ∈ visited.descs, property desc) ↔
      (∀ desc ∈ accessed.descs, property desc) ∧ extra) :
    (∀ desc ∈ (if condition then visited else accessed).descs, property desc) ↔
      (∀ desc ∈ accessed.descs, property desc) ∧ (condition → extra) := by
  by_cases holds : condition
  · simp only [holds, if_true, visits, forall_const]
  · simp only [holds, if_false, false_imp_iff, and_true]

/-- What `__map_memory` accesses. -/
theorem forall_descs_mapMemory (property : BitVec 64 → Prop) (memHigher : BitVec 32)
    (accessed : Accessed) :
    (∀ desc ∈ (mapMemory pageMap memHigher accessed).descs, property desc) ↔
      (∀ desc ∈ accessed.descs, property desc) ∧
        ∀ i < (highMemHole memHigher).toNat / pageSize.toNat,
          property (getPageDesc pageMap (BitVec.ofNat 64 i * pageSize)) := by
  rw [mapMemory, forall_descs_foldl property (fun i => BitVec.ofNat 64 i * pageSize)
    fun _ _ _ => mem_descs_mapPage]
  simp only [List.mem_range]

/-- What `init_root_tables` accesses. -/
theorem forall_descs_accessRootTables (property : BitVec 64 → Prop) (firmware : Firmware)
    (accessed : Accessed) :
    (∀ desc ∈ (accessRootTables firmware pageMap accessed).descs, property desc) ↔
      (∀ desc ∈ accessed.descs, property desc) ∧
        (findRsdp firmware ≠ 0 →
          property (getPageDesc pageMap (rsdtAddr firmware (findRsdp firmware))) ∧
            property (getPageDesc pageMap (xsdtAddr firmware (findRsdp firmware)))) ∧
        (rsdtAddr firmware (findRsdp firmware) ≠ 0 →
          ∀ i < slotCount firmware (getAcpiRsdt firmware (findRsdp firmware)) 2,
            property (getPageDesc pageMap
              (rsdtSlot firmware (getAcpiRsdt firmware (findRsdp firmware)) i))) ∧
        (xsdtAddr firmware (findRsdp firmware) ≠ 0 →
          ∀ i < slotCount firmware (getAcpiXsdt firmware (findRsdp firmware)) 4,
            property (getPageDesc pageMap
              (xsdtSlot firmware (getAcpiXsdt firmware (findRsdp firmware)) i))) := by
  have loop : ∀ (slot : Nat → BitVec 64) (count : Nat) (accessed : Accessed),
      (∀ desc ∈ ((List.range count).foldl
          (fun accessed i => accessed.ensureMapped pageMap (slot i)) accessed).descs,
        property desc) ↔
      (∀ desc ∈ accessed.descs, property desc) ∧
        ∀ i < count, property (getPageDesc pageMap (slot i)) := by
    intro slot count accessed
    rw [forall_descs_foldl property slot fun _ _ _ => mem_descs_ensureMapped]
    simp only [List.mem_range]
  have roots : ∀ accessed : Accessed,
      (∀ desc ∈ ((accessed.ensureMapped pageMap
          (rsdtAddr firmware (findRsdp firmware))).ensureMapped pageMap
            (xsdtAddr firmware (findRsdp firmware))).descs, property desc) ↔
        (∀ desc ∈ accessed.descs, property desc) ∧
          property (getPageDesc pageMap (rsdtAddr firmware (findRsdp firmware))) ∧
            property (getPageDesc pageMap (xsdtAddr firmware (findRsdp firmware))) := by
    intro accessed
    simp only [mem_descs_ensureMapped, or_imp, forall_and, forall_eq, and_assoc]
  simp only [accessRootTables]
  rw [forall_descs_ite (loop _ _ _), forall_descs_ite (loop _ _ _),
    forall_descs_ite (roots accessed)]
  simp only [and_assoc]

end Accesses

/-! ### When the accesses stay inside -/

/-- `high_mem_hole` in pages of 2 MiB. -/
theorem highMemHole_pages (memHigher : BitVec 32) :
    (highMemHole memHigher).toNat / pageSize.toNat = (memHigher.toNat + 1024) / 2048 := by
  have small := memHigher.isLt
  have size : pageSize.toNat = 2097152 := rfl
  have kilo : (1024 : BitVec 64).toNat = 1024 := rfl
  have wide : (memHigher.setWidth 64).toNat = memHigher.toNat := by
    rw [BitVec.toNat_setWidth]
    exact Nat.mod_eq_of_lt (by omega)
  have sum : (memHigher.setWidth 64 + 1024).toNat = memHigher.toNat + 1024 := by
    rw [BitVec.toNat_add, wide, kilo]
    exact Nat.mod_eq_of_lt (by omega)
  have product : ((memHigher.setWidth 64 + 1024) * 1024).toNat =
      (memHigher.toNat + 1024) * 1024 := by
    rw [BitVec.toNat_mul, sum, kilo]
    exact Nat.mod_eq_of_lt (by omega)
  have pages : (memHigher.toNat + 1024) * 1024 / 2097152 = (memHigher.toNat + 1024) / 2048 :=
    Nat.mul_div_mul_right (memHigher.toNat + 1024) 2048 (show 0 < 1024 by decide)
  have fits : (memHigher.toNat + 1024) / 2048 * 2097152 < 2 ^ 64 := by omega
  rw [highMemHole, BitVec.toNat_mul, BitVec.toNat_udiv, product, size, pages,
    Nat.mod_eq_of_lt fits, Nat.mul_div_cancel _ (by decide)]

theorem page_toNat {i : Nat} (small : i < 2 ^ 22) :
    (BitVec.ofNat 64 i * pageSize).toNat = i * 2097152 := by
  have size : pageSize.toNat = 2097152 := rfl
  rw [BitVec.toNat_mul, BitVec.toNat_ofNat, size]
  omega

/-- `__map_memory` stays inside the page map if and only if the reported memory ends within
the address space. -/
theorem mapMemory_inPageMap_iff (pageMap : BitVec 64) (memHigher : BitVec 32) :
    (∀ i < (highMemHole memHigher).toNat / pageSize.toNat,
        InPageMap pageMap (getPageDesc pageMap (BitVec.ofNat 64 i * pageSize))) ↔
      memHigher.toNat < 2 ^ 30 + 1024 := by
  have small := memHigher.isLt
  rw [highMemHole_pages]
  constructor
  · intro inside
    by_contra atLeast
    have beyond := inside (2 ^ 19) (by omega)
    rw [inPageMap_getPageDesc_iff, page_toNat (by omega), configAddrSpaceSize] at beyond
    omega
  · intro below i visited
    rw [inPageMap_getPageDesc_iff, page_toNat (by omega), configAddrSpaceSize]
    omega

/-- Addresses of 32 bits are in the address space. -/
theorem setWidth_inPageMap (pageMap : BitVec 64) (address : BitVec 32) :
    InPageMap pageMap (getPageDesc pageMap (address.setWidth 64)) := by
  have small := address.isLt
  rw [inPageMap_getPageDesc_iff, BitVec.toNat_setWidth, configAddrSpaceSize]
  omega

/-- **Accesses of the page map.**  All page descriptors that `__map_memory` and
`init_root_tables` access lie inside the page map if and only if the reported memory and the
64-bit addresses that are visited lie in the address space. -/
theorem inPageMap_iff_belowLimit (firmware : Firmware) (pageMap : BitVec 64)
    (memHigher : BitVec 32) (memory : PageMemory) :
    (∀ desc ∈ (bootAccesses firmware pageMap memHigher memory).descs,
        InPageMap pageMap desc) ↔
      BelowLimit firmware memHigher := by
  rw [bootAccesses, forall_descs_accessRootTables, forall_descs_mapMemory,
    mapMemory_inPageMap_iff]
  constructor
  · rintro ⟨⟨-, memory⟩, roots, -, slots⟩
    refine ⟨memory, fun found => ?_, fun present i inside => ?_⟩
    · exact (inPageMap_getPageDesc_iff pageMap _).mp (roots found).2
    · exact (inPageMap_getPageDesc_iff pageMap _).mp (slots present i inside)
  · rintro ⟨memory, xsdt, slots⟩
    refine ⟨⟨by simp, memory⟩, fun found => ⟨?_, ?_⟩, fun _ i _ => ?_, ?_⟩
    · exact setWidth_inPageMap pageMap _
    · exact (inPageMap_getPageDesc_iff pageMap _).mpr (xsdt found)
    · exact setWidth_inPageMap pageMap _
    · intro present i inside
      exact (inPageMap_getPageDesc_iff pageMap _).mpr (slots present i inside)

/-- On a computer with more than 1 TiB of memory `__map_memory` writes behind the page map. -/
theorem inPageMap_fails :
    ¬ ∀ (firmware : Firmware) (pageMap : BitVec 64) (memHigher : BitVec 32)
      (memory : PageMemory), ∀ desc ∈ (bootAccesses firmware pageMap memHigher memory).descs,
        InPageMap pageMap desc := by
  intro claimed
  have inside := claimed (fun _ => 0) 0x400000 0x40000400 unmapped
  rw [bootAccesses, forall_descs_accessRootTables, forall_descs_mapMemory,
    mapMemory_inPageMap_iff] at inside
  exact absurd inside.1.2 (by decide)

end Acpi
end ToyKernel
