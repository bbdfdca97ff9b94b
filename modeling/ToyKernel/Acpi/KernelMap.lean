import ToyKernel.PageMap.Agreement
import ToyKernel.Acpi.Accesses
import Mathlib.Data.Set.Insert

/-!
# The address space of the kernel

Everything that the kernel maps it maps to itself: `create_page_map` maps the kernel,
`init_acpi` the pages of the addresses that `init_root_tables` visits, `__map_memory` the
memory, `init_apic` and `scan_next_hba` the registers of devices.  The processor therefore
translates an address to itself or not at all, and which of the two is a matter of its page.
-/

namespace ToyKernel
namespace Acpi

open PageMap

/-! ### The frame in a descriptor -/

/-- The low address field loses the bits below the page. -/
theorem makeMapping_address0_pages (physAddr : BitVec 64) (flags availData : BitVec 32) :
    (makeMapping physAddr flags availData).address0.toNat =
      physAddr.toNat / 2 ^ 21 % 2 ^ 11 * 2 ^ 9 := by
  have kept : (makeMapping physAddr flags availData).address0 =
      (physAddr >>> 21).setWidth 11 ++ (0 : BitVec 9) := by
    change ((physAddr >>> 12).setWidth 32 &&&
      ~~~ (BitVec.ofNat 32 pageTableDescs - 1)).setWidth 20 = _
    apply BitVec.eq_of_getLsbD_eq
    intro i inRange
    simp only [BitVec.getLsbD_setWidth, BitVec.getLsbD_and, BitVec.getLsbD_not,
      BitVec.getLsbD_ushiftRight, BitVec.getLsbD_append, pageTableDescs]
    interval_cases i <;> simp
  rw [kept, BitVec.toNat_append, BitVec.toNat_setWidth, BitVec.toNat_ushiftRight]
  simp [Nat.shiftRight_eq_div_pow, Nat.shiftLeft_eq]

/-- The frame in the descriptor that `map_page` stores is the page of the address. -/
theorem entryFrame_makeMapping {physAddr : BitVec 64} (small : physAddr.toNat < 2 ^ 52)
    (flags availData : BitVec 32) :
    entryFrame 1 (makeMapping physAddr flags availData) =
      physAddr.toNat / 2 ^ 21 * 2 ^ 21 := by
  rw [entryFrame_eq (by decide), addressBits_toNat, makeMapping_address1 _ _ small,
    makeMapping_address0_pages]
  omega

theorem entryPresent_makeMapping (physAddr : BitVec 64) (flags availData : BitVec 32) :
    entryPresent (makeMapping physAddr flags availData) = true := by
  rw [entryPresent_eq, makeMapping_present]
  rfl

/-! ### Maps that are one-to-one -/

/-- The processor translates the addresses in the given pages to themselves and has no
translation for the others. -/
structure OneToOne (pageMap : BitVec 64) (addrSpaceSize : Nat) (memory : PageMemory)
    (pages : Set Nat) : Prop where
  complete : Complete memory pageMap.toNat (pageMapPds addrSpaceSize)
  mapped : ∀ virtAddr : BitVec 64, virtAddr.toNat < addrSpaceSize → pageOf virtAddr ∈ pages →
    PageMap.translate memory pageMap.toNat virtAddr = some virtAddr.toNat
  unmapped : ∀ virtAddr : BitVec 64, virtAddr.toNat < addrSpaceSize → pageOf virtAddr ∉ pages →
    PageMap.translate memory pageMap.toNat virtAddr = none

namespace OneToOne

variable {pageMap : BitVec 64} {addrSpaceSize : Nat} {memory : PageMemory} {pages : Set Nat}

/-- Mapping an address to itself adds its page. -/
theorem mapPage (space : AddressSpace pageMap addrSpaceSize)
    (oneToOne : OneToOne pageMap addrSpaceSize memory pages) {address : BitVec 64}
    (inSpace : address.toNat < addrSpaceSize) (flags availData : BitVec 32) :
    OneToOne pageMap addrSpaceSize
      (PageMap.mapPage memory pageMap address address flags availData)
      (insert (pageOf address) pages) := by
  have opInSpace : (PageOp.map address address flags availData).virtAddr.toNat < addrSpaceSize :=
    inSpace
  have complete := oneToOne.complete.run space opInSpace
  have others : ∀ virtAddr : BitVec 64, virtAddr.toNat < addrSpaceSize →
      pageOf virtAddr ≠ pageOf address →
      PageMap.translate (PageOp.run pageMap memory (.map address address flags availData))
        pageMap.toNat virtAddr = PageMap.translate memory pageMap.toNat virtAddr :=
    fun virtAddr virtInSpace other =>
      oneToOne.complete.translate_run space opInSpace virtInSpace other
  change OneToOne pageMap addrSpaceSize
    (PageOp.run pageMap memory (.map address address flags availData)) _
  refine ⟨complete, ?_, ?_⟩
  · intro virtAddr virtInSpace member
    by_cases same : pageOf virtAddr = pageOf address
    · have small := space.small
      have walked := complete.walk_eq space virtInSpace
      have sameDesc := (getPageDesc_eq_iff pageMap virtAddr address).mpr same
      have stored : PageOp.run pageMap memory (.map address address flags availData)
          (getPageDesc pageMap virtAddr).toNat = makeMapping address flags availData := by
        rw [PageOp.run_eq, sameDesc]
        exact Function.update_self _ _ _
      rw [pageOf, pageOf] at same
      rw [PageMap.translate, walked]
      simp only [stored, entryPresent_makeMapping, if_true]
      rw [entryFrame_makeMapping (by omega)]
      congr 1
      omega
    · rw [others virtAddr virtInSpace same]
      exact oneToOne.mapped virtAddr virtInSpace (Set.mem_of_mem_insert_of_ne member same)
  · intro virtAddr virtInSpace outside
    rw [Set.mem_insert_iff, not_or] at outside
    rw [others virtAddr virtInSpace outside.1]
    exact oneToOne.unmapped virtAddr virtInSpace outside.2

/-- `get_page_mapping` finds exactly the pages of the map. -/
theorem mapped_iff (space : AddressSpace pageMap addrSpaceSize)
    (oneToOne : OneToOne pageMap addrSpaceSize memory pages) {address : BitVec 64}
    (inSpace : address.toNat < addrSpaceSize) :
    Mapped pageMap memory address ↔ pageOf address ∈ pages := by
  have walked := oneToOne.complete.walk_eq space inSpace
  have present : PageMap.translate memory pageMap.toNat address ≠ none ↔
      (memory (getPageDesc pageMap address).toNat).present.getLsbD 0 = true := by
    rw [PageMap.translate, walked]
    simp only [entryPresent_eq]
    split <;> simp_all
  rw [Acpi.mapped_iff, ← not_iff_not]
  constructor
  · intro absent member
    have translated := oneToOne.mapped address inSpace member
    rw [not_not] at absent
    rw [absent] at present
    exact Bool.false_ne_true (present.mp (by simp [translated]))
  · intro outside nonzero
    have translated := oneToOne.unmapped address inSpace outside
    refine present.mpr ?_ translated
    revert nonzero
    generalize (memory (getPageDesc pageMap address).toNat).present = bit
    revert bit
    decide

/-- Making sure of an address adds its page, also if it was there. -/
theorem ensureMapped (space : AddressSpace pageMap addrSpaceSize)
    (oneToOne : OneToOne pageMap addrSpaceSize memory pages) {address : BitVec 64}
    (inSpace : address.toNat < addrSpaceSize) :
    OneToOne pageMap addrSpaceSize (Acpi.ensureMapped pageMap memory address)
      (insert (pageOf address) pages) := by
  rw [Acpi.ensureMapped]
  split
  · exact oneToOne.mapPage space inSpace 0 0
  · rename_i found
    rw [Set.insert_eq_of_mem ((oneToOne.mapped_iff space inSpace).mp found)]
    exact oneToOne

/-- A loop each of whose rounds adds the page of an address adds the pages of them all. -/
theorem foldl {State Index : Type} (read : State → PageMemory)
    (visit : State → Index → State) (address : Index → BitVec 64)
    (adds : ∀ {state pages} (i : Index), (address i).toNat < addrSpaceSize →
      OneToOne pageMap addrSpaceSize (read state) pages →
      OneToOne pageMap addrSpaceSize (read (visit state i)) (insert (pageOf (address i)) pages))
    (indices : List Index) (inSpace : ∀ i ∈ indices, (address i).toNat < addrSpaceSize)
    {state : State} (oneToOne : OneToOne pageMap addrSpaceSize (read state) pages) :
    OneToOne pageMap addrSpaceSize (read (indices.foldl visit state))
      (pages ∪ {page | ∃ i ∈ indices, pageOf (address i) = page}) := by
  induction indices generalizing state pages with
  | nil => simpa using oneToOne
  | cons i indices inductionHypothesis =>
      have next := inductionHypothesis (fun j member => inSpace j (List.mem_cons_of_mem i member))
        (adds i (inSpace i List.mem_cons_self) oneToOne)
      have union : insert (pageOf (address i)) pages ∪
            {page | ∃ j ∈ indices, pageOf (address j) = page} =
          pages ∪ {page | ∃ j ∈ i :: indices, pageOf (address j) = page} := by
        ext page
        simp only [Set.mem_union, Set.mem_insert_iff, Set.mem_ofPred_eq,
          List.exists_mem_cons_iff, eq_comm (a := page)]
        rw [or_comm (a := pageOf (address i) = page), or_assoc]
      rw [← union]
      exact next

end OneToOne

/-! ### What the kernel maps -/

/-- `CONFIG_KERNEL_ADDR`. -/
def configKernelAddr : Nat := 0x100000

/-- `LAPIC_ADDR`. -/
def lapicAddr : BitVec 64 := 0xFEE00000

/-- `PAGE_MAPPING_PWT`. -/
def pageMappingPwt : BitVec 32 := 1#32 <<< 3

/-- `PAGE_MAPPING_PCD`. -/
def pageMappingPcd : BitVec 32 := 1#32 <<< 4

/-- The call of `map_page` in `init_apic`, which the BSP makes. -/
def mapLapic (pageMap : BitVec 64) (memory : PageMemory) : PageMemory :=
  mapPage memory pageMap lapicAddr lapicAddr
    (pageMappingWrite ||| pageMappingPwt ||| pageMappingPcd) 0

/-- The variable `bar5` of `scan_next_hba`, by the field that it reads. -/
def hbaAddr (field : BitVec 32) : BitVec 64 :=
  (field &&& ~~~ 0xF).setWidth 64

/-- The call of `map_page` in `scan_next_hba`. -/
def mapHba (pageMap : BitVec 64) (memory : PageMemory) (field : BitVec 32) : PageMemory :=
  mapPage memory pageMap (hbaAddr field) (hbaAddr field)
    (pageMappingWrite ||| pageMappingPwt ||| pageMappingPcd) 0

/-- The page map of `boot32` after the calls of `init_acpi`, `init_memory` and `init_apic` on
the BSP, in the order of `boot64`. -/
def bootPageMap (rounds : Nat) (initial : PageMemory) (pageMap : BitVec 64) (kernelSize : Nat)
    (firmware : Firmware) (memHigher : BitVec 32) : Option PageMemory :=
  (createPageMap rounds initial pageMap.toNat configAddrSpaceSize configKernelAddr
      kernelSize).map fun memory =>
    let accessed := accessRootTables firmware pageMap ⟨memory, []⟩
    mapLapic pageMap (mapMemory pageMap memHigher accessed).memory

/-- The pages that are mapped in the end: those of the kernel, of the addresses that
`init_root_tables` visits, of the reported memory, of the local APIC and of the registers of the
given controllers. -/
def kernelPages (kernelSize : Nat) (firmware : Firmware) (memHigher : BitVec 32)
    (fields : List (BitVec 32)) : Set Nat :=
  {page | configKernelAddr / pageBytes ≤ page ∧
      page ≤ (configKernelAddr + kernelSize - 1) / pageBytes} ∪
    {page | ∃ address ∈ visited firmware (findRsdp firmware), pageOf address = page} ∪
    {page | page < (highMemHole memHigher).toNat / pageBytes} ∪
    {pageOf lapicAddr} ∪
    {page | ∃ field ∈ fields, pageOf (hbaAddr field) = page}

section Kernel

variable {pageMap : BitVec 64} {memory : PageMemory} {pages : Set Nat} {firmware : Firmware}
  {memHigher : BitVec 32}

/-- What `create_page_map` leaves. -/
theorem oneToOne_createPageMap {initial : PageMemory} {rounds : Nat} (kernelSize : Nat)
    (space : AddressSpace pageMap configAddrSpaceSize)
    (cleared : Cleared initial pageMap.toNat (pageMapSize configAddrSpaceSize))
    (enough : pageTableDescs ≤ rounds) :
    ∃ memory, createPageMap rounds initial pageMap.toNat configAddrSpaceSize configKernelAddr
        kernelSize = some memory ∧
      OneToOne pageMap configAddrSpaceSize memory
        {page | configKernelAddr / pageBytes ≤ page ∧
          page ≤ (configKernelAddr + kernelSize - 1) / pageBytes} := by
  obtain ⟨last, terminates, built⟩ :=
    createPageMap_spec initial pageMap.toNat configAddrSpaceSize configKernelAddr kernelSize
      cleared space.positive space.small
  have complete := built.complete (pageMapSize_eq configAddrSpaceSize ▸ cleared)
  have translated : ∀ virtAddr : BitVec 64, virtAddr.toNat < configAddrSpaceSize →
      PageMap.translate last.memory pageMap.toNat virtAddr =
        if configKernelAddr / pageBytes ≤ virtAddr.toNat / pageBytes ∧
            virtAddr.toNat / pageBytes ≤ (configKernelAddr + kernelSize - 1) / pageBytes then
          some virtAddr.toNat
        else
          none := by
    intro virtAddr inSpace
    have small := space.small
    have entry := built.pages _ (AddressSpace.page_lt inSpace)
    rw [← getPageDesc_toNat space inSpace] at entry
    exact translate_identityDesc (complete.walk_eq space inSpace) (by omega) entry
  refine ⟨last.memory, terminates rounds enough, complete, ?_, ?_⟩
  · intro virtAddr inSpace member
    rw [translated virtAddr inSpace]
    exact if_pos member
  · intro virtAddr inSpace outside
    rw [translated virtAddr inSpace]
    exact if_neg outside

/-- The addresses that `init_acpi` visits. -/
theorem BelowLimit.visited_lt (below : BelowLimit firmware memHigher)
    (found : findRsdp firmware ≠ 0) :
    ∀ address ∈ visited firmware (findRsdp firmware), address.toNat < configAddrSpaceSize := by
  have low : ∀ address : BitVec 32, (address.setWidth 64).toNat < configAddrSpaceSize := by
    intro address
    have small := address.isLt
    rw [BitVec.toNat_setWidth, configAddrSpaceSize]
    omega
  intro address member
  simp only [visited, List.mem_append, List.mem_cons, List.not_mem_nil, or_false] at member
  rcases member with ((rfl | rfl) | rsdt) | xsdt
  · exact low _
  · exact below.xsdt found
  · split at rsdt
    · obtain ⟨i, -, rfl⟩ := List.mem_map.mp rsdt
      exact low _
    · exact absurd rsdt List.not_mem_nil
  · split at xsdt
    · rename_i present
      obtain ⟨i, inTable, rfl⟩ := List.mem_map.mp xsdt
      exact below.slots present i (List.mem_range.mp inTable)
    · exact absurd xsdt List.not_mem_nil

/-- What `init_acpi` adds. -/
theorem OneToOne.accessRootTables (space : AddressSpace pageMap configAddrSpaceSize)
    (oneToOne : OneToOne pageMap configAddrSpaceSize memory pages)
    (found : findRsdp firmware ≠ 0) (below : BelowLimit firmware memHigher) :
    OneToOne pageMap configAddrSpaceSize
      (accessRootTables firmware pageMap ⟨memory, []⟩).memory
      (pages ∪ {page | ∃ address ∈ visited firmware (findRsdp firmware),
        pageOf address = page}) := by
  rw [accessRootTables_memory, initRootTables_memory pageMap memory found, ensureAll]
  exact oneToOne.foldl (fun memory => memory) (Acpi.ensureMapped pageMap) (fun address => address)
    (fun address inSpace before => before.ensureMapped space inSpace) _ (below.visited_lt found)

/-- What `__map_memory` adds. -/
theorem OneToOne.mapMemory {accessed : Accessed}
    (space : AddressSpace pageMap configAddrSpaceSize)
    (oneToOne : OneToOne pageMap configAddrSpaceSize accessed.memory pages)
    (below : memHigher.toNat < 2 ^ 30 + 1024) :
    OneToOne pageMap configAddrSpaceSize (mapMemory pageMap memHigher accessed).memory
      (pages ∪ {page | page < (highMemHole memHigher).toNat / pageBytes}) := by
  have count : (highMemHole memHigher).toNat / pageBytes = (memHigher.toNat + 1024) / 2048 :=
    highMemHole_pages memHigher
  have visits : ∀ i < (memHigher.toNat + 1024) / 2048,
      (BitVec.ofNat 64 i * pageSize).toNat = i * 2097152 := by
    intro i visited
    exact page_toNat (by omega)
  have added := oneToOne.foldl Accessed.memory
    (fun accessed i => accessed.mapPage pageMap (BitVec.ofNat 64 i * pageSize)
      (BitVec.ofNat 64 i * pageSize) pageMappingWrite 0)
    (fun i => BitVec.ofNat 64 i * pageSize)
    (fun i inSpace before => before.mapPage space inSpace pageMappingWrite 0)
    (List.range ((highMemHole memHigher).toNat / pageSize.toNat)) (by
      intro i visited
      rw [List.mem_range, highMemHole_pages] at visited
      rw [visits i visited, configAddrSpaceSize]
      omega)
  have pagesEq : {page | ∃ i ∈ List.range ((highMemHole memHigher).toNat / pageSize.toNat),
        pageOf (BitVec.ofNat 64 i * pageSize) = page} =
      {page | page < (highMemHole memHigher).toNat / pageBytes} := by
    ext page
    simp only [Set.mem_ofPred_eq, List.mem_range, highMemHole_pages, count]
    constructor
    · rintro ⟨i, visited, rfl⟩
      rw [pageOf, visits i visited]
      omega
    · intro below
      refine ⟨page, below, ?_⟩
      rw [pageOf, visits page below]
      omega
  rw [← pagesEq]
  exact added

/-- What `init_apic` adds. -/
theorem OneToOne.mapLapic (space : AddressSpace pageMap configAddrSpaceSize)
    (oneToOne : OneToOne pageMap configAddrSpaceSize memory pages) :
    OneToOne pageMap configAddrSpaceSize (mapLapic pageMap memory)
      (pages ∪ {pageOf lapicAddr}) := by
  rw [Set.union_singleton]
  exact oneToOne.mapPage space (by decide) _ 0

/-- What scans of the controllers add. -/
theorem OneToOne.mapHba (space : AddressSpace pageMap configAddrSpaceSize)
    (oneToOne : OneToOne pageMap configAddrSpaceSize memory pages)
    (fields : List (BitVec 32)) :
    OneToOne pageMap configAddrSpaceSize (fields.foldl (mapHba pageMap) memory)
      (pages ∪ {page | ∃ field ∈ fields, pageOf (hbaAddr field) = page}) := by
  refine oneToOne.foldl (fun memory => memory) (Acpi.mapHba pageMap) hbaAddr
    (fun field inSpace before => before.mapPage space inSpace _ 0) fields ?_
  intro field _
  have small := (field &&& ~~~ 0xF).isLt
  rw [hbaAddr, BitVec.toNat_setWidth, configAddrSpaceSize]
  omega

/-- The page map of the running kernel. -/
theorem oneToOne_bootPageMap {initial : PageMemory} {rounds : Nat} (kernelSize : Nat)
    (space : AddressSpace pageMap configAddrSpaceSize)
    (cleared : Cleared initial pageMap.toNat (pageMapSize configAddrSpaceSize))
    (enough : pageTableDescs ≤ rounds) (found : findRsdp firmware ≠ 0)
    (below : BelowLimit firmware memHigher) :
    ∃ memory, bootPageMap rounds initial pageMap kernelSize firmware memHigher = some memory ∧
      ∀ fields, OneToOne pageMap configAddrSpaceSize (fields.foldl (mapHba pageMap) memory)
        (kernelPages kernelSize firmware memHigher fields) := by
  obtain ⟨memory, created, kernel⟩ := oneToOne_createPageMap kernelSize space cleared enough
  have tables := kernel.accessRootTables space found below
  have usable := tables.mapMemory space below.memory
  have registers := usable.mapLapic space
  refine ⟨_, ?_, fun fields => registers.mapHba space fields⟩
  rw [bootPageMap, created]
  rfl

end Kernel

open Classical in
/-- **The address space of the kernel.**  When `boot64` has set up the memory and after any
scans of controllers, the processor translates every address in a page that was mapped for the
kernel, an address that `init_root_tables` visits, the memory or a device to itself, and no other
address. -/
theorem translate_kernelPages (initial : PageMemory) (pageMap : BitVec 64)
    (rounds kernelSize : Nat) (firmware : Firmware) (memHigher : BitVec 32)
    (space : AddressSpace pageMap configAddrSpaceSize)
    (cleared : Cleared initial pageMap.toNat (pageMapSize configAddrSpaceSize))
    (enough : pageTableDescs ≤ rounds) (found : findRsdp firmware ≠ 0)
    (below : BelowLimit firmware memHigher) :
    ∃ memory, bootPageMap rounds initial pageMap kernelSize firmware memHigher = some memory ∧
      ∀ (fields : List (BitVec 32)) (virtAddr : BitVec 64),
        virtAddr.toNat < configAddrSpaceSize →
          PageMap.translate (fields.foldl (mapHba pageMap) memory) pageMap.toNat virtAddr =
            if pageOf virtAddr ∈ kernelPages kernelSize firmware memHigher fields then
              some virtAddr.toNat
            else
              none := by
  obtain ⟨memory, booted, oneToOne⟩ :=
    oneToOne_bootPageMap kernelSize space cleared enough found below
  refine ⟨memory, booted, ?_⟩
  intro fields virtAddr inSpace
  split
  · rename_i member
    exact (oneToOne fields).mapped virtAddr inSpace member
  · rename_i outside
    exact (oneToOne fields).unmapped virtAddr inSpace outside

/-- A computer with 8 MB of memory and two tables above it in the slots of the XSDT: the bytes
behind the first slot are mapped, and those behind the second one are not. -/
theorem translate_kernelPages_twoSlots :
    ∃ memory, bootPageMap 512 unmapped 0x400000 0x800000 (twoSlots 2) 0x1C00 = some memory ∧
      PageMap.translate memory (0x400000#64).toNat 0x1000024 = some 0x1000024 ∧
      PageMap.translate memory (0x400000#64).toNat 0x2000024 = none := by
  have rsdp : findRsdp (twoSlots 2) = 0x9FC00 := by decide +kernel
  have tables : visited (twoSlots 2) 0x9FC00 = [0, 0x1000, 0x1000000] := by decide +kernel
  have below : BelowLimit (twoSlots 2) 0x1C00 := by
    refine ⟨by decide, fun _ => by decide +kernel, fun _ => ?_⟩
    decide +kernel
  obtain ⟨memory, booted, translated⟩ :=
    translate_kernelPages unmapped 0x400000 512 0x800000 (twoSlots 2) 0x1C00
      ⟨by decide, by decide, by decide, by decide, by decide⟩ (fun _ _ _ => rfl)
      (Nat.le_refl 512) (by rw [rsdp]; decide) below
  have first : pageOf 0x1000024 ∈ kernelPages 0x800000 (twoSlots 2) 0x1C00 [] := by
    refine Or.inl (Or.inl (Or.inl (Or.inr ⟨0x1000000, ?_, by decide⟩)))
    rw [rsdp, tables]
    decide
  have second : pageOf 0x2000024 ∉ kernelPages 0x800000 (twoSlots 2) 0x1C00 [] := by
    simp only [kernelPages, Set.mem_union, Set.mem_ofPred_eq, Set.mem_singleton_iff, not_or,
      rsdp, tables]
    exact ⟨⟨⟨⟨by decide, by simp [pageOf]⟩, by decide⟩, by decide⟩, by simp⟩
  have mapped := translated [] 0x1000024 (by decide)
  have notMapped := translated [] 0x2000024 (by decide)
  rw [if_pos first] at mapped
  rw [if_neg second] at notMapped
  exact ⟨memory, booted, mapped, notMapped⟩

end Acpi
end ToyKernel
