import ToyKernel.PageMap.Walk
import ToyKernel.PageMap.RoundTrip

/-!
# The page map built at boot and `get_page_desc`

The tables of `create_page_map` are interleaved, and `get_page_desc` computes
where the page directories lie.  The processor's walk reaches exactly the
descriptor that `get_page_desc` computes, and this stays so under `map_page` and
`unmap_page`, which write page directories only.
-/

namespace ToyKernel
namespace PageMap

/-- The tables above the page directories are as `create_page_map` leaves them,
and no page directory points to a table. -/
structure Complete (memory : PageMemory) (map directories : Nat) : Prop where
  pml4 : ∀ index, index < sizeElements directories pageTableDescs →
    memory (pml4Slot map index) = tablePointer (pdptTable map index)
  pdpt : ∀ pd, pd < directories → memory (pdptSlot map pd) = tablePointer (pdTable map pd)
  pml4Rest : ∀ index, sizeElements directories pageTableDescs ≤ index →
    index < pageTableDescs → memory (pml4Slot map index) = PageDesc.zero
  leaves : ∀ page, page < pageTableDescs * directories →
    entryPresent (memory (pageSlot map page)) → entryMapsPage (memory (pageSlot map page))

section Layout

variable {map directories : Nat}

theorem pageSlot_injective {page other : Nat}
    (same : pageSlot map page = pageSlot map other) : page = other := by
  simp only [pageSlot, pdTable, pageTableSize, pageTableDescs, pageDescSize] at same
  omega

theorem pageSlot_ne_pml4Slot {page index : Nat} (inTable : index < pageTableDescs) :
    pageSlot map page ≠ pml4Slot map index := by
  simp only [pageSlot, pml4Slot, pdTable, pageTableSize, pageTableDescs,
    pageDescSize] at *
  omega

/-- Page directories and page-directory-pointer tables are different tables. -/
theorem pageSlot_ne_pdptEntry {page group index : Nat} (inTable : index < pageTableDescs) :
    pageSlot map page ≠ pdptTable map group + index * pageDescSize := by
  simp only [pageSlot, pdptTable, pdTable, pageTableSize, pageTableDescs,
    pageDescSize] at *
  omega

theorem pageSlot_ne_pdptSlot {page pd : Nat} : pageSlot map page ≠ pdptSlot map pd :=
  pageSlot_ne_pdptEntry (Nat.mod_lt pd (by decide))

end Layout

/-- The page map that `create_page_map` leaves behind is complete. -/
theorem Built.complete {initial : PageMemory} {map firstPage lastPage directories : Nat}
    {last : Progress}
    (built : Built initial map firstPage lastPage
      (sizeElements directories pageTableDescs) directories last)
    (cleared : Cleared initial map (tableBytes directories)) :
    Complete last.memory map directories where
  pml4 := built.pml4
  pdpt := built.pdpt
  pml4Rest := by
    intro index after inTable
    rw [built.pml4Rest index after inTable]
    apply cleared
    · simp only [pml4Slot]
      omega
    · simp only [pml4Slot, tableBytes, pageTableSize, pageTableDescs, pageDescSize] at *
      omega
  leaves := by
    intro page inDirectories present
    rw [built.pages page inDirectories] at present ⊢
    rw [identityDesc, entryPresent_setPageDesc] at present
    rw [identityDesc, present, entryMapsPage_setPageDesc]

/-- Writing the descriptor of a page keeps the upper tables. -/
theorem Complete.update {memory : PageMemory} {map directories page : Nat}
    (complete : Complete memory map directories) {desc : PageDesc}
    (leaf : entryPresent desc → entryMapsPage desc)
    (bounded : directories ≤ pageTableDescs * pageTableDescs) :
    Complete (Function.update memory (pageSlot map page) desc) map directories where
  pml4 := by
    intro index before
    have inTable : index < pageTableDescs := by
      simp only [sizeElements, pageTableDescs] at *
      omega
    rw [Function.update_of_ne (pageSlot_ne_pml4Slot inTable).symm]
    exact complete.pml4 index before
  pdpt := by
    intro pd before
    rw [Function.update_of_ne pageSlot_ne_pdptSlot.symm]
    exact complete.pdpt pd before
  pml4Rest := by
    intro index after inTable
    rw [Function.update_of_ne (pageSlot_ne_pml4Slot inTable).symm]
    exact complete.pml4Rest index after inTable
  leaves := by
    intro other inDirectories
    by_cases same : pageSlot map other = pageSlot map page
    · rw [same, Function.update_self]
      exact leaf
    · rw [Function.update_of_ne same]
      exact complete.leaves other inDirectories

/-! ## The walk -/

section Walk

variable {memory : PageMemory} {pageMap virtAddr : BitVec 64} {addrSpaceSize : Nat}

/-- What the results of this section assume of the address space. -/
structure AddressSpace (pageMap : BitVec 64) (addrSpaceSize : Nat) : Prop where
  positive : 0 < addrSpaceSize
  wholePages : addrSpaceSize % pageBytes = 0
  small : addrSpaceSize ≤ 2 ^ 48
  aligned : pageMap.toNat % 4096 = 0
  below4GB : pageMap.toNat + pageMapSize addrSpaceSize ≤ 2 ^ 32

theorem AddressSpace.directories_le (space : AddressSpace pageMap addrSpaceSize) :
    pageMapPds addrSpaceSize ≤ pageTableDescs * pageTableDescs := by
  have small := space.small
  simp only [pageMapPds, sizeElements, pageTableDescs, pageBytes]
  omega

/-- The page of an address below the size has a descriptor. -/
theorem AddressSpace.page_lt (inSpace : virtAddr.toNat < addrSpaceSize) :
    virtAddr.toNat / pageBytes < pageTableDescs * pageMapPds addrSpaceSize := by
  simp only [pageMapPds, sizeElements, pageTableDescs, pageBytes]
  omega

/-- `get_page_desc` computes the address of the page's descriptor. -/
theorem getPageDesc_toNat (space : AddressSpace pageMap addrSpaceSize)
    (inSpace : virtAddr.toNat < addrSpaceSize) :
    (getPageDesc pageMap virtAddr).toNat =
      pageSlot pageMap.toNat (virtAddr.toNat / pageBytes) := by
  have small := space.small
  have below := space.below4GB
  have size : pageSize.toNat = pageBytes := rfl
  have two : (2 : BitVec 64).toNat = 2 := rfl
  simp only [getPageDesc, BitVec.toNat_add, BitVec.toNat_mul, BitVec.toNat_udiv,
    BitVec.toNat_umod, BitVec.toNat_ofNat, size, two]
  simp only [pageSlot, pdTable, pageTableDescs, pageTableSize, pageDescSize, pageBytes,
    Nat.reduceMod, Nat.reducePow]
  generalize entry_eq : virtAddr.toNat / 2097152 = entry
  omega

/-- The walk ends at the descriptor that `get_page_desc` computes. -/
theorem Complete.walk_eq (space : AddressSpace pageMap addrSpaceSize)
    (complete : Complete memory pageMap.toNat (pageMapPds addrSpaceSize))
    (inSpace : virtAddr.toNat < addrSpaceSize) :
    walk memory pageMap.toNat virtAddr = ((getPageDesc pageMap virtAddr).toNat, 1) := by
  have small := space.small
  have below := space.below4GB
  have aligned := space.aligned
  have inDirectories := AddressSpace.page_lt inSpace
  have index3 := tableIndex_eq 3 virtAddr
  have index2 := tableIndex_eq 2 virtAddr
  have index1 := tableIndex_eq 1 virtAddr
  rw [getPageDesc_toNat space inSpace]
  generalize page_eq : virtAddr.toNat / pageBytes = page at *
  have group : tableIndex 3 virtAddr = page / pageTableDescs / pageTableDescs := by
    simp only [pageTableDescs, pageBytes] at *
    omega
  have pml4Entry := complete.pml4 (page / pageTableDescs / pageTableDescs) (by
    simp only [sizeElements, pageTableDescs] at *
    omega)
  have pdptEntry := complete.pdpt (page / pageTableDescs) (by
    simp only [pageTableDescs] at *
    omega)
  have pdpt : pdptSlot pageMap.toNat (page / pageTableDescs) =
      pdptTable pageMap.toNat (page / pageTableDescs / pageTableDescs) +
        tableIndex 2 virtAddr * pageDescSize := by
    simp only [pdptSlot, pageTableDescs, pageDescSize, pageBytes] at *
    omega
  have slot : pageSlot pageMap.toNat page =
      pdTable pageMap.toNat (page / pageTableDescs) +
        tableIndex 1 virtAddr * pageDescSize := by
    simp only [pageSlot, pageTableDescs, pageDescSize, pageBytes] at *
    omega
  have leaf := complete.leaves page inDirectories
  rw [pml4Slot, ← group] at pml4Entry
  rw [pdpt] at pdptEntry
  rw [slot] at leaf ⊢
  rw [walk, topLevel, walkFrom_tablePointer ?_ ?_ pml4Entry, group,
    walkFrom_tablePointer ?_ ?_ pdptEntry, walkFrom_leaf (by decide) leaf]
  all_goals
    simp only [pdptTable, pdTable, pageTableSize, pageTableDescs, pageMapSize, pageMapPdpts,
      sizeElements] at *
    omega

end Walk

/-! ## Mapping and unmapping -/

theorem makeMapping_mapsPage (physAddr : BitVec 64) (flags availData : BitVec 32) :
    entryMapsPage (makeMapping physAddr flags availData) = true := by
  rw [entryMapsPage_eq]
  change ((((initialMapping physAddr availData).lowByte.setWidth 32 |||
    (flags &&& flagsMask)).setWidth 8).extractLsb' 7 1).getLsbD 0 = true
  rw [initialMapping_lowByte]
  simp

/-- A call of the interface that writes the page map. -/
inductive PageOp where
  | map (virtAddr physAddr : BitVec 64) (flags availData : BitVec 32)
  | unmap (virtAddr : BitVec 64)
  deriving DecidableEq

namespace PageOp

/-- The virtual address that a call is about. -/
def virtAddr : PageOp → BitVec 64
  | map virtAddr _ _ _ => virtAddr
  | unmap virtAddr => virtAddr

/-- The page map after a call. -/
def run (pageMap : BitVec 64) (memory : PageMemory) : PageOp → PageMemory
  | map virtAddr physAddr flags availData =>
      mapPage memory pageMap virtAddr physAddr flags availData
  | unmap virtAddr => unmapPage memory pageMap virtAddr

/-- The descriptor that a call stores. -/
def desc : PageOp → PageDesc
  | map _ physAddr flags availData => makeMapping physAddr flags availData
  | unmap _ => PageDesc.zero

/-- A call writes one descriptor. -/
theorem run_eq (pageMap : BitVec 64) (memory : PageMemory) (op : PageOp) :
    op.run pageMap memory =
      Function.update memory (getPageDesc pageMap op.virtAddr).toNat op.desc := by
  cases op <;> rfl

theorem desc_leaf (op : PageOp) (present : entryPresent op.desc) :
    entryMapsPage op.desc := by
  cases op with
  | map virtAddr physAddr flags availData =>
      exact makeMapping_mapsPage physAddr flags availData
  | unmap virtAddr => simp [desc, entryPresent_eq, PageDesc.zero] at present

end PageOp

/-- The page map after a list of calls. -/
def runOps (pageMap : BitVec 64) (memory : PageMemory) (ops : List PageOp) : PageMemory :=
  ops.foldl (fun memory op => op.run pageMap memory) memory

/-- The address of an entry of the top table, or of a table that a present entry
of the top table points to. -/
def UpperSlot (memory : PageMemory) (map slot : Nat) : Prop :=
  ∃ index, index < pageTableDescs ∧
    (slot = pml4Slot map index ∨
      entryPresent (memory (pml4Slot map index)) ∧
        ∃ entry, entry < pageTableDescs ∧
          slot = entryTable (memory (pml4Slot map index)) + entry * pageDescSize)

section Calls

variable {memory : PageMemory} {pageMap : BitVec 64} {addrSpaceSize : Nat}

/-- One call keeps the upper tables. -/
theorem Complete.run (space : AddressSpace pageMap addrSpaceSize)
    (complete : Complete memory pageMap.toNat (pageMapPds addrSpaceSize))
    {op : PageOp} (inSpace : op.virtAddr.toNat < addrSpaceSize) :
    Complete (op.run pageMap memory) pageMap.toNat (pageMapPds addrSpaceSize) := by
  rw [op.run_eq, getPageDesc_toNat space inSpace]
  exact complete.update op.desc_leaf space.directories_le

/-- Any list of calls keeps the upper tables. -/
theorem Complete.runOps (space : AddressSpace pageMap addrSpaceSize)
    (complete : Complete memory pageMap.toNat (pageMapPds addrSpaceSize))
    {ops : List PageOp} (inSpace : ∀ op ∈ ops, op.virtAddr.toNat < addrSpaceSize) :
    Complete (runOps pageMap memory ops) pageMap.toNat (pageMapPds addrSpaceSize) := by
  induction ops generalizing memory with
  | nil => exact complete
  | cons op ops inductionHypothesis =>
      have next := complete.run space (inSpace op (by simp))
      exact inductionHypothesis next fun other later => inSpace other (by simp [later])

/-- The descriptor of a page is in none of the upper tables. -/
theorem Complete.not_upperSlot (space : AddressSpace pageMap addrSpaceSize)
    (complete : Complete memory pageMap.toNat (pageMapPds addrSpaceSize)) (page : Nat) :
    ¬ UpperSlot memory pageMap.toNat (pageSlot pageMap.toNat page) := by
  have small := space.small
  have aligned := space.aligned
  have below := space.below4GB
  rintro ⟨index, inTable, isPml4 | ⟨present, entry, inPdpt, isPdpt⟩⟩
  · exact pageSlot_ne_pml4Slot inTable isPml4
  · by_cases used : index < sizeElements (pageMapPds addrSpaceSize) pageTableDescs
    · rw [complete.pml4 index used, tablePointer, entryTable_setPageDesc] at isPdpt
      · exact pageSlot_ne_pdptEntry inPdpt isPdpt
      all_goals
        simp only [pdptTable, pageTableSize, pageTableDescs] at *
        omega
    · rw [complete.pml4Rest index (by omega) inTable] at present
      simp [entryPresent_eq, PageDesc.zero] at present

/-- A call leaves the translations of all other pages alone. -/
theorem Complete.translate_run (space : AddressSpace pageMap addrSpaceSize)
    (complete : Complete memory pageMap.toNat (pageMapPds addrSpaceSize))
    {op : PageOp} (inSpace : op.virtAddr.toNat < addrSpaceSize)
    {virtAddr : BitVec 64} (virtInSpace : virtAddr.toNat < addrSpaceSize)
    (otherPage : virtAddr.toNat / pageBytes ≠ op.virtAddr.toNat / pageBytes) :
    translate (op.run pageMap memory) pageMap.toNat virtAddr =
      translate memory pageMap.toNat virtAddr := by
  have otherSlot : (getPageDesc pageMap virtAddr).toNat ≠
      (getPageDesc pageMap op.virtAddr).toNat := by
    rw [getPageDesc_toNat space virtInSpace, getPageDesc_toNat space inSpace]
    exact fun same => otherPage (pageSlot_injective same)
  rw [translate, translate, (complete.run space inSpace).walk_eq space virtInSpace,
    complete.walk_eq space virtInSpace]
  simp only [op.run_eq, Function.update_of_ne otherSlot]

end Calls

/-! ## Boot -/

/-- A virtual address lies in a page that meets the mapped range. -/
def PageMeets (mappedAddr mappedSize : Nat) (virtAddr : BitVec 64) : Prop :=
  ∃ address, mappedAddr ≤ address ∧ address < mappedAddr + mappedSize ∧
    address / pageBytes = virtAddr.toNat / pageBytes

theorem pageMeets_iff {mappedAddr mappedSize : Nat} (nonempty : 0 < mappedSize)
    (virtAddr : BitVec 64) :
    PageMeets mappedAddr mappedSize virtAddr ↔
      mappedAddr / pageBytes ≤ virtAddr.toNat / pageBytes ∧
        virtAddr.toNat / pageBytes ≤ (mappedAddr + mappedSize - 1) / pageBytes := by
  simp only [PageMeets, pageBytes]
  constructor
  · rintro ⟨address, low, high, same⟩
    omega
  · rintro ⟨low, high⟩
    -- the first address that the page and the range share
    refine ⟨max mappedAddr (virtAddr.toNat / 0x200000 * 0x200000), ?_, ?_, ?_⟩ <;> omega

/-- The translation of a page whose descriptor is as at boot. -/
theorem translate_identityDesc {memory : PageMemory} {pageMap virtAddr : BitVec 64}
    {firstPage lastPage : Nat}
    (walked : walk memory pageMap.toNat virtAddr = ((getPageDesc pageMap virtAddr).toNat, 1))
    (small : virtAddr.toNat < 2 ^ 48)
    (entry : memory (getPageDesc pageMap virtAddr).toNat =
      identityDesc firstPage lastPage (virtAddr.toNat / pageBytes)) :
    translate memory pageMap.toNat virtAddr =
      if firstPage ≤ virtAddr.toNat / pageBytes ∧ virtAddr.toNat / pageBytes ≤ lastPage then
        some virtAddr.toNat
      else
        none := by
  rw [translate, walked]
  simp only [entry, identityDesc, entryPresent_setPageDesc, Bool.and_eq_true,
    decide_eq_true_eq]
  split
  · rename_i present
    have mapped : (decide (firstPage ≤ virtAddr.toNat / pageBytes) &&
        decide (virtAddr.toNat / pageBytes ≤ lastPage)) = true := by simpa using present
    rw [mapped, entryFrame_setPageDesc]
    · simp only [pageBytes]
      congr 1
      omega
    · simp only [pageBytes]
      omega
    · decide
    · simp only [pageBytes]
      omega
  · rfl

/-- What the page map is for: from `pageMap`, the walk of every address of the
space reaches the descriptor that `get_page_desc` computes, and a call of
`map_page` or `unmap_page` changes neither the tables above the page directories
nor the translation of another page. -/
structure Agrees (memory : PageMemory) (pageMap : BitVec 64) (addrSpaceSize : Nat) :
    Prop where
  walk : ∀ virtAddr : BitVec 64, virtAddr.toNat < addrSpaceSize →
    walk memory pageMap.toNat virtAddr = ((getPageDesc pageMap virtAddr).toNat, 1)
  upper : ∀ op : PageOp, op.virtAddr.toNat < addrSpaceSize →
    ∀ slot, UpperSlot memory pageMap.toNat slot → op.run pageMap memory slot = memory slot
  others : ∀ op : PageOp, op.virtAddr.toNat < addrSpaceSize →
    ∀ virtAddr : BitVec 64, virtAddr.toNat < addrSpaceSize →
      virtAddr.toNat / pageBytes ≠ op.virtAddr.toNat / pageBytes →
      translate (op.run pageMap memory) pageMap.toNat virtAddr =
        translate memory pageMap.toNat virtAddr

theorem Complete.agrees {memory : PageMemory} {pageMap : BitVec 64} {addrSpaceSize : Nat}
    (space : AddressSpace pageMap addrSpaceSize)
    (complete : Complete memory pageMap.toNat (pageMapPds addrSpaceSize)) :
    Agrees memory pageMap addrSpaceSize where
  walk := fun _ inSpace => complete.walk_eq space inSpace
  upper := by
    intro op inSpace slot upperSlot
    rw [op.run_eq]
    apply Function.update_of_ne
    rintro rfl
    rw [getPageDesc_toNat space inSpace] at upperSlot
    exact complete.not_upperSlot space _ upperSlot
  others := fun _ inSpace _ virtInSpace otherPage =>
    complete.translate_run space inSpace virtInSpace otherPage

open Classical in
/-- `create_page_map` terminates, writes only inside the `PAGE_MAP_SIZE` bytes,
maps exactly the pages that meet the given range, and agrees with
`get_page_desc`, also after any calls of `map_page` and `unmap_page`. -/
theorem createPageMap_agrees
    (initial : PageMemory) (pageMap : BitVec 64)
    (addrSpaceSize mappedAddr mappedSize : Nat)
    (space : AddressSpace pageMap addrSpaceSize)
    (cleared : Cleared initial pageMap.toNat (pageMapSize addrSpaceSize))
    (nonempty : 0 < mappedSize)
    (_inside : mappedAddr + mappedSize ≤ addrSpaceSize) :
    ∃ memory : PageMemory,
      (∀ rounds, pageTableDescs ≤ rounds →
        createPageMap rounds initial pageMap.toNat addrSpaceSize mappedAddr mappedSize =
          some memory) ∧
      (∀ slot, memory slot ≠ initial slot →
        pageMap.toNat ≤ slot ∧
          slot + pageDescSize ≤ pageMap.toNat + pageMapSize addrSpaceSize) ∧
      (∀ virtAddr : BitVec 64, virtAddr.toNat < addrSpaceSize →
        translate memory pageMap.toNat virtAddr =
          if PageMeets mappedAddr mappedSize virtAddr then some virtAddr.toNat else none) ∧
      ∀ ops : List PageOp, (∀ op ∈ ops, op.virtAddr.toNat < addrSpaceSize) →
        Agrees (runOps pageMap memory ops) pageMap addrSpaceSize := by
  obtain ⟨last, terminates, built⟩ :=
    createPageMap_spec initial pageMap.toNat addrSpaceSize mappedAddr mappedSize cleared
      space.positive space.small
  have complete := built.complete (pageMapSize_eq addrSpaceSize ▸ cleared)
  refine ⟨last.memory, terminates, ?_, ?_, ?_⟩
  · intro slot written
    by_contra outsideArea
    apply written
    apply built.outside
    rw [pageMapSize_eq] at outsideArea
    simp only [tableBytes, pageMapPdpts] at *
    have tables : 1 + sizeElements (pageMapPds addrSpaceSize) pageTableDescs +
        pageMapPds addrSpaceSize = pageMapPds addrSpaceSize +
          sizeElements (pageMapPds addrSpaceSize) pageTableDescs + 1 := by omega
    rw [tables]
    omega
  · intro virtAddr inSpace
    have small := space.small
    have entry := built.pages _ (AddressSpace.page_lt inSpace)
    rw [← getPageDesc_toNat space inSpace] at entry
    rw [translate_identityDesc (complete.walk_eq space inSpace) (by omega) entry]
    simp only [pageMeets_iff nonempty]
  · intro ops opsInSpace
    exact (complete.runOps space opsInSpace).agrees space

/-- The kernel's own address space of 2^40 bytes, with the kernel at 1 MB. -/
theorem createPageMap_agrees_kernel :
    AddressSpace 0x400000 (2 ^ 40) ∧
    Agrees ((createPageMap 512 (fun _ => PageDesc.zero) 0x400000 (2 ^ 40) 0x100000
      0x800000).getD fun _ => PageDesc.zero) 0x400000 (2 ^ 40) := by
  have space : AddressSpace 0x400000 (2 ^ 40) :=
    ⟨by decide, by decide, by decide, by decide, by decide⟩
  obtain ⟨memory, result, -, -, agrees⟩ :=
    createPageMap_agrees (fun _ => PageDesc.zero) 0x400000 (2 ^ 40) 0x100000 0x800000 space
      (fun _ _ _ => rfl) (by decide) (by decide)
  have result : createPageMap 512 (fun _ => PageDesc.zero) 0x400000 (2 ^ 40) 0x100000
      0x800000 = some memory := result 512 (Nat.le_refl 512)
  rw [result]
  exact ⟨space, agrees [] (by simp)⟩

end PageMap
end ToyKernel
