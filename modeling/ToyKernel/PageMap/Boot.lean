import ToyKernel.PageMap.Defs

/-!
# The page tables built at boot

`create_page_map` of `boot32.c`, with its three nested loops and the running
pointer `next_table`.  Addresses and page numbers are natural numbers: the table
area lies below 4 GB and the address space has at most 2^48 bytes, so the 32-bit
pointers and the 64-bit counters of the C code do not wrap.
-/

namespace ToyKernel
namespace PageMap

/-- `SIZE_ELEMENTS`. -/
def sizeElements (size elementSize : Nat) : Nat :=
  (size + elementSize - 1) / elementSize

/-- `PAGE_SIZE` as a natural number. -/
def pageBytes : Nat := 0x200000

/-- `PAGE_MAP_PDS` for an address-space size. -/
def pageMapPds (addrSpaceSize : Nat) : Nat :=
  sizeElements addrSpaceSize (pageTableDescs * pageBytes)

/-- `PAGE_MAP_PDPTS` for an address-space size. -/
def pageMapPdpts (addrSpaceSize : Nat) : Nat :=
  sizeElements (pageMapPds addrSpaceSize) pageTableDescs

/-- `PAGE_MAP_SIZE` for an address-space size. -/
def pageMapSize (addrSpaceSize : Nat) : Nat :=
  (pageMapPds addrSpaceSize + pageMapPdpts addrSpaceSize + 1) * pageTableSize

/-- `set_page_desc`. -/
def setPageDesc (desc : PageDesc) (present page : Bool) (address : Nat) : PageDesc :=
  if present then
    { desc with
      present := 1
      write := 1
      psPat := if page then 1 else 0
      address0 := BitVec.ofNat 20 (address / 2 ^ 12)
      address1 := BitVec.ofNat 20 (address / 2 ^ 32) }
  else
    PageDesc.zero

/-- The variables that the loops of `create_page_map` share. -/
structure Progress where
  memory : PageMemory
  nextTable : Nat
  page : Nat

/-- `set_page_desc(&table[index], present, page, address)`. -/
def Progress.setDesc (progress : Progress)
    (table index : Nat) (present page : Bool) (address : Nat) : Progress :=
  let slot := table + index * pageDescSize
  { progress with
    memory := Function.update progress.memory slot
      (setPageDesc (progress.memory slot) present page address) }

/-- Take the next free table. -/
def Progress.takeTable (progress : Progress) : Progress :=
  { progress with nextTable := progress.nextTable + pageTableDescs * pageDescSize }

/-- The first `count` rounds of the loop over a page directory. -/
def fillPd (firstPage lastPage pd : Nat) : Nat → Progress → Progress
  | 0, progress => progress
  | pdi + 1, progress =>
      let progress := fillPd firstPage lastPage pd pdi progress
      let present := firstPage ≤ progress.page && progress.page ≤ lastPage
      let progress := progress.setDesc pd pdi present true (progress.page * pageBytes)
      { progress with page := progress.page + 1 }

/-- The loop over a page-directory-pointer table, from index `pdpti` on.  The
flag tells whether `create_page_map` returned in it. -/
def fillPdpt (totalPages firstPage lastPage pdpt : Nat) :
    Nat → Nat → Progress → Progress × Bool
  | 0, _, progress => (progress, false)
  | rounds + 1, pdpti, progress =>
      let pd := progress.nextTable
      let progress := progress.setDesc pdpt pdpti true false pd
      let progress := progress.takeTable
      let progress := fillPd firstPage lastPage pd pageTableDescs progress
      if totalPages ≤ progress.page then
        (progress, true)
      else
        fillPdpt totalPages firstPage lastPage pdpt rounds (pdpti + 1) progress

/-- The endless loop over the top table, from index `pml4i` on; `none` if it has
not returned within the given number of rounds. -/
def fillPml4 (totalPages firstPage lastPage pml4 : Nat) :
    Nat → Nat → Progress → Option Progress
  | 0, _, _ => none
  | rounds + 1, pml4i, progress =>
      let pdpt := progress.nextTable
      let progress := progress.setDesc pml4 pml4i true false pdpt
      let progress := progress.takeTable
      match fillPdpt totalPages firstPage lastPage pdpt pageTableDescs 0 progress with
      | (progress, true) => some progress
      | (progress, false) =>
          fillPml4 totalPages firstPage lastPage pml4 rounds (pml4i + 1) progress

/-- `create_page_map`, with at most the given number of rounds of its outer
loop. -/
def createPageMap (rounds : Nat) (memory : PageMemory)
    (map addrSpaceSize mappedAddr mappedSize : Nat) : Option PageMemory :=
  let totalPages := sizeElements addrSpaceSize pageBytes
  let lastPage := (mappedAddr + mappedSize - 1) / pageBytes
  let firstPage := mappedAddr / pageBytes
  (fillPml4 totalPages firstPage lastPage map rounds 0
    { memory := memory, nextTable := map + pageTableDescs * pageDescSize, page := 0 }).map
      Progress.memory

/-! ## What the loops write -/

/-- A descriptor that points to a table. -/
def tablePointer (address : Nat) : PageDesc :=
  setPageDesc PageDesc.zero true false address

/-- The descriptor of a page, mapped to itself if it is in the given range. -/
def identityDesc (firstPage lastPage page : Nat) : PageDesc :=
  setPageDesc PageDesc.zero (firstPage ≤ page && page ≤ lastPage) true (page * pageBytes)

/-- The address of entry `index` of the top table. -/
def pml4Slot (map index : Nat) : Nat := map + index * pageDescSize

/-- The first page-directory-pointer table and each further one after 512
directories. -/
def pdptTable (map index : Nat) : Nat := map + pageTableSize * (1 + 513 * index)

/-- The address of the descriptor that points to page directory `pd`. -/
def pdptSlot (map pd : Nat) : Nat :=
  pdptTable map (pd / pageTableDescs) + pd % pageTableDescs * pageDescSize

/-- Page directory `pd`. -/
def pdTable (map pd : Nat) : Nat :=
  map + pageTableSize * (2 + pd + pd / pageTableDescs)

/-- The address of the descriptor of a page. -/
def pageSlot (map page : Nat) : Nat :=
  pdTable map (page / pageTableDescs) + page % pageTableDescs * pageDescSize

@[simp] theorem setDesc_nextTable (progress : Progress)
    (table index : Nat) (present page : Bool) (address : Nat) :
    (progress.setDesc table index present page address).nextTable =
      progress.nextTable := rfl

@[simp] theorem setDesc_page (progress : Progress)
    (table index : Nat) (present page : Bool) (address : Nat) :
    (progress.setDesc table index present page address).page = progress.page := rfl

@[simp] theorem takeTable_memory (progress : Progress) :
    progress.takeTable.memory = progress.memory := rfl

@[simp] theorem takeTable_page (progress : Progress) :
    progress.takeTable.page = progress.page := rfl

theorem takeTable_nextTable (progress : Progress) :
    progress.takeTable.nextTable = progress.nextTable + 4096 := rfl

theorem setDesc_memory_self (progress : Progress)
    (table index : Nat) (present page : Bool) (address : Nat) :
    (progress.setDesc table index present page address).memory
        (table + index * pageDescSize) =
      setPageDesc (progress.memory (table + index * pageDescSize))
        present page address := by
  simp [Progress.setDesc]

theorem setDesc_memory_other (progress : Progress)
    (table index : Nat) (present page : Bool) (address : Nat) {slot : Nat}
    (different : slot ≠ table + index * pageDescSize) :
    (progress.setDesc table index present page address).memory slot =
      progress.memory slot := by
  simp [Progress.setDesc, different]

/-- The loop over a page directory writes one descriptor for each page. -/
theorem fillPd_spec (firstPage lastPage pd : Nat) (progress : Progress) (count : Nat) :
    (fillPd firstPage lastPage pd count progress).page = progress.page + count ∧
    (fillPd firstPage lastPage pd count progress).nextTable = progress.nextTable ∧
    (∀ pdi, pdi < count →
      (fillPd firstPage lastPage pd count progress).memory (pd + pdi * pageDescSize) =
        setPageDesc (progress.memory (pd + pdi * pageDescSize))
          (firstPage ≤ progress.page + pdi && progress.page + pdi ≤ lastPage) true
          ((progress.page + pdi) * pageBytes)) ∧
    (∀ slot, (∀ pdi, pdi < count → slot ≠ pd + pdi * pageDescSize) →
      (fillPd firstPage lastPage pd count progress).memory slot =
        progress.memory slot) := by
  induction count with
  | zero => simp [fillPd]
  | succ count inductionHypothesis =>
      obtain ⟨pages, tables, written, kept⟩ := inductionHypothesis
      refine ⟨?_, ?_, ?_, ?_⟩
      · simp only [fillPd, setDesc_page, pages]
        omega
      · simp only [fillPd, setDesc_nextTable, tables]
      · intro pdi inRange
        simp only [fillPd]
        by_cases isLast : pdi = count
        · subst isLast
          have untouched := kept (pd + pdi * pageDescSize) (by
            intro other before
            simp only [pageDescSize]
            omega)
          rw [setDesc_memory_self, untouched, pages]
        · rw [setDesc_memory_other _ _ _ _ _ _ (by
            simp only [pageDescSize]
            omega)]
          exact written pdi (by omega)
      · intro slot elsewhere
        simp only [fillPd]
        rw [setDesc_memory_other _ _ _ _ _ _ (elsewhere count (by omega))]
        exact kept slot fun pdi before => elsewhere pdi (by omega)

/-- The state of the construction: `started` page-directory-pointer tables are
linked from the top table, and `done` page directories are complete. -/
structure Built (initial : PageMemory) (map firstPage lastPage : Nat)
    (started done : Nat) (progress : Progress) : Prop where
  nextTable : progress.nextTable = map + pageTableSize * (1 + started + done)
  page : progress.page = pageTableDescs * done
  pml4 : ∀ index, index < started →
    progress.memory (pml4Slot map index) = tablePointer (pdptTable map index)
  pdpt : ∀ pd, pd < done →
    progress.memory (pdptSlot map pd) = tablePointer (pdTable map pd)
  pages : ∀ page, page < pageTableDescs * done →
    progress.memory (pageSlot map page) = identityDesc firstPage lastPage page
  pml4Rest : ∀ index, started ≤ index → index < pageTableDescs →
    progress.memory (pml4Slot map index) = initial (pml4Slot map index)
  pdptRest : ∀ pd, done ≤ pd → pd < pageTableDescs * started →
    progress.memory (pdptSlot map pd) = initial (pdptSlot map pd)
  outside : ∀ slot,
    slot < map ∨ map + pageTableSize * (1 + started + done) < slot + pageDescSize →
      progress.memory slot = initial slot

/-- The same with the sizes of the tables as numbers, for linear arithmetic. -/
theorem built_iff (initial : PageMemory) (map firstPage lastPage started done : Nat)
    (progress : Progress) :
    Built initial map firstPage lastPage started done progress ↔
      progress.nextTable = map + 4096 * (1 + started + done) ∧
      progress.page = 512 * done ∧
      (∀ index, index < started →
        progress.memory (map + index * 8) =
          tablePointer (map + 4096 * (1 + 513 * index))) ∧
      (∀ pd, pd < done →
        progress.memory (map + 4096 * (1 + 513 * (pd / 512)) + pd % 512 * 8) =
          tablePointer (map + 4096 * (2 + pd + pd / 512))) ∧
      (∀ page, page < 512 * done →
        progress.memory
            (map + 4096 * (2 + page / 512 + page / 512 / 512) + page % 512 * 8) =
          identityDesc firstPage lastPage page) ∧
      (∀ index, started ≤ index → index < 512 →
        progress.memory (map + index * 8) = initial (map + index * 8)) ∧
      (∀ pd, done ≤ pd → pd < 512 * started →
        progress.memory (map + 4096 * (1 + 513 * (pd / 512)) + pd % 512 * 8) =
          initial (map + 4096 * (1 + 513 * (pd / 512)) + pd % 512 * 8)) ∧
      (∀ slot, slot < map ∨ map + 4096 * (1 + started + done) < slot + 8 →
        progress.memory slot = initial slot) := by
  constructor
  · intro built
    exact ⟨built.nextTable, built.page, built.pml4, built.pdpt, built.pages,
      built.pml4Rest, built.pdptRest, built.outside⟩
  · rintro ⟨nextTable, page, pml4, pdpt, pages, pml4Rest, pdptRest, outside⟩
    exact ⟨nextTable, page, pml4, pdpt, pages, pml4Rest, pdptRest, outside⟩

/-! ## The construction -/

section Construction

variable {initial : PageMemory} {map firstPage lastPage directories : Nat}

/-- The number of bytes that a map with the given number of directories
takes. -/
def tableBytes (directories : Nat) : Nat :=
  pageTableSize * (directories + sizeElements directories pageTableDescs + 1)

/-- The table area is zeroed. -/
def Cleared (initial : PageMemory) (map bytes : Nat) : Prop :=
  ∀ slot, map ≤ slot → slot < map + bytes → initial slot = PageDesc.zero

/-- Before the first round. -/
theorem Built.start (initial : PageMemory) (map firstPage lastPage : Nat) :
    Built initial map firstPage lastPage 0 0
      { memory := initial, nextTable := map + pageTableDescs * pageDescSize, page := 0 } where
  nextTable := rfl
  page := rfl
  pml4 := by
    intro index before
    omega
  pdpt := by
    intro pd before
    omega
  pages := by
    intro page before
    omega
  pml4Rest := fun _ _ _ => rfl
  pdptRest := fun _ _ _ => rfl
  outside := fun _ _ => rfl

/-- The next entry of the top table. -/
theorem Built.pml4Entry {group : Nat} {progress : Progress}
    (built : Built initial map firstPage lastPage group (pageTableDescs * group) progress)
    (cleared : Cleared initial map (tableBytes directories))
    (unfinished : pageTableDescs * group < directories)
    (bounded : directories ≤ pageTableDescs * pageTableDescs) :
    Built initial map firstPage lastPage (group + 1) (pageTableDescs * group)
      (progress.setDesc map group true false progress.nextTable).takeTable := by
  rw [built_iff] at built ⊢
  obtain ⟨nextTable, page, pml4, pdpt, pages, pml4Rest, pdptRest, outside⟩ := built
  simp only [pageTableDescs, pageTableSize, tableBytes, sizeElements, Cleared] at *
  have kept : ∀ {slot : Nat}, slot ≠ map + group * 8 →
      (progress.setDesc map group true false progress.nextTable).memory slot =
        progress.memory slot := fun different =>
    setDesc_memory_other progress map group true false _ different
  refine ⟨?_, ?_, ?_, ?_, ?_, ?_, ?_, ?_⟩
  · rw [takeTable_nextTable, setDesc_nextTable]
    omega
  · rw [takeTable_page, setDesc_page]
    omega
  · intro index before
    rw [takeTable_memory]
    by_cases isLast : index = group
    · subst isLast
      have written := setDesc_memory_self progress map index true false progress.nextTable
      have untouched := pml4Rest index (by omega) (by omega)
      have zeroed := cleared (map + index * 8) (by omega) (by omega)
      have table : progress.nextTable = map + 4096 * (1 + 513 * index) := by omega
      simp only [pageDescSize] at written
      rw [written, untouched, zeroed, table, tablePointer]
    · rw [kept (by omega)]
      exact pml4 index (by omega)
  · intro pd before
    rw [takeTable_memory, kept (by omega)]
    exact pdpt pd before
  · intro page before
    rw [takeTable_memory, kept (by omega)]
    exact pages page before
  · intro index after inTable
    rw [takeTable_memory, kept (by omega)]
    exact pml4Rest index (by omega) inTable
  · intro pd after inTable
    rw [takeTable_memory, kept (by omega)]
    exact outside _ (by omega)
  · intro slot outsideArea
    rw [takeTable_memory, kept (by omega)]
    exact outside slot (by omega)

/-- The next page directory. -/
theorem Built.pdptEntry {group pdpti : Nat} {progress : Progress}
    (built : Built initial map firstPage lastPage (group + 1)
      (pageTableDescs * group + pdpti) progress)
    (cleared : Cleared initial map (tableBytes directories))
    (unfinished : pageTableDescs * group + pdpti < directories)
    (inTable : pdpti < pageTableDescs) :
    Built initial map firstPage lastPage (group + 1)
      (pageTableDescs * group + (pdpti + 1))
      (fillPd firstPage lastPage progress.nextTable pageTableDescs
        (progress.setDesc (pdptTable map group) pdpti true false
          progress.nextTable).takeTable) := by
  rw [built_iff] at built ⊢
  obtain ⟨nextTable, page, pml4, pdpt, pages, pml4Rest, pdptRest, outside⟩ := built
  obtain ⟨filledPage, filledTable, filled, notFilled⟩ :=
    fillPd_spec firstPage lastPage progress.nextTable
      (progress.setDesc (pdptTable map group) pdpti true false progress.nextTable).takeTable
      pageTableDescs
  simp only [pageTableDescs, pageTableSize, pdptTable, pageDescSize, tableBytes,
    sizeElements, Cleared, takeTable_memory, takeTable_page, setDesc_page] at *
  generalize afterFill : fillPd firstPage lastPage progress.nextTable 512
    (progress.setDesc (map + 4096 * (1 + 513 * group)) pdpti true false
      progress.nextTable).takeTable = last at *
  have pointerKept : ∀ {slot : Nat}, slot ≠ map + 4096 * (1 + 513 * group) + pdpti * 8 →
      (progress.setDesc (map + 4096 * (1 + 513 * group)) pdpti true false
        progress.nextTable).memory slot = progress.memory slot := fun different =>
    setDesc_memory_other progress _ pdpti true false _ different
  have kept : ∀ {slot : Nat}, slot ≠ map + 4096 * (1 + 513 * group) + pdpti * 8 →
      (slot < progress.nextTable ∨ progress.nextTable + 4096 < slot + 8) →
      last.memory slot = progress.memory slot := by
    intro slot different elsewhere
    rw [notFilled slot (fun pdi inPd => by omega)]
    exact pointerKept different
  refine ⟨?_, ?_, ?_, ?_, ?_, ?_, ?_, ?_⟩
  · rw [filledTable, takeTable_nextTable, setDesc_nextTable]
    omega
  · omega
  · intro index before
    rw [kept (by omega) (by omega)]
    exact pml4 index before
  · intro pd before
    by_cases isLast : pd = 512 * group + pdpti
    · have pointer : map + 4096 * (1 + 513 * (pd / 512)) + pd % 512 * 8 =
          map + 4096 * (1 + 513 * group) + pdpti * 8 := by omega
      have untouched := pdptRest pd (by omega) (by omega)
      have zeroed := cleared (map + 4096 * (1 + 513 * (pd / 512)) + pd % 512 * 8)
        (by omega) (by omega)
      have written := setDesc_memory_self progress (map + 4096 * (1 + 513 * group))
        pdpti true false progress.nextTable
      have table : progress.nextTable = map + 4096 * (2 + pd + pd / 512) := by omega
      simp only [pageDescSize] at written
      rw [notFilled _ (fun pdi inPd => by omega), pointer, written, ← pointer,
        untouched, zeroed, table, tablePointer]
    · rw [kept (by omega) (by omega)]
      exact pdpt pd (by omega)
  · intro other before
    by_cases inLast : other < 512 * (512 * group + pdpti)
    · rw [kept (by omega) (by omega)]
      exact pages other inLast
    · have slot : map + 4096 * (2 + other / 512 + other / 512 / 512) + other % 512 * 8 =
          progress.nextTable + other % 512 * 8 := by omega
      have number : progress.page + other % 512 = other := by omega
      have untouched := outside (progress.nextTable + other % 512 * 8) (by omega)
      have zeroed := cleared (progress.nextTable + other % 512 * 8) (by omega) (by omega)
      rw [slot, filled (other % 512) (by omega), pointerKept (by omega), untouched, zeroed]
      simp only [number, identityDesc]
  · intro index after inPml4
    rw [kept (by omega) (by omega)]
    exact pml4Rest index after inPml4
  · intro pd after inPdpt
    rw [kept (by omega) (by omega)]
    exact pdptRest pd (by omega) inPdpt
  · intro slot outsideArea
    rw [kept (by omega) (by omega)]
    exact outside slot (by omega)

/-- The loop over a page-directory-pointer table returns when the last directory
is complete, and otherwise leaves a full table behind. -/
theorem fillPdpt_spec {group totalPages : Nat}
    (cleared : Cleared initial map (tableBytes directories))
    (counted : directories = sizeElements totalPages pageTableDescs)
    (rounds pdpti : Nat) (progress : Progress)
    (inTable : pdpti + rounds = pageTableDescs)
    (built : Built initial map firstPage lastPage (group + 1)
      (pageTableDescs * group + pdpti) progress)
    (unfinished : pageTableDescs * group + pdpti < directories)
    (last : Progress) (returned : Bool)
    (result : fillPdpt totalPages firstPage lastPage (pdptTable map group) rounds pdpti
      progress = (last, returned)) :
    if returned then
      directories ≤ pageTableDescs * (group + 1) ∧
        Built initial map firstPage lastPage (group + 1) directories last
    else
      pageTableDescs * (group + 1) < directories ∧
        Built initial map firstPage lastPage (group + 1)
          (pageTableDescs * (group + 1)) last := by
  induction rounds generalizing pdpti progress with
  | zero =>
      simp only [fillPdpt, Prod.mk.injEq] at result
      obtain ⟨rfl, rfl⟩ := result
      have full : pageTableDescs * group + pdpti = pageTableDescs * (group + 1) := by
        simp only [pageTableDescs] at *
        omega
      rw [full] at built unfinished
      exact ⟨unfinished, built⟩
  | succ rounds inductionHypothesis =>
      have next := built.pdptEntry cleared unfinished (by omega)
      have pages := next.page
      simp only [fillPdpt] at result
      split at result
      · rename_i complete
        simp only [Prod.mk.injEq] at result
        obtain ⟨rfl, rfl⟩ := result
        have allDone : pageTableDescs * group + (pdpti + 1) = directories := by
          simp only [pageTableDescs, sizeElements] at *
          omega
        rw [allDone] at next
        refine ⟨?_, next⟩
        simp only [pageTableDescs] at *
        omega
      · rename_i incomplete
        refine inductionHypothesis (pdpti + 1) _ (by omega) next ?_ result
        simp only [pageTableDescs, sizeElements] at *
        omega

/-- The loop over the top table returns with the complete page map. -/
theorem fillPml4_spec {totalPages : Nat}
    (cleared : Cleared initial map (tableBytes directories))
    (counted : directories = sizeElements totalPages pageTableDescs)
    (bounded : directories ≤ pageTableDescs * pageTableDescs)
    (rounds group : Nat) (progress : Progress)
    (enough : directories ≤ pageTableDescs * (group + rounds))
    (built : Built initial map firstPage lastPage group (pageTableDescs * group) progress)
    (unfinished : pageTableDescs * group < directories) :
    ∃ last,
      fillPml4 totalPages firstPage lastPage map rounds group progress = some last ∧
      Built initial map firstPage lastPage (sizeElements directories pageTableDescs)
        directories last := by
  induction rounds generalizing group progress with
  | zero =>
      rw [Nat.add_zero] at enough
      omega
  | succ rounds inductionHypothesis =>
      have table : progress.nextTable = pdptTable map group := by
        have next := built.nextTable
        simp only [pdptTable, pageTableDescs, pageTableSize] at *
        omega
      have started := built.pml4Entry cleared unfinished bounded
      simp only [fillPml4, table] at started ⊢
      cases result : fillPdpt totalPages firstPage lastPage (pdptTable map group)
          pageTableDescs 0 (progress.setDesc map group true false
            (pdptTable map group)).takeTable with
      | mk last returned =>
          have finished := fillPdpt_spec cleared counted pageTableDescs 0 _ (by omega)
            started unfinished last returned result
          cases returned with
          | true =>
              obtain ⟨lastTable, complete⟩ := finished
              have tables : group + 1 = sizeElements directories pageTableDescs := by
                simp only [pageTableDescs, sizeElements] at *
                omega
              rw [tables] at complete
              exact ⟨last, rfl, complete⟩
          | false =>
              obtain ⟨further, full⟩ := finished
              exact inductionHypothesis (group + 1) last
                (by simpa only [Nat.add_assoc, Nat.add_comm 1] using enough) full further

/-- More rounds do not change the result. -/
theorem fillPml4_mono {totalPages rounds more group : Nat} {progress last : Progress}
    (result : fillPml4 totalPages firstPage lastPage map rounds group progress = some last)
    (enough : rounds ≤ more) :
    fillPml4 totalPages firstPage lastPage map more group progress = some last := by
  induction rounds generalizing more group progress with
  | zero => simp [fillPml4] at result
  | succ rounds inductionHypothesis =>
      obtain ⟨more, rfl⟩ : ∃ fewer, more = fewer + 1 := ⟨more - 1, by omega⟩
      simp only [fillPml4] at result ⊢
      split at result
      · exact result
      · exact inductionHypothesis result (by omega)

end Construction

/-- The two formulas for the number of directories agree. -/
theorem pageMapPds_eq (addrSpaceSize : Nat) :
    pageMapPds addrSpaceSize =
      sizeElements (sizeElements addrSpaceSize pageBytes) pageTableDescs := by
  simp only [pageMapPds, sizeElements, pageTableDescs, pageBytes]
  omega

theorem pageMapSize_eq (addrSpaceSize : Nat) :
    pageMapSize addrSpaceSize = tableBytes (pageMapPds addrSpaceSize) := by
  simp only [pageMapSize, tableBytes, pageMapPdpts]
  rw [Nat.mul_comm]

/-- `create_page_map` terminates and leaves the complete page map behind. -/
theorem createPageMap_spec (initial : PageMemory)
    (map addrSpaceSize mappedAddr mappedSize : Nat)
    (cleared : Cleared initial map (pageMapSize addrSpaceSize))
    (positive : 0 < addrSpaceSize) (small : addrSpaceSize ≤ 2 ^ 48) :
    ∃ last : Progress,
      (∀ rounds, pageTableDescs ≤ rounds →
        createPageMap rounds initial map addrSpaceSize mappedAddr mappedSize =
          some last.memory) ∧
      Built initial map (mappedAddr / pageBytes) ((mappedAddr + mappedSize - 1) / pageBytes)
        (pageMapPdpts addrSpaceSize) (pageMapPds addrSpaceSize) last := by
  rw [pageMapSize_eq] at cleared
  have someDirectory : 0 < pageMapPds addrSpaceSize := by
    simp only [pageMapPds, sizeElements, pageTableDescs, pageBytes]
    omega
  have bounded : pageMapPds addrSpaceSize ≤ pageTableDescs * pageTableDescs := by
    simp only [pageMapPds, sizeElements, pageTableDescs, pageBytes]
    omega
  obtain ⟨last, result, complete⟩ :=
    fillPml4_spec cleared (pageMapPds_eq addrSpaceSize) bounded pageTableDescs 0 _
      (by rwa [Nat.zero_add]) (Built.start initial map (mappedAddr / pageBytes)
        ((mappedAddr + mappedSize - 1) / pageBytes)) (by omega)
  refine ⟨last, fun rounds enough => ?_, complete⟩
  rw [createPageMap, fillPml4_mono result enough, Option.map_some]

end PageMap
end ToyKernel
