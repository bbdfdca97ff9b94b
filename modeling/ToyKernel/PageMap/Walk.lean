import ToyKernel.PageMap.Boot
import Mathlib.Tactic.IntervalCases

/-!
# The page walk of the processor

The processor reads the 64-bit words of the tables, not bit-fields: bit 0 of an
entry says that it is present, bit 7 that it maps a page and does not point to a
table, and bits 12 to 51 hold the address of the table.
-/

namespace ToyKernel
namespace PageMap

/-- The level of the top table; level 1 is a page directory and level 0 a table
of 4 KB pages. -/
def topLevel : Nat := 3

/-- The entry of a table that a virtual address selects. -/
def tableIndex (level : Nat) (virtAddr : BitVec 64) : Nat :=
  (virtAddr.extractLsb' (12 + 9 * level) 9).toNat

/-- Bit 0 of an entry. -/
def entryPresent (desc : PageDesc) : Bool := desc.word.getLsbD 0

/-- Bit 7 of an entry. -/
def entryMapsPage (desc : PageDesc) : Bool := desc.word.getLsbD 7

/-- Bits 12 to 51 of an entry, as the address of a table. -/
def entryTable (desc : PageDesc) : Nat := (desc.word.extractLsb' 12 40).toNat * 2 ^ 12

/-- The bits of an entry that give the frame of a page, from the size of the page
upwards. -/
def entryFrame (level : Nat) (desc : PageDesc) : Nat :=
  (desc.word.extractLsb' (12 + 9 * level) (40 - 9 * level)).toNat * 2 ^ (12 + 9 * level)

/-- Follow the tables from one of the given level: the address and the level of
the entry at which the walk ends. -/
def walkFrom (memory : PageMemory) (virtAddr : BitVec 64) : Nat → Nat → Nat × Nat
  | 0, table => (table + tableIndex 0 virtAddr * pageDescSize, 0)
  | level + 1, table =>
      let slot := table + tableIndex (level + 1) virtAddr * pageDescSize
      -- the top table has no entries for pages
      let mapsPage := entryMapsPage (memory slot) && level + 1 < topLevel
      if entryPresent (memory slot) && !mapsPage then
        walkFrom memory virtAddr level (entryTable (memory slot))
      else
        (slot, level + 1)

/-- The walk of a virtual address from the table in `cr3`. -/
def walk (memory : PageMemory) (cr3 : Nat) (virtAddr : BitVec 64) : Nat × Nat :=
  walkFrom memory virtAddr topLevel cr3

/-- The physical address of a virtual one, if it is mapped. -/
def translate (memory : PageMemory) (cr3 : Nat) (virtAddr : BitVec 64) : Option Nat :=
  let (slot, level) := walk memory cr3 virtAddr
  if entryPresent (memory slot) then
    some (entryFrame level (memory slot) + virtAddr.toNat % 2 ^ (12 + 9 * level))
  else
    none

/-! ## Words and bit-fields -/

theorem tableIndex_eq (level : Nat) (virtAddr : BitVec 64) :
    tableIndex level virtAddr = virtAddr.toNat / 2 ^ (12 + 9 * level) % 512 := by
  rw [tableIndex, BitVec.extractLsb'_toNat, Nat.shiftRight_eq_div_pow]

theorem entryPresent_eq (desc : PageDesc) :
    entryPresent desc = desc.present.getLsbD 0 := by
  simp only [entryPresent, PageDesc.word, PageDesc.lowByte, BitVec.getLsbD_append]
  simp

theorem entryMapsPage_eq (desc : PageDesc) :
    entryMapsPage desc = desc.psPat.getLsbD 0 := by
  simp only [entryMapsPage, PageDesc.word, PageDesc.lowByte, BitVec.getLsbD_append]
  simp

/-- The two address fields are next to each other. -/
theorem word_addressBits (desc : PageDesc) :
    desc.word.extractLsb' 12 40 = desc.address1 ++ desc.address0 := by
  apply BitVec.eq_of_getLsbD_eq
  intro bit inRange
  simp only [PageDesc.word, BitVec.getLsbD_extractLsb', BitVec.getLsbD_append, inRange,
    decide_true, Bool.true_and]
  rw [if_neg (by omega), if_neg (by omega), if_neg (by omega)]
  have offset : 12 + bit - 8 - 1 - 3 = bit := by omega
  simp only [offset]
  by_cases low : bit < 20
  · rw [if_pos low, if_pos low]
  · rw [if_neg low, if_neg low, if_pos (by omega)]

theorem addressBits_toNat (desc : PageDesc) :
    (desc.word.extractLsb' 12 40).toNat =
      desc.address1.toNat * 2 ^ 20 + desc.address0.toNat := by
  have small := desc.address0.isLt
  rw [word_addressBits, BitVec.toNat_append, Nat.shiftLeft_eq,
    Nat.mul_comm, Nat.two_pow_add_eq_or_of_lt small]

/-- The frame of a large page is the address in the entry without its low
bits. -/
theorem entryFrame_eq {level : Nat} (lower : level < topLevel) (desc : PageDesc) :
    entryFrame level desc =
      (desc.word.extractLsb' 12 40).toNat / 2 ^ (9 * level) * 2 ^ (12 + 9 * level) := by
  simp only [topLevel] at lower
  simp only [entryFrame, BitVec.extractLsb'_toNat, Nat.shiftRight_eq_div_pow]
  interval_cases level <;> omega

section SetPageDesc

variable (page : Bool) {address : Nat} (small : address < 2 ^ 52)

include small

/-- The address bits of a descriptor that `set_page_desc` fills in. -/
theorem setPageDesc_addressBits (desc : PageDesc) :
    ((setPageDesc desc true page address).word.extractLsb' 12 40).toNat =
      address / 2 ^ 12 := by
  rw [addressBits_toNat]
  simp only [setPageDesc, if_true, BitVec.toNat_ofNat]
  omega

theorem entryTable_setPageDesc (aligned : address % 2 ^ 12 = 0) (desc : PageDesc) :
    entryTable (setPageDesc desc true page address) = address := by
  rw [entryTable, setPageDesc_addressBits page small]
  omega

theorem entryFrame_setPageDesc {level : Nat} (lower : level < topLevel)
    (aligned : address % 2 ^ (12 + 9 * level) = 0) (desc : PageDesc) :
    entryFrame level (setPageDesc desc true page address) = address := by
  rw [entryFrame_eq lower, setPageDesc_addressBits page small, Nat.div_div_eq_div_mul,
    ← Nat.pow_add]
  exact Nat.div_mul_cancel (Nat.dvd_of_mod_eq_zero aligned)

end SetPageDesc

@[simp] theorem entryPresent_setPageDesc
    (desc : PageDesc) (present page : Bool) (address : Nat) :
    entryPresent (setPageDesc desc present page address) = present := by
  cases present <;> simp [entryPresent_eq, setPageDesc, PageDesc.zero]

@[simp] theorem entryMapsPage_setPageDesc
    (desc : PageDesc) (page : Bool) (address : Nat) :
    entryMapsPage (setPageDesc desc true page address) = page := by
  cases page <;> simp [entryMapsPage_eq, setPageDesc]

/-! ## Steps of the walk -/

/-- The walk goes through an entry that points to a table. -/
theorem walkFrom_tablePointer {memory : PageMemory} {virtAddr : BitVec 64}
    {level table next : Nat} (small : next < 2 ^ 52) (aligned : next % 2 ^ 12 = 0)
    (entry : memory (table + tableIndex (level + 1) virtAddr * pageDescSize) =
      tablePointer next) :
    walkFrom memory virtAddr (level + 1) table = walkFrom memory virtAddr level next := by
  rw [walkFrom]
  simp only [entry, tablePointer, entryPresent_setPageDesc, entryMapsPage_setPageDesc,
    entryTable_setPageDesc false small aligned]
  simp

/-- The walk ends at an entry that is absent or maps a page. -/
theorem walkFrom_leaf {memory : PageMemory} {virtAddr : BitVec 64} {level table : Nat}
    (lower : level + 1 < topLevel)
    (entry : entryPresent (memory (table + tableIndex (level + 1) virtAddr * pageDescSize)) →
      entryMapsPage (memory (table + tableIndex (level + 1) virtAddr * pageDescSize))) :
    walkFrom memory virtAddr (level + 1) table =
      (table + tableIndex (level + 1) virtAddr * pageDescSize, level + 1) := by
  rw [walkFrom]
  apply if_neg
  simp only [lower, decide_true, Bool.and_true, Bool.and_eq_true, Bool.not_eq_true',
    not_and, Bool.not_eq_false]
  exact entry

end PageMap
end ToyKernel
