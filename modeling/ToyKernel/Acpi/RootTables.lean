import ToyKernel.Acpi.Entries
import ToyKernel.PageMap.RoundTrip

/-!
# Mapping the tables

`init_root_tables` visits addresses and maps their pages.  It visits every slot of the RSDT,
but only half of the slots of the XSDT, and it reads the RSDP without having found one.
-/

namespace ToyKernel
namespace Acpi

open PageMap

variable {firmware : Firmware} {pageMap : BitVec 64} {memory : PageMemory}

/-! ### Pages -/

/-- The number of the page of an address. -/
def pageOf (address : BitVec 64) : Nat :=
  address.toNat / 2097152

/-- The distance of a page descriptor from the start of the page map. -/
theorem getPageDesc_sub_toNat (pageMap address : BitVec 64) :
    (getPageDesc pageMap address - pageMap).toNat =
      (pageOf address / 512 + 2 + pageOf address / 512 / 512) * 4096 +
        pageOf address % 512 * 8 := by
  have small := address.isLt
  have size : pageSize.toNat = 2097152 := rfl
  have two : (2 : BitVec 64).toNat = 2 := rfl
  rw [getPageDesc, BitVec.add_assoc, BitVec.add_comm pageMap, BitVec.add_sub_cancel]
  simp only [pageOf, BitVec.toNat_add, BitVec.toNat_mul, BitVec.toNat_udiv,
    BitVec.toNat_umod, BitVec.toNat_ofNat, size, two, pageTableDescs, pageTableSize,
    pageDescSize, Nat.reduceMod, Nat.reducePow] at *
  generalize entry_eq : address.toNat / 2097152 = entry
  omega

/-- Two addresses share a descriptor exactly when they lie in the same page. -/
theorem getPageDesc_eq_iff (pageMap address other : BitVec 64) :
    getPageDesc pageMap address = getPageDesc pageMap other ↔
      pageOf address = pageOf other := by
  have here := getPageDesc_sub_toNat pageMap address
  have there := getPageDesc_sub_toNat pageMap other
  constructor
  · intro same
    rw [same, there] at here
    omega
  · intro same
    rw [same, ← there] at here
    have distance := BitVec.eq_of_toNat_eq here
    rw [← BitVec.sub_add_cancel (getPageDesc pageMap address) pageMap, distance,
      BitVec.sub_add_cancel]

/-- The page of an address is mapped. -/
def Mapped (pageMap : BitVec 64) (memory : PageMemory) (address : BitVec 64) : Prop :=
  getPageMapping memory pageMap address ≠ none

/-- Whether a page is mapped depends on its descriptor only. -/
theorem mapped_iff (pageMap : BitVec 64) (memory : PageMemory) (address : BitVec 64) :
    Mapped pageMap memory address ↔
      (memory (getPageDesc pageMap address).toNat).present ≠ 0 := by
  simp only [Mapped, getPageMapping]
  split
  · rename_i absent
    simp only [absent, ne_eq, not_true_eq_false]
  · rename_i present
    exact iff_of_true (Option.some_ne_none _) present

/-- Make sure of the pages of some addresses, in order. -/
def ensureAll (pageMap : BitVec 64) (memory : PageMemory) (addresses : List (BitVec 64)) :
    PageMemory :=
  addresses.foldl (ensureMapped pageMap) memory

section Visited

variable (firmware : Firmware)

/-- The addresses in the first slots of the RSDT. -/
def rsdtSlots (rsdp : BitVec 64) (count : Nat) : List (BitVec 64) :=
  (List.range count).map (rsdtSlot firmware (getAcpiRsdt firmware rsdp))

/-- The addresses in the first slots of the XSDT. -/
def xsdtSlots (rsdp : BitVec 64) (count : Nat) : List (BitVec 64) :=
  (List.range count).map (xsdtSlot firmware (getAcpiXsdt firmware rsdp))

/-- The addresses that `init_root_tables` visits once it has found an RSDP, in order. -/
def visited (rsdp : BitVec 64) : List (BitVec 64) :=
  [rsdtAddr firmware rsdp, xsdtAddr firmware rsdp] ++
    (if rsdtAddr firmware rsdp ≠ 0 then
      rsdtSlots firmware rsdp (slotCount firmware (getAcpiRsdt firmware rsdp) 2) else []) ++
    (if xsdtAddr firmware rsdp ≠ 0 then
      xsdtSlots firmware rsdp (slotCount firmware (getAcpiXsdt firmware rsdp) 4) else [])

end Visited

/-- With an RSDP, `init_root_tables` makes sure of the visited addresses. -/
theorem initRootTables_memory (pageMap : BitVec 64) (memory : PageMemory)
    (found : findRsdp firmware ≠ 0) :
    (initRootTables firmware pageMap memory).memory =
      ensureAll pageMap memory (visited firmware (findRsdp firmware)) := by
  simp only [initRootTables, found, ne_eq, not_false_eq_true, if_true, ensureAll, visited,
    List.foldl_append, List.foldl_cons, List.foldl_nil]
  by_cases rsdt : rsdtAddr firmware (findRsdp firmware) = 0
  · by_cases xsdt : xsdtAddr firmware (findRsdp firmware) = 0
    · simp only [rsdt, xsdt, not_true_eq_false, if_false, List.foldl_nil]
    · simp only [rsdt, xsdt, not_true_eq_false, not_false_eq_true, if_false, if_true,
        List.foldl_nil, xsdtSlots, List.foldl_map]
  · by_cases xsdt : xsdtAddr firmware (findRsdp firmware) = 0
    · simp only [rsdt, xsdt, not_true_eq_false, not_false_eq_true, if_false, if_true,
        List.foldl_nil, rsdtSlots, List.foldl_map]
    · simp only [rsdt, xsdt, not_false_eq_true, if_true, rsdtSlots, xsdtSlots, List.foldl_map]

/-- The number of slots of a table that is not shorter than its header. -/
theorem slotCount_eq {table : BitVec 64} {shift : Nat} (atLeast : 2 ≤ shift)
    (long : 36 ≤ tableLength firmware table) :
    slotCount firmware table shift = (tableLength firmware table - 36) / 2 ^ shift := by
  have short : tableLength firmware table < 2 ^ 32 := tableLength_lt
  have size : ((headerLength firmware table).setWidth 64 - headerSize).toNat =
      tableLength firmware table - 36 := by
    simp only [tableLength, headerSize] at *
    bv_omega
  have fewer : (tableLength firmware table - 36) / 2 ^ shift ≤
      (tableLength firmware table - 36) / 2 ^ 2 :=
    Nat.div_le_div_left (Nat.pow_le_pow_right (by decide) atLeast) (by decide)
  have count : ((((headerLength firmware table).setWidth 64 - headerSize) >>> shift).setWidth
      32).toNat = (tableLength firmware table - 36) / 2 ^ shift := by
    rw [BitVec.toNat_setWidth, BitVec.toNat_ushiftRight, size, Nat.shiftRight_eq_div_pow]
    exact Nat.mod_eq_of_lt (by omega)
  rw [slotCount, BitVec.toInt_eq_toNat_of_lt (by rw [count]; omega), count, Int.toNat_natCast]

/-! ### What is mapped in the end -/

/-- The slots of the RSDT by its length. -/
def rsdtLength (firmware : Firmware) : Nat :=
  (tableLength firmware (getAcpiRsdt firmware (findRsdp firmware)) - 36) / 4

/-- Memory with an RSDP at `0x9FC00` that has no RSDT, and an XSDT of 52 bytes at `0x1000`
whose two slots hold `0x01000000` and the given number of times 16 MiB. -/
def twoSlots (second : BitVec 8) : Firmware := fun address =>
  if address = 0x9FC00 then 0x52 else if address = 0x9FC01 then 0x53
  else if address = 0x9FC02 then 0x44 else if address = 0x9FC03 then 0x20
  else if address = 0x9FC04 then 0x50 else if address = 0x9FC05 then 0x54
  else if address = 0x9FC06 then 0x52 else if address = 0x9FC07 then 0x20
  else if address = 0x9FC19 then 0x10
  else if address = 0x1004 then 52
  else if address = 0x1027 then 1 else if address = 0x102F then second
  else 0

/-- No page is mapped. -/
def unmapped : PageMemory := fun _ => PageDesc.zero

end Acpi
end ToyKernel
