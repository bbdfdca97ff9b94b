import ToyKernel.Common
import ToyKernel.PageMap.Defs

/-!
# ACPI tables

`acpi.c`: finding the root tables, making sure that the tables are mapped, and walking the
entries of the MADT and the SRAT.  Pointers are bit vectors of 64 bits; the tables are read
through the identity mapping.
-/

namespace ToyKernel
namespace Acpi

open PageMap

/-- The bytes of physical memory, which hold what the firmware left there. -/
abbrev Firmware := BitVec 64 → BitVec 8

/-- A `uint32_t` in memory. -/
def read32 (firmware : Firmware) (address : BitVec 64) : BitVec 32 :=
  firmware (address + 3) ++ firmware (address + 2) ++ firmware (address + 1) ++
    firmware address

/-- A `uint64_t` in memory. -/
def read64 (firmware : Firmware) (address : BitVec 64) : BitVec 64 :=
  read32 firmware (address + 4) ++ read32 firmware address

/-- `sizeof(struct acpi_header)`. -/
def headerSize : BitVec 64 := 36

/-- `sizeof(struct acpi_madt)`. -/
def madtSize : BitVec 64 := 44

/-- `sizeof(struct acpi_srat)`. -/
def sratSize : BitVec 64 := 48

/-- The member `length` of a `struct acpi_header`. -/
def headerLength (firmware : Firmware) (table : BitVec 64) : BitVec 32 :=
  read32 firmware (table + 4)

/-! ### Entries -/

/-- The static data `madt` and `srat`; `find_psdt_table` takes them from 32-bit slots of the
RSDT, and `NULL` is zero. -/
structure Tables where
  madt : BitVec 32
  srat : BitVec 32

/-- `get_acpi_madt`. -/
def getAcpiMadt (tables : Tables) : BitVec 64 :=
  tables.madt.setWidth 64

/-- `get_acpi_srat`. -/
def getAcpiSrat (tables : Tables) : BitVec 64 :=
  tables.srat.setWidth 64

/-- The member `type` of a `struct acpi_entry_header`, as an `int`. -/
def entryType (firmware : Firmware) (entry : BitVec 64) : BitVec 32 :=
  (firmware entry).setWidth 32

/-- The member `length` of a `struct acpi_entry_header`. -/
def entryLength (firmware : Firmware) (entry : BitVec 64) : BitVec 64 :=
  (firmware (entry + 1)).setWidth 64

/-- What a call of `get_next_acpi_entry` leaves: its result, `*entry_pptr`, and the addresses
of the bytes that it read. -/
structure Call where
  err : ErrCode
  entry : BitVec 64
  reads : List (BitVec 64)
  deriving DecidableEq

/-- The loop of `get_next_acpi_entry`, for a number of rounds; `none` when they do not
suffice. -/
def findEntry (firmware : Firmware) (table : BitVec 64) (length type : BitVec 32) :
    Nat → BitVec 64 → List (BitVec 64) → Option Call
  | 0, _, _ => none
  | rounds + 1, entry, reads =>
      if entry - table < length.setWidth 64 then
        if type = -1 then
          some ⟨.errNone, entry, reads⟩
        else if entryType firmware entry = type then
          some ⟨.errNone, entry, reads ++ [entry]⟩
        else
          findEntry firmware table length type rounds (entry + entryLength firmware entry)
            (reads ++ [entry, entry + 1])
      else
        some ⟨.errNoMore, entry, reads⟩

/-- The variable `tsize` of `get_next_acpi_entry`; `none` for a pointer to neither table. -/
def tableSize (tables : Tables) (table : BitVec 64) : Option (BitVec 64) :=
  if table = getAcpiMadt tables then some madtSize
  else if table = getAcpiSrat tables then some sratSize
  else none

/-- `get_next_acpi_entry`; `entryPptr` is `none` for `NULL`, and otherwise the content of
`*entry_pptr`. -/
def getNextAcpiEntry (tables : Tables) (firmware : Firmware) (rounds : Nat)
    (table : BitVec 64) (entryPptr : Option (BitVec 64)) (type : BitVec 32) : Option Call :=
  match entryPptr with
  | none => some ⟨.errBadInput, 0, []⟩
  | some entry =>
      if table = 0 then
        some ⟨.errBadInput, entry, []⟩
      else
        match tableSize tables table with
        | none => some ⟨.errBadInput, entry, []⟩
        | some tsize =>
            let advanced := if entry ≠ 0 then entry + entryLength firmware entry
              else table + tsize
            let reads := if entry ≠ 0 then [entry + 1] else []
            findEntry firmware table (headerLength firmware table) type rounds advanced
              (reads ++ [table + 4, table + 5, table + 6, table + 7])

/-! ### Root tables -/

/-- `EBDA_ADDR`. -/
def ebdaAddr : Nat := 0x9FC00

/-- `AFTER_EBDA_ADDR`. -/
def afterEbdaAddr : Nat := 0xA0000

/-- `BIOS_ROM_ADDR`. -/
def biosRomAddr : Nat := 0xE0000

/-- `AFTER_BIOS_ROM_ADDR`. -/
def afterBiosRomAddr : Nat := 0x100000

/-- `RSDP_SIGNATURE`. -/
def rsdpSignature : List (BitVec 8) :=
  [0x52, 0x53, 0x44, 0x20, 0x50, 0x54, 0x52, 0x20]

/-- `!memcmp` of memory and some bytes. -/
def sameBytes (firmware : Firmware) (address : BitVec 64) : List (BitVec 8) → Bool
  | [] => true
  | byte :: bytes => firmware address = byte && sameBytes firmware (address + 1) bytes

/-- `memmem` of memory and some bytes; zero is `NULL`.  The signature is a list here, since where
its literal lies does not matter; `Bytes.memmem_acpi` says that the `memmem` of `common.c` finds
the same. -/
def memmem (firmware : Firmware) (start size : Nat) (bytes : List (BitVec 8)) : BitVec 64 :=
  let candidates := (List.range' start (size + 1 - bytes.length)).map (BitVec.ofNat 64)
  (candidates.find? fun address => sameBytes firmware address bytes).getD 0

/-- The search of `init_root_tables` for the RSDP. -/
def findRsdp (firmware : Firmware) : BitVec 64 :=
  let rsdp := memmem firmware ebdaAddr (afterEbdaAddr - ebdaAddr) rsdpSignature
  if rsdp = 0 then
    memmem firmware biosRomAddr (afterBiosRomAddr - biosRomAddr) rsdpSignature
  else
    rsdp

/-- The member `rsdt_addr` of the RSDP. -/
def rsdtAddr (firmware : Firmware) (rsdp : BitVec 64) : BitVec 64 :=
  (read32 firmware (rsdp + 16)).setWidth 64

/-- The member `xsdt_addr` of the RSDP. -/
def xsdtAddr (firmware : Firmware) (rsdp : BitVec 64) : BitVec 64 :=
  read64 firmware (rsdp + 24)

/-- `get_acpi_rsdt`. -/
def getAcpiRsdt (firmware : Firmware) (rsdp : BitVec 64) : BitVec 64 :=
  if rsdp ≠ 0 then rsdtAddr firmware rsdp else 0

/-- `get_acpi_xsdt`. -/
def getAcpiXsdt (firmware : Firmware) (rsdp : BitVec 64) : BitVec 64 :=
  if rsdp ≠ 0 then xsdtAddr firmware rsdp else 0

/-- The member `tables[i]` of an RSDT. -/
def rsdtSlot (firmware : Firmware) (rsdt : BitVec 64) (i : Nat) : BitVec 64 :=
  (read32 firmware (rsdt + headerSize + BitVec.ofNat 64 (4 * i))).setWidth 64

/-- The member `tables[i]` of an XSDT. -/
def xsdtSlot (firmware : Firmware) (xsdt : BitVec 64) (i : Nat) : BitVec 64 :=
  read64 firmware (xsdt + headerSize + BitVec.ofNat 64 (8 * i))

/-- The variable `num`, an `int`, as the loops of `init_root_tables` compute it. -/
def slotCount (firmware : Firmware) (table : BitVec 64) (shift : Nat) : Nat :=
  let size := (headerLength firmware table).setWidth 64 - headerSize
  ((size >>> shift).setWidth 32).toInt.toNat

/-- Map the page of an address to itself unless it is mapped. -/
def ensureMapped (pageMap : BitVec 64) (memory : PageMemory) (address : BitVec 64) :
    PageMemory :=
  if getPageMapping memory pageMap address = none then
    mapPage memory pageMap address address 0 0
  else
    memory

/-- What `init_root_tables` leaves: the static variable `rsdp`, the page descriptors, and the
pointers through which it read fields of the RSDP. -/
structure RootTables where
  rsdp : BitVec 64
  memory : PageMemory
  fieldReads : List (BitVec 64)

/-- `init_root_tables`. -/
def initRootTables (firmware : Firmware) (pageMap : BitVec 64) (memory : PageMemory) :
    RootTables :=
  let rsdp := findRsdp firmware
  let memory :=
    if rsdp ≠ 0 then
      let memory := ensureMapped pageMap memory (rsdtAddr firmware rsdp)
      ensureMapped pageMap memory (xsdtAddr firmware rsdp)
    else
      memory
  let memory :=
    if rsdtAddr firmware rsdp ≠ 0 then
      let rsdt := getAcpiRsdt firmware rsdp
      (List.range (slotCount firmware rsdt 2)).foldl
        (fun memory i => ensureMapped pageMap memory (rsdtSlot firmware rsdt i)) memory
    else
      memory
  let memory :=
    if xsdtAddr firmware rsdp ≠ 0 then
      let xsdt := getAcpiXsdt firmware rsdp
      (List.range (slotCount firmware xsdt 4)).foldl
        (fun memory i => ensureMapped pageMap memory (xsdtSlot firmware xsdt i)) memory
    else
      memory
  -- the conditions of the last two loops read fields whether or not an RSDP was found
  { rsdp := rsdp, memory := memory, fieldReads := [rsdp] }

/-- `find_psdt_table`; zero is `NULL`. -/
def findPsdtTable (firmware : Firmware) (rsdp : BitVec 64) (signature : List (BitVec 8)) :
    BitVec 32 :=
  let rsdt := getAcpiRsdt firmware rsdp
  if rsdt = 0 then 0
  else
    let slots := (List.range (slotCount firmware rsdt 2)).map (rsdtSlot firmware rsdt)
    ((slots.find? fun table => sameBytes firmware table signature).getD 0).setWidth 32

end Acpi
end ToyKernel
