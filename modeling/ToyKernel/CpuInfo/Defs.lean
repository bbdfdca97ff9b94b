import ToyKernel.Cpu
import ToyKernel.Acpi.Loops
import ToyKernel.Pci.Defs
import Mathlib.Logic.Function.Basic

/-!
# The CPUs of the machine

`cpu_info.c` and `cpu_info.inc`: how many bits of an APIC identifier number the threads of
a core and the cores of a chip, and the table of the CPUs that the MADT lists.  An `int` is
an integer here; none of those below gets near its bounds.
-/

namespace ToyKernel
namespace CpuInfo

open Acpi Pci

/-- The registers that the instruction `cpuid` leaves. -/
structure Registers where
  eax : BitVec 32
  ebx : BitVec 32
  ecx : BitVec 32
  edx : BitVec 32

/-- The instruction `cpuid` on a CPU, for the contents of `eax` and `ecx`.  The leaves that
the code reads without setting `ecx` do not depend on it, and are read with zero here. -/
abbrev Cpuid := BitVec 32 → BitVec 32 → Registers

/-! ### Topology -/

/-- The values of `CPU_VENDOR_UNKNOWN`, `CPU_VENDOR_INTEL` and `CPU_VENDOR_AMD`. -/
inductive Vendor
  | unknown
  | intel
  | amd
  deriving DecidableEq

/-- The bytes of a word in memory. -/
def wordBytes (word : BitVec 32) : List (BitVec 8) :=
  [word.extractLsb' 0 8, word.extractLsb' 8 8, word.extractLsb' 16 8, word.extractLsb' 24 8]

/-- `GenuineIntel`. -/
def genuineIntel : List (BitVec 8) :=
  [0x47, 0x65, 0x6E, 0x75, 0x69, 0x6E, 0x65, 0x49, 0x6E, 0x74, 0x65, 0x6C]

/-- `AuthenticAMD`. -/
def authenticAmd : List (BitVec 8) :=
  [0x41, 0x75, 0x74, 0x68, 0x65, 0x6E, 0x74, 0x69, 0x63, 0x41, 0x4D, 0x44]

/-- `get_cpu_vendor`; its static variable only saves the result for the next call. -/
def getCpuVendor (cpuid : Cpuid) : Vendor :=
  let registers := cpuid 0 0
  let buf := wordBytes registers.ebx ++ wordBytes registers.edx ++ wordBytes registers.ecx
  if buf = genuineIntel then .intel
  else if buf = authenticAmd then .amd
  else .unknown

/-- `get_chip_multithreading`: its result and `*chip_threads_max`. -/
def getChipMultithreading (cpuid : Cpuid) : Option (Bool × Int) := do
  let ⟨_, ebx, _, edx⟩ := cpuid 1 0
  let support : Bool := edx &&& 1 <<< 28 ≠ 0
  let chipThreadsMax ← intBits ebx (· + 16) (· - 23)
  some (support, chipThreadsMax.toInt)

/-- The numbers of bits that `get_thread_core_bits` yields. -/
structure Bits where
  /-- `*thread_bits`. -/
  thread : Int
  /-- `*core_bits`. -/
  core : Int
  deriving DecidableEq

/-- The expression `core_index_max ? bsrq(core_index_max) + 1 : 0`. -/
def coreIndexBits (coreIndexMax : Int) : Option Int := do
  if coreIndexMax ≠ 0 then
    some ((← bsrq (BitVec.ofInt 64 coreIndexMax)) + 1)
  else
    some 0

/-- The expression `bsrq(chip_threads_max - 1) + 1`. -/
def chipThreadBits (chipThreadsMax : Int) : Option Int := do
  some ((← bsrq (BitVec.ofInt 64 (chipThreadsMax - 1))) + 1)

/-- `get_thread_core_bits_intel`. -/
def getThreadCoreBitsIntel (cpuid : Cpuid) (cpuidFuncMax : BitVec 32) (chipThreadsMax : Int) :
    Option Bits := do
  if cpuidFuncMax ≥ 0xB then
    let threadBits := (← intBits (cpuid 0xB 0).eax (· + 0) (· - 4)).toInt
    let coreBits := (← intBits (cpuid 0xB 1).eax (· + 0) (· - 4)).toInt - threadBits
    some ⟨threadBits, coreBits⟩
  else if cpuidFuncMax ≥ 0x4 then
    let coreIndexMax := (← intBits (cpuid 0x4 0).eax (· + 26) (· - 31)).toInt
    let coreBits ← coreIndexBits coreIndexMax
    let chipThreadBits ← chipThreadBits chipThreadsMax
    some ⟨chipThreadBits - coreBits, coreBits⟩
  else
    some ⟨← chipThreadBits chipThreadsMax, 0⟩

/-- `get_thread_core_bits_amd`. -/
def getThreadCoreBitsAmd (cpuid : Cpuid) (cpuidExFuncMax : BitVec 32) (chipThreadsMax : Int) :
    Option Bits := do
  if cpuidExFuncMax ≥ 0x80000008 then
    let ecx := (cpuid 0x80000008 0).ecx
    let coreBits := (← intBits ecx (· + 12) (· - 15)).toInt
    let coreBits ←
      if coreBits = 0 then do
        let coreIndexMax := (← intBits ecx (· + 0) (· - 7)).toInt
        coreIndexBits coreIndexMax
      else
        some coreBits
    let chipThreadBits ← chipThreadBits chipThreadsMax
    some ⟨chipThreadBits - coreBits, coreBits⟩
  else
    some ⟨0, ← chipThreadBits chipThreadsMax⟩

/-- `get_thread_core_bits`; `none` when it uses an undefined result of `bsrq`. -/
def getThreadCoreBits (cpuid : Cpuid) : Option Bits := do
  let cpuidFuncMax := (cpuid 0 0).eax
  let cpuidExFuncMax := (cpuid 0x80000000 0).eax
  match getCpuVendor cpuid with
  | .unknown => some ⟨0, 0⟩
  | vendor =>
      let (support, chipThreadsMax) ← getChipMultithreading cpuid
      if support then
        if vendor = .intel then
          getThreadCoreBitsIntel cpuid cpuidFuncMax chipThreadsMax
        else
          getThreadCoreBitsAmd cpuid cpuidExFuncMax chipThreadsMax
      else
        some ⟨0, 0⟩

/-! ### The table -/

/-- `ACPI_MADT_LAPIC_TYPE`. -/
def acpiMadtLapicType : BitVec 32 := 0

/-- `ACPI_SRAT_LAPIC_TYPE`. -/
def acpiSratLapicType : BitVec 32 := 0

/-- `struct cpu_desc`. -/
structure CpuDesc where
  id : BitVec 8
  thread : BitVec 8
  core : BitVec 8
  chip : BitVec 8
  domain : BitVec 32
  deriving DecidableEq

/-- The static data of `cpu_info.c`: `num`, `descs` and `__cpu_indexes`. -/
structure CpuTable where
  num : Nat
  descs : Nat → CpuDesc
  cpuIndexes : BitVec 8 → BitVec 8

/-- The static data before the first function runs. -/
def CpuTable.empty : CpuTable where
  num := 0
  descs := fun _ => { id := 0, thread := 0, core := 0, chip := 0, domain := 0 }
  cpuIndexes := fun _ => 0

/-- The member `enabled` of both kinds of local APIC entries. -/
def entryEnabled (firmware : Firmware) (entry : BitVec 64) : Bool :=
  (firmware (entry + 4)).getLsbD 0

/-- The member `apic_id` of both kinds of local APIC entries. -/
def entryApicId (firmware : Firmware) (entry : BitVec 64) : BitVec 8 :=
  firmware (entry + 3)

/-- What `fill_cpu_descs` adds up from the three parts of a proximity domain. -/
def entryDomain (firmware : Firmware) (entry : BitVec 64) : BitVec 32 :=
  let proxDomain0 := firmware (entry + 2)
  let proxDomain1 := firmware (entry + 10) ++ firmware (entry + 9)
  let proxDomain2 := firmware (entry + 11)
  proxDomain0.setWidth 32 + proxDomain1.setWidth 32 <<< 8 + proxDomain2.setWidth 32 <<< 24

/-- The members `thread`, `core` and `chip` for an APIC identifier; `none` when a shift is
not defined. -/
def splitApicId (apicId : BitVec 8) (bits : Bits) : Option (BitVec 8 × BitVec 8 × BitVec 8) := do
  let id := apicId.setWidth 32
  let threadBits := BitVec.ofInt 64 bits.thread
  let coreBits := BitVec.ofInt 64 bits.core
  let thread := id &&& ((← shiftLeft 1 threadBits) - 1)
  let core := (← shiftRight id threadBits) &&& ((← shiftLeft 1 coreBits) - 1)
  let chip ← shiftRight id (BitVec.ofInt 64 (bits.thread + bits.core))
  some (thread.setWidth 8, core.setWidth 8, chip.setWidth 8)

/-- The member `domain` for an APIC identifier: the loop over the SRAT. -/
def findDomain (tables : Tables) (firmware : Firmware) (rounds : Nat) (apicId : BitVec 8)
    (domain : BitVec 32) : Option (BitVec 32) :=
  forEachEntry tables firmware rounds (getAcpiSrat tables) acpiSratLapicType
    (fun entry domain =>
      some (.yield
        (if entryEnabled firmware entry ∧ entryApicId firmware entry = apicId then
          entryDomain firmware entry
        else domain)))
    rounds 0 domain

/-- The body of the loop over the MADT, for an enabled entry. -/
def fillCpuDesc (tables : Tables) (firmware : Firmware) (rounds : Nat) (bits : Bits)
    (apicId : BitVec 8) (table : CpuTable) : Option CpuTable := do
  let (thread, core, chip) ← splitApicId apicId bits
  let domain ← findDomain tables firmware rounds apicId (table.descs table.num).domain
  some
    { num := table.num + 1
      descs := Function.update table.descs table.num
        { id := apicId, thread := thread, core := core, chip := chip, domain := domain }
      cpuIndexes := Function.update table.cpuIndexes apicId (BitVec.ofNat 8 table.num) }

/-- `fill_cpu_descs`, with `num` for its variable `i`. -/
def fillCpuDescs (tables : Tables) (firmware : Firmware) (rounds : Nat) (bits : Bits)
    (table : CpuTable) : Option CpuTable :=
  forEachEntry tables firmware rounds (getAcpiMadt tables) acpiMadtLapicType
    (fun entry table =>
      if entryEnabled firmware entry then
        if table.num ≥ configMaxCpus then
          some (.done table)
        else do
          let table ← fillCpuDesc tables firmware rounds bits (entryApicId firmware entry) table
          some (.yield table)
      else
        some (.yield table))
    rounds 0 { table with num := 0 }

end CpuInfo
end ToyKernel
