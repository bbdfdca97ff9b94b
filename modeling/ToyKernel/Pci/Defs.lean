import Mathlib.Data.BitVec
import Mathlib.Logic.Function.Basic

/-!
# PCI configuration space

The accesses of `pci.c` to the configuration registers and its scan of the buses.  Every
access writes the address port first, so a register is known by the word written there.
C integers are bit vectors of 32 bits, and sizes of 64.
-/

namespace ToyKernel
namespace Pci

/-- The content of the configuration registers, by the word in `ADDRESS_PORT`. -/
abbrev Registers := BitVec 32 → BitVec 32

/-- `get_pci_bus`. -/
def getPciBus (device : BitVec 32) : BitVec 32 :=
  ((device.sshiftRight 16).setWidth 8).setWidth 32

/-- `get_pci_slot`. -/
def getPciSlot (device : BitVec 32) : BitVec 32 :=
  ((device.sshiftRight 8).setWidth 8).setWidth 32

/-- `get_pci_func`. -/
def getPciFunc (device : BitVec 32) : BitVec 32 :=
  (device.setWidth 8).setWidth 32

/-- `get_pci_device`. -/
def getPciDevice (bus slot func : BitVec 32) : BitVec 32 :=
  bus <<< 16 + slot <<< 8 + func

/-- `get_addr`. -/
def getAddr (device field : BitVec 32) : BitVec 32 :=
  let reg := ((field.sshiftRight 16).setWidth 8).setWidth 32
  0x80000000 ||| getPciBus device <<< 16 ||| getPciSlot device <<< 11 |||
    getPciFunc device <<< 8 ||| reg <<< 2

/-! ### Fields of registers -/

/-- `value << count`, which C defines for counts below the width only. -/
def shiftLeft (value : BitVec 32) (count : BitVec 64) : Option (BitVec 32) :=
  if count.toNat < 32 then some (value <<< count.toNat) else none

/-- `value >> count`, likewise. -/
def shiftRight (value : BitVec 32) (count : BitVec 64) : Option (BitVec 32) :=
  if count.toNat < 32 then some (value >>> count.toNat) else none

/-- `INT_BITS`.  The macro pastes its arguments without parentheses, so each of them is
given as what it does to the operand on its left: `plusLow x` is `x + low` and `minusHigh x`
is `x - high`, read from left to right. -/
def intBits (value : BitVec 32) (plusLow minusHigh : BitVec 64 → BitVec 64) :
    Option (BitVec 32) := do
  let value ← shiftLeft value (minusHigh (4 * 8 - 1))
  shiftRight value (plusLow (minusHigh (4 * 8 - 1)))

/-- `low_bit` of a field descriptor. -/
def lowBit (field : BitVec 32) : BitVec 64 :=
  ((field.sshiftRight 8).setWidth 8).setWidth 64

/-- `high_bit` of a field descriptor. -/
def highBit (field : BitVec 32) : BitVec 64 :=
  (field.setWidth 8).setWidth 64

/-- `read_pci_field`; `none` is an undefined shift. -/
def readPciField (registers : Registers) (device field : BitVec 32) : Option (BitVec 32) :=
  intBits (registers (getAddr device field)) (· + lowBit field) (· - highBit field)

/-- What `write_pci_field` keeps of the previous content for `low_bit > 0`; the argument
`low_bit - 1` of `INT_BITS` expands to `... - low_bit - 1`. -/
def keptBelow (prev : BitVec 32) (lowBit : BitVec 64) : Option (BitVec 32) :=
  if 0 < lowBit then intBits prev (· + 0) (· - lowBit - 1) else some 0

/-- What it keeps of the previous content for `high_bit < 31`. -/
def keptAbove (prev : BitVec 32) (highBit : BitVec 64) : Option (BitVec 32) :=
  if highBit < 31 then do
    let above ← intBits prev (· + highBit + 1) (· - 31)
    shiftLeft above (highBit + 1)
  else
    some 0

/-- The word that `write_pci_field` assembles from the previous content and the value. -/
def nextWord (prev value : BitVec 32) (lowBit highBit : BitVec 64) : Option (BitVec 32) := do
  let next ← keptBelow prev lowBit
  let next := next ||| (← shiftLeft value lowBit)
  return next ||| (← keptAbove prev highBit)

/-- `write_pci_field`; `none` is an undefined shift. -/
def writePciField (registers : Registers) (device field value : BitVec 32) :
    Option Registers := do
  let address := getAddr device field
  let value ←
    if 0 < lowBit field ∨ highBit field < 31 then
      nextWord (registers address) value (lowBit field) (highBit field)
    else
      some value
  return Function.update registers address value

/-! ### The scan -/

/-- `PCI_FIELD_VENDOR_ID`. -/
def pciFieldVendorId : BitVec 32 := 0x00000F

/-- `PCI_FIELD_SUBCLASS`. -/
def pciFieldSubclass : BitVec 32 := 0x021017

/-- `PCI_FIELD_CLASS`. -/
def pciFieldClass : BitVec 32 := 0x02181F

/-- `PCI_FIELD_MULTIPLE_FUNCTIONS`. -/
def pciFieldMultipleFunctions : BitVec 32 := 0x031717

/-- `PCI_FIELD_SECONDARY_BUS`. -/
def pciFieldSecondaryBus : BitVec 32 := 0x06080F

/-- `PCI_TYPE_PCI_TO_PCI_BRIDGE`. -/
def pciTypePciToPciBridge : BitVec 32 := 0x0604

/-- `get_pci_type`. -/
def getPciType (registers : Registers) (device : BitVec 32) : Option (BitVec 32) := do
  return (← readPciField registers device pciFieldClass) <<< 8 |||
    (← readPciField registers device pciFieldSubclass)

section Scan

variable (registers : Registers) (type : BitVec 32)

/-- `scan_func`, given what `scan_bus` does.  The scans return the devices that `proc` is
called with, in order. -/
def scanFunc (scanBus : BitVec 32 → Option (List (BitVec 32))) (bus slot func : BitVec 32) :
    Option (List (BitVec 32)) := do
  let dev := getPciDevice bus slot func
  let called ←
    if type = -1 ∨ (← getPciType registers dev) = type then some [dev] else some []
  if (← getPciType registers dev) = pciTypePciToPciBridge then
    return called ++ (← scanBus (← readPciField registers dev pciFieldSecondaryBus))
  else
    return called

/-- The rounds of a loop that calls `body` for each of the values. -/
def forEach (values : List Nat) (body : BitVec 32 → Option (List (BitVec 32))) :
    Option (List (BitVec 32)) :=
  match values with
  | [] => some []
  | value :: values => do
      let called ← body (BitVec.ofNat 32 value)
      return called ++ (← forEach values body)

/-- `scan_slot`. -/
def scanSlot (scanBus : BitVec 32 → Option (List (BitVec 32))) (bus slot : BitVec 32) :
    Option (List (BitVec 32)) := do
  let dev := getPciDevice bus slot 0
  if (← readPciField registers dev pciFieldVendorId) = 0xFFFF then
    return []
  let called ← scanFunc registers type scanBus bus slot 0
  if (← readPciField registers dev pciFieldMultipleFunctions) = 0 then
    return called
  return called ++ (← forEach (List.range' 1 7) fun func => do
    let dev := getPciDevice bus slot func
    if (← readPciField registers dev pciFieldVendorId) ≠ 0xFFFF then
      scanFunc registers type scanBus bus slot func
    else
      return [])

/-- `scan_bus`, with a bound on the depth of its recursion; it is `none` when the scan runs
into the bound. -/
def scanBus (fuel : Nat) (bus : BitVec 32) : Option (List (BitVec 32)) :=
  match fuel with
  | 0 => none
  | fuel + 1 => forEach (List.range 32) fun slot =>
      scanSlot registers type (scanBus fuel) bus slot

/-- The loop of `scan_pci` over the functions of device 0:0, which ends at the first absent
one. -/
def scanRoots (fuel : Nat) (funcs : List Nat) : Option (List (BitVec 32)) :=
  match funcs with
  | [] => some []
  | func :: funcs => do
      let dev := getPciDevice 0 0 (BitVec.ofNat 32 func)
      if (← readPciField registers dev pciFieldVendorId) ≠ 0xFFFF then
        let called ← scanBus registers type fuel (BitVec.ofNat 32 func)
        return called ++ (← scanRoots fuel funcs)
      else
        return []

/-- `scan_pci`. -/
def scanPci (fuel : Nat) : Option (List (BitVec 32)) := do
  let called ← scanBus registers type fuel 0
  if (← readPciField registers 0 pciFieldMultipleFunctions) = 0 then
    return called
  return called ++ (← scanRoots registers type fuel (List.range' 1 7))

end Scan

end Pci
end ToyKernel
