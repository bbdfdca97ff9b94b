import Mathlib.Data.BitVec
import Mathlib.Logic.Function.Basic

/-!
# Page descriptors

`struct page_desc` of `cpu.h` and the interface of `page_map.c`.  Bit-fields
are bit vectors of their declared width; C integers are bit vectors of 8, 32
and 64 bits.  A bit-field narrower than `int` is promoted to `int` before it is
shifted, so `address0 << PAGE_DESC_ADDR0_BS` is a signed 32-bit value that is
sign-extended when it is added to a 64-bit one.
-/

namespace ToyKernel
namespace PageMap

/-- `PAGE_SIZE`. -/
def pageSize : BitVec 64 := 0x200000

/-- `PAGE_TABLE_DESCS`. -/
def pageTableDescs : Nat := 512

/-- `PAGE_TABLE_SIZE`. -/
def pageTableSize : Nat := 4096

/-- `PAGE_DESC_SIZE`. -/
def pageDescSize : Nat := 8

/-- `FLAGS_MASK`. -/
def flagsMask : BitVec 32 := 0x7A

/-- All of the `PAGE_MAPPING_*` bits. -/
def pageMappingFlags : BitVec 32 :=
  1#32 <<< 1 ||| 1#32 <<< 3 ||| 1#32 <<< 4 ||| 1#32 <<< 5 ||| 1#32 <<< 6 ||| 1#32 <<< 7

/-- `struct page_desc`, lowest field first. -/
structure PageDesc where
  present : BitVec 1
  write : BitVec 1
  nonsys : BitVec 1
  pwt : BitVec 1
  pcd : BitVec 1
  accessed : BitVec 1
  dirty : BitVec 1
  psPat : BitVec 1
  global : BitVec 1
  avail0 : BitVec 3
  address0 : BitVec 20
  address1 : BitVec 20
  avail1 : BitVec 11
  noexec : BitVec 1
  deriving DecidableEq

namespace PageDesc

/-- A zeroed descriptor. -/
def zero : PageDesc where
  present := 0
  write := 0
  nonsys := 0
  pwt := 0
  pcd := 0
  accessed := 0
  dirty := 0
  psPat := 0
  global := 0
  avail0 := 0
  address0 := 0
  address1 := 0
  avail1 := 0
  noexec := 0

/-- The lowest byte, `*(uint8_t*)desc`. -/
def lowByte (desc : PageDesc) : BitVec 8 :=
  desc.psPat ++ desc.dirty ++ desc.accessed ++ desc.pcd ++ desc.pwt ++
    desc.nonsys ++ desc.write ++ desc.present

/-- Store the lowest byte. -/
def setLowByte (desc : PageDesc) (byte : BitVec 8) : PageDesc :=
  { desc with
    present := byte.extractLsb' 0 1
    write := byte.extractLsb' 1 1
    nonsys := byte.extractLsb' 2 1
    pwt := byte.extractLsb' 3 1
    pcd := byte.extractLsb' 4 1
    accessed := byte.extractLsb' 5 1
    dirty := byte.extractLsb' 6 1
    psPat := byte.extractLsb' 7 1 }

/-- The 64-bit word that the processor reads. -/
def word (desc : PageDesc) : BitVec 64 :=
  desc.noexec ++ desc.avail1 ++ desc.address1 ++ desc.address0 ++ desc.avail0 ++
    desc.global ++ desc.lowByte

end PageDesc

/-- Memory that holds page descriptors, by byte address. -/
abbrev PageMemory := Nat → PageDesc

/-- `get_page_desc`: the address of the descriptor of a virtual address, given
the address of `__page_map`. -/
def getPageDesc (pageMap virtAddr : BitVec 64) : BitVec 64 :=
  let entry := virtAddr / pageSize
  let table := entry / BitVec.ofNat 64 pageTableDescs
  let table := table + (2 + table / BitVec.ofNat 64 pageTableDescs)
  let entry := entry % BitVec.ofNat 64 pageTableDescs
  pageMap + table * BitVec.ofNat 64 pageTableSize + entry * BitVec.ofNat 64 pageDescSize

/-- What `get_page_mapping` reports through its output arguments. -/
structure Mapping where
  physAddr : BitVec 64
  flags : BitVec 32
  availData : BitVec 32
  deriving DecidableEq

/-- The outputs that `get_page_mapping` computes from a present descriptor. -/
def readMapping (desc : PageDesc) : Mapping where
  physAddr := desc.address1.setWidth 64 <<< 32 +
    (desc.address0.setWidth 32 <<< 12).signExtend 64
  flags := (desc.lowByte.setWidth 32 &&& flagsMask) ||| desc.noexec.setWidth 32 <<< 7
  availData := desc.avail0.setWidth 32 ||| desc.avail1.setWidth 32 <<< 3

/-- `get_page_mapping`; `none` is the result `false`. -/
def getPageMapping (memory : PageMemory) (pageMap virtAddr : BitVec 64) :
    Option Mapping :=
  let desc := memory (getPageDesc pageMap virtAddr).toNat
  if desc.present = 0 then none else some (readMapping desc)

/-- The initializer of the descriptor in `map_page`. -/
def initialMapping (physAddr : BitVec 64) (availData : BitVec 32) : PageDesc :=
  { PageDesc.zero with
    present := 1
    psPat := 1
    avail0 := availData.setWidth 3
    address0 := ((physAddr >>> 12).setWidth 32 &&&
      ~~~ (BitVec.ofNat 32 pageTableDescs - 1)).setWidth 20
    address1 := ((physAddr >>> 32).setWidth 32).setWidth 20
    avail1 := (availData.sshiftRight 3).setWidth 11 }

/-- The descriptor that `map_page` builds. -/
def makeMapping (physAddr : BitVec 64) (flags availData : BitVec 32) : PageDesc :=
  let desc := initialMapping physAddr availData
  let desc := desc.setLowByte
    ((desc.lowByte.setWidth 32 ||| (flags &&& flagsMask)).setWidth 8)
  { desc with noexec := (flags.sshiftRight 7).setWidth 1 }

/-- `map_page`. -/
def mapPage (memory : PageMemory) (pageMap virtAddr physAddr : BitVec 64)
    (flags availData : BitVec 32) : PageMemory :=
  Function.update memory (getPageDesc pageMap virtAddr).toNat
    (makeMapping physAddr flags availData)

/-- `unmap_page`. -/
def unmapPage (memory : PageMemory) (pageMap virtAddr : BitVec 64) : PageMemory :=
  Function.update memory (getPageDesc pageMap virtAddr).toNat PageDesc.zero

end PageMap
end ToyKernel
