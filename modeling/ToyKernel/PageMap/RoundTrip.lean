import ToyKernel.PageMap.Defs
import Mathlib.Tactic.IntervalCases

/-!
# Reading back a mapping

`get_page_mapping` returns the flags and the available bits that `map_page`
stored.  It returns the physical address exactly if bit 31 of that address is
clear, because the low part of the address is sign-extended.
-/

namespace ToyKernel
namespace PageMap

/-- Storing and reading the lowest byte. -/
@[simp] theorem PageDesc.lowByte_setLowByte (desc : PageDesc) (byte : BitVec 8) :
    (desc.setLowByte byte).lowByte = byte := by
  apply BitVec.eq_of_getLsbD_eq
  intro i inRange
  simp only [setLowByte, lowByte, BitVec.getLsbD_append, BitVec.getLsbD_extractLsb']
  interval_cases i <;> simp

theorem initialMapping_lowByte (physAddr : BitVec 64) (availData : BitVec 32) :
    (initialMapping physAddr availData).lowByte = 0x81 := by
  change 1#1 ++ 0#1 ++ 0#1 ++ 0#1 ++ 0#1 ++ 0#1 ++ 0#1 ++ 1#1 = 0x81#8
  decide

theorem makeMapping_lowByte (physAddr : BitVec 64) (flags availData : BitVec 32) :
    (makeMapping physAddr flags availData).lowByte =
      (0x81#32 ||| (flags &&& flagsMask)).setWidth 8 := by
  change ((initialMapping physAddr availData).setLowByte _).lowByte = _
  rw [PageDesc.lowByte_setLowByte, initialMapping_lowByte]
  rfl

theorem makeMapping_present (physAddr : BitVec 64) (flags availData : BitVec 32) :
    (makeMapping physAddr flags availData).present = 1 := by
  change (((initialMapping physAddr availData).lowByte.setWidth 32 |||
    (flags &&& flagsMask)).setWidth 8).extractLsb' 0 1 = 1
  rw [initialMapping_lowByte]
  apply BitVec.eq_of_getLsbD_eq
  intro i inRange
  interval_cases i
  simp

/-- The flags come back if they are built from the `PAGE_MAPPING_*` bits. -/
theorem readMapping_flags
    (physAddr : BitVec 64) {flags : BitVec 32} (availData : BitVec 32)
    (builtFrom : flags &&& ~~~ pageMappingFlags = 0) :
    (readMapping (makeMapping physAddr flags availData)).flags = flags := by
  rw [readMapping, makeMapping_lowByte]
  change _ ||| ((flags.sshiftRight 7).setWidth 1).setWidth 32 <<< 7 = flags
  apply BitVec.eq_of_getLsbD_eq
  intro i inRange
  have otherBits : (flags &&& ~~~ pageMappingFlags).getLsbD i = false := by
    simp [builtFrom]
  simp only [BitVec.getLsbD_or, BitVec.getLsbD_and, BitVec.getLsbD_not,
    BitVec.getLsbD_setWidth, BitVec.getLsbD_shiftLeft,
    BitVec.getLsbD_sshiftRight] at otherBits ⊢
  interval_cases i <;> simp_all [flagsMask, pageMappingFlags]

/-- The available bits come back if there are at most 14 of them. -/
theorem readMapping_availData
    (physAddr : BitVec 64) (flags : BitVec 32) {availData : BitVec 32}
    (small : availData.toNat < 2 ^ 14) :
    (readMapping (makeMapping physAddr flags availData)).availData = availData := by
  change (availData.setWidth 3).setWidth 32 |||
    ((availData.sshiftRight 3).setWidth 11).setWidth 32 <<< 3 = availData
  apply BitVec.eq_of_getLsbD_eq
  intro i inRange
  have highBits : 14 ≤ i → availData.getLsbD i = false := by
    intro beyond
    rw [BitVec.getLsbD]
    exact Nat.testBit_lt_two_pow
      (small.trans_le (Nat.pow_le_pow_right (by decide) beyond))
  simp only [BitVec.getLsbD_or, BitVec.getLsbD_setWidth, BitVec.getLsbD_shiftLeft,
    BitVec.getLsbD_sshiftRight]
  interval_cases i <;> simp_all

/-- The low part of an aligned address keeps bits 12 to 31. -/
theorem makeMapping_address0
    {physAddr : BitVec 64} (flags availData : BitVec 32)
    (aligned : physAddr.toNat % 2 ^ 21 = 0) :
    (makeMapping physAddr flags availData).address0.toNat =
      physAddr.toNat / 2 ^ 12 % 2 ^ 20 := by
  have lowBits : ∀ i, i < 21 → physAddr.getLsbD i = false := by
    intro i low
    have split := Nat.testBit_mod_two_pow physAddr.toNat 21 i
    rw [aligned] at split
    simpa [BitVec.getLsbD, low] using split.symm
  have kept : (makeMapping physAddr flags availData).address0 =
      (physAddr >>> 12).setWidth 20 := by
    change ((physAddr >>> 12).setWidth 32 &&&
      ~~~ (BitVec.ofNat 32 pageTableDescs - 1)).setWidth 20 = _
    apply BitVec.eq_of_getLsbD_eq
    intro i inRange
    have low := lowBits (12 + i)
    simp only [BitVec.getLsbD_setWidth, BitVec.getLsbD_and, BitVec.getLsbD_not,
      BitVec.getLsbD_ushiftRight, pageTableDescs]
    interval_cases i <;> simp_all
  rw [kept]
  simp [Nat.shiftRight_eq_div_pow]

/-- The high part of an address below 2^52 keeps bits 32 to 51. -/
theorem makeMapping_address1
    {physAddr : BitVec 64} (flags availData : BitVec 32)
    (small : physAddr.toNat < 2 ^ 52) :
    (makeMapping physAddr flags availData).address1.toNat =
      physAddr.toNat / 2 ^ 32 := by
  change (((physAddr >>> 32).setWidth 32).setWidth 20).toNat = _
  simp only [BitVec.toNat_setWidth, BitVec.toNat_ushiftRight,
    Nat.shiftRight_eq_div_pow]
  omega

/-- The physical address that is read back: bit 31 is sign-extended. -/
theorem readMapping_physAddr
    {physAddr : BitVec 64} (flags availData : BitVec 32)
    (aligned : physAddr.toNat % 2 ^ 21 = 0)
    (small : physAddr.toNat < 2 ^ 52) :
    (readMapping (makeMapping physAddr flags availData)).physAddr.toNat =
      (physAddr.toNat +
        if physAddr.getLsbD 31 then 2 ^ 64 - 2 ^ 32 else 0) % 2 ^ 64 := by
  have low := makeMapping_address0 flags availData aligned
  have high := makeMapping_address1 flags availData small
  have shifted : (((makeMapping physAddr flags availData).address0.setWidth 32) <<<
      12).toNat = physAddr.toNat % 2 ^ 32 := by
    simp only [BitVec.toNat_shiftLeft, BitVec.toNat_setWidth, low, Nat.shiftLeft_eq]
    omega
  have sign : (((makeMapping physAddr flags availData).address0.setWidth 32) <<<
      12).msb = physAddr.getLsbD 31 := by
    rw [BitVec.msb_eq_getLsbD_last, BitVec.getLsbD, shifted,
      Nat.testBit_mod_two_pow]
    simp [BitVec.getLsbD]
  have top : (((makeMapping physAddr flags availData).address1.setWidth 64) <<<
      32).toNat = physAddr.toNat / 2 ^ 32 * 2 ^ 32 := by
    simp only [BitVec.toNat_shiftLeft, BitVec.toNat_setWidth, high, Nat.shiftLeft_eq]
    omega
  simp only [readMapping, BitVec.toNat_add, BitVec.toNat_signExtend,
    BitVec.toNat_setWidth, sign, top, shifted]
  split <;> omega

/-- The contract of `map_page`, `get_page_mapping` and `unmap_page` for one
page. -/
def RoundTrip (memory : PageMemory) (pageMap virtAddr physAddr : BitVec 64)
    (flags availData : BitVec 32) : Prop :=
  getPageMapping (mapPage memory pageMap virtAddr physAddr flags availData)
      pageMap virtAddr = some ⟨physAddr, flags, availData⟩ ∧
    getPageMapping (unmapPage (mapPage memory pageMap virtAddr physAddr flags availData)
      pageMap virtAddr) pageMap virtAddr = none

theorem getPageMapping_mapPage
    (memory : PageMemory) (pageMap virtAddr physAddr : BitVec 64)
    (flags availData : BitVec 32) :
    getPageMapping (mapPage memory pageMap virtAddr physAddr flags availData)
      pageMap virtAddr = some (readMapping (makeMapping physAddr flags availData)) := by
  simp [getPageMapping, mapPage, makeMapping_present]

theorem getPageMapping_unmapPage
    (memory : PageMemory) (pageMap virtAddr : BitVec 64) :
    getPageMapping (unmapPage memory pageMap virtAddr) pageMap virtAddr = none := by
  simp [getPageMapping, unmapPage, PageDesc.zero]

/-- A mapping is read back exactly if bit 31 of its physical address is
clear. -/
theorem roundTrip_iff
    (memory : PageMemory) (pageMap virtAddr physAddr : BitVec 64)
    (flags availData : BitVec 32)
    (aligned : physAddr.toNat % 2 ^ 21 = 0)
    (small : physAddr.toNat < 2 ^ 52)
    (builtFrom : flags &&& ~~~ pageMappingFlags = 0)
    (fourteenBits : availData.toNat < 2 ^ 14) :
    RoundTrip memory pageMap virtAddr physAddr flags availData ↔
      physAddr.getLsbD 31 = false := by
  have value := readMapping_physAddr flags availData aligned small
  have readBack : readMapping (makeMapping physAddr flags availData) =
      ⟨physAddr, flags, availData⟩ ↔
        (readMapping (makeMapping physAddr flags availData)).physAddr = physAddr := by
    constructor
    · intro equal
      rw [equal]
    · intro sameAddr
      have sameFlags := readMapping_flags physAddr availData builtFrom
      have sameAvail := readMapping_availData physAddr flags fourteenBits
      calc readMapping (makeMapping physAddr flags availData)
          = ⟨(readMapping (makeMapping physAddr flags availData)).physAddr,
              (readMapping (makeMapping physAddr flags availData)).flags,
              (readMapping (makeMapping physAddr flags availData)).availData⟩ := rfl
        _ = ⟨physAddr, flags, availData⟩ := by rw [sameAddr, sameFlags, sameAvail]
  rw [RoundTrip, getPageMapping_mapPage, getPageMapping_unmapPage]
  simp only [Option.some.injEq, and_true]
  rw [readBack, ← BitVec.toNat_inj, value]
  cases physAddr.getLsbD 31 with
  | false =>
      simp only [Bool.false_eq_true, if_false, iff_true]
      omega
  | true =>
      simp only [if_true, Bool.true_eq_false, iff_false]
      omega

/-- The registers of the local APIC are mapped to a page with bit 31 set. -/
theorem roundTrip_fails :
    ¬ ∀ (memory : PageMemory) (pageMap virtAddr physAddr : BitVec 64)
        (flags availData : BitVec 32),
      virtAddr.toNat < 2 ^ 40 → physAddr.toNat % 2 ^ 21 = 0 →
      physAddr.toNat < 2 ^ 52 → flags &&& ~~~ pageMappingFlags = 0 →
      availData.toNat < 2 ^ 14 →
      RoundTrip memory pageMap virtAddr physAddr flags availData := by
  intro claimed
  have failing := (claimed (fun _ => PageDesc.zero) 0 0 0xFEE00000 0 0
    (by decide) (by decide) (by decide) (by decide) (by decide)).1
  exact absurd failing (by decide)

/-- The page at 1 GB is read back. -/
theorem roundTrip_oneGigabyte :
    RoundTrip (fun _ => PageDesc.zero) 0 0 0x40000000 0xFA 0x3FFF :=
  (roundTrip_iff _ _ _ _ _ _ (by decide) (by decide) (by decide)
    (by decide)).mpr (by decide)

end PageMap
end ToyKernel
