import Mathlib.Data.BitVec
import Mathlib.Data.List.Basic

/-!
# Bit arrays

The macros `BIT_ARRAY_SET`, `BIT_ARRAY_RESET` and `BIT_ARRAY_GET` address single
bytes of an array of 64-bit words on a little-endian machine, and
`__find_mask_bsf` scans the same array word by word.
-/

namespace ToyKernel
namespace BitArray

/-- Byte `index` of an array of words, `((uint8_t*)array)[index]`. -/
def getByte (words : List (BitVec 64)) (index : Nat) : BitVec 8 :=
  (words.getD (index / 8) 0).extractLsb' (8 * (index % 8)) 8

/-- A word with one of its bytes replaced. -/
def replaceByte (word : BitVec 64) (index : Nat) (byte : BitVec 8) : BitVec 64 :=
  (word &&& ~~~ ((0xFF : BitVec 64) <<< (8 * index))) |||
    byte.setWidth 64 <<< (8 * index)

/-- Store byte `index` of an array of words. -/
def setByte (words : List (BitVec 64)) (index : Nat) (byte : BitVec 8) :
    List (BitVec 64) :=
  words.modify (index / 8) fun word => replaceByte word (index % 8) byte

/-- `BIT_ARRAY_SET`. -/
def set (words : List (BitVec 64)) (bit : Nat) : List (BitVec 64) :=
  setByte words (bit / 8) (getByte words (bit / 8) ||| 1#8 <<< (bit % 8))

/-- `BIT_ARRAY_RESET`. -/
def reset (words : List (BitVec 64)) (bit : Nat) : List (BitVec 64) :=
  setByte words (bit / 8) (getByte words (bit / 8) &&& ~~~ (1#8 <<< (bit % 8)))

/-- `BIT_ARRAY_GET`. -/
def get (words : List (BitVec 64)) (bit : Nat) : Bool :=
  getByte words (bit / 8) &&& 1#8 <<< (bit % 8) ≠ 0

/-- `__find_mask_bsf`; `none` is the result -1. -/
def findMaskBsf : List (BitVec 64) → Option Nat
  | [] => none
  | word :: words =>
      if word ≠ 0 then some word.ctz.toNat else (findMaskBsf words).map (64 + ·)

/-! ## Bits of the array -/

/-- The bit of the array with a given number, in word order. -/
def bitAt (words : List (BitVec 64)) (bit : Nat) : Bool :=
  (words.getD (bit / 64) 0).getLsbD (bit % 64)

theorem getByte_bit (words : List (BitVec 64)) {index offset : Nat} (inByte : offset < 8) :
    (getByte words index).getLsbD offset = bitAt words (8 * index + offset) := by
  have word : (8 * index + offset) / 64 = index / 8 := by omega
  have position : (8 * index + offset) % 64 = 8 * (index % 8) + offset := by omega
  simp [getByte, bitAt, word, position, inByte]

/-- A single bit of a byte. -/
theorem and_shiftLeft_ne_zero (byte : BitVec 8) {offset : Nat} (inByte : offset < 8) :
    (byte &&& 1#8 <<< offset ≠ 0) ↔ byte.getLsbD offset = true := by
  rw [← BitVec.twoPow_eq, BitVec.and_twoPow]
  split
  · rename_i isSet
    simp only [isSet, iff_true, ne_eq]
    intro zero
    have bit : (BitVec.twoPow 8 offset).getLsbD offset = false := by simp [zero]
    rw [BitVec.getLsbD_twoPow] at bit
    simp [inByte] at bit
  · rename_i clear
    simp [clear]

theorem get_eq (words : List (BitVec 64)) (bit : Nat) : get words bit = bitAt words bit := by
  have inByte : bit % 8 < 8 := Nat.mod_lt bit (by decide)
  have number : 8 * (bit / 8) + bit % 8 = bit := Nat.div_add_mod bit 8
  have read := and_shiftLeft_ne_zero (getByte words (bit / 8)) inByte
  rw [getByte_bit words inByte, number] at read
  rw [Bool.eq_iff_iff, get, decide_eq_true_eq]
  exact read

theorem byteMask_bit (offset : Nat) :
    (0xFF : BitVec 64).getLsbD offset = decide (offset < 8) := by
  have mask : (0xFF : BitVec 64) = BitVec.ofNat 64 (2 ^ 8 - 1) := rfl
  rw [mask, BitVec.getLsbD_ofNat, Nat.testBit_two_pow_sub_one, ← Bool.decide_and,
    decide_eq_decide]
  omega

/-- The bits of a word with one of its bytes replaced. -/
theorem replaceByte_bit (word : BitVec 64) {index : Nat} (byte : BitVec 8)
    {offset : Nat} (inWord : offset < 64) :
    (replaceByte word index byte).getLsbD offset =
      if offset / 8 = index then byte.getLsbD (offset % 8) else word.getLsbD offset := by
  simp only [replaceByte, BitVec.getLsbD_or, BitVec.getLsbD_and, BitVec.getLsbD_not,
    BitVec.getLsbD_shiftLeft, BitVec.getLsbD_setWidth, byteMask_bit, inWord, decide_true,
    Bool.true_and]
  by_cases same : offset / 8 = index
  · have above : ¬ offset < 8 * index := by omega
    have position : offset - 8 * index = offset % 8 := by omega
    have inByte : offset % 8 < 8 := Nat.mod_lt offset (by decide)
    have inRange : offset % 8 < 64 := by omega
    simp [same, above, inByte, inRange, position]
  · rw [if_neg same]
    by_cases below : offset < 8 * index
    · simp [below]
    · have beyond : ¬ offset - 8 * index < 8 := by omega
      have noBit : byte.getLsbD (offset - 8 * index) = false :=
        BitVec.getLsbD_of_ge byte _ (by omega)
      simp [below, beyond, noBit]

@[simp] theorem setByte_length (words : List (BitVec 64)) (index : Nat) (byte : BitVec 8) :
    (setByte words index byte).length = words.length := by
  simp [setByte]

/-- The bits of an array with one of its bytes replaced. -/
theorem bitAt_setByte {words : List (BitVec 64)} {index : Nat} (byte : BitVec 8)
    (inArray : index < 8 * words.length) (bit : Nat) :
    bitAt (setByte words index byte) bit =
      if bit / 8 = index then byte.getLsbD (bit % 8) else bitAt words bit := by
  have inWord : bit % 64 < 64 := Nat.mod_lt bit (by decide)
  simp only [bitAt, setByte, List.getD_eq_getElem?_getD, List.getElem?_modify]
  by_cases sameWord : index / 8 = bit / 64
  · have present : bit / 64 < words.length := by omega
    rw [List.getElem?_eq_getElem present, Option.map_eq_map, Option.map_some,
      Option.getD_some, Option.getD_some, if_pos sameWord, replaceByte_bit _ _ inWord]
    have byteInWord : bit % 64 / 8 = index % 8 ↔ bit / 8 = index := by omega
    have position : bit % 64 % 8 = bit % 8 := by omega
    simp only [byteInWord, position]
  · have otherByte : bit / 8 ≠ index := by omega
    simp [sameWord, otherByte]

@[simp] theorem set_length (words : List (BitVec 64)) (bit : Nat) :
    (set words bit).length = words.length := by
  simp [set]

@[simp] theorem reset_length (words : List (BitVec 64)) (bit : Nat) :
    (reset words bit).length = words.length := by
  simp [reset]

/-- Setting a bit leaves the other bits alone. -/
theorem get_set {words : List (BitVec 64)} {bit : Nat}
    (inArray : bit < 64 * words.length) (other : Nat) :
    get (set words bit) other = (decide (other = bit) || get words other) := by
  have inByte : other % 8 < 8 := Nat.mod_lt other (by decide)
  have number : 8 * (other / 8) + other % 8 = other := Nat.div_add_mod other 8
  rw [get_eq, get_eq, set, bitAt_setByte _ (by omega)]
  split
  · rename_i sameByte
    rw [BitVec.getLsbD_or, ← sameByte, getByte_bit words inByte, number, ← BitVec.twoPow_eq,
      BitVec.getLsbD_twoPow, Bool.or_comm]
    have position : bit % 8 < 8 ∧ bit % 8 = other % 8 ↔ other = bit := by omega
    rw [← Bool.decide_and]
    simp only [position]
  · rename_i otherByte
    have different : other ≠ bit := fun same => otherByte (by rw [same])
    simp [different]

/-- Resetting a bit leaves the other bits alone. -/
theorem get_reset {words : List (BitVec 64)} {bit : Nat}
    (inArray : bit < 64 * words.length) (other : Nat) :
    get (reset words bit) other = (!decide (other = bit) && get words other) := by
  have inByte : other % 8 < 8 := Nat.mod_lt other (by decide)
  have number : 8 * (other / 8) + other % 8 = other := Nat.div_add_mod other 8
  rw [get_eq, get_eq, reset, bitAt_setByte _ (by omega)]
  split
  · rename_i sameByte
    rw [BitVec.getLsbD_and, ← sameByte, getByte_bit words inByte, number,
      BitVec.getLsbD_not, ← BitVec.twoPow_eq, BitVec.getLsbD_twoPow, Bool.and_comm]
    have position : bit % 8 < 8 ∧ bit % 8 = other % 8 ↔ other = bit := by omega
    rw [← Bool.decide_and]
    simp only [position, inByte, decide_true, Bool.true_and]
  · rename_i otherByte
    have different : other ≠ bit := fun same => otherByte (by rw [same])
    simp [different]

/-! ## The scan -/

theorem bitAt_cons_lower (word : BitVec 64) (words : List (BitVec 64)) {bit : Nat}
    (inWord : bit < 64) : bitAt (word :: words) bit = word.getLsbD bit := by
  have first : bit / 64 = 0 := by omega
  have position : bit % 64 = bit := by omega
  simp [bitAt, first, position]

theorem bitAt_cons_upper (word : BitVec 64) (words : List (BitVec 64)) (bit : Nat) :
    bitAt (word :: words) (64 + bit) = bitAt words bit := by
  have next : (64 + bit) / 64 = bit / 64 + 1 := by omega
  have position : (64 + bit) % 64 = bit % 64 := by omega
  simp [bitAt, next, position]

theorem bitAt_beyond {words : List (BitVec 64)} {bit : Nat}
    (beyond : 64 * words.length ≤ bit) : bitAt words bit = false := by
  have absent : words.length ≤ bit / 64 := by omega
  simp [bitAt, List.getD_eq_getElem?_getD, List.getElem?_eq_none absent]

/-- The scan finds the lowest bit that is set, and fails exactly if none is. -/
theorem findMaskBsf_bitAt (words : List (BitVec 64)) :
    match findMaskBsf words with
    | some bit => bitAt words bit = true ∧ ∀ lower, lower < bit → bitAt words lower = false
    | none => ∀ bit, bitAt words bit = false := by
  induction words with
  | nil =>
      intro bit
      simp [bitAt]
  | cons word words inductionHypothesis =>
      simp only [findMaskBsf]
      by_cases zero : word = 0
      · have zeroWord : ∀ bit, bit < 64 → bitAt (word :: words) bit = false := by
          intro bit inWord
          rw [bitAt_cons_lower word words inWord, zero]
          simp
        have upper : ∀ bit, 64 ≤ bit →
            bitAt (word :: words) bit = bitAt words (bit - 64) := by
          intro bit beyond
          rw [← bitAt_cons_upper word words (bit - 64)]
          congr 1
          omega
        rw [if_neg (by simpa using zero)]
        cases found : findMaskBsf words with
        | none =>
            rw [found] at inductionHypothesis
            intro bit
            by_cases inWord : bit < 64
            · exact zeroWord bit inWord
            · rw [upper bit (by omega)]
              exact inductionHypothesis _
        | some bit =>
            rw [found] at inductionHypothesis
            obtain ⟨isSet, lowest⟩ := inductionHypothesis
            refine ⟨(bitAt_cons_upper word words bit).trans isSet, fun lower below => ?_⟩
            have below : lower < 64 + bit := below
            by_cases inWord : lower < 64
            · exact zeroWord lower inWord
            · rw [upper lower (by omega)]
              exact lowest _ (by omega)
      · have inWord : word.ctz.toNat < 64 := by
          have below := BitVec.ctz_lt_iff_ne_zero.mpr zero
          simpa [BitVec.lt_def] using below
        rw [if_pos zero]
        refine ⟨?_, fun lower below => ?_⟩
        · rw [bitAt_cons_lower word words inWord]
          exact BitVec.getLsbD_true_ctz_of_ne_zero zero
        · rw [bitAt_cons_lower word words (by omega)]
          exact BitVec.getLsbD_false_of_lt_ctz below

/-- The scan finds a bit exactly if it is the lowest one that is set. -/
theorem findMaskBsf_eq_some_iff (words : List (BitVec 64)) (bit : Nat) :
    findMaskBsf words = some bit ↔
      get words bit = true ∧ ∀ lower, lower < bit → get words lower = false := by
  have scanned := findMaskBsf_bitAt words
  simp only [get_eq]
  cases found : findMaskBsf words with
  | none =>
      rw [found] at scanned
      simp [scanned bit]
  | some lowest =>
      rw [found] at scanned
      obtain ⟨isSet, below⟩ := scanned
      constructor
      · intro same
        cases same
        exact ⟨isSet, below⟩
      · rintro ⟨bitSet, belowBit⟩
        rcases Nat.lt_trichotomy lowest bit with less | same | greater
        · simp [belowBit lowest less] at isSet
        · rw [same]
        · simp [below bit greater] at bitSet

theorem findMaskBsf_eq_none_iff (words : List (BitVec 64)) :
    findMaskBsf words = none ↔ ∀ bit, get words bit = false := by
  have scanned := findMaskBsf_bitAt words
  simp only [get_eq]
  cases found : findMaskBsf words with
  | none =>
      rw [found] at scanned
      simp [scanned]
  | some lowest =>
      rw [found] at scanned
      simp only [reduceCtorEq, false_iff, not_forall, Bool.not_eq_false]
      exact ⟨lowest, scanned.1⟩

/-- A bit that is set lies inside the array. -/
theorem lt_of_get {words : List (BitVec 64)} {bit : Nat} (isSet : get words bit = true) :
    bit < 64 * words.length := by
  rw [get_eq] at isSet
  by_contra beyond
  rw [bitAt_beyond (by omega)] at isSet
  cases isSet

end BitArray
end ToyKernel
