import ToyKernel.Pci.Defs

/-!
# Reading and writing fields

The word that `write_pci_field` assembles, bit by bit, and exactly when a write is the
read-modify-write that it is meant to be.
-/

namespace ToyKernel
namespace Pci

/-! ### Shifts -/

theorem shiftLeft_of_lt (value : BitVec 32) {count : BitVec 64} {n : Nat}
    (counts : count.toNat = n) (small : n < 32) :
    shiftLeft value count = some (value <<< n) := by
  simp [shiftLeft, counts, small]

theorem shiftRight_of_lt (value : BitVec 32) {count : BitVec 64} {n : Nat}
    (counts : count.toNat = n) (small : n < 32) :
    shiftRight value count = some (value >>> n) := by
  simp [shiftRight, counts, small]

/-- Shifting left and then right keeps the bits that the first shift does not push out. -/
theorem getLsbD_shiftLeft_ushiftRight (value : BitVec 32) (left right i : Nat)
    (ordered : left ≤ right) :
    (value <<< left >>> right).getLsbD i =
      (decide (i + right < 32) && value.getLsbD (i + (right - left))) := by
  rw [BitVec.getLsbD_ushiftRight, BitVec.getLsbD_shiftLeft, Nat.add_comm right i,
    Nat.add_sub_assoc ordered]
  have inside : ¬ i + right < left := by omega
  simp [inside]

/-- Where its two counts are in range, `INT_BITS` is its two shifts. -/
theorem intBits_of_counts (word : BitVec 32) {plusLow minusHigh : BitVec 64 → BitVec 64}
    {left right : Nat} (leftCount : (minusHigh (4 * 8 - 1)).toNat = left)
    (rightCount : (plusLow (minusHigh (4 * 8 - 1))).toNat = right)
    (leftSmall : left < 32) (rightSmall : right < 32) :
    intBits word plusLow minusHigh = some (word <<< left >>> right) := by
  simp only [intBits, shiftLeft_of_lt word leftCount leftSmall, Option.bind_eq_bind,
    Option.bind_some, shiftRight_of_lt _ rightCount rightSmall]

/-! ### Fields -/

variable {low high : BitVec 64}

/-- The field between two bits of a word. -/
def fieldBits (word : BitVec 32) (low high : Nat) : BitVec 32 :=
  word <<< (31 - high) >>> (31 - high + low)

/-- The bits of a field are those of the word, moved down. -/
theorem getLsbD_fieldBits (word : BitVec 32) {low high : Nat} (i : Nat) (top : high ≤ 31) :
    (fieldBits word low high).getLsbD i =
      (decide (i + low ≤ high) && word.getLsbD (i + low)) := by
  rw [fieldBits, getLsbD_shiftLeft_ushiftRight _ _ _ _ (Nat.le_add_right _ _)]
  congr 1
  · exact decide_eq_decide.mpr (by omega)
  · congr 1
    omega

/-- A field has no more bits than its width. -/
theorem fieldBits_toNat_lt (word : BitVec 32) {low high : Nat} (ordered : low ≤ high)
    (top : high ≤ 31) : (fieldBits word low high).toNat < 2 ^ (high - low + 1) := by
  rw [fieldBits, BitVec.toNat_ushiftRight, Nat.shiftRight_eq_div_pow]
  apply Nat.div_lt_of_lt_mul
  rw [← Nat.pow_add]
  have whole : 31 - high + low + (high - low + 1) = 32 := by omega
  rw [whole]
  exact (word <<< (31 - high)).isLt

/-- `INT_BITS` with names for its arguments is the field between them. -/
theorem intBits_eq (word : BitVec 32) (ordered : low.toNat ≤ high.toNat)
    (top : high.toNat ≤ 31) :
    intBits word (· + low) (· - high) = some (fieldBits word low.toNat high.toNat) := by
  apply intBits_of_counts word <;> bv_omega

/-- `INT_BITS(prev, 0, low_bit - 1)` keeps two bits more than the ones below `low_bit`, and
its count wraps around when `low_bit` is the last bit. -/
theorem keptBelow_eq (prev : BitVec 32) (below : low.toNat ≤ 31) :
    keptBelow prev low =
      if low.toNat = 31 then none
      else some (if 0 < low.toNat then prev <<< (30 - low.toNat) >>> (30 - low.toNat)
        else 0) := by
  have starts : 0 < low ↔ 0 < low.toNat := BitVec.lt_def
  by_cases last : low.toNat = 31
  · have outside : ¬ ((4 * 8 - 1 : BitVec 64) - low - 1).toNat < 32 := by
      bv_omega
    have positive : 0 < low := starts.mpr (by omega)
    simp only [keptBelow, positive, if_true, intBits, shiftLeft, outside, if_false,
      Option.bind_eq_bind, Option.bind_none, last]
  · rw [if_neg last, keptBelow]
    by_cases positive : 0 < low
    · rw [if_pos positive, if_pos (starts.mp positive)]
      apply intBits_of_counts prev <;> bv_omega
    · rw [if_neg positive, if_neg (mt starts.mpr positive)]

/-- `INT_BITS(prev, high_bit + 1, 31)`, moved back, is what lies above `high_bit`. -/
theorem keptAbove_eq (prev : BitVec 32) (top : high.toNat ≤ 31) :
    keptAbove prev high =
      some (if high.toNat < 31 then prev <<< 0 >>> (high.toNat + 1) <<< (high.toNat + 1)
        else 0) := by
  have ends : high < 31 ↔ high.toNat < 31 := BitVec.lt_def
  by_cases above : high < 31
  · have shifts : intBits prev (· + high + 1) (· - 31) =
        some (prev <<< 0 >>> (high.toNat + 1)) := by
      apply intBits_of_counts prev <;> bv_omega
    have count : (high + 1).toNat = high.toNat + 1 := by bv_omega
    rw [keptAbove, if_pos above, if_pos (ends.mp above), shifts, Option.bind_eq_bind,
      Option.bind_some, shiftLeft_of_lt _ count (by bv_omega)]
  · rw [keptAbove, if_neg above, if_neg (mt ends.mpr above)]

/-! ### The assembled word -/

/-- The word that a write stores, wherever its shifts are defined. -/
def assembled (prev value : BitVec 32) (low high : Nat) : BitVec 32 :=
  (if 0 < low then prev <<< (30 - low) >>> (30 - low) else 0) ||| value <<< low |||
    (if high < 31 then prev <<< 0 >>> (high + 1) <<< (high + 1) else 0)

/-- A write assembles its word, unless the field starts at the last bit. -/
theorem nextWord_eq (prev value : BitVec 32) (ordered : low.toNat ≤ high.toNat)
    (top : high.toNat ≤ 31) :
    nextWord prev value low high =
      if low.toNat = 31 then none
      else some (assembled prev value low.toNat high.toNat) := by
  rw [nextWord, keptBelow_eq prev (ordered.trans top), keptAbove_eq prev top,
    shiftLeft_of_lt value rfl (by omega)]
  split
  · rfl
  · rfl

/-- The bits of the assembled word. -/
theorem getLsbD_assembled (prev value : BitVec 32) {low high i : Nat}
    (notLast : low < 31) (inside : i < 32) :
    (assembled prev value low high).getLsbD i =
      ((decide (0 < low ∧ i < low + 2) && prev.getLsbD i) ||
        (decide (low ≤ i) && value.getLsbD (i - low)) ||
        (decide (high < i) && prev.getLsbD i)) := by
  have below : (if 0 < low then prev <<< (30 - low) >>> (30 - low) else 0).getLsbD i =
      (decide (0 < low ∧ i < low + 2) && prev.getLsbD i) := by
    split
    · rename_i positive
      rw [getLsbD_shiftLeft_ushiftRight _ _ _ _ le_rfl, Nat.sub_self, Nat.add_zero]
      congr 1
      exact decide_eq_decide.mpr (by omega)
    · rename_i zero
      simp [zero]
  have middle : (value <<< low).getLsbD i = (decide (low ≤ i) && value.getLsbD (i - low)) := by
    rw [BitVec.getLsbD_shiftLeft]
    by_cases before : i < low
    · simp [before, not_le.mpr before]
    · simp [before, not_lt.mp before, inside]
  have above : (if high < 31 then prev <<< 0 >>> (high + 1) <<< (high + 1) else 0).getLsbD i =
      (decide (high < i) && prev.getLsbD i) := by
    split
    · rw [BitVec.getLsbD_shiftLeft, BitVec.shiftLeft_zero, BitVec.getLsbD_ushiftRight]
      by_cases beyond : high < i
      · have index : high + 1 + (i - (high + 1)) = i := by omega
        have notBefore : ¬ i < high + 1 := by omega
        simp only [inside, beyond, index, notBefore, decide_true, decide_false, Bool.true_and,
          Bool.not_false]
      · have before : i < high + 1 := by omega
        simp [beyond, before]
    · have before : ¬ high < i := by omega
      simp [before]
  rw [assembled, BitVec.getLsbD_or, BitVec.getLsbD_or, below, middle, above]

/-! ### Writes -/

/-- `value` truncated to the width of a field. -/
def truncated (value : BitVec 32) (low high : Nat) : BitVec 32 :=
  (value.setWidth (high - low + 1)).setWidth 32

/-- What a write is meant to do: the field then reads as the truncated value, and no other
bit of any register changes. -/
def ReadModifyWrite (registers : Registers) (device field value : BitVec 32) : Prop :=
  ∃ after, writePciField registers device field value = some after ∧
    readPciField after device field =
      some (truncated value (lowBit field).toNat (highBit field).toNat) ∧
    ∀ address i, i < 32 →
      ¬ (address = getAddr device field ∧
        (lowBit field).toNat ≤ i ∧ i ≤ (highBit field).toNat) →
      (after address).getLsbD i = (registers address).getLsbD i

/-- The previous content and the value for which a write does not go wrong. -/
structure FitsField (prev value : BitVec 32) (low high : Nat) : Prop where
  /-- The field does not start at the last bit. -/
  notLast : low < 31
  /-- Where the field does not start at bit 0, its two lowest bits are set in the value if
  they were set before. -/
  lowest : 0 < low → ∀ i < 2, low + i ≤ high →
    prev.getLsbD (low + i) = true → value.getLsbD i = true
  /-- What the value has beyond the width of the field was set before. -/
  beyond : ∀ i, high < low + i → low + i < 32 →
    value.getLsbD i = true → prev.getLsbD (low + i) = true

/-- The assembled word has the value in the field and the previous content elsewhere. -/
def MergesField (prev value word : BitVec 32) (low high : Nat) : Prop :=
  ∀ i < 32, word.getLsbD i =
    if low ≤ i ∧ i ≤ high then value.getLsbD (i - low) else prev.getLsbD i

/-- The assembled word merges the value exactly when nothing goes wrong. -/
theorem mergesField_assembled_iff (prev value : BitVec 32) {low high : Nat}
    (top : high ≤ 31) (notLast : low < 31) :
    MergesField prev value (assembled prev value low high) low high ↔
      FitsField prev value low high := by
  constructor
  · intro merges
    refine ⟨notLast, ?_, ?_⟩
    · intro positive i small within set
      have bit := merges (low + i) (by omega)
      rw [getLsbD_assembled prev value notLast (by omega), if_pos (by omega),
        Nat.add_sub_cancel_left] at bit
      simpa [positive, small, set] using bit.symm
    · intro i past inside set
      have bit := merges (low + i) inside
      rw [getLsbD_assembled prev value notLast inside, if_neg (by omega),
        Nat.add_sub_cancel_left] at bit
      simpa [set] using bit.symm
  · intro fits i inside
    rw [getLsbD_assembled prev value notLast inside]
    by_cases below : i < low
    · have kept : 0 < low ∧ i < low + 2 := by omega
      simp [kept, not_le.mpr below]
    · have back : low + (i - low) = i := by omega
      by_cases past : high < i
      · have above := fits.beyond (i - low) (by omega) (by omega)
        rw [back] at above
        have outside : ¬ (low ≤ i ∧ i ≤ high) := by omega
        rw [if_neg outside]
        cases prevBit : prev.getLsbD i <;> simp_all
      · have field : low ≤ i ∧ i ≤ high := by omega
        rw [if_pos field]
        cases valueBit : value.getLsbD (i - low) with
        | true => simp [field]
        | false =>
            have clear : ¬ ((0 < low ∧ i < low + 2) ∧ prev.getLsbD i = true) := by
              rintro ⟨⟨positive, small⟩, set⟩
              have lowest := fits.lowest positive (i - low) (by omega) (by omega)
              rw [back, valueBit] at lowest
              exact absurd (lowest set) Bool.false_ne_true
            simpa [past] using clear

/-- The field of a word reads as the truncated value when their bits agree. -/
theorem fieldBits_eq_truncated_iff (word value : BitVec 32) {low high : Nat}
    (ordered : low ≤ high) (top : high ≤ 31) :
    fieldBits word low high = truncated value low high ↔
      ∀ i, low ≤ i → i ≤ high → word.getLsbD i = value.getLsbD (i - low) := by
  have truncatedBit (i : Nat) (small : i < 32) : (truncated value low high).getLsbD i =
      (decide (i + low ≤ high) && value.getLsbD i) := by
    rw [truncated, BitVec.getLsbD_setWidth, BitVec.getLsbD_setWidth]
    simp only [small, decide_true, Bool.true_and]
    congr 1
    exact decide_eq_decide.mpr (by omega)
  constructor
  · intro same i after before
    have bit := congrArg (fun bits => bits.getLsbD (i - low)) same
    have back : i - low + low = i := by omega
    simpa only [getLsbD_fieldBits word _ top, truncatedBit (i - low) (by omega), back, before,
      decide_true, Bool.true_and] using bit
  · intro agree
    apply BitVec.eq_of_getLsbD_eq
    intro i small
    rw [getLsbD_fieldBits word _ top, truncatedBit i small]
    by_cases inside : i + low ≤ high
    · rw [agree (i + low) (Nat.le_add_left _ _) inside, Nat.add_sub_cancel]
    · simp [inside]

/-- `read_pci_field` of a well-formed descriptor. -/
theorem readPciField_eq (registers : Registers) (device field : BitVec 32)
    (ordered : (lowBit field).toNat ≤ (highBit field).toNat)
    (top : (highBit field).toNat ≤ 31) :
    readPciField registers device field =
      some (fieldBits (registers (getAddr device field)) (lowBit field).toNat
        (highBit field).toNat) :=
  intBits_eq _ ordered top

/-- `write_pci_field` of a well-formed descriptor. -/
theorem writePciField_eq (registers : Registers) (device field value : BitVec 32)
    (ordered : (lowBit field).toNat ≤ (highBit field).toNat)
    (top : (highBit field).toNat ≤ 31) :
    writePciField registers device field value =
      if (lowBit field).toNat = 31 then none
      else some (Function.update registers (getAddr device field)
        (assembled (registers (getAddr device field)) value (lowBit field).toNat
          (highBit field).toNat)) := by
  by_cases part : 0 < lowBit field ∨ highBit field < 31
  · simp only [writePciField, part, if_true, nextWord_eq _ value ordered top]
    split
    · rfl
    · rfl
  · have first : (lowBit field).toNat = 0 := by bv_omega
    have last : (highBit field).toNat = 31 := by bv_omega
    simp only [writePciField, part, if_false, first, last]
    simp [assembled]

/-- A write is a read-modify-write exactly when its word merges the value. -/
theorem readModifyWrite_iff_mergesField (registers : Registers)
    (device field value : BitVec 32)
    (ordered : (lowBit field).toNat ≤ (highBit field).toNat)
    (top : (highBit field).toNat ≤ 31) (notLast : (lowBit field).toNat ≠ 31) :
    ReadModifyWrite registers device field value ↔
      MergesField (registers (getAddr device field)) value
        (assembled (registers (getAddr device field)) value (lowBit field).toNat
          (highBit field).toNat) (lowBit field).toNat (highBit field).toNat := by
  rw [ReadModifyWrite, writePciField_eq registers device field value ordered top,
    if_neg notLast]
  simp only [Option.some.injEq, exists_eq_left', readPciField_eq _ _ _ ordered top,
    Function.update_self, fieldBits_eq_truncated_iff _ value ordered top]
  constructor
  · rintro ⟨within, outside⟩ i inside
    by_cases field' : (lowBit field).toNat ≤ i ∧ i ≤ (highBit field).toNat
    · rw [if_pos field', within i field'.1 field'.2]
    · rw [if_neg field', ← outside (getAddr device field) i inside (fun both => field' both.2),
        Function.update_self]
  · intro merges
    refine ⟨?_, ?_⟩
    · intro i after before
      rw [merges i (by omega), if_pos ⟨after, before⟩]
    · intro address i inside outside
      by_cases same : address = getAddr device field
      · subst same
        rw [Function.update_self, merges i inside, if_neg (fun both => outside ⟨rfl, both⟩)]
      · rw [Function.update_of_ne same]

/-- **Writing a field.**  `write_pci_field` is a read-modify-write of the field exactly when
the field does not start at the last bit, the previous content sets none of the two lowest
bits of the field that the value clears, and the value sets no clear bit above the field. -/
theorem readModifyWrite_iff_fitsField (registers : Registers)
    (device field value : BitVec 32)
    (ordered : (lowBit field).toNat ≤ (highBit field).toNat)
    (top : (highBit field).toNat ≤ 31) :
    ReadModifyWrite registers device field value ↔
      FitsField (registers (getAddr device field)) value (lowBit field).toNat
        (highBit field).toNat := by
  by_cases last : (lowBit field).toNat = 31
  · constructor
    · rintro ⟨after, written, -⟩
      rw [writePciField_eq registers device field value ordered top, if_pos last] at written
      exact absurd written (by simp)
    · intro fits
      exact absurd fits.notLast (by omega)
  · rw [readModifyWrite_iff_mergesField registers device field value ordered top last,
      mergesField_assembled_iff _ value top (by omega)]

/-- Writing the secondary bus number 2 over the number 0 goes right. -/
theorem readModifyWrite_iff_fitsField_secondaryBus :
    ReadModifyWrite (fun _ => 0) 0 pciFieldSecondaryBus 2 := by
  refine (readModifyWrite_iff_fitsField (fun _ => 0) 0 pciFieldSecondaryBus 2 (by decide)
    (by decide)).mpr ⟨by decide, fun _ _ _ _ set => absurd set (by simp), ?_⟩
  have low : (lowBit pciFieldSecondaryBus).toNat = 8 := by decide
  have high : (highBit pciFieldSecondaryBus).toNat = 15 := by decide
  have narrow : ∀ i < 24, (2 : BitVec 32).getLsbD i = true → i = 1 := by decide
  rw [low, high]
  intro i past inside set
  have second := narrow i (by omega) set
  omega

/-- Writing the secondary bus number 2 over the number 1 makes it 3. -/
theorem readModifyWrite_fails :
    ((lowBit pciFieldSecondaryBus).toNat ≤ (highBit pciFieldSecondaryBus).toNat ∧
      (highBit pciFieldSecondaryBus).toNat ≤ 31) ∧
      ¬ ReadModifyWrite (fun _ => 0x100) 0 pciFieldSecondaryBus 2 := by
  refine ⟨by decide, ?_⟩
  rintro ⟨after, written, reads, -⟩
  have three : ((writePciField (fun _ => 0x100) 0 pciFieldSecondaryBus 2).bind
      fun after => readPciField after 0 pciFieldSecondaryBus) = some 3 := by
    decide
  rw [written, Option.bind_some, reads] at three
  exact absurd three (by decide)

end Pci
end ToyKernel
