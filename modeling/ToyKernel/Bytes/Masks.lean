import ToyKernel.Bytes.Regions
import ToyKernel.BitArray
import Mathlib.Order.Bounds.Basic

/-!
# Masks

The macros address an array of bits by bytes, and `__find_mask_bsf` reads it by words whose
lowest byte comes first.
-/

namespace ToyKernel
namespace Bytes

open Program (Ensures Keeps)

/-- A bit of an array, in the byte that the macros address. -/
def bitAt (memory : Memory (BitVec 64) (BitVec 8)) (array : BitVec 64) (bit : Nat) : Bool :=
  (memory.cells (byteOf array bit)).getLsbD (bit % 8)

variable {before after : Memory (BitVec 64) (BitVec 8)} {array : BitVec 64} {words bit : Nat}

theorem byteOf_inj {other : Nat} (small : bit < 2 ^ 67) (alsoSmall : other < 2 ^ 67) :
    byteOf array other = byteOf array bit ↔ other / 8 = bit / 8 := by
  rw [byteOf, byteOf]
  bv_omega

theorem byteOf_mem (array : BitVec 64) (fits : 8 * words ≤ 2 ^ 64) (inside : bit < 64 * words) :
    byteOf array bit ∈ region array (8 * words) := by
  rw [byteOf, add_mem_region (by omega)]
  omega

/-! ## The macros -/

/-- `BIT_ARRAY_GET` is true. -/
def IsSet (memory : Memory (BitVec 64) (BitVec 8)) (array : BitVec 64) (bit : Nat) : Prop :=
  Ensures (bitArrayGet array bit) memory fun result _ => result = true

theorem bitArrayGet_ensures (array : BitVec 64) (bit : Nat) :
    Ensures (bitArrayGet array bit) before fun result after =>
      result = bitAt before array bit ∧ before.Accesses after {byteOf array bit} ∅ := by
  refine .bind (.load (.pure ⟨?_, ?_⟩))
  · rw [Bool.eq_iff_iff, decide_eq_true_eq]
    exact BitArray.and_shiftLeft_ne_zero _ (Nat.mod_lt bit (by decide))
  · exact ((Memory.Accesses.refl before).load _).weaken (by simp) rfl

theorem isSet_iff : IsSet before array bit ↔ bitAt before array bit = true := by
  constructor
  · rintro ⟨result, after, returns, isTrue⟩
    rw [← ((bitArrayGet_ensures array bit).of_returns returns).1, isTrue]
  · intro isTrue
    exact (bitArrayGet_ensures array bit).mono fun _ _ holds => holds.1.trans isTrue

/-- A macro replaces a byte by one that differs in a single bit. -/
theorem bitAt_store {byte : BitVec 8} {value : Bool} (small : bit < 2 ^ 67)
    (changed : ∀ offset < 8, byte.getLsbD offset =
      if offset = bit % 8 then value else (before.cells (byteOf array bit)).getLsbD offset)
    {other : Nat} (alsoSmall : other < 2 ^ 67) :
    bitAt ((before.load (byteOf array bit)).store (byteOf array bit) byte) array other =
      if other = bit then value else bitAt before array other := by
  rw [bitAt, Memory.store_cells, Memory.load_cells, Function.update_apply]
  simp only [byteOf_inj small alsoSmall]
  by_cases sameByte : other / 8 = bit / 8
  · have address : byteOf array other = byteOf array bit :=
      (byteOf_inj small alsoSmall).mpr sameByte
    rw [if_pos sameByte, changed _ (Nat.mod_lt other (by decide)), bitAt, address]
    exact if_congr (by omega) rfl rfl
  · rw [if_neg sameByte, if_neg fun same => sameByte (by rw [same])]
    rfl

/-- `BIT_ARRAY_SET` or `BIT_ARRAY_RESET` with a bit. -/
inductive Operation
  | set (bit : Nat)
  | reset (bit : Nat)
  deriving DecidableEq

namespace Operation

/-- The bit that an operation is about. -/
def target : Operation → Nat
  | .set bit | .reset bit => bit

/-- The value that it gives to the bit. -/
def value : Operation → Bool
  | .set _ => true
  | .reset _ => false

/-- The macro. -/
def code (array : BitVec 64) : Operation → Code PUnit
  | .set bit => bitArraySet array bit
  | .reset bit => bitArrayReset array bit

theorem code_ensures (operation : Operation) (small : operation.target < 2 ^ 67) :
    Ensures (operation.code array) before fun _ after =>
      (∀ other < 2 ^ 67, bitAt after array other =
        if other = operation.target then operation.value else bitAt before array other) ∧
      before.Accesses after {byteOf array operation.target} {byteOf array operation.target} := by
  have accesses : ∀ byte, before.Accesses
      ((before.load (byteOf array operation.target)).store (byteOf array operation.target) byte)
      {byteOf array operation.target} {byteOf array operation.target} := fun byte =>
    (((Memory.Accesses.refl before).load _).store _ byte).weaken (by simp) (by simp)
  have inByte : ∀ bit, bit % 8 < 8 := fun bit => Nat.mod_lt bit (by decide)
  cases operation with
  | set bit =>
      refine .bind (.load (.store ⟨fun other alsoSmall => ?_, accesses _⟩))
      refine bitAt_store small (fun offset below => ?_) alsoSmall
      rw [BitVec.getLsbD_or, ← BitVec.twoPow_eq, BitVec.getLsbD_twoPow]
      by_cases same : offset = bit % 8
      · simp [target, value, same, inByte]
      · simp [target, same, Ne.symm same]
  | reset bit =>
      refine .bind (.load (.store ⟨fun other alsoSmall => ?_, accesses _⟩))
      refine bitAt_store small (fun offset below => ?_) alsoSmall
      rw [BitVec.getLsbD_and, BitVec.getLsbD_not, ← BitVec.twoPow_eq, BitVec.getLsbD_twoPow]
      by_cases same : offset = bit % 8
      · simp [target, value, same, inByte]
      · simp [target, same, Ne.symm same, below]

/-- The operations in a row. -/
def run (array : BitVec 64) : List Operation → Code PUnit
  | [] => pure ⟨⟩
  | operation :: operations => do
      operation.code array
      run array operations

/-- The last operation on a bit. -/
def lastOn (operations : List Operation) (bit : Nat) : Option Operation :=
  (operations.filter (·.target = bit)).getLast?

/-- The bit after the operations, given what it was before. -/
def valueAfter (operations : List Operation) (bit : Nat) (initially : Bool) : Bool :=
  match lastOn operations bit with
  | some operation => operation.value
  | none => initially

theorem valueAfter_cons (operation : Operation) (operations : List Operation) (bit : Nat)
    (initially : Bool) :
    valueAfter (operation :: operations) bit initially =
      valueAfter operations bit
        (if bit = operation.target then operation.value else initially) := by
  rw [valueAfter, valueAfter, lastOn, lastOn]
  by_cases same : bit = operation.target
  · rw [List.filter_cons_of_pos (by simp [same]), List.getLast?_cons, if_pos same]
    cases (operations.filter (·.target = bit)).getLast? <;> rfl
  · rw [List.filter_cons_of_neg (by simp [Ne.symm same]), if_neg same]

theorem valueAfter_eq_true_iff (operations : List Operation) (bit : Nat) (initially : Bool) :
    valueAfter operations bit initially = true ↔
      lastOn operations bit = some (.set bit) ∨
        lastOn operations bit = none ∧ initially = true := by
  rw [valueAfter]
  cases found : lastOn operations bit with
  | none => simp
  | some operation =>
      have present := List.mem_of_getLast? found
      have isTarget := of_decide_eq_true (List.mem_filter.mp present).2
      cases operation with
      | set other => simpa [value, target] using isTarget
      | reset other => simp [value]

/-- The operations in a row, on bits that lie in the array. -/
theorem run_ensures (operations : List Operation) (fits : 8 * words ≤ 2 ^ 64)
    (inside : ∀ operation ∈ operations, operation.target < 64 * words) :
    Ensures (run array operations) before fun _ after =>
      (∀ bit < 64 * words, bitAt after array bit =
        valueAfter operations bit (bitAt before array bit)) ∧
      ∃ writes ⊆ region array (8 * words),
        before.Accesses after (region array (8 * words)) writes := by
  induction operations generalizing before with
  | nil =>
      refine .pure ⟨fun _ _ => rfl, ∅, Set.empty_subset _, ?_⟩
      exact (Memory.Accesses.refl before).weaken (Set.empty_subset _) rfl
  | cons operation operations inductionHypothesis =>
      rw [List.forall_mem_cons] at inside
      have touched := Set.singleton_subset_iff.mpr (byteOf_mem array fits inside.1)
      refine .bind ((operation.code_ensures (by omega)).mono ?_)
      rintro _ middle ⟨changed, accesses⟩
      refine (inductionHypothesis inside.2).mono ?_
      rintro _ after ⟨rest, writes, subset, others⟩
      refine ⟨fun bit below => ?_, _, Set.union_subset touched subset,
        (accesses.trans others).weaken (Set.union_subset touched (le_refl _)) rfl⟩
      rw [rest bit below, changed bit (by omega), valueAfter_cons]

end Operation

/-! ## The scan -/

/-- The bits of a word are those of its bytes. -/
theorem loadWord_ensures (address : BitVec 64) :
    Ensures (loadWord address) before fun result after =>
      (∀ bit < 64, result.getLsbD bit =
        (before.cells (address + BitVec.ofNat 64 (bit / 8))).getLsbD (bit % 8)) ∧
      before.Accesses after (region address 8) ∅ := by
  refine .bind (.load (.bind (.load (.bind (.load (.bind (.load (.bind (.load (.bind (.load
    (.bind (.load (.bind (.load (.pure ⟨fun bit below => ?_, ?_⟩))))))))))))))))
  · simp only [Memory.load_cells, BitVec.getLsbD_append]
    have byte : bit / 8 = 0 ∨ bit / 8 = 1 ∨ bit / 8 = 2 ∨ bit / 8 = 3 ∨ bit / 8 = 4 ∨
        bit / 8 = 5 ∨ bit / 8 = 6 ∨ bit / 8 = 7 := by omega
    rcases byte with isByte | isByte | isByte | isByte | isByte | isByte | isByte | isByte
    all_goals
      rw [isByte]
      simp (disch := omega) only [if_pos, if_neg]
      refine congrArg₂ BitVec.getLsbD (congrArg before.cells ?_) (by omega)
      bv_omega
  · refine ((((((((((Memory.Accesses.refl before).load _).load _).load _).load _).load _).load
      _).load _).load _)).weaken ?_ rfl
    intro other present
    simp only [Set.mem_insert_iff, Set.mem_empty_iff_false, or_false] at present
    rw [mem_region]
    bv_omega

/-- The bits of an array that are set. -/
def bitsSet (memory : Memory (BitVec 64) (BitVec 8)) (array : BitVec 64) (words : Nat) : Set Nat :=
  {bit | bit < 64 * words ∧ IsSet memory array bit}

theorem mem_bitsSet :
    bit ∈ bitsSet before array words ↔ bit < 64 * words ∧ bitAt before array bit = true :=
  and_congr_right fun _ => isSet_iff

section Scan

variable {count : Nat}

theorem slt_ofNat (isInt : words < 2 ^ 31) (le : count ≤ words) :
    (BitVec.ofNat 32 count).slt (BitVec.ofNat 32 words) = true ↔ count < words := by
  have toInt : ∀ n < 2 ^ 31, (BitVec.ofNat 32 n).toInt = n := by
    intro n small
    have toNat : (BitVec.ofNat 32 n).toNat = n := by
      rw [BitVec.toNat_ofNat]
      omega
    rw [BitVec.toInt_eq_toNat_of_lt (by omega), toNat]
  rw [BitVec.slt_iff_toInt_lt, toInt count (by omega), toInt words isInt]
  exact Int.ofNat_lt

/-- The address `&mask[i]`. -/
theorem wordAddress (array : BitVec 64) (small : count < 2 ^ 31) :
    array + 8 * (BitVec.ofNat 32 count).signExtend 64 = array + BitVec.ofNat 64 (8 * count) := by
  have notNegative : (BitVec.ofNat 32 count).msb = false := by
    rw [BitVec.msb_eq_false_iff_two_mul_lt, BitVec.toNat_ofNat]
    omega
  rw [BitVec.signExtend_eq_setWidth_of_msb_false notNegative]
  bv_omega

/-- Reading a word reads 64 bits. -/
theorem loadWord_bitAt (fits : 8 * words ≤ 2 ^ 64) (inside : count < words)
    {memory : Memory (BitVec 64) (BitVec 8)} {reads : Set (BitVec 64)}
    (accesses : before.Accesses memory reads ∅) :
    Ensures (loadWord (array + BitVec.ofNat 64 (8 * count))) memory fun result after =>
      (∀ bit < 64, result.getLsbD bit = bitAt before array (64 * count + bit)) ∧
      before.Accesses after (reads ∪ region array (8 * words)) ∅ := by
  refine (loadWord_ensures _).mono ?_
  rintro result after ⟨bits, loads⟩
  refine ⟨fun bit below => ?_, (accesses.trans loads).weaken ?_ (Set.empty_union _)⟩
  · have address : array + BitVec.ofNat 64 (8 * count) + BitVec.ofNat 64 (bit / 8) =
        byteOf array (64 * count + bit) := by
      rw [byteOf, add_assoc, ← BitVec.ofNat_add]
      congr 2
      omega
    have position : bit % 8 = (64 * count + bit) % 8 := by omega
    rw [bits bit below, accesses.cells_eq, address, position]
    rfl
  · refine Set.union_subset_union_right _ fun other present => ?_
    rw [mem_region] at present ⊢
    bv_omega

/-- The lowest bit of the first word that is not zero is the lowest of the array. -/
theorem isLeast_bitsSet {word : BitVec 64} (inside : count < words)
    (clear : ∀ bit < 64 * count, bitAt before array bit = false)
    (bits : ∀ bit < 64, word.getLsbD bit = bitAt before array (64 * count + bit))
    (notZero : word ≠ 0) :
    IsLeast (bitsSet before array words) (64 * count + word.ctz.toNat) := by
  have inWord : word.ctz.toNat < 64 := by
    have below := BitVec.ctz_lt_iff_ne_zero.mpr notZero
    simpa [BitVec.lt_def] using below
  refine ⟨mem_bitsSet.mpr ⟨by omega, ?_⟩, fun bit present => ?_⟩
  · rw [← bits _ inWord]
    exact BitVec.getLsbD_true_ctz_of_ne_zero notZero
  · by_contra below
    obtain ⟨-, isSet⟩ := mem_bitsSet.mp present
    by_cases earlier : bit < 64 * count
    · rw [clear bit earlier] at isSet
      cases isSet
    · obtain ⟨offset, rfl⟩ := Nat.exists_eq_add_of_le (Nat.le_of_not_lt earlier)
      rw [← bits offset (by omega), BitVec.getLsbD_false_of_lt_ctz (by omega)] at isSet
      cases isSet

/-- A word that is zero has no bits. -/
theorem clear_succ (clear : ∀ bit < 64 * count, bitAt before array bit = false)
    (bits : ∀ bit < 64, (0 : BitVec 64).getLsbD bit = bitAt before array (64 * count + bit)) :
    ∀ bit < 64 * (count + 1), bitAt before array bit = false := by
  intro bit below
  by_cases earlier : bit < 64 * count
  · exact clear bit earlier
  · obtain ⟨offset, rfl⟩ := Nat.exists_eq_add_of_le (Nat.le_of_not_lt earlier)
    rw [← bits offset (by omega)]
    exact BitVec.getLsbD_zero

theorem findMaskBsfRound_keeps (array : BitVec 64) (isInt : words < 2 ^ 31) :
    Keeps (findMaskBsfRound array (BitVec.ofNat 32 words)) words
      (fun count i memory => i = BitVec.ofNat 32 count ∧ count ≤ words ∧
        (∀ bit < 64 * count, bitAt before array bit = false) ∧
        before.Accesses memory (region array (8 * words)) ∅)
      (fun result after =>
        (∀ bit, IsLeast (bitsSet before array words) bit → result = BitVec.ofNat 32 bit) ∧
        (bitsSet before array words = ∅ → result = -1) ∧
        before.Accesses after (region array (8 * words)) ∅) := by
  rintro count i memory ⟨rfl, le, clear, accesses⟩
  simp only [findMaskBsfRound, slt_ofNat isInt le]
  split
  · rename_i more
    rw [wordAddress array (by omega)]
    refine .bind ((loadWord_bitAt (by omega) more accesses).mono ?_)
    rintro word middle ⟨bits, loads⟩
    rw [Set.union_self] at loads
    split
    · rename_i notZero
      refine .bind ((loadWord_bitAt (by omega) more loads).mono ?_)
      rintro again last ⟨sameBits, loads⟩
      rw [Set.union_self] at loads
      obtain rfl : again = word :=
        BitVec.eq_of_getLsbD_eq fun bit below => (sameBits bit below).trans (bits bit below).symm
      have least := isLeast_bitsSet more clear bits notZero
      refine .bind (.defined (if_neg notZero)
        (.pure ⟨fun bit isFirst => ?_, fun empty => ?_, loads⟩))
      · rw [isFirst.unique least, BitVec.ofNat_add, BitVec.ofNat_mul, BitVec.mul_comm,
          BitVec.ofNat_toNat]
        rfl
      · exact absurd least.1 (empty ▸ Set.notMem_empty _)
    · rename_i isZero
      obtain rfl := not_not.mp isZero
      exact .pure ⟨more, (BitVec.ofNat_add count 1).symm, more, clear_succ clear bits, loads⟩
  · rename_i ended
    have empty : bitsSet before array words = ∅ := by
      refine Set.eq_empty_of_forall_notMem fun bit present => ?_
      obtain ⟨below, isSet⟩ := mem_bitsSet.mp present
      rw [clear bit (by omega)] at isSet
      cases isSet
    refine .pure ⟨fun bit isFirst => ?_, fun _ => rfl, accesses⟩
    exact absurd isFirst.1 (empty ▸ Set.notMem_empty _)

/-- The scan leaves with the number of the lowest bit, as an `int`. -/
theorem findMaskBsf_ensures (isInt : words < 2 ^ 31) :
    Ensures (findMaskBsf array (BitVec.ofNat 32 words)) before fun result after =>
      (∀ bit, IsLeast (bitsSet before array words) bit → result = BitVec.ofNat 32 bit) ∧
      (bitsSet before array words = ∅ → result = -1) ∧
      before.Accesses after (region array (8 * words)) ∅ :=
  (findMaskBsfRound_keeps array isInt).ensures ⟨rfl, Nat.zero_le _, forall_lt_zero,
    (Memory.Accesses.refl before).weaken (Set.empty_subset _) rfl⟩

end Scan

/-! ## The array as a list of words -/

/-- The bits in memory are those of a list of words. -/
def Represents (memory : Memory (BitVec 64) (BitVec 8)) (array : BitVec 64)
    (list : List (BitVec 64)) : Prop :=
  ∀ bit < 64 * list.length, bitAt memory array bit = BitArray.get list bit

namespace Represents

variable {list : List (BitVec 64)}

/-- The operation on the list. -/
def apply (list : List (BitVec 64)) : Operation → List (BitVec 64)
  | .set bit => BitArray.set list bit
  | .reset bit => BitArray.reset list bit

theorem apply_length (list : List (BitVec 64)) (operation : Operation) :
    (apply list operation).length = list.length := by
  cases operation with
  | set bit => exact BitArray.set_length list bit
  | reset bit => exact BitArray.reset_length list bit

theorem get_apply {operation : Operation} (inside : operation.target < 64 * list.length)
    (other : Nat) : BitArray.get (apply list operation) other =
      if other = operation.target then operation.value else BitArray.get list other := by
  cases operation with
  | set bit =>
      have below : bit < 64 * list.length := inside
      rw [apply, BitArray.get_set below]
      by_cases same : other = bit <;> simp [same, Operation.target, Operation.value]
  | reset bit =>
      have below : bit < 64 * list.length := inside
      rw [apply, BitArray.get_reset below]
      by_cases same : other = bit <;> simp [same, Operation.target, Operation.value]

/-- The macros in memory do what the ones on lists of words do. -/
theorem code_ensures (represents : Represents before array list)
    (fits : 8 * list.length ≤ 2 ^ 64) {operation : Operation}
    (inside : operation.target < 64 * list.length) :
    Ensures (operation.code array) before fun _ after =>
      Represents after array (apply list operation) := by
  refine (operation.code_ensures (by omega)).mono ?_
  rintro _ after ⟨changed, -⟩ bit below
  rw [apply_length] at below
  rw [changed bit (by omega), get_apply inside, represents bit below]

theorem bitArrayGet_ensures (represents : Represents before array list)
    (inside : bit < 64 * list.length) :
    Ensures (bitArrayGet array bit) before fun result _ => result = BitArray.get list bit :=
  (Bytes.bitArrayGet_ensures array bit).mono fun _ _ holds => holds.1.trans (represents bit inside)

/-- So does the scan. -/
theorem findMaskBsf_ensures (represents : Represents before array list)
    (isInt : list.length < 2 ^ 31) :
    Ensures (findMaskBsf array (BitVec.ofNat 32 list.length)) before fun result _ =>
      result = match BitArray.findMaskBsf list with
        | some bit => BitVec.ofNat 32 bit
        | none => -1 := by
  have isSet : ∀ bit, bit ∈ bitsSet before array list.length ↔ BitArray.get list bit = true := by
    intro bit
    rw [mem_bitsSet]
    constructor
    · rintro ⟨below, isSet⟩
      exact (represents bit below).symm.trans isSet
    · intro isSet
      have below := BitArray.lt_of_get isSet
      exact ⟨below, (represents bit below).trans isSet⟩
  refine (Bytes.findMaskBsf_ensures isInt).mono ?_
  rintro result after ⟨first, none, -⟩
  cases found : BitArray.findMaskBsf list with
  | none =>
      refine none (Set.eq_empty_of_forall_notMem fun bit present => ?_)
      rw [isSet, (BitArray.findMaskBsf_eq_none_iff list).mp found bit] at present
      cases present
  | some bit =>
      obtain ⟨here, lower⟩ := (BitArray.findMaskBsf_eq_some_iff list bit).mp found
      refine first bit ⟨(isSet bit).mpr here, fun other present => ?_⟩
      by_contra below
      rw [isSet, lower other (Nat.lt_of_not_le below)] at present
      cases present

end Represents

/-! ## Correctness -/

/-- After any operations, a bit is set if the last operation on it was to set it, or there was
none and it was set before.  The scan returns, and finds the lowest bit if the number of that is
an `int`. -/
theorem findMaskBsf_agrees (memory : Memory (BitVec 64) (BitVec 8)) (array : BitVec 64)
    {words : Nat} (fits : 8 * words ≤ 2 ^ 64) (operations : List Operation)
    (inside : ∀ operation ∈ operations, operation.target < 64 * words) :
    Ensures (Operation.run array operations) memory fun _ after =>
      (∀ bit < 64 * words, IsSet after array bit ↔
        Operation.lastOn operations bit = some (.set bit) ∨
          Operation.lastOn operations bit = none ∧ IsSet memory array bit) ∧
      (∀ address ∉ region array (8 * words), after.cells address = memory.cells address) ∧
      (words < 2 ^ 31 → Ensures (findMaskBsf array (BitVec.ofNat 32 words)) after fun result _ =>
        (∀ bit, IsLeast (bitsSet after array words) bit → bit < 2 ^ 31) →
          (∀ bit, IsLeast (bitsSet after array words) bit → result.toInt = bit) ∧
          (result = -1 ↔ bitsSet after array words = ∅)) := by
  refine (Operation.run_ensures operations fits inside).mono ?_
  rintro _ after ⟨changed, writes, subset, accesses⟩
  refine ⟨fun bit below => ?_, fun address outside => ?_, fun isInt => ?_⟩
  · rw [isSet_iff, isSet_iff, changed bit below, Operation.valueAfter_eq_true_iff]
  · exact accesses.kept address fun present => outside (subset present)
  · refine (findMaskBsf_ensures isInt).mono ?_
    rintro result _ ⟨first, none, -⟩ isSmall
    have number : ∀ bit, IsLeast (bitsSet after array words) bit → result.toInt = bit := by
      intro bit least
      have small := isSmall bit least
      have toNat : (BitVec.ofNat 32 bit).toNat = bit := by
        rw [BitVec.toNat_ofNat]
        omega
      rw [first bit least, BitVec.toInt_eq_toNat_of_lt (by omega), toNat]
    refine ⟨number, fun isNone => ?_, none⟩
    by_contra notEmpty
    classical
    have some : ∃ bit, bit ∈ bitsSet after array words := Set.nonempty_iff_ne_empty.mpr notEmpty
    have isBit := number (Nat.find some) ⟨Nat.find_spec some, fun _ => Nat.find_min' some⟩
    have negative : (-1 : BitVec 32).toInt < 0 := by decide
    rw [isNone] at isBit
    omega

/-- All bytes are zero. -/
def zeroed : Memory (BitVec 64) (BitVec 8) where
  cells _ := 0
  loaded := []
  stored := []

/-- Two words with bits in different bytes, one of which is reset again. -/
theorem findMaskBsf_agrees_two :
    Ensures (Operation.run 0x1000 [.set 5, .set 70, .reset 5]) zeroed fun _ after =>
      (∀ bit < 64 * 2, IsSet after 0x1000 bit ↔
        Operation.lastOn [.set 5, .set 70, .reset 5] bit = some (.set bit) ∨
          Operation.lastOn [.set 5, .set 70, .reset 5] bit = none ∧ IsSet zeroed 0x1000 bit) ∧
      (∀ address ∉ region 0x1000 (8 * 2), after.cells address = zeroed.cells address) ∧
      (2 < 2 ^ 31 → Ensures (findMaskBsf 0x1000 (BitVec.ofNat 32 2)) after fun result _ =>
        (∀ bit, IsLeast (bitsSet after 0x1000 2) bit → bit < 2 ^ 31) →
          (∀ bit, IsLeast (bitsSet after 0x1000 2) bit → result.toInt = bit) ∧
          (result = -1 ↔ bitsSet after 0x1000 2 = ∅)) :=
  findMaskBsf_agrees zeroed 0x1000 (by decide) _ (by decide)

/-- In an array of one word more than an `int` can number the bits of, the scan does not find
the only bit that is set. -/
theorem findMaskBsf_disagrees :
    ¬ Ensures (Operation.run 0x1000 [.set (2 ^ 31)]) zeroed fun _ after =>
      Ensures (findMaskBsf 0x1000 (BitVec.ofNat 32 (2 ^ 25 + 1))) after fun result _ =>
        ∀ bit, IsLeast (bitsSet after 0x1000 (2 ^ 25 + 1)) bit → result.toInt = bit := by
  rintro ⟨_, after, returns, result, last, scans, finds⟩
  have fits : 8 * (2 ^ 25 + 1) ≤ 2 ^ 64 := by decide
  have inside : ∀ operation ∈ [Operation.set (2 ^ 31)],
      operation.target < 64 * (2 ^ 25 + 1) := by decide
  have changed := ((Operation.run_ensures _ fits inside).of_returns returns).1
  have least : IsLeast (bitsSet after 0x1000 (2 ^ 25 + 1)) (2 ^ 31) := by
    refine ⟨mem_bitsSet.mpr ⟨by decide, ?_⟩, fun bit present => ?_⟩
    · rw [changed _ (by decide), Operation.valueAfter_eq_true_iff]
      exact .inl rfl
    · obtain ⟨below, isSet⟩ := mem_bitsSet.mp present
      rw [changed bit below, Operation.valueAfter_cons] at isSet
      split at isSet
      · rename_i same
        exact le_of_eq same.symm
      · have clear : bitAt zeroed 0x1000 bit = false := BitVec.getLsbD_zero
        exact absurd (clear.symm.trans isSet) (by decide)
  have isBit := finds _ least
  rw [((findMaskBsf_ensures (by decide)).of_returns scans).1 _ least] at isBit
  exact absurd isBit (by decide)

end Bytes
end ToyKernel
