import ToyKernel.CpuInfo.Defs
import ToyKernel.Pci.Fields

/-!
# When the topology can be used

`get_thread_core_bits` combines counts that the processor reports independently of each
other.  The widths are usable exactly if these agree: the level above the threads of a core
has at least as many bits as the threads, or the logical processors of a chip are at least
two and suffice for the bits of its cores.
-/

namespace ToyKernel
namespace CpuInfo

open Pci

/-- The field between two bits of a word, as a number. -/
def field (word : BitVec 32) (low high : Nat) : Nat :=
  (fieldBits word low high).toNat

theorem field_lt (word : BitVec 32) {low high : Nat} (ordered : low ≤ high)
    (top : high ≤ 31) : field word low high < 2 ^ (high - low + 1) :=
  fieldBits_toNat_lt word ordered top

/-- Short fields are not negative as `int`. -/
theorem toInt_fieldBits (word : BitVec 32) {low high : Nat} (ordered : low ≤ high)
    (top : high ≤ 31) (short : high - low + 1 ≤ 31) :
    (fieldBits word low high).toInt = field word low high := by
  apply BitVec.toInt_eq_toNat_of_lt
  have below := fieldBits_toNat_lt word ordered top
  have : 2 ^ (high - low + 1) ≤ 2 ^ 31 := Nat.pow_le_pow_right (by decide) short
  omega

/-- The logical processors of a chip. -/
def logicalProcessors (cpuid : Cpuid) : Nat :=
  field (cpuid 1 0).ebx 16 23

/-- The flag for them. -/
def multithreading (cpuid : Cpuid) : Bool :=
  (cpuid 1 0).edx &&& 1 <<< 28 ≠ 0

theorem getChipMultithreading_eq (cpuid : Cpuid) :
    getChipMultithreading cpuid =
      some (multithreading cpuid, (logicalProcessors cpuid : Int)) := by
  have count : intBits (cpuid 1 0).ebx (· + 16) (· - 23) = some (fieldBits _ 16 23) :=
    intBits_eq _ (by decide) (by decide)
  rw [logicalProcessors, ← toInt_fieldBits _ (by decide) (by decide) (by decide)]
  simp only [getChipMultithreading, count, Option.bind_eq_bind, Option.bind_some]
  rfl

/-- The core bits of a chip number its cores from zero to the greatest index. -/
theorem coreIndexBits_eq {coreIndexMax : Nat} (small : coreIndexMax < 2 ^ 32) :
    coreIndexBits coreIndexMax = some (coreIndexMax.size : Int) := by
  have value : (BitVec.ofInt 64 coreIndexMax).toNat = coreIndexMax := by
    rw [BitVec.ofInt_natCast, BitVec.toNat_ofNat]
    omega
  rw [coreIndexBits]
  split
  next notZero =>
      have notNone : BitVec.ofInt 64 coreIndexMax ≠ 0 := by
        intro isZero
        rw [isZero] at value
        exact notZero (by rw [← value]; rfl)
      rw [bsrq_of_ne_zero notNone, value]
      simp
  next isZero =>
      obtain rfl : coreIndexMax = 0 := by omega
      simp

theorem coreIndexBits_field (word : BitVec 32) {low high : Nat} (ordered : low ≤ high)
    (top : high ≤ 31) (short : high - low + 1 ≤ 31) :
    coreIndexBits (fieldBits word low high).toInt = some ((field word low high).size : Int) := by
  rw [toInt_fieldBits word ordered top short]
  apply coreIndexBits_eq
  have below := field_lt word ordered top
  have : 2 ^ (high - low + 1) ≤ 2 ^ 31 := Nat.pow_le_pow_right (by decide) short
  omega

/-- The bits that number the logical processors of a chip; the position of the highest bit
is undefined for one of them, and the count before none has all 64 bits. -/
theorem chipThreadBits_eq {count : Nat} (small : count < 2 ^ 32) :
    chipThreadBits count =
      if count = 0 then some 64 else if count = 1 then none
      else some (Nat.clog 2 count : Int) := by
  rw [chipThreadBits]
  by_cases none : count = 0
  · rw [if_pos none, none]
    decide
  by_cases one : count = 1
  · rw [if_neg none, if_pos one, one]
    rfl
  rw [if_neg none, if_neg one]
  have value : (BitVec.ofInt 64 ((count : Int) - 1)).toNat = count - 1 := by
    have less : (count : Int) - 1 = (count - 1 : Nat) := by omega
    rw [less, BitVec.ofInt_natCast, BitVec.toNat_ofNat]
    omega
  have notZero : BitVec.ofInt 64 ((count : Int) - 1) ≠ 0 := by
    intro isZero
    rw [isZero] at value
    have : count - 1 = 0 := value.symm
    omega
  rw [bsrq_of_ne_zero notZero, value, BitLength.size_pred (by omega)]
  simp

/-- Widths with which the shifts of `fill_cpu_descs` are defined. -/
structure Bits.Usable (bits : Bits) : Prop where
  thread : 0 ≤ bits.thread
  core : 0 ≤ bits.core
  sum : bits.thread + bits.core ≤ 31

/-- A split of the bits for the logical processors is usable exactly if there are at least
two of them and no part is negative. -/
theorem chipThreadBits_usable_iff {count : Nat} (few : count < 2 ^ 8) {split : Int → Bits}
    (whole : ∀ chip, (split chip).thread + (split chip).core = chip) :
    (∃ bits, ((chipThreadBits count).bind fun chip => some (split chip)) = some bits ∧
        bits.Usable ∧ (1 ≤ count → bits.thread + bits.core = Nat.clog 2 count)) ↔
      2 ≤ count ∧ 0 ≤ (split (Nat.clog 2 count)).thread ∧
        0 ≤ (split (Nat.clog 2 count)).core := by
  rw [chipThreadBits_eq (by omega)]
  by_cases none : count = 0
  · simp only [none, if_true, Option.bind_some, Option.some.injEq]
    constructor
    · rintro ⟨_, rfl, usable, -⟩
      have := usable.sum
      rw [whole] at this
      omega
    · omega
  by_cases one : count = 1
  · simp [one]
  rw [if_neg none, if_neg one, Option.bind_some]
  have short : Nat.clog 2 count ≤ 8 := (Nat.clog_le_iff_le_pow Nat.one_lt_two).mpr few.le
  constructor
  · rintro ⟨bits, found, usable, -⟩
    obtain rfl := Option.some.inj found
    exact ⟨by omega, usable.thread, usable.core⟩
  · rintro ⟨-, thread, core⟩
    refine ⟨_, rfl, ⟨thread, core, ?_⟩, fun _ => whole _⟩
    rw [whole]
    omega

/-- The core bits on the leaf 4 of Intel's processors. -/
def intelCoreBits (cpuid : Cpuid) : Nat :=
  (field (cpuid 0x4 0).eax 26 31).size

/-- The core bits on the leaf `0x80000008` of AMD's processors. -/
def amdCoreBits (cpuid : Cpuid) : Nat :=
  let ecx := (cpuid 0x80000008 0).ecx
  if field ecx 12 15 = 0 then (field ecx 0 7).size else field ecx 12 15

section Paths

variable {cpuid : Cpuid} {funcMax : BitVec 32} {count : Nat}

/-- On leaf `0xB` the widths of two levels are given. -/
theorem intel_of_levels (leaf : funcMax ≥ 0xB) :
    getThreadCoreBitsIntel cpuid funcMax count =
      some ⟨field (cpuid 0xB 0).eax 0 4,
        (field (cpuid 0xB 1).eax 0 4 : Int) - field (cpuid 0xB 0).eax 0 4⟩ := by
  have level (subleaf : BitVec 32) : intBits (cpuid 0xB subleaf).eax (· + 0) (· - 4) =
      some (fieldBits _ 0 4) :=
    intBits_eq _ (by decide) (by decide)
  rw [getThreadCoreBitsIntel, if_pos leaf]
  simp only [level, Option.bind_eq_bind, Option.bind_some]
  simp only [toInt_fieldBits _ (show 0 ≤ 4 by decide) (show 4 ≤ 31 by decide)
    (show 4 - 0 + 1 ≤ 31 by decide)]

/-- On leaf 4 the threads of a core have the bits that the cores leave. -/
theorem intel_of_cores (noLevels : ¬ funcMax ≥ 0xB) (leaf : funcMax ≥ 0x4) :
    getThreadCoreBitsIntel cpuid funcMax count =
      (chipThreadBits count).bind fun chip =>
        some ⟨chip - intelCoreBits cpuid, intelCoreBits cpuid⟩ := by
  have cores : intBits (cpuid 0x4 0).eax (· + 26) (· - 31) = some (fieldBits _ 26 31) :=
    intBits_eq _ (by decide) (by decide)
  have bits := coreIndexBits_field (cpuid 0x4 0).eax (show 26 ≤ 31 by decide) le_rfl
    (by decide)
  rw [getThreadCoreBitsIntel, if_neg noLevels, if_pos leaf]
  simp only [cores, bits, Option.bind_eq_bind, Option.bind_some]
  rfl

theorem intel_of_none (noLevels : ¬ funcMax ≥ 0xB) (noCores : ¬ funcMax ≥ 0x4) :
    getThreadCoreBitsIntel cpuid funcMax count =
      (chipThreadBits count).bind fun chip => some ⟨chip, 0⟩ := by
  rw [getThreadCoreBitsIntel, if_neg noLevels, if_neg noCores]
  rfl

theorem amd_of_cores (leaf : funcMax ≥ 0x80000008) :
    getThreadCoreBitsAmd cpuid funcMax count =
      (chipThreadBits count).bind fun chip =>
        some ⟨chip - amdCoreBits cpuid, amdCoreBits cpuid⟩ := by
  generalize isEcx : (cpuid 0x80000008 0).ecx = ecx
  have given : intBits ecx (· + 12) (· - 15) = some (fieldBits _ 12 15) :=
    intBits_eq _ (by decide) (by decide)
  have cores : intBits ecx (· + 0) (· - 7) = some (fieldBits _ 0 7) :=
    intBits_eq _ (by decide) (by decide)
  have bits := coreIndexBits_field ecx (show 0 ≤ 7 by decide) (by decide) (by decide)
  have value := toInt_fieldBits ecx (show 12 ≤ 15 by decide) (by decide) (by decide)
  rw [getThreadCoreBitsAmd, if_pos leaf, amdCoreBits, isEcx]
  simp only [given, value, Option.bind_eq_bind, Option.bind_some]
  by_cases none : field ecx 12 15 = 0
  · simp only [none, Nat.cast_zero, ↓reduceIte, cores, bits, Option.bind_some]
  · simp [none]

theorem amd_of_none (noCores : ¬ funcMax ≥ 0x80000008) :
    getThreadCoreBitsAmd cpuid funcMax count =
      (chipThreadBits count).bind fun chip => some ⟨0, chip⟩ := by
  rw [getThreadCoreBitsAmd, if_neg noCores]
  rfl

end Paths

/-- The widths come from the number of logical processors. -/
def ReliesOnCount (cpuid : Cpuid) : Prop :=
  multithreading cpuid = true ∧
    (getCpuVendor cpuid = .intel ∧ (cpuid 0 0).eax < 0xB ∨ getCpuVendor cpuid = .amd)

/-- `get_thread_core_bits` uses no undefined result and yields usable widths, which have
together as many bits as number the logical processors of a chip. -/
def Usable (cpuid : Cpuid) : Prop :=
  ∃ bits, getThreadCoreBits cpuid = some bits ∧ bits.Usable ∧
    (ReliesOnCount cpuid → 1 ≤ logicalProcessors cpuid →
      bits.thread + bits.core = Nat.clog 2 (logicalProcessors cpuid))

/-- A chip has at least two logical processors, and enough of them for the bits of its
cores. -/
def Suffices (cpuid : Cpuid) (coreBits : Nat) : Prop :=
  2 ≤ logicalProcessors cpuid ∧ coreBits ≤ Nat.clog 2 (logicalProcessors cpuid)

/-- The counts that the processor reports agree. -/
def Consistent (cpuid : Cpuid) : Prop :=
  multithreading cpuid = true →
    match getCpuVendor cpuid with
    | .unknown => True
    | .intel =>
        if (cpuid 0 0).eax ≥ 0xB then
          field (cpuid 0xB 0).eax 0 4 ≤ field (cpuid 0xB 1).eax 0 4
        else Suffices cpuid (if (cpuid 0 0).eax ≥ 0x4 then intelCoreBits cpuid else 0)
    | .amd =>
        Suffices cpuid
          (if (cpuid 0x80000000 0).eax ≥ 0x80000008 then amdCoreBits cpuid else 0)

theorem logicalProcessors_lt (cpuid : Cpuid) : logicalProcessors cpuid < 2 ^ 8 :=
  field_lt _ (by decide) (by decide)

theorem getThreadCoreBits_of_multithreading {cpuid : Cpuid}
    (supports : multithreading cpuid = true) :
    getThreadCoreBits cpuid =
      match getCpuVendor cpuid with
      | .unknown => some ⟨0, 0⟩
      | .intel => getThreadCoreBitsIntel cpuid (cpuid 0 0).eax (logicalProcessors cpuid)
      | .amd => getThreadCoreBitsAmd cpuid (cpuid 0x80000000 0).eax
          (logicalProcessors cpuid) := by
  rw [getThreadCoreBits]
  cases getCpuVendor cpuid <;> simp [getChipMultithreading_eq, supports]

theorem getThreadCoreBits_of_not_multithreading {cpuid : Cpuid}
    (not : multithreading cpuid = false) : getThreadCoreBits cpuid = some ⟨0, 0⟩ := by
  rw [getThreadCoreBits]
  cases getCpuVendor cpuid <;> simp [getChipMultithreading_eq, not]

/-- Without the leaves the widths are zero. -/
theorem usable_of_zero {cpuid : Cpuid} (zero : getThreadCoreBits cpuid = some ⟨0, 0⟩)
    (free : ¬ ReliesOnCount cpuid) : Usable cpuid :=
  ⟨_, zero, ⟨le_rfl, le_rfl, by decide⟩, fun relies => absurd relies free⟩

/-- The widths of two levels are usable exactly if the second level has as many bits as the
first one. -/
theorem usable_of_levels_iff {cpuid : Cpuid} {first second : BitVec 32}
    (levels : (cpuid 0 0).eax ≥ 0xB) (vendor : getCpuVendor cpuid = .intel)
    (found : getThreadCoreBits cpuid =
      some ⟨field first 0 4, (field second 0 4 : Int) - field first 0 4⟩) :
    Usable cpuid ↔ field first 0 4 ≤ field second 0 4 := by
  have free : ¬ ReliesOnCount cpuid := by
    rintro ⟨-, ⟨-, few⟩ | isAmd⟩
    · exact BitVec.not_lt.mpr levels few
    · cases vendor.symm.trans isAmd
  have short : field second 0 4 < 2 ^ 5 := field_lt _ (by decide) (by decide)
  constructor
  · rintro ⟨bits, same, usable, -⟩
    obtain rfl := Option.some.inj (found.symm.trans same)
    have := usable.core
    simp only at this
    omega
  · intro ordered
    refine ⟨_, found, ⟨?_, ?_, ?_⟩, fun relies => absurd relies free⟩ <;> simp only <;> omega

/-- Widths that divide the bits for the logical processors are usable exactly if there are
enough of them. -/
theorem usable_of_chip_iff {cpuid : Cpuid} {coreBits : Nat} {split : Int → Bits}
    (relies : ReliesOnCount cpuid)
    (found : getThreadCoreBits cpuid =
      (chipThreadBits (logicalProcessors cpuid)).bind fun chip => some (split chip))
    (whole : ∀ chip, (split chip).thread + (split chip).core = chip)
    (parts : ∀ chip : Nat, 0 ≤ (split chip).thread ∧ 0 ≤ (split chip).core ↔
      coreBits ≤ chip) :
    Usable cpuid ↔ Suffices cpuid coreBits := by
  have usable := chipThreadBits_usable_iff (logicalProcessors_lt cpuid) whole
  rw [parts] at usable
  rw [Usable, found, Suffices, ← usable]
  simp [relies]

/-- The widths are usable if and only if the reported counts agree. -/
theorem usable_iff_consistent (cpuid : Cpuid) : Usable cpuid ↔ Consistent cpuid := by
  cases supports : multithreading cpuid with
  | false =>
      refine iff_of_true (usable_of_zero (getThreadCoreBits_of_not_multithreading supports) ?_)
        fun also => ?_
      · exact fun relies => Bool.noConfusion (supports.symm.trans relies.1)
      · cases supports.symm.trans also
  | true =>
      have found := getThreadCoreBits_of_multithreading supports
      simp only [Consistent, supports, true_implies]
      cases vendor : getCpuVendor cpuid with
      | unknown =>
          rw [vendor] at found
          refine iff_of_true (usable_of_zero found ?_) trivial
          rintro ⟨-, ⟨isIntel, -⟩ | isAmd⟩
          · cases vendor.symm.trans isIntel
          · cases vendor.symm.trans isAmd
      | intel =>
          simp only [vendor] at found ⊢
          by_cases levels : (cpuid 0 0).eax ≥ 0xB
          · rw [if_pos levels]
            rw [intel_of_levels levels] at found
            exact usable_of_levels_iff levels vendor found
          have relies : ReliesOnCount cpuid :=
            ⟨supports, .inl ⟨vendor, BitVec.not_le.mp levels⟩⟩
          rw [if_neg levels]
          by_cases leaf : (cpuid 0 0).eax ≥ 0x4
          · rw [if_pos leaf]
            rw [intel_of_cores levels leaf] at found
            exact usable_of_chip_iff relies found (fun chip => Int.sub_add_cancel ..)
              fun chip => by simp only; omega
          · rw [if_neg leaf]
            rw [intel_of_none levels leaf] at found
            exact usable_of_chip_iff relies found (fun chip => Int.add_zero _)
              fun chip => by simp
      | amd =>
          have relies : ReliesOnCount cpuid := ⟨supports, .inr vendor⟩
          simp only [vendor] at found ⊢
          by_cases leaf : (cpuid 0x80000000 0).eax ≥ 0x80000008
          · rw [if_pos leaf]
            rw [amd_of_cores leaf] at found
            exact usable_of_chip_iff relies found (fun chip => Int.sub_add_cancel ..)
              fun chip => by simp only; omega
          · rw [if_neg leaf]
            rw [amd_of_none leaf] at found
            exact usable_of_chip_iff relies found (fun chip => Int.zero_add _)
              fun chip => by simp

/-- An Intel processor without leaf `0xB` that reports one logical processor. -/
def oneProcessor : Cpuid := fun leaf _ =>
  if leaf = 0 then { eax := 4, ebx := 0x756E6547, ecx := 0x6C65746E, edx := 0x49656E69 }
  else if leaf = 1 then { eax := 0, ebx := 0x10000, ecx := 0, edx := 0x10000000 }
  else { eax := 0, ebx := 0, ecx := 0, edx := 0 }

/-- The highest bit of zero is asked for. -/
theorem usable_fails : ¬ ∀ cpuid, Usable cpuid := by
  intro always
  obtain ⟨bits, found, -⟩ := always oneProcessor
  have none : getThreadCoreBits oneProcessor = none := by decide
  cases none.symm.trans found

end CpuInfo
end ToyKernel
