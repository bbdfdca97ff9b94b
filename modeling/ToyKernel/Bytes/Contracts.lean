import ToyKernel.Bytes.Strings

/-!
# Contracts of the C library

A compiler for a hosted environment assumes what the standard says of `memset`, `memcpy`,
`strcpy`, `strcat` and `memcmp`.  The pointer that `memset` returns and the order in which
`memcmp` puts bytes are not what it says.
-/

namespace ToyKernel
namespace Bytes

open Program (Ensures)

/-- A call of one of the functions. -/
inductive Call
  | memset (ptr : BitVec 64) (value : BitVec 32) (size : BitVec 64)
  | memcpy (dst src size : BitVec 64)
  | strcpy (dst src : BitVec 64)
  | strcat (dst src : BitVec 64)
  | memcmp (buf1 buf2 size : BitVec 64)

/-- The sign that the standard asks of the result of `memcmp`: zero for equal buffers, and
otherwise that of the first bytes that differ, taken without a sign. -/
structure Compares (memory : Memory (BitVec 64) (BitVec 8)) (buf1 buf2 : BitVec 64)
    (size : Nat) (result : BitVec 32) : Prop where
  zero : result = 0 ↔ EqualBelow memory buf1 buf2 size
  negative : ∀ offset, FirstDifference memory buf1 buf2 size offset →
    (result.toInt < 0 ↔ byteAt memory buf1 offset < byteAt memory buf2 offset)
  positive : ∀ offset, FirstDifference memory buf1 buf2 size offset →
    (0 < result.toInt ↔ byteAt memory buf2 offset < byteAt memory buf1 offset)

namespace Call

/-- What the standard promises of a call.  Strings and buffers that one is copied to do not
overlap. -/
def MeetsContract (memory : Memory (BitVec 64) (BitVec 8)) : Call → Prop
  | .memset ptr value size =>
      Ensures (Bytes.memset ptr value size) memory fun result after =>
        result = ptr ∧
        (∀ offset < size.toNat, byteAt after ptr offset = value.setWidth 8) ∧
        memory.Accesses after ∅ (region ptr size.toNat)
  | .memcpy dst src size =>
      Disjoint (region dst size.toNat) (region src size.toNat) →
      Ensures (Bytes.memcpy dst src size) memory fun result after =>
        result = dst ∧
        (∀ offset < size.toNat, byteAt after dst offset = byteAt memory src offset) ∧
        memory.Accesses after (region src size.toNat) (region dst size.toNat)
  | .strcpy dst src => ∀ text, HoldsString memory src text →
      Disjoint (region dst (text.length + 1)) (region src (text.length + 1)) →
      Ensures (Bytes.strcpy dst src) memory fun result after =>
        result = dst ∧ HoldsString after dst text ∧
        memory.Accesses after (region src (text.length + 1)) (region dst (text.length + 1))
  | .strcat dst src => ∀ left right, HoldsString memory dst left → HoldsString memory src right →
      Disjoint (region dst (left.length + (right.length + 1))) (region src (right.length + 1)) →
      Ensures (Bytes.strcat dst src) memory fun result after =>
        result = dst ∧ HoldsString after dst (left ++ right) ∧
        memory.Accesses after (region dst (left.length + 1) ∪ region src (right.length + 1))
          (region (dst + BitVec.ofNat 64 left.length) (right.length + 1))
  | .memcmp buf1 buf2 size =>
      Ensures (Bytes.memcmp buf1 buf2 size) memory fun result after =>
        Compares memory buf1 buf2 size.toNat result ∧
        memory.Accesses after (region buf1 size.toNat ∪ region buf2 size.toNat) ∅

/-- The calls that do not show that `memset` returns the pointer behind the buffer and that
`memcmp` takes bytes with a sign. -/
def Conforms (memory : Memory (BitVec 64) (BitVec 8)) : Call → Prop
  | .memset _ _ size => size = 0
  | .memcmp buf1 buf2 size => ∀ offset, FirstDifference memory buf1 buf2 size.toNat offset →
      (byteAt memory buf1 offset).msb = (byteAt memory buf2 offset).msb
  | .memcpy _ _ _ | .strcpy _ _ | .strcat _ _ => True

end Call

section Order

variable {memory : Memory (BitVec 64) (BitVec 8)} {buf1 buf2 : BitVec 64} {size offset : Nat}
  {left right : BitVec 8} {result : BitVec 32}

/-- The order with a sign is the one without exactly if the highest bits are the same. -/
theorem slt_iff_lt : (left.slt right = true ↔ left < right) ↔ left.msb = right.msb := by
  have order : left < right ↔ left.ult right = true := by
    rw [BitVec.ult, decide_eq_true_eq, BitVec.lt_def]
  rw [order, BitVec.slt_eq_ult]
  cases left.msb <;> cases right.msb <;> cases left.ult right <;> decide

theorem MemcmpResult.toInt (isResult : MemcmpResult memory buf1 buf2 size result)
    (first : FirstDifference memory buf1 buf2 size offset) :
    result.toInt =
      if (byteAt memory buf2 offset).slt (byteAt memory buf1 offset) then 1 else -1 := by
  rw [isResult.first offset first]
  split <;> rfl

/-- What `memcmp` returns has the sign that is asked for exactly if the first bytes that differ
have the same highest bit. -/
theorem MemcmpResult.compares_iff (isResult : MemcmpResult memory buf1 buf2 size result) :
    Compares memory buf1 buf2 size result ↔
      ∀ offset, FirstDifference memory buf1 buf2 size offset →
        (byteAt memory buf1 offset).msb = (byteAt memory buf2 offset).msb := by
  constructor
  · intro compares offset first
    refine (slt_iff_lt.mp ?_).symm
    rw [← compares.positive offset first, isResult.toInt first]
    split <;> simp_all
  · intro sameBit
    have sign : ∀ offset, FirstDifference memory buf1 buf2 size offset → result.toInt =
        if byteAt memory buf2 offset < byteAt memory buf1 offset then 1 else -1 := by
      intro offset first
      rw [isResult.toInt first]
      exact if_congr (slt_iff_lt.mpr (sameBit offset first).symm) rfl rfl
    refine ⟨⟨fun isZero => ?_, isResult.equal⟩, fun offset first => ?_, fun offset first => ?_⟩
    · rcases equalBelow_or_exists memory buf1 buf2 size with equal | ⟨offset, first⟩
      · exact equal
      · have isSign := sign offset first
        rw [isZero] at isSign
        split at isSign <;> cases isSign
    · have differs : byteAt memory buf1 offset < byteAt memory buf2 offset ↔
          ¬ byteAt memory buf2 offset < byteAt memory buf1 offset := by
        have notSame := first.differs
        bv_omega
      rw [sign offset first, differs]
      split <;> simp_all
    · rw [sign offset first]
      split <;> simp_all

end Order

/-- A call meets its contract exactly if it fills no byte with `memset`, or compares buffers
whose first bytes that differ have the same highest bit, or copies. -/
theorem Call.meetsContract_iff (call : Call) (memory : Memory (BitVec 64) (BitVec 8)) :
    call.MeetsContract memory ↔ call.Conforms memory := by
  cases call with
  | memset ptr value size =>
      constructor
      · intro meets
        obtain ⟨result, after, returns, isPtr, -⟩ := meets
        have isBehind := ((memset_ensures ptr value size).of_returns returns).1
        have same := isPtr.symm.trans isBehind
        exact left_eq_add.mp same
      · rintro rfl
        refine (memset_ensures ptr value 0).mono ?_
        rintro result after ⟨isBehind, holds⟩
        exact ⟨isBehind.trans (add_zero ptr), holds⟩
  | memcpy dst src size => exact iff_of_true memcpy_ensures trivial
  | strcpy dst src => exact iff_of_true (fun _ => strcpy_ensures) trivial
  | strcat dst src => exact iff_of_true (fun _ _ => strcat_ensures) trivial
  | memcmp buf1 buf2 size =>
      constructor
      · intro meets
        obtain ⟨result, after, returns, compares, -⟩ := meets
        exact ((memcmp_ensures buf1 buf2 size).of_returns returns).1.compares_iff.mp compares
      · intro sameBit
        refine (memcmp_ensures buf1 buf2 size).mono ?_
        rintro result after ⟨isResult, accesses⟩
        exact ⟨isResult.compares_iff.mpr sameBit, accesses⟩

/-- A memory with one byte that is not zero. -/
def oneByte : Memory (BitVec 64) (BitVec 8) where
  cells := Function.update (fun _ => 0) 0x1000 0x80
  loaded := []
  stored := []

/-- `memset` of one byte returns the pointer behind it, and `memcmp` takes 0x80 for less than
zero. -/
theorem Call.meetsContract_fails :
    ¬ (Call.memset 0x1000 0 1).MeetsContract oneByte ∧
      ¬ (Call.memcmp 0x1000 0x1001 1).MeetsContract oneByte := by
  constructor
  · rintro ⟨result, after, returns, isPtr, -⟩
    have isBehind := ((memset_ensures 0x1000 0 1).of_returns returns).1
    exact absurd (isPtr.symm.trans isBehind) (by decide)
  · rintro ⟨result, after, returns, compares, -⟩
    have first : FirstDifference oneByte 0x1000 0x1001 1 0 :=
      ⟨Nat.one_pos, forall_lt_zero, by decide⟩
    have isResult := ((memcmp_ensures 0x1000 0x1001 1).of_returns returns).1
    have isPositive := (compares.positive 0 first).mpr (by decide)
    rw [isResult.toInt first] at isPositive
    exact absurd isPositive (by decide)

end Bytes
end ToyKernel
