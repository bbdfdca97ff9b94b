import ToyKernel.Bytes.Regions

/-!
# Buffers

What `memset`, `memcpy` and `memcmp` do to the bytes and what they return.
-/

namespace ToyKernel
namespace Bytes

open Program (Ensures Keeps)

variable {before : Memory (BitVec 64) (BitVec 8)}

/-! ## `memset` -/

/-- After some rounds of `memset`, that many bytes have the value. -/
structure MemsetInvariant (before : Memory (BitVec 64) (BitVec 8)) (start : BitVec 64)
    (value : BitVec 32) (total : BitVec 64) (count : Nat) (ptr size : BitVec 64)
    (memory : Memory (BitVec 64) (BitVec 8)) : Prop where
  ptr : ptr = start + BitVec.ofNat 64 count
  size : size.toNat + count = total.toNat
  filled : ∀ offset < count, byteAt memory start offset = value.setWidth 8
  accesses : before.Accesses memory ∅ (region start count)

theorem memsetRound_keeps (ptr : BitVec 64) (value : BitVec 32) (size : BitVec 64) :
    Keeps (memsetRound value) size.toNat
      (fun count state memory =>
        MemsetInvariant before ptr value size count state.1 state.2 memory)
      (fun result after => result = ptr + size ∧
        (∀ offset < size.toNat, byteAt after ptr offset = value.setWidth 8) ∧
        before.Accesses after ∅ (region ptr size.toNat)) := by
  rintro count ⟨current, left⟩ memory ⟨rfl, isSize, filled, accesses⟩
  dsimp only at isSize
  simp only [memsetRound]
  by_cases more : 0 < left
  · have inside : count < size.toNat := by bv_omega
    have small : count < 2 ^ 64 := lt_trans inside size.isLt
    rw [if_pos more]
    refine .bind (.store (.pure ⟨inside, add_ofNat_succ ptr count, by bv_omega, ?_, ?_⟩))
    · exact byteAt_store_succ (fun _ byte => byte = value.setWidth 8) small filled rfl
    · rw [region_succ _ small]
      exact accesses.store ..
  · have isLast : count = size.toNat := by bv_omega
    rw [if_neg more]
    refine .pure ⟨?_, isLast ▸ filled, isLast ▸ accesses⟩
    rw [isLast, BitVec.ofNat_toNat, BitVec.setWidth_eq]

/-- `memset` fills the buffer and returns the pointer behind it. -/
theorem memset_ensures (ptr : BitVec 64) (value : BitVec 32) (size : BitVec 64) :
    Ensures (memset ptr value size) before fun result after =>
      result = ptr + size ∧
      (∀ offset < size.toNat, byteAt after ptr offset = value.setWidth 8) ∧
      before.Accesses after ∅ (region ptr size.toNat) :=
  (memsetRound_keeps ptr value size).ensures
    ⟨(add_zero ptr).symm, add_zero _, forall_lt_zero, accesses_start before ∅ ptr⟩

/-! ## `memcpy` -/

/-- After some rounds of `memcpy`, that many bytes have been copied. -/
structure MemcpyInvariant (before : Memory (BitVec 64) (BitVec 8)) (dst source total : BitVec 64)
    (count : Nat) (tmp src size : BitVec 64) (memory : Memory (BitVec 64) (BitVec 8)) :
    Prop where
  tmp : tmp = dst + BitVec.ofNat 64 count
  src : src = source + BitVec.ofNat 64 count
  size : size.toNat + count = total.toNat
  copied : ∀ offset < count, byteAt memory dst offset = byteAt before source offset
  accesses : before.Accesses memory (region source count) (region dst count)

theorem memcpyRound_keeps {dst src size : BitVec 64}
    (disjoint : Disjoint (region dst size.toNat) (region src size.toNat)) :
    Keeps memcpyRound size.toNat
      (fun count state memory =>
        MemcpyInvariant before dst src size count state.1 state.2.1 state.2.2 memory)
      (fun _ after =>
        (∀ offset < size.toNat, byteAt after dst offset = byteAt before src offset) ∧
        before.Accesses after (region src size.toNat) (region dst size.toNat)) := by
  rintro count ⟨tmp, source, left⟩ memory ⟨rfl, rfl, isSize, copied, accesses⟩
  dsimp only at isSize
  simp only [memcpyRound]
  by_cases more : 0 < left
  · have inside : count < size.toNat := by bv_omega
    have small : count < 2 ^ 64 := lt_trans inside size.isLt
    have unchanged := byteAt_kept accesses disjoint (le_of_lt inside) inside small
    rw [if_pos more]
    refine .bind (.load (.bind (.store (.pure
      ⟨inside, add_ofNat_succ dst count, add_ofNat_succ src count, by bv_omega, ?_, ?_⟩))))
    · exact byteAt_store_succ (fun offset byte => byte = byteAt before src offset) small copied
        unchanged
    · rw [region_succ _ small, region_succ _ small]
      exact (accesses.load _).store ..
  · have isLast : count = size.toNat := by bv_omega
    rw [if_neg more]
    exact .pure ⟨isLast ▸ copied, isLast ▸ accesses⟩

/-- `memcpy` copies a buffer to one that does not overlap with it. -/
theorem memcpy_ensures {dst src size : BitVec 64}
    (disjoint : Disjoint (region dst size.toNat) (region src size.toNat)) :
    Ensures (memcpy dst src size) before fun result after =>
      result = dst ∧
      (∀ offset < size.toNat, byteAt after dst offset = byteAt before src offset) ∧
      before.Accesses after (region src size.toNat) (region dst size.toNat) := by
  refine .bind (((memcpyRound_keeps disjoint).ensures ⟨(add_zero dst).symm, (add_zero src).symm,
    add_zero _, forall_lt_zero, accesses_start before _ dst⟩).mono ?_)
  exact fun _ after holds => .pure ⟨rfl, holds⟩

/-! ## `memcmp` -/

/-- Before an offset, the bytes of two buffers are equal. -/
def EqualBelow (memory : Memory (BitVec 64) (BitVec 8)) (buf1 buf2 : BitVec 64)
    (count : Nat) : Prop :=
  ∀ offset < count, byteAt memory buf1 offset = byteAt memory buf2 offset

/-- The first offset at which two buffers differ. -/
structure FirstDifference (memory : Memory (BitVec 64) (BitVec 8)) (buf1 buf2 : BitVec 64)
    (size offset : Nat) : Prop where
  inside : offset < size
  before : EqualBelow memory buf1 buf2 offset
  differs : byteAt memory buf1 offset ≠ byteAt memory buf2 offset

/-- Two buffers are equal or there is a first difference. -/
theorem equalBelow_or_exists (memory : Memory (BitVec 64) (BitVec 8)) (buf1 buf2 : BitVec 64)
    (size : Nat) : EqualBelow memory buf1 buf2 size ∨
      ∃ offset, FirstDifference memory buf1 buf2 size offset := by
  induction size with
  | zero => exact .inl forall_lt_zero
  | succ size inductionHypothesis =>
      rcases inductionHypothesis with equal | ⟨offset, inside, before, differs⟩
      · by_cases same : byteAt memory buf1 size = byteAt memory buf2 size
        · refine .inl fun offset below => ?_
          rcases Nat.lt_succ_iff_lt_or_eq.mp below with earlier | rfl
          · exact equal offset earlier
          · exact same
        · exact .inr ⟨size, Nat.lt_succ_self size, equal, same⟩
      · exact .inr ⟨offset, Nat.lt_succ_of_lt inside, before, differs⟩

theorem FirstDifference.not_equalBelow {memory : Memory (BitVec 64) (BitVec 8)}
    {buf1 buf2 : BitVec 64} {size offset : Nat}
    (first : FirstDifference memory buf1 buf2 size offset) :
    ¬ EqualBelow memory buf1 buf2 size :=
  fun equal => first.differs (equal offset first.inside)

theorem FirstDifference.unique {memory : Memory (BitVec 64) (BitVec 8)}
    {buf1 buf2 : BitVec 64} {size offset other : Nat}
    (first : FirstDifference memory buf1 buf2 size offset)
    (also : FirstDifference memory buf1 buf2 size other) : offset = other := by
  rcases Nat.lt_trichotomy offset other with below | same | above
  · exact absurd (also.before offset below) first.differs
  · exact same
  · exact absurd (first.before other above) also.differs

/-- What `memcmp` returns: it compares bytes as characters, which have a sign. -/
structure MemcmpResult (memory : Memory (BitVec 64) (BitVec 8)) (buf1 buf2 : BitVec 64)
    (size : Nat) (result : BitVec 32) : Prop where
  equal : EqualBelow memory buf1 buf2 size → result = 0
  first : ∀ offset, FirstDifference memory buf1 buf2 size offset →
    result = if (byteAt memory buf2 offset).slt (byteAt memory buf1 offset) then 1 else -1

theorem MemcmpResult.of_first {memory : Memory (BitVec 64) (BitVec 8)} {buf1 buf2 : BitVec 64}
    {size offset : Nat} {result : BitVec 32}
    (first : FirstDifference memory buf1 buf2 size offset)
    (isResult : result =
      if (byteAt memory buf2 offset).slt (byteAt memory buf1 offset) then 1 else -1) :
    MemcmpResult memory buf1 buf2 size result where
  equal allEqual := absurd allEqual first.not_equalBelow
  first _ also := first.unique also ▸ isResult

theorem slt_self (byte : BitVec 8) : ¬ byte.slt byte = true := by
  rw [BitVec.slt_iff_toInt_lt]
  exact lt_irrefl _

theorem eq_of_not_slt {left right : BitVec 8} (notLess : ¬ left.slt right = true)
    (notGreater : ¬ right.slt left = true) : left = right := by
  rw [BitVec.slt_iff_toInt_lt] at notLess notGreater
  exact BitVec.eq_of_toInt_eq (by omega)

theorem memcmpRound_keeps (buf1 buf2 size : BitVec 64) :
    Keeps (memcmpRound buf1 buf2 size) size.toNat
      (fun count i memory => i.toNat = count ∧ count ≤ size.toNat ∧
        EqualBelow before buf1 buf2 count ∧
        before.Accesses memory (region buf1 size.toNat ∪ region buf2 size.toNat) ∅)
      (fun result after => MemcmpResult before buf1 buf2 size.toNat result ∧
        before.Accesses after (region buf1 size.toNat ∪ region buf2 size.toNat) ∅) := by
  rintro _ i memory ⟨rfl, notBehind, equal, accesses⟩
  have left : memory.cells (buf1 + i) = byteAt before buf1 i.toNat := by
    rw [accesses.cells_eq, byteAt, BitVec.ofNat_toNat, BitVec.setWidth_eq]
  have right : memory.cells (buf2 + i) = byteAt before buf2 i.toNat := by
    rw [accesses.cells_eq, byteAt, BitVec.ofNat_toNat, BitVec.setWidth_eq]
  simp only [memcmpRound]
  by_cases inside : i < size
  · have below : i.toNat < size.toNat := inside
    have pair : ∀ {middle : Memory (BitVec 64) (BitVec 8)},
        before.Accesses middle (region buf1 size.toNat ∪ region buf2 size.toNat) ∅ →
        before.Accesses ((middle.load (buf1 + i)).load (buf2 + i))
          (region buf1 size.toNat ∪ region buf2 size.toNat) ∅ := by
      intro middle reads
      refine ((reads.load (buf1 + i)).load (buf2 + i)).weaken ?_ rfl
      rw [Set.insert_subset_iff, Set.insert_subset_iff]
      refine ⟨.inr ?_, .inl ?_, le_refl _⟩ <;> rwa [mem_region, add_sub_cancel_left]
    rw [if_pos inside]
    refine .bind (.load (.bind (.load ?_)))
    rw [Memory.load_cells, left, right]
    split
    · rename_i greater
      have differs : byteAt before buf1 i.toNat ≠ byteAt before buf2 i.toNat :=
        fun same => slt_self _ (same ▸ greater)
      exact .pure ⟨.of_first ⟨below, equal, differs⟩ (if_pos greater).symm, pair accesses⟩
    · rename_i notGreater
      refine .bind (.load (.bind (.load ?_)))
      simp only [Memory.load_cells, left, right]
      split
      · rename_i less
        have differs : byteAt before buf1 i.toNat ≠ byteAt before buf2 i.toNat :=
          fun same => slt_self _ (same ▸ less)
        exact .pure ⟨.of_first ⟨below, equal, differs⟩ (if_neg notGreater).symm,
          pair (pair accesses)⟩
      · rename_i notLess
        refine .pure ⟨below, by bv_omega, below, fun offset earlier => ?_, pair (pair accesses)⟩
        rcases Nat.lt_succ_iff_lt_or_eq.mp earlier with earlier | rfl
        · exact equal offset earlier
        · exact eq_of_not_slt notLess notGreater
  · have isLast : i.toNat = size.toNat := by bv_omega
    rw [if_neg inside]
    refine .pure ⟨⟨fun _ => rfl, fun offset first => ?_⟩, accesses⟩
    exact absurd (isLast ▸ equal) first.not_equalBelow

/-- `memcmp` reads the two buffers and compares them. -/
theorem memcmp_ensures (buf1 buf2 size : BitVec 64) :
    Ensures (memcmp buf1 buf2 size) before fun result after =>
      MemcmpResult before buf1 buf2 size.toNat result ∧
      before.Accesses after (region buf1 size.toNat ∪ region buf2 size.toNat) ∅ :=
  (memcmpRound_keeps buf1 buf2 size).ensures ⟨rfl, Nat.zero_le _, forall_lt_zero,
    (Memory.Accesses.refl before).weaken (Set.empty_subset _) rfl⟩

end Bytes
end ToyKernel
