import ToyKernel.Bytes.Buffers
import ToyKernel.Acpi.Defs
import Mathlib.Order.Bounds.Basic

/-!
# Search

`memmem` finds the first place where one buffer occurs in another.
-/

namespace ToyKernel
namespace Bytes

open Program (Ensures Keeps Reaches)

variable {before : Memory (BitVec 64) (BitVec 8)} {buf1 buf2 : BitVec 64} {size1 size2 : Nat}

/-- The offsets at which the second buffer occurs in the first. -/
def occurrences (memory : Memory (BitVec 64) (BitVec 8)) (buf1 : BitVec 64) (size1 : Nat)
    (buf2 : BitVec 64) (size2 : Nat) : Set Nat :=
  {i | i + size2 ≤ size1 ∧ EqualBelow memory (buf1 + BitVec.ofNat 64 i) buf2 size2}

theorem mem_occurrences {memory : Memory (BitVec 64) (BitVec 8)} {i : Nat} :
    i ∈ occurrences memory buf1 size1 buf2 size2 ↔
      i + size2 ≤ size1 ∧ EqualBelow memory (buf1 + BitVec.ofNat 64 i) buf2 size2 := Iff.rfl

/-- A pointer to the first occurrence, or the null pointer. -/
structure Finds (memory : Memory (BitVec 64) (BitVec 8)) (buf1 : BitVec 64) (size1 : Nat)
    (buf2 : BitVec 64) (size2 : Nat) (result : Option (BitVec 64)) : Prop where
  first : ∀ i, IsLeast (occurrences memory buf1 size1 buf2 size2) i →
    result = some (buf1 + BitVec.ofNat 64 i)
  null : result = none ↔ occurrences memory buf1 size1 buf2 size2 = ∅

/-- After some rounds of `memmem`, the needle does not occur before the pointer, and the size is
what is left. -/
structure MemmemInvariant (before : Memory (BitVec 64) (BitVec 8))
    (buf1 size1 buf2 size2 : BitVec 64) (count : Nat) (ptr left : BitVec 64)
    (memory : Memory (BitVec 64) (BitVec 8)) : Prop where
  ptr : ptr = buf1 + BitVec.ofNat 64 count
  left : left.toNat + count = size1.toNat
  absent : ∀ i < count, i ∉ occurrences before buf1 size1.toNat buf2 size2.toNat
  accesses : before.Accesses memory (region buf1 size1.toNat ∪ region buf2 size2.toNat) ∅

theorem MemcmpResult.eq_zero_iff {memory : Memory (BitVec 64) (BitVec 8)} {size : Nat}
    {result : BitVec 32} (isResult : MemcmpResult memory buf1 buf2 size result) :
    result = 0 ↔ EqualBelow memory buf1 buf2 size := by
  refine ⟨fun isZero => ?_, isResult.equal⟩
  rcases equalBelow_or_exists memory buf1 buf2 size with equal | ⟨offset, first⟩
  · exact equal
  · have isSign := isResult.first offset first
    rw [isZero] at isSign
    split at isSign <;> cases isSign

theorem memmemRound_keeps (buf1 size1 buf2 size2 : BitVec 64) :
    Keeps (memmemRound buf2 size2) size1.toNat
      (fun count state memory =>
        MemmemInvariant before buf1 size1 buf2 size2 count state.1 state.2 memory)
      (fun result after => Finds before buf1 size1.toNat buf2 size2.toNat result ∧
        before.Accesses after (region buf1 size1.toNat ∪ region buf2 size2.toNat) ∅) := by
  rintro count ⟨ptr, left⟩ memory ⟨isPtr, isLeft, absent, accesses⟩
  dsimp only at isPtr isLeft
  simp only [memmemRound]
  by_cases fits : size2 ≤ left
  · have inside : count + size2.toNat ≤ size1.toNat := by bv_omega
    have haystack : region ptr size2.toNat ⊆ region buf1 size1.toNat :=
      isPtr ▸ region_subset inside size1.isLt
    have sameCells : byteAt memory = byteAt before := by
      unfold byteAt
      rw [accesses.cells_eq]
    rw [if_pos fits]
    refine .bind ((memcmp_ensures ptr buf2 size2).mono ?_)
    rintro order middle ⟨isOrder, compares⟩
    have reads : before.Accesses middle (region buf1 size1.toNat ∪ region buf2 size2.toNat) ∅ := by
      refine (accesses.trans compares).weaken ?_ (Set.empty_union _)
      exact Set.union_subset (le_refl _) (Set.union_subset_union_left _ haystack)
    have isHere : order = 0 ↔ count ∈ occurrences before buf1 size1.toNat buf2 size2.toNat := by
      rw [isOrder.eq_zero_iff, EqualBelow, sameCells, isPtr, mem_occurrences]
      exact (and_iff_right inside).symm
    split
    · rename_i found
      have present := isHere.mp found
      have least : IsLeast (occurrences before buf1 size1.toNat buf2 size2.toNat) count :=
        ⟨present, fun i also => Nat.le_of_not_lt fun earlier => absent i earlier also⟩
      refine .pure ⟨⟨fun i isFirst => ?_, ?_⟩, reads⟩
      · rw [isFirst.unique least, isPtr]
      · exact iff_of_false (Option.some_ne_none _) (Set.nonempty_iff_ne_empty.mp ⟨count, present⟩)
    · rename_i notFound
      -- an empty needle would have been found
      have notEmpty : size2.toNat ≠ 0 := by
        intro empty
        refine notFound (isOrder.equal fun offset below => ?_)
        rw [empty] at below
        exact absurd below (Nat.not_lt_zero _)
      refine .pure ⟨by omega, ?_, by bv_omega, fun i earlier => ?_, reads⟩
      · rw [isPtr, add_ofNat_succ]
      · rcases Nat.lt_succ_iff_lt_or_eq.mp earlier with earlier | rfl
        · exact absent i earlier
        · exact mt isHere.mpr notFound
  · have beyond : size1.toNat < count + size2.toNat := by bv_omega
    have none : occurrences before buf1 size1.toNat buf2 size2.toNat = ∅ := by
      refine Set.eq_empty_of_forall_notMem fun i present => ?_
      have inside := (mem_occurrences.mp present).1
      exact absent i (by omega) present
    rw [if_neg fits]
    refine .pure ⟨⟨fun i isFirst => ?_, iff_of_true rfl none⟩, accesses⟩
    exact absurd isFirst.1 (none ▸ Set.notMem_empty i)

theorem MemmemInvariant.start (buf1 size1 buf2 size2 : BitVec 64) :
    MemmemInvariant before buf1 size1 buf2 size2 0 buf1 size1 before where
  ptr := (add_zero buf1).symm
  left := add_zero _
  absent := forall_lt_zero
  accesses := (Memory.Accesses.refl before).weaken (Set.empty_subset _) rfl

theorem memmem_ensures (buf1 size1 buf2 size2 : BitVec 64) :
    Ensures (memmem buf1 size1 buf2 size2) before fun result after =>
      Finds before buf1 size1.toNat buf2 size2.toNat result ∧
      before.Accesses after (region buf1 size1.toNat ∪ region buf2 size2.toNat) ∅ :=
  (memmemRound_keeps buf1 size1 buf2 size2).ensures (.start buf1 size1 buf2 size2)

/-! ## The search for the RSDP -/

section Acpi

variable {bytes : List (BitVec 8)} {start size : Nat}

/-- The bytes at an address are those of a list. -/
theorem sameBytes_iff {address : BitVec 64} :
    Acpi.sameBytes before.cells address bytes = true ↔
      ∀ i (inside : i < bytes.length), byteAt before address i = bytes[i] := by
  induction bytes generalizing address with
  | nil => exact iff_of_true rfl fun _ inside => absurd inside (Nat.not_lt_zero _)
  | cons byte bytes inductionHypothesis =>
      have here : byteAt before address 0 = before.cells address :=
        congrArg before.cells (BitVec.add_zero address)
      have next : ∀ i, byteAt before address (i + 1) = byteAt before (address + 1) i := by
        intro i
        rw [byteAt, byteAt, BitVec.ofNat_add, BitVec.add_comm (BitVec.ofNat 64 i), ← add_assoc]
        rfl
      rw [Acpi.sameBytes, Bool.and_eq_true, decide_eq_true_eq, inductionHypothesis, ← here]
      constructor
      · rintro ⟨first, rest⟩ i inside
        cases i with
        | zero => exact first
        | succ i => exact (next i).trans (rest i (Nat.lt_of_succ_lt_succ inside))
      · intro all
        refine ⟨all 0 (Nat.zero_lt_succ _), fun i inside => ?_⟩
        exact (next i).symm.trans (all (i + 1) (Nat.succ_lt_succ inside))

/-- The search of `init_root_tables` is `memmem`, for bytes that lie somewhere in memory. -/
theorem memmem_acpi (small : size < 2 ^ 64) (short : bytes.length < 2 ^ 64)
    (needle : ∀ i (inside : i < bytes.length), byteAt before buf2 i = bytes[i]) :
    Ensures (memmem (BitVec.ofNat 64 start) (BitVec.ofNat 64 size) buf2
      (BitVec.ofNat 64 bytes.length)) before fun result _ =>
        result.getD 0 = Acpi.memmem before.cells start size bytes := by
  refine (memmem_ensures _ _ _ _).mono fun result after ⟨finds, _⟩ => ?_
  rw [BitVec.toNat_ofNat, BitVec.toNat_ofNat, Nat.mod_eq_of_lt small, Nat.mod_eq_of_lt short]
    at finds
  have isOccurrence : ∀ i, i ∈ occurrences before (BitVec.ofNat 64 start) size buf2 bytes.length ↔
      i ∈ List.range (size + 1 - bytes.length) ∧
        Acpi.sameBytes before.cells (BitVec.ofNat 64 (start + i)) bytes = true := by
    intro i
    rw [mem_occurrences, List.mem_range, sameBytes_iff, BitVec.ofNat_add]
    refine and_congr (by omega) (forall_congr' fun offset => forall_congr' fun inside => ?_)
    rw [needle offset inside]
  rw [Acpi.memmem, List.range'_eq_map_range, List.map_map, List.find?_map]
  cases found : (List.range (size + 1 - bytes.length)).find?
      ((fun address => Acpi.sameBytes before.cells address bytes) ∘
        (BitVec.ofNat 64 ∘ (start + ·))) with
  | none =>
      rw [finds.null.mpr (Set.eq_empty_of_forall_notMem fun i present => ?_)]
      · rfl
      · obtain ⟨inRange, same⟩ := (isOccurrence i).mp present
        exact List.find?_eq_none.mp found i inRange same
  | some i =>
      obtain ⟨same, inRange, earlier⟩ := List.find?_range_eq_some.mp found
      have least : IsLeast
          (occurrences before (BitVec.ofNat 64 start) size buf2 bytes.length) i := by
        refine ⟨(isOccurrence i).mpr ⟨inRange, same⟩, fun other present => ?_⟩
        by_contra below
        have absent := earlier other (Nat.lt_of_not_le below)
        simp only [Function.comp_apply, ((isOccurrence other).mp present).2] at absent
        cases absent
      rw [finds.first i least]
      exact (BitVec.ofNat_add start i).symm

end Acpi

/-! ## Correctness -/

/-- `memmem` returns a pointer to the first occurrence or the null pointer, reads the two
buffers only, and counts its size down without wrapping around. -/
theorem memmem_finds (memory : Memory (BitVec 64) (BitVec 8)) (buf1 size1 buf2 size2 : BitVec 64) :
    (Ensures (memmem buf1 size1 buf2 size2) memory fun result after =>
      Finds memory buf1 size1.toNat buf2 size2.toNat result ∧
      memory.Accesses after (region buf1 size1.toNat ∪ region buf2 size2.toNat) ∅) ∧
    ∀ count ptr left middle,
      Reaches (memmemRound buf2 size2) (buf1, size1) memory count (ptr, left) middle →
        ptr = buf1 + BitVec.ofNat 64 count ∧ left.toNat + count = size1.toNat := by
  refine ⟨memmem_ensures buf1 size1 buf2 size2, fun count ptr left middle reaches => ?_⟩
  have holds := ((memmemRound_keeps buf1 size1 buf2 size2).of_reaches
    (.start buf1 size1 buf2 size2) reaches).2
  exact ⟨holds.ptr, holds.left⟩

end Bytes
end ToyKernel
