import ToyKernel.Bytes.Buffers

/-!
# Strings

What `strlen`, `strcpy`, `strcat` and `strrev` do with strings that end with a zero.
-/

namespace ToyKernel
namespace Bytes

open Program (Ensures Keeps)

variable {before : Memory (BitVec 64) (BitVec 8)}

namespace HoldsString

variable {memory after : Memory (BitVec 64) (BitVec 8)} {str : BitVec 64}
  {text : List (BitVec 8)} {offset : Nat}

theorem byteAt_eq (isString : HoldsString memory str text) (inside : offset < text.length) :
    byteAt memory str offset = text[offset] := by
  rw [← isString.getElem inside, Nat.zero_add]

theorem byteAt_length (isString : HoldsString memory str text) :
    byteAt memory str text.length = 0 := by
  rw [← isString.ends, Nat.zero_add]

theorem byteAt_ne_zero (isString : HoldsString memory str text) (inside : offset < text.length) :
    byteAt memory str offset ≠ 0 := by
  rw [isString.byteAt_eq inside]
  exact isString.ne_zero _ (List.getElem_mem inside)

/-- A string ends before it would meet itself. -/
theorem length_lt (isString : HoldsString memory str text) : text.length < 2 ^ 64 := by
  by_contra long
  have wrapped : byteAt memory str text.length = byteAt memory str (text.length % 2 ^ 64) := by
    have same : BitVec.ofNat 64 text.length = BitVec.ofNat 64 (text.length % 2 ^ 64) := by
      apply BitVec.eq_of_toNat_eq
      rw [BitVec.toNat_ofNat, BitVec.toNat_ofNat, Nat.mod_mod]
    rw [byteAt, byteAt, ← same]
  refine isString.byteAt_ne_zero ?_ (wrapped.symm.trans isString.byteAt_length)
  exact lt_of_lt_of_le (Nat.mod_lt _ (Nat.two_pow_pos 64)) (Nat.le_of_not_lt long)

/-- The bytes of a string and its terminator. -/
theorem of_byteAt (spelled : ∀ i (inside : i < text.length), byteAt memory str i = text[i])
    (notZero : ∀ chr ∈ text, chr ≠ 0) (zero : byteAt memory str text.length = 0) :
    HoldsString memory str text :=
  .of_getElem (fun i inside => by rw [Nat.zero_add, spelled i inside]) notZero
    (by rw [Nat.zero_add, zero])

/-- What is written elsewhere leaves a string alone. -/
theorem kept {reads writes : Set (BitVec 64)} (isString : HoldsString memory str text)
    (accesses : memory.Accesses after reads writes)
    (disjoint : Disjoint writes (region str (text.length + 1))) : HoldsString after str text := by
  have long := isString.length_lt
  refine isString.congr fun i _ inside => accesses.kept _ fun present => ?_
  exact disjoint.notMem_of_mem_left present ((add_mem_region (by omega)).mpr (by omega))

end HoldsString

/-! ## `strlen` -/

theorem strlenRound_keeps {str : BitVec 64} {text : List (BitVec 8)}
    (isString : HoldsString before str text) :
    Keeps strlenRound text.length
      (fun count chr memory => chr = str + BitVec.ofNat 64 count ∧ count ≤ text.length ∧
        before.Accesses memory (region str count) ∅)
      (fun chr after => chr = str + BitVec.ofNat 64 text.length ∧
        before.Accesses after (region str (text.length + 1)) ∅) := by
  have long := isString.length_lt
  rintro count chr memory ⟨rfl, inside, accesses⟩
  have read : memory.cells (str + BitVec.ofNat 64 count) = byteAt before str count := by
    rw [accesses.cells_eq, byteAt]
  have reads : before.Accesses (memory.load (str + BitVec.ofNat 64 count))
      (region str (count + 1)) ∅ := by
    rw [region_succ _ (by omega)]
    exact accesses.load _
  refine .bind (.load ?_)
  rw [read]
  rcases Nat.lt_or_eq_of_le inside with below | rfl
  · rw [if_pos (isString.byteAt_ne_zero below)]
    exact .pure ⟨below, add_ofNat_succ str count, below, reads⟩
  · rw [if_neg (not_not.mpr isString.byteAt_length)]
    exact .pure ⟨rfl, reads⟩

/-- `strlen` reads the string and its terminator. -/
theorem strlen_ensures {str : BitVec 64} {text : List (BitVec 8)}
    (isString : HoldsString before str text) :
    Ensures (strlen str) before fun result after =>
      result = BitVec.ofNat 64 text.length ∧
      before.Accesses after (region str (text.length + 1)) ∅ := by
  have start : before.Accesses before (region str 0) ∅ :=
    (Memory.Accesses.refl before).weaken (Set.empty_subset _) rfl
  refine .bind (((strlenRound_keeps isString).ensures
    ⟨(add_zero str).symm, Nat.zero_le _, start⟩).mono ?_)
  rintro chr after ⟨rfl, accesses⟩
  exact .pure ⟨add_sub_cancel_left .., accesses⟩

/-! ## `strcpy` and `strcat` -/

/-- After some rounds of `strcpy`, that many characters have been copied. -/
structure StrcpyInvariant (before : Memory (BitVec 64) (BitVec 8)) (dst source : BitVec 64)
    (count : Nat) (tmp src : BitVec 64) (memory : Memory (BitVec 64) (BitVec 8)) : Prop where
  tmp : tmp = dst + BitVec.ofNat 64 count
  src : src = source + BitVec.ofNat 64 count
  copied : ∀ offset < count, byteAt memory dst offset = byteAt before source offset
  accesses : before.Accesses memory (region source count) (region dst count)

theorem strcpyRound_keeps {dst src : BitVec 64} {text : List (BitVec 8)}
    (isString : HoldsString before src text)
    (disjoint : Disjoint (region dst (text.length + 1)) (region src (text.length + 1))) :
    Keeps strcpyRound text.length
      (fun count state memory => count ≤ text.length ∧
        StrcpyInvariant before dst src count state.1 state.2 memory)
      (fun tmp after => tmp = dst + BitVec.ofNat 64 text.length ∧
        (∀ offset < text.length, byteAt after dst offset = byteAt before src offset) ∧
        before.Accesses after (region src (text.length + 1)) (region dst text.length)) := by
  have long := isString.length_lt
  rintro count ⟨tmp, source⟩ memory ⟨inside, rfl, rfl, copied, accesses⟩
  have small : count < 2 ^ 64 := by omega
  have unchanged : memory.cells (src + BitVec.ofNat 64 count) = byteAt before src count :=
    byteAt_kept accesses disjoint (by omega) (by omega) small
  have reads : before.Accesses (memory.load (src + BitVec.ofNat 64 count))
      (region src (count + 1)) (region dst count) := by
    rw [region_succ _ small]
    exact accesses.load _
  refine .bind (.load ?_)
  rw [unchanged]
  rcases Nat.lt_or_eq_of_le inside with below | rfl
  · rw [if_pos (isString.byteAt_ne_zero below)]
    refine .bind (.load (.bind (.store (.pure
      ⟨below, below, add_ofNat_succ dst count, add_ofNat_succ src count, ?_, ?_⟩))))
    · exact byteAt_store_succ (fun offset byte => byte = byteAt before src offset) small copied
        unchanged
    · rw [region_succ dst small]
      refine ((reads.load _).store _ _).weaken (Set.insert_subset ?_ (le_refl _)) rfl
      exact (add_mem_region small).mpr (Nat.lt_succ_self count)
  · rw [if_neg (not_not.mpr isString.byteAt_length)]
    exact .pure ⟨rfl, copied, reads⟩

/-- `strcpy` copies a string to where it does not overlap with it. -/
theorem strcpy_ensures {dst src : BitVec 64} {text : List (BitVec 8)}
    (isString : HoldsString before src text)
    (disjoint : Disjoint (region dst (text.length + 1)) (region src (text.length + 1))) :
    Ensures (strcpy dst src) before fun result after =>
      result = dst ∧ HoldsString after dst text ∧
      before.Accesses after (region src (text.length + 1)) (region dst (text.length + 1)) := by
  have long := isString.length_lt
  refine .bind (((strcpyRound_keeps isString disjoint).ensures ⟨Nat.zero_le _,
    (add_zero dst).symm, (add_zero src).symm, forall_lt_zero, accesses_start before _ dst⟩).mono ?_)
  rintro tmp after ⟨rfl, copied, accesses⟩
  refine .bind (.store (.pure ⟨rfl, .of_byteAt (fun i inside => ?_) isString.ne_zero ?_, ?_⟩))
  · have other : dst + BitVec.ofNat 64 i ≠ dst + BitVec.ofNat 64 text.length := by bv_omega
    rw [byteAt, Memory.store_cells, Function.update_of_ne other, ← isString.byteAt_eq inside]
    exact copied i inside
  · exact Function.update_self ..
  · rw [region_succ dst long]
    exact accesses.store ..

/-- A region that leaves room for another byte does not wrap around. -/
theorem length_le_of_disjoint {start other : BitVec 64} {count more : Nat}
    (disjoint : Disjoint (region start count) (region other (more + 1))) : count ≤ 2 ^ 64 := by
  by_contra long
  refine disjoint.notMem_of_mem_left (a := other) ?_ ?_
  · exact lt_trans (other - start).isLt (Nat.lt_of_not_le long)
  · rw [mem_region, sub_self]
    exact Nat.succ_pos more

/-- `strcat` appends a string to where it does not overlap with it. -/
theorem strcat_ensures {dst src : BitVec 64} {left right : List (BitVec 8)}
    (isLeft : HoldsString before dst left) (isRight : HoldsString before src right)
    (disjoint : Disjoint (region dst (left.length + (right.length + 1)))
      (region src (right.length + 1))) :
    Ensures (strcat dst src) before fun result after =>
      result = dst ∧ HoldsString after dst (left ++ right) ∧
      before.Accesses after (region dst (left.length + 1) ∪ region src (right.length + 1))
        (region (dst + BitVec.ofNat 64 left.length) (right.length + 1)) := by
  have room := length_le_of_disjoint disjoint
  rw [region_add dst room, Set.disjoint_union_left] at disjoint
  refine .bind ((strlen_ensures isLeft).mono ?_)
  rintro len middle ⟨rfl, lenReads⟩
  have isSource : HoldsString middle src right := isRight.kept lenReads (Set.empty_disjoint _)
  refine .bind ((strcpy_ensures isSource disjoint.2).mono ?_)
  rintro _ after ⟨-, isCopy, copies⟩
  have accesses : before.Accesses after
      (region dst (left.length + 1) ∪ region src (right.length + 1))
      (region (dst + BitVec.ofNat 64 left.length) (right.length + 1)) :=
    (lenReads.trans copies).weaken (le_refl _) (Set.empty_union _)
  have behind : ∀ i, byteAt after dst (left.length + i) =
      byteAt after (dst + BitVec.ofNat 64 left.length) i := by
    intro i
    rw [byteAt, byteAt, BitVec.ofNat_add, add_assoc]
  refine .pure ⟨rfl, .of_byteAt (fun i inside => ?_) (fun chr present => ?_) ?_, accesses⟩
  · rw [List.length_append] at inside
    by_cases first : i < left.length
    · rw [List.getElem_append_left first, ← isLeft.byteAt_eq first]
      refine accesses.kept _ ?_
      rw [mem_region]
      bv_omega
    · obtain ⟨i, rfl⟩ := Nat.exists_eq_add_of_le (Nat.le_of_not_lt first)
      rw [behind, List.getElem_append_right (Nat.le_add_right ..)]
      simp only [Nat.add_sub_cancel_left]
      exact isCopy.byteAt_eq (by omega)
  · exact (List.mem_append.mp present).elim (isLeft.ne_zero chr) (isRight.ne_zero chr)
  · rw [List.length_append, behind]
    exact isCopy.byteAt_length

/-! ## `strrev` -/

/-- So many bytes at either end of a region. -/
def bothEnds (start : BitVec 64) (length count : Nat) : Set (BitVec 64) :=
  {address | (address - start).toNat < count ∨
    length - count ≤ (address - start).toNat ∧ (address - start).toNat < length}

theorem mem_bothEnds {start address : BitVec 64} {length count : Nat} :
    address ∈ bothEnds start length count ↔ (address - start).toNat < count ∨
      length - count ≤ (address - start).toNat ∧ (address - start).toNat < length := Iff.rfl

theorem bothEnds_zero (start : BitVec 64) (length : Nat) : bothEnds start length 0 = ∅ := by
  refine Set.eq_empty_of_forall_notMem fun address present => ?_
  rw [mem_bothEnds] at present
  omega

theorem bothEnds_succ (start : BitVec 64) {length count : Nat} (long : length < 2 ^ 64)
    (half : 2 * (count + 1) ≤ length) :
    bothEnds start length (count + 1) =
      insert (start + BitVec.ofNat 64 (length - 1 - count))
        (insert (start + BitVec.ofNat 64 count) (bothEnds start length count)) := by
  ext address
  simp only [Set.mem_insert_iff, mem_bothEnds]
  bv_omega

theorem bothEnds_subset (start : BitVec 64) {length count : Nat} (small : count ≤ length) :
    bothEnds start length count ⊆ region start length := by
  intro address present
  rw [mem_bothEnds] at present
  rw [mem_region]
  omega

/-- After some rounds of `strrev`, that many characters at either end have been swapped. -/
structure StrrevInvariant (before : Memory (BitVec 64) (BitVec 8)) (str : BitVec 64)
    (length count : Nat) (i j : BitVec 64) (memory : Memory (BitVec 64) (BitVec 8)) : Prop where
  i : i = BitVec.ofNat 64 count
  j : j = BitVec.ofNat 64 length - BitVec.ofNat 64 count - 1
  half : 2 * count ≤ length
  swapped : ∀ k < length, byteAt memory str k =
    byteAt before str (if k < count ∨ length - count ≤ k then length - 1 - k else k)
  accesses : before.Accesses memory (region str length) (bothEnds str length count)

/-- A round of `strrev`, which reads two characters and stores each in the place of the
other. -/
theorem StrrevInvariant.round {str i j : BitVec 64} {length count : Nat}
    {memory : Memory (BitVec 64) (BitVec 8)} (long : length < 2 ^ 64)
    (below : 2 * (count + 1) ≤ length)
    (invariant : StrrevInvariant before str length count i j memory) :
    StrrevInvariant before str length (count + 1) (i + 1) (BitVec.ofNat 64 length - (i + 1) - 1)
      ((((memory.load (str + i)).load (str + j)).store (str + i) (memory.cells (str + j))).store
        (str + j) (memory.cells (str + i))) := by
  obtain ⟨isI, isJ, -, swapped, accesses⟩ := invariant
  have isLast : j = BitVec.ofNat 64 (length - 1 - count) := by bv_omega
  have first := swapped count (by omega)
  have last := swapped (length - 1 - count) (by omega)
  rw [if_neg (by omega), byteAt, ← isI] at first
  rw [if_neg (by omega), byteAt, ← isLast] at last
  refine ⟨?_, ?_, below, fun k inside => ?_, ?_⟩
  · rw [isI, BitVec.ofNat_add]
    rfl
  · rw [isI]
    bv_omega
  · have atJ : str + BitVec.ofNat 64 k = str + j ↔ k = length - 1 - count := by bv_omega
    have atI : str + BitVec.ofNat 64 k = str + i ↔ k = count := by bv_omega
    simp only [byteAt, Memory.store_cells, Memory.load_cells, Function.update_apply, atJ, atI]
    split
    · rename_i isLastByte
      rw [first, if_pos (by omega), byteAt]
      congr 3
      omega
    · split
      · rw [last, if_pos (by omega), byteAt]
        congr 3
        omega
      · rw [← byteAt, swapped k inside, byteAt]
        congr 3
        exact if_congr (by omega) rfl rfl
  · rw [bothEnds_succ str long below, ← isLast, ← isI]
    refine ((((accesses.load _).load _).store _ _).store _ _).weaken ?_ rfl
    rw [Set.insert_subset_iff, Set.insert_subset_iff]
    refine ⟨?_, ?_, le_refl _⟩
    · rw [isLast, add_mem_region (by omega)]
      omega
    · rw [isI, add_mem_region (by omega)]
      omega

theorem strrevRound_keeps (str : BitVec 64) {length : Nat} (long : length < 2 ^ 64) :
    Keeps (strrevRound str (BitVec.ofNat 64 length)) (length / 2)
      (fun count state memory => StrrevInvariant before str length count state.1 state.2 memory)
      (fun _ after => ∃ i j, StrrevInvariant before str length (length / 2) i j after) := by
  rintro count ⟨i, j⟩ memory invariant
  have half := invariant.half
  have isI : i = BitVec.ofNat 64 count := invariant.i
  have inHalf : i < BitVec.ofNat 64 length / 2 ↔ count < length / 2 := by
    rw [BitVec.lt_def, BitVec.toNat_udiv, BitVec.toNat_ofNat, Nat.mod_eq_of_lt long, isI,
      BitVec.toNat_ofNat, Nat.mod_eq_of_lt (by omega)]
    rfl
  simp only [strrevRound, inHalf]
  split
  · rename_i below
    refine .bind (.load (.bind (.load (.bind (.store (.bind (.store (.pure ⟨below, ?_⟩))))))))
    exact invariant.round long (by omega)
  · have isHalf : count = length / 2 := by omega
    exact .pure ⟨i, j, isHalf ▸ invariant⟩

/-- `strrev` reverses a string where it is. -/
theorem strrev_ensures {str : BitVec 64} {text : List (BitVec 8)}
    (isString : HoldsString before str text) :
    Ensures (strrev str) before fun result after =>
      result = str ∧ HoldsString after str text.reverse ∧
      before.Accesses after (region str (text.length + 1))
        (bothEnds str text.length (text.length / 2)) := by
  have long := isString.length_lt
  refine .bind ((strlen_ensures isString).mono ?_)
  rintro len middle ⟨rfl, lenReads⟩
  have isText : HoldsString middle str text := isString.kept lenReads (Set.empty_disjoint _)
  have start : StrrevInvariant middle str text.length 0 0 (BitVec.ofNat 64 text.length - 1)
      middle := by
    refine ⟨rfl, congrArg (· - 1) (sub_zero _).symm, Nat.zero_le _, fun k inside => ?_, ?_⟩
    · rw [if_neg (by omega)]
    · rw [bothEnds_zero]
      exact (Memory.Accesses.refl middle).weaken (Set.empty_subset _) rfl
  refine .bind (((strrevRound_keeps str long).ensures start).mono ?_)
  rintro _ after ⟨_, _, _, _, _, swapped, accesses⟩
  refine .pure ⟨rfl, .of_byteAt (fun i inside => ?_) (fun chr present => ?_) ?_, ?_⟩
  · rw [List.length_reverse] at inside
    rw [swapped i inside, List.getElem_reverse, ← isText.byteAt_eq]
    split
    · rfl
    · -- the middle stays where it is
      congr 1
      omega
  · exact isString.ne_zero chr (List.mem_reverse.mp present)
  · rw [List.length_reverse, ← isText.byteAt_length]
    refine accesses.kept _ fun present => ?_
    have inside := bothEnds_subset str (Nat.div_le_self ..) present
    rw [add_mem_region long] at inside
    exact absurd inside (lt_irrefl _)
  · refine (lenReads.trans accesses).weaken ?_ (Set.empty_union _)
    exact Set.union_subset (le_refl _) (region_mono (Nat.le_succ _))

/-- `strrev` is an involution: done twice, it leaves every byte as it was. -/
theorem strrev_strrev {str : BitVec 64} {text : List (BitVec 8)}
    (isString : HoldsString before str text) :
    Ensures (do let _ ← strrev str; strrev str) before fun result after =>
      result = str ∧ after.cells = before.cells := by
  refine .bind ((strrev_ensures isString).mono ?_)
  rintro _ middle ⟨-, isReverse, accesses⟩
  refine (strrev_ensures isReverse).mono ?_
  rintro result after ⟨isResult, isAgain, again⟩
  rw [List.reverse_reverse] at isAgain
  rw [List.length_reverse] at again
  refine ⟨isResult, funext fun address => ?_⟩
  by_cases inside : address ∈ region str text.length
  · obtain ⟨offset, below, rfl⟩ := exists_of_mem_region inside
    exact (isAgain.byteAt_eq below).trans (isString.byteAt_eq below).symm
  · have outside := fun present =>
      inside (bothEnds_subset str (Nat.div_le_self text.length 2) present)
    rw [again.kept address outside, accesses.kept address outside]

end Bytes
end ToyKernel
