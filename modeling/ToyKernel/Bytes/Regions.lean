import ToyKernel.Bytes.Defs
import ToyKernel.Library.Terminated
import Mathlib.Data.Set.Lattice
import Mathlib.Order.CompletePartialOrder

/-!
# Regions of memory

A region is what a pointer and a size span.  It may wrap around the end of the address space.
-/

namespace ToyKernel
namespace Bytes

/-- So many bytes from an address on. -/
def region (start : BitVec 64) (count : Nat) : Set (BitVec 64) :=
  {address | (address - start).toNat < count}

/-- The byte at an offset from an address. -/
def byteAt (memory : Memory (BitVec 64) (BitVec 8)) (start : BitVec 64) (offset : Nat) :
    BitVec 8 :=
  memory.cells (start + BitVec.ofNat 64 offset)

/-- A string starts at an address. -/
def HoldsString (memory : Memory (BitVec 64) (BitVec 8)) (str : BitVec 64)
    (text : List (BitVec 8)) : Prop :=
  IsString (byteAt memory str) 0 text

section Regions

variable {start address : BitVec 64} {count more offset : Nat}

@[simp] theorem mem_region : address ∈ region start count ↔ (address - start).toNat < count :=
  Iff.rfl

@[simp] theorem region_zero : region start 0 = ∅ :=
  Set.eq_empty_of_forall_notMem fun _ => Nat.not_lt_zero _

theorem add_ofNat_sub (start : BitVec 64) (small : offset < 2 ^ 64) :
    (start + BitVec.ofNat 64 offset - start).toNat = offset := by
  rw [add_sub_cancel_left, BitVec.toNat_ofNat, Nat.mod_eq_of_lt small]

theorem add_ofNat_toNat_sub (start address : BitVec 64) :
    start + BitVec.ofNat 64 (address - start).toNat = address := by
  rw [BitVec.ofNat_toNat, BitVec.setWidth_eq, add_sub_cancel]

/-- The bytes of a region are at the offsets below its size. -/
theorem add_mem_region (small : offset < 2 ^ 64) :
    start + BitVec.ofNat 64 offset ∈ region start count ↔ offset < count := by
  rw [mem_region, add_ofNat_sub start small]

theorem exists_of_mem_region (present : address ∈ region start count) :
    ∃ offset < count, address = start + BitVec.ofNat 64 offset :=
  ⟨_, present, (add_ofNat_toNat_sub start address).symm⟩

theorem region_mono (le : count ≤ more) : region start count ⊆ region start more :=
  fun _ present => Nat.lt_of_lt_of_le present le

/-- A region with one more byte. -/
theorem region_succ (start : BitVec 64) (small : count < 2 ^ 64) :
    region start (count + 1) = insert (start + BitVec.ofNat 64 count) (region start count) := by
  ext address
  rw [Set.mem_insert_iff, mem_region, mem_region, Nat.lt_succ_iff_lt_or_eq, or_comm]
  refine or_congr_left ⟨fun isLast => ?_, fun isLast => ?_⟩
  · rw [← isLast, add_ofNat_toNat_sub]
  · rw [isLast, add_ofNat_sub start small]

/-- A region in two pieces. -/
theorem region_add (start : BitVec 64) (small : count + more ≤ 2 ^ 64) :
    region start (count + more) =
      region start count ∪ region (start + BitVec.ofNat 64 count) more := by
  ext address
  simp only [Set.mem_union, mem_region]
  bv_omega

/-- A part of a region. -/
theorem region_subset {total : Nat} (inside : count + more ≤ total) (small : total < 2 ^ 64) :
    region (start + BitVec.ofNat 64 count) more ⊆ region start total := by
  have whole := region_add start (show count + more ≤ 2 ^ 64 by omega)
  exact fun _ present => region_mono inside (whole ▸ .inr present)

theorem add_ofNat_succ (start : BitVec 64) (offset : Nat) :
    start + BitVec.ofNat 64 offset + 1 = start + BitVec.ofNat 64 (offset + 1) := by
  rw [BitVec.ofNat_add, add_assoc]
  rfl

end Regions

section Bytes

variable {before memory : Memory (BitVec 64) (BitVec 8)} {start source dst : BitVec 64}
  {count offset total : Nat} {reads writes : Set (BitVec 64)}

/-- A loop that has not begun has done nothing with any offset. -/
theorem forall_lt_zero {property : Nat → Prop} : ∀ offset < 0, property offset :=
  fun _ below => absurd below (Nat.not_lt_zero _)

/-- It has read and written nothing either. -/
theorem accesses_start (before : Memory (BitVec 64) (BitVec 8)) (reads : Set (BitVec 64))
    (dst : BitVec 64) : before.Accesses before reads (region dst 0) :=
  (Memory.Accesses.refl before).weaken (Set.empty_subset _) region_zero.symm

/-- Storing the byte behind a prefix makes the prefix longer. -/
theorem byteAt_store_succ (property : Nat → BitVec 8 → Prop) {byte : BitVec 8}
    (small : count < 2 ^ 64)
    (stored : ∀ offset < count, property offset (byteAt memory start offset))
    (now : property count byte) : ∀ offset < count + 1, property offset
      (byteAt (memory.store (start + BitVec.ofNat 64 count) byte) start offset) := by
  intro offset below
  rw [byteAt, Memory.store_cells, Function.update_apply]
  split
  · rename_i isLast
    have same : offset = count := by bv_omega
    exact same ▸ now
  · rename_i other
    have earlier : offset < count :=
      lt_of_le_of_ne (Nat.le_of_lt_succ below) fun same => other (by rw [same])
    exact stored offset earlier

/-- What is written elsewhere leaves a region alone. -/
theorem byteAt_kept (accesses : before.Accesses memory reads (region dst count))
    (disjoint : Disjoint (region dst total) (region source total)) (le : count ≤ total)
    (inside : offset < total) (small : offset < 2 ^ 64) :
    byteAt memory source offset = byteAt before source offset := by
  refine accesses.kept _ fun present => ?_
  exact disjoint.notMem_of_mem_left (region_mono le present) ((add_mem_region small).mpr inside)

end Bytes

end Bytes
end ToyKernel
