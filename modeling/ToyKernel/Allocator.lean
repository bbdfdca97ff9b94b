import ToyKernel.Library.GuardedSection
import Mathlib.Data.Set.Lattice
import Mathlib.Order.CompletePartialOrder

/-!
# The memory allocator

`kmalloc` and the memory pools of `memory.c`.  `kfree`, `destroy_mem_pool` and `free_block` do
nothing, so a block stays with its owner.  `next_free` is read and written by one access at a
time, and only by those that have the spinlock.
-/

namespace ToyKernel
namespace Allocator

open GuardedBody

/-- `struct mem_pool`. -/
structure MemPool where
  blockSize : BitVec 64
  deriving DecidableEq

/-- The calls that allocate memory. -/
inductive Request
  | kmalloc (size : BitVec 64)
  | allocBlock (pool : MemPool)
  deriving DecidableEq

/-- The argument of the call of `kmalloc`, which `alloc_block` makes as well. -/
def Request.size : Request → BitVec 64
  | .kmalloc size => size
  | .allocBlock pool => pool.blockSize

/-- The points of control of `kmalloc` between `acquire_spinlock` and `release_spinlock`, with the
local variable and the register that `+=` adds in. -/
inductive Kmalloc
  | reading
  | loading (ptr : BitVec 64)
  | storing (ptr next : BitVec 64)
  | done (ptr : BitVec 64)
  deriving DecidableEq

/-- What `kmalloc` returns. -/
def Kmalloc.ptr : Kmalloc → BitVec 64
  | .reading => 0
  | .loading ptr | .storing ptr _ | .done ptr => ptr

/-- One access of `kmalloc` to `next_free`. -/
def Kmalloc.access (request : Request) : Kmalloc × BitVec 64 → Option (Kmalloc × BitVec 64)
  | (.reading, nextFree) => some (.loading nextFree, nextFree)
  | (.loading ptr, nextFree) => some (.storing ptr (nextFree + request.size), nextFree)
  | (.storing ptr next, _) => some (.done ptr, next)
  | (.done _, _) => none

/-- The body of `kmalloc`. -/
def kmalloc : GuardedBody Request Kmalloc (BitVec 64) where
  enter _ := .reading
  access := Kmalloc.access

/-- `kmalloc` returns `next_free` and moves it behind the block. -/
theorem kmalloc_performs {request : Request} {before after : BitVec 64} {locals : Kmalloc}
    (performs : kmalloc.Performs request before locals after) :
    locals = .done before ∧ after = before + request.size := by
  have performed : (Kmalloc.done before, before + request.size) ∈
      StateTransition.eval (Kmalloc.access request) (.reading, before) :=
    StateTransition.mem_eval.mpr ⟨.head rfl (.head rfl (.single rfl)), rfl⟩
  exact Prod.mk.inj (Part.mem_unique performs performed)

/-! ## Blocks -/

/-- The bytes of a block. -/
def block (start size : BitVec 64) : Set (BitVec 64) :=
  {address | (address - start).toNat < size.toNat}

variable {Party : Type*} {base next : BitVec 64}
  {operations : List (Operation Party Request Kmalloc)}

/-- The block that a call has returned. -/
def blockOf (operation : Operation Party Request Kmalloc) : Set (BitVec 64) :=
  block operation.locals.ptr operation.call.size

/-- The number of bytes that were asked for. -/
def total (operations : List (Operation Party Request Kmalloc)) : Nat :=
  (operations.map fun operation => operation.call.size.toNat).sum

theorem total_snoc (operations : List (Operation Party Request Kmalloc))
    (operation : Operation Party Request Kmalloc) :
    total (operations ++ [operation]) = total operations + operation.call.size.toNat := by
  rw [total, total, List.map_append, List.sum_append, List.map_singleton, List.sum_singleton]

/-- Blocks at different places are disjoint. -/
theorem block_disjoint (base first second : BitVec 64) {offset below : Nat}
    (ordered : offset + first.toNat ≤ below) (room : below + second.toNat ≤ 2 ^ 64) :
    Disjoint (block (base + BitVec.ofNat 64 offset) first)
      (block (base + BitVec.ofNat 64 below) second) := by
  refine Set.disjoint_left.mpr fun address inFirst inSecond => ?_
  rw [block, Set.mem_ofPred_eq] at inFirst inSecond
  bv_omega

/-- Where the blocks of serial calls are. -/
structure Allocated (base : BitVec 64) (operations : List (Operation Party Request Kmalloc))
    (nextFree : BitVec 64) : Prop where
  nextFree : nextFree = base + BitVec.ofNat 64 (total operations)
  below : ∀ operation ∈ operations, ∃ offset,
    operation.locals.ptr = base + BitVec.ofNat 64 offset ∧
      offset + operation.call.size.toNat ≤ total operations
  disjoint : total operations ≤ 2 ^ 64 →
    operations.Pairwise fun first second => Disjoint (blockOf first) (blockOf second)

theorem allocated_of_serial (serial : Serial kmalloc base operations next) :
    Allocated base operations next := by
  induction serial with
  | nil => exact ⟨(BitVec.add_zero base).symm, nofun, fun _ => .nil⟩
  | @snoc operations before after operation _ performs allocated =>
      obtain ⟨isDone, rfl⟩ := kmalloc_performs performs
      have start : operation.locals.ptr = base + BitVec.ofNat 64 (total operations) := by
        rw [isDone, ← allocated.nextFree]
        rfl
      refine ⟨?_, fun other present => ?_, fun room => ?_⟩
      · rw [allocated.nextFree, total_snoc, BitVec.ofNat_add, BitVec.ofNat_toNat,
          BitVec.setWidth_eq, BitVec.add_assoc]
      · rw [total_snoc]
        obtain earlier | isLast := List.mem_append.mp present
        · obtain ⟨offset, address, fits⟩ := allocated.below other earlier
          exact ⟨offset, address, fits.trans (Nat.le_add_right ..)⟩
        · obtain rfl := List.mem_singleton.mp isLast
          exact ⟨total operations, start, le_refl _⟩
      · rw [total_snoc] at room
        refine List.pairwise_append.mpr ⟨allocated.disjoint (by omega),
          List.pairwise_singleton .., fun other earlier last isLast => ?_⟩
        obtain rfl := List.mem_singleton.mp isLast
        obtain ⟨offset, address, fits⟩ := allocated.below other earlier
        rw [blockOf, blockOf, address, start]
        exact block_disjoint base _ _ fits room

/-- Whatever the interleaving of the calls of `kmalloc` and `alloc_block`, no two of them return
blocks that overlap, as long as the sizes do not add up to more than the address space. -/
theorem blocks_disjoint [DecidableEq Party] {actions : List (Action Party Request)}
    {state : State Party Request Kmalloc (BitVec 64)} (short : actions.length < 2 ^ 64)
    (executed : (kmalloc.system base).exec (started base) actions = some state)
    (room : total state.finished ≤ 2 ^ 64) :
    state.finished.Pairwise fun first second => Disjoint (blockOf first) (blockOf second) := by
  obtain ⟨next, serial, -⟩ := (sound_of_exec short executed).holds
  exact (allocated_of_serial serial).disjoint room

/-- Two processors allocate a block each; the second one finds the lock taken at first. -/
def contended : List (Action Nat Request) :=
  [.call 0 (.kmalloc 24), .call 1 (.allocBlock ⟨16⟩), .exchange 0, .access 0, .exchange 1,
    .access 0, .access 0, .release 0, .exchange 1, .access 1, .access 1, .access 1, .release 1]

theorem blocks_disjoint_contended : ∃ state : State Nat Request Kmalloc (BitVec 64),
    (kmalloc.system 0x120000).exec (started 0x120000) contended = some state ∧
      state.finished.length = 2 ∧
      state.finished.Pairwise fun first second => Disjoint (blockOf first) (blockOf second) := by
  obtain ⟨state, executed, checked⟩ := (Option.any_eq_true _ _).mp
    (show ((kmalloc.system 0x120000).exec (started 0x120000) contended).any (fun state =>
      state.finished.length = 2 ∧ total state.finished ≤ 2 ^ 64) = true by decide +kernel)
  obtain ⟨both, room⟩ := of_decide_eq_true checked
  exact ⟨state, executed, both, blocks_disjoint (by decide) executed room⟩

end Allocator
end ToyKernel
