import ToyKernel.Library.BitLength

/-!
# Instructions

The functions of `x86_64/cpu.h` that the other modules use.
-/

namespace ToyKernel

/-- `bsfq`, the position of the lowest bit; `none` for zero, where the instruction leaves
its destination undefined. -/
def bsfq (value : BitVec 64) : Option (BitVec 32) :=
  if value = 0 then none else some (value.ctz.setWidth 32)

/-- `bsrq`, the position of the highest bit; `none` for zero, where the instruction leaves
its destination undefined. -/
def bsrq (value : BitVec 64) : Option Int :=
  if value = 0 then none else some value.toNat.log2

/-- One more than the position of the highest bit is the number of digits. -/
theorem bsrq_of_ne_zero {value : BitVec 64} (notZero : value ≠ 0) :
    bsrq value = some ((value.toNat.size : Int) - 1) := by
  have digits := BitLength.log2_add_one (BitVec.toNat_ne.mp notZero)
  rw [bsrq, if_neg notZero]
  congr 1
  omega

end ToyKernel
