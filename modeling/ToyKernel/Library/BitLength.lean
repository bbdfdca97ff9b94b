import Mathlib.Algebra.Group.Nat.Defs
import Mathlib.Data.Nat.Size
import Mathlib.Data.Nat.Log
import Mathlib.Order.Bounds.Basic

/-!
# Lengths of numbers in binary

`Nat.size` counts the binary digits of a number.  It decides how far a number has to be
shifted to fit into a width, and how many digits number a given count of things.
-/

namespace ToyKernel
namespace BitLength

variable {n : Nat}

/-- The length is one more than the position of the highest digit. -/
theorem log2_add_one (notZero : n ≠ 0) : n.log2 + 1 = n.size := by
  apply Nat.le_antisymm
  · exact Nat.lt_size.mpr (Nat.log2_self_le notZero)
  · exact Nat.size_le.mpr Nat.lt_log2_self

/-- A number fits into a width after a shift by the digits it has in excess. -/
theorem shift_lt_iff (n width shift : Nat) :
    n / 2 ^ shift < 2 ^ width ↔ n.size ≤ width + shift := by
  rw [Nat.div_lt_iff_lt_mul (Nat.two_pow_pos shift), ← Nat.pow_add, Nat.size_le]

/-- The least shift after which a number fits into a width. -/
theorem isLeast_shift (n width : Nat) :
    IsLeast {shift | n / 2 ^ shift < 2 ^ width} (n.size - width) := by
  constructor
  · exact (shift_lt_iff n width _).mpr (by omega)
  · intro shift fits
    have := (shift_lt_iff n width shift).mp fits
    omega

/-- A shift that leaves a number too long for a smaller width leaves digits. -/
theorem shift_pos {shift : Nat} (short : shift < n.size) : 0 < n / 2 ^ shift :=
  Nat.div_pos (Nat.lt_size.mp short) (Nat.two_pow_pos shift)

/-- As many digits as the greatest of `n` numbers from zero has distinguish them. -/
theorem size_pred (positive : 0 < n) : (n - 1).size = Nat.clog 2 n := by
  apply Nat.le_antisymm
  · rw [Nat.size_le]
    have := (Nat.clog_le_iff_le_pow Nat.one_lt_two).mp (Nat.le_refl (Nat.clog 2 n))
    omega
  · rw [Nat.clog_le_iff_le_pow Nat.one_lt_two]
    have := Nat.size_le.mp (Nat.le_refl (n - 1).size)
    omega

end BitLength
end ToyKernel
