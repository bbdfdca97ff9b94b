/-!
# Error codes and configuration

The values of `common.h` and `config.h` that the other modules read.
-/

namespace ToyKernel

/-- The result of a fallible call, with the names of `common.h`. -/
inductive ErrCode
  | errNone
  | errBusy
  | errBadInput
  | errBadState
  | errNotFound
  | errOutOfMemory
  | errNoMore
  | errExpired
  deriving DecidableEq, Repr

namespace ErrCode

/-- The condition `!err` of the C code. -/
def succeeded (err : ErrCode) : Bool :=
  err = .errNone

@[simp] theorem succeeded_iff (err : ErrCode) :
    err.succeeded = true ↔ err = .errNone := by
  simp [succeeded]

@[simp] theorem succeeded_eq_false_iff (err : ErrCode) :
    err.succeeded = false ↔ err ≠ .errNone := by
  simp [succeeded]

end ErrCode

/-- `CONFIG_MAX_CPUS`. -/
def configMaxCpus : Nat := 16

/-- `CONFIG_SCHEDULER_PRIORITIES`. -/
def configSchedulerPriorities : Nat := 8

/-- `CONFIG_SCHEDULER_TICK_INTERVAL`, in microseconds. -/
def configSchedulerTickInterval : Nat := 1000

end ToyKernel
