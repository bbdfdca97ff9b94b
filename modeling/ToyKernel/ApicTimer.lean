import ToyKernel.Cpu

/-!
# The timer of the local APIC

`start_apic_timer` of `x86_64/apic.c`.  The count for an interval can be longer than the 32
bits of the register for it.  It is then shifted by the bits in excess, and the timer is
told to divide its clock by the same power of two.

The number of those bits comes from the position of the highest bit, which is not defined
for a count of zero; the function replaces such a count only afterwards.
-/

namespace ToyKernel
namespace ApicTimer

/-- `LAPIC_TIMER_REG`. -/
def lapicTimerReg : Nat := 0x320

/-- `LAPIC_TIMER_INITIAL_REG`. -/
def lapicTimerInitialReg : Nat := 0x380

/-- `LAPIC_TIMER_DIVIDE_REG`. -/
def lapicTimerDivideReg : Nat := 0x3E0

/-- `LAPIC_TIMER_PERIODIC`. -/
def lapicTimerPeriodic : BitVec 32 := 1 <<< 17

/-- `INT_VECTOR_APIC_TIMER`. -/
def intVectorApicTimer : BitVec 32 := 33

/-- `LAPIC_TIMER_DIVIDE_BY_1`. -/
def lapicTimerDivideBy1 : BitVec 32 := 0xB

/-- `LAPIC_TIMER_DIVIDE_BY_2`. -/
def lapicTimerDivideBy2 : BitVec 32 := 0x0

/-- `LAPIC_TIMER_DIVIDE_BY_4`. -/
def lapicTimerDivideBy4 : BitVec 32 := 0x1

/-- `LAPIC_TIMER_DIVIDE_BY_8`. -/
def lapicTimerDivideBy8 : BitVec 32 := 0x2

/-- `LAPIC_TIMER_DIVIDE_BY_16`. -/
def lapicTimerDivideBy16 : BitVec 32 := 0x3

/-- `LAPIC_TIMER_DIVIDE_BY_32`. -/
def lapicTimerDivideBy32 : BitVec 32 := 0x8

/-- `LAPIC_TIMER_DIVIDE_BY_64`. -/
def lapicTimerDivideBy64 : BitVec 32 := 0x9

/-- `LAPIC_TIMER_DIVIDE_BY_128`. -/
def lapicTimerDivideBy128 : BitVec 32 := 0xA

/-- A call of `write_lapic`. -/
structure Write where
  reg : Nat
  value : BitVec 32
  deriving DecidableEq

/-- How `start_apic_timer` ends, and the calls of `write_lapic` before. -/
inductive Outcome
  | returns (writes : List Write)
  | panics (message : String) (writes : List Write)
  deriving DecidableEq

/-- `stop_apic_timer`. -/
def stopApicTimer : List Write :=
  [⟨lapicTimerInitialReg, 0⟩]

/-- The `switch` of `start_apic_timer`: the variables `initial` and `divide` after it, or
`none` for the panic. -/
def scale (extraBits : Int) (initial : BitVec 64) : Option (BitVec 64 × BitVec 32) :=
  match extraBits with
  | 1 => some (initial >>> 1, lapicTimerDivideBy2)
  | 2 => some (initial >>> 2, lapicTimerDivideBy4)
  | 3 => some (initial >>> 3, lapicTimerDivideBy8)
  | 4 => some (initial >>> 4, lapicTimerDivideBy16)
  | 5 => some (initial >>> 5, lapicTimerDivideBy32)
  | 6 => some (initial >>> 6, lapicTimerDivideBy64)
  | 7 => some (initial >>> 7, lapicTimerDivideBy128)
  | extraBits =>
      if extraBits > 7 then none
      else some (if initial = 0 then 1 else initial, lapicTimerDivideBy1)

/-- The first value of the variable `initial`. -/
def initialCount (timer10msTicks interval : BitVec 32) : BitVec 64 :=
  interval.signExtend 64 * timer10msTicks.setWidth 64 / 10000

/-- The writes at the end of `start_apic_timer`. -/
def programTimer (periodic : Bool) (divide initial : BitVec 32) : List Write :=
  [⟨lapicTimerReg, (if periodic then lapicTimerPeriodic else 0) ||| intVectorApicTimer⟩,
    ⟨lapicTimerDivideReg, divide⟩, ⟨lapicTimerInitialReg, initial⟩]

/-- `start_apic_timer`; `none` when it uses an undefined result of `bsrq`. -/
def startApicTimer (timer10msTicks interval : BitVec 32) (periodic : Bool) :
    Option Outcome := do
  let initial := initialCount timer10msTicks interval
  let extraBits := (← bsrq initial) - 31
  match scale extraBits initial with
  | none => some (.panics "timer overflow" stopApicTimer)
  | some (initial, divide) =>
      some (.returns (stopApicTimer ++ programTimer periodic divide (initial.setWidth 32)))

/-- The code of the divider `2 ^ exponent`. -/
def divideCode : Nat → Option (BitVec 32)
  | 0 => some lapicTimerDivideBy1
  | 1 => some lapicTimerDivideBy2
  | 2 => some lapicTimerDivideBy4
  | 3 => some lapicTimerDivideBy8
  | 4 => some lapicTimerDivideBy16
  | 5 => some lapicTimerDivideBy32
  | 6 => some lapicTimerDivideBy64
  | 7 => some lapicTimerDivideBy128
  | _ => none

theorem scale_of_nonpos {extraBits : Int} {initial : BitVec 64} (notZero : initial ≠ 0)
    (few : extraBits ≤ 0) : scale extraBits initial = some (initial, lapicTimerDivideBy1) := by
  unfold scale
  split <;> first
    | omega
    | rw [if_neg (by omega), if_neg notZero]

theorem scale_of_many {extraBits : Int} (many : 7 < extraBits) (initial : BitVec 64) :
    scale extraBits initial = none := by
  unfold scale
  split <;> first
    | omega
    | exact if_pos many

/-- The count is shifted by all bits in excess, if there is a divider for them. -/
theorem scale_eq {initial : BitVec 64} (notZero : initial ≠ 0) :
    scale ((initial.toNat.size : Int) - 1 - 31) initial =
      (divideCode (initial.toNat.size - 32)).map fun divide =>
        (initial >>> (initial.toNat.size - 32), divide) := by
  generalize initial.toNat.size = length
  obtain fits | ⟨extra, rfl⟩ := (Nat.le_total length 32).imp_right Nat.exists_eq_add_of_le
  · rw [scale_of_nonpos notZero (by omega), Nat.sub_eq_zero_of_le fits]
    simp [divideCode]
  · have excess : ((32 + extra : Nat) : Int) - 1 - 31 = extra := by omega
    rw [excess, Nat.add_sub_cancel_left]
    match extra with
    | 0 => simp [scale_of_nonpos notZero, divideCode]
    | 1 | 2 | 3 | 4 | 5 | 6 | 7 => rfl
    | extra + 8 => exact scale_of_many (by omega) initial

theorem isSome_divideCode_iff {exponent : Nat} :
    (divideCode exponent).isSome = true ↔ exponent ≤ 7 := by
  match exponent with
  | 0 | 1 | 2 | 3 | 4 | 5 | 6 | 7 => simp [divideCode]
  | exponent + 8 => simp [divideCode]

/-- Intervals are not negative, and the product of two numbers of 32 bits fits. -/
theorem toNat_initialCount {interval : BitVec 32} (nonneg : 0 ≤ interval.toInt)
    (timer10msTicks : BitVec 32) :
    (initialCount timer10msTicks interval).toNat =
      interval.toNat * timer10msTicks.toNat / 10000 := by
  have fits : interval.toNat * timer10msTicks.toNat < 2 ^ 64 := by
    have : _ < 2 ^ 32 * 2 ^ 32 := Nat.mul_lt_mul'' interval.isLt timer10msTicks.isLt
    omega
  have isPositive : interval.msb = false := by
    rw [BitVec.msb_eq_toInt, decide_eq_false_iff_not]
    omega
  rw [initialCount, BitVec.signExtend_eq_setWidth_of_msb_false isPositive, BitVec.toNat_udiv,
    BitVec.toNat_mul, BitVec.toNat_setWidth_of_le (by decide),
    BitVec.toNat_setWidth_of_le (by decide), Nat.mod_eq_of_lt fits]
  rfl

/-- `start_apic_timer` for a count that is not zero. -/
theorem startApicTimer_eq {timer10msTicks interval : BitVec 32}
    (notZero : initialCount timer10msTicks interval ≠ 0) (periodic : Bool) :
    let initial := initialCount timer10msTicks interval
    let excess := initial.toNat.size - 32
    startApicTimer timer10msTicks interval periodic = some (
      match divideCode excess with
      | none => .panics "timer overflow" stopApicTimer
      | some divide => .returns (stopApicTimer ++
          programTimer periodic divide ((initial >>> excess).setWidth 32))) := by
  intro initial excess
  rw [startApicTimer, bsrq_of_ne_zero notZero]
  simp only [Option.bind_eq_bind, Option.bind_some, scale_eq notZero]
  cases divideCode excess <;> rfl

/-- The timer counts the interval exactly: `start_apic_timer` uses no undefined result,
panics if there is no divider, and otherwise programs the least divider with which the count
fits. -/
def Exact (timer10msTicks interval : BitVec 32) (periodic : Bool) : Prop :=
  let requested := interval.toNat * timer10msTicks.toNat / 10000
  ∃ outcome, startApicTimer timer10msTicks interval periodic = some outcome ∧
    ((∃ message writes, outcome = .panics message writes) ↔ 2 ^ 39 ≤ requested) ∧
    (requested < 2 ^ 39 → ∃ count exponent divide,
      outcome = .returns
        (stopApicTimer ++ programTimer periodic divide (BitVec.ofNat 32 count)) ∧
      1 ≤ count ∧ count < 2 ^ 32 ∧ exponent ≤ 7 ∧ divideCode exponent = some divide ∧
      count = max 1 (requested / 2 ^ exponent) ∧
      IsLeast {shift | requested / 2 ^ shift < 2 ^ 32} exponent)

theorem exact_of_pos {timer10msTicks interval : BitVec 32} (nonneg : 0 ≤ interval.toInt)
    (positive : 1 ≤ interval.toNat * timer10msTicks.toNat / 10000) (periodic : Bool) :
    Exact timer10msTicks interval periodic := by
  have isCount := toNat_initialCount nonneg timer10msTicks
  have notZero : initialCount timer10msTicks interval ≠ 0 := by
    intro isZero
    rw [← isCount, isZero] at positive
    exact absurd positive (by decide)
  have started := startApicTimer_eq notZero periodic
  simp only [isCount] at started
  have shifted (shift : Nat) :
      (initialCount timer10msTicks interval >>> shift).setWidth 32 = BitVec.ofNat 32
        (interval.toNat * timer10msTicks.toNat / 10000 / 2 ^ shift) := by
    rw [← BitVec.ofNat_toNat, BitVec.toNat_ushiftRight, isCount, Nat.shiftRight_eq_div_pow]
  simp only [shifted] at started
  rw [Exact]
  generalize interval.toNat * timer10msTicks.toNat / 10000 = requested at *
  have least := BitLength.isLeast_shift requested 32
  have divides : (divideCode (requested.size - 32)).isSome = true ↔ requested < 2 ^ 39 := by
    rw [isSome_divideCode_iff, ← Nat.size_le]
    omega
  refine ⟨_, started, ?_, fun few => ?_⟩
  · rw [← Nat.not_lt, ← divides]
    cases divideCode (requested.size - 32) <;> simp
  · obtain ⟨divide, found⟩ := Option.isSome_iff_exists.mp (divides.mpr few)
    have fits : requested / 2 ^ (requested.size - 32) < 2 ^ 32 := least.1
    have left : 0 < requested / 2 ^ (requested.size - 32) := by
      apply BitLength.shift_pos
      have := Nat.size_pos.mpr positive
      omega
    refine ⟨requested / 2 ^ (requested.size - 32), requested.size - 32, divide, ?_, left, fits,
      isSome_divideCode_iff.mp (divides.mpr few), found, (max_eq_right left).symm, least⟩
    rw [found]

/-- The timer counts the interval exactly if and only if the count is not zero. -/
theorem exact_iff_pos {timer10msTicks interval : BitVec 32} (nonneg : 0 ≤ interval.toInt)
    (periodic : Bool) :
    Exact timer10msTicks interval periodic ↔
      1 ≤ interval.toNat * timer10msTicks.toNat / 10000 := by
  refine ⟨fun holds => ?_, fun positive => exact_of_pos nonneg positive periodic⟩
  obtain ⟨outcome, started, -⟩ := holds
  by_contra none
  have isZero : initialCount timer10msTicks interval = 0 := by
    apply BitVec.eq_of_toNat_eq
    rw [toNat_initialCount nonneg]
    exact Nat.lt_one_iff.mp (Nat.lt_of_not_le none)
  rw [startApicTimer, isZero] at started
  cases started

/-- The interval of the scheduler, with a clock of one gigahertz. -/
theorem exact_iff_pos_scheduler :
    Exact 10000000 1000 true :=
  (exact_iff_pos (by decide) true).mpr (by decide)

/-- No interval at all. -/
theorem exact_fails :
    ¬ ∀ (timer10msTicks interval : BitVec 32) (periodic : Bool), 0 ≤ interval.toInt →
      Exact timer10msTicks interval periodic := by
  intro always
  obtain ⟨outcome, started, -⟩ := always 10000000 0 false (by decide)
  cases started

end ApicTimer
end ToyKernel
