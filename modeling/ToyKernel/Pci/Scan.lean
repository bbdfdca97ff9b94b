import ToyKernel.Pci.Fields
import ToyKernel.Library.DepthFirst

/-!
# The scan of the buses

`scan_pci` is a depth-first walk of the bus numbers without a visited set: at a bus it
handles the functions that are present there in order, and descends where one is a bridge.
It returns exactly when no bus that it can reach is behind itself, and over a forest of buses
it calls `proc` once for every matching function.
-/

namespace ToyKernel
namespace Pci

open Relation

/-! ### What the scan reads of a device -/

section Registers

variable (registers : Registers)

/-- The vendor of a function. -/
def vendorId (device : BitVec 32) : BitVec 32 :=
  fieldBits (registers (getAddr device pciFieldVendorId)) 0 15

/-- Whether a function 0 says that its slot has others. -/
def multipleFunctions (device : BitVec 32) : BitVec 32 :=
  fieldBits (registers (getAddr device pciFieldMultipleFunctions)) 23 23

/-- The bus behind a bridge. -/
def secondaryBus (device : BitVec 32) : BitVec 32 :=
  fieldBits (registers (getAddr device pciFieldSecondaryBus)) 8 15

/-- The class and the subclass of a function. -/
def deviceType (device : BitVec 32) : BitVec 32 :=
  fieldBits (registers (getAddr device pciFieldClass)) 24 31 <<< 8 |||
    fieldBits (registers (getAddr device pciFieldSubclass)) 16 23

@[simp] theorem readPciField_vendorId (device : BitVec 32) :
    readPciField registers device pciFieldVendorId = some (vendorId registers device) :=
  readPciField_eq registers device pciFieldVendorId (by decide) (by decide)

@[simp] theorem readPciField_multipleFunctions (device : BitVec 32) :
    readPciField registers device pciFieldMultipleFunctions =
      some (multipleFunctions registers device) :=
  readPciField_eq registers device pciFieldMultipleFunctions (by decide) (by decide)

@[simp] theorem readPciField_secondaryBus (device : BitVec 32) :
    readPciField registers device pciFieldSecondaryBus =
      some (secondaryBus registers device) :=
  readPciField_eq registers device pciFieldSecondaryBus (by decide) (by decide)

@[simp] theorem getPciType_eq (device : BitVec 32) :
    getPciType registers device = some (deviceType registers device) := by
  have high := readPciField_eq registers device pciFieldClass (by decide) (by decide)
  have low := readPciField_eq registers device pciFieldSubclass (by decide) (by decide)
  simp only [getPciType, high, low, Option.bind_eq_bind, Option.bind_some]
  rfl

/-! ### The scan as a walk -/

/-- The functions 1 to 7, as the loops count them. -/
def otherFunctions : List (BitVec 32) :=
  (List.range' 1 7).map (BitVec.ofNat 32)

/-- The functions of a slot that the scan handles, in order. -/
def slotFunctions (bus slot : BitVec 32) : List (BitVec 32) :=
  if vendorId registers (getPciDevice bus slot 0) = 0xFFFF then []
  else if multipleFunctions registers (getPciDevice bus slot 0) = 0 then [0]
  else 0 :: otherFunctions.filter
    (fun func => vendorId registers (getPciDevice bus slot func) ≠ 0xFFFF)

/-- The devices of a bus that the scan handles, in order. -/
def busDevices (bus : BitVec 32) : List (BitVec 32) :=
  (List.range 32).flatMap fun slot =>
    (slotFunctions registers bus (BitVec.ofNat 32 slot)).map
      (getPciDevice bus (BitVec.ofNat 32 slot))

/-- The buses that `scan_pci` starts from. -/
def rootBuses : List (BitVec 32) :=
  if multipleFunctions registers 0 = 0 then [0]
  else 0 :: otherFunctions.takeWhile
    (fun func => vendorId registers (getPciDevice 0 0 func) ≠ 0xFFFF)

variable (type : BitVec 32)

/-- What the scan does at a device. -/
def deviceStep (device : BitVec 32) : WalkStep (BitVec 32) (BitVec 32) where
  outputs := if type = -1 ∨ deviceType registers device = type then [device] else []
  descent :=
    if deviceType registers device = pciTypePciToPciBridge then
      some (secondaryBus registers device)
    else none

/-- What the scan does at a bus. -/
def busSteps (bus : BitVec 32) : List (WalkStep (BitVec 32) (BitVec 32)) :=
  (busDevices registers bus).map (deviceStep registers type)

variable {scanBus : BitVec 32 → Option (List (BitVec 32))}

theorem scanFunc_eq (bus slot func : BitVec 32) :
    scanFunc registers type scanBus bus slot func =
      walkSteps scanBus [deviceStep registers type (getPciDevice bus slot func)] := by
  simp only [scanFunc, getPciType_eq, readPciField_secondaryBus, Option.bind_eq_bind,
    Option.bind_some, walkSteps, deviceStep]
  rcases em (type = -1 ∨ deviceType registers (getPciDevice bus slot func) = type) with
    wanted | unwanted
  · rw [if_pos wanted, if_pos wanted]
    split <;> simp
  · rw [if_neg unwanted, if_neg unwanted]
    split <;> simp

end Registers

/-- A loop handles the steps of its rounds in sequence. -/
theorem forEach_eq {descend : BitVec 32 → Option (List (BitVec 32))} {values : List Nat}
    {body : BitVec 32 → Option (List (BitVec 32))}
    {steps : Nat → List (WalkStep (BitVec 32) (BitVec 32))}
    (rounds : ∀ value, body (BitVec.ofNat 32 value) = walkSteps descend (steps value)) :
    forEach values body = walkSteps descend (values.flatMap steps) := by
  induction values with
  | nil => rfl
  | cons value values inductionHypothesis =>
      rw [forEach, rounds, inductionHypothesis, List.flatMap_cons, walkSteps_append]

variable (registers : Registers) (type : BitVec 32)
variable {scanBus : BitVec 32 → Option (List (BitVec 32))}

/-- A loop that skips values handles the steps of the others. -/
theorem forEach_filter (descend : BitVec 32 → Option (List (BitVec 32))) (values : List Nat)
    (keep : BitVec 32 → Prop) [DecidablePred keep]
    (step : BitVec 32 → WalkStep (BitVec 32) (BitVec 32)) :
    forEach values (fun value => if keep value then walkSteps descend [step value] else some []) =
      walkSteps descend (((values.map (BitVec.ofNat 32)).filter keep).map step) := by
  induction values with
  | nil => rfl
  | cons value values inductionHypothesis =>
      rw [forEach, inductionHypothesis, List.map_cons]
      by_cases kept : keep (BitVec.ofNat 32 value)
      · rw [if_pos kept, List.filter_cons_of_pos (by simpa using kept), List.map_cons]
        exact walkSteps_cons.symm
      · rw [if_neg kept, List.filter_cons_of_neg (by simpa using kept)]
        simp

theorem scanSlot_eq (bus slot : BitVec 32) :
    scanSlot registers type scanBus bus slot =
      walkSteps scanBus (((slotFunctions registers bus slot).map (getPciDevice bus slot)).map
        (deviceStep registers type)) := by
  simp only [scanSlot, scanFunc_eq, readPciField_vendorId, readPciField_multipleFunctions,
    Option.bind_eq_bind, Option.bind_some, slotFunctions, Option.pure_def]
  by_cases absent : vendorId registers (getPciDevice bus slot 0) = 0xFFFF
  · rw [if_pos absent, if_pos absent]
    rfl
  · rw [if_neg absent, if_neg absent]
    by_cases single : multipleFunctions registers (getPciDevice bus slot 0) = 0
    · simp only [single, if_true, List.map_cons, List.map_nil]
      exact Option.bind_fun_some _
    · simp only [single, if_false, forEach_filter scanBus (List.range' 1 7)
        (fun func => vendorId registers (getPciDevice bus slot func) ≠ 0xFFFF)
        (fun func => deviceStep registers type (getPciDevice bus slot func))]
      rw [List.map_cons, List.map_cons, List.map_map]
      exact walkSteps_cons.symm

/-- `scan_bus` is the walk from its bus. -/
theorem scanBus_eq_walk (fuel : Nat) (bus : BitVec 32) :
    Pci.scanBus registers type fuel bus = walk (busSteps registers type) fuel bus := by
  induction fuel generalizing bus with
  | zero => rfl
  | succ fuel inductionHypothesis =>
      have same : Pci.scanBus registers type fuel = walk (busSteps registers type) fuel :=
        funext inductionHypothesis
      rw [Pci.scanBus, walk, same, busSteps, busDevices, List.map_flatMap]
      exact forEach_eq fun slot => scanSlot_eq registers type bus (BitVec.ofNat 32 slot)

/-- The loop of `scan_pci` walks from the functions before the first absent one. -/
theorem scanRoots_eq (fuel : Nat) (funcs : List Nat) :
    scanRoots registers type fuel funcs =
      walkRoots (busSteps registers type) fuel ((funcs.map (BitVec.ofNat 32)).takeWhile
        (fun func => vendorId registers (getPciDevice 0 0 func) ≠ 0xFFFF)) := by
  induction funcs with
  | nil => rfl
  | cons func funcs inductionHypothesis =>
      simp only [scanRoots, readPciField_vendorId, Option.bind_eq_bind, Option.bind_some,
        inductionHypothesis, scanBus_eq_walk, List.map_cons]
      by_cases there : vendorId registers (getPciDevice 0 0 (BitVec.ofNat 32 func)) ≠ 0xFFFF
      · rw [if_pos there, List.takeWhile_cons_of_pos (by simpa using there), walkRoots_cons]
        rfl
      · rw [if_neg there, List.takeWhile_cons_of_neg (by simpa using there)]
        rfl

/-- `scan_pci` is the walk from its root buses. -/
theorem scanPci_eq_walkRoots (fuel : Nat) :
    scanPci registers type fuel =
      walkRoots (busSteps registers type) fuel (rootBuses registers) := by
  simp only [scanPci, readPciField_multipleFunctions, Option.bind_eq_bind, Option.bind_some,
    scanRoots_eq, scanBus_eq_walk, rootBuses]
  by_cases single : multipleFunctions registers 0 = 0
  · rw [if_pos single, walkRoots_cons]
    simp only [single, if_true]
    cases walk (busSteps registers type) fuel 0 with
    | none => rfl
    | some called => simp [walkRoots]
  · rw [if_neg single, walkRoots_cons]
    simp only [single, if_false]
    rfl

end Pci
end ToyKernel
