import ToyKernel.Pci.Scan

/-!
# Bridges and the topology of the buses

The devices, bridges and root buses that a configuration space describes, and what the scan
does on them: it returns exactly when no bus it reaches is behind itself, and on a proper
topology it finds every matching function once.
-/

namespace ToyKernel
namespace Pci

open Relation

variable (registers : Registers)

/-- A function of a slot is present. -/
def Present (bus slot func : BitVec 32) : Prop :=
  vendorId registers (getPciDevice bus slot 0) ≠ 0xFFFF ∧
    (func = 0 ∨ multipleFunctions registers (getPciDevice bus slot 0) ≠ 0 ∧
      vendorId registers (getPciDevice bus slot func) ≠ 0xFFFF)

/-- The device is a present function on the bus. -/
def OnBus (bus device : BitVec 32) : Prop :=
  ∃ slot func : Nat, slot < 32 ∧ func < 8 ∧
    Present registers bus (BitVec.ofNat 32 slot) (BitVec.ofNat 32 func) ∧
      device = getPciDevice bus (BitVec.ofNat 32 slot) (BitVec.ofNat 32 func)

/-- The device is a present bridge on the first bus, with the second bus behind it. -/
def Bridge (bus device child : BitVec 32) : Prop :=
  OnBus registers bus device ∧ deviceType registers device = pciTypePciToPciBridge ∧
    secondaryBus registers device = child

/-- A bridge leads from the first bus to the second. -/
def BusEdge (bus child : BitVec 32) : Prop :=
  ∃ device, Bridge registers bus device child

/-- Bus 0 and, where function 0 of device 0:0 has others beside it, the buses numbered like
its functions from 1 on up to the first one that is not there. -/
def RootBus (there : BitVec 32 → Prop) (bus : BitVec 32) : Prop :=
  bus = 0 ∨ multipleFunctions registers (getPciDevice 0 0 0) ≠ 0 ∧
    ∃ k : Nat, 1 ≤ k ∧ k ≤ 7 ∧ bus = BitVec.ofNat 32 k ∧
      ∀ func : Nat, 1 ≤ func → func ≤ k → there (BitVec.ofNat 32 func)

/-- The root buses by what `scan_pci` reads. -/
def ScanRoot : BitVec 32 → Prop :=
  RootBus registers fun func => vendorId registers (getPciDevice 0 0 func) ≠ 0xFFFF

/-- The root buses of the topology. -/
def TopologyRoot : BitVec 32 → Prop :=
  RootBus registers (Present registers 0 0)

/-- The buses form a forest below the root buses, with one bridge to each of the others. -/
structure ProperTopology : Prop where
  forest : IsForest (BusEdge registers) (TopologyRoot registers)
  oneBridge : ∀ {bus left right child},
    Below (BusEdge registers) (TopologyRoot registers) bus →
      Bridge registers bus left child → Bridge registers bus right child → left = right

/-- `scan_pci` returns, and has called `proc` with these devices. -/
def Returns (type : BitVec 32) (called : List (BitVec 32)) : Prop :=
  ∃ fuel, scanPci registers type fuel = some called

variable {registers}

/-! ### The lists of the scan -/

theorem mem_otherFunctions_iff (func : BitVec 32) :
    func ∈ otherFunctions ↔ ∃ n : Nat, 1 ≤ n ∧ n < 8 ∧ func = BitVec.ofNat 32 n := by
  simp only [otherFunctions, List.mem_map, List.mem_range'_1]
  constructor
  · rintro ⟨n, ⟨positive, small⟩, rfl⟩
    exact ⟨n, positive, small, rfl⟩
  · rintro ⟨n, positive, small, rfl⟩
    exact ⟨n, ⟨positive, small⟩, rfl⟩

/-- The scan of a slot handles the present functions. -/
theorem mem_slotFunctions_iff (bus slot func : BitVec 32) :
    func ∈ slotFunctions registers bus slot ↔
      Present registers bus slot func ∧ ∃ n < 8, func = BitVec.ofNat 32 n := by
  have zeroSmall : ∃ n < 8, (0 : BitVec 32) = BitVec.ofNat 32 n := ⟨0, by decide, rfl⟩
  rw [slotFunctions, Present]
  by_cases absent : vendorId registers (getPciDevice bus slot 0) = 0xFFFF
  · rw [if_pos absent]
    simp only [List.not_mem_nil, false_iff]
    rintro ⟨⟨there, -⟩, -⟩
    exact there absent
  rw [if_neg absent]
  by_cases single : multipleFunctions registers (getPciDevice bus slot 0) = 0
  · rw [if_pos single, List.mem_singleton]
    constructor
    · rintro rfl
      exact ⟨⟨absent, Or.inl rfl⟩, zeroSmall⟩
    · rintro ⟨⟨-, zero | ⟨several, -⟩⟩, -⟩
      · exact zero
      · exact absurd single several
  · rw [if_neg single, List.mem_cons, List.mem_filter, mem_otherFunctions_iff,
      decide_eq_true_iff]
    constructor
    · rintro (rfl | ⟨⟨n, -, small, rfl⟩, there⟩)
      · exact ⟨⟨absent, Or.inl rfl⟩, zeroSmall⟩
      · exact ⟨⟨absent, Or.inr ⟨single, there⟩⟩, n, small, rfl⟩
    · rintro ⟨⟨-, zero | ⟨-, there⟩⟩, n, small, number⟩
      · exact Or.inl zero
      · rcases Nat.eq_zero_or_pos n with rfl | positive
        · exact Or.inl number
        · exact Or.inr ⟨⟨n, positive, small, number⟩, there⟩

/-- The scan of a bus handles the present functions on it. -/
theorem mem_busDevices_iff (bus device : BitVec 32) :
    device ∈ busDevices registers bus ↔ OnBus registers bus device := by
  simp only [busDevices, List.mem_flatMap, List.mem_range, List.mem_map, mem_slotFunctions_iff]
  constructor
  · rintro ⟨slot, slotSmall, _, ⟨present, func, funcSmall, rfl⟩, rfl⟩
    exact ⟨slot, func, slotSmall, funcSmall, present, rfl⟩
  · rintro ⟨slot, func, slotSmall, funcSmall, present, rfl⟩
    exact ⟨slot, slotSmall, _, ⟨present, func, funcSmall, rfl⟩, rfl⟩

/-- A loop that ends at the first value without the property handles the ones before. -/
theorem mem_takeWhile_range'_iff (there : BitVec 32 → Prop) [DecidablePred there]
    (start length : Nat) (bus : BitVec 32) :
    bus ∈ ((List.range' start length).map (BitVec.ofNat 32)).takeWhile (fun func => there func) ↔
      ∃ k, start ≤ k ∧ k < start + length ∧ bus = BitVec.ofNat 32 k ∧
        ∀ func, start ≤ func → func ≤ k → there (BitVec.ofNat 32 func) := by
  induction length generalizing start with
  | zero =>
      simp only [List.range'_zero, List.map_nil, List.takeWhile_nil, List.not_mem_nil, false_iff]
      rintro ⟨k, after, before, -⟩
      omega
  | succ length inductionHypothesis =>
      rw [List.range'_succ, List.map_cons]
      by_cases first : there (BitVec.ofNat 32 start)
      · rw [List.takeWhile_cons_of_pos (by simpa using first), List.mem_cons,
          inductionHypothesis]
        constructor
        · rintro (rfl | ⟨k, after, before, rfl, all⟩)
          · refine ⟨start, le_rfl, by omega, rfl, ?_⟩
            intro func low high
            rwa [Nat.le_antisymm high low]
          · refine ⟨k, by omega, by omega, rfl, ?_⟩
            intro func low high
            rcases Nat.eq_or_lt_of_le low with rfl | later
            · exact first
            · exact all func later high
        · rintro ⟨k, after, before, rfl, all⟩
          rcases Nat.eq_or_lt_of_le after with rfl | later
          · exact Or.inl rfl
          · exact Or.inr ⟨k, later, by omega, rfl, fun func low => all func (by omega)⟩
      · rw [List.takeWhile_cons_of_neg (by simpa using first)]
        simp only [List.not_mem_nil, false_iff]
        rintro ⟨k, after, -, -, all⟩
        exact first (all start le_rfl after)

/-- The scan starts from the root buses. -/
theorem mem_rootBuses_iff (bus : BitVec 32) :
    bus ∈ rootBuses registers ↔ ScanRoot registers bus := by
  have first : getPciDevice 0 0 0 = 0 := rfl
  rw [rootBuses, ScanRoot, RootBus, first]
  by_cases single : multipleFunctions registers 0 = 0
  · rw [if_pos single, List.mem_singleton]
    constructor
    · exact Or.inl
    · rintro (zero | ⟨several, -⟩)
      · exact zero
      · exact absurd single several
  · rw [if_neg single, List.mem_cons, otherFunctions, mem_takeWhile_range'_iff
      (fun func => vendorId registers (getPciDevice 0 0 func) ≠ 0xFFFF)]
    apply or_congr_right
    constructor
    · rintro ⟨k, low, high, number, all⟩
      exact ⟨single, k, low, by omega, number, all⟩
    · rintro ⟨-, k, low, high, number, all⟩
      exact ⟨k, low, by omega, number, all⟩

/-- A device is output where it matches. -/
theorem mem_deviceStep_outputs_iff (type device output : BitVec 32) :
    output ∈ (deviceStep registers type device).outputs ↔
      output = device ∧ (type = -1 ∨ deviceType registers device = type) := by
  rw [deviceStep]
  split
  · rename_i matching
    simp only [List.mem_singleton, matching, and_true]
  · rename_i other
    simp only [List.not_mem_nil, other, and_false]

/-- The walk descends at a bridge. -/
theorem deviceStep_descent_iff (type device child : BitVec 32) :
    (deviceStep registers type device).descent = some child ↔
      deviceType registers device = pciTypePciToPciBridge ∧
        secondaryBus registers device = child := by
  simp only [deviceStep]
  split
  · rename_i bridge
    simp only [Option.some.injEq, bridge, true_and]
  · rename_i other
    simp only [other, false_and, reduceCtorEq]

/-- The walk descends along the bridges. -/
theorem descends_busSteps_iff (type bus child : BitVec 32) :
    Descends (busSteps registers type) bus child ↔ BusEdge registers bus child := by
  simp only [Descends, busSteps, List.mem_map, exists_exists_and_eq_and, mem_busDevices_iff,
    deviceStep_descent_iff, BusEdge, Bridge]

/-- The walk outputs the matching devices. -/
theorem outputs_busSteps_iff (type bus device : BitVec 32) :
    Outputs (busSteps registers type) bus device ↔
      OnBus registers bus device ∧ (type = -1 ∨ deviceType registers device = type) := by
  simp only [Outputs, busSteps, List.mem_map, exists_exists_and_eq_and, mem_busDevices_iff,
    mem_deviceStep_outputs_iff]
  constructor
  · rintro ⟨found, onBus, rfl, matching⟩
    exact ⟨onBus, matching⟩
  · rintro ⟨onBus, matching⟩
    exact ⟨device, onBus, rfl, matching⟩

/-- The walk descends along the bridges from the root buses. -/
theorem descends_busSteps (registers : Registers) (type : BitVec 32) :
    Descends (busSteps registers type) = BusEdge registers :=
  funext₂ fun bus child => propext (descends_busSteps_iff type bus child)

theorem mem_rootBuses (registers : Registers) :
    (· ∈ rootBuses registers) = ScanRoot registers :=
  funext fun bus => propext (mem_rootBuses_iff bus)

/-! ### Termination -/

/-- **Termination.**  `scan_pci` returns exactly when no bus that it can reach from its root
buses over bridges is behind itself. -/
theorem scanPci_returns_iff (registers : Registers) (type : BitVec 32) :
    (∃ called, Returns registers type called) ↔
      ∀ bus, Below (BusEdge registers) (ScanRoot registers) bus →
        ¬ TransGen (BusEdge registers) bus bus := by
  have finite : Finite (BitVec 32) :=
    Finite.of_injective BitVec.toFin fun _ _ => BitVec.eq_of_toFin_eq
  rw [← descends_busSteps registers type, ← mem_rootBuses, ← walkRoots_returns_iff]
  simp only [Returns, scanPci_eq_walkRoots]
  exact exists_comm

/-- With a bridge on bus 0 that says its secondary bus is bus 0, the scan does not return. -/
theorem scanPci_loops : ¬ ∃ called, Returns (fun _ => 0x06040000) (-1) called := by
  rintro ⟨called, fuel, scanned⟩
  rw [scanPci_eq_walkRoots] at scanned
  have finite : Finite (BitVec 32) :=
    Finite.of_injective BitVec.toFin fun _ _ => BitVec.eq_of_toFin_eq
  have acyclic := walkRoots_returns_iff.mp ⟨fuel, called, scanned⟩
  have itself : BusEdge (fun _ => 0x06040000) 0 0 := by
    refine ⟨0, ⟨0, 0, by decide, by decide, ⟨by decide, Or.inl rfl⟩, rfl⟩, ?_, ?_⟩ <;> decide
  refine acyclic 0 (Below.of_root ?_) (TransGen.single ?_)
  · exact (mem_rootBuses_iff 0).mpr (Or.inl rfl)
  · exact (descends_busSteps_iff (-1) 0 0).mpr itself

/-! ### Completeness -/

/-- The number of a device is made of its bus, slot and function. -/
theorem getPciDevice_toNat {bus : BitVec 32} {slot func : Nat} (busSmall : bus.toNat < 256)
    (slotSmall : slot < 32) (funcSmall : func < 8) :
    (getPciDevice bus (BitVec.ofNat 32 slot) (BitVec.ofNat 32 func)).toNat =
      bus.toNat * 65536 + slot * 256 + func := by
  simp only [getPciDevice, BitVec.toNat_add, BitVec.toNat_shiftLeft, BitVec.toNat_ofNat,
    Nat.shiftLeft_eq]
  omega

/-- The bus, slot and function of a device are determined by its number. -/
theorem getPciDevice_injective {bus other : BitVec 32} {slot func otherSlot otherFunc : Nat}
    (busSmall : bus.toNat < 256) (otherSmall : other.toNat < 256) (slotSmall : slot < 32)
    (otherSlotSmall : otherSlot < 32) (funcSmall : func < 8) (otherFuncSmall : otherFunc < 8)
    (same : getPciDevice bus (BitVec.ofNat 32 slot) (BitVec.ofNat 32 func) =
      getPciDevice other (BitVec.ofNat 32 otherSlot) (BitVec.ofNat 32 otherFunc)) :
    bus = other ∧ slot = otherSlot ∧ func = otherFunc := by
  have number := congrArg BitVec.toNat same
  rw [getPciDevice_toNat busSmall slotSmall funcSmall,
    getPciDevice_toNat otherSmall otherSlotSmall otherFuncSmall] at number
  exact ⟨BitVec.eq_of_toNat_eq (by omega), by omega, by omega⟩

/-- The scan of a slot handles no function twice. -/
theorem nodup_slotFunctions (bus slot : BitVec 32) :
    (slotFunctions registers bus slot).Nodup := by
  have others : otherFunctions.Nodup := by decide
  have notZero : (0 : BitVec 32) ∉ otherFunctions := by decide
  rw [slotFunctions]
  split
  · exact List.nodup_nil
  · split
    · exact List.nodup_singleton 0
    · refine List.nodup_cons.mpr ⟨?_, others.filter _⟩
      intro present
      exact notZero (List.mem_of_mem_filter present)

/-- The scan of a bus handles no device twice. -/
theorem nodup_busDevices {bus : BitVec 32} (small : bus.toNat < 256) :
    (busDevices registers bus).Nodup := by
  rw [busDevices, List.nodup_flatMap]
  constructor
  · intro slot inside
    refine (nodup_slotFunctions bus (BitVec.ofNat 32 slot)).map_on ?_
    intro func present other otherPresent same
    obtain ⟨-, n, funcSmall, rfl⟩ := (mem_slotFunctions_iff _ _ _).mp present
    obtain ⟨-, m, otherSmall, rfl⟩ := (mem_slotFunctions_iff _ _ _).mp otherPresent
    have slotSmall := List.mem_range.mp inside
    rw [(getPciDevice_injective small small slotSmall slotSmall funcSmall otherSmall same).2.2]
  · refine List.nodup_range.imp_of_mem ?_
    intro slot other inside otherInside different device here there
    obtain ⟨func, present, rfl⟩ := List.mem_map.mp here
    obtain ⟨otherFunc, otherPresent, same⟩ := List.mem_map.mp there
    obtain ⟨-, n, funcSmall, rfl⟩ := (mem_slotFunctions_iff _ _ _).mp present
    obtain ⟨-, m, otherSmall, rfl⟩ := (mem_slotFunctions_iff _ _ _).mp otherPresent
    exact different (getPciDevice_injective small small (List.mem_range.mp inside)
      (List.mem_range.mp otherInside) funcSmall otherSmall same.symm).2.1

/-- The buses of a topology have numbers of eight bits. -/
theorem toNat_lt_of_below {bus : BitVec 32}
    (below : Below (BusEdge registers) (TopologyRoot registers) bus) : bus.toNat < 256 := by
  obtain ⟨root, isRoot, path⟩ := below
  rcases path.cases_tail with same | ⟨parent, -, device, -, -, secondary⟩
  · subst same
    rcases isRoot with rfl | ⟨-, k, -, small, rfl, -⟩
    · decide
    · rw [BitVec.toNat_ofNat]
      omega
  · rw [← secondary]
    exact fieldBits_toNat_lt _ (by decide) (by decide)

/-- A device is on one bus only. -/
theorem OnBus.bus_eq {bus other device : BitVec 32} (onBus : OnBus registers bus device)
    (onOther : OnBus registers other device) (small : bus.toNat < 256)
    (otherSmall : other.toNat < 256) : bus = other := by
  obtain ⟨slot, func, slotSmall, funcSmall, -, rfl⟩ := onBus
  obtain ⟨otherSlot, otherFunc, otherSlotSmall, otherFuncSmall, -, same⟩ := onOther
  exact (getPciDevice_injective small otherSmall slotSmall otherSlotSmall funcSmall
    otherFuncSmall same).1

/-- On a proper topology the walk of the scan is a walk over a forest. -/
theorem ProperTopology.stepsForest (topology : ProperTopology registers)
    (type : BitVec 32) : StepsForest (busSteps registers type) (TopologyRoot registers) := by
  have edges := descends_busSteps registers type
  constructor
  · rw [edges]
    exact topology.forest
  · intro bus _ step present
    obtain ⟨device, -, rfl⟩ := List.mem_map.mp present
    rw [deviceStep]
    split
    · exact List.nodup_singleton device
    · exact List.nodup_nil
  · intro bus below
    rw [edges] at below
    rw [busSteps, List.pairwise_map]
    refine (nodup_busDevices (toNat_lt_of_below below)).imp_of_mem ?_
    intro left right leftPresent rightPresent different
    constructor
    · intro device leftHas rightHas
      have leftSame := ((mem_deviceStep_outputs_iff type left device).mp leftHas).1
      have rightSame := ((mem_deviceStep_outputs_iff type right device).mp rightHas).1
      exact different (leftSame.symm.trans rightSame)
    · intro child leftGoes rightGoes
      have leftOnBus := (mem_busDevices_iff bus left).mp leftPresent
      have rightOnBus := (mem_busDevices_iff bus right).mp rightPresent
      exact different (topology.oneBridge below
        ⟨leftOnBus, (deviceStep_descent_iff type left child).mp leftGoes⟩
        ⟨rightOnBus, (deviceStep_descent_iff type right child).mp rightGoes⟩)
  · rw [edges]
    intro left right leftBelow rightBelow different device leftHas rightHas
    have leftOnBus := ((outputs_busSteps_iff type left device).mp leftHas).1
    have rightOnBus := ((outputs_busSteps_iff type right device).mp rightHas).1
    exact different (leftOnBus.bus_eq rightOnBus (toNat_lt_of_below leftBelow)
      (toNat_lt_of_below rightBelow))

/-- Where function 0 of device 0:0 is present, the scan starts from the root buses of the
topology. -/
theorem scanRoot_eq_topologyRoot (first : Present registers 0 0 0) :
    ScanRoot registers = TopologyRoot registers := by
  funext bus
  apply propext
  apply or_congr_right
  apply and_congr_right
  intro several
  have there (func : Nat) (low : 1 ≤ func) (high : func ≤ 7) :
      vendorId registers (getPciDevice 0 0 (BitVec.ofNat 32 func)) ≠ 0xFFFF ↔
        Present registers 0 0 (BitVec.ofNat 32 func) := by
    have notZero : BitVec.ofNat 32 func ≠ 0 := by bv_omega
    simp only [Present, first.1, notZero, several, false_or, true_and, ne_eq, not_false_eq_true]
  apply exists_congr
  intro k
  constructor
  · rintro ⟨low, high, number, all⟩
    exact ⟨low, high, number, fun func after before =>
      (there func after (by omega)).mp (all func after before)⟩
  · rintro ⟨low, high, number, all⟩
    exact ⟨low, high, number, fun func after before =>
      (there func after (by omega)).mpr (all func after before)⟩

/-- The scan starts from no bus twice. -/
theorem nodup_rootBuses (registers : Registers) : (rootBuses registers).Nodup := by
  have others : otherFunctions.Nodup := by decide
  have notZero : (0 : BitVec 32) ∉ otherFunctions := by decide
  rw [rootBuses]
  split
  · exact List.nodup_singleton 0
  · have before : (otherFunctions.takeWhile fun func =>
        vendorId registers (getPciDevice 0 0 func) ≠ 0xFFFF).Sublist otherFunctions :=
      List.takeWhile_sublist _
    exact List.nodup_cons.mpr ⟨fun present => notZero (before.subset present),
      others.sublist before⟩

/-- **Completeness.**  On a proper topology `scan_pci` returns, and it calls `proc` exactly
once for every present function of a matching type on a bus of the topology and for nothing
else. -/
theorem scanPci_complete (registers : Registers) (type : BitVec 32)
    (first : Present registers 0 0 0) (topology : ProperTopology registers) :
    ∃ called, Returns registers type called ∧ called.Nodup ∧
      ∀ device, device ∈ called ↔
        ∃ bus, Below (BusEdge registers) (TopologyRoot registers) bus ∧
          OnBus registers bus device ∧
            (type = -1 ∨ deviceType registers device = type) := by
  have edges := descends_busSteps registers type
  have roots : (· ∈ rootBuses registers) = TopologyRoot registers :=
    (mem_rootBuses registers).trans (scanRoot_eq_topologyRoot first)
  have finite : Finite (BitVec 32) :=
    Finite.of_injective BitVec.toFin fun _ _ => BitVec.eq_of_toFin_eq
  obtain ⟨fuel, called, walked⟩ : ∃ fuel called,
      walkRoots (busSteps registers type) fuel (rootBuses registers) = some called := by
    rw [walkRoots_returns_iff, edges, roots]
    exact fun bus below => topology.forest.acyclic below
  refine ⟨called, ⟨fuel, by rw [scanPci_eq_walkRoots, walked]⟩, ?_, ?_⟩
  · refine nodup_walkRoots ?_ (nodup_rootBuses registers) walked
    rw [roots]
    exact topology.stepsForest type
  · intro device
    rw [mem_walkRoots_iff walked, edges, roots]
    simp only [outputs_busSteps_iff]

/-- A host bridge 0:0.0, and a bridge 0:1.0 to bus 1 with a serial ATA controller 1:0.0. -/
def twoBuses : Registers := fun address =>
  if address = 0x80000000 then 0x29C08086
  else if address = 0x80000008 then 0x06000000
  else if address = 0x8000000C then 0
  else if address = 0x80000800 then 0x29C18086
  else if address = 0x80000808 then 0x06040000
  else if address = 0x8000080C then 0x00010000
  else if address = 0x80000818 then 0x00010100
  else if address = 0x80010000 then 0x29228086
  else if address = 0x80010008 then 0x01060100
  else if address = 0x8001000C then 0
  else 0xFFFFFFFF

/-- The only bridge that the scan meets there leads from bus 0 to bus 1. -/
theorem bridge_twoBuses {bus device child : BitVec 32} (scanned : bus = 0 ∨ bus = 1)
    (bridge : Bridge twoBuses bus device child) : bus = 0 ∧ device = 0x100 ∧ child = 1 := by
  have zero : busDevices twoBuses 0 = [0, 0x100] := by decide +kernel
  have one : busDevices twoBuses 1 = [0x10000] := by decide +kernel
  obtain ⟨onBus, isBridge, rfl⟩ := bridge
  rw [← mem_busDevices_iff] at onBus
  rcases scanned with rfl | rfl
  · rw [zero, List.mem_pair] at onBus
    rcases onBus with rfl | rfl
    · exact absurd isBridge (by decide)
    · exact ⟨rfl, rfl, by decide⟩
  · rw [one, List.mem_singleton] at onBus
    subst onBus
    exact absurd isBridge (by decide)

/-- Its buses are a proper topology. -/
theorem properTopology_twoBuses : ProperTopology twoBuses := by
  have root {bus : BitVec 32} (isRoot : TopologyRoot twoBuses bus) : bus = 0 := by
    rcases isRoot with zero | ⟨several, -⟩
    · exact zero
    · exact absurd several (by decide)
  have scanned {bus : BitVec 32}
      (below : Below (BusEdge twoBuses) (TopologyRoot twoBuses) bus) : bus = 0 ∨ bus = 1 := by
    obtain ⟨start, isRoot, path⟩ := below
    induction path with
    | refl => exact Or.inl (root isRoot)
    | tail _ edge inductionHypothesis =>
        obtain ⟨device, bridge⟩ := edge
        exact Or.inr (bridge_twoBuses inductionHypothesis bridge).2.2
  refine ⟨⟨?_, ?_⟩, ?_⟩
  · rintro left right node leftBelow rightBelow ⟨leftDevice, leftBridge⟩
      ⟨rightDevice, rightBridge⟩
    rw [(bridge_twoBuses (scanned leftBelow) leftBridge).1,
      (bridge_twoBuses (scanned rightBelow) rightBridge).1]
  · rintro parent node below ⟨device, bridge⟩ isRoot
    have child := (bridge_twoBuses (scanned below) bridge).2.2
    exact absurd (root isRoot) (by rw [child]; decide)
  · intro bus left right child below leftBridge rightBridge
    rw [(bridge_twoBuses (scanned below) leftBridge).2.1,
      (bridge_twoBuses (scanned below) rightBridge).2.1]

/-- The scan of the two buses for serial ATA controllers. -/
theorem scanPci_complete_twoBuses :
    ∃ called, Returns twoBuses 0x0106 called ∧ called.Nodup ∧
      ∀ device, device ∈ called ↔
        ∃ bus, Below (BusEdge twoBuses) (TopologyRoot twoBuses) bus ∧
          OnBus twoBuses bus device ∧
            ((0x0106 : BitVec 32) = -1 ∨ deviceType twoBuses device = 0x0106) :=
  scanPci_complete twoBuses 0x0106 ⟨by decide, Or.inl rfl⟩ properTopology_twoBuses

end Pci
end ToyKernel
