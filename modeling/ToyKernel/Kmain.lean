import ToyKernel.Acpi.KernelMap
import ToyKernel.Ahci.Reconcile
import ToyKernel.Driver.Defs
import ToyKernel.Pci.Topology
import Mathlib.Data.Set.Card

/-!
# From the PCI bus to the first drive

`kmain` starts the drivers and takes the first drive of the first driver.  Nothing else runs
yet, so no mutex is contended, and the static data are still zero.  What becomes of `kmain` is
a matter of the number of active ports of the machine.
-/

namespace ToyKernel
namespace Kmain

open Ahci (Site)

/-! ### The code -/

/-- `PCI_TYPE_SERIAL_ATA`. -/
def pciTypeSerialAta : BitVec 32 := 0x0106

/-- `PCI_FIELD_BAR5`. -/
def pciFieldBar5 : BitVec 32 := 0x09001F

/-- `DRIVER_TYPE_STORAGE`. -/
def driverTypeStorage : Int := 1

/-- The configuration space of PCI, and the registers of each `struct hba` by its address. -/
structure Devices where
  registers : Pci.Registers
  pi : Address → BitVec 32
  ports : Address → Nat → Ahci.Port

/-- What `scan_next_hba` finds at a device. -/
def controllerAt (devices : Devices) (device : BitVec 32) : Option Ahci.Controller := do
  let bar5 ← Pci.readPciField devices.registers device pciFieldBar5
  let hba := Acpi.hbaAddr bar5
  some ⟨device.toNat, hba, devices.pi hba, devices.ports hba⟩

/-- The controllers for which a pass of `scan_devices` calls `scan_next_hba`, with a bound on
the depth of the recursion of `scan_pci`. -/
def controllers (devices : Devices) (fuel : Nat) : Option (List Ahci.Controller) := do
  let called ← Pci.scanPci devices.registers pciTypeSerialAta fuel
  called.mapM (controllerAt devices)

/-- The static data of `ahci.c` and of `driver.c`. -/
structure Kernel where
  ahci : Ahci.State
  registry : DriverRegistry.Registry

/-- The static data are zero. -/
def Kernel.zeroed : Kernel where
  ahci := Ahci.clearedState
  registry := ⟨fun _ => ⟨0, none, none, 0, 0⟩, none, 0⟩

/-- Where the static variables `driver` and `drives` of `ahci.c` are. -/
structure Places where
  driver : Address
  drives : Ahci.Placement
  below : driver.toNat < 2 ^ 52
  notNull : driver ≠ 0

/-- `init_ahci`; `create_mutex` returns `ERR_NONE`, for `create_mem_pool` does. -/
def initAhci (places : Places) (found : List Ahci.Controller) (kernel : Kernel) : Kernel :=
  let ahci := { kernel.ahci with drives := fun _ => .zero }
  let registry := kernel.registry.write (some places.driver) fun _ =>
    ⟨0, none, none, 0, driverTypeStorage⟩
  let ahci := Ahci.scanDevices .errNone (fun _ => .errNone) found found ahci
  if ahci.scanError ≠ .errNone then
    ⟨ahci, registry⟩
  else
    ⟨ahci, (DriverRegistry.addDriver registry .errNone places.driver).registry⟩

/-- `init_drivers`, with `__init_builtin_drivers`. -/
def initDrivers (places : Places) (found : List Ahci.Controller) (kernel : Kernel) : Kernel :=
  initAhci places found kernel

/-- How `kmain` goes on. -/
inductive Ending
  /-- `PANIC("no storage driver found")`. -/
  | noDriver
  /-- `PANIC("no storage device found")`. -/
  | noDevice
  /-- `test_all(false)`, with the content of `dev_id`. -/
  | testAll (devId : BitVec 64)
  deriving DecidableEq

/-- The rest of `kmain` after `init_drivers`; `none` is a driver other than that of `ahci.c`,
or a list of drivers that is longer than the bound. -/
def findDevice (places : Places) (rounds : Nat) (kernel : Kernel) : Option Ending := do
  let (err, drvId) ←
    DriverRegistry.getNextDriver kernel.registry .errNone rounds 0 driverTypeStorage
  if err ≠ .errNone then
    some .noDriver
  else if getStampIdPtr drvId ≠ places.driver then
    none
  else
    let (err, devId) := places.drives.getNextDevice kernel.ahci .errNone 0
    if err ≠ .errNone then
      some .noDevice
    else
      some (.testAll devId)

/-- `kmain`. -/
def kmain (places : Places) (devices : Devices) (fuel : Nat) : Option Ending := do
  let found ← controllers devices fuel
  findDevice places fuel (initDrivers places found .zeroed)

/-! ### What is there -/

/-- The controller of a device. -/
def controllerOf (devices : Devices) (device : BitVec 32) : Ahci.Controller :=
  let hba := Acpi.hbaAddr (Pci.fieldBits
    (devices.registers (Pci.getAddr device pciFieldBar5)) 0 31)
  ⟨device.toNat, hba, devices.pi hba, devices.ports hba⟩

/-- A serial ATA controller on a bus of the topology. -/
def IsController (devices : Devices) (device : BitVec 32) : Prop :=
  ∃ bus, Below (Pci.BusEdge devices.registers) (Pci.TopologyRoot devices.registers) bus ∧
    Pci.OnBus devices.registers bus device ∧
      Pci.deviceType devices.registers device = pciTypeSerialAta

/-- The active ports of these controllers. -/
def activePorts (devices : Devices) : Set Site :=
  {site | ∃ device, IsController devices device ∧ ∃ port < Ahci.maxPorts,
    (controllerOf devices device).isActive port = true ∧
      site = ⟨device.toNat, (controllerOf devices device).hba, port⟩}

/-! ### The controllers -/

section Controllers

variable {devices : Devices} {device : BitVec 32}

theorem controllerAt_eq (devices : Devices) (device : BitVec 32) :
    controllerAt devices device = some (controllerOf devices device) := by
  have read := Pci.readPciField_eq devices.registers device pciFieldBar5 (by decide) (by decide)
  rw [controllerAt, read]
  rfl

/-- The controllers of a topology have PCI addresses. -/
theorem IsController.isPciAddress (isController : IsController devices device) :
    Ahci.IsPciAddress device.toNat := by
  obtain ⟨bus, below, ⟨slot, func, slotSmall, funcSmall, -, rfl⟩, -⟩ := isController
  have busSmall := Pci.toNat_lt_of_below below
  exact ⟨bus.toNat, slot, func, busSmall, slotSmall, funcSmall,
    Pci.getPciDevice_toNat busSmall slotSmall funcSmall⟩

/-- On a proper topology the scan of the buses ends, and finds each controller once. -/
theorem exists_controllers (first : Pci.Present devices.registers 0 0 0)
    (topology : Pci.ProperTopology devices.registers) :
    ∃ enough, ∃ called : List (BitVec 32), called.Nodup ∧
      (∀ device, device ∈ called ↔ IsController devices device) ∧
      ∀ fuel ≥ enough, controllers devices fuel = some (called.map (controllerOf devices)) := by
  have edges := Pci.descends_busSteps devices.registers pciTypeSerialAta
  have roots : (· ∈ Pci.rootBuses devices.registers) = Pci.TopologyRoot devices.registers :=
    (Pci.mem_rootBuses _).trans (Pci.scanRoot_eq_topologyRoot first)
  have finite : Finite (BitVec 32) :=
    Finite.of_injective BitVec.toFin fun _ _ => BitVec.eq_of_toFin_eq
  have returns : ∃ enough called, walkRoots (Pci.busSteps devices.registers pciTypeSerialAta)
      enough (Pci.rootBuses devices.registers) = some called := by
    rw [walkRoots_returns_iff, edges, roots]
    exact fun bus below => topology.forest.acyclic below
  obtain ⟨enough, called, walked⟩ := returns
  refine ⟨enough, called, ?_, ?_, ?_⟩
  · refine nodup_walkRoots ?_ (Pci.nodup_rootBuses _) walked
    rw [roots]
    exact topology.stepsForest pciTypeSerialAta
  · intro device
    have typed : pciTypeSerialAta ≠ -1 := by decide
    rw [mem_walkRoots_iff walked, edges, roots]
    simp only [Pci.outputs_busSteps_iff, typed, false_or]
    rfl
  · intro fuel many
    have each : controllerAt devices = fun device => some (controllerOf devices device) :=
      funext (controllerAt_eq devices)
    rw [controllers, Pci.scanPci_eq_walkRoots, walkRoots_mono many walked, each]
    exact List.mapM_pure

/-- The controllers that are found are on the bus. -/
theorem onBus_map {called : List (BitVec 32)} (distinct : called.Nodup)
    (found : ∀ device, device ∈ called ↔ IsController devices device) :
    Ahci.OnBus (called.map (controllerOf devices)) := by
  constructor
  · intro controller present
    obtain ⟨device, called, rfl⟩ := List.mem_map.mp present
    exact ((found device).mp called).isPciAddress
  · rw [List.map_map]
    exact distinct.map fun left right same => BitVec.eq_of_toNat_eq same

/-- The sites that a pass visits are the active ports. -/
theorem mem_sites_iff {called : List (BitVec 32)}
    (found : ∀ device, device ∈ called ↔ IsController devices device) (site : Site) :
    site ∈ Ahci.sites (called.map (controllerOf devices)) ↔ site ∈ activePorts devices := by
  simp only [Ahci.sites, List.mem_flatMap, List.mem_map, List.mem_filter, List.mem_range,
    exists_exists_and_eq_and, found, activePorts, Set.mem_ofPred_eq]
  apply exists_congr
  intro device
  apply and_congr_right
  intro _
  apply exists_congr
  intro port
  constructor
  · rintro ⟨⟨below, active⟩, rfl⟩
    exact ⟨below, active, rfl⟩
  · rintro ⟨below, active, rfl⟩
    exact ⟨⟨below, active⟩, rfl⟩

/-- A pass visits as many sites as there are active ports. -/
theorem length_sites {called : List (BitVec 32)} (distinct : called.Nodup)
    (found : ∀ device, device ∈ called ↔ IsController devices device) :
    (Ahci.sites (called.map (controllerOf devices))).length = (activePorts devices).ncard := by
  have once : (Ahci.sites (called.map (controllerOf devices))).Nodup := by
    apply (Ahci.pairwise_sites (onBus_map distinct found)).imp
    rintro site other apart rfl
    exact apart ⟨rfl, rfl⟩
  have same : activePorts devices =
      ((Ahci.sites (called.map (controllerOf devices))).toFinset : Set Site) := by
    ext site
    rw [← mem_sites_iff found, List.coe_toFinset, Set.mem_ofPred_eq]
  rw [same, Set.ncard_coe_finset, List.toFinset_card_of_nodup once]

end Controllers

/-! ### The table of drives -/

/-- The first slots of the table hold these ports, in this order. -/
structure Filling (visited : List Site) (state : Ahci.State) : Prop where
  scanError : state.scanError = .errNone
  adding : state.scanAddDrives = true
  few : visited.length ≤ Ahci.maxDrives
  stamp : state.stamp = visited.length
  inUse : ∀ i < Ahci.maxDrives, (state.drives i).inUse = decide (i < visited.length)
  holds : ∀ i (inside : i < visited.length), (state.drives i).Holds visited[i]
  stamps : ∀ i < visited.length, (state.drives i).stamp = i

section Table

variable {visited : List Site} {state : Ahci.State} {site : Site}

/-- `create_mutex`, and with it the addition of a drive, does not fail. -/
theorem addDrive_scanError {i : Nat} (noError : state.scanError = .errNone)
    (ends : (List.range Ahci.maxDrives).find? (fun i => !(state.drives i).inUse) = some i) :
    (Ahci.addDrive (fun _ => .errNone) site.device site.hba site.port state).scanError =
      .errNone := by
  simp only [Ahci.addDrive, noError, ne_eq, not_true_eq_false, if_false, ends, if_true]
  split <;> exact noError

namespace Filling

/-- A port that has not been visited is not in the table. -/
theorem findDrive_eq_none (filling : Filling visited state)
    (fits : ∀ other ∈ visited ++ [site], other.Fits)
    (new : ∀ other ∈ visited, ¬ other.Same site) :
    Ahci.findDrive state site.device site.port = none := by
  rw [Ahci.findDrive, List.find?_eq_none]
  intro i inTable isAt
  rw [Ahci.Drive.isAt_iff] at isAt
  obtain ⟨inUse, holds, -⟩ := isAt
  rw [filling.inUse i (List.mem_range.mp inTable), decide_eq_true_eq] at inUse
  refine new visited[i] (List.getElem_mem inUse) ?_
  exact (filling.holds i inUse).same holds (fits _ (by simp)) (fits site (by simp))

/-- The loop of `add_drive` ends at the first slot that is not in use. -/
theorem find?_free (filling : Filling visited state) (room : visited.length < Ahci.maxDrives) :
    (List.range Ahci.maxDrives).find? (fun i => !(state.drives i).inUse) =
      some visited.length := by
  rw [List.find?_range_eq_some]
  refine ⟨?_, List.mem_range.mpr room, ?_⟩
  · rw [filling.inUse _ room]
    simp
  · intro j before
    rw [filling.inUse j (before.trans room)]
    simpa using before

/-- A drive that has been added to the first free slot. -/
theorem add {after : Ahci.State} (filling : Filling visited state)
    (added : Ahci.Added state site visited.length after) (noError : after.scanError = .errNone) :
    Filling (visited ++ [site]) after := by
  have small : visited.length < 8 := added.slot
  refine ⟨noError, added.adding.trans filling.adding, by simpa using added.slot, ?_, ?_, ?_, ?_⟩
  · rw [added.stamp, filling.stamp, List.length_append, List.length_singleton, stampIdStampBits]
    omega
  · intro i inTable
    by_cases same : i = visited.length
    · subst same
      simp [added.inUse]
    · rw [added.others i same, filling.inUse i inTable, List.length_append,
        List.length_singleton]
      congr 1
      apply propext
      omega
  · intro i inside
    by_cases same : i = visited.length
    · subst same
      simpa using added.holds
    · have before : i < visited.length := by
        rw [List.length_append, List.length_singleton] at inside
        omega
      rw [added.others i same, List.getElem_append_left before]
      exact filling.holds i before
  · intro i inside
    by_cases same : i = visited.length
    · subst same
      rw [added.stamps, filling.stamp]
    · rw [added.others i same]
      rw [List.length_append, List.length_singleton] at inside
      exact filling.stamps i (by omega)

/-- A visit of a port that has not been visited tries to add it. -/
theorem scanSite_eq (filling : Filling visited state)
    (fits : ∀ other ∈ visited ++ [site], other.Fits)
    (new : ∀ other ∈ visited, ¬ other.Same site) :
    Ahci.scanSite (fun _ => .errNone) state site =
      Ahci.addDrive (fun _ => .errNone) site.device site.hba site.port state := by
  rw [Ahci.scanSite, Ahci.scanNextDrive, if_neg (not_not.mpr filling.scanError),
    filling.findDrive_eq_none fits new]
  exact if_pos filling.adding

/-- A visit adds a drive. -/
theorem visit (filling : Filling visited state)
    (fits : ∀ other ∈ visited ++ [site], other.Fits)
    (new : ∀ other ∈ visited, ¬ other.Same site) (room : visited.length < Ahci.maxDrives) :
    Filling (visited ++ [site]) (Ahci.scanSite (fun _ => .errNone) state site) := by
  have free := filling.find?_free room
  rw [filling.scanSite_eq fits new]
  exact filling.add (Ahci.addDrive_added filling.scanError free)
    (addDrive_scanError filling.scanError free)

/-- When all slots are in use, a visit fails. -/
theorem visit_full (filling : Filling visited state)
    (fits : ∀ other ∈ visited ++ [site], other.Fits)
    (new : ∀ other ∈ visited, ¬ other.Same site) (full : visited.length = Ahci.maxDrives) :
    (Ahci.scanSite (fun _ => .errNone) state site).scanError = .errNoMore := by
  have noneFree : (List.range Ahci.maxDrives).find? (fun i => !(state.drives i).inUse) =
      none := by
    rw [List.find?_eq_none]
    intro i inTable
    have below := List.mem_range.mp inTable
    rw [filling.inUse i below, full]
    simpa using below
  rw [filling.scanSite_eq fits new, Ahci.addDrive, if_neg (not_not.mpr filling.scanError),
    noneFree]

/-- The second pass of the first scan fills the table, or fails at the ninth port. -/
theorem foldl (filling : Filling visited state) (ports : List Site)
    (fits : ∀ other ∈ visited ++ ports, other.Fits)
    (once : (visited ++ ports).Pairwise fun site other => ¬ site.Same other) :
    let after := ports.foldl (Ahci.scanSite fun _ => .errNone) state
    if (visited ++ ports).length ≤ Ahci.maxDrives then
      Filling (visited ++ ports) after
    else
      after.scanError = .errNoMore := by
  induction ports generalizing visited state with
  | nil =>
      rw [List.append_nil, if_pos filling.few]
      exact filling
  | cons site ports inductionHypothesis =>
      have append : visited ++ site :: ports = (visited ++ [site]) ++ ports := by simp
      rw [append] at fits once
      have fitsNext : ∀ other ∈ visited ++ [site], other.Fits := fun other present =>
        fits other (List.mem_append_left _ present)
      have new : ∀ other ∈ visited, ¬ other.Same site := by
        intro other present
        have before := (List.pairwise_append.mp once).1
        exact (List.pairwise_append.mp before).2.2 other present site List.mem_cons_self
      rw [List.foldl_cons, append]
      by_cases room : visited.length < Ahci.maxDrives
      · exact inductionHypothesis (filling.visit fitsNext new room) fits once
      · have full : visited.length = Ahci.maxDrives := le_antisymm filling.few (not_lt.mp room)
        have failed := filling.visit_full fitsNext new full
        have stuck : (Ahci.scanSite (fun _ => .errNone) state site).scanError ≠ .errNone := by
          rw [failed]
          simp
        rw [if_neg (by simp [full]), Ahci.foldl_scanSite_of_scanError stuck]
        exact failed

end Filling

end Table

/-- The first scan, of controllers that are on the bus. -/
theorem filling_scanDevices {found : List Ahci.Controller} (onBus : Ahci.OnBus found) :
    let after := Ahci.scanDevices .errNone (fun _ => .errNone) found found Ahci.clearedState
    if (Ahci.sites found).length ≤ Ahci.maxDrives then
      Filling (Ahci.sites found) after
    else
      after.scanError = .errNoMore := by
  obtain ⟨middle, between, scanned⟩ :=
    Ahci.scanDevices_eq (fun _ => .errNone) found found Ahci.clearedState
  have empty : Filling [] middle := by
    refine ⟨between.scanError, between.adding, Nat.zero_le _, between.stamp, ?_, ?_, ?_⟩
    · intro i inTable
      rw [between.inUse i inTable]
      simp [Ahci.clearedState, Ahci.Drive.zero]
    · intro i inside
      exact absurd inside (Nat.not_lt_zero i)
    · intro i inside
      exact absurd inside (Nat.not_lt_zero i)
  rw [scanned]
  exact empty.foldl (Ahci.sites found) (Ahci.fits_of_mem_sites onBus)
    (Ahci.pairwise_sites onBus)

/-- The first device is the drive in the first slot. -/
theorem Filling.getNextDevice {visited : List Site} {state : Ahci.State}
    (filling : Filling visited state) (placement : Ahci.Placement) :
    placement.getNextDevice state .errNone 0 =
      if visited = [] then (.errNoMore, 0)
      else (.errNone, getStampId (placement.address 0) 0) := by
  have inTable : 0 < Ahci.maxDrives := by decide
  simp only [Ahci.Placement.getNextDevice, ne_eq, not_true_eq_false, if_false, List.drop_zero]
  cases visited with
  | nil =>
      have noneInUse : (List.range Ahci.maxDrives).find? (fun i => (state.drives i).inUse) =
          none := by
        rw [List.find?_eq_none]
        intro i present
        rw [filling.inUse i (List.mem_range.mp present)]
        simp
      rw [noneInUse, if_pos rfl]
  | cons site visited =>
      have firstInUse : (List.range Ahci.maxDrives).find? (fun i => (state.drives i).inUse) =
          some 0 := by
        rw [List.find?_range_eq_some]
        refine ⟨?_, List.mem_range.mpr inTable, fun j before => absurd before (Nat.not_lt_zero j)⟩
        rw [filling.inUse 0 inTable]
        simp
      have stamp : (state.drives 0).stamp = 0 := filling.stamps 0 (by simp)
      rw [firstInUse, if_neg (List.cons_ne_nil site visited)]
      show (ErrCode.errNone, getStampId (placement.address 0) (state.drives 0).stamp) = _
      rw [stamp]

/-! ### The registry -/

section Registry

variable (places : Places)

/-- The registry after the assignment to `driver` in `init_ahci`. -/
def assignedRegistry : DriverRegistry.Registry :=
  Kernel.zeroed.registry.write (some places.driver) fun _ =>
    ⟨0, none, none, 0, driverTypeStorage⟩

/-- The driver of `ahci.c` is the first one, if it has been added. -/
theorem getNextDriver_addDriver (rounds : Nat) :
    DriverRegistry.getNextDriver
        (DriverRegistry.addDriver (assignedRegistry places) .errNone places.driver).registry
        .errNone rounds 0 driverTypeStorage =
      some (.errNone, getStampId places.driver 0) := by
  have unattached : ((assignedRegistry places).drivers places.driver).magic ≠
      DriverRegistry.driverMagic := by
    rw [assignedRegistry, DriverRegistry.Registry.write_drivers, Option.getD_some, if_pos rfl]
    decide
  have stamp : ((DriverRegistry.linkDriver (assignedRegistry places) places.driver).drivers
      places.driver).stamp = 0 := by
    simp only [DriverRegistry.linkDriver, assignedRegistry, assignStampIdStamp, Kernel.zeroed,
      DriverRegistry.Registry.write_drivers, DriverRegistry.Registry.write_stamp,
      Option.getD_some]
    simp only [if_true]
    split <;> rfl
  have linked : DriverRegistry.idOrZero
      (DriverRegistry.linkDriver (assignedRegistry places) places.driver)
      (some places.driver) = getStampId places.driver 0 := by
    rw [DriverRegistry.idOrZero, stamp]
  have notZero : getStampId places.driver 0 ≠ 0 :=
    getStampId_ne_zero places.below (by decide) places.notNull
  rw [DriverRegistry.addDriver, if_neg unattached, if_neg (by simp),
    DriverRegistry.getNextDriver, if_neg (by simp), if_neg (by simp)]
  show some (DriverRegistry.orNoMore .errNone (DriverRegistry.idOrZero
    (DriverRegistry.linkDriver (assignedRegistry places) places.driver) (some places.driver)),
    DriverRegistry.idOrZero
      (DriverRegistry.linkDriver (assignedRegistry places) places.driver)
      (some places.driver)) = _
  rw [linked, DriverRegistry.orNoMore, if_neg fun both => notZero both.2]

/-- Without a driver the enumeration ends at once. -/
theorem getNextDriver_assigned (rounds : Nat) :
    DriverRegistry.getNextDriver (assignedRegistry places) .errNone rounds 0
      driverTypeStorage = some (.errNoMore, 0) := rfl

end Registry

/-! ### The ending -/

/-- What becomes of `kmain` when the drivers have scanned these controllers. -/
theorem findDevice_initDrivers (places : Places) (rounds : Nat)
    {found : List Ahci.Controller} (onBus : Ahci.OnBus found) :
    findDevice places rounds (initDrivers places found .zeroed) =
      some (if Ahci.maxDrives < (Ahci.sites found).length then .noDriver
        else if (Ahci.sites found).length = 0 then .noDevice
        else .testAll (getStampId (places.drives.address 0) 0)) := by
  have scanned := filling_scanDevices onBus
  simp only at scanned
  have cleared : ({ Kernel.zeroed.ahci with drives := fun _ => .zero } : Ahci.State) =
      Ahci.clearedState := rfl
  rw [initDrivers, initAhci, cleared]
  by_cases few : (Ahci.sites found).length ≤ Ahci.maxDrives
  · rw [if_pos few] at scanned
    have driverPtr : getStampIdPtr (getStampId places.driver 0) = places.driver :=
      getStampIdPtr_getStampId places.below (by decide)
    simp only [scanned.scanError, ne_eq, not_true_eq_false, if_false, findDevice]
    rw [← assignedRegistry, getNextDriver_addDriver]
    simp only [Option.bind_eq_bind, Option.bind_some, not_true_eq_false, if_false, driverPtr,
      scanned.getNextDevice, not_lt.mpr few]
    cases Ahci.sites found with
    | nil => rfl
    | cons site ports => simp
  · rw [if_neg few] at scanned
    have failed : ErrCode.errNoMore ≠ .errNone := by decide
    rw [if_pos (not_le.mp few)]
    simp only [scanned, findDevice, if_pos failed]
    rw [← assignedRegistry, getNextDriver_assigned]
    rfl

/-- **The ending of `kmain`.**  On a proper topology `kmain` panics for want of a driver if
the machine has more active ports than the table has slots, panics for want of a device if it
has none, and otherwise runs the tests with a drive. -/
theorem kmain_ends (places : Places) {devices : Devices}
    (first : Pci.Present devices.registers 0 0 0)
    (topology : Pci.ProperTopology devices.registers) :
    ∃ enough, ∀ fuel ≥ enough, kmain places devices fuel =
      some (if Ahci.maxDrives < (activePorts devices).ncard then .noDriver
        else if (activePorts devices).ncard = 0 then .noDevice
        else .testAll (getStampId (places.drives.address 0) 0)) := by
  obtain ⟨enough, called, distinct, found, scans⟩ := exists_controllers first topology
  refine ⟨enough, fun fuel many => ?_⟩
  rw [kmain, scans fuel many, ← length_sites distinct found]
  exact findDevice_initDrivers places fuel (onBus_map distinct found)

/-! ### A machine with one drive -/

/-- The two buses, with a drive at port 0 of the controller. -/
def oneDrive : Devices where
  registers := Pci.twoBuses
  pi _ := 1
  ports _ _ := ⟨0x113, 0x101⟩

/-- The static data of `ahci.c`. -/
def somePlaces : Places where
  driver := 0x900000
  drives := {
    address := fun i => BitVec.ofNat 64 (0x910000 + 0x100 * i)
    below := by decide
    notNull := by decide
    distinct := by decide }
  below := by decide
  notNull := by decide

/-- Only the two buses are behind the host bridge. -/
theorem bus_twoBuses {bus : BitVec 32}
    (below : Below (Pci.BusEdge Pci.twoBuses) (Pci.TopologyRoot Pci.twoBuses) bus) :
    bus = 0 ∨ bus = 1 := by
  obtain ⟨start, isRoot, path⟩ := below
  induction path with
  | refl =>
      rcases isRoot with zero | ⟨several, -⟩
      · exact .inl zero
      · exact absurd several (by decide)
  | tail _ edge inductionHypothesis =>
      obtain ⟨device, bridge⟩ := edge
      exact .inr (Pci.bridge_twoBuses inductionHypothesis bridge).2.2

theorem isController_oneDrive_iff (device : BitVec 32) :
    IsController oneDrive device ↔ device = 0x10000 := by
  have zero : Pci.busDevices Pci.twoBuses 0 = [0, 0x100] := by decide +kernel
  have one : Pci.busDevices Pci.twoBuses 1 = [0x10000] := by decide +kernel
  constructor
  · rintro ⟨bus, below, onBus, isSata⟩
    have present := (Pci.mem_busDevices_iff bus device).mpr onBus
    rcases bus_twoBuses below with rfl | rfl
    · change device ∈ Pci.busDevices Pci.twoBuses 0 at present
      rw [zero, List.mem_pair] at present
      rcases present with rfl | rfl
      · exact absurd isSata (by decide)
      · exact absurd isSata (by decide)
    · change device ∈ Pci.busDevices Pci.twoBuses 1 at present
      rwa [one, List.mem_singleton] at present
  · rintro rfl
    have bridge : Pci.Bridge Pci.twoBuses 0 0x100 1 := by
      refine ⟨(Pci.mem_busDevices_iff 0 0x100).mp ?_, by decide, by decide⟩
      rw [zero]
      simp
    have root : Pci.TopologyRoot Pci.twoBuses 0 := .inl rfl
    refine ⟨1, ⟨0, root, .single ⟨0x100, bridge⟩⟩, (Pci.mem_busDevices_iff 1 _).mp ?_, by decide⟩
    change (0x10000 : BitVec 32) ∈ Pci.busDevices Pci.twoBuses 1
    rw [one]
    simp

theorem activePorts_oneDrive : activePorts oneDrive = {⟨0x10000, 0xFFFFFFF0, 0⟩} := by
  have others : ∀ port < Ahci.maxPorts,
      (controllerOf oneDrive 0x10000).isActive port = true → port = 0 := by
    decide +kernel
  ext site
  simp only [activePorts, isController_oneDrive_iff, exists_eq_left, Set.mem_ofPred_eq,
    Set.mem_singleton_iff]
  constructor
  · rintro ⟨port, below, active, rfl⟩
    rw [others port below active]
    decide +kernel
  · rintro rfl
    exact ⟨0, by decide, by decide +kernel, by decide +kernel⟩

/-- The tests run with this drive. -/
theorem kmain_ends_oneDrive :
    ∃ enough, ∀ fuel ≥ enough, kmain somePlaces oneDrive fuel = some (.testAll 0x910000) := by
  have first : Pci.Present oneDrive.registers 0 0 0 := ⟨by decide, Or.inl rfl⟩
  obtain ⟨enough, ends⟩ := kmain_ends somePlaces first Pci.properTopology_twoBuses
  refine ⟨enough, fun fuel many => ?_⟩
  rw [ends fuel many, activePorts_oneDrive, Set.ncard_singleton]
  decide +kernel

end Kmain
end ToyKernel
