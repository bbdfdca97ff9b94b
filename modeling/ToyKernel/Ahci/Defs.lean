import ToyKernel.StampId
import Mathlib.Logic.Function.Basic

/-!
# The table of SATA drives

The data of `ahci.c`, its scan of the hardware and its enumeration of the drives.  The
bit-fields of a drive are signed, so they are compared as signed numbers of their width.
-/

namespace ToyKernel
namespace Ahci

/-- `DRIVE_MAGIC`. -/
def driveMagic : BitVec 64 := 0x5105820974944592

/-- `MAX_DRIVES`. -/
def maxDrives : Nat := 8

/-- `MAX_PORTS`. -/
def maxPorts : Nat := 32

/-- `INT_BITS` of a word of 32 bits. -/
def intBits (value : BitVec 32) (low high : Nat) : BitVec 32 :=
  value <<< (31 - high) >>> (31 - high + low)

/-- The registers of `struct port` that the scan reads. -/
structure Port where
  ssts : BitVec 32
  sig : BitVec 32

/-- A serial ATA controller on the PCI bus, with the registers of its `struct hba` that the
scan reads; `device` is its PCI address, and `hba` the address of these registers. -/
structure Controller where
  device : Nat
  hba : Address
  pi : BitVec 32
  ports : Nat → Port

/-- `struct drive`, without its mutex and its field `next`, which nothing uses.  `number` is
not in memory: it tells which addition filled the slot, counted from zero. -/
structure Drive where
  magic : BitVec 64
  hba : Address
  stamp : Nat
  hbaPciAddress : BitVec 24
  hbaPort : BitVec 5
  scanned : Bool
  inUse : Bool
  used : Bool
  number : Nat
  deriving DecidableEq

/-- A line that the scan logs. -/
inductive Event
  | added (device port : Nat)
  | removed (hbaPciAddress : BitVec 24) (hbaPort : BitVec 5)
  deriving DecidableEq

/-- The static data of `ahci.c`, the log, and the number of additions so far. -/
structure State where
  scanError : ErrCode
  scanAddDrives : Bool
  drives : Nat → Drive
  stamp : Nat
  log : List Event
  count : Nat

namespace State

/-- Assign to fields of `drives[i]`. -/
def setDrive (state : State) (i : Nat) (change : Drive → Drive) : State :=
  { state with drives := Function.update state.drives i (change (state.drives i)) }

@[simp] theorem setDrive_drives (state : State) (i : Nat) (change : Drive → Drive) (j : Nat) :
    (state.setDrive i change).drives j =
      if j = i then change (state.drives j) else state.drives j := by
  simp only [setDrive, Function.update_apply]
  split
  · rename_i same
    rw [same]
  · rfl

@[simp] theorem setDrive_scanError (state : State) (i : Nat) (change : Drive → Drive) :
    (state.setDrive i change).scanError = state.scanError := rfl

@[simp] theorem setDrive_scanAddDrives (state : State) (i : Nat) (change : Drive → Drive) :
    (state.setDrive i change).scanAddDrives = state.scanAddDrives := rfl

@[simp] theorem setDrive_stamp (state : State) (i : Nat) (change : Drive → Drive) :
    (state.setDrive i change).stamp = state.stamp := rfl

@[simp] theorem setDrive_log (state : State) (i : Nat) (change : Drive → Drive) :
    (state.setDrive i change).log = state.log := rfl

@[simp] theorem setDrive_count (state : State) (i : Nat) (change : Drive → Drive) :
    (state.setDrive i change).count = state.count := rfl

end State

/-! ## Scanning -/

/-- The assignments of `add_drive` to a slot. -/
def fillSlot (state : State) (i device : Nat) (hba : Address) (hbaPort : Nat) : State :=
  let (stamp, globalStamp) := assignStampIdStamp state.stamp
  let state := state.setDrive i
    ({ · with
      magic := driveMagic
      stamp := stamp
      hbaPciAddress := BitVec.ofNat 24 device
      hba := hba
      hbaPort := BitVec.ofNat 5 hbaPort
      inUse := true
      number := state.count })
  { state with stamp := globalStamp, count := state.count + 1 }

/-- `add_drive`; `created i` is what `create_mutex` returns for the mutex of slot `i`. -/
def addDrive (created : Nat → ErrCode) (device : Nat) (hba : Address) (hbaPort : Nat)
    (state : State) : State :=
  if state.scanError ≠ .errNone then
    state
  else
    match (List.range maxDrives).find? fun i => !(state.drives i).inUse with
    | some i =>
        let state := fillSlot state i device hba hbaPort
        let state :=
          if (state.drives i).used then
            state
          else if created i = .errNone then
            state.setDrive i ({ · with used := true })
          else
            { state with scanError := created i }
        { state with log := state.log ++ [.added device hbaPort] }
    | none => { state with scanError := .errNoMore }

/-- The condition of the loop of `scan_next_drive`. -/
def Drive.isAt (drive : Drive) (device port : Nat) : Bool :=
  drive.inUse ∧ drive.hbaPciAddress.toInt = device ∧ drive.hbaPort.toInt = port

/-- The slot at which the loop of `scan_next_drive` ends. -/
def findDrive (state : State) (device port : Nat) : Option Nat :=
  (List.range maxDrives).find? fun i => (state.drives i).isAt device port

/-- `scan_next_drive`. -/
def scanNextDrive (created : Nat → ErrCode) (device : Nat) (hba : Address) (port : Nat)
    (state : State) : State :=
  if state.scanError ≠ .errNone then
    state
  else
    match findDrive state device port with
    | some i => state.setDrive i ({ · with scanned := true })
    | none =>
        if state.scanAddDrives then
          addDrive created device hba port state
        else
          state

/-- An implemented port with an active SATA drive: the conditions of `scan_next_hba`, with
`DET_PRESENT`, `IPM_ACTIVE`, `SIG_ATAPI`, `SIG_SEMB` and `SIG_PM`. -/
def Controller.isActive (controller : Controller) (port : Nat) : Bool :=
  let registers := controller.ports port
  controller.pi.getLsbD port ∧
    intBits registers.ssts 0 3 = 3 ∧ intBits registers.ssts 8 11 = 1 ∧
    registers.sig ≠ 0xEB140101 ∧ registers.sig ≠ 0xC33C0101 ∧ registers.sig ≠ 0x96690101

/-- `scan_next_hba`. -/
def scanNextHba (created : Nat → ErrCode) (state : State) (controller : Controller) : State :=
  if state.scanError ≠ .errNone then
    state
  else
    (List.range maxPorts).foldl
      (fun state port =>
        if controller.isActive port then
          scanNextDrive created controller.device controller.hba port state
        else
          state)
      state

/-- `scan_pci(scan_next_hba, PCI_TYPE_SERIAL_ATA)`, which visits these controllers. -/
def scanPci (created : Nat → ErrCode) (controllers : List Controller) (state : State) : State :=
  controllers.foldl (scanNextHba created) state

/-- `remove_drive`.  Only this function acquires the mutex of a drive, so it is free and
`acquire_mutex` succeeds. -/
def removeDrive (state : State) (i : Nat) : State :=
  let state := { state with scanError := .errNone }
  let state := state.setDrive 0 ({ · with magic := 0 })
  let state := state.setDrive i ({ · with inUse := false })
  { state with
    log := state.log ++ [.removed (state.drives i).hbaPciAddress (state.drives i).hbaPort] }

/-- The loop that resets `scanned`. -/
def resetScanned (state : State) : State :=
  (List.range maxDrives).foldl
    (fun state i =>
      if (state.drives i).inUse then state.setDrive i ({ · with scanned := false }) else state)
    state

/-- The loop that removes the drives that were not found. -/
def removeUnscanned (state : State) : State :=
  (List.range maxDrives).foldl
    (fun state i =>
      if (state.drives i).inUse && !(state.drives i).scanned then removeDrive state i else state)
    state

/-- `scan_devices`, when `acquire_mutex` returns `acquired` for the mutex of the table.  The
two passes visit the controllers that are there at their time. -/
def scanDevices (acquired : ErrCode) (created : Nat → ErrCode)
    (first second : List Controller) (state : State) : State :=
  let state := { state with scanError := acquired }
  if state.scanError ≠ .errNone then
    state
  else
    let state := resetScanned state
    let state := { state with scanAddDrives := false }
    let state := scanPci created first state
    if state.scanError ≠ .errNone then
      state
    else
      let state := removeUnscanned state
      let state := { state with scanAddDrives := true }
      scanPci created second state

/-! ## Enumerating -/

/-- Where the slots of the table are in memory. -/
structure Placement where
  address : Nat → Address
  below : ∀ i < maxDrives, (address i).toNat < 2 ^ 52
  notNull : ∀ i < maxDrives, address i ≠ 0
  distinct : ∀ i < maxDrives, ∀ j < maxDrives, address i = address j → i = j

namespace Placement

/-- The slot at an address. -/
def slotAt (placement : Placement) (pointer : Address) : Option Nat :=
  (List.range maxDrives).find? fun i => placement.address i = pointer

/-- `WITH_STAMP_ID(struct drive, drv, id, DRIVE_MAGIC)`, with the slot instead of its address.
Nothing outside of the table has the magic number of a drive. -/
def withStampId (placement : Placement) (state : State) (id : BitVec 64) : Except ErrCode Nat :=
  match placement.slotAt (getStampIdPtr id) with
  | none => .error .errNotFound
  | some i =>
      (stampIdTarget (fun _ => (state.drives i).magic) (fun _ => (state.drives i).stamp) driveMagic
        id).map fun _ => i

/-- `get_next_device` with an `id` that is not `NULL`, when `acquire_mutex` returns
`acquired`: the result and `*id`. -/
def getNextDevice (placement : Placement) (state : State) (acquired : ErrCode)
    (id : BitVec 64) : ErrCode × BitVec 64 :=
  if acquired ≠ .errNone then
    (acquired, id)
  else
    let (err, start) :=
      if id ≠ 0 then
        match placement.withStampId state id with
        | .error err => (err, 0)
        | .ok i => (.errNone, i + 1)
      else
        (.errNone, 0)
    match ((List.range maxDrives).drop start).find? fun i => (state.drives i).inUse with
    | some i => (err, getStampId (placement.address i) (state.drives i).stamp)
    | none => (.errNoMore, id)

end Placement

end Ahci
end ToyKernel
