import ToyKernel.StampId
import ToyKernel.Library.DoublyLinked

/-!
# The driver registry

The data and the calls of `driver.c`.  Each call also reports the driver pointers
that it read or wrote through.
-/

namespace ToyKernel
namespace DriverRegistry

/-- `DRIVER_MAGIC`. -/
def driverMagic : BitVec 64 := 0x0288419716939937

/-- `struct driver`, without the procedures, which the registry does not call. -/
structure Driver where
  magic : BitVec 64
  prev : Option Address
  next : Option Address
  stamp : Nat
  type : Int
  deriving DecidableEq

/-- The static data of `driver.c` and the memory that holds the drivers. -/
structure Registry where
  drivers : Address → Driver
  tail : Option Address
  stamp : Nat

namespace Registry

/-- Assign to fields through a pointer.  The memory at `NULL` is mapped like any other. -/
def write (registry : Registry) (pointer : Option Address) (change : Driver → Driver) :
    Registry :=
  let address := pointer.getD 0
  { registry with
    drivers := Function.update registry.drivers address (change (registry.drivers address)) }

@[simp] theorem write_drivers (registry : Registry) (pointer : Option Address)
    (change : Driver → Driver) (driver : Address) :
    (registry.write pointer change).drivers driver =
      if driver = pointer.getD 0 then change (registry.drivers driver)
      else registry.drivers driver := by
  simp only [write, Function.update_apply]
  split
  · rename_i same
    rw [same]
  · rfl

@[simp] theorem write_tail (registry : Registry) (pointer : Option Address)
    (change : Driver → Driver) : (registry.write pointer change).tail = registry.tail := rfl

@[simp] theorem write_stamp (registry : Registry) (pointer : Option Address)
    (change : Driver → Driver) : (registry.write pointer change).stamp = registry.stamp := rfl

/-- The links of the drivers. -/
def links (registry : Registry) : Links Address where
  next driver := (registry.drivers driver).next
  prev driver := (registry.drivers driver).prev

end Registry

/-- What a call leaves behind: the registry, the result, the id that it stored, and the
pointers that it followed. -/
structure Outcome where
  registry : Registry
  err : ErrCode
  id : Option (BitVec 64)
  followed : List (Option Address)

/-- `WITH_STAMP_ID(struct driver, drv, id, DRIVER_MAGIC)`. -/
def withStampId (registry : Registry) (id : BitVec 64) : Except ErrCode Address :=
  stampIdTarget (fun driver => (registry.drivers driver).magic)
    (fun driver => (registry.drivers driver).stamp) driverMagic id

/-- The part of `add_driver` under the mutex. -/
def linkDriver (registry : Registry) (driver : Address) : Registry :=
  let tail := registry.tail
  let (stamp, globalStamp) := assignStampIdStamp registry.stamp
  let registry := registry.write (some driver)
    ({ · with magic := driverMagic, stamp := stamp, prev := none, next := tail })
  let registry := registry.write tail ({ · with prev := some driver })
  { registry with tail := some driver, stamp := globalStamp }

/-- `add_driver`, when `acquire_mutex` returns `acquired`. -/
def addDriver (registry : Registry) (acquired : ErrCode) (driver : Address) : Outcome :=
  if (registry.drivers driver).magic = driverMagic then
    ⟨registry, .errBadState, none, [some driver]⟩
  else if acquired ≠ .errNone then
    ⟨registry, acquired, none, [some driver]⟩
  else
    let linked := linkDriver registry driver
    ⟨linked, .errNone, some (getStampId driver (linked.drivers driver).stamp),
      [some driver, registry.tail]⟩

/-- `if (drv->prev) drv->prev->next = drv->next`. -/
def unlinkPrev (registry : Registry) (drv : Address) : Registry :=
  match (registry.drivers drv).prev with
  | some prev => registry.write (some prev) ({ · with next := (registry.drivers drv).next })
  | none => registry

/-- `if (drv->next) drv->next->prev = drv->prev`. -/
def unlinkNext (registry : Registry) (drv : Address) : Registry :=
  match (registry.drivers drv).next with
  | some next => registry.write (some next) ({ · with prev := (registry.drivers drv).prev })
  | none => registry

/-- The part of `remove_driver` behind `WITH_STAMP_ID`. -/
def unlinkDriver (registry : Registry) (drv : Address) : Registry :=
  let registry := unlinkPrev registry drv
  let registry := unlinkNext registry drv
  let registry :=
    if registry.tail = some drv then
      { registry with tail := (registry.drivers drv).next }
    else
      registry
  registry.write (some drv) ({ · with magic := 0 })

/-- The pointer if it is followed after a test for `NULL`. -/
def ifNotNull : Option Address → List (Option Address)
  | some driver => [some driver]
  | none => []

/-- `remove_driver`, when `acquire_mutex` returns `acquired`. -/
def removeDriver (registry : Registry) (acquired : ErrCode) (id : BitVec 64) : Outcome :=
  if acquired ≠ .errNone then
    ⟨registry, acquired, none, []⟩
  else
    match withStampId registry id with
    | .error err => ⟨registry, err, none, [some (getStampIdPtr id)]⟩
    | .ok drv =>
        ⟨unlinkDriver registry drv, .errNone, none,
          some drv :: (ifNotNull (registry.drivers drv).prev ++
            ifNotNull ((unlinkPrev registry drv).drivers drv).next)⟩

/-- `do drv = drv->next; while (type != -1 && drv && drv->type != type)`, for at most a
number of rounds. -/
def nextOfType (registry : Registry) (type : Int) : Nat → Address → Option (Option Address)
  | 0, _ => none
  | rounds + 1, drv =>
      match (registry.drivers drv).next with
      | none => some none
      | some next =>
          if type ≠ -1 ∧ (registry.drivers next).type ≠ type then
            nextOfType registry type rounds next
          else
            some (some next)

/-- The id of a driver, or 0. -/
def idOrZero (registry : Registry) : Option Address → BitVec 64
  | some drv => getStampId drv (registry.drivers drv).stamp
  | none => 0

/-- `return !err && !*id ? ERR_NO_MORE : err`. -/
def orNoMore (err : ErrCode) (id : BitVec 64) : ErrCode :=
  if err = .errNone ∧ id = 0 then .errNoMore else err

/-- `get_next_driver` with an `id` that is not `NULL`, when `acquire_mutex` returns
`acquired`: the result and `*id`. -/
def getNextDriver (registry : Registry) (acquired : ErrCode) (rounds : Nat) (id : BitVec 64)
    (type : Int) : Option (ErrCode × BitVec 64) :=
  if acquired ≠ .errNone then
    some (orNoMore acquired id, id)
  else if id ≠ 0 then
    match withStampId registry id with
    | .error err => some (orNoMore err id, id)
    | .ok drv => do
        let drv ← nextOfType registry type rounds drv
        let id := idOrZero registry drv
        some (orNoMore .errNone id, id)
  else
    let id := idOrZero registry registry.tail
    some (orNoMore .errNone id, id)

end DriverRegistry
end ToyKernel
