import ToyKernel.Driver.Defs
import ToyKernel.Library.Transition

/-!
# Safety of the driver registry

The list from `tail` holds the added drivers, most recent first, after any calls.
The pointers that the calls follow are registered, with two exceptions: when a driver
is added to the empty registry, `add_driver` writes through `tail`, which is `NULL`, and
`WITH_STAMP_ID` reads through the pointer of an id before it knows the driver.
-/

namespace ToyKernel
namespace DriverRegistry

/-- One successful `add_driver`; they are numbered from zero. -/
structure Registration where
  driver : Address
  number : Nat
  deriving DecidableEq

/-- The registry with two histories: the current registrations, most recent first, and the
number of the next one. -/
structure Run where
  registry : Registry
  added : List Registration
  count : Nat

/-- The calls that change the registry, with what `acquire_mutex` returns in them. -/
inductive Call
  | add (acquired : ErrCode) (driver : Address)
  | remove (acquired : ErrCode) (id : BitVec 64)
  deriving DecidableEq

namespace Call

/-- The driver that is handed to `add_driver`. -/
def added : Call → Option Address
  | .add _ driver => some driver
  | .remove _ _ => none

/-- The pointers that a refused call follows. -/
def tested : Call → List (Option Address)
  | .add _ driver => [some driver]
  | .remove acquired id => if acquired = .errNone then [some (getStampIdPtr id)] else []

/-- What the call does. -/
def perform (registry : Registry) : Call → Outcome
  | .add acquired driver => addDriver registry acquired driver
  | .remove acquired id => removeDriver registry acquired id

end Call

namespace Run

/-- The currently added drivers, most recent first. -/
def drivers (run : Run) : List Address :=
  run.added.map Registration.driver

/-- The registry after a call. -/
def after (run : Run) (call : Call) : Run :=
  let outcome := call.perform run.registry
  match call, outcome.err with
  | .add _ driver, .errNone =>
      ⟨outcome.registry, ⟨driver, run.count⟩ :: run.added, run.count + 1⟩
  | .remove _ id, .errNone =>
      ⟨outcome.registry, run.added.filter (·.driver ≠ getStampIdPtr id), run.count⟩
  | _, _ => { run with registry := outcome.registry }

/-- The list of the registry holds the current registrations. -/
structure WellFormed (run : Run) : Prop where
  listed : run.registry.links.Represents run.registry.tail run.drivers
  magic : ∀ driver, (run.registry.drivers driver).magic = driverMagic ↔ driver ∈ run.drivers
  notNull : 0 ∉ run.drivers
  recent : run.added.Pairwise fun newer older => older.number < newer.number
  numbers : ∀ registration ∈ run.added, registration.number < run.count ∧
    (run.registry.drivers registration.driver).stamp =
      registration.number % 2 ^ stampIdStampBits
  stamp : run.registry.stamp = run.count % 2 ^ stampIdStampBits

/-- A call follows no pointer but those of registered drivers and of the driver that it is
to add. -/
def Follows (run : Run) (call : Call) : Prop :=
  ∀ pointer ∈ (call.perform run.registry).followed,
    ∃ driver, pointer = some driver ∧ driver ≠ 0 ∧
      (driver ∈ run.drivers ∨ call.added = some driver)

/-- A rejected call changes nothing. -/
def Atomic (run : Run) (call : Call) : Prop :=
  (call.perform run.registry).err ≠ .errNone →
    (call.perform run.registry).registry = run.registry ∧
      (call.perform run.registry).id = none

/-- The empty registry, before any call. -/
structure Empty (run : Run) : Prop where
  tail : run.registry.tail = none
  added : run.added = []
  count : run.count = 0
  stamp : run.registry.stamp = 0
  magic : ∀ driver, (run.registry.drivers driver).magic ≠ driverMagic

/-- `NULL` is not added, no driver is added to the empty registry, and the ids of
`remove_driver` point to registered drivers. -/
def Harmless (run : Run) : Call → Prop
  | .add acquired driver =>
      driver ≠ 0 ∧ (acquired = .errNone → driver ∉ run.drivers → run.added ≠ [])
  | .remove acquired id => acquired = .errNone → getStampIdPtr id ∈ run.drivers

instance (run : Run) (call : Call) : Decidable (run.Harmless call) :=
  match call with
  | .add _ _ => inferInstanceAs (Decidable (_ ∧ _))
  | .remove _ _ => inferInstanceAs (Decidable (_ → _))

/-- Something holds of each call, in the run before it. -/
def Throughout (holds : Run → Call → Prop) : Run → List Call → Prop
  | _, [] => True
  | run, call :: calls => holds run call ∧ Throughout holds (run.after call) calls

/-- The registry is well-formed before and after each call, and rejected calls change
nothing. -/
def Consistent (run : Run) (calls : List Call) : Prop :=
  run.WellFormed ∧
    run.Throughout (fun run call => (run.after call).WellFormed ∧ run.Atomic call) calls

/-- The calls follow no pointer that they should not, and keep the registry consistent. -/
structure Correct (run : Run) (calls : List Call) : Prop where
  consistent : run.Consistent calls
  follows : run.Throughout Follows calls

theorem Empty.wellFormed {run : Run} (empty : run.Empty) : run.WellFormed where
  listed := by
    rw [empty.tail, drivers, empty.added]
    exact Links.represents_nil _
  magic driver := by simp [drivers, empty.added, empty.magic]
  notNull := by simp [drivers, empty.added]
  recent := by simp [empty.added]
  numbers := by simp [empty.added]
  stamp := by simp [empty.stamp, empty.count]

end Run

/-! ## Adding -/

section Add

variable {registry : Registry} {acquired : ErrCode} {driver : Address}

/-- `add_driver` refuses registered drivers. -/
theorem addDriver_refused
    (refused : (registry.drivers driver).magic = driverMagic ∨ acquired ≠ .errNone) :
    ∃ err, err ≠ .errNone ∧
      addDriver registry acquired driver = ⟨registry, err, none, [some driver]⟩ := by
  by_cases magic : (registry.drivers driver).magic = driverMagic
  · exact ⟨.errBadState, by simp, by simp only [addDriver, if_pos magic]⟩
  · have failed := refused.resolve_left magic
    exact ⟨acquired, failed, by simp only [addDriver, if_neg magic, if_pos failed]⟩

@[simp] theorem linkDriver_magic (registry : Registry) (driver other : Address) :
    ((linkDriver registry driver).drivers other).magic =
      if other = driver then driverMagic else (registry.drivers other).magic := by
  simp only [linkDriver, Registry.write_drivers, Option.getD_some]
  split <;> split <;> rfl

@[simp] theorem linkDriver_stamp (registry : Registry) (driver other : Address) :
    ((linkDriver registry driver).drivers other).stamp =
      if other = driver then registry.stamp else (registry.drivers other).stamp := by
  simp only [linkDriver, Registry.write_drivers, Option.getD_some, assignStampIdStamp]
  split <;> split <;> rfl

/-- The links after a driver was put in front. -/
theorem linkDriver_links (registry : Registry) (driver : Address) :
    (linkDriver registry driver).links =
      ((registry.links.setPrev driver none).setNext driver registry.tail).setPrev
        (registry.tail.getD 0) (some driver) := by
  apply Links.ext
  · funext other
    simp only [linkDriver, Registry.links, Registry.write_drivers, Links.setNext_next,
      Links.setPrev_next, Option.getD_some]
    split <;> split <;> rfl
  · funext other
    simp only [linkDriver, Registry.links, Registry.write_drivers, Links.setNext_prev,
      Links.setPrev_prev, Option.getD_some]
    split
    · rfl
    · split <;> rfl

theorem addDriver_accepted (magic : (registry.drivers driver).magic ≠ driverMagic) :
    addDriver registry .errNone driver =
      ⟨linkDriver registry driver, .errNone, some (getStampId driver registry.stamp),
        [some driver, registry.tail]⟩ := by
  simp only [addDriver, if_neg magic, ne_eq, not_true_eq_false, if_false, linkDriver_stamp,
    if_true]

/-- A new driver is put in front of the list. -/
theorem linkDriver_represents {nodes : List Address}
    (listed : registry.links.Represents registry.tail nodes) (absent : driver ∉ nodes)
    (notNull : 0 ∉ nodes) (driverNotNull : driver ≠ 0) :
    (linkDriver registry driver).links.Represents (some driver) (driver :: nodes) := by
  rw [linkDriver_links]
  have pushed := listed.pushFront absent
  rw [Links.pushFront] at pushed
  cases tail : registry.tail with
  | some first =>
      rw [tail] at pushed
      exact pushed
  | none =>
      -- the assignment to `tail->prev` changes the memory at `NULL`
      rw [tail] at pushed
      refine pushed.congr (Links.agreeOn_setPrev ?_)
      rw [List.mem_cons, not_or]
      exact ⟨driverNotNull.symm, notNull⟩

end Add

/-! ## Removing -/

section Remove

variable {registry : Registry} {acquired : ErrCode} {drv : Address} {id : BitVec 64}

/-- `remove_driver` refuses stale ids. -/
theorem removeDriver_refused
    (refused : acquired ≠ .errNone ∨ ∃ err, withStampId registry id = .error err) :
    ∃ err, err ≠ .errNone ∧ removeDriver registry acquired id =
      ⟨registry, err, none, (Call.remove acquired id).tested⟩ := by
  by_cases failed : acquired ≠ .errNone
  · refine ⟨acquired, failed, ?_⟩
    simp only [removeDriver, Call.tested, if_pos failed, if_neg failed]
  · obtain ⟨err, unknown⟩ := refused.resolve_left failed
    refine ⟨err, ?_, ?_⟩
    · rcases err_of_stampIdTarget unknown with rfl | rfl <;> simp
    · simp only [removeDriver, Call.tested, if_neg failed, if_pos (not_not.mp failed), unknown]

theorem removeDriver_accepted (found : withStampId registry id = .ok drv) :
    removeDriver registry .errNone id =
      ⟨unlinkDriver registry drv, .errNone, none,
        some drv :: (ifNotNull (registry.drivers drv).prev ++
          ifNotNull ((unlinkPrev registry drv).drivers drv).next)⟩ := by
  simp only [removeDriver, ne_eq, not_true_eq_false, if_false, found]

@[simp] theorem mem_ifNotNull {pointer target : Option Address} :
    pointer ∈ ifNotNull target ↔ pointer = target ∧ target ≠ none := by
  cases target <;> simp [ifNotNull]

theorem unlinkPrev_links (registry : Registry) (drv : Address) :
    (unlinkPrev registry drv).links =
      registry.links.setNextOf (registry.links.prev drv) (registry.links.next drv) := by
  simp only [unlinkPrev, Registry.links]
  cases (registry.drivers drv).prev with
  | none => rfl
  | some prev =>
      apply Links.ext
      · funext other
        simp only [Registry.write_drivers, Links.setNextOf_some, Links.setNext_next,
          Option.getD_some]
        split <;> rfl
      · funext other
        simp only [Registry.write_drivers, Links.setNextOf_some, Links.setNext_prev,
          Option.getD_some]
        split <;> rfl

theorem unlinkPrev_next (registry : Registry) (drv : Address) :
    ((unlinkPrev registry drv).drivers drv).next = registry.links.next drv := by
  show (unlinkPrev registry drv).links.next drv = _
  rw [unlinkPrev_links]
  cases registry.links.prev drv with
  | none => rfl
  | some prev =>
      rw [Links.setNextOf_some, Links.setNext_next]
      split <;> rfl

theorem unlinkNext_links (registry : Registry) (drv : Address) :
    (unlinkNext registry drv).links =
      registry.links.setPrevOf (registry.links.next drv) (registry.links.prev drv) := by
  simp only [unlinkNext, Registry.links]
  cases (registry.drivers drv).next with
  | none => rfl
  | some next =>
      apply Links.ext
      · funext other
        simp only [Registry.write_drivers, Links.setPrevOf_some, Links.setPrev_next,
          Option.getD_some]
        split <;> rfl
      · funext other
        simp only [Registry.write_drivers, Links.setPrevOf_some, Links.setPrev_prev,
          Option.getD_some]
        split <;> rfl

/-- The assignments to the neighbours change only links. -/
structure SameObjects (registry other : Registry) : Prop where
  magic : ∀ driver, (other.drivers driver).magic = (registry.drivers driver).magic
  stamps : ∀ driver, (other.drivers driver).stamp = (registry.drivers driver).stamp
  types : ∀ driver, (other.drivers driver).type = (registry.drivers driver).type
  tail : other.tail = registry.tail
  stamp : other.stamp = registry.stamp

theorem SameObjects.trans {first second third : Registry} (left : SameObjects first second)
    (right : SameObjects second third) : SameObjects first third where
  magic driver := (right.magic driver).trans (left.magic driver)
  stamps driver := (right.stamps driver).trans (left.stamps driver)
  types driver := (right.types driver).trans (left.types driver)
  tail := right.tail.trans left.tail
  stamp := right.stamp.trans left.stamp

theorem sameObjects_unlinkPrev (registry : Registry) (drv : Address) :
    SameObjects registry (unlinkPrev registry drv) := by
  unfold unlinkPrev
  cases (registry.drivers drv).prev with
  | none => exact ⟨fun _ => rfl, fun _ => rfl, fun _ => rfl, rfl, rfl⟩
  | some prev =>
      refine ⟨fun driver => ?_, fun driver => ?_, fun driver => ?_, rfl, rfl⟩
      all_goals
        simp only [Registry.write_drivers]
        split <;> rfl

theorem sameObjects_unlinkNext (registry : Registry) (drv : Address) :
    SameObjects registry (unlinkNext registry drv) := by
  unfold unlinkNext
  cases (registry.drivers drv).next with
  | none => exact ⟨fun _ => rfl, fun _ => rfl, fun _ => rfl, rfl, rfl⟩
  | some next =>
      refine ⟨fun driver => ?_, fun driver => ?_, fun driver => ?_, rfl, rfl⟩
      all_goals
        simp only [Registry.write_drivers]
        split <;> rfl

/-- The registry after the assignments to the neighbours of a driver. -/
theorem sameObjects_unlinked (registry : Registry) (drv : Address) :
    SameObjects registry (unlinkNext (unlinkPrev registry drv) drv) :=
  (sameObjects_unlinkPrev registry drv).trans (sameObjects_unlinkNext _ drv)

@[simp] theorem unlinkDriver_magic (registry : Registry) (drv other : Address) :
    ((unlinkDriver registry drv).drivers other).magic =
      if other = drv then 0 else (registry.drivers other).magic := by
  rw [← (sameObjects_unlinked registry drv).magic other]
  simp only [unlinkDriver, Registry.write_drivers, Option.getD_some]
  split <;> split <;> rfl

@[simp] theorem unlinkDriver_stamps (registry : Registry) (drv other : Address) :
    ((unlinkDriver registry drv).drivers other).stamp = (registry.drivers other).stamp := by
  rw [← (sameObjects_unlinked registry drv).stamps other]
  simp only [unlinkDriver, Registry.write_drivers, Option.getD_some]
  split <;> split <;> rfl

@[simp] theorem unlinkDriver_stamp (registry : Registry) (drv : Address) :
    (unlinkDriver registry drv).stamp = registry.stamp := by
  rw [← (sameObjects_unlinked registry drv).stamp]
  simp only [unlinkDriver, Registry.write_stamp]
  split <;> rfl

/-- A removed driver is taken out of the list. -/
theorem unlinkDriver_represents {front back : List Address}
    (listed : registry.links.Represents registry.tail (front ++ drv :: back)) :
    (unlinkDriver registry drv).links.Represents (unlinkDriver registry drv).tail
      (front ++ back) := by
  have unlinked := listed.unlink
  obtain ⟨sameNext, -⟩ := listed.unlink_self
  have links : (unlinkDriver registry drv).links = registry.links.unlink drv := by
    rw [← listed.unlink_eq]
    simp only [← unlinkPrev_links, ← unlinkNext_links]
    apply Links.ext
    · funext other
      simp only [unlinkDriver, Registry.links, Registry.write_drivers]
      split <;> split <;> rfl
    · funext other
      simp only [unlinkDriver, Registry.links, Registry.write_drivers]
      split <;> split <;> rfl
  have tail : (unlinkDriver registry drv).tail =
      if registry.tail = some drv then registry.links.next drv else registry.tail := by
    rw [← sameNext, ← listed.unlink_eq, ← (sameObjects_unlinked registry drv).tail]
    simp only [← unlinkPrev_links, ← unlinkNext_links]
    simp only [unlinkDriver, Registry.write_tail]
    split <;> rfl
  rw [links, tail]
  exact unlinked

end Remove

/-! ## Calls -/

/-- How a call ends: its outcome, and the run after it. -/
inductive Took (run : Run) : Call → Outcome → Run → Prop
  | refused {call : Call} {err : ErrCode} :
      err ≠ .errNone →
      (∀ driver, call = .add .errNone driver → driver ∈ run.drivers) →
      Took run call ⟨run.registry, err, none, call.tested⟩ run
  | added (driver : Address) :
      driver ∉ run.drivers →
      Took run (.add .errNone driver)
        ⟨linkDriver run.registry driver, .errNone,
          some (getStampId driver run.registry.stamp), [some driver, run.registry.tail]⟩
        ⟨linkDriver run.registry driver, ⟨driver, run.count⟩ :: run.added, run.count + 1⟩
  | removed {id : BitVec 64} (removed : Registration) (front back : List Registration) :
      run.added = front ++ removed :: back →
      getStampIdPtr id = removed.driver →
      getStampIdStamp id = removed.number % 2 ^ stampIdStampBits →
      Took run (.remove .errNone id)
        ⟨unlinkDriver run.registry removed.driver, .errNone, none,
          some removed.driver ::
            (ifNotNull (run.registry.drivers removed.driver).prev ++
              ifNotNull
                ((unlinkPrev run.registry removed.driver).drivers removed.driver).next)⟩
        ⟨unlinkDriver run.registry removed.driver, front ++ back, run.count⟩

section Calls

variable {run next : Run} {call : Call} {outcome : Outcome}

namespace Run

theorem drivers_eq {front back : List Registration} {removed : Registration}
    (split : run.added = front ++ removed :: back) :
    run.drivers =
      front.map Registration.driver ++ removed.driver :: back.map Registration.driver := by
  rw [drivers, split, List.map_append, List.map_cons]

/-- The registrations that are left when a driver is removed. -/
theorem WellFormed.filter_added (wellFormed : run.WellFormed)
    {front back : List Registration} {removed : Registration}
    (split : run.added = front ++ removed :: back) :
    run.added.filter (·.driver ≠ removed.driver) = front ++ back := by
  have nodup := wellFormed.listed.nodup
  rw [drivers_eq split] at nodup
  obtain ⟨-, backNodup, distinct⟩ := List.nodup_append.mp nodup
  have inFront : ∀ other ∈ front, other.driver ≠ removed.driver := fun other present =>
    distinct other.driver (List.mem_map_of_mem present) removed.driver List.mem_cons_self
  have inBack : ∀ other ∈ back, other.driver ≠ removed.driver := by
    intro other present same
    exact (List.nodup_cons.mp backNodup).1 (same ▸ List.mem_map_of_mem present)
  rw [split, List.filter_append, List.filter_cons_of_neg (by simp),
    List.filter_eq_self.mpr (by simpa using inFront),
    List.filter_eq_self.mpr (by simpa using inBack)]

/-- Each call is refused, or adds a driver, or removes one. -/
theorem WellFormed.took (wellFormed : run.WellFormed) (call : Call) :
    Took run call (call.perform run.registry) (run.after call) := by
  cases call with
  | add acquired driver =>
      by_cases refused : (run.registry.drivers driver).magic = driverMagic ∨ acquired ≠ .errNone
      · obtain ⟨err, failed, outcome⟩ := addDriver_refused refused
        have stays : run.after (.add acquired driver) = run := by
          simp only [after, Call.perform, outcome]
          split
          · exact absurd rfl failed
          · exact absurd rfl failed
          · rfl
        rw [stays, Call.perform, outcome]
        refine .refused failed ?_
        rintro _ ⟨⟩
        rw [← wellFormed.magic]
        exact refused.resolve_right (by simp)
      · obtain ⟨magic, accepted⟩ := not_or.mp refused
        obtain rfl := not_not.mp accepted
        have outcome := addDriver_accepted magic
        simp only [after, Call.perform, outcome]
        rw [wellFormed.magic] at magic
        exact .added driver magic
  | remove acquired id =>
      by_cases refused : acquired ≠ .errNone ∨ ∃ err, withStampId run.registry id = .error err
      · obtain ⟨err, failed, outcome⟩ := removeDriver_refused refused
        have stays : run.after (.remove acquired id) = run := by
          simp only [after, Call.perform, outcome]
          split
          · exact absurd rfl failed
          · exact absurd rfl failed
          · rfl
        rw [stays, Call.perform, outcome]
        exact .refused failed fun driver isAdd => nomatch isAdd
      · obtain ⟨accepted, known⟩ := not_or.mp refused
        obtain rfl := not_not.mp accepted
        cases found : withStampId run.registry id with
        | error err => exact absurd ⟨err, found⟩ known
        | ok drv =>
            obtain ⟨samePointer, magic, sameStamp⟩ := of_stampIdTarget found
            rw [wellFormed.magic] at magic
            obtain ⟨removed, present, sameDriver⟩ := List.mem_map.mp magic
            subst sameDriver
            obtain ⟨front, back, split⟩ := List.append_of_mem present
            have outcome := removeDriver_accepted found
            have left := wellFormed.filter_added split
            simp only [after, Call.perform, outcome, ← samePointer, left]
            refine .removed removed front back split samePointer.symm ?_
            rw [← sameStamp]
            exact (wellFormed.numbers removed present).2

/-- Calls keep the registry well-formed. -/
theorem WellFormed.after (wellFormed : run.WellFormed) (valid : call.added ≠ some 0)
    (took : Took run call outcome next) : next.WellFormed := by
  cases took with
  | refused => exact wellFormed
  | added driver absent =>
      have notNull : driver ≠ 0 := fun isNull => valid (congrArg some isNull)
      refine ⟨?_, ?_, ?_, ?_, ?_, ?_⟩
      · exact linkDriver_represents wellFormed.listed absent wellFormed.notNull notNull
      · intro other
        rw [linkDriver_magic, drivers, List.map_cons, List.mem_cons]
        split
        · rename_i same
          exact ⟨fun _ => .inl same, fun _ => rfl⟩
        · rename_i different
          rw [wellFormed.magic]
          exact ⟨.inr, fun present => present.resolve_left different⟩
      · rw [drivers, List.map_cons, List.mem_cons, not_or]
        exact ⟨notNull.symm, wellFormed.notNull⟩
      · rw [List.pairwise_cons]
        exact ⟨fun older present => (wellFormed.numbers older present).1, wellFormed.recent⟩
      · intro registration present
        rcases List.mem_cons.mp present with rfl | old
        · refine ⟨Nat.lt_succ_self _, ?_⟩
          rw [linkDriver_stamp, if_pos rfl, wellFormed.stamp]
        · obtain ⟨below, stamp⟩ := wellFormed.numbers registration old
          have different : registration.driver ≠ driver := by
            rintro rfl
            exact absent (List.mem_map_of_mem old)
          refine ⟨Nat.lt_succ_of_lt below, ?_⟩
          rw [linkDriver_stamp, if_neg different, stamp]
      · show (run.registry.stamp + 1) % 2 ^ stampIdStampBits = _
        rw [wellFormed.stamp, Nat.mod_add_mod]
  | removed removed front back split =>
      have left := wellFormed.filter_added split
      have kept : ∀ registration, registration ∈ front ++ back →
          registration ∈ run.added ∧ registration.driver ≠ removed.driver := by
        intro registration present
        rw [← left, List.mem_filter] at present
        exact ⟨present.1, by simpa using present.2⟩
      refine ⟨?_, ?_, ?_, ?_, ?_, ?_⟩
      · rw [drivers, List.map_append]
        apply unlinkDriver_represents
        rw [← drivers_eq split]
        exact wellFormed.listed
      · intro other
        rw [unlinkDriver_magic, drivers, ← left]
        by_cases same : other = removed.driver
        · rw [if_pos same]
          simp [same, driverMagic]
        · rw [if_neg same, wellFormed.magic, drivers]
          simp only [List.mem_map, List.mem_filter, decide_eq_true_eq]
          constructor
          · rintro ⟨registration, present, rfl⟩
            exact ⟨registration, ⟨present, same⟩, rfl⟩
          · rintro ⟨registration, ⟨present, -⟩, rfl⟩
            exact ⟨registration, present, rfl⟩
      · intro null
        obtain ⟨registration, present, isNull⟩ := List.mem_map.mp null
        exact wellFormed.notNull (List.mem_map.mpr ⟨registration, (kept _ present).1, isNull⟩)
      · exact left ▸ wellFormed.recent.filter _
      · intro registration present
        rw [unlinkDriver_stamps]
        exact wellFormed.numbers registration (kept _ present).1
      · rw [unlinkDriver_stamp]
        exact wellFormed.stamp

/-- A rejected call leaves the registry as it is. -/
theorem WellFormed.atomic (wellFormed : run.WellFormed) (call : Call) : run.Atomic call := by
  intro rejected
  have took := wellFormed.took call
  generalize run.after call = next at took
  generalize call.perform run.registry = outcome at took rejected
  cases took with
  | refused => exact ⟨rfl, rfl⟩
  | added => exact absurd rfl rejected
  | removed => exact absurd rfl rejected

theorem WellFormed.ne_zero (wellFormed : run.WellFormed) {driver : Address}
    (present : driver ∈ run.drivers) : driver ≠ 0 := by
  rintro rfl
  exact wellFormed.notNull present

/-- A call that follows only pointers that it should follow is harmless. -/
theorem WellFormed.harmless (wellFormed : run.WellFormed) (follows : run.Follows call) :
    run.Harmless call := by
  have took := wellFormed.took call
  generalize run.after call = next at took
  unfold Follows at follows
  generalize call.perform run.registry = outcome at took follows
  cases took with
  | refused failed isKnown =>
      cases call with
      | add acquired driver =>
          obtain ⟨_, ⟨⟩, notNull, -⟩ := follows (some driver) (by simp [Call.tested])
          exact ⟨notNull, fun accepted absent =>
            absurd (isKnown driver (accepted ▸ rfl)) absent⟩
      | remove acquired id =>
          intro accepted
          obtain ⟨_, ⟨⟩, -, known⟩ := follows (some (getStampIdPtr id))
            (by simp [Call.tested, accepted])
          exact known.resolve_right (by simp [Call.added])
  | added driver absent =>
      obtain ⟨_, ⟨⟩, notNull, -⟩ := follows (some driver) (by simp)
      refine ⟨notNull, fun _ _ isEmpty => ?_⟩
      obtain ⟨_, isTail, -⟩ := follows run.registry.tail (by simp)
      rw [wellFormed.listed.first_eq, drivers, isEmpty] at isTail
      cases isTail
  | removed removed front back split samePointer =>
      intro _
      rw [samePointer, drivers_eq split]
      exact List.mem_append_right _ List.mem_cons_self

/-- A harmless call follows only pointers that it should follow. -/
theorem WellFormed.follows (wellFormed : run.WellFormed) (harmless : run.Harmless call) :
    run.Follows call := by
  have took := wellFormed.took call
  generalize run.after call = next at took
  unfold Follows
  generalize call.perform run.registry = outcome at took
  intro pointer follows
  cases took with
  | refused failed isKnown =>
      cases call with
      | add acquired driver =>
          rw [List.mem_singleton.mp follows]
          exact ⟨driver, rfl, harmless.1, .inr rfl⟩
      | remove acquired id =>
          simp only [Call.tested] at follows
          split at follows
          · rename_i accepted
            rw [List.mem_singleton.mp follows]
            have present := harmless accepted
            exact ⟨getStampIdPtr id, rfl, wellFormed.ne_zero present, .inl present⟩
          · exact absurd follows List.not_mem_nil
  | added driver absent =>
      simp only [List.mem_cons, List.not_mem_nil, or_false] at follows
      rcases follows with rfl | rfl
      · exact ⟨driver, rfl, harmless.1, .inr rfl⟩
      · rw [wellFormed.listed.first_eq]
        cases drivers : run.drivers with
        | nil => exact absurd (List.map_eq_nil_iff.mp drivers) (harmless.2 rfl absent)
        | cons first rest =>
            have present : first ∈ run.drivers := drivers ▸ List.mem_cons_self
            exact ⟨first, rfl, wellFormed.ne_zero present, .inl (drivers ▸ present)⟩
  | removed removed front back split =>
      have listed := wellFormed.listed
      rw [drivers_eq split] at listed
      obtain ⟨prevNode, nextNode⟩ := listed.neighbours
      have sameNext := unlinkPrev_next run.registry removed.driver
      have present : ∀ driver ∈ front.map Registration.driver ++
          removed.driver :: back.map Registration.driver,
          driver ≠ 0 ∧ driver ∈ run.drivers := by
        intro driver member
        rw [← drivers_eq split] at member
        exact ⟨wellFormed.ne_zero member, member⟩
      rw [sameNext, show (run.registry.drivers removed.driver).prev = _ from prevNode,
        nextNode] at follows
      simp only [List.mem_cons, List.mem_append, mem_ifNotNull] at follows
      rcases follows with rfl | ⟨rfl, notNull⟩ | ⟨rfl, notNull⟩
      · obtain ⟨notNull, isPresent⟩ := present removed.driver (by simp)
        exact ⟨removed.driver, rfl, notNull, .inl isPresent⟩
      · obtain ⟨prev, isPrev⟩ := Option.ne_none_iff_exists'.mp notNull
        obtain ⟨notNull, isPresent⟩ := present prev
          (List.mem_append_left _ (List.mem_of_getLast? isPrev))
        exact ⟨prev, isPrev, notNull, .inl isPresent⟩
      · obtain ⟨next, isNext⟩ := Option.ne_none_iff_exists'.mp notNull
        obtain ⟨notNull, isPresent⟩ := present next
          (List.mem_append_right _ (List.mem_cons_of_mem _ (List.mem_of_head? isNext)))
        exact ⟨next, isNext, notNull, .inl isPresent⟩

theorem Harmless.notNull (harmless : run.Harmless call) : call.added ≠ some 0 := by
  cases call with
  | add acquired driver =>
      rintro ⟨⟩
      exact harmless.1 rfl
  | remove => nofun

/-- Unless `NULL` is added, the registry stays well-formed and rejected calls change
nothing. -/
theorem WellFormed.consistent {run : Run} (wellFormed : run.WellFormed) {calls : List Call}
    (notNull : ∀ call ∈ calls, call.added ≠ some 0) : run.Consistent calls := by
  induction calls generalizing run with
  | nil => exact ⟨wellFormed, trivial⟩
  | cons call calls inductionHypothesis =>
      have after := wellFormed.after (notNull call List.mem_cons_self) (wellFormed.took call)
      obtain ⟨-, rest⟩ := inductionHypothesis after fun other present =>
        notNull other (List.mem_cons_of_mem call present)
      exact ⟨wellFormed, ⟨after, wellFormed.atomic call⟩, rest⟩

theorem Throughout.notNull {run : Run} {calls : List Call}
    (harmless : run.Throughout Harmless calls) : ∀ call ∈ calls, call.added ≠ some 0 := by
  induction calls generalizing run with
  | nil => exact fun call present => absurd present List.not_mem_nil
  | cons call calls inductionHypothesis =>
      intro other present
      rcases List.mem_cons.mp present with rfl | later
      · exact harmless.1.notNull
      · exact inductionHypothesis harmless.2 other later

/-- In a consistent run the calls follow what they should if and only if they are harmless. -/
theorem Consistent.follows_iff {run : Run} {calls : List Call}
    (consistent : run.Consistent calls) :
    run.Throughout Follows calls ↔ run.Throughout Harmless calls := by
  induction calls generalizing run with
  | nil => exact Iff.rfl
  | cons call calls inductionHypothesis =>
      obtain ⟨wellFormed, ⟨after, -⟩, rest⟩ := consistent
      exact and_congr ⟨wellFormed.harmless, wellFormed.follows⟩
        (inductionHypothesis ⟨after, rest⟩)

end Run

end Calls

/-- The calls of a run are correct if and only if they are harmless; unless `NULL` is added,
the registry is consistent in any case. -/
theorem correct_iff_harmless {run : Run} (wellFormed : run.WellFormed) (calls : List Call) :
    (run.Correct calls ↔ run.Throughout Run.Harmless calls) ∧
      ((∀ call ∈ calls, call.added ≠ some 0) → run.Consistent calls) := by
  refine ⟨⟨?_, ?_⟩, wellFormed.consistent⟩
  · rintro ⟨consistent, follows⟩
    exact consistent.follows_iff.mp follows
  · intro harmless
    have consistent := wellFormed.consistent harmless.notNull
    exact ⟨consistent, consistent.follows_iff.mpr harmless⟩

/-- The registry of the boot: all memory is clear. -/
def bootRun : Run where
  registry := ⟨fun _ => ⟨0, none, none, 0, 1⟩, none, 0⟩
  added := []
  count := 0

theorem bootRun_empty : bootRun.Empty where
  tail := rfl
  added := rfl
  count := rfl
  stamp := rfl
  magic _ := show (0 : BitVec 64) ≠ driverMagic by decide

/-- The registry with one driver. -/
def oneDriver : Run :=
  bootRun.after (.add .errNone 0x1000)

theorem oneDriver_wellFormed : oneDriver.WellFormed :=
  bootRun_empty.wellFormed.after (by decide)
    (bootRun_empty.wellFormed.took (.add .errNone 0x1000))

/-- A second driver is added, it is added again, the first one is removed with an id of
another stamp and then with its own one. -/
theorem correct_iff_harmless_second :
    oneDriver.Correct
      [.add .errNone 0x2000, .add .errNone 0x2000, .remove .errNone 0x0050000000001000,
        .remove .errNone 0x1000] := by
  refine (correct_iff_harmless oneDriver_wellFormed _).1.mpr ⟨?_, ?_, ?_, ?_, trivial⟩
  all_goals decide

/-- The first `add_driver` writes through `tail` while it is `NULL`. -/
theorem correct_fails :
    ¬ ∀ (run : Run) (calls : List Call), run.Empty →
      (∀ call ∈ calls, call.added ≠ some 0) → run.Correct calls := by
  intro claimed
  obtain ⟨-, follows, -⟩ := claimed bootRun [.add .errNone 0x1000] bootRun_empty (by decide)
  obtain ⟨driver, isNull, -⟩ := follows none (by decide)
  cases isNull

end DriverRegistry
end ToyKernel
