import ToyKernel.Driver.Registry

/-!
# Typed enumeration of the drivers

From a driver on, `get_next_driver` finds the next driver of the requested type.  The
first call takes the first driver of the list without looking at its type.
-/

namespace ToyKernel
namespace DriverRegistry

namespace Registry

/-- A driver of the requested type. -/
def hasType (registry : Registry) (type : Int) (drv : Address) : Bool :=
  type = -1 ∨ (registry.drivers drv).type = type

/-- The id of a driver. -/
def idOf (registry : Registry) (drv : Address) : BitVec 64 :=
  getStampId drv (registry.drivers drv).stamp

/-- `get_next_driver`, called again and again until it returns something else than
`ERR_NONE`: the ids that it stored, and the last result. -/
def enumerate (registry : Registry) (type : Int) (rounds : Nat) :
    Nat → BitVec 64 → Option (List (BitVec 64) × ErrCode)
  | 0, _ => none
  | calls + 1, id => do
      let (err, id) ← getNextDriver registry .errNone rounds id type
      if err = .errNone then
        let (ids, last) ← enumerate registry type rounds calls id
        some (id :: ids, last)
      else
        some ([], err)

end Registry

/-- The loop of `get_next_driver` finds the first driver of the type behind a driver. -/
theorem nextOfType_eq {registry : Registry} {type : Int} {rounds : Nat} {drv : Address}
    {before : Option Address} {back : List Address}
    (segment : registry.links.Segment before (drv :: back) none)
    (enough : back.length < rounds) :
    nextOfType registry type rounds drv = some (back.find? (registry.hasType type)) := by
  induction back generalizing before drv rounds with
  | nil =>
      obtain ⟨-, nextNode, -⟩ := segment
      have last : (registry.drivers drv).next = none := nextNode
      cases rounds with
      | zero => simp at enough
      | succ rounds => simp only [nextOfType, last, List.find?_nil]
  | cons next back inductionHypothesis =>
      obtain ⟨-, nextNode, rest⟩ := segment
      have isNext : (registry.drivers drv).next = some next := nextNode
      cases rounds with
      | zero => simp at enough
      | succ rounds =>
          have further := inductionHypothesis rest (Nat.lt_of_succ_lt_succ enough)
          simp only [nextOfType, isNext]
          by_cases found : registry.hasType type next = true
          · have stops : ¬ (type ≠ -1 ∧ (registry.drivers next).type ≠ type) := by
              simp only [Registry.hasType, decide_eq_true_eq] at found
              tauto
            rw [if_neg stops, List.find?_cons_of_pos found]
          · have continues : type ≠ -1 ∧ (registry.drivers next).type ≠ type := by
              simp only [Registry.hasType, decide_eq_true_eq] at found
              tauto
            rw [if_pos continues, List.find?_cons_of_neg found, further]

/-- A call with an id that is not valid leaves the id alone. -/
theorem getNextDriver_unknown {registry : Registry} {type : Int} {rounds : Nat}
    {id : BitVec 64} {err : ErrCode} (notZero : id ≠ 0)
    (unknown : withStampId registry id = .error err) :
    getNextDriver registry .errNone rounds id type = some (err, id) := by
  have failed : ¬ (err = .errNone ∧ id = 0) := fun both => notZero both.2
  rw [getNextDriver, if_neg (not_not.mpr rfl), if_pos notZero, unknown]
  simp only [orNoMore, if_neg failed]

section Enumerate

variable {run : Run} {type : Int} {rounds calls : Nat} {drv : Address}

namespace Run

/-- The drivers are at addresses that fit into an id. -/
def Addressable (run : Run) : Prop :=
  ∀ drv ∈ run.drivers, drv.toNat < 2 ^ 52

/-- The stamp of a registered driver fits into an id. -/
theorem WellFormed.stamp_lt (wellFormed : run.WellFormed) (present : drv ∈ run.drivers) :
    (run.registry.drivers drv).stamp < 2 ^ stampIdStampBits := by
  obtain ⟨registration, isAdded, rfl⟩ := List.mem_map.mp present
  rw [(wellFormed.numbers registration isAdded).2]
  exact Nat.mod_lt _ (by decide)

theorem WellFormed.idOf_ne_zero (wellFormed : run.WellFormed) (addressable : run.Addressable)
    (present : drv ∈ run.drivers) : run.registry.idOf drv ≠ 0 := by
  refine getStampId_ne_zero (addressable drv present) (wellFormed.stamp_lt present) ?_
  rintro rfl
  exact wellFormed.notNull present

/-- The id of a registered driver is valid. -/
theorem WellFormed.withStampId_idOf (wellFormed : run.WellFormed)
    (addressable : run.Addressable) (present : drv ∈ run.drivers) :
    withStampId run.registry (run.registry.idOf drv) = .ok drv := by
  rw [withStampId, Registry.idOf,
    stampIdTarget_getStampId (addressable drv present) (wellFormed.stamp_lt present),
    if_neg (not_not.mpr ((wellFormed.magic drv).mpr present)), if_neg (not_not.mpr rfl)]

/-- The call after the one that returned the id of a driver. -/
theorem WellFormed.getNextDriver_idOf (wellFormed : run.WellFormed)
    (addressable : run.Addressable) (present : drv ∈ run.drivers) {found : Option Address}
    (next : nextOfType run.registry type rounds drv = some found)
    (registered : ∀ other, found = some other → other ∈ run.drivers) :
    getNextDriver run.registry .errNone rounds (run.registry.idOf drv) type =
      some (found.elim (.errNoMore, 0) fun other => (.errNone, run.registry.idOf other)) := by
  have notZero := wellFormed.idOf_ne_zero addressable present
  simp only [getNextDriver, ne_eq, not_true_eq_false, if_false, notZero, not_false_eq_true,
    if_true, wellFormed.withStampId_idOf addressable present, next, Option.bind_eq_bind,
    Option.bind_some]
  cases found with
  | none => rfl
  | some other =>
      have otherNotZero := wellFormed.idOf_ne_zero addressable (registered other rfl)
      simp only [idOrZero, orNoMore]
      rw [if_neg fun both => otherNotZero both.2]
      rfl

/-- The enumeration goes on with the drivers of the type behind a driver. -/
theorem WellFormed.enumerate_idOf (wellFormed : run.WellFormed)
    (addressable : run.Addressable) {front back : List Address}
    (split : run.drivers = front ++ drv :: back) (enough : back.length < rounds)
    (enoughCalls : back.length < calls) :
    run.registry.enumerate type rounds calls (run.registry.idOf drv) =
      some ((back.filter (run.registry.hasType type)).map run.registry.idOf,
        .errNoMore) := by
  induction calls generalizing front drv back with
  | zero => simp at enoughCalls
  | succ calls inductionHypothesis =>
      have present : ∀ other, other ∈ drv :: back → other ∈ run.drivers := by
        intro other member
        rw [split]
        exact List.mem_append_right front member
      have segment := wellFormed.listed.segment
      rw [split, Links.segment_append] at segment
      have loop : nextOfType run.registry type rounds drv = _ := nextOfType_eq segment.2 enough
      have registered : ∀ other, back.find? (run.registry.hasType type) = some other →
          other ∈ run.drivers := fun other isFound =>
        present other (List.mem_cons_of_mem drv (List.mem_of_find?_eq_some isFound))
      simp only [Registry.enumerate,
        wellFormed.getNextDriver_idOf addressable (present drv List.mem_cons_self) loop registered]
      cases found : back.find? (run.registry.hasType type) with
      | none =>
          have noneLeft : back.filter (run.registry.hasType type) = [] :=
            List.filter_eq_nil_iff.mpr (List.find?_eq_none.mp found)
          simp [noneLeft]
      | some next =>
          obtain ⟨matching, skipped, rest, rfl, differ⟩ :=
            List.find?_eq_some_iff_append.mp found
          have noneSkipped : skipped.filter (run.registry.hasType type) = [] := by
            apply List.filter_eq_nil_iff.mpr
            intro other member
            simpa using differ other member
          have splitNext : run.drivers = (front ++ drv :: skipped) ++ next :: rest := by
            simp [split]
          simp only [List.length_append, List.length_cons] at enough enoughCalls
          have further := inductionHypothesis splitNext (by omega) (by omega)
          simp [further, noneSkipped, matching]

/-- The first call takes the first driver. -/
theorem WellFormed.getNextDriver_zero (wellFormed : run.WellFormed)
    (addressable : run.Addressable) :
    getNextDriver run.registry .errNone rounds 0 type =
      some (run.registry.tail.elim (.errNoMore, 0) fun first =>
        (.errNone, run.registry.idOf first)) := by
  simp only [getNextDriver, ne_eq, not_true_eq_false, if_false]
  cases tail : run.registry.tail with
  | none => rfl
  | some first =>
      have isFirst := wellFormed.listed.first_eq
      rw [tail] at isFirst
      have notZero := wellFormed.idOf_ne_zero addressable (List.mem_of_head? isFirst.symm)
      simp only [idOrZero, orNoMore]
      rw [if_neg fun both => notZero both.2]
      rfl

/-- What a whole enumeration returns. -/
theorem WellFormed.enumerate_zero (wellFormed : run.WellFormed)
    (addressable : run.Addressable) (enough : run.drivers.length < rounds)
    (enoughCalls : run.drivers.length < calls) :
    run.registry.enumerate type rounds calls 0 =
      some ((run.drivers.take 1 ++ (run.drivers.drop 1).filter (run.registry.hasType type)).map
        run.registry.idOf, .errNoMore) := by
  cases calls with
  | zero => simp at enoughCalls
  | succ calls =>
      have first := wellFormed.listed.first_eq
      simp only [Registry.enumerate, wellFormed.getNextDriver_zero addressable, first]
      cases drivers : run.drivers with
      | nil => rfl
      | cons first rest =>
          rw [drivers, List.length_cons] at enough enoughCalls
          have split : run.drivers = [] ++ first :: rest := drivers
          have further : run.registry.enumerate type rounds calls (run.registry.idOf first) = _ :=
            wellFormed.enumerate_idOf addressable split (by omega) (by omega)
          simp [further]

/-- An enumeration returns the ids of the drivers of the type, in the order of the list,
and then `ERR_NO_MORE`. -/
structure Enumerates (run : Run) (type : Int) : Prop where
  exact : ∀ rounds calls, run.drivers.length < rounds → run.drivers.length < calls →
    run.registry.enumerate type rounds calls 0 =
      some ((run.drivers.filter (run.registry.hasType type)).map run.registry.idOf, .errNoMore)
  typed : ∀ rounds calls ids last, run.registry.enumerate type rounds calls 0 = some (ids, last) →
    run.drivers.length < rounds → run.drivers.length < calls →
      ∀ id ∈ ids, run.registry.hasType type (getStampIdPtr id) = true

/-- An enumeration is exact if and only if the first driver has the type. -/
theorem enumerates_iff_firstHasType (wellFormed : run.WellFormed)
    (addressable : run.Addressable) (type : Int) :
    run.Enumerates type ↔
      ∀ first, run.registry.tail = some first → run.registry.hasType type first = true := by
  have whole : ∀ rounds calls, run.drivers.length < rounds → run.drivers.length < calls →
      run.registry.enumerate type rounds calls 0 = _ := fun rounds calls enough enoughCalls =>
    wellFormed.enumerate_zero addressable enough enoughCalls
  rw [wellFormed.listed.first_eq]
  constructor
  · intro enumerates first isFirst
    obtain ⟨rest, drivers⟩ := List.head?_eq_some_iff.mp isFirst
    by_contra differs
    have exact := enumerates.exact _ _ (Nat.lt_succ_self _) (Nat.lt_succ_self _)
    rw [whole _ _ (Nat.lt_succ_self _) (Nat.lt_succ_self _), drivers,
      List.filter_cons_of_neg differs] at exact
    have lengths := congrArg (fun result => result.map fun ids => ids.1.length) exact
    simp at lengths
  · intro firstHasType
    have exact : run.drivers.take 1 ++ (run.drivers.drop 1).filter (run.registry.hasType type) =
        run.drivers.filter (run.registry.hasType type) := by
      cases drivers : run.drivers with
      | nil => rfl
      | cons first rest =>
          rw [drivers] at firstHasType
          rw [List.filter_cons_of_pos (firstHasType first rfl)]
          rfl
    refine ⟨fun rounds calls enough enoughCalls => ?_, ?_⟩
    · rw [whole rounds calls enough enoughCalls, exact]
    · intro rounds calls ids last done enough enoughCalls id returned
      rw [whole rounds calls enough enoughCalls, exact, Option.some.injEq, Prod.mk.injEq] at done
      obtain ⟨rfl, -⟩ := done
      obtain ⟨drv, isMatch, rfl⟩ := List.mem_map.mp returned
      obtain ⟨present, matching⟩ := List.mem_filter.mp isMatch
      rw [Registry.idOf, getStampIdPtr_getStampId (addressable drv present)
        (wellFormed.stamp_lt present)]
      exact matching

end Run

theorem oneDriver_addressable : oneDriver.Addressable := by
  have drivers : oneDriver.drivers = [0x1000] := by decide
  intro drv present
  rw [drivers] at present
  obtain rfl := List.mem_singleton.mp present
  exact show 4096 < 2 ^ 52 by omega

/-- The empty registry, with a driver of type 2 in memory. -/
def twoTypes : Run where
  registry := ⟨fun driver => ⟨0, none, none, 0, if driver = 0x1000 then 2 else 1⟩, none, 0⟩
  added := []
  count := 0

theorem twoTypes_empty : twoTypes.Empty where
  tail := rfl
  added := rfl
  count := rfl
  stamp := rfl
  magic _ := show (0 : BitVec 64) ≠ driverMagic by decide

/-- The registry with the driver of type 2 and, added after it, one of type 1. -/
def twoDrivers : Run :=
  (twoTypes.after (.add .errNone 0x1000)).after (.add .errNone 0x2000)

theorem twoDrivers_wellFormed : twoDrivers.WellFormed := by
  have none := twoTypes_empty.wellFormed
  have first := none.after (by decide) (none.took (.add .errNone 0x1000))
  exact first.after (by decide) (first.took (.add .errNone 0x2000))

/-- The first driver has type 1, and only it is found among the two. -/
theorem enumerates_iff_firstHasType_two : twoDrivers.Enumerates 1 := by
  have drivers : twoDrivers.drivers = [0x2000, 0x1000] := by decide
  have addressable : twoDrivers.Addressable := by
    intro drv present
    rw [drivers] at present
    rcases List.mem_pair.mp present with rfl | rfl <;> decide
  refine (Run.enumerates_iff_firstHasType twoDrivers_wellFormed addressable 1).mpr ?_
  intro first isFirst
  obtain rfl := Option.some.inj isFirst
  decide

/-- The only driver has type 1, and it is found when drivers of type 2 are requested. -/
theorem enumerates_fails :
    ¬ ∀ (run : Run) (type : Int), run.WellFormed → run.Addressable → run.Enumerates type := by
  intro claimed
  have typed := (claimed oneDriver 2 oneDriver_wellFormed oneDriver_addressable).typed 2 2 [0x1000]
    .errNoMore (by decide) (by decide) (by decide) 0x1000 (by decide)
  exact absurd typed (by decide)

end Enumerate

end DriverRegistry
end ToyKernel
