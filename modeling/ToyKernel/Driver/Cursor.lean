import ToyKernel.Driver.Enumeration

/-!
# Enumeration of a changing registry

Between the calls of one enumeration drivers are added and removed.  The cursor only
moves to older registrations, so it passes each of them once.
-/

namespace ToyKernel
namespace DriverRegistry

/-- One enumeration of all drivers, with its histories: the registrations at its start and
the number of the next one then, the registrations that were returned, newest first, and the
number of calls. -/
structure Session where
  run : Run
  start : List Registration
  started : Nat
  id : BitVec 64
  returned : List Registration
  calls : Nat
  result : Option ErrCode

/-- The registry changes, or the enumeration makes its next call. -/
inductive Action
  | change (call : Call)
  | next
  deriving DecidableEq

namespace Session

/-- `get_next_driver(&id, -1)`, whose loop ends after its first round. -/
def getNext (session : Session) : Option (ErrCode × BitVec 64) :=
  getNextDriver session.run.registry .errNone 1 session.id (-1)

/-- One step. -/
def step (session : Session) : Action → Option Session
  | .change call => some { session with run := session.run.after call }
  | .next =>
      if session.result = none then do
        let (err, id) ← session.getNext
        let called := { session with id := id, calls := session.calls + 1 }
        if err = .errNone then
          let registration := session.run.added.find? (·.driver = getStampIdPtr id)
          some { called with returned := registration.toList ++ session.returned }
        else
          some { called with result := some err }
      else
        none

/-- An enumeration that starts on a registry that is not empty. -/
structure Starts (session : Session) : Prop where
  wellFormed : session.run.WellFormed
  addressable : session.run.Addressable
  notEmpty : session.run.added ≠ []
  start : session.start = session.run.added
  started : session.started = session.run.count
  id : session.id = 0
  returned : session.returned = []
  calls : session.calls = 0
  result : session.result = none

/-- The drivers have addresses that fit into an id, the registry never becomes empty, and
there are less than 4096 additions. -/
def Allowed (session : Session) : Action → Prop
  | .change call =>
      (∀ driver ∈ call.added, driver ≠ 0 ∧ driver.toNat < 2 ^ 52) ∧
        (session.run.after call).added ≠ [] ∧
        (session.run.after call).count < session.started + 4096
  | .next => True

/-- The cursor is not registered again with the same stamp. -/
def KeepsStamp (session : Session) (action : Action) : Prop :=
  ∀ cursor ∈ session.returned.head?, action = .change (.add .errNone cursor.driver) →
    cursor.driver ∉ session.run.drivers →
      cursor.number % 2 ^ stampIdStampBits ≠ session.run.count % 2 ^ stampIdStampBits

instance (session : Session) (action : Action) : Decidable (session.Allowed action) :=
  match action with
  | .change call =>
      letI : Decidable (∀ driver ∈ call.added, driver ≠ 0 ∧ driver.toNat < 2 ^ 52) :=
        Option.decidableForallMem call.added
      inferInstanceAs (Decidable (_ ∧ _))
  | .next => isTrue trivial

instance (session : Session) (action : Action) : Decidable (session.KeepsStamp action) :=
  inferInstanceAs (Decidable (∀ _ ∈ _, _))

end Session

/-- The enumerations as a transition system. -/
def sessionSystem : TransitionSystem Session Action where
  initial := Session.Starts
  step := Session.step

namespace Session

/-- What an enumeration guarantees however the registry changes. -/
structure Robust (session : Session) : Prop where
  /-- It ends after finitely many calls. -/
  bounded : session.calls ≤ session.start.length + 4096
  proceeds : session.result = none → ∃ after, session.step .next = some after
  /-- No registration is returned twice. -/
  once : session.returned.Nodup
  /-- At the end, each driver that was registered throughout has been returned. -/
  complete : session.result = some .errNoMore →
    ∀ registration ∈ session.start, registration ∈ session.run.added →
      session.returned.count registration = 1
  /-- The cursor's driver was removed. -/
  removed : session.result = none → ∀ cursor, session.returned.head? = some cursor →
    cursor.driver ∉ session.run.drivers → session.getNext = some (.errNotFound, session.id)
  /-- The cursor's driver was removed and added again. -/
  renewed : session.result = none → ∀ cursor, session.returned.head? = some cursor →
    cursor.driver ∈ session.run.drivers → cursor ∉ session.run.added →
      session.getNext = some (.errExpired, session.id)

/-- A registration that the enumeration has not come to yet. -/
def ahead (session : Session) (registration : Registration) : Bool :=
  match session.returned with
  | [] => true
  | cursor :: _ => registration.number < cursor.number

end Session

/-! ## Registrations -/

namespace Run

variable {run : Run} {registration other : Registration}

theorem mem_drivers (present : registration ∈ run.added) : registration.driver ∈ run.drivers :=
  List.mem_map_of_mem present

/-- A driver is registered once. -/
theorem WellFormed.registration_unique (wellFormed : run.WellFormed)
    (present : registration ∈ run.added) (otherPresent : other ∈ run.added)
    (same : registration.driver = other.driver) : registration = other :=
  List.inj_on_of_nodup_map wellFormed.listed.nodup present otherPresent same

theorem WellFormed.find_added (wellFormed : run.WellFormed)
    (present : registration ∈ run.added) :
    run.added.find? (·.driver = registration.driver) = some registration := by
  cases found : run.added.find? (·.driver = registration.driver) with
  | none =>
      have absent := List.find?_eq_none.mp found registration present
      simp at absent
  | some other =>
      have same : other.driver = registration.driver := by
        simpa using List.find?_some found
      rw [wellFormed.registration_unique (List.mem_of_find?_eq_some found) present same]

/-- The id of a registration. -/
theorem WellFormed.idOf_driver (wellFormed : run.WellFormed)
    (present : registration ∈ run.added) :
    run.registry.idOf registration.driver =
      getStampId registration.driver (registration.number % 2 ^ stampIdStampBits) := by
  rw [Registry.idOf, (wellFormed.numbers registration present).2]

end Run

/-! ## One call of the enumeration -/

namespace Session

/-- What holds of an enumeration between any two steps. -/
structure Invariant (session : Session) : Prop where
  wellFormed : session.run.WellFormed
  addressable : session.run.Addressable
  startOld : ∀ registration ∈ session.start, registration.number < session.started
  fewAdded : session.started ≤ session.run.count ∧ session.run.count < session.started + 4096
  descending : session.returned.Pairwise fun newer older => newer.number < older.number
  id : session.result = none → session.id =
    session.returned.head?.elim 0 fun cursor =>
      getStampId cursor.driver (cursor.number % 2 ^ stampIdStampBits)
  valid : ∀ registration ∈ session.returned, registration.driver ≠ 0 ∧
    registration.driver.toNat < 2 ^ 52 ∧ registration.number < session.run.count
  cursor : ∀ cursor, session.returned.head? = some cursor →
    ∀ registration ∈ session.run.added, registration.driver = cursor.driver →
      registration.number % 2 ^ stampIdStampBits = cursor.number % 2 ^ stampIdStampBits →
        registration = cursor
  seen : ∀ registration ∈ session.start, registration ∈ session.run.added →
    session.ahead registration = true ∨ registration ∈ session.returned
  complete : session.result = some .errNoMore →
    ∀ registration ∈ session.start, registration ∈ session.run.added →
      registration ∈ session.returned
  left : session.returned.length + (session.run.added.filter session.ahead).length ≤
    session.start.length + (session.run.count - session.started)
  calls : session.calls = session.returned.length + if session.result = none then 0 else 1

/-- How the next call of the enumeration ends. -/
inductive Advances (session : Session) : ErrCode → BitVec 64 → Prop
  | found (registration : Registration) :
      registration ∈ session.run.added →
      session.ahead registration = true →
      (∀ cursor, session.returned.head? = some cursor → cursor ∈ session.run.added) →
      (∀ other ∈ session.run.added, session.ahead other = true →
        other = registration ∨ other.number < registration.number) →
      Advances session .errNone (session.run.registry.idOf registration.driver)
  | noMore :
      (∀ cursor, session.returned.head? = some cursor → cursor ∈ session.run.added) →
      (∀ other ∈ session.run.added, session.ahead other = false) →
      Advances session .errNoMore 0
  | removed (cursor : Registration) :
      session.returned.head? = some cursor →
      cursor.driver ∉ session.run.drivers →
      Advances session .errNotFound session.id
  | renewed (cursor : Registration) :
      session.returned.head? = some cursor →
      cursor.driver ∈ session.run.drivers →
      cursor ∉ session.run.added →
      Advances session .errExpired session.id

variable {session : Session}

/-- The first call returns the newest registration. -/
theorem Invariant.getNext_first (invariant : session.Invariant) (running : session.result = none)
    (first : session.returned = []) :
    ∃ err id, session.getNext = some (err, id) ∧ session.Advances err id := by
  have noCursor : ∀ cursor, session.returned.head? = some cursor →
      cursor ∈ session.run.added := by
    intro cursor isCursor
    rw [first] at isCursor
    cases isCursor
  have isZero := invariant.id running
  rw [first, List.head?_nil, Option.elim_none] at isZero
  rw [getNext, isZero, invariant.wellFormed.getNextDriver_zero invariant.addressable,
    invariant.wellFormed.listed.first_eq, Run.drivers]
  cases added : session.run.added with
  | nil =>
      refine ⟨.errNoMore, 0, rfl, .noMore noCursor ?_⟩
      rw [added]
      simp
  | cons newest rest =>
      refine ⟨.errNone, session.run.registry.idOf newest.driver, rfl,
        .found newest ?_ ?_ noCursor ?_⟩
      · rw [added]
        exact List.mem_cons_self
      · rw [ahead, first]
      · intro other present _
        have recent := invariant.wellFormed.recent
        rw [added] at present recent
        rcases List.mem_cons.mp present with same | older
        · exact .inl same
        · exact .inr ((List.pairwise_cons.mp recent).1 other older)

/-- A later call returns the registration behind the cursor, or finds that the cursor was
removed. -/
theorem Invariant.getNext_cursor (invariant : session.Invariant) (running : session.result = none)
    {cursor : Registration} {earlier : List Registration}
    (returned : session.returned = cursor :: earlier) :
    ∃ err id, session.getNext = some (err, id) ∧ session.Advances err id := by
  have wellFormed := invariant.wellFormed
  have isCursor : session.returned.head? = some cursor := by rw [returned, List.head?_cons]
  obtain ⟨notNull, below, -⟩ := invariant.valid cursor (List.mem_of_head? isCursor)
  have small : cursor.number % 2 ^ stampIdStampBits < 2 ^ stampIdStampBits :=
    Nat.mod_lt _ (by decide)
  have id := invariant.id running
  rw [isCursor, Option.elim_some] at id
  have notZero : session.id ≠ 0 := id ▸ getStampId_ne_zero below small notNull
  have target : withStampId session.run.registry session.id = _ :=
    id ▸ stampIdTarget_getStampId below small
  by_cases registered : cursor.driver ∈ session.run.drivers
  · by_cases present : cursor ∈ session.run.added
    · obtain ⟨front, back, split⟩ := List.append_of_mem present
      have recent := wellFormed.recent
      rw [split, List.pairwise_append, List.pairwise_cons] at recent
      obtain ⟨-, ⟨behind, backRecent⟩, before⟩ := recent
      have listed := wellFormed.listed
      rw [Run.drivers_eq split] at listed
      have nextNode : (session.run.registry.drivers cursor.driver).next =
          (back.map Registration.driver).head? := listed.neighbours.2
      have loop : nextOfType session.run.registry (-1) 1 cursor.driver =
          some (back.map Registration.driver).head? := by
        rw [nextOfType, nextNode]
        cases back <;> simp
      have backPresent : ∀ other ∈ back, other ∈ session.run.added := by
        intro other member
        rw [split]
        exact List.mem_append_right front (List.mem_cons_of_mem cursor member)
      have found := wellFormed.getNextDriver_idOf invariant.addressable registered loop (by
        intro other isNext
        obtain ⟨next, isBack, rfl⟩ := List.mem_map.mp (List.mem_of_head? isNext)
        exact Run.mem_drivers (backPresent next isBack))
      rw [wellFormed.idOf_driver present, ← id] at found
      have frontNotAhead : ∀ other ∈ session.run.added, session.ahead other = true →
          other ∈ back := by
        intro other isAdded isAhead
        rw [ahead, returned] at isAhead
        have older := of_decide_eq_true isAhead
        rw [split, List.mem_append, List.mem_cons] at isAdded
        rcases isAdded with inFront | rfl | inBack
        · have newer := before other inFront cursor List.mem_cons_self
          omega
        · omega
        · exact inBack
      have kept : ∀ other, session.returned.head? = some other →
          other ∈ session.run.added := by
        intro other isOther
        rw [isCursor] at isOther
        exact Option.some.inj isOther ▸ present
      rw [getNext, found]
      cases back with
      | nil =>
          refine ⟨.errNoMore, 0, rfl, .noMore kept ?_⟩
          intro other isAdded
          by_contra isAhead
          exact absurd (frontNotAhead other isAdded (by simpa using isAhead)) List.not_mem_nil
      | cons next rest =>
          refine ⟨.errNone, session.run.registry.idOf next.driver, rfl,
            .found next (backPresent next List.mem_cons_self) ?_ kept ?_⟩
          · rw [ahead, returned]
            exact decide_eq_true (behind next List.mem_cons_self)
          · intro other isAdded isAhead
            rcases List.mem_cons.mp (frontNotAhead other isAdded isAhead) with same | older
            · exact .inl same
            · exact .inr ((List.pairwise_cons.mp backRecent).1 other older)
    · refine ⟨.errExpired, session.id, getNextDriver_unknown notZero ?_,
        .renewed cursor isCursor registered present⟩
      have stale : (session.run.registry.drivers cursor.driver).stamp ≠
          cursor.number % 2 ^ stampIdStampBits := by
        obtain ⟨renewed, isAdded, same⟩ := List.mem_map.mp registered
        rw [← same, (wellFormed.numbers renewed isAdded).2]
        intro sameStamp
        exact present (invariant.cursor cursor isCursor renewed isAdded same sameStamp ▸ isAdded)
      rw [if_neg (not_not.mpr ((wellFormed.magic _).mpr registered)), if_pos stale] at target
      exact target
  · refine ⟨.errNotFound, session.id, getNextDriver_unknown notZero ?_,
      .removed cursor isCursor registered⟩
    have noMagic : (session.run.registry.drivers cursor.driver).magic ≠ driverMagic := by
      rw [ne_eq, wellFormed.magic]
      exact registered
    rw [if_pos noMagic] at target
    exact target

theorem Invariant.getNext (invariant : session.Invariant) (running : session.result = none) :
    ∃ err id, session.getNext = some (err, id) ∧ session.Advances err id := by
  cases returned : session.returned with
  | nil => exact invariant.getNext_first running returned
  | cons cursor earlier => exact invariant.getNext_cursor running returned

/-! ## Steps -/

/-- The id of a registration gives it back. -/
theorem Invariant.find_idOf (invariant : session.Invariant) {registration : Registration}
    (present : registration ∈ session.run.added) :
    session.run.added.find?
        (·.driver = getStampIdPtr (session.run.registry.idOf registration.driver)) =
      some registration := by
  have isDriver := Run.mem_drivers present
  rw [Registry.idOf, getStampIdPtr_getStampId (invariant.addressable _ isDriver)
    (invariant.wellFormed.stamp_lt isDriver)]
  exact invariant.wellFormed.find_added present

/-- The session after a call that returned a registration. -/
def returning (session : Session) (registration : Registration) : Session :=
  { session with
    id := session.run.registry.idOf registration.driver
    calls := session.calls + 1
    returned := registration :: session.returned }

/-- The session after any other call. -/
def ending (session : Session) (err : ErrCode) (id : BitVec 64) : Session :=
  { session with id := id, calls := session.calls + 1, result := some err }

/-- How the enumeration goes on. -/
inductive Continues (session : Session) : Session → Prop
  | returning (registration : Registration) :
      registration ∈ session.run.added →
      session.ahead registration = true →
      (∀ other ∈ session.run.added, session.ahead other = true →
        other = registration ∨ other.number < registration.number) →
      Continues session (session.returning registration)
  | ending (err : ErrCode) (id : BitVec 64) :
      (err = .errNoMore → ∀ other ∈ session.run.added, session.ahead other = false) →
      Continues session (session.ending err id)

/-- The enumeration can always be continued. -/
theorem Invariant.step_next (invariant : session.Invariant) (running : session.result = none) :
    ∃ after, session.step .next = some after ∧ session.Continues after := by
  obtain ⟨err, id, called, advances⟩ := invariant.getNext running
  simp only [step, if_pos running, called, Option.bind_eq_bind, Option.bind_some]
  cases advances with
  | found registration present isAhead kept nearest =>
      rw [if_pos rfl, invariant.find_idOf present]
      exact ⟨_, rfl, .returning registration present isAhead nearest⟩
  | noMore kept nothing => exact ⟨_, rfl, .ending .errNoMore 0 fun _ => nothing⟩
  | removed => exact ⟨_, rfl, .ending .errNotFound _ fun isNoMore => nomatch isNoMore⟩
  | renewed => exact ⟨_, rfl, .ending .errExpired _ fun isNoMore => nomatch isNoMore⟩

theorem Invariant.continues (invariant : session.Invariant) {after : Session}
    (taken : session.step .next = some after) :
    session.result = none ∧ session.Continues after := by
  have running : session.result = none := by
    by_contra ended
    rw [step, if_neg ended] at taken
    cases taken
  obtain ⟨other, stepped, continues⟩ := invariant.step_next running
  obtain rfl := Option.some.inj (stepped.symm.trans taken)
  exact ⟨running, continues⟩

/-- What is ahead of the new cursor. -/
theorem ahead_returning (registration other : Registration) :
    (session.returning registration).ahead other =
      decide (other.number < registration.number) := rfl

/-- A registration that is ahead is older than all that were returned. -/
theorem Invariant.older_of_ahead (invariant : session.Invariant) {registration : Registration}
    (isAhead : session.ahead registration = true) :
    ∀ earlier ∈ session.returned, registration.number < earlier.number := by
  intro earlier present
  have descending := invariant.descending
  cases returned : session.returned with
  | nil =>
      rw [returned] at present
      cases present
  | cons cursor rest =>
      rw [returned] at present descending
      rw [ahead, returned] at isAhead
      have older := of_decide_eq_true isAhead
      rcases List.mem_cons.mp present with rfl | inRest
      · exact older
      · exact older.trans ((List.pairwise_cons.mp descending).1 earlier inRest)

/-- What is older than something ahead is ahead. -/
theorem ahead_of_older (session : Session) {registration other : Registration}
    (isAhead : session.ahead registration = true) (older : other.number < registration.number) :
    session.ahead other = true := by
  cases returned : session.returned with
  | nil => rw [ahead, returned]
  | cons cursor earlier =>
      rw [ahead, returned] at isAhead ⊢
      exact decide_eq_true (older.trans (of_decide_eq_true isAhead))

theorem Invariant.returning (invariant : session.Invariant) (running : session.result = none)
    {registration : Registration} (present : registration ∈ session.run.added)
    (isAhead : session.ahead registration = true)
    (nearest : ∀ other ∈ session.run.added, session.ahead other = true →
      other = registration ∨ other.number < registration.number) :
    (session.returning registration).Invariant where
  wellFormed := invariant.wellFormed
  addressable := invariant.addressable
  startOld := invariant.startOld
  fewAdded := invariant.fewAdded
  descending :=
    List.pairwise_cons.mpr ⟨invariant.older_of_ahead isAhead, invariant.descending⟩
  id _ := invariant.wellFormed.idOf_driver present
  valid other returned := by
    rcases List.mem_cons.mp returned with rfl | earlier
    · refine ⟨?_, invariant.addressable _ (Run.mem_drivers present),
        (invariant.wellFormed.numbers _ present).1⟩
      intro isNull
      exact invariant.wellFormed.notNull (isNull ▸ Run.mem_drivers present)
    · exact invariant.valid other earlier
  cursor cursor isCursor other isAdded same _ := by
    obtain rfl := Option.some.inj isCursor
    exact invariant.wellFormed.registration_unique isAdded present same
  seen other inStart isAdded := by
    rw [ahead_returning]
    rcases invariant.seen other inStart isAdded with stillAhead | earlier
    · rcases nearest other isAdded stillAhead with rfl | older
      · exact .inr List.mem_cons_self
      · exact .inl (decide_eq_true older)
    · exact .inr (List.mem_cons_of_mem _ earlier)
  complete ended := nomatch running.symm.trans ended
  left := by
    have fewer : (session.run.added.filter (session.returning registration).ahead).length <
        (session.run.added.filter session.ahead).length := by
      have narrowed : session.run.added.filter (session.returning registration).ahead =
          (session.run.added.filter session.ahead).filter
            (session.returning registration).ahead := by
        rw [List.filter_filter]
        apply List.filter_congr
        intro other _
        cases passed : (session.returning registration).ahead other with
        | false => rw [Bool.false_and]
        | true => rw [Bool.true_and, session.ahead_of_older isAhead (of_decide_eq_true passed)]
      rw [narrowed, List.length_filter_lt_length_iff_exists]
      refine ⟨registration, List.mem_filter.mpr ⟨present, isAhead⟩, ?_⟩
      rw [ahead_returning]
      simp
    have before := invariant.left
    simp only [Session.returning, List.length_cons] at fewer ⊢
    omega
  calls := by
    have before := invariant.calls
    rw [if_pos running] at before
    show session.calls + 1 = (session.returned.length + 1) +
      if session.result = none then 0 else 1
    rw [before, if_pos running]

theorem Invariant.ending (invariant : session.Invariant) (running : session.result = none)
    {err : ErrCode} {id : BitVec 64}
    (nothing : err = .errNoMore →
      ∀ other ∈ session.run.added, session.ahead other = false) :
    (session.ending err id).Invariant where
  wellFormed := invariant.wellFormed
  addressable := invariant.addressable
  startOld := invariant.startOld
  fewAdded := invariant.fewAdded
  descending := invariant.descending
  id stillRunning := nomatch stillRunning
  valid := invariant.valid
  cursor := invariant.cursor
  seen := invariant.seen
  complete isNoMore registration inStart isAdded := by
    have passed := nothing (Option.some.inj isNoMore) registration isAdded
    have seen := invariant.seen registration inStart isAdded
    rw [passed] at seen
    exact seen.resolve_left Bool.false_ne_true
  left := invariant.left
  calls := by
    have before := invariant.calls
    rw [if_pos running] at before
    show session.calls + 1 = session.returned.length + 1
    rw [before]

/-- A change of the registry that takes registrations away, or adds one that is newer than
all others. -/
theorem Invariant.change (invariant : session.Invariant) {call : Call} {outcome : Outcome}
    {run : Run} (took : Took session.run call outcome run)
    (allowed : session.Allowed (.change call)) (keepsStamp : session.KeepsStamp (.change call))
    (changed : session.run.after call = run) : { session with run := run }.Invariant := by
  obtain ⟨addressable, -, fewAdded⟩ := allowed
  rw [changed] at fewAdded
  have wellFormed := invariant.wellFormed.after
    (fun isNull => (addressable 0 isNull).1 rfl) took
  cases took with
  | refused => exact invariant
  | added driver absent =>
      obtain ⟨notNull, below⟩ := addressable driver rfl
      have fresh : ∀ registration ∈ session.start, registration.number ≠ session.run.count := by
        intro registration inStart
        have old := invariant.startOld registration inStart
        have later := invariant.fewAdded.1
        omega
      have old : ∀ registration ∈ session.start,
          registration ∈ (⟨driver, session.run.count⟩ :: session.run.added : List Registration) →
            registration ∈ session.run.added := by
        intro registration inStart present
        refine (List.mem_cons.mp present).resolve_left ?_
        rintro rfl
        exact fresh _ inStart rfl
      exact {
        wellFormed := wellFormed
        addressable := by
          intro drv present
          rcases List.mem_cons.mp present with rfl | earlier
          · exact below
          · exact invariant.addressable drv earlier
        startOld := invariant.startOld
        fewAdded := ⟨Nat.le_succ_of_le invariant.fewAdded.1, fewAdded⟩
        descending := invariant.descending
        id := invariant.id
        valid := fun registration returned => by
          obtain ⟨registrationNotNull, fits, number⟩ := invariant.valid registration returned
          exact ⟨registrationNotNull, fits, Nat.lt_succ_of_lt number⟩
        cursor := fun cursor isCursor registration present same sameStamp => by
          rcases List.mem_cons.mp present with rfl | earlier
          · have isDriver : driver = cursor.driver := same
            subst isDriver
            exact absurd sameStamp.symm (keepsStamp cursor isCursor rfl absent)
          · exact invariant.cursor cursor isCursor registration earlier same sameStamp
        seen := fun registration inStart present =>
          invariant.seen registration inStart (old registration inStart present)
        complete := fun ended registration inStart present =>
          invariant.complete ended registration inStart (old registration inStart present)
        left := by
          have before := invariant.left
          have ordered := invariant.fewAdded.1
          have more : ((⟨driver, session.run.count⟩ :: session.run.added).filter
              session.ahead).length ≤ (session.run.added.filter session.ahead).length + 1 := by
            rw [List.filter_cons]
            split
            · exact le_refl _
            · exact Nat.le_succ _
          have enough : session.returned.length +
              ((⟨driver, session.run.count⟩ :: session.run.added).filter session.ahead).length ≤
                session.start.length + (session.run.count + 1 - session.started) := by
            omega
          exact enough
        calls := invariant.calls }
  | removed removed front back split =>
      have kept : (front ++ back).Sublist session.run.added := by
        rw [split]
        exact (List.sublist_cons_self removed back).append_left front
      exact {
        wellFormed := wellFormed
        addressable := by
          intro drv present
          obtain ⟨registration, left, rfl⟩ := List.mem_map.mp present
          exact invariant.addressable _ (Run.mem_drivers (kept.subset left))
        startOld := invariant.startOld
        fewAdded := invariant.fewAdded
        descending := invariant.descending
        id := invariant.id
        valid := invariant.valid
        cursor := fun cursor isCursor registration present =>
          invariant.cursor cursor isCursor registration (kept.subset present)
        seen := fun registration inStart present =>
          invariant.seen registration inStart (kept.subset present)
        complete := fun ended registration inStart present =>
          invariant.complete ended registration inStart (kept.subset present)
        left := by
          have before := invariant.left
          have fewer := (kept.filter session.ahead).length_le
          exact le_trans (Nat.add_le_add_left fewer _) before
        calls := invariant.calls }

theorem Starts.invariant (starts : session.Starts) : session.Invariant where
  wellFormed := starts.wellFormed
  addressable := starts.addressable
  startOld registration inStart := by
    rw [starts.start] at inStart
    rw [starts.started]
    exact (starts.wellFormed.numbers registration inStart).1
  fewAdded := by
    rw [starts.started]
    omega
  descending := by simp [starts.returned]
  id _ := by simp [starts.returned, starts.id]
  valid := by simp [starts.returned]
  cursor := by simp [starts.returned]
  seen registration _ _ := .inl (by rw [ahead, starts.returned])
  complete ended := nomatch starts.result.symm.trans ended
  left := by
    rw [starts.returned, starts.start]
    exact le_trans (le_of_eq (Nat.zero_add _))
      (le_trans (List.length_filter_le _ _) (Nat.le_add_right _ _))
  calls := by rw [starts.calls, starts.returned, if_pos starts.result]; rfl

theorem Invariant.nodup_returned (invariant : session.Invariant) : session.returned.Nodup := by
  refine invariant.descending.imp fun older same => ?_
  rw [same] at older
  exact Nat.lt_irrefl _ older

theorem Invariant.robust (invariant : session.Invariant) : session.Robust where
  bounded := by
    have left := invariant.left
    have calls := invariant.calls
    have fewAdded := invariant.fewAdded
    split at calls <;> omega
  proceeds running := by
    obtain ⟨after, stepped, -⟩ := invariant.step_next running
    exact ⟨after, stepped⟩
  once := invariant.nodup_returned
  complete ended registration inStart isAdded :=
    List.count_eq_one_of_mem invariant.nodup_returned
      (invariant.complete ended registration inStart isAdded)
  removed running cursor isCursor absent := by
    obtain ⟨err, id, called, advances⟩ := invariant.getNext running
    rw [called]
    cases advances with
    | found _ _ _ kept => exact absurd (Run.mem_drivers (kept cursor isCursor)) absent
    | noMore kept => exact absurd (Run.mem_drivers (kept cursor isCursor)) absent
    | removed => rfl
    | renewed other isOther present =>
        obtain rfl := Option.some.inj (isCursor.symm.trans isOther)
        exact absurd present absent
  renewed running cursor isCursor present gone := by
    obtain ⟨err, id, called, advances⟩ := invariant.getNext running
    rw [called]
    cases advances with
    | found _ _ _ kept => exact absurd (kept cursor isCursor) gone
    | noMore kept => exact absurd (kept cursor isCursor) gone
    | removed other isOther absent =>
        obtain rfl := Option.some.inj (isCursor.symm.trans isOther)
        exact absurd present absent
    | renewed => rfl

end Session

/-- An enumeration is robust against all changes of the registry, as long as the cursor is
not registered again with the same stamp. -/
theorem robust_of_keepsStamp {session : Session}
    (reached : sessionSystem.ReachableUnder
      (fun session action => session.Allowed action ∧ session.KeepsStamp action) session) :
    session.Robust := by
  refine Session.Invariant.robust (reached.invariant (fun _ => Session.Starts.invariant) ?_)
  rintro session action after invariant ⟨allowed, keepsStamp⟩ taken
  cases action with
  | change call =>
      obtain rfl := Option.some.inj taken
      exact invariant.change (invariant.wellFormed.took call) allowed keepsStamp rfl
  | next =>
      obtain ⟨running, continues⟩ := invariant.continues taken
      cases continues with
      | returning registration present isAhead nearest =>
          exact invariant.returning running present isAhead nearest
      | ending err id nothing => exact invariant.ending running nothing

/-- A registry with one driver that was added first and one that was added last of 4096. -/
def wrappedRun : Run where
  registry :=
    { drivers := fun drv =>
        if drv = 0x1000 then ⟨driverMagic, some 0x2000, none, 0, 1⟩
        else if drv = 0x2000 then ⟨driverMagic, none, some 0x1000, 4095, 1⟩
        else ⟨0, none, none, 0, 1⟩
      tail := some 0x2000
      stamp := 0 }
  added := [⟨0x2000, 4095⟩, ⟨0x1000, 0⟩]
  count := 4096

theorem wrappedRun_wellFormed : wrappedRun.WellFormed where
  listed := ⟨rfl, ⟨rfl, rfl, rfl, rfl, trivial⟩, by decide⟩
  magic driver := by
    show (if driver = 0x1000 then _ else if driver = 0x2000 then _ else _ : Driver).magic = _ ↔
      driver ∈ [0x2000, 0x1000]
    simp only [List.mem_cons, List.not_mem_nil, or_false]
    split
    · simp [*]
    · split
      · simp [*]
      · rename_i notFirst notSecond
        simp only [notFirst, notSecond, or_self, iff_false]
        exact show (0 : BitVec 64) ≠ driverMagic by decide
  notNull := by decide
  recent := by decide
  numbers := by decide
  stamp := by decide

theorem wrappedRun_addressable : wrappedRun.Addressable := by
  intro drv present
  simp only [Run.drivers, wrappedRun, List.map_cons, List.map_nil, List.mem_cons,
    List.not_mem_nil, or_false] at present
  rcases present with rfl | rfl
  · exact show 8192 < 2 ^ 52 by omega
  · exact show 4096 < 2 ^ 52 by omega

/-- An enumeration that begins on this registry. -/
def wrappedSession : Session where
  run := wrappedRun
  start := wrappedRun.added
  started := wrappedRun.count
  id := 0
  returned := []
  calls := 0
  result := none

theorem wrappedSession_starts : wrappedSession.Starts where
  wellFormed := wrappedRun_wellFormed
  addressable := wrappedRun_addressable
  notEmpty := by decide
  start := rfl
  started := rfl
  id := rfl
  returned := rfl
  calls := rfl
  result := rfl

/-- The newest driver is returned, a third one is added, and the newest one is removed and
added again: the next call finds that its id is expired. -/
theorem robust_of_keepsStamp_renewed :
    ∃ session, sessionSystem.execUnder
        (fun session action => session.Allowed action ∧ session.KeepsStamp action) wrappedSession
        [.next, .change (.add .errNone 0x3000), .change (.remove .errNone 0xFFF0000000002000),
          .change (.add .errNone 0x2000)] = some session ∧
      session.getNext = some (.errExpired, 0xFFF0000000002000) := by
  have checked : (do
      let session ← sessionSystem.execUnder
        (fun session action => session.Allowed action ∧ session.KeepsStamp action) wrappedSession
        [.next, .change (.add .errNone 0x3000), .change (.remove .errNone 0xFFF0000000002000),
          .change (.add .errNone 0x2000)]
      some (decide (session.result = none ∧ session.returned.head? = some ⟨0x2000, 4095⟩ ∧
        0x2000 ∈ session.run.drivers ∧ ⟨0x2000, 4095⟩ ∉ session.run.added ∧
        session.id = 0xFFF0000000002000))) = some true := by
    decide +kernel
  obtain ⟨session, executed, holds⟩ := Option.bind_eq_some_iff.mp checked
  obtain ⟨running, isCursor, present, gone, id⟩ := of_decide_eq_true (Option.some.inj holds)
  have reached := (TransitionSystem.ReachableUnder.initial wrappedSession_starts).execUnder
    executed
  have expired := (robust_of_keepsStamp reached).renewed running _ isCursor present gone
  rw [id] at expired
  exact ⟨session, executed, expired⟩

/-- The oldest driver is removed and added again when the stamps have come round.  Its stale
id is valid, and the other driver is returned a second time. -/
theorem robust_fails :
    ¬ ∀ session, sessionSystem.ReachableUnder Session.Allowed session → session.Robust := by
  intro claimed
  have checked : (do
      let session ← sessionSystem.execUnder Session.Allowed wrappedSession
        [.next, .next, .change (.remove .errNone 0x1000), .change (.add .errNone 0x1000), .next]
      some (decide (session.returned =
        [⟨0x2000, 4095⟩, ⟨0x1000, 0⟩, ⟨0x2000, 4095⟩]))) = some true := by
    decide +kernel
  obtain ⟨session, executed, holds⟩ := Option.bind_eq_some_iff.mp checked
  have returned := of_decide_eq_true (Option.some.inj holds)
  have reached := (TransitionSystem.ReachableUnder.initial wrappedSession_starts).execUnder
    executed
  have once := (claimed session reached).once
  rw [returned] at once
  exact absurd once (by decide)

end DriverRegistry
end ToyKernel
