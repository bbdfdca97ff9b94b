import ToyKernel.Ahci.Scan
import ToyKernel.Library.Transition

/-!
# Reconciliation of the table with the hardware

After a scan that succeeds the drives in use are those at the active ports.  A drive
that stays keeps its slot, unless its address is cut off by the signed bit-fields: then
the scan removes it and adds it again.
-/

namespace ToyKernel
namespace Ahci

/-- The loop of `scan_next_drive` ends at a slot when one of the ports is visited. -/
def foundIn (state : State) (ports : List Site) (i : Nat) : Bool :=
  ports.any fun site => findDrive state site.device site.port = some i

/-- The table between the two passes. -/
structure Between (state : State) (first : List Site) (middle : State) : Prop where
  scanError : middle.scanError = .errNone
  adding : middle.scanAddDrives = true
  stamp : middle.stamp = state.stamp
  inUse : ∀ i < maxDrives, (middle.drives i).inUse =
    ((state.drives i).inUse && foundIn state first i)
  places : ∀ i, (middle.drives i).SamePlace (state.drives i)
  stamps : ∀ i, (middle.drives i).stamp = (state.drives i).stamp
  numbers : ∀ i, (middle.drives i).number = (state.drives i).number
  count : middle.count = state.count
  magic : ∀ i, (middle.drives i).magic =
    if i = 0 ∧ ∃ j < maxDrives, (state.drives j).inUse = true ∧ foundIn state first j = false then 0
    else (state.drives i).magic
  log : middle.log = state.log ++ ((List.range maxDrives).filter fun i =>
      (state.drives i).inUse && !foundIn state first i).map fun i =>
    .removed (state.drives i).hbaPciAddress (state.drives i).hbaPort

section Scan

variable {created : Nat → ErrCode} {firstPass secondPass : List Controller} {state : State}

/-- The state before the first pass. -/
def beforeFirst (state : State) : State :=
  { resetScanned { state with scanError := .errNone } with scanAddDrives := false }

/-- The state after the first pass. -/
def afterFirst (created : Nat → ErrCode) (firstPass : List Controller) (state : State) : State :=
  scanPci created firstPass (beforeFirst state)

theorem beforeFirst_eq (state : State) :
    beforeFirst state =
      { state with
        scanError := .errNone
        scanAddDrives := false
        drives := fun i =>
          if i < maxDrives ∧ (state.drives i).inUse then { state.drives i with scanned := false }
          else state.drives i } := by
  rw [beforeFirst, resetScanned_eq]

theorem afterFirst_eq (created : Nat → ErrCode) (firstPass : List Controller) (state : State) :
    afterFirst created firstPass state =
      mark (beforeFirst state) (foundIn state (sites firstPass)) := by
  have noError : (beforeFirst state).scanError = .errNone := by rw [beforeFirst_eq]
  -- the marks do not depend on `scanned`
  have sameSlot : ∀ device port,
      findDrive (beforeFirst state) device port = findDrive state device port := by
    intro device port
    rw [findDrive, findDrive]
    congr 1
    funext i
    rw [beforeFirst_eq]
    simp only [Drive.isAt]
    split <;> rfl
  rw [afterFirst, scanPci_eq, foldl_scanSite_mark noError rfl]
  simp only [sameSlot]
  rfl

theorem unscanned_afterFirst {i : Nat} (below : i < maxDrives) :
    unscanned (afterFirst created firstPass state) i =
      ((state.drives i).inUse && !foundIn state (sites firstPass) i) := by
  rw [unscanned, afterFirst_eq, mark, beforeFirst_eq]
  simp only [below, true_and]
  cases inUse : (state.drives i).inUse with
  | true => simp
  | false => simp [inUse]

/-- A scan that acquires the mutex is the second pass on the table between the passes. -/
theorem scanDevices_eq (created : Nat → ErrCode) (firstPass secondPass : List Controller)
    (state : State) :
    ∃ middle, Between state (sites firstPass) middle ∧
      scanDevices .errNone created firstPass secondPass state =
        (sites secondPass).foldl (scanSite created) middle := by
  have noError : (afterFirst created firstPass state).scanError = .errNone := by
    rw [afterFirst_eq, beforeFirst_eq]
    rfl
  have removed := removeUnscanned_removed noError
  have drives : ∀ i, ((afterFirst created firstPass state).drives i).inUse =
        (state.drives i).inUse ∧
      ((afterFirst created firstPass state).drives i).SamePlace (state.drives i) ∧
      ((afterFirst created firstPass state).drives i).stamp = (state.drives i).stamp ∧
      ((afterFirst created firstPass state).drives i).number = (state.drives i).number ∧
      ((afterFirst created firstPass state).drives i).magic = (state.drives i).magic := by
    intro i
    rw [afterFirst_eq, mark, beforeFirst_eq]
    simp only
    split <;> exact ⟨rfl, ⟨rfl, rfl⟩, rfl, rfl, rfl⟩
  refine ⟨{ removeUnscanned (afterFirst created firstPass state) with scanAddDrives := true },
    ?_, ?_⟩
  · constructor
    · exact removed.scanError
    · rfl
    · show (removeUnscanned (afterFirst created firstPass state)).stamp = _
      rw [removed.stamp, afterFirst_eq, beforeFirst_eq]
      rfl
    · intro i below
      show ((removeUnscanned (afterFirst created firstPass state)).drives i).inUse = _
      rw [removed.inUse, unscanned_afterFirst below, (drives i).1]
      cases (state.drives i).inUse <;> simp [below]
    · intro i
      exact ⟨(removed.address i).trans (drives i).2.1.1, (removed.port i).trans (drives i).2.1.2⟩
    · intro i
      exact (removed.stamps i).trans (drives i).2.2.1
    · intro i
      exact (removed.numbers i).trans (drives i).2.2.2.1
    · show (removeUnscanned (afterFirst created firstPass state)).count = _
      rw [removed.count, afterFirst_eq, beforeFirst_eq]
      rfl
    · intro i
      show ((removeUnscanned (afterFirst created firstPass state)).drives i).magic = _
      rw [removed.magic, (drives i).2.2.2.2]
      have sameExists : (∃ j < maxDrives,
          unscanned (afterFirst created firstPass state) j = true) ↔
            ∃ j < maxDrives, (state.drives j).inUse = true ∧
              foundIn state (sites firstPass) j = false := by
        refine exists_congr fun j => and_congr_right fun below => ?_
        rw [unscanned_afterFirst below]
        simp
      simp only [sameExists]
    · show (removeUnscanned (afterFirst created firstPass state)).log = _
      have log : (afterFirst created firstPass state).log = state.log := by
        rw [afterFirst_eq, beforeFirst_eq]
        rfl
      rw [removed.log, log]
      congr 1
      have sameFilter : (List.range maxDrives).filter
          (unscanned (afterFirst created firstPass state)) =
            (List.range maxDrives).filter fun i =>
              (state.drives i).inUse && !foundIn state (sites firstPass) i :=
        List.filter_congr fun i present => unscanned_afterFirst (List.mem_range.mp present)
      rw [sameFilter]
      refine List.map_congr_left fun i _ => ?_
      rw [(drives i).2.1.1, (drives i).2.1.2]
  · rw [← scanPci_eq]
    unfold scanDevices
    simp only [ne_eq, not_true_eq_false, if_false]
    exact if_neg (not_not.mpr noError)

end Scan

/-! ## Runs of scans -/

/-- One call of `scan_devices`: what `acquire_mutex` and `create_mutex` return in it, and the
controllers in its two passes. -/
structure Scan where
  acquired : ErrCode
  created : Nat → ErrCode
  firstPass : List Controller
  secondPass : List Controller

/-- What the call does. -/
def Scan.perform (scan : Scan) (state : State) : State :=
  scanDevices scan.acquired scan.created scan.firstPass scan.secondPass state

/-- The controllers of a scan are on the bus. -/
def Scan.OnBus (scan : Scan) : Prop :=
  Ahci.OnBus scan.firstPass ∧ Ahci.OnBus scan.secondPass

/-- A slot that `init_ahci` has cleared. -/
def Drive.zero : Drive := ⟨0, 0, 0, 0, 0, false, false, false, 0⟩

/-- The scans as a transition system that starts with the cleared table. -/
def scanSystem : TransitionSystem State Scan where
  initial state := (∀ i, state.drives i = .zero) ∧ state.stamp = 0 ∧ state.count = 0
  step state scan := some (scan.perform state)

section Runs

variable {created : Nat → ErrCode} {firstPass secondPass : List Controller}
  {state middle : State} {ports : List Site} {i : Nat}

/-- A slot is found at most by the ports that its drive holds. -/
theorem isAt_of_foundIn (found : foundIn state ports i = true) :
    ∃ site ∈ ports, i < maxDrives ∧ (state.drives i).isAt site.device site.port = true := by
  obtain ⟨site, present, ends⟩ := List.any_eq_true.mp found
  exact ⟨site, present, of_findDrive (of_decide_eq_true ends)⟩

/-- A drive is found if its address is not cut off. -/
theorem foundIn_of_narrow (distinct : state.Distinct) (below : i < maxDrives)
    (inUse : (state.drives i).inUse = true) {site : Site} (present : site ∈ ports)
    (holds : (state.drives i).Holds site) (narrow : site.Narrow) :
    foundIn state ports i = true := by
  have isAt : (state.drives i).isAt site.device site.port = true :=
    (Drive.isAt_iff _ _).mpr ⟨inUse, holds, narrow⟩
  refine List.any_eq_true.mpr ⟨site, present, decide_eq_true ?_⟩
  cases found : findDrive state site.device site.port with
  | none =>
      have notAt := List.find?_eq_none.mp found i (List.mem_range.mpr below)
      exact absurd isAt notAt
  | some j =>
      obtain ⟨otherBelow, otherAt⟩ := of_findDrive found
      rw [Drive.isAt_iff] at otherAt
      rw [distinct i below j otherBelow inUse otherAt.1 (holds.samePlace otherAt.2.1)]

theorem Between.distinct (between : Between state ports middle) (distinct : state.Distinct) :
    middle.Distinct := by
  intro j jBelow k kBelow jInUse kInUse place
  rw [between.inUse j jBelow, Bool.and_eq_true] at jInUse
  rw [between.inUse k kBelow, Bool.and_eq_true] at kInUse
  refine distinct j jBelow k kBelow jInUse.1 kInUse.1 ⟨?_, ?_⟩
  · rw [← (between.places j).1, place.1, (between.places k).1]
  · rw [← (between.places j).2, place.2, (between.places k).2]

theorem Between.found (between : Between state ports middle) : middle.Found ports := by
  intro j below inUse
  have stateInUse := inUse
  rw [between.inUse j below, Bool.and_eq_true] at stateInUse
  obtain ⟨site, present, -, isAt⟩ := isAt_of_foundIn stateInUse.2
  exact ⟨site, present, Drive.isAt_of_samePlace inUse (between.places j) isAt⟩

/-- A scan that acquires the mutex. -/
theorem scanDevices_filled (created : Nat → ErrCode) (onBusFirst : OnBus firstPass)
    (onBusSecond : OnBus secondPass) (distinct : state.Distinct) :
    ∃ middle visited, Between state (sites firstPass) middle ∧
      Filled middle visited (scanDevices .errNone created firstPass secondPass state) ∧
      ((scanDevices .errNone created firstPass secondPass state).scanError = .errNone →
        visited = sites secondPass) := by
  obtain ⟨middle, between, scanned⟩ := scanDevices_eq created firstPass secondPass state
  have starts := filled_start (between.distinct distinct) between.adding
  have pass : ∃ visited,
      Filled middle visited ((sites secondPass).foldl (scanSite created) middle) ∧ _ :=
    starts.foldl between.found (fits_of_mem_sites onBusFirst) (fits_of_mem_sites onBusSecond)
      (pairwise_sites onBusSecond)
  obtain ⟨visited, filled, complete⟩ := pass
  rw [scanned]
  exact ⟨middle, visited, between, filled, complete⟩

/-- No two drives in use are at the same port. -/
theorem distinct_of_reachable
    (reached : scanSystem.ReachableUnder (fun _ scan => scan.OnBus) state) :
    state.Distinct := by
  refine reached.invariant ?_ ?_
  · rintro initial ⟨cleared, -⟩ j - k - inUse
    rw [cleared j] at inUse
    cases inUse
  · intro before scan after distinct onBus performed
    obtain rfl := Option.some.inj performed
    by_cases acquired : scan.acquired = .errNone
    · obtain ⟨middle, visited, -, filled, -⟩ :=
        scanDevices_filled scan.created onBus.1 onBus.2 distinct
      rw [Scan.perform, acquired]
      exact filled.distinct
    · rw [Scan.perform, scanDevices, if_pos acquired]
      exact distinct

end Runs

/-! ## Reconciliation -/

/-- The scan had a reason for a change that it logs. -/
def Event.Justified (before : State) (ports : List Site) : Event → Prop
  | .added device port => ∃ site ∈ ports, site.device = device ∧ site.port = port ∧
      ∀ i < maxDrives, (before.drives i).inUse = true → ¬ (before.drives i).Holds site
  | .removed hbaPciAddress hbaPort => ∃ i < maxDrives, (before.drives i).inUse = true ∧
      (before.drives i).hbaPciAddress = hbaPciAddress ∧ (before.drives i).hbaPort = hbaPort ∧
        ∀ site ∈ ports, ¬ (before.drives i).Holds site

/-- A scan has made the table agree with the active ports. -/
structure Reconciled (before : State) (ports : List Site) (after : State) : Prop where
  /-- Each active port is in one slot. -/
  listed : ∀ site ∈ ports, ∃! i, i < maxDrives ∧ (after.drives i).inUse = true ∧
    (after.drives i).Holds site
  /-- Each slot in use is at an active port. -/
  present : ∀ i < maxDrives, (after.drives i).inUse = true →
    ∃ site ∈ ports, (after.drives i).Holds site
  /-- The drives that are still present keep their slots and their stamps. -/
  kept : ∀ i < maxDrives, (before.drives i).inUse = true →
    ∀ site ∈ ports, (before.drives i).Holds site →
      (after.drives i).inUse = true ∧ (after.drives i).Holds site ∧
        (after.drives i).stamp = (before.drives i).stamp
  /-- Only drives that are gone are removed, and only new ones added. -/
  log : ∃ news, after.log = before.log ++ news ∧ ∀ event ∈ news, event.Justified before ports
  /-- Nothing happens on unchanged hardware. -/
  unchanged :
    (∀ site ∈ ports, ∃ i < maxDrives, (before.drives i).inUse = true ∧
      (before.drives i).Holds site) →
    (∀ i < maxDrives, (before.drives i).inUse = true →
      ∃ site ∈ ports, (before.drives i).Holds site) →
    after.log = before.log

/-- The addresses of the drives that are still present are not cut off. -/
def State.StayNarrow (state : State) (ports : List Site) : Prop :=
  ∀ i < maxDrives, (state.drives i).inUse = true →
    ∀ site ∈ ports, (state.drives i).Holds site → site.Narrow

section Reconcile

variable {state middle after : State} {ports visited : List Site} {i : Nat}

/-- A drive whose address is cut off is not found. -/
theorem narrow_of_foundIn (fits : ∀ site ∈ ports, site.Fits) (found : foundIn state ports i = true)
    {site : Site} (present : site ∈ ports) (holds : (state.drives i).Holds site) :
    site.Narrow := by
  obtain ⟨other, otherPresent, -, isAt⟩ := isAt_of_foundIn found
  rw [Drive.isAt_iff] at isAt
  obtain ⟨-, otherHolds, narrow⟩ := isAt
  obtain ⟨sameDevice, samePort⟩ :=
    otherHolds.same holds (fits other otherPresent) (fits site present)
  rw [Site.Narrow, ← sameDevice, ← samePort]
  exact narrow

/-- A scan that reconciles the table finds all drives that are still present. -/
theorem Reconciled.stayNarrow (reconciled : Reconciled state ports after)
    (fits : ∀ site ∈ ports, site.Fits) (between : Between state ports middle)
    (filled : Filled middle visited after) : state.StayNarrow ports := by
  intro i below inUse site present holds
  by_contra cutOff
  have lost : foundIn state ports i = false := by
    rw [← Bool.not_eq_true]
    exact fun found => cutOff (narrow_of_foundIn fits found present holds)
  obtain ⟨news, log, justified⟩ := reconciled.log
  obtain ⟨added, addedLog, -⟩ := filled.log
  rw [between.log, log, List.append_assoc] at addedLog
  have removed : Event.removed (state.drives i).hbaPciAddress (state.drives i).hbaPort ∈ news := by
    rw [List.append_cancel_left addedLog]
    refine List.mem_append_left _ (List.mem_map.mpr ⟨i, List.mem_filter.mpr ?_, rfl⟩)
    exact ⟨List.mem_range.mpr below, by rw [inUse, lost]; rfl⟩
  obtain ⟨j, -, -, sameAddress, samePort, gone⟩ := justified _ removed
  exact gone site present ⟨sameAddress.trans holds.1, samePort.trans holds.2⟩

/-- The changes that a scan makes are justified if it finds all drives that are still
present. -/
theorem justified_of_stayNarrow (narrow : state.StayNarrow ports) (distinct : state.Distinct)
    (between : Between state ports middle) (filled : Filled middle ports after) :
    ∃ news, after.log = state.log ++ news ∧ ∀ event ∈ news, event.Justified state ports := by
  obtain ⟨added, log, origin⟩ := filled.log
  rw [between.log, List.append_assoc] at log
  refine ⟨_, log, fun event isNew => ?_⟩
  rcases List.mem_append.mp isNew with isRemoved | isAdded
  · obtain ⟨i, removed, rfl⟩ := List.mem_map.mp isRemoved
    obtain ⟨below, lost⟩ := List.mem_filter.mp removed
    rw [Bool.and_eq_true, Bool.not_eq_true'] at lost
    refine ⟨i, List.mem_range.mp below, lost.1, rfl, rfl, fun site present holds => ?_⟩
    have found := foundIn_of_narrow distinct (List.mem_range.mp below) lost.1 present holds
      (narrow i (List.mem_range.mp below) lost.1 site present holds)
    rw [lost.2] at found
    cases found
  · obtain ⟨site, present, rfl, absent⟩ := origin event isAdded
    refine ⟨site, present, rfl, rfl, fun i below inUse holds => ?_⟩
    have siteNarrow := narrow i below inUse site present holds
    have found := foundIn_of_narrow distinct below inUse present holds siteNarrow
    have middleInUse : (middle.drives i).inUse = true := by
      rw [between.inUse i below, inUse, found]
      rfl
    have isAt := Drive.isAt_of_samePlace middleInUse (between.places i)
      ((Drive.isAt_iff _ site).mpr ⟨inUse, holds, siteNarrow⟩)
    rw [absent i below middleInUse] at isAt
    cases isAt

theorem reconciled_of_stayNarrow (narrow : state.StayNarrow ports) (distinct : state.Distinct)
    (between : Between state ports middle) (filled : Filled middle ports after) :
    Reconciled state ports after where
  listed site present := by
    obtain ⟨i, below, inUse, holds⟩ := filled.present site present
    refine ⟨i, ⟨below, inUse, holds⟩, ?_⟩
    rintro j ⟨otherBelow, otherInUse, otherHolds⟩
    exact filled.distinct j otherBelow i below otherInUse inUse (otherHolds.samePlace holds)
  present i below inUse := by
    rcases filled.origin i below inUse with old | new
    · obtain ⟨site, present, isAt⟩ := between.found i below old
      rw [Drive.isAt_iff] at isAt
      exact ⟨site, present, (filled.kept i below old).2.1.holds isAt.2.1⟩
    · exact new
  kept i below inUse site present holds := by
    have found := foundIn_of_narrow distinct below inUse present holds
      (narrow i below inUse site present holds)
    have middleInUse : (middle.drives i).inUse = true := by
      rw [between.inUse i below, inUse, found]
      rfl
    obtain ⟨stays, place, stamp⟩ := filled.kept i below middleInUse
    exact ⟨stays, place.holds ((between.places i).holds holds), stamp.trans (between.stamps i)⟩
  log := justified_of_stayNarrow narrow distinct between filled
  unchanged allListed allPresent := by
    obtain ⟨news, log, justified⟩ := justified_of_stayNarrow narrow distinct between filled
    have nothing : news = [] := by
      refine List.eq_nil_iff_forall_not_mem.mpr fun event isNew => ?_
      have reason := justified event isNew
      cases event with
      | added device port =>
          obtain ⟨site, present, -, -, absent⟩ := reason
          obtain ⟨i, below, inUse, holds⟩ := allListed site present
          exact absent i below inUse holds
      | removed hbaPciAddress hbaPort =>
          obtain ⟨i, below, inUse, -, -, gone⟩ := reason
          obtain ⟨site, present, holds⟩ := allPresent i below inUse
          exact gone site present holds
    rw [log, nothing, List.append_nil]

end Reconcile

/-- A scan that succeeds reconciles the table with the hardware if and only if the drives
that are still present are on the first 128 buses and at the first 16 ports. -/
theorem reconciled_iff_stayNarrow {state : State} {acquired : ErrCode}
    {created : Nat → ErrCode} {controllers : List Controller}
    (reached : scanSystem.ReachableUnder (fun _ scan => scan.OnBus) state)
    (onBus : OnBus controllers)
    (succeeded :
      (scanDevices acquired created controllers controllers state).scanError = .errNone) :
    Reconciled state (sites controllers)
        (scanDevices acquired created controllers controllers state) ↔
      state.StayNarrow (sites controllers) := by
  have distinct := distinct_of_reachable reached
  have isAcquired : acquired = .errNone := by
    by_contra failed
    rw [scanDevices, if_pos failed] at succeeded
    exact failed succeeded
  subst isAcquired
  obtain ⟨middle, visited, between, filled, complete⟩ :=
    scanDevices_filled created onBus onBus distinct
  constructor
  · intro reconciled
    exact reconciled.stayNarrow (fits_of_mem_sites onBus) between filled
  · intro narrow
    rw [complete succeeded] at filled
    exact reconciled_of_stayNarrow narrow distinct between filled

/-- A controller whose implemented ports all have active drives. -/
def controllerWith (pi : BitVec 32) : Controller where
  device := 0x1F02
  hba := 0xFEBF1000
  pi := pi
  ports _ := ⟨0x113, 0x101⟩

theorem controllerWith_onBus (pi : BitVec 32) : OnBus [controllerWith pi] where
  address controller present := by
    obtain rfl := List.mem_singleton.mp present
    exact ⟨0, 0x1F, 2, by decide, by decide, by decide, rfl⟩
  distinct := by simp

/-- The scan of this controller, in which no call fails. -/
def scanOf (pi : BitVec 32) : Scan :=
  ⟨.errNone, fun _ => .errNone, [controllerWith pi], [controllerWith pi]⟩

theorem scanOf_onBus (pi : BitVec 32) : (scanOf pi).OnBus :=
  ⟨controllerWith_onBus pi, controllerWith_onBus pi⟩

/-- The table before the first scan. -/
def clearedState : State :=
  ⟨.errNone, false, fun _ => .zero, 0, [], 0⟩

theorem scanOf_reachable (pi : BitVec 32) :
    scanSystem.ReachableUnder (fun _ scan => scan.OnBus)
      ((scanOf pi).perform clearedState) := by
  have starts : scanSystem.ReachableUnder (fun _ scan => scan.OnBus) clearedState :=
    .initial ⟨fun _ => rfl, rfl, rfl⟩
  exact starts.extend (scanOf_onBus pi) rfl

/-- Of the drives on ports 0 and 5 the second one is gone in the next scan, and there is a
new one on port 9. -/
theorem reconciled_iff_stayNarrow_ports :
    Reconciled ((scanOf 0x21).perform clearedState) (sites [controllerWith 0x201])
      (scanDevices .errNone (fun _ => .errNone) [controllerWith 0x201] [controllerWith 0x201]
        ((scanOf 0x21).perform clearedState)) := by
  refine (reconciled_iff_stayNarrow (scanOf_reachable 0x21) (controllerWith_onBus 0x201)
    (by decide +kernel)).mpr ?_
  intro i _ _ site present _
  have only : sites [controllerWith 0x201] =
      [⟨0x1F02, 0xFEBF1000, 0⟩, ⟨0x1F02, 0xFEBF1000, 9⟩] := by decide +kernel
  rw [only] at present
  have narrow : ∀ site ∈ [(⟨0x1F02, 0xFEBF1000, 0⟩ : Site), ⟨0x1F02, 0xFEBF1000, 9⟩],
      site.device < 2 ^ 23 ∧ site.port < 2 ^ 4 := by decide
  exact narrow site present

/-- A drive on port 16 is removed and added again by a second scan. -/
theorem reconciled_fails :
    ¬ ∀ (state : State) (acquired : ErrCode) (created : Nat → ErrCode)
      (controllers : List Controller),
      scanSystem.ReachableUnder (fun _ scan => scan.OnBus) state → OnBus controllers →
      (scanDevices acquired created controllers controllers state).scanError = .errNone →
        Reconciled state (sites controllers)
          (scanDevices acquired created controllers controllers state) := by
  intro claimed
  have reconciled := claimed _ .errNone (fun _ => .errNone) [controllerWith 0x10000]
    (scanOf_reachable 0x10000) (controllerWith_onBus 0x10000) (by decide +kernel)
  have present : (⟨0x1F02, 0xFEBF1000, 16⟩ : Site) ∈ sites [controllerWith 0x10000] := by
    decide +kernel
  obtain ⟨-, -, sameStamp⟩ := reconciled.kept 0 (by decide) (by decide +kernel) _ present
    ⟨by decide +kernel, by decide +kernel⟩
  exact absurd sameStamp (by decide +kernel)

end Ahci
end ToyKernel
