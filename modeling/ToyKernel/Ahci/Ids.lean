import ToyKernel.Ahci.Reconcile

/-!
# Ids of drives

The magic number of a slot tells whether its drive is in use, and an id is valid while
its drive is in use, as long as no scan removes a drive from another slot than the
first: `remove_drive` always clears the magic number of the first slot.
-/

namespace ToyKernel
namespace Ahci

/-- An id that `get_next_device` handed out: the slot of its drive, and the number of the
addition that had filled the slot. -/
structure Issued where
  id : BitVec 64
  slot : Nat
  number : Nat
  deriving DecidableEq

/-- The table with the ids that were handed out, newest first. -/
structure History where
  state : State
  issued : List Issued

/-- The calls. -/
inductive Action
  | scan (scan : Scan)
  | next (acquired : ErrCode) (id : BitVec 64)

namespace History

variable (placement : Placement)

/-- Record an id that was handed out. -/
def issue (history : History) (err : ErrCode) (id : BitVec 64) : History :=
  match err, placement.slotAt (getStampIdPtr id) with
  | .errNone, some slot =>
      { history with
        issued := ⟨id, slot, (history.state.drives slot).number⟩ :: history.issued }
  | _, _ => history

/-- One call. -/
def step (history : History) : Action → Option History
  | .scan scan => some { history with state := scan.perform history.state }
  | .next acquired id =>
      let (err, id) := placement.getNextDevice history.state acquired id
      some (history.issue placement err id)

/-- The cleared table, before any id was handed out. -/
structure Starts (history : History) : Prop where
  drives : ∀ i, history.state.drives i = .zero
  stamp : history.state.stamp = 0
  count : history.state.count = 0
  issued : history.issued = []

end History

/-- The drives and their ids as a transition system. -/
def historySystem (placement : Placement) : TransitionSystem History Action where
  initial := History.Starts
  step := History.step placement

/-- The controllers of the scans are on the bus. -/
def Action.OnBus : Action → Prop
  | .scan call => call.OnBus
  | .next _ _ => True

/-- The first pass of a scan finds the drives in all slots but the first. -/
def Action.KeepsOthers (state : State) : Action → Prop
  | .scan call => call.acquired = .errNone → ∀ i < maxDrives, i ≠ 0 →
      (state.drives i).inUse = true → ∃ site ∈ sites call.firstPass,
        (state.drives i).isAt site.device site.port = true
  | .next _ _ => True

/-- The drive of an id has not been removed since. -/
def Issued.Alive (issued : Issued) (state : State) : Prop :=
  (state.drives issued.slot).inUse = true ∧ (state.drives issued.slot).number = issued.number

/-- There were less than 4096 additions since the one of the drive. -/
def Issued.Recent (issued : Issued) (state : State) : Prop :=
  state.count ≤ issued.number + 2 ^ stampIdStampBits

/-- Ids are valid exactly as long as their drives are in use. -/
structure ValidIds (placement : Placement) (history : History) : Prop where
  magic : ∀ i < maxDrives, (history.state.drives i).magic = driveMagic ↔
    (history.state.drives i).inUse = true
  accepted : ∀ issued ∈ history.issued, issued.Recent history.state →
    (placement.withStampId history.state issued.id = .ok issued.slot ↔
      issued.Alive history.state)
  /-- The removal of other drives does not matter. -/
  others : ∀ scan : Scan, scan.OnBus → (Action.scan scan).KeepsOthers history.state →
    ∀ issued ∈ history.issued, issued.Recent (scan.perform history.state) →
      issued.Alive (scan.perform history.state) →
        placement.withStampId (scan.perform history.state) issued.id = .ok issued.slot

/-! ## The invariant -/

/-- The magic numbers and the stamps of the table. -/
structure State.Numbered (state : State) : Prop where
  magic : ∀ i < maxDrives, (state.drives i).magic = driveMagic ↔ (state.drives i).inUse = true
  stamp : state.stamp = state.count % 2 ^ stampIdStampBits
  numbers : ∀ i < maxDrives, (state.drives i).inUse = true →
    (state.drives i).number < state.count ∧
      (state.drives i).stamp = (state.drives i).number % 2 ^ stampIdStampBits

/-- An id was made from the number of its drive, and later drives have greater numbers. -/
structure Issued.Fits (placement : Placement) (issued : Issued) (state : State) : Prop where
  slot : issued.slot < maxDrives
  id : issued.id = getStampId (placement.address issued.slot)
    (issued.number % 2 ^ stampIdStampBits)
  number : issued.number < state.count
  later : (state.drives issued.slot).inUse = true →
    issued.number ≤ (state.drives issued.slot).number

section Steps

variable {placement : Placement} {state middle after : State} {site : Site} {issued : Issued}
  {first ports : List Site} {created : Nat → ErrCode}

theorem State.Numbered.visit (numbered : state.Numbered) (step : Visited state site after) :
    after.Numbered := by
  cases step with
  | found i below isAt =>
      have same : ∀ j, ((state.setDrive i ({ · with scanned := true })).drives j).magic =
            (state.drives j).magic ∧
          ((state.setDrive i ({ · with scanned := true })).drives j).inUse =
            (state.drives j).inUse ∧
          ((state.setDrive i ({ · with scanned := true })).drives j).number =
            (state.drives j).number ∧
          ((state.setDrive i ({ · with scanned := true })).drives j).stamp =
            (state.drives j).stamp := by
        intro j
        rw [State.setDrive_drives]
        split <;> exact ⟨rfl, rfl, rfl, rfl⟩
      refine ⟨?_, numbered.stamp, ?_⟩
      · intro j jBelow
        rw [(same j).1, (same j).2.1]
        exact numbered.magic j jBelow
      · intro j jBelow inUse
        rw [(same j).2.1] at inUse
        rw [(same j).2.2.1, (same j).2.2.2]
        exact numbered.numbers j jBelow inUse
  | added i absent added =>
      refine ⟨?_, ?_, ?_⟩
      · intro j below
        by_cases same : j = i
        · subst same
          exact ⟨fun _ => added.inUse, fun _ => added.magic⟩
        · rw [added.others j same]
          exact numbered.magic j below
      · rw [added.stamp, added.count, numbered.stamp, Nat.mod_add_mod]
      · intro j below inUse
        by_cases same : j = i
        · subst same
          rw [added.number, added.stamps, added.count, numbered.stamp]
          exact ⟨Nat.lt_succ_self _, rfl⟩
        · rw [added.others j same] at inUse ⊢
          obtain ⟨less, stamp⟩ := numbered.numbers j below inUse
          rw [added.count]
          exact ⟨Nat.lt_succ_of_lt less, stamp⟩
  | full => exact ⟨numbered.magic, numbered.stamp, numbered.numbers⟩

theorem Issued.Fits.visit (fits : issued.Fits placement state) (step : Visited state site after) :
    issued.Fits placement after := by
  cases step with
  | found i below isAt =>
      refine ⟨fits.slot, fits.id, fits.number, ?_⟩
      have later := fits.later
      rw [State.setDrive_drives]
      split <;> exact later
  | added i absent added =>
      refine ⟨fits.slot, fits.id, ?_, ?_⟩
      · rw [added.count]
        exact Nat.lt_succ_of_lt fits.number
      · intro inUse
        by_cases same : issued.slot = i
        · rw [same, added.number]
          exact le_of_lt fits.number
        · rw [added.others issued.slot same] at inUse ⊢
          exact fits.later inUse
  | full => exact ⟨fits.slot, fits.id, fits.number, fits.later⟩

/-- Nothing but the first drive is removed between the passes. -/
theorem State.Numbered.between (numbered : state.Numbered) (between : Between state first middle)
    (others : ∀ i < maxDrives, i ≠ 0 → (state.drives i).inUse = true →
      foundIn state first i = true) : middle.Numbered where
  magic i below := by
    rw [between.magic, between.inUse i below]
    by_cases isZero : i = 0
    · subst isZero
      cases found : foundIn state first 0 with
      | true =>
          have nothing : ¬ ∃ j < maxDrives,
              (state.drives j).inUse = true ∧ foundIn state first j = false := by
            rintro ⟨j, jBelow, inUse, lost⟩
            by_cases jZero : j = 0
            · rw [jZero, found] at lost
              cases lost
            · rw [others j jBelow jZero inUse] at lost
              cases lost
          rw [if_neg fun both => nothing both.2, Bool.and_true]
          exact numbered.magic 0 below
      | false =>
          rw [Bool.and_false]
          cases inUse : (state.drives 0).inUse with
          | true =>
              rw [if_pos ⟨rfl, 0, below, inUse, found⟩]
              simp [driveMagic]
          | false =>
              have noMagic : (state.drives 0).magic ≠ driveMagic := by
                rw [ne_eq, numbered.magic 0 below, inUse]
                simp
              split
              · simp [driveMagic]
              · simp [noMagic]
    · rw [if_neg fun both => isZero both.1, numbered.magic i below]
      cases inUse : (state.drives i).inUse with
      | true => simp [others i below isZero inUse]
      | false => simp
  stamp := by rw [between.stamp, between.count, numbered.stamp]
  numbers i below inUse := by
    rw [between.inUse i below, Bool.and_eq_true] at inUse
    rw [between.numbers, between.stamps, between.count]
    exact numbered.numbers i below inUse.1

theorem Issued.Fits.between (fits : issued.Fits placement state)
    (between : Between state first middle) : issued.Fits placement middle where
  slot := fits.slot
  id := fits.id
  number := by
    rw [between.count]
    exact fits.number
  later inUse := by
    rw [between.inUse _ fits.slot, Bool.and_eq_true] at inUse
    rw [between.numbers]
    exact fits.later inUse.1

/-- A whole scan. -/
theorem State.Numbered.perform {scan : Scan} (numbered : state.Numbered)
    (distinct : state.Distinct) (keepsOthers : (Action.scan scan).KeepsOthers state) :
    (scan.perform state).Numbered := by
  by_cases acquired : scan.acquired = .errNone
  · obtain ⟨middle, between, scanned⟩ :=
      scanDevices_eq scan.created scan.firstPass scan.secondPass state
    have others : ∀ i < maxDrives, i ≠ 0 → (state.drives i).inUse = true →
        foundIn state (sites scan.firstPass) i = true := by
      intro i below notZero inUse
      obtain ⟨site, present, isAt⟩ := keepsOthers acquired i below notZero inUse
      rw [Drive.isAt_iff] at isAt
      exact foundIn_of_narrow distinct below inUse present isAt.2.1 isAt.2.2
    rw [Scan.perform, acquired, scanned]
    exact foldl_scanSite_invariant (sites scan.secondPass) between.adding
      (numbered.between between others) fun _ _ _ numbered step => numbered.visit step
  · rw [Scan.perform, scanDevices, if_pos acquired]
    exact ⟨numbered.magic, numbered.stamp, numbered.numbers⟩

theorem Issued.Fits.perform {scan : Scan} (fits : issued.Fits placement state) :
    issued.Fits placement (scan.perform state) := by
  by_cases acquired : scan.acquired = .errNone
  · obtain ⟨middle, between, scanned⟩ :=
      scanDevices_eq scan.created scan.firstPass scan.secondPass state
    rw [Scan.perform, acquired, scanned]
    exact foldl_scanSite_invariant (sites scan.secondPass) between.adding
      (fits.between between) fun _ _ _ fits step => fits.visit step
  · rw [Scan.perform, scanDevices, if_pos acquired]
    exact ⟨fits.slot, fits.id, fits.number, fits.later⟩

theorem State.Distinct.perform {scan : Scan} (distinct : state.Distinct) (onBus : scan.OnBus) :
    (scan.perform state).Distinct := by
  by_cases acquired : scan.acquired = .errNone
  · obtain ⟨middle, visited, -, filled, -⟩ :=
      scanDevices_filled scan.created onBus.1 onBus.2 distinct
    rw [Scan.perform, acquired]
    exact filled.distinct
  · rw [Scan.perform, scanDevices, if_pos acquired]
    exact distinct

end Steps

/-! ## Ids -/

section Ids

variable {placement : Placement} {state : State} {issued : Issued} {history : History}

theorem slotAt_address {i : Nat} (below : i < maxDrives) :
    placement.slotAt (placement.address i) = some i := by
  cases found : placement.slotAt (placement.address i) with
  | none =>
      have notHere := List.find?_eq_none.mp found i (List.mem_range.mpr below)
      simp at notHere
  | some j =>
      have search : (List.range maxDrives).find?
          (fun j => placement.address j = placement.address i) = some j := found
      have same := List.find?_some search
      have otherBelow := List.mem_range.mp (List.mem_of_find?_eq_some search)
      rw [placement.distinct j otherBelow i below (of_decide_eq_true same)]

/-- What `WITH_STAMP_ID` makes of the id of a slot. -/
theorem withStampId_getStampId {i stamp : Nat} (below : i < maxDrives)
    (small : stamp < 2 ^ stampIdStampBits) :
    placement.withStampId state (getStampId (placement.address i) stamp) =
      if (state.drives i).magic ≠ driveMagic then .error .errNotFound
      else if (state.drives i).stamp ≠ stamp then .error .errExpired
      else .ok i := by
  rw [Placement.withStampId, getStampIdPtr_getStampId (placement.below i below) small,
    slotAt_address below]
  simp only [stampIdTarget_getStampId (placement.below i below) small]
  split
  · rfl
  · split <;> rfl

/-- An id is accepted while its drive is in use. -/
theorem State.Numbered.accepted_iff (numbered : state.Numbered)
    (fits : issued.Fits placement state) (recent : issued.Recent state) :
    placement.withStampId state issued.id = .ok issued.slot ↔ issued.Alive state := by
  have small : issued.number % 2 ^ stampIdStampBits < 2 ^ stampIdStampBits :=
    Nat.mod_lt _ (by decide)
  have magic := numbered.magic _ fits.slot
  rw [fits.id, withStampId_getStampId fits.slot small, Issued.Alive]
  cases inUse : (state.drives issued.slot).inUse with
  | false =>
      rw [inUse] at magic
      have noMagic : (state.drives issued.slot).magic ≠ driveMagic := fun isMagic =>
        Bool.false_ne_true (magic.mp isMagic)
      rw [if_pos noMagic]
      simp
  | true =>
      obtain ⟨less, stamp⟩ := numbered.numbers _ fits.slot inUse
      have later := fits.later inUse
      have congruent : (state.drives issued.slot).number % 2 ^ stampIdStampBits =
          issued.number % 2 ^ stampIdStampBits ↔
            (state.drives issued.slot).number = issued.number := by
        simp only [Issued.Recent, stampIdStampBits] at recent ⊢
        omega
      rw [if_neg (not_not.mpr (magic.mpr inUse)), stamp, ← congruent]
      split
      · rename_i expired
        simp [expired]
      · rename_i same
        simp [not_not.mp same]

/-- `get_next_device` hands out the id of a drive in use. -/
theorem of_getNextDevice {acquired : ErrCode} {id next : BitVec 64}
    (done : placement.getNextDevice state acquired id = (.errNone, next)) :
    ∃ i < maxDrives, (state.drives i).inUse = true ∧
      next = getStampId (placement.address i) (state.drives i).stamp := by
  rw [Placement.getNextDevice] at done
  split at done
  · rename_i failed
    exact absurd (Prod.mk.inj done).1 failed
  · simp only at done
    split at done
    · rename_i i found
      have inUse := List.find?_some found
      have present := List.mem_of_mem_drop (List.mem_of_find?_eq_some found)
      exact ⟨i, List.mem_range.mp present, inUse, (Prod.mk.inj done).2.symm⟩
    · cases (Prod.mk.inj done).1

/-- What holds between any two calls. -/
structure History.Invariant (placement : Placement) (history : History) : Prop where
  distinct : history.state.Distinct
  numbered : history.state.Numbered
  fits : ∀ issued ∈ history.issued, issued.Fits placement history.state

theorem History.Starts.invariant (starts : history.Starts) : history.Invariant placement where
  distinct i _ j _ inUse := by
    rw [starts.drives i] at inUse
    cases inUse
  numbered := by
    refine ⟨?_, ?_, ?_⟩
    · intro i _
      rw [starts.drives i]
      simp [Drive.zero, driveMagic]
    · rw [starts.stamp, starts.count]
      rfl
    · intro i _ inUse
      rw [starts.drives i] at inUse
      cases inUse
  fits := by simp [starts.issued]

theorem History.Invariant.scan {scan : Scan} (invariant : history.Invariant placement)
    (onBus : scan.OnBus) (keepsOthers : (Action.scan scan).KeepsOthers history.state) :
    { history with state := scan.perform history.state }.Invariant placement where
  distinct := invariant.distinct.perform onBus
  numbered := invariant.numbered.perform invariant.distinct keepsOthers
  fits issued present := (invariant.fits issued present).perform

/-- A new id has the number and the stamp of its drive. -/
theorem History.Invariant.next {acquired : ErrCode} {id : BitVec 64} {after : History}
    (invariant : history.Invariant placement)
    (taken : history.step placement (.next acquired id) = some after) :
    after.Invariant placement := by
  cases called : placement.getNextDevice history.state acquired id with | mk err next
  simp only [History.step, called] at taken
  obtain rfl := Option.some.inj taken
  unfold History.issue
  split
  · rename_i slot isSlot
    refine ⟨invariant.distinct, invariant.numbered, fun issued present => ?_⟩
    rcases List.mem_cons.mp present with rfl | earlier
    · obtain ⟨i, below, inUse, isId⟩ := of_getNextDevice called
      obtain ⟨less, stamp⟩ := invariant.numbered.numbers i below inUse
      have small : (history.state.drives i).stamp < 2 ^ stampIdStampBits := by
        rw [stamp]
        exact Nat.mod_lt _ (by decide)
      rw [isId, getStampIdPtr_getStampId (placement.below i below) small,
        slotAt_address below] at isSlot
      obtain rfl := Option.some.inj isSlot
      exact ⟨below, by rw [isId, stamp], less, fun _ => le_refl _⟩
    · exact invariant.fits issued earlier
  · exact invariant

theorem History.Invariant.validIds (invariant : history.Invariant placement) :
    ValidIds placement history where
  magic := invariant.numbered.magic
  accepted issued present recent :=
    invariant.numbered.accepted_iff (invariant.fits issued present) recent
  others scan onBus keepsOthers issued present recent alive := by
    have next := invariant.scan onBus keepsOthers
    exact (next.numbered.accepted_iff (next.fits issued present) recent).mpr alive

end Ids

/-- The ids of drives are valid in every run in which no scan removes a drive from another
slot than the first. -/
theorem validIds_of_keepsOthers {placement : Placement} {history : History}
    (reached : (historySystem placement).ReachableUnder
      (fun history action => action.OnBus ∧ action.KeepsOthers history.state) history) :
    ValidIds placement history := by
  have starts : ∀ history, (historySystem placement).initial history →
      history.Invariant placement := fun _ starts => History.Starts.invariant starts
  refine History.Invariant.validIds (reached.invariant starts ?_)
  rintro history action after invariant ⟨onBus, keepsOthers⟩ taken
  cases action with
  | scan call =>
      obtain rfl := Option.some.inj taken
      exact invariant.scan onBus keepsOthers
  | next acquired id => exact invariant.next taken

/-- The slots of the table, 64 bytes each. -/
def tablePlacement : Placement where
  address i := BitVec.ofNat 64 (0x200000 + 64 * i)
  below i below := by
    have small : i < 8 := below
    rw [BitVec.toNat_ofNat]
    omega
  notNull i below null := by
    have small : i < 8 := below
    have value := congrArg BitVec.toNat null
    rw [BitVec.toNat_ofNat, show (0 : Address).toNat = 0 from rfl] at value
    omega
  distinct i iBelow j jBelow same := by
    have iSmall : i < 8 := iBelow
    have jSmall : j < 8 := jBelow
    have value := congrArg BitVec.toNat same
    rw [BitVec.toNat_ofNat, BitVec.toNat_ofNat] at value
    omega

/-- A scan of a controller with the given ports. -/
def scanWith (pi : BitVec 32) : Action :=
  .scan (scanOf pi)

/-- The table before the first scan, with no ids. -/
def clearedHistory : History :=
  ⟨clearedState, []⟩

theorem clearedHistory_starts : clearedHistory.Starts where
  drives _ := rfl
  stamp := rfl
  count := rfl
  issued := rfl

/-- The drives on the ports 0 and 1 get ids, and the first one is removed: its id is no longer
accepted, and the other one still is. -/
theorem validIds_of_keepsOthers_removed :
    ∃ history, (historySystem tablePlacement).exec clearedHistory
        [scanWith 3, .next .errNone 0, .next .errNone 0x200000, scanWith 2] = some history ∧
      tablePlacement.withStampId history.state 0x200000 ≠ .ok 0 ∧
      tablePlacement.withStampId history.state (getStampId 0x200040 1) = .ok 1 := by
  have starts : (historySystem tablePlacement).ReachableUnder
      (fun history action => action.OnBus ∧ action.KeepsOthers history.state) clearedHistory :=
    .initial clearedHistory_starts
  have handsOut : ∀ id (state : State),
      Action.OnBus (.next .errNone id) ∧ (Action.next .errNone id).KeepsOthers state :=
    fun _ _ => ⟨trivial, trivial⟩
  have bothAdded := starts.extend (show (scanWith 3).OnBus ∧ _ from
    ⟨scanOf_onBus 3, by unfold scanWith Action.KeepsOthers; decide +kernel⟩) rfl
  have bothHandedOut := (bothAdded.extend (handsOut 0 _) rfl).extend (handsOut 0x200000 _) rfl
  have removed := bothHandedOut.extend (show (scanWith 2).OnBus ∧ _ from
    ⟨scanOf_onBus 2, by unfold scanWith Action.KeepsOthers; decide +kernel⟩) rfl
  have accepted := (validIds_of_keepsOthers removed).accepted
  refine ⟨_, rfl, fun isAccepted => ?_, ?_⟩
  · have valid := accepted ⟨0x200000, 0, 0⟩ (by decide +kernel) (show _ ≤ _ by decide +kernel)
    exact absurd (valid.mp isAccepted).1 (by decide +kernel)
  · have valid := accepted ⟨getStampId 0x200040 1, 1, 1⟩ (by decide +kernel)
      (show _ ≤ _ by decide +kernel)
    exact valid.mpr ⟨by decide +kernel, by decide +kernel⟩

/-- Two drives are added, and the second one is removed: the first one loses its magic
number. -/
theorem validIds_fails :
    ¬ ∀ history, (historySystem tablePlacement).ReachableUnder
      (fun _ action => action.OnBus) history → ValidIds tablePlacement history := by
  intro claimed
  have onBus : ∀ pi, (scanWith pi).OnBus := scanOf_onBus
  have starts : (historySystem tablePlacement).ReachableUnder
      (fun _ action => action.OnBus) clearedHistory := .initial clearedHistory_starts
  have removed := (starts.extend (onBus 3) rfl).extend (onBus 1) rfl
  have magic := (claimed _ removed).magic 0 (by decide)
  exact absurd magic (by decide +kernel)

end Ahci
end ToyKernel
