import ToyKernel.Ahci.Defs
import Mathlib.Data.List.Nodup

/-!
# What the loops of a scan do

The two passes visit the active ports one by one.  The first pass marks the drives that
it finds, the loop between them removes the others, and the second pass adds drives.
-/

namespace ToyKernel
namespace Ahci

/-- An active port of a controller. -/
structure Site where
  device : Nat
  hba : Address
  port : Nat
  deriving DecidableEq

/-- The active ports of the controllers, in the order of the scan. -/
def sites (controllers : List Controller) : List Site :=
  controllers.flatMap fun controller =>
    ((List.range maxPorts).filter controller.isActive).map fun port =>
      ⟨controller.device, controller.hba, port⟩

/-- `scan_next_drive` at an active port. -/
def scanSite (created : Nat → ErrCode) (state : State) (site : Site) : State :=
  scanNextDrive created site.device site.hba site.port state

/-- A PCI address, as `get_pci_device` puts it together. -/
def IsPciAddress (device : Nat) : Prop :=
  ∃ bus slot func : Nat, bus < 256 ∧ slot < 32 ∧ func < 8 ∧
    device = bus * 2 ^ 16 + slot * 2 ^ 8 + func

/-- The controllers have PCI addresses, each its own. -/
structure OnBus (controllers : List Controller) : Prop where
  address : ∀ controller ∈ controllers, IsPciAddress controller.device
  distinct : (controllers.map Controller.device).Nodup

/-- The address and the port fit into the bit-fields of a drive as bit patterns. -/
def Site.Fits (site : Site) : Prop :=
  site.device < 2 ^ 24 ∧ site.port < 2 ^ 5

/-- Two ports with the same address are the same. -/
def Site.Same (site other : Site) : Prop :=
  site.device = other.device ∧ site.port = other.port

section Sites

variable {controllers : List Controller} {created : Nat → ErrCode} {state : State}

theorem IsPciAddress.lt {device : Nat} (isAddress : IsPciAddress device) :
    device < 2 ^ 24 := by
  obtain ⟨bus, slot, func, busSmall, slotSmall, funcSmall, rfl⟩ := isAddress
  omega

theorem fits_of_mem_sites (onBus : OnBus controllers) :
    ∀ site ∈ sites controllers, site.Fits := by
  intro site present
  obtain ⟨controller, isController, present⟩ := List.mem_flatMap.mp present
  obtain ⟨port, active, rfl⟩ := List.mem_map.mp present
  exact ⟨(onBus.address controller isController).lt, List.mem_range.mp (List.mem_filter.mp active).1⟩

/-- Each active port is visited once. -/
theorem pairwise_sites (onBus : OnBus controllers) :
    (sites controllers).Pairwise fun site other => ¬ site.Same other := by
  rw [sites, List.pairwise_flatMap]
  constructor
  · intro controller _
    rw [List.pairwise_map]
    refine (List.nodup_range.filter _).imp ?_
    rintro port other different ⟨-, same⟩
    exact different same
  · refine (List.pairwise_map.mp onBus.distinct).imp ?_
    intro left right different site inLeft other inRight
    obtain ⟨port, -, rfl⟩ := List.mem_map.mp inLeft
    obtain ⟨otherPort, -, rfl⟩ := List.mem_map.mp inRight
    exact fun same => different same.1

theorem scanNextDrive_of_scanError {device : Nat} {hba : Address} {port : Nat}
    (failed : state.scanError ≠ .errNone) :
    scanNextDrive created device hba port state = state := if_pos failed

/-- After an error the passes do nothing. -/
theorem foldl_scanSite_of_scanError (failed : state.scanError ≠ .errNone) (ports : List Site) :
    ports.foldl (scanSite created) state = state := by
  induction ports with
  | nil => rfl
  | cons site ports inductionHypothesis =>
      rw [List.foldl_cons, scanSite, scanNextDrive_of_scanError failed, inductionHypothesis]

/-- A pass visits the active ports. -/
theorem scanPci_eq (created : Nat → ErrCode) (controllers : List Controller) (state : State) :
    scanPci created controllers state = (sites controllers).foldl (scanSite created) state := by
  rw [scanPci, sites, List.foldl_flatMap]
  congr 1
  funext state controller
  have visits : (((List.range maxPorts).filter controller.isActive).map fun port =>
      (⟨controller.device, controller.hba, port⟩ : Site)).foldl (scanSite created) state =
        (List.range maxPorts).foldl
          (fun state port =>
            if controller.isActive port then
              scanNextDrive created controller.device controller.hba port state
            else
              state)
          state := by
    rw [List.foldl_map, List.foldl_filter]
    rfl
  by_cases failed : state.scanError ≠ .errNone
  · rw [scanNextHba, if_pos failed, foldl_scanSite_of_scanError failed]
  · rw [scanNextHba, if_neg failed, visits]

end Sites

/-! ## Comparing bit-fields -/

/-- A signed bit-field equals a natural number if it has its bits and they leave the sign
clear. -/
theorem toInt_eq_natCast_iff {width : Nat} (field : BitVec (width + 1)) (value : Nat) :
    field.toInt = value ↔ field = BitVec.ofNat (width + 1) value ∧ value < 2 ^ width := by
  have below := field.isLt
  have double : 2 ^ (width + 1) = 2 * 2 ^ width := by rw [pow_succ, Nat.mul_comm]
  rw [BitVec.toInt_eq_toNat_cond]
  constructor
  · intro same
    split at same
    · have sameNat : field.toNat = value := by omega
      refine ⟨?_, by omega⟩
      apply BitVec.eq_of_toNat_eq
      rw [BitVec.toNat_ofNat, Nat.mod_eq_of_lt (by omega), sameNat]
    · omega
  · rintro ⟨rfl, small⟩
    have sameNat : (BitVec.ofNat (width + 1) value).toNat = value := by
      rw [BitVec.toNat_ofNat, Nat.mod_eq_of_lt (by omega)]
    rw [sameNat, if_pos (by omega)]

/-- The bit-fields of a drive are those of a port. -/
def Drive.Holds (drive : Drive) (site : Site) : Prop :=
  drive.hbaPciAddress = BitVec.ofNat 24 site.device ∧ drive.hbaPort = BitVec.ofNat 5 site.port

/-- The address and the port are still positive as signed bit-fields. -/
def Site.Narrow (site : Site) : Prop :=
  site.device < 2 ^ 23 ∧ site.port < 2 ^ 4

theorem Drive.isAt_iff (drive : Drive) (site : Site) :
    drive.isAt site.device site.port = true ↔
      drive.inUse = true ∧ drive.Holds site ∧ site.Narrow := by
  rw [Drive.isAt, decide_eq_true_eq, toInt_eq_natCast_iff, toInt_eq_natCast_iff]
  unfold Drive.Holds Site.Narrow
  tauto

/-- The loop of `scan_next_drive` ends at a drive at the port. -/
theorem of_findDrive {state : State} {device port i : Nat}
    (found : findDrive state device port = some i) :
    i < maxDrives ∧ (state.drives i).isAt device port = true := by
  have search : (List.range maxDrives).find? (fun i => (state.drives i).isAt device port) =
      some i := found
  have isAt := List.find?_some search
  exact ⟨List.mem_range.mp (List.mem_of_find?_eq_some search), isAt⟩

/-- A drive is at one port. -/
theorem Drive.Holds.same {drive : Drive} {site other : Site} (holds : drive.Holds site)
    (holdsOther : drive.Holds other) (fits : site.Fits) (otherFits : other.Fits) :
    site.Same other := by
  have sameDevice := congrArg BitVec.toNat (holds.1.symm.trans holdsOther.1)
  have samePort := congrArg BitVec.toNat (holds.2.symm.trans holdsOther.2)
  rw [BitVec.toNat_ofNat, BitVec.toNat_ofNat, Nat.mod_eq_of_lt fits.1,
    Nat.mod_eq_of_lt otherFits.1] at sameDevice
  rw [BitVec.toNat_ofNat, BitVec.toNat_ofNat, Nat.mod_eq_of_lt fits.2,
    Nat.mod_eq_of_lt otherFits.2] at samePort
  exact ⟨sameDevice, samePort⟩

/-! ## The loops before and after the first pass -/

section Loops

/-- The first rounds of the loop that resets `scanned`. -/
theorem resetScanned_rounds (state : State) (rounds : Nat) :
    (List.range rounds).foldl
      (fun state i =>
        if (state.drives i).inUse then state.setDrive i ({ · with scanned := false }) else state)
      state =
    { state with
      drives := fun i =>
        if i < rounds ∧ (state.drives i).inUse then { state.drives i with scanned := false }
        else state.drives i } := by
  induction rounds with
  | zero => simp
  | succ rounds inductionHypothesis =>
      rw [List.range_succ, List.foldl_append, inductionHypothesis, List.foldl_cons,
        List.foldl_nil]
      have last : ¬ (rounds < rounds ∧ (state.drives rounds).inUse = true) := by omega
      simp only [if_neg last]
      split
      · rename_i inUse
        rw [State.setDrive, State.mk.injEq]
        refine ⟨rfl, rfl, ?_, rfl, rfl, rfl⟩
        funext i
        simp only [Function.update_apply, if_neg last]
        by_cases same : i = rounds
        · subst same
          rw [if_pos rfl, if_pos ⟨Nat.lt_succ_self i, inUse⟩]
        · have next : i < rounds + 1 ↔ i < rounds := by omega
          simp only [if_neg same, next]
      · rename_i notInUse
        rw [State.mk.injEq]
        refine ⟨rfl, rfl, ?_, rfl, rfl, rfl⟩
        funext i
        by_cases same : i = rounds
        · subst same
          rw [if_neg last, if_neg fun both => notInUse both.2]
        · have next : i < rounds + 1 ↔ i < rounds := by omega
          simp only [next]

theorem resetScanned_eq (state : State) :
    resetScanned state =
      { state with
        drives := fun i =>
          if i < maxDrives ∧ (state.drives i).inUse then { state.drives i with scanned := false }
          else state.drives i } :=
  resetScanned_rounds state maxDrives

/-- A state in which further drives are marked. -/
def mark (state : State) (found : Nat → Bool) : State :=
  { state with
    drives := fun i => { state.drives i with scanned := (state.drives i).scanned || found i } }

theorem mark_false (state : State) : mark state (fun _ => false) = state := by
  simp only [mark, Bool.or_false]

theorem mark_mark (state : State) (found foundNext : Nat → Bool) :
    mark (mark state found) foundNext = mark state fun i => found i || foundNext i := by
  simp only [mark, Bool.or_assoc]

/-- The first pass marks the drives that it finds. -/
theorem foldl_scanSite_mark {created : Nat → ErrCode} {state : State}
    (noError : state.scanError = .errNone) (notAdding : state.scanAddDrives = false)
    (ports : List Site) :
    ports.foldl (scanSite created) state =
      mark state fun i =>
        ports.any fun site => findDrive state site.device site.port = some i := by
  induction ports generalizing state with
  | nil => simp [mark]
  | cons site ports inductionHypothesis =>
      have first : scanSite created state site =
          mark state fun i => findDrive state site.device site.port = some i := by
        rw [scanSite, scanNextDrive, if_neg (not_not.mpr noError)]
        cases found : findDrive state site.device site.port with
        | none =>
            simp only [notAdding, Bool.false_eq_true, if_false, reduceCtorEq, decide_false]
            exact (mark_false state).symm
        | some i =>
            rw [mark, State.mk.injEq]
            refine ⟨rfl, rfl, ?_, rfl, rfl, rfl⟩
            funext j
            rw [State.setDrive_drives]
            by_cases same : j = i
            · simp [same]
            · have different : i ≠ j := Ne.symm same
              simp [same, different]
      have noErrorNext : (scanSite created state site).scanError = .errNone := first ▸ noError
      have notAddingNext : (scanSite created state site).scanAddDrives = false :=
        first ▸ notAdding
      rw [List.foldl_cons, inductionHypothesis noErrorNext notAddingNext, first, mark_mark]
      rfl

/-- The drives that the loop removes. -/
def unscanned (state : State) (i : Nat) : Bool :=
  (state.drives i).inUse && !(state.drives i).scanned

/-- What the loop that removes drives leaves of a state. -/
structure Removed (rounds : Nat) (state after : State) : Prop where
  scanError : after.scanError = .errNone
  stamp : after.stamp = state.stamp
  inUse : ∀ i, (after.drives i).inUse =
    ((state.drives i).inUse && !(decide (i < rounds) && unscanned state i))
  scanned : ∀ i, (after.drives i).scanned = (state.drives i).scanned
  address : ∀ i, (after.drives i).hbaPciAddress = (state.drives i).hbaPciAddress
  port : ∀ i, (after.drives i).hbaPort = (state.drives i).hbaPort
  stamps : ∀ i, (after.drives i).stamp = (state.drives i).stamp
  numbers : ∀ i, (after.drives i).number = (state.drives i).number
  count : after.count = state.count
  magic : ∀ i, (after.drives i).magic =
    if i = 0 ∧ ∃ j < rounds, unscanned state j = true then 0 else (state.drives i).magic
  log : after.log = state.log ++ ((List.range rounds).filter (unscanned state)).map fun i =>
    .removed (state.drives i).hbaPciAddress (state.drives i).hbaPort

theorem Removed.test {rounds : Nat} {middle : State} (removed : Removed rounds state middle) :
    ((middle.drives rounds).inUse && !(middle.drives rounds).scanned) =
      unscanned state rounds := by
  rw [removed.inUse, removed.scanned, unscanned]
  simp

/-- The round of a drive that stays. -/
theorem Removed.keep {rounds : Nat} {middle : State} (removed : Removed rounds state middle)
    (stays : unscanned state rounds = false) : Removed (rounds + 1) state middle := by
  have sameExists : (∃ j < rounds + 1, unscanned state j = true) ↔
      ∃ j < rounds, unscanned state j = true := by
    constructor
    · rintro ⟨j, below, found⟩
      refine ⟨j, ?_, found⟩
      rcases Nat.lt_succ_iff_lt_or_eq.mp below with less | rfl
      · exact less
      · rw [stays] at found
        cases found
    · rintro ⟨j, below, found⟩
      exact ⟨j, Nat.lt_succ_of_lt below, found⟩
  refine { removed with inUse := ?_, magic := ?_, log := ?_ }
  · intro i
    rw [removed.inUse]
    by_cases same : i = rounds
    · simp [same, stays]
    · have next : i < rounds + 1 ↔ i < rounds := by omega
      simp [next]
  · intro i
    simp only [removed.magic, sameExists]
  · rw [removed.log, List.range_succ, List.filter_append]
    simp [stays]

theorem removeDrive_drives (state : State) (index i : Nat) :
    (removeDrive state index).drives i =
      { state.drives i with
        magic := if i = 0 then 0 else (state.drives i).magic
        inUse := if i = index then false else (state.drives i).inUse } := by
  simp only [removeDrive, State.setDrive_drives]
  split <;> split <;> rfl

theorem removeDrive_log (state : State) (index : Nat) :
    (removeDrive state index).log = state.log ++
      [.removed (state.drives index).hbaPciAddress (state.drives index).hbaPort] := by
  show state.log ++ [.removed ((removeDrive state index).drives index).hbaPciAddress
    ((removeDrive state index).drives index).hbaPort] = _
  rw [removeDrive_drives]

/-- The round of a drive that goes. -/
theorem Removed.remove {rounds : Nat} {middle : State} (removed : Removed rounds state middle)
    (goes : unscanned state rounds = true) :
    Removed (rounds + 1) state (removeDrive middle rounds) := by
  refine ⟨rfl, removed.stamp, ?_, ?_, ?_, ?_, ?_, ?_, removed.count, ?_, ?_⟩
  · intro i
    rw [removeDrive_drives]
    show (if i = rounds then false else (middle.drives i).inUse) = _
    rw [removed.inUse]
    by_cases same : i = rounds
    · subst same
      simp [goes]
    · have next : i < rounds + 1 ↔ i < rounds := by omega
      simp [same, next]
  · intro i
    rw [removeDrive_drives, ← removed.scanned]
  · intro i
    rw [removeDrive_drives, ← removed.address]
  · intro i
    rw [removeDrive_drives, ← removed.port]
  · intro i
    rw [removeDrive_drives, ← removed.stamps]
  · intro i
    rw [removeDrive_drives, ← removed.numbers]
  · intro i
    rw [removeDrive_drives]
    show (if i = 0 then 0 else (middle.drives i).magic) = _
    rw [removed.magic]
    have someRemoved : ∃ j < rounds + 1, unscanned state j = true :=
      ⟨rounds, Nat.lt_succ_self rounds, goes⟩
    by_cases isZero : i = 0
    · rw [if_pos isZero, if_pos ⟨isZero, someRemoved⟩]
    · rw [if_neg isZero, if_neg fun both => isZero both.1, if_neg fun both => isZero both.1]
  · rw [removeDrive_log, removed.log, removed.address, removed.port, List.range_succ,
      List.filter_append]
    simp [goes]

theorem removed_rounds {state : State} (noError : state.scanError = .errNone) (rounds : Nat) :
    Removed rounds state
      ((List.range rounds).foldl
        (fun state i =>
          if (state.drives i).inUse && !(state.drives i).scanned then removeDrive state i
          else state)
        state) := by
  induction rounds with
  | zero =>
      refine ⟨noError, rfl, ?_, fun _ => rfl, fun _ => rfl, fun _ => rfl, fun _ => rfl,
        fun _ => rfl, rfl, ?_, ?_⟩
      · simp
      · simp
      · simp
  | succ rounds inductionHypothesis =>
      rw [List.range_succ, List.foldl_append, List.foldl_cons, List.foldl_nil]
      generalize (List.range rounds).foldl _ state = middle at inductionHypothesis ⊢
      rw [inductionHypothesis.test]
      cases isUnscanned : unscanned state rounds with
      | false =>
          rw [if_neg (by simp)]
          exact inductionHypothesis.keep isUnscanned
      | true =>
          rw [if_pos rfl]
          exact inductionHypothesis.remove isUnscanned

theorem removeUnscanned_removed {state : State} (noError : state.scanError = .errNone) :
    Removed maxDrives state (removeUnscanned state) :=
  removed_rounds noError maxDrives

end Loops

/-! ## The second pass -/

/-- A drive at a port was added to a slot. -/
structure Added (state : State) (site : Site) (i : Nat) (after : State) : Prop where
  slot : i < maxDrives
  free : (state.drives i).inUse = false
  others : ∀ j, j ≠ i → after.drives j = state.drives j
  inUse : (after.drives i).inUse = true
  holds : (after.drives i).Holds site
  magic : (after.drives i).magic = driveMagic
  stamps : (after.drives i).stamp = state.stamp
  stamp : after.stamp = (state.stamp + 1) % 2 ^ stampIdStampBits
  number : (after.drives i).number = state.count
  count : after.count = state.count + 1
  adding : after.scanAddDrives = state.scanAddDrives
  log : after.log = state.log ++ [.added site.device site.port]

/-- How the second pass visits a port. -/
inductive Visited (state : State) (site : Site) : State → Prop
  | found (i : Nat) :
      i < maxDrives →
      (state.drives i).isAt site.device site.port = true →
      Visited state site (state.setDrive i ({ · with scanned := true }))
  | added (i : Nat) {after : State} :
      (∀ j < maxDrives, (state.drives j).isAt site.device site.port = false) →
      Added state site i after →
      Visited state site after
  | full :
      (∀ j < maxDrives, (state.drives j).inUse = true) →
      Visited state site { state with scanError := .errNoMore }

section Second

variable {created : Nat → ErrCode} {state : State} {site : Site}

/-- `add_drive` fills the slot at which its loop ends; only `used` and `scan_error` depend on
the mutex. -/
theorem addDrive_added {i : Nat} (noError : state.scanError = .errNone)
    (ends : (List.range maxDrives).find? (fun i => !(state.drives i).inUse) = some i) :
    Added state site i (addDrive created site.device site.hba site.port state) := by
  have below := List.mem_range.mp (List.mem_of_find?_eq_some ends)
  have isFree : (state.drives i).inUse = false := by
    simpa using List.find?_some ends
  have others : ∀ j, j ≠ i →
      (fillSlot state i site.device site.hba site.port).drives j = state.drives j := by
    intro j different
    simp [fillSlot, different]
  simp only [addDrive, noError, ne_eq, not_true_eq_false, if_false, ends]
  split
  · exact ⟨below, isFree, others, by simp [fillSlot], by simp [fillSlot, Drive.Holds],
      by simp [fillSlot], by simp [fillSlot, assignStampIdStamp], rfl, by simp [fillSlot], rfl,
      rfl, rfl⟩
  · split
    · refine ⟨below, isFree, ?_, by simp [fillSlot], by simp [fillSlot, Drive.Holds],
        by simp [fillSlot], by simp [fillSlot, assignStampIdStamp], rfl,
        by simp [fillSlot], rfl, rfl, rfl⟩
      intro j different
      simp [fillSlot, different]
    · exact ⟨below, isFree, others, by simp [fillSlot], by simp [fillSlot, Drive.Holds],
        by simp [fillSlot], by simp [fillSlot, assignStampIdStamp], rfl,
        by simp [fillSlot], rfl, rfl, rfl⟩

theorem addDrive_visited (noError : state.scanError = .errNone)
    (absent : ∀ j < maxDrives, (state.drives j).isAt site.device site.port = false) :
    Visited state site (addDrive created site.device site.hba site.port state) := by
  cases free : (List.range maxDrives).find? fun i => !(state.drives i).inUse with
  | none =>
      simp only [addDrive, noError, ne_eq, not_true_eq_false, if_false, free]
      refine .full ?_
      intro j below
      have inUse := List.find?_eq_none.mp free j (List.mem_range.mpr below)
      simpa using inUse
  | some i =>
      exact .added i absent (addDrive_added noError free)

theorem scanSite_visited (noError : state.scanError = .errNone)
    (adding : state.scanAddDrives = true) :
    Visited state site (scanSite created state site) := by
  simp only [scanSite, scanNextDrive, noError, ne_eq, not_true_eq_false, if_false]
  cases found : findDrive state site.device site.port with
  | some i =>
      obtain ⟨below, isAt⟩ := of_findDrive found
      exact .found i below isAt
  | none =>
      have absent : ∀ j < maxDrives, (state.drives j).isAt site.device site.port = false := by
        intro j below
        have notAt := List.find?_eq_none.mp found j (List.mem_range.mpr below)
        simpa using notAt
      simp only [adding, if_true]
      exact addDrive_visited noError absent

theorem Visited.adding {after : State} (step : Visited state site after) :
    after.scanAddDrives = state.scanAddDrives := by
  cases step with
  | found => rfl
  | added i absent added => exact added.adding
  | full => rfl

/-- The invariant rule for the second pass. -/
theorem foldl_scanSite_invariant {property : State → Prop} (ports : List Site)
    (adding : state.scanAddDrives = true) (starts : property state)
    (keeps : ∀ state site after, property state → Visited state site after → property after) :
    property (ports.foldl (scanSite created) state) := by
  induction ports generalizing state with
  | nil => exact starts
  | cons site ports inductionHypothesis =>
      rw [List.foldl_cons]
      by_cases noError : state.scanError = .errNone
      · have step : Visited state site (scanSite created state site) :=
          scanSite_visited noError adding
        exact inductionHypothesis (step.adding.trans adding) (keeps _ _ _ starts step)
      · have stuck : scanSite created state site = state := scanNextDrive_of_scanError noError
        rw [stuck]
        exact inductionHypothesis adding starts

end Second

/-- Two slots of the table hold the same port. -/
def Drive.SamePlace (drive other : Drive) : Prop :=
  drive.hbaPciAddress = other.hbaPciAddress ∧ drive.hbaPort = other.hbaPort

/-- The drives in use are at different ports. -/
def State.Distinct (state : State) : Prop :=
  ∀ i < maxDrives, ∀ j < maxDrives, (state.drives i).inUse = true → (state.drives j).inUse = true →
    (state.drives i).SamePlace (state.drives j) → i = j

/-- Each drive in use was found at a port. -/
def State.Found (state : State) (ports : List Site) : Prop :=
  ∀ i < maxDrives, (state.drives i).inUse = true →
    ∃ site ∈ ports, (state.drives i).isAt site.device site.port = true

/-- What the second pass has done after it has visited some ports. -/
structure Filled (start : State) (visited : List Site) (state : State) : Prop where
  kept : ∀ i < maxDrives, (start.drives i).inUse = true → (state.drives i).inUse = true ∧
    (state.drives i).SamePlace (start.drives i) ∧ (state.drives i).stamp = (start.drives i).stamp
  origin : ∀ i < maxDrives, (state.drives i).inUse = true →
    (start.drives i).inUse = true ∨ ∃ site ∈ visited, (state.drives i).Holds site
  present : ∀ site ∈ visited, ∃ i < maxDrives, (state.drives i).inUse = true ∧
    (state.drives i).Holds site
  distinct : state.Distinct
  log : ∃ news, state.log = start.log ++ news ∧ ∀ event ∈ news, ∃ site ∈ visited,
    event = .added site.device site.port ∧
      ∀ i < maxDrives, (start.drives i).inUse = true →
        (start.drives i).isAt site.device site.port = false
  adding : state.scanAddDrives = true

section Fill

variable {created : Nat → ErrCode} {start state after : State} {visited ports : List Site}
  {site : Site} {first : List Site}

theorem Drive.Holds.samePlace {drive other : Drive} (holds : drive.Holds site)
    (otherHolds : other.Holds site) : drive.SamePlace other :=
  ⟨holds.1.trans otherHolds.1.symm, holds.2.trans otherHolds.2.symm⟩

theorem Drive.SamePlace.holds {drive other : Drive} (same : drive.SamePlace other)
    (holds : other.Holds site) : drive.Holds site :=
  ⟨same.1.trans holds.1, same.2.trans holds.2⟩

theorem filled_start (distinct : start.Distinct) (adding : start.scanAddDrives = true) :
    Filled start [] start where
  kept _ _ inUse := ⟨inUse, ⟨rfl, rfl⟩, rfl⟩
  origin _ _ inUse := .inl inUse
  present := by simp
  distinct := distinct
  log := ⟨[], by simp⟩
  adding := adding

/-- A drive that is at a port is at it when it is seen in another state. -/
theorem Drive.isAt_of_samePlace {drive other : Drive} (inUse : drive.inUse = true)
    (same : drive.SamePlace other) (isAt : other.isAt site.device site.port = true) :
    drive.isAt site.device site.port = true := by
  rw [Drive.isAt_iff] at isAt ⊢
  exact ⟨inUse, same.holds isAt.2.1, isAt.2.2⟩

theorem Filled.visit_found (filled : Filled start visited state) {i : Nat} (below : i < maxDrives)
    (isAt : (state.drives i).isAt site.device site.port = true) :
    Filled start (visited ++ [site]) (state.setDrive i ({ · with scanned := true })) := by
  have same : ∀ j, ((state.setDrive i ({ · with scanned := true })).drives j).inUse =
        (state.drives j).inUse ∧
      ((state.setDrive i ({ · with scanned := true })).drives j).SamePlace (state.drives j) ∧
      ((state.setDrive i ({ · with scanned := true })).drives j).stamp =
        (state.drives j).stamp := by
    intro j
    rw [State.setDrive_drives]
    split <;> exact ⟨rfl, ⟨rfl, rfl⟩, rfl⟩
  have places : ∀ j, (state.drives j).SamePlace
      ((state.setDrive i ({ · with scanned := true })).drives j) := fun j =>
    ⟨(same j).2.1.1.symm, (same j).2.1.2.symm⟩
  rw [Drive.isAt_iff] at isAt
  constructor
  · intro j jBelow inUse
    obtain ⟨stateInUse, place, stamp⟩ := filled.kept j jBelow inUse
    exact ⟨(same j).1.trans stateInUse, ⟨(same j).2.1.1.trans place.1,
      (same j).2.1.2.trans place.2⟩, (same j).2.2.trans stamp⟩
  · intro j jBelow inUse
    rw [(same j).1] at inUse
    rcases filled.origin j jBelow inUse with old | ⟨other, isVisited, holds⟩
    · exact .inl old
    · exact .inr ⟨other, List.mem_append_left _ isVisited, (same j).2.1.holds holds⟩
  · intro other present
    rcases List.mem_append.mp present with earlier | last
    · obtain ⟨j, jBelow, inUse, holds⟩ := filled.present other earlier
      exact ⟨j, jBelow, (same j).1.trans inUse, (same j).2.1.holds holds⟩
    · obtain rfl := List.mem_singleton.mp last
      exact ⟨i, below, (same i).1.trans isAt.1, (same i).2.1.holds isAt.2.1⟩
  · intro j jBelow k kBelow jInUse kInUse place
    rw [(same j).1] at jInUse
    rw [(same k).1] at kInUse
    exact filled.distinct j jBelow k kBelow jInUse kInUse
      ⟨(places j).1.trans (place.1.trans (same k).2.1.1),
        (places j).2.trans (place.2.trans (same k).2.1.2)⟩
  · obtain ⟨news, log, origin⟩ := filled.log
    refine ⟨news, log, fun event isNew => ?_⟩
    obtain ⟨other, isVisited, isAdded⟩ := origin event isNew
    exact ⟨other, List.mem_append_left _ isVisited, isAdded⟩
  · exact filled.adding

/-- The drives from before the pass were found in the first one, so their addresses are not
cut off, and the new drive is at another port. -/
theorem Filled.visit_added (filled : Filled start visited state) (found : start.Found first)
    (firstFits : ∀ other ∈ first, other.Fits) (fits : ∀ other ∈ visited, other.Fits)
    (siteFits : site.Fits) (new : ∀ other ∈ visited, ¬ other.Same site) {i : Nat}
    (absent : ∀ j < maxDrives, (state.drives j).isAt site.device site.port = false)
    (added : Added state site i after) : Filled start (visited ++ [site]) after := by
  have inUse_ne : ∀ j, (state.drives j).inUse = true → j ≠ i := by
    rintro j inUse rfl
    rw [added.free] at inUse
    cases inUse
  have elsewhere : ∀ j < maxDrives, (state.drives j).inUse = true →
      ¬ (state.drives j).Holds site := by
    intro j below inUse holds
    rcases filled.origin j below inUse with old | ⟨other, isVisited, otherHolds⟩
    · obtain ⟨-, place, -⟩ := filled.kept j below old
      obtain ⟨other, isFirst, isAt⟩ := found j below old
      have stateAt := Drive.isAt_of_samePlace inUse place isAt
      rw [Drive.isAt_iff] at stateAt
      have same := stateAt.2.1.same holds (firstFits other isFirst) siteFits
      have stillAt := absent j below
      rw [← same.1, ← same.2, ← Bool.not_eq_true, Drive.isAt_iff] at stillAt
      exact stillAt stateAt
    · exact new other isVisited (otherHolds.same holds (fits other isVisited) siteFits)
  constructor
  · intro j below inUse
    obtain ⟨stateInUse, place, stamp⟩ := filled.kept j below inUse
    rw [added.others j (inUse_ne j stateInUse)]
    exact ⟨stateInUse, place, stamp⟩
  · intro j below inUse
    by_cases same : j = i
    · subst same
      exact .inr ⟨site, List.mem_append_right _ List.mem_cons_self, added.holds⟩
    · rw [added.others j same] at inUse ⊢
      rcases filled.origin j below inUse with old | ⟨other, isVisited, holds⟩
      · exact .inl old
      · exact .inr ⟨other, List.mem_append_left _ isVisited, holds⟩
  · intro other present
    rcases List.mem_append.mp present with earlier | last
    · obtain ⟨j, below, inUse, holds⟩ := filled.present other earlier
      refine ⟨j, below, ?_⟩
      rw [added.others j (inUse_ne j inUse)]
      exact ⟨inUse, holds⟩
    · obtain rfl := List.mem_singleton.mp last
      exact ⟨i, added.slot, added.inUse, added.holds⟩
  · intro j jBelow k kBelow jInUse kInUse place
    by_cases jSame : j = i <;> by_cases kSame : k = i
    · rw [jSame, kSame]
    · subst jSame
      rw [added.others k kSame] at kInUse place
      have holds : (state.drives k).Holds site :=
        ⟨place.1.symm.trans added.holds.1, place.2.symm.trans added.holds.2⟩
      exact absurd holds (elsewhere k kBelow kInUse)
    · subst kSame
      rw [added.others j jSame] at jInUse place
      exact absurd (place.holds added.holds) (elsewhere j jBelow jInUse)
    · rw [added.others j jSame] at jInUse place
      rw [added.others k kSame] at kInUse place
      exact filled.distinct j jBelow k kBelow jInUse kInUse place
  · obtain ⟨news, log, origin⟩ := filled.log
    refine ⟨news ++ [.added site.device site.port], by rw [added.log, log, List.append_assoc], ?_⟩
    intro event isNew
    rcases List.mem_append.mp isNew with earlier | last
    · obtain ⟨other, isVisited, isAdded⟩ := origin event earlier
      exact ⟨other, List.mem_append_left _ isVisited, isAdded⟩
    · refine ⟨site, List.mem_append_right _ List.mem_cons_self, List.mem_singleton.mp last, ?_⟩
      intro j below inUse
      obtain ⟨stateInUse, place, -⟩ := filled.kept j below inUse
      rw [← Bool.not_eq_true]
      intro isAt
      exact Bool.false_ne_true ((absent j below).symm.trans
        (Drive.isAt_of_samePlace stateInUse place isAt))
  · exact added.adding.trans filled.adding

/-- The second pass visits one more port, or finds that the table is full. -/
theorem Filled.visit (filled : Filled start visited state) (found : start.Found first)
    (firstFits : ∀ other ∈ first, other.Fits) (fits : ∀ other ∈ visited, other.Fits)
    (siteFits : site.Fits) (new : ∀ other ∈ visited, ¬ other.Same site)
    (step : Visited state site after) :
    Filled start (visited ++ [site]) after ∨
      after.scanError ≠ .errNone ∧ Filled start visited after := by
  cases step with
  | found i below isAt => exact .inl (filled.visit_found below isAt)
  | added i absent added =>
      exact .inl (filled.visit_added found firstFits fits siteFits new absent added)
  | full =>
      refine .inr ⟨by simp, ?_⟩
      exact ⟨filled.kept, filled.origin, filled.present, filled.distinct, filled.log,
        filled.adding⟩

/-- The whole second pass. -/
theorem Filled.foldl (filled : Filled start visited state) (found : start.Found first)
    (firstFits : ∀ other ∈ first, other.Fits)
    (fits : ∀ other ∈ visited ++ ports, other.Fits)
    (once : (visited ++ ports).Pairwise fun site other => ¬ site.Same other) :
    ∃ reached, Filled start reached (ports.foldl (scanSite created) state) ∧
      ((ports.foldl (scanSite created) state).scanError = .errNone →
        reached = visited ++ ports) := by
  induction ports generalizing state visited with
  | nil => exact ⟨visited, filled, fun _ => (List.append_nil visited).symm⟩
  | cons site ports inductionHypothesis =>
      rw [List.foldl_cons]
      by_cases noError : state.scanError = .errNone
      · have siteFits := fits site (by simp)
        have visitedFits : ∀ other ∈ visited, other.Fits := fun other isVisited =>
          fits other (List.mem_append_left _ isVisited)
        have new : ∀ other ∈ visited, ¬ other.Same site := fun other isVisited =>
          (List.pairwise_append.mp once).2.2 other isVisited site List.mem_cons_self
        rcases filled.visit found firstFits visitedFits siteFits new
          (scanSite_visited noError filled.adding) with next | ⟨failed, stays⟩
        · have append : visited ++ site :: ports = (visited ++ [site]) ++ ports := by simp
          rw [append] at fits once ⊢
          exact inductionHypothesis next fits once
        · rw [foldl_scanSite_of_scanError failed]
          exact ⟨visited, stays, fun noErrorAfter => absurd noErrorAfter failed⟩
      · have stuck : scanSite created state site = state := scanNextDrive_of_scanError noError
        rw [stuck, foldl_scanSite_of_scanError noError]
        exact ⟨visited, filled, fun noErrorAfter => absurd noErrorAfter noError⟩

end Fill

end Ahci
end ToyKernel
