import ToyKernel.Ahci.Ids

/-!
# Enumeration of the drives

`get_next_device` goes on with its scan after it has rejected an id.  It starts at the first
slot then, and overwrites the id or the error.
-/

namespace ToyKernel
namespace Ahci

namespace Placement

variable (placement : Placement) (state : State)

/-- The current id of a slot. -/
def idOf (i : Nat) : BitVec 64 :=
  getStampId (placement.address i) (state.drives i).stamp

/-- The slots in use, in order, from the given one on. -/
def inUseFrom (state : State) (start : Nat) : List Nat :=
  ((List.range maxDrives).drop start).filter fun i => (state.drives i).inUse

/-- The ids of the drives in use, in the order of their slots. -/
def ids : List (BitVec 64) :=
  (inUseFrom state 0).map (placement.idOf state)

/-- `get_next_device`, called again and again until it returns something else than
`ERR_NONE`: the ids that it stored, and the last result. -/
def enumerate : Nat → BitVec 64 → Option (List (BitVec 64) × ErrCode)
  | 0, _ => none
  | calls + 1, id => do
      let (err, id) := placement.getNextDevice state .errNone id
      if err = .errNone then
        let (ids, last) ← enumerate calls id
        some (id :: ids, last)
      else
        some ([], err)

/-- The slots in use are exactly those with the magic number, and their stamps are those of
`assign_stamp_id_stamp`. -/
structure Consistent (state : State) : Prop where
  magic : ∀ i < maxDrives, (state.drives i).magic = driveMagic ↔ (state.drives i).inUse = true
  stamps : ∀ i < maxDrives, (state.drives i).inUse = true →
    (state.drives i).stamp < 2 ^ stampIdStampBits

/-- What `get_next_device` is meant to do with an id: zero starts an enumeration of the
drives in use, and an id that is not the one of a drive in use is rejected and left alone. -/
structure Enumerates (id : BitVec 64) : Prop where
  exact : id = 0 → Consistent state → ∀ calls, maxDrives < calls →
    placement.enumerate state calls id = some (placement.ids state, .errNoMore)
  rejects : id ≠ 0 → id ∉ placement.ids state →
    ((placement.getNextDevice state .errNone id).1 = .errNotFound ∨
        (placement.getNextDevice state .errNone id).1 = .errExpired) ∧
      (placement.getNextDevice state .errNone id).2 = id

end Placement

section Enumeration

variable {placement : Placement} {state : State} {id : BitVec 64} {start i : Nat}

open Placement

/-- What follows an element of an interval. -/
theorem eq_drop_of_append {count : Nat} {front back : List Nat}
    (split : (List.range count).drop start = front ++ i :: back) :
    back = (List.range count).drop (i + 1) := by
  have here : ((List.range count).drop start)[front.length]? = some i := by
    rw [split]
    simp
  rw [List.getElem?_drop] at here
  obtain ⟨inside, isHere⟩ := List.getElem?_eq_some_iff.mp here
  rw [List.getElem_range] at isHere
  have after : back = ((List.range count).drop start).drop (front.length + 1) := by
    rw [split]
    simp
  rw [after, List.drop_drop, ← isHere]
  rfl

/-- The scan from a slot on. -/
theorem find?_inUse (state : State) (start : Nat) :
    ((List.range maxDrives).drop start).find? (fun i => (state.drives i).inUse) =
      (inUseFrom state start).head? := by
  rw [inUseFrom, List.head?_filter]

/-- The slots in use behind the first one that a scan finds. -/
theorem inUseFrom_cons {rest : List Nat} (found : inUseFrom state start = i :: rest) :
    rest = inUseFrom state (i + 1) := by
  obtain ⟨front, back, split, unused, -, rfl⟩ := List.filter_eq_cons_iff.mp found
  rw [inUseFrom, ← eq_drop_of_append split]

theorem mem_inUseFrom (present : i ∈ inUseFrom state start) :
    i < maxDrives ∧ (state.drives i).inUse = true := by
  obtain ⟨inside, inUse⟩ := List.mem_filter.mp present
  exact ⟨List.mem_range.mp (List.mem_of_mem_drop inside), inUse⟩

/-- The first call. -/
theorem getNextDevice_zero :
    placement.getNextDevice state .errNone 0 =
      (inUseFrom state 0).head?.elim (.errNoMore, 0) fun i =>
        (.errNone, placement.idOf state i) := by
  simp only [getNextDevice, ne_eq, not_true_eq_false, if_false, find?_inUse]
  cases (inUseFrom state 0).head? with
  | none => rfl
  | some i => rfl

/-- The call after the one that has returned the id of a drive. -/
theorem getNextDevice_idOf (consistent : Consistent state) (below : i < maxDrives)
    (inUse : (state.drives i).inUse = true) :
    placement.getNextDevice state .errNone (placement.idOf state i) =
      (inUseFrom state (i + 1)).head?.elim (.errNoMore, placement.idOf state i) fun next =>
        (.errNone, placement.idOf state next) := by
  have small := consistent.stamps i below inUse
  have notZero : placement.idOf state i ≠ 0 :=
    getStampId_ne_zero (placement.below i below) small (placement.notNull i below)
  have valid : placement.withStampId state (placement.idOf state i) = .ok i := by
    rw [idOf, withStampId_getStampId below small,
      if_neg (not_not.mpr ((consistent.magic i below).mpr inUse)), if_neg (not_not.mpr rfl)]
  simp only [getNextDevice, ne_eq, not_true_eq_false, if_false, notZero, not_false_eq_true,
    if_true, valid, find?_inUse]
  cases (inUseFrom state (i + 1)).head? with
  | none => rfl
  | some next => rfl

/-- An enumeration goes on with the slots in use behind the last one. -/
theorem enumerate_idOf (consistent : Consistent state) {calls : Nat} (below : i < maxDrives)
    (inUse : (state.drives i).inUse = true)
    (enough : (inUseFrom state (i + 1)).length < calls) :
    placement.enumerate state calls (placement.idOf state i) =
      some ((inUseFrom state (i + 1)).map (placement.idOf state), .errNoMore) := by
  induction calls generalizing i with
  | zero => cases enough
  | succ calls inductionHypothesis =>
      rw [Placement.enumerate, getNextDevice_idOf consistent below inUse]
      cases slots : inUseFrom state (i + 1) with
      | nil => rfl
      | cons next rest =>
          obtain ⟨nextBelow, nextInUse⟩ := mem_inUseFrom (slots ▸ List.mem_cons_self)
          obtain rfl := inUseFrom_cons slots
          rw [slots, List.length_cons, Nat.add_lt_add_iff_right] at enough
          simp [inductionHypothesis nextBelow nextInUse enough]

/-- An enumeration returns the ids of the drives in use, in the order of their slots. -/
theorem enumerate_zero (consistent : Consistent state) {calls : Nat}
    (enough : maxDrives < calls) :
    placement.enumerate state calls 0 = some (placement.ids state, .errNoMore) := by
  have few : ∀ start, (inUseFrom state start).length ≤ maxDrives := by
    intro start
    refine (List.length_filter_le ..).trans ?_
    rw [List.length_drop, List.length_range]
    exact Nat.sub_le ..
  obtain ⟨calls, rfl⟩ := Nat.exists_eq_add_of_lt (Nat.zero_lt_of_lt enough)
  rw [Nat.zero_add, Placement.enumerate, getNextDevice_zero, ids]
  cases slots : inUseFrom state 0 with
  | nil => rfl
  | cons first rest =>
      obtain ⟨below, inUse⟩ := mem_inUseFrom (slots ▸ List.mem_cons_self)
      obtain rfl := inUseFrom_cons slots
      have shorter := few 0
      rw [slots, List.length_cons] at shorter
      have enoughRest : (inUseFrom state (first + 1)).length < calls := by omega
      simp [enumerate_idOf consistent below inUse enoughRest]

/-- An id that is not zero is never left alone together with one of the two errors. -/
theorem getNextDevice_overwrites
    (untouched : (placement.getNextDevice state .errNone id).2 = id)
    (noEnd : (placement.getNextDevice state .errNone id).1 ≠ .errNoMore) :
    id ∈ placement.ids state := by
  simp only [getNextDevice, ne_eq, not_true_eq_false, if_false] at untouched noEnd
  split at untouched
  · rename_i i found
    have inUse := List.find?_some found
    have present := List.mem_of_mem_drop (List.mem_of_find?_eq_some found)
    refine List.mem_map.mpr ⟨i, List.mem_filter.mpr ⟨present, inUse⟩, untouched⟩
  · rename_i absent
    rw [absent] at noEnd
    exact absurd rfl noEnd

/-- **Enumeration of the drives.**  `get_next_device` does what it is meant to do for zero and
for the ids of drives in use, and for no others. -/
theorem enumerates_iff_valid (placement : Placement) (state : State) (id : BitVec 64) :
    placement.Enumerates state id ↔ id = 0 ∨ id ∈ placement.ids state := by
  constructor
  · intro enumerates
    by_contra neither
    rw [not_or] at neither
    obtain ⟨err, untouched⟩ := enumerates.rejects neither.1 neither.2
    refine neither.2 (getNextDevice_overwrites untouched ?_)
    rcases err with notFound | expired
    · rw [notFound]
      decide
    · rw [expired]
      decide
  · intro valid
    refine ⟨?_, fun notZero absent => ?_⟩
    · rintro rfl consistent calls enough
      exact enumerate_zero consistent enough
    · exact absurd (valid.resolve_left notZero) absent

/-- A table with a drive in its first slot. -/
def oneDriveState : State :=
  (clearedState.setDrive 0 ({ · with magic := driveMagic, inUse := true }))

/-- An id that points to no slot is overwritten by the id of the first drive. -/
theorem enumerates_foreignId_fails :
    ¬ ∀ (state : State) (id : BitVec 64), tablePlacement.Enumerates state id := by
  intro claimed
  have rejected := (claimed oneDriveState 0x300000).rejects (by decide) (by decide +kernel)
  exact absurd rejected.2 (by decide +kernel)

end Enumeration

end Ahci
end ToyKernel
