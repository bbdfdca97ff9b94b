import Mathlib.Data.BitVec
import ToyKernel.Common

/-!
# Stamped pointers

`stamp_id.h`: an id packs a 52-bit pointer and the 12-bit stamp of the object it
points to.
-/

namespace ToyKernel

/-- An address; a pointer that may be `NULL` is an `Option Address`. -/
abbrev Address := BitVec 64

/-- `STAMP_ID_STAMP_BITS`. -/
def stampIdStampBits : Nat := 12

/-- `get_stamp_id`. -/
def getStampId (ptr : Address) (stamp : Nat) : BitVec 64 :=
  ptr ||| BitVec.ofNat 64 stamp <<< (64 - stampIdStampBits)

/-- `get_stamp_id_ptr`. -/
def getStampIdPtr (id : BitVec 64) : Address :=
  id <<< stampIdStampBits >>> stampIdStampBits

/-- `get_stamp_id_stamp`. -/
def getStampIdStamp (id : BitVec 64) : Nat :=
  (id >>> (64 - stampIdStampBits)).toNat

/-- `assign_stamp_id_stamp`: the stamp assigned and the next global stamp. -/
def assignStampIdStamp (globalStamp : Nat) : Nat × Nat :=
  (globalStamp, (globalStamp + 1) % 2 ^ stampIdStampBits)

/-- `WITH_STAMP_ID` for objects with the given fields: the object of an id, or the error. -/
def stampIdTarget (magicOf : Address → BitVec 64) (stampOf : Address → Nat) (magic : BitVec 64)
    (id : BitVec 64) : Except ErrCode Address :=
  let stamp := getStampIdStamp id
  let object := getStampIdPtr id
  if magicOf object ≠ magic then
    .error .errNotFound
  else if stampOf object ≠ stamp then
    .error .errExpired
  else
    .ok object

section Packing

variable {ptr : Address} {stamp : Nat}

/-- The stamp is above the pointer. -/
theorem getStampId_toNat (below : ptr.toNat < 2 ^ 52) (small : stamp < 2 ^ stampIdStampBits) :
    (getStampId ptr stamp).toNat = stamp * 2 ^ 52 + ptr.toNat := by
  have fits : stamp <<< 52 < 2 ^ 64 := by
    rw [Nat.shiftLeft_eq]
    simp only [stampIdStampBits] at small
    omega
  have narrow : stamp % 2 ^ 64 = stamp := by
    simp only [stampIdStampBits] at small
    omega
  have stampPart : (BitVec.ofNat 64 stamp <<< (64 - stampIdStampBits)).toNat = stamp <<< 52 := by
    rw [BitVec.toNat_shiftLeft, BitVec.toNat_ofNat, narrow]
    exact Nat.mod_eq_of_lt fits
  rw [getStampId, BitVec.toNat_or, stampPart, Nat.or_comm,
    ← Nat.shiftLeft_add_eq_or_of_lt below, Nat.shiftLeft_eq]

/-- An id gives back its pointer. -/
theorem getStampIdPtr_getStampId (below : ptr.toNat < 2 ^ 52)
    (small : stamp < 2 ^ stampIdStampBits) : getStampIdPtr (getStampId ptr stamp) = ptr := by
  apply BitVec.eq_of_toNat_eq
  rw [getStampIdPtr, BitVec.toNat_ushiftRight, BitVec.toNat_shiftLeft,
    getStampId_toNat below small, Nat.shiftLeft_eq, Nat.shiftRight_eq_div_pow, stampIdStampBits]
  omega

/-- An id gives back its stamp. -/
theorem getStampIdStamp_getStampId (below : ptr.toNat < 2 ^ 52)
    (small : stamp < 2 ^ stampIdStampBits) :
    getStampIdStamp (getStampId ptr stamp) = stamp := by
  rw [getStampIdStamp, BitVec.toNat_ushiftRight, getStampId_toNat below small,
    Nat.shiftRight_eq_div_pow, stampIdStampBits]
  omega

/-- The id of an object is not null. -/
theorem getStampId_ne_zero (below : ptr.toNat < 2 ^ 52) (small : stamp < 2 ^ stampIdStampBits)
    (notNull : ptr ≠ 0) : getStampId ptr stamp ≠ 0 := by
  intro null
  have same := getStampIdPtr_getStampId below small
  rw [null] at same
  exact notNull (same.symm.trans rfl)

end Packing

section Target

variable {magicOf : Address → BitVec 64} {stampOf : Address → Nat} {magic id : BitVec 64}
  {object : Address}

/-- A valid id gives the object that it points to. -/
theorem of_stampIdTarget (found : stampIdTarget magicOf stampOf magic id = .ok object) :
    object = getStampIdPtr id ∧ magicOf object = magic ∧ stampOf object = getStampIdStamp id := by
  simp only [stampIdTarget] at found
  split at found
  · cases found
  · rename_i isMagic
    split at found
    · cases found
    · rename_i sameStamp
      cases found
      exact ⟨rfl, not_not.mp isMagic, not_not.mp sameStamp⟩

/-- The two reasons for which an id is not valid. -/
theorem err_of_stampIdTarget {err : ErrCode}
    (unknown : stampIdTarget magicOf stampOf magic id = .error err) :
    err = .errNotFound ∨ err = .errExpired := by
  simp only [stampIdTarget] at unknown
  split at unknown
  · exact .inl (Except.error.inj unknown).symm
  · split at unknown
    · exact .inr (Except.error.inj unknown).symm
    · cases unknown

/-- What becomes of the id of an object. -/
theorem stampIdTarget_getStampId {stamp : Nat} (below : object.toNat < 2 ^ 52)
    (small : stamp < 2 ^ stampIdStampBits) :
    stampIdTarget magicOf stampOf magic (getStampId object stamp) =
      if magicOf object ≠ magic then .error .errNotFound
      else if stampOf object ≠ stamp then .error .errExpired
      else .ok object := by
  simp only [stampIdTarget, getStampIdPtr_getStampId below small,
    getStampIdStamp_getStampId below small]

end Target

end ToyKernel
