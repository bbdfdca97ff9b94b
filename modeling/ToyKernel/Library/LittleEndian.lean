import Mathlib.Data.BitVec

/-!
# Words in a memory of bytes

A word is as many bytes as its width needs, the lowest byte at the lowest address.  Addresses
have 64 bits and wrap around.
-/

namespace ToyKernel

/-- The bytes at all addresses. -/
abbrev ByteMemory := BitVec 64 → BitVec 8

namespace ByteMemory

/-- So many bytes from an address on, as one number. -/
def loadBytes (memory : ByteMemory) : (count : Nat) → BitVec 64 → BitVec (8 * count)
  | 0, _ => 0#0
  | count + 1, address => loadBytes memory count (address + 1) ++ memory address

/-- The word at an address. -/
def load (width : Nat) (memory : ByteMemory) (address : BitVec 64) : BitVec width :=
  (loadBytes memory (width / 8) address).setWidth width

/-- Write a word. -/
def store {width : Nat} (memory : ByteMemory) (address : BitVec 64) (word : BitVec width) :
    ByteMemory :=
  fun other =>
    if (other - address).toNat < width / 8 then
      word.extractLsb' (8 * (other - address).toNat) 8
    else
      memory other

/-- Copy so many bytes. -/
def copy (memory : ByteMemory) (dst src : BitVec 64) (count : Nat) : ByteMemory :=
  fun other =>
    if (other - dst).toNat < count then memory (src + (other - dst)) else memory other

/-- Set so many bytes to one value. -/
def fill (memory : ByteMemory) (address : BitVec 64) (count : Nat) (byte : BitVec 8) :
    ByteMemory :=
  fun other => if (other - address).toNat < count then byte else memory other

/-- Two ranges of bytes have no byte in common. -/
def Apart (first : BitVec 64) (count : Nat) (second : BitVec 64) (others : Nat) : Prop :=
  count ≤ (second - first).toNat ∧ others ≤ (first - second).toNat

instance (first : BitVec 64) (count : Nat) (second : BitVec 64) (others : Nat) :
    Decidable (Apart first count second others) :=
  inferInstanceAs (Decidable (_ ∧ _))

section

variable {memory other : ByteMemory} {address start dst src : BitVec 64}
  {width count offset bit : Nat}

theorem Apart.symm {others : Nat} (apart : Apart address count start others) :
    Apart start others address count :=
  ⟨apart.2, apart.1⟩

/-- Ranges inside a larger one are apart if one ends before the other begins. -/
theorem apart_offsets {first second others : Nat} (base : BitVec 64)
    (ordered : first + count ≤ second) (fits : second + others ≤ 2 ^ 64)
    (positive : 0 < count) (alsoPositive : 0 < others) :
    Apart (base + BitVec.ofNat 64 first) count (base + BitVec.ofNat 64 second) others := by
  have forwards : base + BitVec.ofNat 64 second - (base + BitVec.ofNat 64 first) =
      BitVec.ofNat 64 (second - first) := by bv_omega
  have backwards : base + BitVec.ofNat 64 first - (base + BitVec.ofNat 64 second) =
      BitVec.ofNat 64 (2 ^ 64 - (second - first)) := by bv_omega
  rw [Apart, forwards, backwards, BitVec.toNat_ofNat, BitVec.toNat_ofNat,
    Nat.mod_eq_of_lt (by omega), Nat.mod_eq_of_lt (by omega)]
  omega

/-- Parts of ranges that are apart. -/
theorem Apart.within {others first second part other : Nat}
    (apart : Apart address count start others) (fits : first + part ≤ count)
    (alsoFits : second + other ≤ others) (small : count < 2 ^ 64) (alsoSmall : others < 2 ^ 64)
    (positive : 0 < part) (alsoPositive : 0 < other) :
    Apart (address + BitVec.ofNat 64 first) part (start + BitVec.ofNat 64 second) other := by
  unfold Apart at apart ⊢
  constructor <;> bv_omega

theorem Apart.notMem {others : Nat} (apart : Apart address count start others)
    (inside : offset < others) :
    ¬ (start + BitVec.ofNat 64 offset - address).toNat < count := by
  unfold Apart at apart
  bv_omega

/-! ## Bits -/

theorem getLsbD_loadBytes (memory : ByteMemory) (count : Nat) (address : BitVec 64) (bit : Nat) :
    (loadBytes memory count address).getLsbD bit =
      (decide (bit < 8 * count) &&
        (memory (address + BitVec.ofNat 64 (bit / 8))).getLsbD (bit % 8)) := by
  induction count generalizing address bit with
  | zero => simp [loadBytes]
  | succ count inductionHypothesis =>
      rw [loadBytes, BitVec.getLsbD_append, inductionHypothesis]
      by_cases low : bit < 8
      · have first : bit / 8 = 0 := by omega
        have same : bit % 8 = bit := by omega
        have inside : bit < 8 * (count + 1) := by omega
        simp [low, first, same, inside]
      · have next : address + 1 + BitVec.ofNat 64 ((bit - 8) / 8) =
            address + BitVec.ofNat 64 (bit / 8) := by
          have quotient : bit / 8 = (bit - 8) / 8 + 1 := by omega
          rw [quotient]
          bv_omega
        have remainder : (bit - 8) % 8 = bit % 8 := by omega
        have inside : bit - 8 < 8 * count ↔ bit < 8 * (count + 1) := by omega
        rw [if_neg low, next, remainder]
        simp only [inside]

theorem getLsbD_load (whole : width % 8 = 0) (memory : ByteMemory) (address : BitVec 64)
    (bit : Nat) :
    (load width memory address).getLsbD bit =
      (decide (bit < width) &&
        (memory (address + BitVec.ofNat 64 (bit / 8))).getLsbD (bit % 8)) := by
  have inside : 8 * (width / 8) = width := by omega
  rw [load, BitVec.getLsbD_setWidth, getLsbD_loadBytes, inside, ← Bool.and_assoc, Bool.and_self]

/-! ## Loads -/

/-- A load from a memory that is zero. -/
theorem load_zero (whole : width % 8 = 0) (address : BitVec 64) :
    load width (fun _ => 0) address = 0 := by
  apply BitVec.eq_of_getLsbD_eq
  intro bit _
  simp [getLsbD_load whole]

/-- A load depends on the bytes of the word. -/
theorem load_congr (whole : width % 8 = 0)
    (same : ∀ offset < width / 8, other (address + BitVec.ofNat 64 offset) =
      memory (start + BitVec.ofNat 64 offset)) :
    load width other address = load width memory start := by
  apply BitVec.eq_of_getLsbD_eq
  intro bit inside
  rw [getLsbD_load whole, getLsbD_load whole, same (bit / 8) (by omega)]

/-- A shorter word at the same address is the lower part. -/
theorem load_setWidth {narrow : Nat} (whole : width % 8 = 0) (alsoWhole : narrow % 8 = 0)
    (narrower : narrow ≤ width) (memory : ByteMemory) (address : BitVec 64) :
    (load width memory address).setWidth narrow = load narrow memory address := by
  apply BitVec.eq_of_getLsbD_eq
  intro bit inside
  have insideWide : bit < width := by omega
  rw [BitVec.getLsbD_setWidth, getLsbD_load whole, getLsbD_load alsoWhole]
  simp only [inside, insideWide, decide_true, Bool.true_and]

/-- A shorter number that was stored as a longer word. -/
theorem load_of_setWidth {narrow : Nat} (whole : width % 8 = 0) (alsoWhole : narrow % 8 = 0)
    (narrower : narrow ≤ width) {number : BitVec narrow}
    (loaded : load width memory address = number.setWidth width) :
    load narrow memory address = number := by
  rw [← load_setWidth whole alsoWhole narrower, loaded,
    BitVec.setWidth_setWidth_of_le _ narrower, BitVec.setWidth_eq]

/-! ## Stores -/

@[simp] theorem load_store (whole : width % 8 = 0) (fits : width / 8 ≤ 2 ^ 64)
    (memory : ByteMemory) (address : BitVec 64) (word : BitVec width) :
    load width (memory.store address word) address = word := by
  apply BitVec.eq_of_getLsbD_eq
  intro bit inside
  have offset : (address + BitVec.ofNat 64 (bit / 8) - address).toNat = bit / 8 := by bv_omega
  have stored : bit / 8 < width / 8 := by omega
  have together : 8 * (bit / 8) + bit % 8 = bit := by omega
  have inByte : bit % 8 < 8 := Nat.mod_lt bit (by decide)
  rw [getLsbD_load whole, store, offset, if_pos stored, BitVec.getLsbD_extractLsb', together]
  simp [inside, inByte]

theorem store_of_apart (word : BitVec width) {others : Nat}
    (apart : Apart address (width / 8) start others) (inside : offset < others) :
    memory.store address word (start + BitVec.ofNat 64 offset) =
      memory (start + BitVec.ofNat 64 offset) :=
  if_neg (apart.notMem inside)

theorem load_store_of_apart {wide : Nat} (whole : wide % 8 = 0) (word : BitVec width)
    (apart : Apart address (width / 8) start (wide / 8)) :
    load wide (memory.store address word) start = load wide memory start :=
  load_congr whole fun _ inside => store_of_apart word apart inside

theorem load_fill_of_apart {byte : BitVec 8} (whole : width % 8 = 0)
    (apart : Apart dst count start (width / 8)) :
    load width (memory.fill dst count byte) start = load width memory start :=
  load_congr whole fun _ inside => if_neg (apart.notMem inside)

/-! ## Copies -/

/-- A word of the copy is the word of the original. -/
theorem load_copy (whole : width % 8 = 0) (inside : offset + width / 8 ≤ count)
    (fits : count ≤ 2 ^ 64) :
    load width (memory.copy dst src count) (dst + BitVec.ofNat 64 offset) =
      load width memory (src + BitVec.ofNat 64 offset) := by
  refine load_congr whole fun byte below => ?_
  have position : dst + BitVec.ofNat 64 offset + BitVec.ofNat 64 byte - dst =
      BitVec.ofNat 64 offset + BitVec.ofNat 64 byte := by bv_omega
  have copied : (BitVec.ofNat 64 offset + BitVec.ofNat 64 byte).toNat < count := by bv_omega
  rw [copy, position, if_pos copied, add_assoc]

theorem copy_of_apart {others : Nat} (apart : Apart dst count start others)
    (inside : offset < others) :
    memory.copy dst src count (start + BitVec.ofNat 64 offset) =
      memory (start + BitVec.ofNat 64 offset) :=
  if_neg (apart.notMem inside)

theorem load_copy_of_apart (whole : width % 8 = 0) (apart : Apart dst count start (width / 8)) :
    load width (memory.copy dst src count) start = load width memory start :=
  load_congr whole fun _ inside => copy_of_apart apart inside

end

end ByteMemory

end ToyKernel
