import ToyKernel.Library.Terminated
import Mathlib.Data.BitVec
import Mathlib.Data.Nat.Digits.Lemmas
import Mathlib.Logic.Function.Basic

/-!
# Numerals

`ultoa` of `common.c` with `strlen` and `strrev`, on the local array that `kprintf` passes.
The loops come with an upper bound for their rounds.  `kprintf` needs the array and how far it is
written, not the rest of the memory; `Bytes` has the functions on the whole memory, and
`Bytes.ultoa_console` says that both put the same string.
-/

namespace ToyKernel
namespace Console

/-- A local array of characters with the memory behind it.  The extent is a history: all
bytes that have been stored are below it. -/
structure Buffer where
  bytes : Nat → BitVec 8
  extent : Nat

/-- Store one byte. -/
def Buffer.store (buffer : Buffer) (offset : Nat) (byte : BitVec 8) : Buffer where
  bytes := Function.update buffer.bytes offset byte
  extent := max buffer.extent (offset + 1)

/-- The loop of `strlen`. -/
def strlenLoop (bytes : Nat → BitVec 8) : Nat → Nat → Option Nat
  | 0, _ => none
  | rounds + 1, chr => if bytes chr ≠ 0 then strlenLoop bytes rounds (chr + 1) else some chr

/-- `strlen`. -/
def strlen (rounds : Nat) (bytes : Nat → BitVec 8) : Option Nat :=
  strlenLoop bytes rounds 0

/-- The body of the loop of `strrev`. -/
def swap (len : Nat) (buffer : Buffer) (i : Nat) : Buffer :=
  let j := len - i - 1
  (buffer.store i (buffer.bytes j)).store j (buffer.bytes i)

/-- `strrev`. -/
def strrev (rounds : Nat) (buffer : Buffer) : Option Buffer := do
  let len ← strlen rounds buffer.bytes
  some ((List.range (len / 2)).foldl (swap len) buffer)

/-- The loop of `ultoa`, from where it stores a digit; the number is where it has ended. -/
def ultoaLoop (radix : BitVec 64) (lbase : BitVec 8) :
    Nat → BitVec 64 → Nat → Buffer → Option (Buffer × Nat)
  | 0, _, _, _ => none
  | rounds + 1, value, offset, buffer =>
      let rem := value % radix
      let buffer := buffer.store offset (rem.setWidth 8 + if rem < 10 then 0x30 else lbase)
      let value := value / radix
      if value ≠ 0 then ultoaLoop radix lbase rounds value (offset + 1) buffer
      else some (buffer, offset + 1)

/-- `ultoa`. -/
def ultoa (rounds : Nat) (value : BitVec 64) (buffer : Buffer) (radix : Int) : Option Buffer :=
  let lbase : BitVec 8 := if 0 < radix then 0x61 else 0x41
  let radix := if 0 < radix then radix else -radix
  if radix < 2 ∨ 36 < radix then
    some (buffer.store 0 0)
  else do
    let lbase := lbase - 10
    let (buffer, offset) ← ultoaLoop (BitVec.ofInt 64 radix) lbase rounds value 0 buffer
    strrev rounds (buffer.store offset 0)

/-! ## Numerals -/

/-- The digits of a number, the lowest one first; zero has one digit. -/
def digitsOf (radix value : Nat) : List Nat :=
  if value = 0 then [0] else Nat.digits radix value

/-- The character for a digit; the letter stands for ten. -/
def digitChar (letter : Nat) (digit : Nat) : BitVec 8 :=
  BitVec.ofNat 8 (if digit < 10 then 0x30 + digit else letter + (digit - 10))

/-- The canonical numeral for a number, without leading zeros. -/
def numeral (radix letter value : Nat) : List (BitVec 8) :=
  (digitsOf radix value).reverse.map (digitChar letter)

section Digits

variable {radix value digit letter : Nat}

/-- The division by the radix takes the lowest digit off. -/
theorem digitsOf_eq (large : 2 ≤ radix) :
    digitsOf radix value =
      value % radix :: if value / radix = 0 then [] else digitsOf radix (value / radix) := by
  by_cases zero : value = 0
  · simp [digitsOf, zero]
  · have isDigits : digitsOf radix value = Nat.digits radix value := if_neg zero
    rw [isDigits, Nat.digits_def' large (Nat.pos_of_ne_zero zero)]
    congr 1
    split
    · rename_i ended
      rw [ended, Nat.digits_zero]
    · rename_i more
      exact (if_neg more).symm

theorem digitsOf_lt (large : 2 ≤ radix) (present : digit ∈ digitsOf radix value) :
    digit < radix := by
  rw [digitsOf] at present
  split at present
  · rw [List.mem_singleton.mp present]
    omega
  · exact Nat.digits_lt_base large present

/-- A number below a power of the radix has no more digits than the power. -/
theorem digitsOf_length_le {count : Nat} (large : 2 ≤ radix) (positive : 0 < count)
    (small : value < radix ^ count) : (digitsOf radix value).length ≤ count := by
  rw [digitsOf]
  split
  · exact positive
  · exact (Nat.digits_length_le_iff large value).mpr small

/-- No digit is the terminator. -/
theorem digitChar_ne_zero (small : digit < 36) (isLetter : letter = 0x61 ∨ letter = 0x41) :
    digitChar letter digit ≠ 0 := by
  intro zero
  have sum := congrArg BitVec.toNat zero
  rw [digitChar, BitVec.toNat_ofNat] at sum
  have zeroNat : (0 : BitVec 8).toNat = 0 := rfl
  split at sum <;> rcases isLetter with rfl | rfl <;> omega

end Digits

/-! ## Correctness -/

section Loops

variable {bytes : Nat → BitVec 8} {buffer : Buffer} {text : List (BitVec 8)}
  {rounds offset len count radix letter : Nat} {value : BitVec 64}

theorem strlenLoop_eq (isString : IsString bytes offset text) (enough : text.length < rounds) :
    strlenLoop bytes rounds offset = some (offset + text.length) := by
  induction text generalizing rounds offset with
  | nil =>
      obtain ⟨rounds, rfl⟩ := Nat.exists_eq_add_one.mpr enough
      have ended : bytes offset = 0 := isString
      rw [strlenLoop, if_neg (not_not.mpr ended)]
      rfl
  | cons cell text inductionHypothesis =>
      obtain ⟨rounds, rfl⟩ := Nat.exists_eq_add_one.mpr (Nat.zero_lt_of_lt enough)
      have notEnd : bytes offset ≠ 0 := isString.1 ▸ isString.2.1
      rw [strlenLoop, if_pos notEnd,
        inductionHypothesis isString.2.2 (Nat.lt_of_succ_lt_succ enough), List.length_cons,
        Nat.add_assoc, Nat.add_comm 1]

/-- Each round swaps two characters that are equally far from the ends. -/
theorem foldl_swap (half : 2 * count ≤ len) :
    ((List.range count).foldl (swap len) buffer).extent ≤ max buffer.extent len ∧
      ∀ k, ((List.range count).foldl (swap len) buffer).bytes k =
        if k < count ∨ len - count ≤ k ∧ k < len then buffer.bytes (len - 1 - k)
        else buffer.bytes k := by
  induction count with
  | zero =>
      refine ⟨Nat.le_max_left .., fun k => ?_⟩
      rw [if_neg (by omega)]
      rfl
  | succ count inductionHypothesis =>
      obtain ⟨extent, swapped⟩ := inductionHypothesis (by omega)
      rw [List.range_succ, List.foldl_append, List.foldl_cons, List.foldl_nil]
      refine ⟨?_, fun k => ?_⟩
      · simp only [swap, Buffer.store]
        omega
      · simp only [swap, Buffer.store, Function.update_apply, swapped]
        by_cases isLast : k = len - count - 1
        · rw [if_pos isLast, if_neg (by omega), if_pos (by omega)]
          congr 1
          omega
        · rw [if_neg isLast]
          by_cases isFirst : k = count
          · rw [if_pos isFirst, if_neg (by omega), if_pos (by omega)]
            congr 1
            omega
          · rw [if_neg isFirst]
            refine if_congr ?_ rfl rfl
            omega

/-- `strrev` reverses a string in its place. -/
theorem strrev_eq (isString : IsString buffer.bytes 0 text) (enough : text.length < rounds) :
    ∃ after, strrev rounds buffer = some after ∧ IsString after.bytes 0 text.reverse ∧
      after.extent ≤ max buffer.extent text.length := by
  have length : strlen rounds buffer.bytes = some text.length := by
    rw [strlen, strlenLoop_eq isString enough, Nat.zero_add]
  obtain ⟨extent, swapped⟩ : _ ∧ ∀ k, ((List.range (text.length / 2)).foldl (swap text.length)
      buffer).bytes k = _ := foldl_swap (Nat.mul_div_le text.length 2)
  have original : ∀ i (inside : i < text.length), buffer.bytes i = text[i] := by
    intro i inside
    rw [← isString.getElem inside, Nat.zero_add]
  refine ⟨_, by rw [strrev, length]; rfl, .of_getElem (fun i inside => ?_) ?_ ?_, extent⟩
  · rw [List.length_reverse] at inside
    rw [Nat.zero_add, swapped, List.getElem_reverse, ← original]
    split
    · rfl
    · -- the middle stays where it is
      congr 1
      omega
  · exact fun cell present => isString.ne_zero cell (List.mem_reverse.mp present)
  · rw [Nat.zero_add, List.length_reverse, swapped, if_neg (by omega)]
    have ends := isString.ends
    rwa [Nat.zero_add] at ends

/-- The character that `ultoa` stores for a digit. -/
theorem ultoa_digit (small : value < 36) (isLetter : letter = 0x61 ∨ letter = 0x41) :
    value.setWidth 8 + (if value < 10 then 0x30 else BitVec.ofNat 8 letter - 10) =
      digitChar letter value.toNat := by
  have bound : value.toNat < 36 := BitVec.lt_def.mp small
  apply BitVec.eq_of_toNat_eq
  rw [digitChar]
  by_cases decimal : value < 10
  · have below : value.toNat < 10 := BitVec.lt_def.mp decimal
    rw [if_pos decimal, if_pos below, BitVec.toNat_add, BitVec.toNat_setWidth, BitVec.toNat_ofNat]
    simp
    omega
  · have above : ¬ value.toNat < 10 := fun below => decimal (BitVec.lt_def.mpr below)
    rw [if_neg decimal, if_neg above, BitVec.toNat_add, BitVec.toNat_setWidth, BitVec.toNat_ofNat]
    rcases isLetter with rfl | rfl <;> simp <;> omega

/-- The loop of `ultoa` stores the digits, the lowest one first. -/
theorem ultoaLoop_eq (buffer : Buffer) (offset : Nat) (large : 2 ≤ radix) (valid : radix ≤ 36)
    (isLetter : letter = 0x61 ∨ letter = 0x41)
    (enough : (digitsOf radix value.toNat).length ≤ rounds) :
    ∃ after, ultoaLoop (BitVec.ofNat 64 radix) (BitVec.ofNat 8 letter - 10) rounds value offset
        buffer = some (after, offset + (digitsOf radix value.toNat).length) ∧
      (∀ i < offset, after.bytes i = buffer.bytes i) ∧
      (∀ i digit, (digitsOf radix value.toNat)[i]? = some digit →
        after.bytes (offset + i) = digitChar letter digit) ∧
      after.extent ≤ max buffer.extent (offset + (digitsOf radix value.toNat).length) := by
  induction rounds generalizing value offset buffer with
  | zero =>
      rw [digitsOf_eq large] at enough
      exact absurd enough (by simp)
  | succ rounds inductionHypothesis =>
      have radixNat : (BitVec.ofNat 64 radix).toNat = radix := by
        rw [BitVec.toNat_ofNat]
        omega
      have rem : (value % BitVec.ofNat 64 radix).toNat = value.toNat % radix := by
        rw [BitVec.toNat_umod, radixNat]
      have quotient : (value / BitVec.ofNat 64 radix).toNat = value.toNat / radix := by
        rw [BitVec.toNat_udiv, radixNat]
      have small : value % BitVec.ofNat 64 radix < 36 := by
        rw [BitVec.lt_def, rem]
        exact lt_of_lt_of_le (Nat.mod_lt _ (by omega)) valid
      have ended : value / BitVec.ofNat 64 radix ≠ 0 ↔ ¬ value.toNat / radix = 0 := by
        rw [← quotient, ne_eq, ← BitVec.toNat_inj]
        exact Iff.rfl
      simp only [ultoaLoop]
      rw [ultoa_digit small isLetter, rem, digitsOf_eq large]
      rw [digitsOf_eq large, List.length_cons] at enough
      by_cases last : value.toNat / radix = 0
      · rw [if_neg (not_not.mpr (not_not.mp (mt ended.mp (not_not.mpr last)))), if_pos last]
        refine ⟨_, rfl, fun i below => Function.update_of_ne (by omega) .., ?_, le_refl _⟩
        intro i digit found
        obtain ⟨rfl, rfl⟩ : i = 0 ∧ value.toNat % radix = digit := by
          cases i with
          | zero => exact ⟨rfl, Option.some.inj found⟩
          | succ i => simp at found
        exact Function.update_self ..
      · rw [if_neg last, ← quotient] at enough
        let stored := buffer.store offset (digitChar letter (value.toNat % radix))
        obtain ⟨after, done, before, digits, extent⟩ :=
          inductionHypothesis stored (offset + 1) (Nat.le_of_succ_le_succ enough)
        rw [if_pos (ended.mpr last), if_neg last, ← quotient, List.length_cons]
        refine ⟨after, ?_, fun i below => ?_, fun i digit found => ?_, ?_⟩
        · rw [done, Nat.add_assoc, Nat.add_comm 1]
        · exact (before i (Nat.lt_succ_of_lt below)).trans (Function.update_of_ne (by omega) ..)
        · cases i with
          | zero =>
              obtain rfl := Option.some.inj found
              exact (before offset (Nat.lt_succ_self offset)).trans (Function.update_self ..)
          | succ i =>
              rw [← Nat.add_assoc, Nat.add_right_comm]
              exact digits i digit found
        · have first : stored.extent = max buffer.extent (offset + 1) := rfl
          omega

/-- `ultoa` stores the canonical numeral of a number. -/
theorem ultoa_eq {radixArg : Int} (large : 2 ≤ radix) (valid : radix ≤ 36)
    (isRadix : radixArg = radix ∧ letter = 0x61 ∨ radixArg = -radix ∧ letter = 0x41)
    (enough : (numeral radix letter value.toNat).length < rounds) :
    ∃ after, ultoa rounds value buffer radixArg = some after ∧
      IsString after.bytes 0 (numeral radix letter value.toNat) ∧
      after.extent ≤ max buffer.extent ((numeral radix letter value.toNat).length + 1) := by
  have isLetter : letter = 0x61 ∨ letter = 0x41 := isRadix.imp And.right And.right
  have sameLetter : (if 0 < radixArg then 0x61 else 0x41 : BitVec 8) = BitVec.ofNat 8 letter := by
    rcases isRadix with ⟨rfl, rfl⟩ | ⟨rfl, rfl⟩
    · exact if_pos (by omega)
    · exact if_neg (by omega)
  have sameRadix : (if 0 < radixArg then radixArg else -radixArg) = (radix : Int) := by
    rcases isRadix with ⟨rfl, -⟩ | ⟨rfl, -⟩
    · exact if_pos (by omega)
    · rw [if_neg (by omega), Int.neg_neg]
  have length : (numeral radix letter value.toNat).length =
      (digitsOf radix value.toNat).length := by
    rw [numeral, List.length_map, List.length_reverse]
  rw [length] at enough ⊢
  obtain ⟨looped, done, -, digits, extent⟩ := ultoaLoop_eq buffer 0 large
    valid isLetter (le_of_lt enough)
  rw [Nat.zero_add] at done extent
  let ended := looped.store (digitsOf radix value.toNat).length 0
  have isString : IsString ended.bytes 0 ((digitsOf radix value.toNat).map (digitChar letter)) := by
    refine .of_getElem (fun i inside => ?_) ?_ ?_
    · rw [List.length_map] at inside
      have stored := digits i _ (List.getElem?_eq_getElem inside)
      rw [List.getElem_map, ← stored]
      exact Function.update_of_ne (by omega) ..
    · intro cell present
      obtain ⟨digit, isDigit, rfl⟩ := List.mem_map.mp present
      exact digitChar_ne_zero (lt_of_lt_of_le (digitsOf_lt large isDigit) valid) isLetter
    · rw [Nat.zero_add, List.length_map]
      exact Function.update_self ..
  obtain ⟨after, reversed, isNumeral, extentAfter⟩ :=
    strrev_eq isString (by rwa [List.length_map])
  refine ⟨after, ?_, ?_, ?_⟩
  · simp only [ultoa, sameLetter, sameRadix]
    rw [if_neg (by omega), BitVec.ofInt_natCast]
    simp only [Option.bind_eq_bind]
    rw [done]
    exact reversed
  · rw [numeral, List.map_reverse]
    exact isNumeral
  · rw [List.length_map] at extentAfter
    have endExtent : ended.extent = max looped.extent ((digitsOf radix value.toNat).length + 1) :=
      rfl
    omega

end Loops

end Console
end ToyKernel
