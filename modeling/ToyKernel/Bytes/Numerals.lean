import ToyKernel.Bytes.Strings
import ToyKernel.Console.Strings

/-!
# Numerals

`ultoa` writes the canonical numeral of a number.  It stores the digits from the lowest one on
and then reverses them.
-/

namespace ToyKernel
namespace Bytes

open Program (Ensures Keeps)
open Console (digitsOf digitsOf_eq digitsOf_lt digitsOf_length_le digitChar digitChar_ne_zero
  numeral)

variable {before : Memory (BitVec 64) (BitVec 8)}

/-! ## Canonical numerals -/

/-- The value of a digit, given the letter for ten. -/
def charValue (letter : Nat) (chr : BitVec 8) : Nat :=
  if chr.toNat ≤ 0x39 then chr.toNat - 0x30 else chr.toNat - letter + 10

/-- The value of a numeral. -/
def reading (radix letter : Nat) (text : List (BitVec 8)) : Nat :=
  text.foldl (fun value chr => radix * value + charValue letter chr) 0

/-- The numeral for a number: digits and letters below the radix, no zeros in front, and as
many as the number has digits. -/
structure IsNumeral (radix letter value : Nat) (text : List (BitVec 8)) : Prop where
  characters : ∀ chr ∈ text, 0x30 ≤ chr.toNat ∧ chr.toNat ≤ 0x39 ∨
    letter ≤ chr.toNat ∧ chr.toNat < letter + 26
  digits : ∀ chr ∈ text, charValue letter chr < radix
  leading : value ≠ 0 → text.head? ≠ some 0x30
  reading : reading radix letter text = value
  length : text.length = Nat.log radix value + 1

section Canonical

variable {radix letter value digit : Nat} {text : List (BitVec 8)}

theorem digitChar_toNat (small : digit < 36) (isLetter : letter = 0x61 ∨ letter = 0x41) :
    (digitChar letter digit).toNat =
      if digit < 10 then 0x30 + digit else letter + (digit - 10) := by
  rw [digitChar, BitVec.toNat_ofNat]
  split <;> rcases isLetter with rfl | rfl <;> omega

theorem charValue_digitChar (small : digit < 36) (isLetter : letter = 0x61 ∨ letter = 0x41) :
    charValue letter (digitChar letter digit) = digit := by
  rw [charValue, digitChar_toNat small isLetter]
  split <;> rcases isLetter with rfl | rfl <;> split <;> omega

theorem digitsOf_ofDigits (radix value : Nat) :
    Nat.ofDigits radix (digitsOf radix value) = value := by
  rw [digitsOf]
  split
  · rename_i zero
    rw [zero]
    rfl
  · exact Nat.ofDigits_digits radix value

theorem digitsOf_length (large : 2 ≤ radix) :
    (digitsOf radix value).length = Nat.log radix value + 1 := by
  rw [digitsOf]
  split
  · rename_i zero
    rw [zero, Nat.log_zero_right]
    rfl
  · rename_i notZero
    exact Nat.length_digits radix value large notZero

theorem reading_eq (radix letter : Nat) (text : List (BitVec 8)) :
    reading radix letter text = Nat.ofDigits radix (text.map (charValue letter)).reverse := by
  rw [reading, Nat.ofDigits_eq_foldr, List.foldr_reverse, List.foldl_map]
  simp only [Nat.cast_id, Nat.add_comm]

theorem reading_numeral (isLetter : letter = 0x61 ∨ letter = 0x41) (large : 2 ≤ radix)
    (valid : radix ≤ 36) : reading radix letter (numeral radix letter value) = value := by
  have values : (digitsOf radix value).map (charValue letter ∘ digitChar letter) =
      digitsOf radix value := by
    refine (List.map_congr_left fun digit present => ?_).trans (List.map_id _)
    exact charValue_digitChar (lt_of_lt_of_le (digitsOf_lt large present) valid) isLetter
  rw [reading_eq, numeral, List.map_reverse, List.map_reverse, List.reverse_reverse, List.map_map,
    values, digitsOf_ofDigits]

/-- What `kprintf` prints for a number is its numeral. -/
theorem isNumeral_numeral (isLetter : letter = 0x61 ∨ letter = 0x41) (large : 2 ≤ radix)
    (valid : radix ≤ 36) : IsNumeral radix letter value (numeral radix letter value) := by
  have spelled : ∀ chr ∈ numeral radix letter value,
      ∃ digit < radix, chr = digitChar letter digit := by
    intro chr present
    obtain ⟨digit, isDigit, rfl⟩ := List.mem_map.mp present
    exact ⟨digit, digitsOf_lt large (List.mem_reverse.mp isDigit), rfl⟩
  refine ⟨fun chr present => ?_, fun chr present => ?_, fun notZero isZero => ?_,
    reading_numeral isLetter large valid, ?_⟩
  · obtain ⟨digit, small, rfl⟩ := spelled chr present
    rw [digitChar_toNat (lt_of_lt_of_le small valid) isLetter]
    split <;> omega
  · obtain ⟨digit, small, rfl⟩ := spelled chr present
    rwa [charValue_digitChar (lt_of_lt_of_le small valid) isLetter]
  · rw [numeral, digitsOf, if_neg notZero, List.head?_map, List.head?_reverse,
      List.getLast?_eq_some_getLast (Nat.digits_ne_nil_iff_ne_zero.mpr notZero)] at isZero
    have isZeroChar := Option.some.inj isZero
    have small := lt_of_lt_of_le (Nat.digits_lt_base large
      (List.getLast_mem (Nat.digits_ne_nil_iff_ne_zero.mpr notZero))) valid
    refine Nat.getLast_digit_ne_zero radix notZero ?_
    rw [← charValue_digitChar small isLetter, isZeroChar]
    rfl
  · rw [numeral, List.length_map, List.length_reverse, digitsOf_length large]

end Canonical

/-! ## `ultoa` -/

/-- The character that `ultoa` stores for a digit. -/
theorem ultoaRound_char {digit letter : Nat} (small : digit < 36)
    (isLetter : letter = 0x61 ∨ letter = 0x41) :
    (BitVec.ofNat 32 digit + if (BitVec.ofNat 32 digit).slt 10 then 0x30
      else (BitVec.ofNat 8 letter - 10).signExtend 32).setWidth 8 = digitChar letter digit := by
  have all : ∀ digit < 36, ∀ letter ∈ [0x61, 0x41],
      (BitVec.ofNat 32 digit + if (BitVec.ofNat 32 digit).slt 10 then 0x30
        else (BitVec.ofNat 8 letter - 10).signExtend 32).setWidth 8 = digitChar letter digit := by
    decide
  exact all digit small letter (by simpa using isLetter)

/-- After some rounds of `ultoa`, that many digits have been stored, and the others are those of
the value that is left. -/
structure UltoaInvariant (before : Memory (BitVec 64) (BitVec 8)) (radix letter : Nat)
    (total str : BitVec 64) (count : Nat) (value buf : BitVec 64)
    (memory : Memory (BitVec 64) (BitVec 8)) : Prop where
  buf : buf = str + BitVec.ofNat 64 count
  rest : (digitsOf radix total.toNat).drop count = digitsOf radix value.toNat
  stored : ∀ i < count, ∀ digit ∈ (digitsOf radix total.toNat)[i]?,
    byteAt memory str i = digitChar letter digit
  accesses : before.Accesses memory ∅ (region str count)

/-- The radix as the division takes it. -/
theorem signExtend_radix {radix : Nat} (valid : radix ≤ 36) :
    (BitVec.ofNat 32 radix).signExtend 64 = BitVec.ofNat 64 radix := by
  have all : ∀ radix < 37, (BitVec.ofNat 32 radix).signExtend 64 = BitVec.ofNat 64 radix := by
    decide
  exact all radix (Nat.lt_succ_of_le valid)

theorem ultoaRound_keeps {radix letter : Nat} (large : 2 ≤ radix) (valid : radix ≤ 36)
    (isLetter : letter = 0x61 ∨ letter = 0x41) (total str : BitVec 64)
    (long : (digitsOf radix total.toNat).length < 2 ^ 64) :
    Keeps (ultoaRound (BitVec.ofNat 8 letter - 10) (BitVec.ofNat 32 radix))
      (digitsOf radix total.toNat).length
      (fun count state memory =>
        UltoaInvariant before radix letter total str count state.1 state.2 memory)
      (fun buf after => buf = str + BitVec.ofNat 64 (digitsOf radix total.toNat).length ∧
        (∀ i < (digitsOf radix total.toNat).length, ∀ digit ∈ (digitsOf radix total.toNat)[i]?,
          byteAt after str i = digitChar letter digit) ∧
        before.Accesses after ∅ (region str (digitsOf radix total.toNat).length)) := by
  rintro count ⟨value, buf⟩ memory ⟨rfl, rest, stored, accesses⟩
  dsimp only at rest
  have radixNat : (BitVec.ofNat 64 radix).toNat = radix := by
    rw [BitVec.toNat_ofNat]
    omega
  have small : value.toNat % radix < radix := Nat.mod_lt _ (by omega)
  have rem : (value % BitVec.ofNat 64 radix).setWidth 32 =
      BitVec.ofNat 32 (value.toNat % radix) := by
    apply BitVec.eq_of_toNat_eq
    rw [BitVec.toNat_setWidth, BitVec.toNat_umod, radixNat, BitVec.toNat_ofNat]
  have quotient : (value / BitVec.ofNat 64 radix).toNat = value.toNat / radix := by
    rw [BitVec.toNat_udiv, radixNat]
  have ended : value / BitVec.ofNat 64 radix ≠ 0 ↔ ¬ value.toNat / radix = 0 := by
    rw [← quotient, ne_eq, ← BitVec.toNat_inj]
    exact Iff.rfl
  replace rest := rest.trans (digitsOf_eq large)
  have inside : count < (digitsOf radix total.toNat).length := by
    by_contra beyond
    rw [List.drop_eq_nil_of_le (Nat.le_of_not_lt beyond)] at rest
    cases rest
  have here : (digitsOf radix total.toNat)[count]? = some (value.toNat % radix) := by
    rw [← List.head?_drop, rest, List.head?_cons]
  have behind : (digitsOf radix total.toNat).drop (count + 1) =
      if value.toNat / radix = 0 then [] else digitsOf radix (value.toNat / radix) := by
    rw [← List.tail_drop, rest, List.tail_cons]
  have small64 : count < 2 ^ 64 := by omega
  have storedNow : ∀ i < count + 1, ∀ digit ∈ (digitsOf radix total.toNat)[i]?,
      byteAt (memory.store (str + BitVec.ofNat 64 count)
        (digitChar letter (value.toNat % radix))) str i = digitChar letter digit := by
    refine byteAt_store_succ (fun i byte => ∀ digit ∈ (digitsOf radix total.toNat)[i]?,
      byte = digitChar letter digit) small64 stored fun digit isDigit => ?_
    rw [Option.some.inj (here.symm.trans isDigit)]
  have writes : before.Accesses (memory.store (str + BitVec.ofNat 64 count)
      (digitChar letter (value.toNat % radix))) ∅ (region str (count + 1)) := by
    rw [region_succ _ small64]
    exact accesses.store ..
  simp only [ultoaRound, signExtend_radix valid]
  rw [rem, ultoaRound_char (lt_of_lt_of_le small valid) isLetter]
  refine .bind (.store ?_)
  by_cases last : value.toNat / radix = 0
  · rw [if_pos last, List.drop_eq_nil_iff] at behind
    have isEnd : count + 1 = (digitsOf radix total.toNat).length := by omega
    rw [if_neg (mt ended.mp (not_not.mpr last))]
    refine .pure ⟨?_, isEnd ▸ storedNow, isEnd ▸ writes⟩
    rw [add_ofNat_succ, isEnd]
  · rw [if_neg last] at behind
    rw [if_pos (ended.mpr last)]
    refine .pure ⟨inside, add_ofNat_succ str count, ?_, storedNow, writes⟩
    rw [behind, quotient]

/-- The letters and the radix of the loop. -/
theorem ultoa_eq {radix letter : Nat} {radixArg : BitVec 32} (large : 2 ≤ radix)
    (valid : radix ≤ 36)
    (isRadix : radixArg.toInt = radix ∧ letter = 0x61 ∨ radixArg.toInt = -radix ∧ letter = 0x41)
    (value buf : BitVec 64) :
    ultoa value buf radixArg = (do
      let behind ← Program.loop
        (ultoaRound (BitVec.ofNat 8 letter - 10) (BitVec.ofNat 32 radix)) (value, buf)
      Program.store behind 0
      strrev buf) := by
  have inRange : ∀ radix < 37, 2 ≤ radix →
      ¬ ((BitVec.ofNat 32 radix).slt 2 = true ∨ BitVec.slt 36 (BitVec.ofNat 32 radix) = true) := by
    decide
  have known := inRange radix (Nat.lt_succ_of_le valid) large
  have isPositive : BitVec.slt 0 radixArg = true ↔ 0 < radixArg.toInt := BitVec.slt_iff_toInt_lt
  have isArg := (BitVec.ofInt_toInt (x := radixArg)).symm
  rcases isRadix with ⟨isRadix, rfl⟩ | ⟨isRadix, rfl⟩
  · have positive := isPositive.mpr (by omega)
    rw [isRadix, BitVec.ofInt_natCast] at isArg
    simp only [ultoa, if_pos positive]
    rw [isArg, if_neg known]
    rfl
  · have notPositive := mt isPositive.mp (by omega)
    rw [isRadix, BitVec.ofInt_neg, BitVec.ofInt_natCast] at isArg
    simp only [ultoa, if_neg notPositive]
    rw [isArg, BitVec.neg_neg, if_neg known]
    rfl

/-- `ultoa` writes the numeral of a number, in lower case for a positive radix, and nothing
behind it. -/
theorem ultoa_ensures {radix letter : Nat} {radixArg : BitVec 32} (large : 2 ≤ radix)
    (valid : radix ≤ 36)
    (isRadix : radixArg.toInt = radix ∧ letter = 0x61 ∨ radixArg.toInt = -radix ∧ letter = 0x41)
    (value buf : BitVec 64) :
    Ensures (ultoa value buf radixArg) before fun result after =>
      result = buf ∧ HoldsString after buf (numeral radix letter value.toNat) ∧
      before.Accesses after (region buf ((numeral radix letter value.toNat).length + 1))
        (region buf ((numeral radix letter value.toNat).length + 1)) := by
  have isLetter : letter = 0x61 ∨ letter = 0x41 := isRadix.imp And.right And.right
  have sameLength : (numeral radix letter value.toNat).length =
      (digitsOf radix value.toNat).length := by
    rw [numeral, List.length_map, List.length_reverse]
  have short : (digitsOf radix value.toNat).length ≤ 64 := by
    refine digitsOf_length_le large (by decide) (lt_of_lt_of_le value.isLt ?_)
    exact Nat.pow_le_pow_left large 64
  have start : UltoaInvariant before radix letter value buf 0 value buf before :=
    ⟨(add_zero buf).symm, rfl, forall_lt_zero, accesses_start before ∅ buf⟩
  rw [ultoa_eq large valid isRadix, sameLength]
  have long : (digitsOf radix value.toNat).length < 2 ^ 64 := by omega
  refine .bind (((ultoaRound_keeps large valid isLetter value buf long).ensures start).mono ?_)
  rintro behind looped ⟨rfl, stored, accesses⟩
  refine .bind (.store ?_)
  generalize isDigits : digitsOf radix value.toNat = digits at *
  let ended := looped.store (buf + BitVec.ofNat 64 digits.length) 0
  have writes : before.Accesses ended ∅ (region buf (digits.length + 1)) := by
    rw [region_succ _ (by omega)]
    exact accesses.store ..
  have isString : HoldsString ended buf (digits.map (digitChar letter)) := by
    refine .of_byteAt (fun i inside => ?_) (fun chr present => ?_) ?_
    · rw [List.length_map] at inside
      have other : buf + BitVec.ofNat 64 i ≠ buf + BitVec.ofNat 64 digits.length := by bv_omega
      rw [List.getElem_map, ← stored i inside _ (List.getElem?_eq_getElem inside)]
      exact Function.update_of_ne other ..
    · obtain ⟨digit, isDigit, rfl⟩ := List.mem_map.mp present
      have small := digitsOf_lt large (isDigits ▸ isDigit)
      exact digitChar_ne_zero (lt_of_lt_of_le small valid) isLetter
    · rw [List.length_map]
      exact Function.update_self ..
  refine (strrev_ensures isString).mono ?_
  rintro result after ⟨isResult, isReverse, reverses⟩
  rw [List.length_map] at reverses
  refine ⟨isResult, ?_, (writes.trans reverses).weaken ?_ ?_⟩
  · rw [numeral, isDigits, List.map_reverse]
    exact isReverse
  · rw [Set.empty_union]
  · refine Set.union_eq_left.mpr fun address present => ?_
    exact region_mono (Nat.le_succ _) (bothEnds_subset buf (Nat.div_le_self ..) present)

/-- `kprintf`, whose buffer is modelled on its own, puts the same string. -/
theorem ultoa_console {radix letter rounds : Nat} {radixArg : BitVec 32} (large : 2 ≤ radix)
    (valid : radix ≤ 36)
    (isRadix : radixArg.toInt = radix ∧ letter = 0x61 ∨ radixArg.toInt = -radix ∧ letter = 0x41)
    (value buf : BitVec 64) (buffer : Console.Buffer)
    (enough : (numeral radix letter value.toNat).length < rounds) :
    ∃ after text, Console.ultoa rounds value buffer radixArg.toInt = some after ∧
      IsString after.bytes 0 text ∧
      Ensures (ultoa value buf radixArg) before fun _ memory => HoldsString memory buf text := by
  obtain ⟨after, returns, isString, -⟩ := Console.ultoa_eq large valid isRadix enough
  refine ⟨after, _, returns, isString, (ultoa_ensures large valid isRadix value buf).mono ?_⟩
  exact fun _ _ holds => holds.2.1

/-- `ultoa` writes the canonical numeral for a number, which takes a byte for each digit and
one more, and `strrev` is an involution. -/
theorem ultoa_canonical (memory : Memory (BitVec 64) (BitVec 8)) (value buf : BitVec 64)
    (radix : BitVec 32) (large : 2 ≤ radix.toInt.natAbs) (valid : radix.toInt.natAbs ≤ 36) :
    (∃ text,
      IsNumeral radix.toInt.natAbs (if 0 < radix.toInt then 0x61 else 0x41) value.toNat text ∧
      Ensures (ultoa value buf radix) memory fun result after =>
        result = buf ∧ HoldsString after buf text ∧
        memory.Accesses after (region buf (text.length + 1)) (region buf (text.length + 1))) ∧
    ∀ str text, HoldsString memory str text →
      Ensures (do let _ ← strrev str; strrev str) memory fun result after =>
        result = str ∧ after.cells = memory.cells := by
  refine ⟨?_, fun str text isString => strrev_strrev isString⟩
  have isRadix : radix.toInt = radix.toInt.natAbs ∧
      (if 0 < radix.toInt then 0x61 else 0x41) = 0x61 ∨
      radix.toInt = -radix.toInt.natAbs ∧ (if 0 < radix.toInt then 0x61 else 0x41) = 0x41 := by
    by_cases positive : 0 < radix.toInt
    · exact .inl ⟨by omega, if_pos positive⟩
    · exact .inr ⟨by omega, if_neg positive⟩
  have isLetter := isRadix.imp And.right And.right
  exact ⟨_, isNumeral_numeral isLetter large valid, ultoa_ensures large valid isRadix value buf⟩

/-- The numeral of 255 for the radix -16. -/
theorem ultoa_canonical_upper :
    (∃ text, IsNumeral 16 0x41 255 text ∧
      Ensures (ultoa 255 0x1000 (-16)) ⟨fun _ => 0, [], []⟩ fun result after =>
        result = 0x1000 ∧ HoldsString after 0x1000 text ∧
        Memory.Accesses ⟨fun _ => 0, [], []⟩ after (region 0x1000 (text.length + 1))
          (region 0x1000 (text.length + 1))) ∧
    ∀ str text, HoldsString ⟨fun _ => 0, [], []⟩ str text →
      Ensures (do let _ ← strrev str; strrev str) ⟨fun _ => 0, [], []⟩ fun result after =>
        result = str ∧ after.cells = fun _ => 0 :=
  ultoa_canonical ⟨fun _ => 0, [], []⟩ 255 0x1000 (-16) (by decide) (by decide)

end Bytes
end ToyKernel
