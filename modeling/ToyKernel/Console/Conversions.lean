import ToyKernel.Console.Kprintf

/-!
# Conversions

What each conversion of `kprintf` passes to `put_char`, and how far it gets in the format
and in the arguments.
-/

namespace ToyKernel
namespace Console
namespace Kprintf

variable {call : Call} {state middle next : Kprintf} {text more : List (BitVec 8)}
  {chr : BitVec 8} {bytes slots others : Nat}

theorem putChars_append (console : State) (text more : List (BitVec 8)) :
    putChars console (text ++ more) = putChars (putChars console text) more :=
  List.foldl_append

/-- From one state to the next that is at the head of the loop, so many bytes of the format
are read, so many slots are taken and this text is put. -/
structure Emits (state next : Kprintf) (bytes slots : Nat) (text : List (BitVec 8)) : Prop where
  point : next.point = .format
  format : next.format = state.format + bytes
  vargs : next.vargs = state.vargs + slots
  num : next.num = state.num + BitVec.ofNat 32 text.length
  console : next.console = putChars state.console text
  passed : next.passed = state.passed ++ text
  extent : next.buf.extent ≤ max state.buf.extent 20

theorem Emits.nothing (atFormat : state.point = .format) : Emits state state 0 0 [] where
  point := atFormat
  format := rfl
  vargs := rfl
  num := (BitVec.add_zero state.num).symm
  console := rfl
  passed := (List.append_nil _).symm
  extent := Nat.le_max_left ..

theorem Emits.trans (first : Emits state middle bytes slots text) {moreBytes moreSlots : Nat}
    (second : Emits middle next moreBytes moreSlots more) :
    Emits state next (bytes + moreBytes) (slots + moreSlots) (text ++ more) where
  point := second.point
  format := by rw [second.format, first.format, Nat.add_assoc]
  vargs := by rw [second.vargs, first.vargs, Nat.add_assoc]
  num := by
    rw [second.num, first.num, List.length_append, BitVec.ofNat_add, BitVec.add_assoc]
  console := by rw [second.console, first.console, putChars_append]
  passed := by rw [second.passed, first.passed, List.append_assoc]
  extent := by
    have before := first.extent
    have after := second.extent
    omega

/-- Only what is emitted matters of the state before. -/
theorem Emits.of_eq {other : Kprintf} (emits : Emits state next bytes slots text)
    (format : other.format + others = state.format) (vargs : other.vargs = state.vargs)
    (num : other.num = state.num) (console : other.console = state.console)
    (passed : other.passed = state.passed) (buf : other.buf = state.buf) :
    Emits other next (others + bytes) slots text where
  point := emits.point
  format := by rw [emits.format, ← format, Nat.add_assoc]
  vargs := by rw [emits.vargs, vargs]
  num := by rw [emits.num, num]
  console := by rw [emits.console, console]
  passed := by rw [emits.passed, passed]
  extent := by
    rw [buf]
    exact emits.extent

/-! ## `puts` -/

/-- The loop of `puts` puts a string. -/
theorem run_puts {source : Source} {offset : Nat} (atPuts : state.point = .puts source offset)
    (isString : IsString (state.load call source) offset text) :
    ∃ next, Runs call state next ∧ Emits state next 0 0 text := by
  induction text generalizing state offset with
  | nil =>
      have ended : state.load call source offset = 0 := isString
      have stepped : step call state = some { state with point := .format } := by
        simp only [step, atPuts]
        rw [if_neg (not_not.mpr ended)]
      exact ⟨_, .single stepped, rfl, rfl, rfl, (BitVec.add_zero _).symm, rfl,
        (List.append_nil _).symm, Nat.le_max_left ..⟩
  | cons chr text inductionHypothesis =>
      obtain ⟨isChr, notZero, isRest⟩ := isString
      let moved := { state.put chr with point := .puts source (offset + 1) }
      have stepped : step call state = some moved := by
        simp only [step, atPuts, isChr]
        exact if_pos notZero
      have sameLoad : moved.load call source = state.load call source := by
        cases source <;> rfl
      obtain ⟨next, runs, emits⟩ :=
        @inductionHypothesis moved (offset + 1) rfl (sameLoad ▸ isRest)
      refine ⟨next, .head stepped runs, emits.point, emits.format, emits.vargs, ?_,
        emits.console, ?_, emits.extent⟩
      · rw [emits.num, List.length_cons, Nat.add_comm text.length, BitVec.ofNat_add,
          ← BitVec.add_assoc]
        rfl
      · rw [emits.passed]
        exact (List.append_cons ..).symm

/-! ## Types -/

/-- The value of an argument of `d`. -/
def signedArg (long : Bool) (slot : BitVec 64) : Int :=
  if long then slot.toInt else (slot.setWidth 32).toInt

/-- The value of an argument of `x` or `X`. -/
def unsignedArg (long : Bool) (slot : BitVec 64) : Nat :=
  if long then slot.toNat else (slot.setWidth 32).toNat

/-- The canonical decimal numeral for a number with a sign. -/
def signedNumeral (value : Int) : List (BitVec 8) :=
  (if value < 0 then [0x2D] else []) ++ numeral 10 0x61 value.natAbs

/-- A step at `next_attr_type`. -/
theorem step_nextAttrType (atType : state.point = .nextAttrType)
    (isChr : call.formatByte state.format = chr) :
    step call state = switch call { state with format := state.format + 1 } chr := by
  simp only [step, atType, isChr]

/-- The modifiers before the type. -/
theorem run_modifiers {longs : Nat} (atType : state.point = .nextAttrType)
    (isString : IsString call.formatByte state.format (List.replicate longs 0x6C ++ text)) :
    Runs call state { state with
      format := state.format + longs
      sizeLong := state.sizeLong || decide (0 < longs) } := by
  induction longs generalizing state with
  | zero =>
      rw [show (decide (0 < 0)) = false from rfl, Bool.or_false]
      exact .refl
  | succ longs inductionHypothesis =>
      obtain ⟨isModifier, -, isRest⟩ := isString
      let moved := { state with format := state.format + 1, sizeLong := true }
      have stepped : step call state = some moved := step_nextAttrType atType isModifier
      have runs := @inductionHypothesis moved atType isRest
      have same : moved.format + longs = state.format + (longs + 1) := by
        rw [Nat.add_comm longs, ← Nat.add_assoc]
      rw [same, Bool.true_or] at runs
      rw [show decide (0 < longs + 1) = true from decide_eq_true (Nat.succ_pos longs),
        Bool.or_true]
      exact .head stepped runs

/-- `%%`. -/
theorem run_percent (atType : state.point = .nextAttrType)
    (isChr : call.formatByte state.format = 0x25) :
    ∃ next, Runs call state next ∧ Emits state next 1 0 [0x25] :=
  ⟨_, .single (step_nextAttrType atType isChr), rfl, rfl, rfl, rfl, rfl, rfl,
    Nat.le_max_left ..⟩

/-- A type whose argument `puts` puts. -/
theorem run_type {called : Kprintf} {source : Source}
    (stepped : step call state = some called) (atPuts : called.point = .puts source 0)
    (isString : IsString (called.load call source) 0 text)
    (emitted : ∀ {next}, Emits called next 0 0 text → Emits state next bytes slots more) :
    ∃ next, Runs call state next ∧ Emits state next bytes slots more := by
  obtain ⟨next, runs, emits⟩ := run_puts atPuts isString
  exact ⟨next, .head stepped runs, emitted emits⟩

/-- `%s`. -/
theorem run_string (atType : state.point = .nextAttrType)
    (isChr : call.formatByte state.format = 0x73)
    (isString : IsString (call.byteAt (call.vargs state.vargs)) 0 text) :
    ∃ next, Runs call state next ∧ Emits state next 1 1 text := by
  let called := { state with
    format := state.format + 1
    vargs := state.vargs + 1
    point := .puts (.memory (call.vargs state.vargs)) 0 }
  have stepped : step call state = some called := step_nextAttrType atType isChr
  exact run_type stepped rfl isString fun emits => ⟨emits.point, emits.format, emits.vargs,
    emits.num, emits.console, emits.passed, emits.extent⟩

/-- `%c`. -/
theorem run_character (atType : state.point = .nextAttrType)
    (isChr : call.formatByte state.format = 0x63)
    (isText : text = if (call.vargs state.vargs).setWidth 8 = (0 : BitVec 8) then []
      else [(call.vargs state.vargs).setWidth 8]) :
    ∃ next, Runs call state next ∧ Emits state next 1 1 text := by
  let stored := (state.buf.store 0 ((call.vargs state.vargs).setWidth 8)).store 1 0
  let called := { state with
    format := state.format + 1
    vargs := state.vargs + 1
    buf := stored
    point := .puts .buf 0 }
  have stepped : step call state = some called := step_nextAttrType atType isChr
  have isString : IsString stored.bytes 0 text := by
    rw [isText]
    split
    · rename_i zero
      exact zero
    · rename_i notZero
      exact ⟨rfl, notZero, rfl⟩
  refine run_type stepped rfl isString fun emits => ⟨emits.point, emits.format, emits.vargs,
    emits.num, emits.console, emits.passed, emits.extent.trans ?_⟩
  have extent : called.buf.extent = max (max state.buf.extent 1) 2 := rfl
  omega

/-- A type that `kprintf` does not know. -/
theorem run_unknown (atType : state.point = .nextAttrType)
    (isChr : call.formatByte state.format = chr)
    (unknown : chr ∉ [0x6C, 0x25, 0x73, 0x64, 0x78, 0x58, 0x63]) :
    ∃ next, Runs call state next ∧ Emits state next 1 0 [] := by
  let left := { state with format := state.format + 1, point := .format }
  have stepped : step call state = some left := by
    simp only [List.mem_cons, List.not_mem_nil, or_false, not_or] at unknown
    obtain ⟨notModifier, notPercent, notString, notDecimal, notHex, notUpper, notChr⟩ := unknown
    rw [step_nextAttrType atType isChr, switch, if_neg notModifier, if_neg notPercent,
      if_neg notString, if_neg notDecimal, if_neg (not_or.mpr ⟨notHex, notUpper⟩), if_neg notChr]
  exact ⟨left, .single stepped, rfl, rfl, rfl, (BitVec.add_zero _).symm, rfl,
    (List.append_nil _).symm, Nat.le_max_left ..⟩

/-! ## Numbers -/

/-- The values of the arguments fit into `buf`. -/
theorem numeral_length {radix value count : Nat} {letter : Nat} (large : 2 ≤ radix)
    (positive : 0 < count) (small : value < radix ^ count) :
    (numeral radix letter value).length ≤ count := by
  rw [numeral, List.length_map, List.length_reverse]
  exact digitsOf_length_le large positive small

theorem unsignedArg_lt (long : Bool) (slot : BitVec 64) : unsignedArg long slot < 16 ^ 16 := by
  have wide : slot.toNat < 2 ^ 64 := slot.isLt
  have narrow : (slot.setWidth 32).toNat < 2 ^ 32 := (slot.setWidth 32).isLt
  rw [unsignedArg]
  split <;> omega

theorem signedArg_natAbs (long : Bool) (slot : BitVec 64) :
    (signedArg long slot).natAbs ≤ 2 ^ 63 := by
  have wide := slot.isLt
  have narrow := (slot.setWidth 32).isLt
  rw [signedArg]
  split
  · rw [BitVec.toInt_eq_toNat_cond]
    split <;> omega
  · rw [BitVec.toInt_eq_toNat_cond]
    split <;> omega

/-- `%x` and `%X`. -/
theorem run_hexadecimal {letter : Nat} (atType : state.point = .nextAttrType)
    (isChr : call.formatByte state.format = chr)
    (isType : chr = 0x78 ∧ letter = 0x61 ∨ chr = 0x58 ∧ letter = 0x41) :
    ∃ next, Runs call state next ∧ Emits state next 1 1
      (numeral 16 letter (unsignedArg state.sizeLong (call.vargs state.vargs))) := by
  let lint : BitVec 64 := if state.sizeLong then call.vargs state.vargs
    else ((call.vargs state.vargs).setWidth 32).setWidth 64
  have value : lint.toNat = unsignedArg state.sizeLong (call.vargs state.vargs) := by
    simp only [lint, unsignedArg]
    split
    · rfl
    · exact BitVec.toNat_setWidth_of_le (by decide)
  have length : (numeral 16 letter lint.toNat).length ≤ 16 := by
    rw [value]
    exact numeral_length (by decide) (by decide) (unsignedArg_lt ..)
  have isRadix : (if chr = 0x78 then 16 else -16 : Int) = (16 : Nat) ∧ letter = 0x61 ∨
      (if chr = 0x78 then 16 else -16 : Int) = -(16 : Nat) ∧ letter = 0x41 := by
    rcases isType with ⟨rfl, isLetter⟩ | ⟨rfl, isLetter⟩
    · exact .inl ⟨rfl, isLetter⟩
    · exact .inr ⟨rfl, isLetter⟩
  obtain ⟨after, converted, isNumeral, extent⟩ : ∃ after,
      ultoa ultoaRounds lint state.buf (if chr = 0x78 then 16 else -16) = some after ∧
        IsString after.bytes 0 (numeral 16 letter lint.toNat) ∧
        after.extent ≤ max state.buf.extent ((numeral 16 letter lint.toNat).length + 1) :=
    ultoa_eq (by decide) (by decide) isRadix (by rw [ultoaRounds]; omega)
  let called := { state with
    format := state.format + 1
    vargs := state.vargs + 1
    buf := after
    point := .puts .buf 0 }
  have stepped : step call state = some called := by
    rw [step_nextAttrType atType isChr]
    have switched : switch call { state with format := state.format + 1 } chr =
        hexadecimal call { state with format := state.format + 1 }
          (if chr = 0x78 then 16 else -16) := by
      rcases isType with ⟨rfl, -⟩ | ⟨rfl, -⟩ <;> rfl
    rw [switched]
    simp only [hexadecimal, Option.bind_eq_bind]
    exact congrArg (Option.bind · _) converted
  rw [← value]
  refine run_type stepped rfl isNumeral fun emits => ⟨emits.point, emits.format, emits.vargs,
    emits.num, emits.console, emits.passed, emits.extent.trans ?_⟩
  have sameExtent : called.buf.extent = after.extent := rfl
  omega

/-- What `ultoa` gets for a number with a sign. -/
theorem magnitude_toNat (lint : BitVec 64) :
    (if lint.slt 0 then -lint else lint).toNat = lint.toInt.natAbs := by
  have bound := lint.isLt
  have isNegative : lint.slt 0 = true ↔ lint.toInt < 0 := BitVec.slt_iff_toInt_lt
  have value := BitVec.toInt_eq_toNat_cond lint
  by_cases negative : lint.slt 0 = true
  · have below := isNegative.mp negative
    rw [if_pos negative, BitVec.toNat_neg]
    split at value <;> omega
  · have notBelow := mt isNegative.mpr negative
    rw [if_neg negative]
    split at value <;> omega

/-- `%d`. -/
theorem run_decimal (atType : state.point = .nextAttrType)
    (isChr : call.formatByte state.format = 0x64) :
    ∃ next, Runs call state next ∧ Emits state next 1 1
      (signedNumeral (signedArg state.sizeLong (call.vargs state.vargs))) := by
  let lint : BitVec 64 := if state.sizeLong then call.vargs state.vargs
    else ((call.vargs state.vargs).setWidth 32).signExtend 64
  have value : lint.toInt = signedArg state.sizeLong (call.vargs state.vargs) := by
    simp only [lint, signedArg]
    split
    · rfl
    · exact BitVec.toInt_signExtend_of_le (by decide)
  have magnitude := magnitude_toNat lint
  let signed : Kprintf := { state with format := state.format + 1, vargs := state.vargs + 1 }
  let printed : Kprintf := if lint.slt 0 then signed.put 0x2D else signed
  have length : (numeral 10 0x61 (if lint.slt 0 then -lint else lint).toNat).length ≤ 19 := by
    have small := signedArg_natAbs state.sizeLong (call.vargs state.vargs)
    rw [magnitude, value]
    exact numeral_length (by decide) (by decide) (lt_of_le_of_lt small (by decide))
  have isRadix : (10 : Int) = (10 : Nat) ∧ 0x61 = 0x61 ∨ (10 : Int) = -(10 : Nat) ∧ 0x61 = 0x41 :=
    .inl ⟨rfl, rfl⟩
  obtain ⟨after, converted, isNumeral, extent⟩ : ∃ after,
      ultoa ultoaRounds (if lint.slt 0 then -lint else lint) printed.buf 10 = some after ∧
        IsString after.bytes 0 (numeral 10 0x61 (if lint.slt 0 then -lint else lint).toNat) ∧
        after.extent ≤ max printed.buf.extent
          ((numeral 10 0x61 (if lint.slt 0 then -lint else lint).toNat).length + 1) :=
    ultoa_eq (by decide) (by decide) isRadix (by rw [ultoaRounds]; omega)
  let called : Kprintf := { printed with buf := after, point := .puts .buf 0 }
  have stepped : step call state = some called := by
    rw [step_nextAttrType atType isChr]
    have switched : switch call { state with format := state.format + 1 } 0x64 =
        decimal call { state with format := state.format + 1 } := rfl
    rw [switched]
    simp only [decimal, Option.bind_eq_bind]
    exact congrArg (Option.bind · _) converted
  have isNegative : lint.slt 0 = true ↔ lint.toInt < 0 := BitVec.slt_iff_toInt_lt
  obtain ⟨format, vargs, num, console, passed, buf⟩ :
      printed.format = state.format + 1 ∧ printed.vargs = state.vargs + 1 ∧
        printed.num = state.num +
          BitVec.ofNat 32 (if lint.toInt < 0 then [0x2D] else ([] : List (BitVec 8))).length ∧
        printed.console = putChars state.console (if lint.toInt < 0 then [0x2D] else []) ∧
        printed.passed = state.passed ++ (if lint.toInt < 0 then [0x2D] else []) ∧
        printed.buf = state.buf := by
    by_cases negative : lint.slt 0 = true
    · rw [show printed = signed.put 0x2D from if_pos negative, if_pos (isNegative.mp negative)]
      exact ⟨rfl, rfl, rfl, rfl, rfl, rfl⟩
    · rw [show printed = signed from if_neg negative, if_neg (mt isNegative.mpr negative)]
      exact ⟨rfl, rfl, (BitVec.add_zero _).symm, rfl, (List.append_nil _).symm, rfl⟩
  rw [magnitude] at isNumeral extent length
  rw [← value]
  refine run_type stepped rfl isNumeral fun {next} emits => ?_
  constructor
  · exact emits.point
  · exact emits.format.trans format
  · exact emits.vargs.trans vargs
  · rw [emits.num, signedNumeral, List.length_append, BitVec.ofNat_add, ← BitVec.add_assoc, ← num]
  · rw [emits.console, signedNumeral, putChars_append, ← console]
  · rw [emits.passed, signedNumeral, ← List.append_assoc, ← passed]
  · have puts := emits.extent
    have sameExtent : called.buf.extent = after.extent := rfl
    rw [buf] at extent
    omega

/-! ## Conversions that are known -/

/-- What a conversion of a type takes and puts, with an argument that matches it. -/
inductive Converts (call : Call) (long : Bool) (slot : BitVec 64) :
    BitVec 8 → Nat → List (BitVec 8) → Prop
  | percent : Converts call long slot 0x25 0 [0x25]
  | string {text : List (BitVec 8)} :
      IsString (call.byteAt slot) 0 text → Converts call long slot 0x73 1 text
  | decimal : Converts call long slot 0x64 1 (signedNumeral (signedArg long slot))
  | lowerHex : Converts call long slot 0x78 1 (numeral 16 0x61 (unsignedArg long slot))
  | upperHex : Converts call long slot 0x58 1 (numeral 16 0x41 (unsignedArg long slot))
  | character :
      slot.setWidth 8 ≠ (0 : BitVec 8) → Converts call long slot 0x63 1 [slot.setWidth 8]

theorem run_converts (atType : state.point = .nextAttrType)
    (isChr : call.formatByte state.format = chr)
    (converts : Converts call state.sizeLong (call.vargs state.vargs) chr slots text) :
    ∃ next, Runs call state next ∧ Emits state next 1 slots text := by
  cases converts with
  | percent => exact run_percent atType isChr
  | string isString => exact run_string atType isChr isString
  | decimal => exact run_decimal atType isChr
  | lowerHex => exact run_hexadecimal atType isChr (.inl ⟨rfl, rfl⟩)
  | upperHex => exact run_hexadecimal atType isChr (.inr ⟨rfl, rfl⟩)
  | character notZero => exact run_character atType isChr (if_neg notZero).symm

/-- Every type ends the conversion, whatever its argument is, for there is a zero somewhere
behind every address. -/
theorem exists_run (atType : state.point = .nextAttrType)
    (isChr : call.formatByte state.format = chr) (notModifier : chr ≠ 0x6C)
    {zero : BitVec 64} (isZero : call.memory zero = 0) :
    ∃ next slots text, Runs call state next ∧ Emits state next 1 slots text := by
  by_cases known : chr ∈ [0x25, 0x73, 0x64, 0x78, 0x58, 0x63]
  · simp only [List.mem_cons, List.not_mem_nil, or_false] at known
    rcases known with rfl | rfl | rfl | rfl | rfl | rfl
    · obtain ⟨next, runs, emits⟩ := run_percent atType isChr
      exact ⟨next, _, _, runs, emits⟩
    · have behind : call.byteAt (call.vargs state.vargs)
          (0 + (zero - call.vargs state.vargs).toNat) = 0 := by
        rw [Nat.zero_add, Call.byteAt, BitVec.ofNat_toNat, BitVec.setWidth_eq,
          add_sub_cancel]
        exact isZero
      obtain ⟨text, isString⟩ := IsString.exists_of_zero behind
      obtain ⟨next, runs, emits⟩ := run_string atType isChr isString
      exact ⟨next, _, _, runs, emits⟩
    · obtain ⟨next, runs, emits⟩ := run_decimal atType isChr
      exact ⟨next, _, _, runs, emits⟩
    · obtain ⟨next, runs, emits⟩ := run_hexadecimal atType isChr (.inl ⟨rfl, rfl⟩)
      exact ⟨next, _, _, runs, emits⟩
    · obtain ⟨next, runs, emits⟩ := run_hexadecimal atType isChr (.inr ⟨rfl, rfl⟩)
      exact ⟨next, _, _, runs, emits⟩
    · obtain ⟨next, runs, emits⟩ := run_character atType isChr rfl
      exact ⟨next, _, _, runs, emits⟩
  · obtain ⟨next, runs, emits⟩ := run_unknown atType isChr (by
      rw [List.mem_cons, not_or]
      exact ⟨notModifier, known⟩)
    exact ⟨next, _, _, runs, emits⟩

end Kprintf
end Console
end ToyKernel
