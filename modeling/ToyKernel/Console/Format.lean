import ToyKernel.Console.Conversions

/-!
# Formats

A format is a sequence of characters and conversions, unless it ends inside a conversion.
`kprintf` renders the former and reads beyond the end of the latter.
-/

namespace ToyKernel
namespace Console

/-- A part of a format: a character, or a conversion with its modifiers and its type. -/
inductive Piece
  | literal (chr : BitVec 8)
  | conversion (longs : Nat) (type : BitVec 8)
  deriving DecidableEq

namespace Piece

/-- What stands for a part in the format. -/
def text : Piece → List (BitVec 8)
  | .literal chr => [chr]
  | .conversion longs type => 0x25 :: (List.replicate longs 0x6C ++ [type])

/-- A conversion does not start with a character, nor does it end with a modifier. -/
def Complete : Piece → Prop
  | .literal chr => chr ≠ 0x25
  | .conversion _ type => type ≠ 0x6C

end Piece

/-- What stands for some parts in the format. -/
def spell (pieces : List Piece) : List (BitVec 8) := pieces.flatMap Piece.text

/-- A format ends behind the `%` of a conversion, or behind some of its modifiers. -/
def EndsInside (text : List (BitVec 8)) : Prop :=
  ∃ pieces longs, (∀ piece ∈ pieces, piece.Complete) ∧
    text = spell pieces ++ 0x25 :: List.replicate longs 0x6C

/-- All other formats consist of characters and conversions. -/
theorem exists_pieces_or_endsInside (text : List (BitVec 8)) :
    (∃ pieces, (∀ piece ∈ pieces, piece.Complete) ∧ text = spell pieces) ∨ EndsInside text := by
  -- the text behind a conversion is shorter
  induction length : text.length using Nat.strongRecOn generalizing text with
  | _ count inductionHypothesis =>
  cases text with
  | nil => exact .inl ⟨[], fun _ absent => absurd absent List.not_mem_nil, rfl⟩
  | cons chr text =>
      have extend : ∀ (piece : Piece) (rest : List (BitVec 8)), piece.Complete →
          chr :: text = piece.text ++ rest → rest.length < count →
          (∃ pieces, (∀ piece ∈ pieces, piece.Complete) ∧ chr :: text = spell pieces) ∨
            EndsInside (chr :: text) := by
        intro piece rest complete split shorter
        have allComplete : ∀ {pieces : List Piece}, (∀ piece ∈ pieces, piece.Complete) →
            ∀ other ∈ piece :: pieces, other.Complete :=
          fun others => List.forall_mem_cons.mpr ⟨complete, others⟩
        rcases inductionHypothesis rest.length shorter rest rfl with
          ⟨pieces, others, isRest⟩ | ⟨pieces, longs, others, isRest⟩
        · exact .inl ⟨piece :: pieces, allComplete others, by rw [split, isRest]; rfl⟩
        · refine .inr ⟨piece :: pieces, longs, allComplete others, ?_⟩
          rw [split, isRest, ← List.append_assoc]
          rfl
      rw [List.length_cons] at length
      by_cases isPercent : chr = 0x25
      · subst isPercent
        have modifiers : text = List.replicate (text.takeWhile (· == 0x6C)).length 0x6C ++
            text.dropWhile (· == 0x6C) := by
          have all : text.takeWhile (· == 0x6C) =
              List.replicate (text.takeWhile (· == 0x6C)).length 0x6C := by
            refine List.eq_replicate_of_mem fun cell present => ?_
            exact beq_iff_eq.mp (List.all_eq_true.mp List.all_takeWhile cell present)
          rw [← all, List.takeWhile_append_dropWhile]
        cases behind : text.dropWhile (· == 0x6C) with
        | nil =>
            rw [behind, List.append_nil] at modifiers
            exact .inr ⟨[], (text.takeWhile (· == 0x6C)).length,
              fun _ absent => absurd absent List.not_mem_nil, congrArg (0x25 :: ·) modifiers⟩
        | cons type rest =>
            rw [behind] at modifiers
            have notModifier : type ≠ 0x6C := by
              have head := List.head?_dropWhile_not (· == 0x6C) text
              rw [behind] at head
              simpa using head
            refine extend (.conversion (text.takeWhile (· == 0x6C)).length type) rest notModifier
              ?_ ?_
            · rw [Piece.text, List.cons_append, List.append_assoc]
              exact congrArg _ modifiers
            · have total := congrArg List.length modifiers
              rw [List.length_append, List.length_cons] at total
              omega
      · exact extend (.literal chr) text isPercent rfl (by omega)

/-! ## Runs over a format -/

/-- What the parts of a format take and put, from an argument on. -/
inductive Renders (call : Call) : Nat → List Piece → List (BitVec 8) → Prop
  | nil {slot : Nat} : Renders call slot [] []
  | literal {slot : Nat} {pieces : List Piece} {chr : BitVec 8} {text : List (BitVec 8)} :
      chr ≠ 0x25 → Renders call slot pieces text →
      Renders call slot (.literal chr :: pieces) (chr :: text)
  | conversion {slot slots longs : Nat} {type : BitVec 8} {pieces : List Piece}
      {text more : List (BitVec 8)} :
      Kprintf.Converts call (decide (0 < longs)) (call.vargs slot) type slots text →
      Renders call (slot + slots) pieces more →
      Renders call slot (.conversion longs type :: pieces) (text ++ more)

namespace Kprintf

section Runs

variable {call : Call} {state next : Kprintf} {text rest : List (BitVec 8)} {pieces : List Piece}
  {chr : BitVec 8} {bytes slots longs : Nat}

/-- A character is put. -/
theorem run_literal (atFormat : state.point = .format)
    (isString : IsString call.formatByte state.format ((Piece.literal chr).text ++ rest))
    (notPercent : chr ≠ 0x25) :
    ∃ next, Runs call state next ∧
      Emits state next (Piece.literal chr).text.length 0 [chr] := by
  obtain ⟨isChr, notZero, -⟩ := isString
  let moved := put { state with format := state.format + 1 } chr
  have stepped : step call state = some moved := by
    simp only [step, atFormat, isChr]
    rw [if_neg notZero, if_neg notPercent]
    exact congrArg some (by rw [← atFormat])
  exact ⟨moved, .single stepped, atFormat, rfl, rfl, rfl, rfl, rfl, Nat.le_max_left ..⟩

/-- The state in which the type of a conversion is read, behind its modifiers. -/
def typed (state : Kprintf) (longs : Nat) : Kprintf :=
  { state with
    format := state.format + 1 + longs
    sizeLong := decide (0 < longs)
    point := .nextAttrType }

/-- The modifiers of a conversion are read. -/
theorem run_typed (atFormat : state.point = .format)
    (isString : IsString call.formatByte state.format
      (0x25 :: (List.replicate longs 0x6C ++ rest))) : Runs call state (state.typed longs) := by
  obtain ⟨isPercent, -, isRest⟩ := isString
  let moved := { state with
    format := state.format + 1
    sizeLong := false
    point := .nextAttrType }
  have stepped : step call state = some moved := by
    simp only [step, atFormat, isPercent]
    rfl
  have runs := run_modifiers (rfl : moved.point = .nextAttrType) isRest
  rw [Bool.false_or] at runs
  exact .head stepped runs

/-- The type stands behind the modifiers. -/
theorem typed_formatByte {type : BitVec 8} (isString : IsString call.formatByte state.format
      ((Piece.conversion longs type).text ++ rest)) :
    call.formatByte (state.typed longs).format = type := by
  rw [Piece.text, List.cons_append, List.append_assoc] at isString
  have behind := isString.2.2.behind
  rw [List.length_replicate] at behind
  exact behind.1

/-- A conversion does what its type does. -/
theorem run_conversion {type : BitVec 8} (atFormat : state.point = .format)
    (isString : IsString call.formatByte state.format
      ((Piece.conversion longs type).text ++ rest))
    (runs : Runs call (state.typed longs) next)
    (emits : Emits (state.typed longs) next 1 slots text) :
    Runs call state next ∧
      Emits state next (Piece.conversion longs type).text.length slots text := by
  rw [Piece.text, List.cons_append, List.append_assoc] at isString
  refine ⟨(run_typed atFormat isString).trans runs, ?_⟩
  have length : (Piece.conversion longs type).text.length = 1 + longs + 1 := by
    rw [Piece.text, List.length_cons, List.length_append, List.length_replicate,
      List.length_singleton, Nat.add_comm 1 longs]
  rw [length]
  exact emits.of_eq (Nat.add_assoc ..).symm rfl rfl rfl rfl rfl

theorem spell_cons (piece : Piece) (pieces : List Piece) (rest : List (BitVec 8)) :
    spell (piece :: pieces) ++ rest = piece.text ++ (spell pieces ++ rest) := by
  rw [spell, List.flatMap_cons, List.append_assoc]
  rfl

theorem Emits.cons {piece : Piece} {middle : Kprintf} {moreSlots : Nat} {more : List (BitVec 8)}
    (emits : Emits state middle piece.text.length slots text)
    (moreEmits : Emits middle next (spell pieces).length moreSlots more) :
    Emits state next (spell (piece :: pieces)).length (slots + moreSlots) (text ++ more) := by
  have whole := emits.trans moreEmits
  rwa [← List.length_append] at whole

/-- Some parts of a format are rendered. -/
theorem run_renders (atFormat : state.point = .format)
    (isString : IsString call.formatByte state.format (spell pieces ++ rest))
    (renders : Renders call state.vargs pieces text) :
    ∃ next slots, Runs call state next ∧ Emits state next (spell pieces).length slots text := by
  generalize isSlot : state.vargs = slot at renders
  induction renders generalizing state with
  | nil => exact ⟨state, 0, .refl, .nothing atFormat⟩
  | literal notPercent _ inductionHypothesis =>
      rw [spell_cons] at isString
      obtain ⟨middle, runs, emits⟩ := run_literal atFormat isString notPercent
      obtain ⟨next, slots, moreRuns, moreEmits⟩ := inductionHypothesis emits.point
        (emits.format ▸ isString.behind) (emits.vargs.trans isSlot)
      exact ⟨next, _, runs.trans moreRuns, emits.cons moreEmits⟩
  | @conversion _ _ longs _ _ _ _ converts _ inductionHypothesis =>
      rw [spell_cons] at isString
      obtain ⟨middle, runs, emits⟩ := run_converts (rfl : (state.typed longs).point = .nextAttrType)
        (typed_formatByte isString) (isSlot ▸ converts)
      obtain ⟨runs, emits⟩ := run_conversion atFormat isString runs emits
      obtain ⟨next, moreSlots, moreRuns, moreEmits⟩ := inductionHypothesis emits.point
        (emits.format ▸ isString.behind) (by rw [emits.vargs, isSlot])
      exact ⟨next, _, runs.trans moreRuns, emits.cons moreEmits⟩

/-- Some parts of a format are gone through, whatever the arguments are. -/
theorem run_spell (atFormat : state.point = .format)
    (isString : IsString call.formatByte state.format (spell pieces ++ rest))
    (complete : ∀ piece ∈ pieces, piece.Complete) :
    ∃ next slots text, Runs call state next ∧
      Emits state next (spell pieces).length slots text := by
  induction pieces generalizing state with
  | nil => exact ⟨state, 0, [], .refl, .nothing atFormat⟩
  | cons piece pieces inductionHypothesis =>
      obtain ⟨isComplete, others⟩ := List.forall_mem_cons.mp complete
      rw [spell_cons] at isString
      have first : ∃ middle slots text, Runs call state middle ∧
          Emits state middle piece.text.length slots text := by
        cases piece with
        | literal chr =>
            obtain ⟨middle, runs, emits⟩ := run_literal atFormat isString isComplete
            exact ⟨middle, 0, _, runs, emits⟩
        | conversion longs type =>
            obtain ⟨middle, slots, text, runs, emits⟩ :=
              exists_run (rfl : (state.typed longs).point = .nextAttrType)
                (typed_formatByte isString) isComplete isString.ends
            exact ⟨middle, slots, text, run_conversion atFormat isString runs emits⟩
      obtain ⟨middle, slots, text, runs, emits⟩ := first
      obtain ⟨next, moreSlots, more, moreRuns, moreEmits⟩ :=
        inductionHypothesis emits.point (emits.format ▸ isString.behind) others
      exact ⟨next, _, _, runs.trans moreRuns, emits.cons moreEmits⟩

/-- The terminator ends the call. -/
theorem run_terminator (atFormat : state.point = .format)
    (isEnd : call.formatByte state.format = 0) :
    Runs call state { state with
      format := state.format + 1
      point := .done
      console := setDisplayCursor state.console state.console.displayRow
        state.console.displayCol } := by
  refine .single ?_
  simp only [step, atFormat, isEnd]
  rfl

/-! ## Calls -/

variable {stack : Nat → BitVec 8} {console : State} {final : Kprintf}

/-- A format of characters and conversions is read up to its terminator. -/
theorem returns_of_complete (isFormat : IsString call.formatByte 0 (spell pieces))
    (complete : ∀ piece ∈ pieces, piece.Complete) :
    ∃ final, Returns call stack console final ∧ final.format = (spell pieces).length + 1 := by
  have isEnd := isFormat.ends
  rw [← List.append_nil (spell pieces)] at isFormat
  have atFormat : (start stack console).point = .format := rfl
  obtain ⟨next, slots, text, runs, emits⟩ := run_spell atFormat isFormat complete
  have format : next.format = 0 + (spell pieces).length := emits.format
  have terminated := run_terminator emits.point (format ▸ isEnd)
  exact ⟨_, ⟨runs.trans terminated, rfl⟩, by rw [format, Nat.zero_add]⟩

/-- A call that has read the terminator as the type of a conversion reads what is behind. -/
theorem leaves_of_endsInside (isFormat : IsString call.formatByte 0 text)
    (endsInside : EndsInside text) (returns : Returns call stack console final) :
    text.length + 1 < final.format := by
  obtain ⟨pieces, longs, complete, rfl⟩ := endsInside
  have atFormat : (start stack console).point = .format := rfl
  obtain ⟨next, slots, text, runs, emits⟩ := run_spell atFormat isFormat complete
  have format : next.format = 0 + (spell pieces).length := emits.format
  have isConversion : IsString call.formatByte next.format
      (0x25 :: (List.replicate longs 0x6C ++ [])) := by
    rw [format, List.append_nil]
    exact isFormat.behind
  have isEnd : call.formatByte (next.typed longs).format = 0 := by
    have ends := isConversion.ends
    rwa [List.append_nil, List.length_cons, List.length_replicate, Nat.add_comm longs,
      ← Nat.add_assoc] at ends
  obtain ⟨beyond, ended, beyondEmits⟩ :=
    run_unknown (rfl : (next.typed longs).point = .nextAttrType) isEnd (by decide)
  have reached : Runs call (start stack console) beyond :=
    (runs.trans (run_typed emits.point isConversion)).trans ended
  have position :
      beyond.format = (spell pieces ++ 0x25 :: List.replicate longs 0x6C).length + 1 := by
    rw [beyondEmits.format, List.length_append, List.length_cons, List.length_replicate]
    show next.format + 1 + longs + 1 = _
    omega
  rw [← position]
  -- the call has not returned yet, and the next step reads another byte
  have goesOn : Runs call beyond final := by
    rcases StateTransition.reaches_total returns.runs reached with back | onward
    · rcases Relation.ReflTransGen.cases_head back with same | ⟨other, taken, -⟩
      · exact same ▸ .refl
      · have stuck : step call final = none := by rw [step, returns.done]
        rw [Option.mem_def, stuck] at taken
        cases taken
    · exact onward
  rcases Relation.ReflTransGen.cases_head goesOn with same | ⟨other, taken, rest⟩
  · have notDone := beyondEmits.point
    rw [same, returns.done] at notDone
    cases notDone
  · have moved : other.format = beyond.format + 1 := by
      rw [Option.mem_def, step, beyondEmits.point] at taken
      simp only at taken
      split at taken
      · exact (Option.some.inj taken) ▸ rfl
      · split at taken <;> exact (Option.some.inj taken) ▸ rfl
    have onward : other.format ≤ final.format := Runs.format_le rest
    omega

end Runs

/-- **The end of the format.**  `kprintf` returns without having read behind the terminator
of its format if and only if the format does not end inside a conversion. -/
theorem staysInside_iff_not_endsInside (call : Call) (text : List (BitVec 8))
    (stack : Nat → BitVec 8) (console : State) (isFormat : IsString call.formatByte 0 text) :
    (∃ final, Returns call stack console final ∧ final.format ≤ text.length + 1) ↔
      ¬ EndsInside text := by
  constructor
  · rintro ⟨final, returns, inside⟩ endsInside
    exact absurd (leaves_of_endsInside isFormat endsInside returns) (Nat.not_lt.mpr inside)
  · intro notInside
    rcases exists_pieces_or_endsInside text with ⟨pieces, complete, rfl⟩ | endsInside
    · obtain ⟨final, returns, format⟩ := returns_of_complete isFormat complete
      exact ⟨final, returns, le_of_eq format⟩
    · exact absurd endsInside notInside

/-- A call whose memory holds these bytes from address zero on, with the format first. -/
def callOn (bytes : List (BitVec 8)) (vargs : Nat → BitVec 64) : Call where
  memory address := bytes.getD address.toNat 0
  format := 0
  vargs := vargs

/-- A blank display. -/
def blankDisplay : State where
  memory := fun _ => blankCell
  displayRow := 0
  displayCol := 0
  cursorRow := 0
  cursorCol := 0

/-- The format `%d`. -/
theorem staysInside_iff_not_endsInside_decimal :
    ∃ final, Returns (callOn [0x25, 0x64] fun _ => 7) (fun _ => 0) blankDisplay final ∧
      final.format ≤ 3 := by
  refine (staysInside_iff_not_endsInside (callOn [0x25, 0x64] fun _ => 7) [0x25, 0x64]
    (fun _ => 0) blankDisplay (by decide)).mpr ?_
  rintro ⟨pieces, longs, -, isText⟩
  have last := congrArg List.getLast? isText
  rw [List.getLast?_append_of_ne_nil _ (List.cons_ne_nil _ _)] at last
  -- such a format ends in `%` or in `l`
  have isLast := List.mem_of_getLast? last.symm
  simp at isLast

/-- With the format `%`, the byte behind the terminator is read. -/
theorem staysInside_fails :
    ¬ ∀ (call : Call) (text : List (BitVec 8)) (stack : Nat → BitVec 8) (console : State),
      IsString call.formatByte 0 text →
      ∃ final, Returns call stack console final ∧ final.format ≤ text.length + 1 := by
  intro claimed
  have isFormat : IsString (callOn [0x25] fun _ => 0).formatByte 0 [0x25] := by decide
  have endsInside : EndsInside [0x25] :=
    ⟨[], 0, fun _ absent => absurd absent List.not_mem_nil, rfl⟩
  obtain ⟨final, returns, inside⟩ := claimed (callOn [0x25] fun _ => 0) [0x25] (fun _ => 0)
    blankDisplay isFormat
  exact absurd (leaves_of_endsInside isFormat endsInside returns) (Nat.not_lt.mpr inside)

/-- **Formatting.**  For a format of characters and conversions with arguments that match,
`kprintf` passes to `put_char` what it renders, returns the number of the characters, and
stores nothing behind the 20 bytes of `buf`. -/
theorem kprintf_renders (call : Call) (pieces : List Piece) (text : List (BitVec 8))
    (stack : Nat → BitVec 8) (console : State)
    (isFormat : IsString call.formatByte 0 (spell pieces))
    (renders : Renders call 0 pieces text) :
    ∃ final, Returns call stack console final ∧ final.passed = text ∧
      final.num = BitVec.ofNat 32 text.length ∧
      (text.length < 2 ^ 31 → final.num.toInt = text.length) ∧
      final.buf.extent ≤ 20 ∧
      final.console = setDisplayCursor (putChars console text)
        (putChars console text).displayRow (putChars console text).displayCol := by
  have isEnd := isFormat.ends
  rw [← List.append_nil (spell pieces)] at isFormat
  have atFormat : (start stack console).point = .format := rfl
  obtain ⟨next, slots, runs, emits⟩ := run_renders atFormat isFormat renders
  have terminated := run_terminator emits.point (emits.format ▸ isEnd)
  have num : next.num = BitVec.ofNat 32 text.length := emits.num.trans (BitVec.zero_add _)
  refine ⟨_, ⟨runs.trans terminated, rfl⟩, emits.passed.trans (List.nil_append _), num, ?_,
    emits.extent, ?_⟩
  · intro small
    show next.num.toInt = text.length
    rw [num, BitVec.toInt_eq_toNat_cond, BitVec.toNat_ofNat, Nat.mod_eq_of_lt (by omega),
      if_pos (by omega)]
  · show setDisplayCursor next.console _ _ = _
    rw [emits.console]
    rfl

/-- The least `long` and a string, with the format `%ld %s` and the string behind it. -/
theorem kprintf_renders_extreme :
    ∃ final, Returns (callOn [0x25, 0x6C, 0x64, 0x20, 0x25, 0x73, 0, 0x6F, 0x6B]
        fun slot => if slot = 0 then 0x8000000000000000 else 7) (fun _ => 0) blankDisplay final ∧
      final.passed = [0x2D, 0x39, 0x32, 0x32, 0x33, 0x33, 0x37, 0x32, 0x30, 0x33, 0x36, 0x38,
        0x35, 0x34, 0x37, 0x37, 0x35, 0x38, 0x30, 0x38, 0x20, 0x6F, 0x6B] ∧
      final.num = 23 ∧ final.buf.extent ≤ 20 := by
  have numeral : signedNumeral (signedArg true 0x8000000000000000) =
      [0x2D, 0x39, 0x32, 0x32, 0x33, 0x33, 0x37, 0x32, 0x30, 0x33, 0x36, 0x38, 0x35, 0x34, 0x37,
        0x37, 0x35, 0x38, 0x30, 0x38] := by
    decide +kernel
  obtain ⟨final, returns, passed, num, -, extent, -⟩ := kprintf_renders
    (callOn [0x25, 0x6C, 0x64, 0x20, 0x25, 0x73, 0, 0x6F, 0x6B]
      fun slot => if slot = 0 then 0x8000000000000000 else 7)
    [.conversion 1 0x64, .literal 0x20, .conversion 0 0x73] _ (fun _ => 0) blankDisplay
    (by decide +kernel)
    (.conversion .decimal (.literal (by decide)
      (.conversion (.string (show IsString _ 0 [0x6F, 0x6B] by decide +kernel)) .nil)))
  have whole := passed.trans (congrArg (· ++ [0x20, 0x6F, 0x6B]) numeral)
  refine ⟨final, returns, whole, ?_, extent⟩
  rw [num, ← passed, whole]
  rfl

end Kprintf

end Console
end ToyKernel
