import ToyKernel.Bytes.Strings

/-!
# Messages of the log

`LOG` puts the name of the function, the severity, the format and a new line together in a
buffer of 256 bytes on the stack, and gives it to `kprintf` as the format.
-/

namespace ToyKernel
namespace Bytes

open Program (Ensures)

/-- The size of `__buf` in `LOG`. -/
def logBufferSize : Nat := 256

/-- `LOG` up to the call of `kprintf`, with the addresses of `__buf`, of `__func__`, of the
literal with the severity, of the format and of the new line. -/
def log (buf func severity format newLine : BitVec 64) : Code PUnit := do
  let _ ← strcpy buf func
  let _ ← strcat buf severity
  let _ ← strcat buf format
  let _ ← strcat buf newLine
  pure ⟨⟩

/-- Calls of `strcat` in sequence. -/
def appendAll (buf : BitVec 64) : List (BitVec 64) → Code PUnit
  | [] => pure ⟨⟩
  | src :: rest => do
      let _ ← strcat buf src
      appendAll buf rest

/-- The rest of `LOG` after the call of `strcpy`. -/
theorem log_eq (buf func severity format newLine : BitVec 64) :
    log buf func severity format newLine = (do
      let _ ← strcpy buf func
      appendAll buf [severity, format, newLine]) := rfl

/-- A string in memory, with its address. -/
structure Piece where
  address : BitVec 64
  text : List (BitVec 8)

/-- The text of the pieces. -/
def textOf (pieces : List Piece) : List (BitVec 8) :=
  pieces.flatMap Piece.text

/-- The pieces are strings in memory, apart from what is written from an address on. -/
structure Spelled (memory : Memory (BitVec 64) (BitVec 8)) (buf : BitVec 64) (size : Nat)
    (pieces : List Piece) : Prop where
  strings : ∀ piece ∈ pieces, HoldsString memory piece.address piece.text
  apart : ∀ piece ∈ pieces,
    Disjoint (region buf size) (region piece.address (piece.text.length + 1))

namespace Spelled

variable {memory after : Memory (BitVec 64) (BitVec 8)} {buf : BitVec 64} {size : Nat}
  {pieces : List Piece} {reads writes : Set (BitVec 64)}

/-- What is written inside of the region leaves the pieces alone. -/
theorem kept (spelled : Spelled memory buf size pieces)
    (accesses : memory.Accesses after reads writes) (inside : writes ⊆ region buf size) :
    Spelled after buf size pieces where
  strings piece present := (spelled.strings piece present).kept accesses
    ((spelled.apart piece present).mono_left inside)
  apart := spelled.apart

theorem tail {piece : Piece} (spelled : Spelled memory buf size (piece :: pieces)) :
    Spelled memory buf size pieces where
  strings other present := spelled.strings other (List.mem_cons_of_mem piece present)
  apart other present := spelled.apart other (List.mem_cons_of_mem piece present)

end Spelled

/-- The text behind a string of some length, and its terminator. -/
theorem region_append (buf : BitVec 64) {length more : Nat} (room : length + (more + 1) ≤ 2 ^ 64) :
    region buf (length + 1) ∪ region (buf + BitVec.ofNat 64 length) (more + 1) =
      region buf (length + more + 1) := by
  have whole := region_add buf room
  have first : region buf (length + 1) ⊆ region buf (length + (more + 1)) :=
    region_mono (by omega)
  rw [add_assoc, whole]
  apply Set.Subset.antisymm
  · exact Set.union_subset (whole ▸ first) Set.subset_union_right
  · exact Set.union_subset_union_left _ (region_mono (Nat.le_succ length))

/-- Calls of `strcat` append the pieces in order, and write exactly up to the terminator. -/
theorem appendAll_ensures {before : Memory (BitVec 64) (BitVec 8)} {buf : BitVec 64}
    {text : List (BitVec 8)} (pieces : List Piece) (isText : HoldsString before buf text)
    (spelled : Spelled before buf (text.length + (textOf pieces).length + 1) pieces) :
    Ensures (appendAll buf (pieces.map Piece.address)) before fun _ after =>
      HoldsString after buf (text ++ textOf pieces) ∧
      ∃ reads writes, before.Accesses after reads writes ∧
        region buf (text.length + 1) ∪ writes =
          region buf (text.length + (textOf pieces).length + 1) := by
  induction pieces generalizing before text with
  | nil =>
      refine .pure ⟨?_, ∅, ∅, .refl before, ?_⟩
      · rwa [textOf, List.flatMap_nil, List.append_nil]
      · rw [Set.union_empty]
        rfl
  | cons piece pieces inductionHypothesis =>
      have total : (textOf (piece :: pieces)).length =
          piece.text.length + (textOf pieces).length := by
        rw [textOf, List.flatMap_cons, List.length_append, textOf]
      rw [total] at spelled ⊢
      have apart := spelled.apart piece List.mem_cons_self
      have room := length_le_of_disjoint apart
      have appended : region buf (text.length + 1) ∪
          region (buf + BitVec.ofNat 64 text.length) (piece.text.length + 1) =
            region buf (text.length + piece.text.length + 1) := region_append buf (by omega)
      have inside : region (buf + BitVec.ofNat 64 text.length) (piece.text.length + 1) ⊆
          region buf (text.length + (piece.text.length + (textOf pieces).length) + 1) := by
        refine (Set.subset_union_right.trans appended.subset).trans (region_mono ?_)
        omega
      have apartPiece : Disjoint (region buf (text.length + (piece.text.length + 1)))
          (region piece.address (piece.text.length + 1)) :=
        apart.mono_left (region_mono (by omega))
      refine .bind ((strcat_ensures isText (spelled.strings piece List.mem_cons_self)
        apartPiece).mono ?_)
      rintro _ middle ⟨-, isMiddle, accesses⟩
      have rest : Spelled middle buf
          ((text ++ piece.text).length + (textOf pieces).length + 1) pieces := by
        rw [List.length_append, add_assoc text.length]
        exact spelled.tail.kept accesses inside
      refine (inductionHypothesis isMiddle rest).mono ?_
      rintro _ after ⟨isAfter, reads, writes, later, covered⟩
      refine ⟨?_, _, _, accesses.trans later, ?_⟩
      · rwa [textOf, List.flatMap_cons, ← List.append_assoc]
      · rw [List.length_append] at covered
        rw [← Set.union_assoc, appended, covered, add_assoc text.length]

/-- The whole message is put together, and nothing is written but the message. -/
theorem log_ensures {before : Memory (BitVec 64) (BitVec 8)} {buf : BitVec 64}
    {func severity format newLine : Piece}
    (spelled : Spelled before buf ((textOf [func, severity, format, newLine]).length + 1)
      [func, severity, format, newLine]) :
    Ensures (log buf func.address severity.address format.address newLine.address) before
      fun _ after =>
        HoldsString after buf (textOf [func, severity, format, newLine]) ∧
        ∃ reads, before.Accesses after reads
          (region buf ((textOf [func, severity, format, newLine]).length + 1)) := by
  have total : (textOf [func, severity, format, newLine]).length =
      func.text.length + (textOf [severity, format, newLine]).length := by
    rw [textOf, List.flatMap_cons, List.length_append, textOf]
  rw [total] at spelled ⊢
  have inside : region buf (func.text.length + 1) ⊆
      region buf (func.text.length + (textOf [severity, format, newLine]).length + 1) :=
    region_mono (by omega)
  have isFunc := spelled.strings func List.mem_cons_self
  have apart := (spelled.apart func List.mem_cons_self).mono_left inside
  rw [log_eq]
  refine .bind ((strcpy_ensures isFunc apart).mono ?_)
  rintro _ middle ⟨-, isMiddle, accesses⟩
  have rest := spelled.tail.kept accesses inside
  refine (appendAll_ensures [severity, format, newLine] isMiddle rest).mono ?_
  rintro _ after ⟨isAfter, reads, writes, later, covered⟩
  refine ⟨isAfter, _, (accesses.trans later).weaken (le_refl _) covered⟩

/-- **The buffer of `LOG`.**  `LOG` hands the whole message to `kprintf`, it writes the message
and its terminator and nothing else, and it writes inside of its buffer if and only if the
message has less than 256 characters. -/
theorem log_staysInside_iff {before : Memory (BitVec 64) (BitVec 8)} {buf : BitVec 64}
    {func severity format newLine : Piece} (nothingYet : before.stored = [])
    (spelled : Spelled before buf ((textOf [func, severity, format, newLine]).length + 1)
      [func, severity, format, newLine]) :
    Ensures (log buf func.address severity.address format.address newLine.address) before
      fun _ after =>
        HoldsString after buf (textOf [func, severity, format, newLine]) ∧
        (∃ reads, before.Accesses after reads
          (region buf ((textOf [func, severity, format, newLine]).length + 1))) ∧
        ((∀ address ∈ after.stored, address ∈ region buf logBufferSize) ↔
          (textOf [func, severity, format, newLine]).length < logBufferSize) := by
  refine (log_ensures spelled).mono ?_
  rintro _ after ⟨isMessage, reads, accesses⟩
  generalize textOf [func, severity, format, newLine] = message at isMessage accesses ⊢
  have stored (address : BitVec 64) :
      address ∈ after.stored ↔ address ∈ region buf (message.length + 1) := by
    rw [accesses.stored, nothingYet]
    simp
  refine ⟨isMessage, ⟨reads, accesses⟩, ?_, ?_⟩
  · intro stays
    by_contra long
    -- the byte behind the buffer
    have written : buf + BitVec.ofNat 64 logBufferSize ∈ after.stored := by
      rw [stored, add_mem_region (by decide)]
      omega
    have outside := stays _ written
    rw [add_mem_region (by decide)] at outside
    exact absurd outside (Nat.lt_irrefl _)
  · intro short address written
    exact region_mono short ((stored address).mp written)

/-- The characters of a message of four pieces in memory, and zeros. -/
def oneMessage : Memory (BitVec 64) (BitVec 8) where
  cells address :=
    if address = 0x1000 then 0x66 else if address = 0x2000 then 0x3A
    else if address = 0x3000 then 0x78 else if address = 0x4000 then 0x0A else 0
  loaded := []
  stored := []

/-- The function `f` logs `x` inside of the buffer. -/
theorem log_staysInside_iff_short :
    Ensures (log 0x9000 0x1000 0x2000 0x3000 0x4000) oneMessage fun _ after =>
      HoldsString after 0x9000 [0x66, 0x3A, 0x78, 0x0A] ∧
        ∀ address ∈ after.stored, address ∈ region 0x9000 logBufferSize := by
  have spelled : Spelled oneMessage 0x9000
      ((textOf [⟨0x1000, [0x66]⟩, ⟨0x2000, [0x3A]⟩, ⟨0x3000, [0x78]⟩, ⟨0x4000, [0x0A]⟩]).length + 1)
      [⟨0x1000, [0x66]⟩, ⟨0x2000, [0x3A]⟩, ⟨0x3000, [0x78]⟩, ⟨0x4000, [0x0A]⟩] := by
    change Spelled oneMessage 0x9000 5 _
    constructor
    · simp only [List.forall_mem_cons, List.not_mem_nil, false_implies, implies_true, and_true]
      refine ⟨?_, ?_, ?_, ?_⟩
      all_goals exact .of_byteAt (by decide) (by decide) (by decide)
    · simp only [List.forall_mem_cons, List.not_mem_nil, false_implies, implies_true, and_true,
        List.length_singleton, Set.disjoint_left, mem_region]
      refine ⟨?_, ?_, ?_, ?_⟩
      all_goals
        intro address near
        bv_omega
  refine (log_staysInside_iff rfl spelled).mono ?_
  rintro _ after ⟨isMessage, -, staysInside⟩
  exact ⟨isMessage, staysInside.mpr (by decide)⟩

end Bytes
end ToyKernel
