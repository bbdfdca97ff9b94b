import ToyKernel.Acpi.Defs
import Mathlib.Tactic.Linarith

/-!
# Walking the entries of a table

`get_next_acpi_entry` steps through a table by the length bytes of its entries.  What a whole
enumeration does depends on the walk over the offsets of the entries: an enumeration is safe
exactly when every entry on the walk has its header in the table and a positive length, and
those of the requested type lie in the table.
-/

namespace ToyKernel
namespace Acpi

variable (tables : Tables) (firmware : Firmware) (table : BitVec 64) (type : BitVec 32)

/-! ### Offsets in a table -/

/-- The member `length` of the table's header, as a number. -/
def tableLength : Nat :=
  (headerLength firmware table).toNat

/-- The address of an offset in the table. -/
def atOffset (offset : Nat) : BitVec 64 :=
  table + BitVec.ofNat 64 offset

/-- The length byte of the entry at an offset. -/
def lengthAt (offset : Nat) : Nat :=
  (firmware (atOffset table offset + 1)).toNat

/-- The entry at an offset is of the requested type. -/
def Matches (offset : Nat) : Prop :=
  type = -1 ∨ entryType firmware (atOffset table offset) = type

instance (offset : Nat) : Decidable (Matches firmware table type offset) :=
  inferInstanceAs (Decidable (_ ∨ _))

/-- The byte lies in the table. -/
def InTable (address : BitVec 64) : Prop :=
  (address - table).toNat < tableLength firmware table

/-! ### Enumerations -/

/-- Repeated calls of `get_next_acpi_entry` from the cursor return these entries and then
`ERR_NO_MORE`, and all of the calls are as allowed. -/
inductive Enumerates (allowed : BitVec 64 → Call → Prop) :
    BitVec 64 → List (BitVec 64) → Prop
  | done {cursor : BitVec 64} {call : Call} {rounds : Nat}
      (returns : getNextAcpiEntry tables firmware rounds table (some cursor) type = some call)
      (isAllowed : allowed cursor call) (err : call.err = .errNoMore) :
      Enumerates allowed cursor []
  | next {cursor : BitVec 64} {call : Call} {rounds : Nat} {entries : List (BitVec 64)}
      (returns : getNextAcpiEntry tables firmware rounds table (some cursor) type = some call)
      (isAllowed : allowed cursor call) (err : call.err = .errNone)
      (later : Enumerates allowed call.entry entries) :
      Enumerates allowed cursor (call.entry :: entries)

/-- A call reads nothing outside the table, and an entry that it returns lies in the table
with its header and with all of its bytes and comes after the one before. -/
structure SafeCall (cursor : BitVec 64) (call : Call) : Prop where
  reads : ∀ address ∈ call.reads, InTable firmware table address
  inside : call.err = .errNone →
    (call.entry - table).toNat + 2 ≤ tableLength firmware table ∧
      (call.entry - table).toNat + (entryLength firmware call.entry).toNat ≤
        tableLength firmware table
  advances : call.err = .errNone → cursor ≠ 0 →
    (cursor - table).toNat < (call.entry - table).toNat

/-- Walking from an offset by the length bytes stays in the table and meets these offsets of
entries of the requested type. -/
inductive WellStepped : Nat → List Nat → Prop
  | done {offset : Nat} (past : tableLength firmware table ≤ offset) : WellStepped offset []
  | skip {offset : Nat} {found : List Nat}
      (header : offset + 1 < tableLength firmware table)
      (positive : 0 < lengthAt firmware table offset)
      (other : ¬ Matches firmware table type offset)
      (rest : WellStepped (offset + lengthAt firmware table offset) found) :
      WellStepped offset found
  | hit {offset : Nat} {found : List Nat}
      (header : offset + 1 < tableLength firmware table)
      (positive : 0 < lengthAt firmware table offset)
      (matching : Matches firmware table type offset)
      (inside : offset + lengthAt firmware table offset ≤ tableLength firmware table)
      (rest : WellStepped (offset + lengthAt firmware table offset) found) :
      WellStepped offset (offset :: found)

variable {tables firmware table type}

/-! ### The arithmetic of cursors -/

theorem lengthAt_lt (offset : Nat) : lengthAt firmware table offset < 256 :=
  (firmware (atOffset table offset + 1)).isLt

theorem tableLength_lt : tableLength firmware table < 2 ^ 32 :=
  (headerLength firmware table).isLt

theorem atOffset_sub_toNat {offset : Nat} (small : offset < 2 ^ 33) :
    (atOffset table offset - table).toNat = offset := by
  simp only [atOffset]
  bv_omega

theorem atOffset_add (offset more : Nat) :
    atOffset table offset + BitVec.ofNat 64 more = atOffset table (offset + more) := by
  simp only [atOffset, BitVec.add_assoc, BitVec.ofNat_add]

theorem entryLength_toNat (offset : Nat) :
    (entryLength firmware (atOffset table offset)).toNat = lengthAt firmware table offset := by
  rw [entryLength, BitVec.toNat_setWidth]
  exact Nat.mod_eq_of_lt (Nat.lt_trans (lengthAt_lt offset) (by decide))

/-- The entry after the one at an offset. -/
theorem atOffset_add_entryLength (offset : Nat) :
    atOffset table offset + entryLength firmware (atOffset table offset) =
      atOffset table (offset + lengthAt firmware table offset) := by
  have length : entryLength firmware (atOffset table offset) =
      BitVec.ofNat 64 (lengthAt firmware table offset) := by
    rw [← entryLength_toNat, BitVec.ofNat_toNat, BitVec.setWidth_eq]
  rw [length, atOffset_add]

/-- The condition of the loop, at an offset. -/
theorem atOffset_inside_iff {offset : Nat} (small : offset < 2 ^ 33) :
    atOffset table offset - table < (headerLength firmware table).setWidth 64 ↔
      offset < tableLength firmware table := by
  have length : ((headerLength firmware table).setWidth 64).toNat =
      tableLength firmware table := by
    rw [BitVec.toNat_setWidth, tableLength]
    exact Nat.mod_eq_of_lt (Nat.lt_trans (headerLength firmware table).isLt (by decide))
  rw [BitVec.lt_def, atOffset_sub_toNat small, length]

/-- A table of the RSDT lies below 4 GiB and has one of the two fixed sizes. -/
theorem tableSize_cases {tsize : BitVec 64} (isTable : tableSize tables table = some tsize) :
    table.toNat < 2 ^ 32 ∧ (tsize = madtSize ∨ tsize = sratSize) := by
  rw [tableSize] at isTable
  split at isTable
  · rename_i same
    refine ⟨?_, Or.inl (Option.some.inj isTable).symm⟩
    rw [same, getAcpiMadt]
    bv_omega
  · split at isTable
    · rename_i same
      refine ⟨?_, Or.inr (Option.some.inj isTable).symm⟩
      rw [same, getAcpiSrat]
      bv_omega
    · exact absurd isTable (by simp)

/-! ### The loop -/

section Loop

variable {rounds offset : Nat} {reads : List (BitVec 64)} {call : Call}

/-- A search from an offset on. -/
def searchFrom (firmware : Firmware) (table : BitVec 64) (type : BitVec 32)
    (rounds offset : Nat) (reads : List (BitVec 64)) : Option Call :=
  findEntry firmware table (headerLength firmware table) type rounds (atOffset table offset)
    reads

theorem searchFrom_past (small : offset < 2 ^ 33) (past : tableLength firmware table ≤ offset) :
    searchFrom firmware table type (rounds + 1) offset reads =
      some ⟨.errNoMore, atOffset table offset, reads⟩ := by
  rw [searchFrom, findEntry, if_neg]
  rw [atOffset_inside_iff small]
  exact Nat.not_lt.mpr past

theorem searchFrom_hit (small : offset < 2 ^ 33) (before : offset < tableLength firmware table)
    (matching : Matches firmware table type offset) :
    searchFrom firmware table type (rounds + 1) offset reads =
      some ⟨.errNone, atOffset table offset,
        if type = -1 then reads else reads ++ [atOffset table offset]⟩ := by
  rw [searchFrom, findEntry, if_pos ((atOffset_inside_iff small).mpr before)]
  by_cases all : type = -1
  · rw [if_pos all, if_pos all]
  · rw [if_neg all, if_neg all, if_pos (matching.resolve_left all)]

theorem searchFrom_skip (small : offset < 2 ^ 33) (before : offset < tableLength firmware table)
    (other : ¬ Matches firmware table type offset) :
    searchFrom firmware table type (rounds + 1) offset reads =
      searchFrom firmware table type rounds (offset + lengthAt firmware table offset)
        (reads ++ [atOffset table offset, atOffset table offset + 1]) := by
  rw [searchFrom, findEntry, if_pos ((atOffset_inside_iff small).mpr before),
    if_neg (fun all => other (Or.inl all)), if_neg (fun same => other (Or.inr same)),
    atOffset_add_entryLength, searchFrom]

/-- What was read before the loop stays read. -/
theorem mem_reads_of_findEntry {length : BitVec 32} {entry : BitVec 64}
    (returns : findEntry firmware table length type rounds entry reads = some call)
    {address : BitVec 64} (read : address ∈ reads) : address ∈ call.reads := by
  induction rounds generalizing entry reads with
  | zero => exact absurd returns (by simp [findEntry])
  | succ rounds inductionHypothesis =>
      rw [findEntry] at returns
      split at returns
      · split at returns
        · obtain rfl := Option.some.inj returns
          exact read
        · split at returns
          · obtain rfl := Option.some.inj returns
            exact List.mem_append_left _ read
          · exact inductionHypothesis returns (List.mem_append_left _ read)
      · obtain rfl := Option.some.inj returns
        exact read

/-- The second byte of the entry at an offset. -/
theorem inTable_second_iff (small : offset < 2 ^ 32) :
    InTable firmware table (atOffset table offset + 1) ↔
      offset + 1 < tableLength firmware table := by
  have next : atOffset table offset + 1 = atOffset table (offset + 1) := atOffset_add offset 1
  rw [InTable, next, atOffset_sub_toNat (by omega)]

/-- A search that reads nothing outside the table has walked well up to its result. -/
theorem wellStepped_of_searchFrom (small : offset < 2 ^ 33)
    (returns : searchFrom firmware table type rounds offset reads = some call)
    (safe : ∀ address ∈ call.reads, InTable firmware table address) :
    (call.err = .errNoMore ∧ WellStepped firmware table type offset []) ∨
      (call.err = .errNone ∧ ∃ hit, hit < tableLength firmware table ∧
        Matches firmware table type hit ∧ call.entry = atOffset table hit ∧
          ∀ found, WellStepped firmware table type hit found →
            WellStepped firmware table type offset found) := by
  induction rounds generalizing offset reads with
  | zero => exact absurd returns (by simp [searchFrom, findEntry])
  | succ rounds inductionHypothesis =>
      rcases Nat.lt_or_ge offset (tableLength firmware table) with before | past
      · by_cases matching : Matches firmware table type offset
        · rw [searchFrom_hit small before matching] at returns
          obtain rfl := Option.some.inj returns
          exact Or.inr ⟨rfl, offset, before, matching, rfl, fun _ walk => walk⟩
        · rw [searchFrom_skip small before matching] at returns
          have short : tableLength firmware table < 2 ^ 32 := tableLength_lt
          have step : lengthAt firmware table offset < 256 := lengthAt_lt offset
          have header : offset + 1 < tableLength firmware table :=
            (inTable_second_iff (by omega)).mp
              (safe _ (mem_reads_of_findEntry returns (by simp)))
          have later := inductionHypothesis (by omega) returns
          rcases Nat.eq_zero_or_pos (lengthAt firmware table offset) with zero | positive
          · simpa only [zero, Nat.add_zero] using later
          · rcases later with ⟨err, walk⟩ | ⟨err, hit, hitBefore, hitMatching, entry, walk⟩
            · exact Or.inl ⟨err, .skip header positive matching walk⟩
            · exact Or.inr ⟨err, hit, hitBefore, hitMatching, entry, fun found hitWalk =>
                .skip header positive matching (walk found hitWalk)⟩
      · rw [searchFrom_past small past] at returns
        obtain rfl := Option.some.inj returns
        exact Or.inl ⟨rfl, .done past⟩

/-- On a good walk a search returns with its first offset, and reads within the table. -/
theorem searchFrom_of_wellStepped {found : List Nat} (small : offset < 2 ^ 33)
    (walk : WellStepped firmware table type offset found) (reads : List (BitVec 64)) :
    ∃ rounds call, searchFrom firmware table type rounds offset reads = some call ∧
      (∀ address ∈ call.reads, address ∈ reads ∨ InTable firmware table address) ∧
        (found = [] ∧ call.err = .errNoMore ∨
          ∃ hit later, found = hit :: later ∧ offset ≤ hit ∧ call.err = .errNone ∧
            call.entry = atOffset table hit ∧ hit + 1 < tableLength firmware table ∧
              0 < lengthAt firmware table hit ∧
                hit + lengthAt firmware table hit ≤ tableLength firmware table ∧
                  WellStepped firmware table type (hit + lengthAt firmware table hit)
                    later) := by
  have short : tableLength firmware table < 2 ^ 32 := tableLength_lt
  induction walk generalizing reads with
  | done past =>
      exact ⟨1, _, searchFrom_past small past, fun _ => Or.inl, Or.inl ⟨rfl, rfl⟩⟩
  | @skip offset found header positive other rest inductionHypothesis =>
      have step : lengthAt firmware table offset < 256 := lengthAt_lt offset
      obtain ⟨rounds, call, returns, safe, result⟩ := inductionHypothesis (by omega)
        (reads ++ [atOffset table offset, atOffset table offset + 1])
      refine ⟨rounds + 1, call, ?_, ?_, ?_⟩
      · rw [searchFrom_skip small (by omega) other, returns]
      · intro address read
        rcases safe address read with old | inTable
        · rcases List.mem_append.mp old with earlier | here
          · exact Or.inl earlier
          · refine Or.inr ?_
            rcases List.mem_pair.mp here with rfl | rfl
            · rw [InTable, atOffset_sub_toNat small]
              omega
            · exact (inTable_second_iff (by omega)).mpr header
        · exact Or.inr inTable
      · rcases result with none | ⟨hit, later, found, after, facts⟩
        · exact Or.inl none
        · exact Or.inr ⟨hit, later, found, by omega, facts⟩
  | @hit offset found header positive matching inside rest _ =>
      refine ⟨1, _, searchFrom_hit small (by omega) matching, ?_,
        Or.inr ⟨offset, found, rfl, le_rfl, rfl, rfl, header, positive, inside, rest⟩⟩
      intro address read
      simp only at read
      split at read
      · exact Or.inl read
      · rcases List.mem_append.mp read with earlier | here
        · exact Or.inl earlier
        · obtain rfl := List.mem_singleton.mp here
          refine Or.inr ?_
          rw [InTable, atOffset_sub_toNat small]
          omega

end Loop

/-! ### Calls -/

section Calls

variable {tsize cursor : BitVec 64} {rounds : Nat}

/-- The bytes of the header's length that every call reads. -/
def lengthReads (table : BitVec 64) : List (BitVec 64) :=
  [table + 4, table + 5, table + 6, table + 7]

/-- The first call searches from behind the fixed part. -/
theorem getNextAcpiEntry_first (nonNull : table ≠ 0)
    (isTable : tableSize tables table = some tsize) :
    getNextAcpiEntry tables firmware rounds table (some 0) type =
      searchFrom firmware table type rounds tsize.toNat (lengthReads table) := by
  have start : atOffset table tsize.toNat = table + tsize := by
    rw [atOffset, BitVec.ofNat_toNat, BitVec.setWidth_eq]
  simp only [getNextAcpiEntry, nonNull, if_false, isTable, searchFrom, start, lengthReads]
  rfl

/-- A later call searches from behind the entry before. -/
theorem getNextAcpiEntry_next (nonNull : table ≠ 0)
    (isTable : tableSize tables table = some tsize) {offset : Nat} (small : offset < 2 ^ 33) :
    getNextAcpiEntry tables firmware rounds table (some (atOffset table offset)) type =
      searchFrom firmware table type rounds (offset + lengthAt firmware table offset)
        ((atOffset table offset + 1) :: lengthReads table) := by
  have low := (tableSize_cases isTable).1
  have cursor : atOffset table offset ≠ 0 := by
    simp only [atOffset]
    bv_omega
  simp only [getNextAcpiEntry, nonNull, if_false, isTable, searchFrom, cursor, lengthReads,
    ne_eq, not_false_eq_true, if_true, atOffset_add_entryLength, List.singleton_append]

/-- The header's length lies in a table that is long enough. -/
theorem inTable_lengthReads_iff :
    (∀ address ∈ lengthReads table, InTable firmware table address) ↔
      8 ≤ tableLength firmware table := by
  have fourth : (table + 4 - table).toNat = 4 := by bv_omega
  have fifth : (table + 5 - table).toNat = 5 := by bv_omega
  have sixth : (table + 6 - table).toNat = 6 := by bv_omega
  have seventh : (table + 7 - table).toNat = 7 := by bv_omega
  simp only [lengthReads, List.forall_mem_cons, List.not_mem_nil, InTable, fourth, fifth, sixth,
    seventh]
  constructor
  · rintro ⟨-, -, -, last, -⟩
    exact last
  · intro long
    exact ⟨by omega, by omega, by omega, by omega, fun _ => False.elim⟩

end Calls

end Acpi
end ToyKernel
