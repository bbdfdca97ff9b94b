import ToyKernel.Acpi.Entries

/-!
# Enumerations of entries

Whole enumerations by `get_next_acpi_entry`: exactly when they are safe, and that on a table
made of entries they return the matching ones in order.
-/

namespace ToyKernel
namespace Acpi

variable {tables : Tables} {firmware : Firmware} {table : BitVec 64} {type : BitVec 32}
variable {tsize : BitVec 64}

/-- Whoever allows more has the same enumerations. -/
theorem Enumerates.mono {allowed more : BitVec 64 → Call → Prop} {cursor : BitVec 64}
    {entries : List (BitVec 64)} (allows : ∀ cursor call, allowed cursor call → more cursor call)
    (enumerates : Enumerates tables firmware table type allowed cursor entries) :
    Enumerates tables firmware table type more cursor entries := by
  induction enumerates with
  | done returns isAllowed err => exact .done returns (allows _ _ isAllowed) err
  | next returns isAllowed err _ inductionHypothesis =>
      exact .next returns (allows _ _ isAllowed) err inductionHypothesis

theorem tableSize_small (isTable : tableSize tables table = some tsize) :
    tsize.toNat < 2 ^ 33 := by
  rcases (tableSize_cases isTable).2 with rfl | rfl <;> decide

/-! ### Safe enumerations walk well -/

section Safe

variable {hit rounds : Nat} {call : Call}

/-- An entry behind which the enumeration goes on safely has its header in the table and a
positive length: otherwise the next call would read outside, or return the same entry. -/
theorem SafeCall.header_and_positive (nonNull : table ≠ 0)
    (isTable : tableSize tables table = some tsize)
    (before : hit < tableLength firmware table) (matching : Matches firmware table type hit)
    (returns : getNextAcpiEntry tables firmware rounds table (some (atOffset table hit)) type =
      some call)
    (isSafe : SafeCall firmware table (atOffset table hit) call) :
    hit + 1 < tableLength firmware table ∧ 0 < lengthAt firmware table hit := by
  have short : tableLength firmware table < 2 ^ 32 := tableLength_lt
  rw [getNextAcpiEntry_next nonNull isTable (by omega)] at returns
  refine ⟨?_, Nat.pos_of_ne_zero ?_⟩
  · exact (inTable_second_iff (by omega)).mp
      (isSafe.reads _ (mem_reads_of_findEntry returns List.mem_cons_self))
  · intro zero
    rw [zero, Nat.add_zero] at returns
    cases rounds with
    | zero => exact absurd returns (by simp [searchFrom, findEntry])
    | succ rounds =>
        rw [searchFrom_hit (by omega) before matching] at returns
        obtain rfl := Option.some.inj returns
        have low := (tableSize_cases isTable).1
        have cursor : atOffset table hit ≠ 0 := by
          simp only [atOffset]
          bv_omega
        exact absurd (isSafe.advances rfl cursor) (Nat.lt_irrefl _)

/-- After a safe call that returned an entry, the enumeration walks well from there on. -/
theorem Enumerates.wellStepped (nonNull : table ≠ 0)
    (isTable : tableSize tables table = some tsize) {entries : List (BitVec 64)}
    (before : hit < tableLength firmware table) (matching : Matches firmware table type hit)
    (inside : hit + lengthAt firmware table hit ≤ tableLength firmware table)
    (enumerates : Enumerates tables firmware table type (SafeCall firmware table)
      (atOffset table hit) entries) :
    ∃ found, WellStepped firmware table type hit found := by
  generalize at_hit : atOffset table hit = cursor at enumerates
  have short : tableLength firmware table < 2 ^ 32 := tableLength_lt
  induction enumerates generalizing hit with
  | @done cursor call rounds returns isSafe err =>
      subst at_hit
      obtain ⟨header, positive⟩ :=
        isSafe.header_and_positive nonNull isTable before matching returns
      rw [getNextAcpiEntry_next nonNull isTable (by omega)] at returns
      rcases wellStepped_of_searchFrom (by omega) returns isSafe.reads with
        ⟨-, walk⟩ | ⟨none, -⟩
      · exact ⟨[hit], .hit header positive matching inside walk⟩
      · exact absurd (err.symm.trans none) (by decide)
  | @next cursor call rounds entries returns isSafe err later inductionHypothesis =>
      subst at_hit
      obtain ⟨header, positive⟩ :=
        isSafe.header_and_positive nonNull isTable before matching returns
      rw [getNextAcpiEntry_next nonNull isTable (by omega)] at returns
      rcases wellStepped_of_searchFrom (by omega) returns isSafe.reads with
        ⟨noMore, -⟩ | ⟨-, nextHit, nextBefore, nextMatching, entry, walk⟩
      · exact absurd (err.symm.trans noMore) (by decide)
      · have nextInside := (isSafe.inside err).2
        rw [entry, atOffset_sub_toNat (by omega), entryLength_toNat] at nextInside
        obtain ⟨found, nextWalk⟩ :=
          inductionHypothesis nextBefore nextMatching nextInside entry.symm
        exact ⟨hit :: found, .hit header positive matching inside (walk found nextWalk)⟩

/-- A safe enumeration walks well from behind the fixed part of a table that holds its
length. -/
theorem wellStepped_of_enumerates (nonNull : table ≠ 0)
    (isTable : tableSize tables table = some tsize) {entries : List (BitVec 64)}
    (enumerates : Enumerates tables firmware table type (SafeCall firmware table) 0 entries) :
    8 ≤ tableLength firmware table ∧
      ∃ found, WellStepped firmware table type tsize.toNat found := by
  have short : tableLength firmware table < 2 ^ 32 := tableLength_lt
  have small : tsize.toNat < 2 ^ 33 := tableSize_small isTable
  cases enumerates with
  | done returns isSafe err =>
      rw [getNextAcpiEntry_first nonNull isTable] at returns
      refine ⟨inTable_lengthReads_iff.mp fun address read =>
        isSafe.reads address (mem_reads_of_findEntry returns read), ?_⟩
      rcases wellStepped_of_searchFrom small returns isSafe.reads with ⟨-, walk⟩ | ⟨none, -⟩
      · exact ⟨[], walk⟩
      · exact absurd (err.symm.trans none) (by decide)
  | next returns isSafe err later =>
      rw [getNextAcpiEntry_first nonNull isTable] at returns
      refine ⟨inTable_lengthReads_iff.mp fun address read =>
        isSafe.reads address (mem_reads_of_findEntry returns read), ?_⟩
      rcases wellStepped_of_searchFrom small returns isSafe.reads with
        ⟨noMore, -⟩ | ⟨-, hit, before, matching, entry, walk⟩
      · exact absurd (err.symm.trans noMore) (by decide)
      · have inside := (isSafe.inside err).2
        rw [entry, atOffset_sub_toNat (by omega), entryLength_toNat] at inside
        rw [entry] at later
        obtain ⟨found, hitWalk⟩ := later.wellStepped nonNull isTable before matching inside
        exact ⟨found, walk found hitWalk⟩

end Safe

/-! ### Good walks enumerate safely -/

/-- An enumeration that goes on from an offset returns what the walk from there meets. -/
theorem enumerates_of_wellStepped (nonNull : table ≠ 0)
    (isTable : tableSize tables table = some tsize) (long : 8 ≤ tableLength firmware table)
    {cursor : BitVec 64} {offset : Nat} {reads : List (BitVec 64)} {found : List Nat}
    (small : offset < 2 ^ 33)
    (searches : ∀ rounds, getNextAcpiEntry tables firmware rounds table (some cursor) type =
      searchFrom firmware table type rounds offset reads)
    (readsSafe : ∀ address ∈ reads, InTable firmware table address)
    (behind : cursor ≠ 0 → (cursor - table).toNat < offset)
    (walk : WellStepped firmware table type offset found) :
    Enumerates tables firmware table type (SafeCall firmware table) cursor
      (found.map (atOffset table)) := by
  induction found generalizing cursor offset reads with
  | nil =>
      obtain ⟨rounds, call, returns, safe, result⟩ := searchFrom_of_wellStepped small walk reads
      have ends : call.err = .errNoMore := by
        rcases result with ⟨-, err⟩ | ⟨hit, later, found, -⟩
        · exact err
        · exact absurd found (by simp)
      have noEntry : call.err ≠ .errNone := by rw [ends]; decide
      refine .done ((searches rounds).trans returns) ⟨?_, fun err => absurd err noEntry,
        fun err => absurd err noEntry⟩ ends
      exact fun address read => (safe address read).elim (readsSafe address) id
  | cons first found inductionHypothesis =>
      obtain ⟨rounds, call, returns, safe, result⟩ := searchFrom_of_wellStepped small walk reads
      rcases result with ⟨none, -⟩ | ⟨hit, later, same, after, err, entry, header, positive,
        inside, rest⟩
      · exact absurd none (by simp)
      obtain ⟨rfl, rfl⟩ := List.cons.inj same
      have short : tableLength firmware table < 2 ^ 32 := tableLength_lt
      have place : (call.entry - table).toNat = first := by
        rw [entry, atOffset_sub_toNat (by omega)]
      have isSafe : SafeCall firmware table cursor call := by
        refine ⟨fun address read => (safe address read).elim (readsSafe address) id, ?_, ?_⟩
        · intro _
          rw [place, entry, entryLength_toNat]
          exact ⟨by omega, inside⟩
        · intro _ nonNull
          rw [place]
          exact Nat.lt_of_lt_of_le (behind nonNull) after
      rw [List.map_cons, ← entry]
      refine .next ((searches rounds).trans returns) isSafe err ?_
      rw [entry]
      have step : lengthAt firmware table first < 256 := lengthAt_lt first
      refine inductionHypothesis (by omega)
        (fun rounds => getNextAcpiEntry_next nonNull isTable (by omega)) ?_ ?_ rest
      · refine List.forall_mem_cons.mpr ⟨?_, inTable_lengthReads_iff.mpr long⟩
        exact (inTable_second_iff (by omega)).mpr header
      · intro _
        rw [atOffset_sub_toNat (by omega)]
        omega

/-- **Safety.**  An enumeration from `NULL` makes only calls that return, read within the
table and return entries that lie within it, each behind the one before, and ends with
`ERR_NO_MORE`, exactly when the table holds its length and the walk over its entries stays in
the table. -/
theorem enumerates_safely_iff (nonNull : table ≠ 0)
    (isTable : tableSize tables table = some tsize) :
    (∃ entries, Enumerates tables firmware table type (SafeCall firmware table) 0 entries) ↔
      8 ≤ tableLength firmware table ∧
        ∃ found, WellStepped firmware table type tsize.toNat found := by
  constructor
  · rintro ⟨entries, enumerates⟩
    exact wellStepped_of_enumerates nonNull isTable enumerates
  · rintro ⟨long, found, walk⟩
    exact ⟨_, enumerates_of_wellStepped nonNull isTable long (tableSize_small isTable)
      (fun rounds => getNextAcpiEntry_first nonNull isTable)
      (inTable_lengthReads_iff.mpr long) (absurd rfl) walk⟩

/-- A MADT of 52 bytes at `0x1000` with one entry of type 0 and the given length. -/
def oneEntry (length : BitVec 8) : Firmware := fun address =>
  if address = 0x1004 then 52 else if address = 0x102D then length else 0

/-- The walk over a table with one entry of 8 bytes. -/
theorem enumerates_safely_iff_oneEntry :
    ∃ entries, Enumerates ⟨0x1000, 0⟩ (oneEntry 8) 0x1000 0
      (SafeCall (oneEntry 8) 0x1000) 0 entries := by
  have isTable : tableSize ⟨0x1000, 0⟩ 0x1000 = some madtSize := by decide
  refine (enumerates_safely_iff (by decide) isTable).mpr ⟨by decide, [madtSize.toNat], ?_⟩
  exact .hit (by decide) (by decide) (by decide) (by decide) (.done (by decide))

/-- With an entry of length zero the search for entries of another type does not end. -/
theorem enumerates_safely_fails :
    ¬ ∃ entries, Enumerates ⟨0x1000, 0⟩ (oneEntry 0) 0x1000 1
      (SafeCall (oneEntry 0) 0x1000) 0 entries := by
  have isTable : tableSize ⟨0x1000, 0⟩ 0x1000 = some madtSize := by decide
  rintro ⟨entries, enumerates⟩
  obtain ⟨-, found, walk⟩ :=
    wellStepped_of_enumerates (by decide) isTable enumerates
  have zero : lengthAt (oneEntry 0) 0x1000 madtSize.toNat = 0 := by decide
  cases walk with
  | done past => exact absurd past (by decide)
  | skip header positive other rest => exact absurd positive (by rw [zero]; decide)
  | hit header positive matching inside rest => exact absurd positive (by rw [zero]; decide)

/-! ### Tables made of entries -/

/-- An entry of a table; its length byte counts its header as well. -/
structure Entry where
  type : BitVec 8
  body : List (BitVec 8)
  fits : body.length + 2 < 256

namespace Entry

/-- The length of an entry. -/
def length (entry : Entry) : Nat :=
  entry.body.length + 2

/-- The bytes of an entry. -/
def bytes (entry : Entry) : List (BitVec 8) :=
  entry.type :: BitVec.ofNat 8 entry.length :: entry.body

theorem bytes_length (entry : Entry) : entry.bytes.length = entry.length := rfl

/-- The entry is of the requested type. -/
def Wanted (type : BitVec 32) (entry : Entry) : Prop :=
  type = -1 ∨ entry.type.setWidth 32 = type

instance (type : BitVec 32) (entry : Entry) : Decidable (entry.Wanted type) :=
  inferInstanceAs (Decidable (_ ∨ _))

end Entry

/-- Memory holds these bytes from the offset of the table on. -/
def HoldsBytes (firmware : Firmware) (table : BitVec 64) (offset : Nat)
    (bytes : List (BitVec 8)) : Prop :=
  ∀ i byte, bytes[i]? = some byte → firmware (atOffset table (offset + i)) = byte

/-- The bytes of the table from the offset to its end are those of the entries. -/
structure MadeOf (firmware : Firmware) (table : BitVec 64) (offset : Nat)
    (entries : List Entry) : Prop where
  ends : offset + (entries.flatMap Entry.bytes).length = tableLength firmware table
  holds : HoldsBytes firmware table offset (entries.flatMap Entry.bytes)

/-- The offsets of the entries of the requested type, in order. -/
def wantedOffsets (type : BitVec 32) : Nat → List Entry → List Nat
  | _, [] => []
  | offset, entry :: entries =>
      if entry.Wanted type then
        offset :: wantedOffsets type (offset + entry.length) entries
      else wantedOffsets type (offset + entry.length) entries

/-- The first entry of a table is at its offset, and the others are behind it. -/
theorem MadeOf.cons {offset : Nat} {entry : Entry} {entries : List Entry}
    (made : MadeOf firmware table offset (entry :: entries)) (type : BitVec 32) :
    (Matches firmware table type offset ↔ entry.Wanted type) ∧
      lengthAt firmware table offset = entry.length ∧
        offset + entry.length ≤ tableLength firmware table ∧
          MadeOf firmware table (offset + entry.length) entries := by
  have ends := made.ends
  rw [List.flatMap_cons, List.length_append, Entry.bytes_length] at ends
  have holds := made.holds
  rw [List.flatMap_cons] at holds
  have first : firmware (atOffset table offset) = entry.type := holds 0 _ rfl
  have second : firmware (atOffset table (offset + 1)) = BitVec.ofNat 8 entry.length :=
    holds 1 _ rfl
  refine ⟨?_, ?_, by omega, by omega, ?_⟩
  · rw [Matches, Entry.Wanted, entryType, first]
  · have next : atOffset table offset + 1 = atOffset table (offset + 1) := atOffset_add offset 1
    rw [lengthAt, next, second, BitVec.toNat_ofNat]
    exact Nat.mod_eq_of_lt entry.fits
  · intro i byte present
    have later := holds (entry.length + i) byte
    rw [List.getElem?_append_right (by rw [Entry.bytes_length]; omega), Entry.bytes_length,
      Nat.add_sub_cancel_left, ← Nat.add_assoc] at later
    exact later present

/-- A table made of entries is walked well, and the walk meets the entries of the requested
type. -/
theorem MadeOf.wellStepped {offset : Nat} {entries : List Entry}
    (made : MadeOf firmware table offset entries) (type : BitVec 32) :
    WellStepped firmware table type offset (wantedOffsets type offset entries) := by
  induction entries generalizing offset with
  | nil => exact .done (Nat.le_of_eq made.ends.symm)
  | cons entry entries inductionHypothesis =>
      obtain ⟨matching, length, inside, rest⟩ := made.cons type
      have two : 2 ≤ entry.length := Nat.le_add_left 2 _
      have later := inductionHypothesis rest
      rw [← length] at later
      rw [wantedOffsets]
      split
      · rename_i wanted
        rw [← length]
        exact .hit (by omega) (by omega) (matching.mpr wanted) (by omega) later
      · rename_i other
        rw [← length]
        exact .skip (by omega) (by omega) (mt matching.mp other) later

/-- **Exactness.**  On a table that is made of entries behind its fixed part, an enumeration
from `NULL` returns exactly the entries of the requested type, each once and in order, and
then `ERR_NO_MORE`. -/
theorem enumerates_wantedOffsets (nonNull : table ≠ 0)
    (isTable : tableSize tables table = some tsize) (entries : List Entry)
    (made : MadeOf firmware table tsize.toNat entries) (type : BitVec 32) :
    Enumerates tables firmware table type (fun _ _ => True) 0
      ((wantedOffsets type tsize.toNat entries).map (atOffset table)) := by
  have fixed : 44 ≤ tsize.toNat := by
    rcases (tableSize_cases isTable).2 with rfl | rfl <;> decide
  have long : 8 ≤ tableLength firmware table := by
    have ends := made.ends
    omega
  exact (enumerates_of_wellStepped nonNull isTable long (tableSize_small isTable)
    (fun rounds => getNextAcpiEntry_first nonNull isTable) (inTable_lengthReads_iff.mpr long)
    (absurd rfl) (made.wellStepped type)).mono fun _ _ _ => trivial

/-- An entry of type 0 with six bytes behind its header. -/
def sixBytes : Entry where
  type := 0
  body := List.replicate 6 0
  fits := by decide

/-- An entry of type 1 with ten bytes behind its header. -/
def tenBytes : Entry where
  type := 1
  body := List.replicate 10 0
  fits := by decide

/-- A MADT of 64 bytes at `0x1000` with these two entries. -/
def twoEntries : Firmware := fun address =>
  if address = 0x1004 then 64 else if address = 0x102D then 8
  else if address = 0x1034 then 1 else if address = 0x1035 then 12 else 0

/-- The enumeration of a MADT with two entries finds the second one by its type. -/
theorem enumerates_wantedOffsets_second :
    Enumerates ⟨0x1000, 0⟩ twoEntries 0x1000 1 (fun _ _ => True) 0 [0x1034] := by
  have made : MadeOf twoEntries 0x1000 madtSize.toNat [sixBytes, tenBytes] := by
    refine ⟨by decide, ?_⟩
    intro i byte present
    have all : ∀ i < 20, ([sixBytes, tenBytes].flatMap Entry.bytes)[i]? =
        some (twoEntries (atOffset 0x1000 (madtSize.toNat + i))) := by
      decide
    have inside : i < 20 := (List.getElem?_eq_some_iff.mp present).1
    exact Option.some.inj ((all i inside).symm.trans present)
  have second : (wantedOffsets 1 madtSize.toNat [sixBytes, tenBytes]).map (atOffset 0x1000) =
      [0x1034] := by
    decide
  rw [← second]
  exact enumerates_wantedOffsets (by decide) (by decide) [sixBytes, tenBytes] made 1

end Acpi
end ToyKernel
