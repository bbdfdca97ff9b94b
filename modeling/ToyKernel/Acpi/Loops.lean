import ToyKernel.Acpi.Enumeration

/-!
# Loops over the entries of a table

The loop `while (!get_next_acpi_entry(table, &entry, type))` does its body for the entries
that an enumeration returns, and on a table made of entries for those of the requested type.
-/

namespace ToyKernel
namespace Acpi

/-- The loop, with a body that may break.  Each call of `get_next_acpi_entry` may take the
given number of rounds, and the loop itself as many as the fuel; `none` when these do not
suffice. -/
def forEachEntry {σ : Type} (tables : Tables) (firmware : Firmware) (rounds : Nat)
    (table : BitVec 64) (type : BitVec 32) (body : BitVec 64 → σ → Option (ForInStep σ)) :
    Nat → BitVec 64 → σ → Option σ
  | 0, _, _ => none
  | fuel + 1, entry, state => do
      let call ← getNextAcpiEntry tables firmware rounds table (some entry) type
      if call.err = .errNone then
        match ← body call.entry state with
        | .done state => some state
        | .yield state =>
            forEachEntry tables firmware rounds table type body fuel call.entry state
      else
        some state

variable {tables : Tables} {firmware : Firmware} {table : BitVec 64} {type : BitVec 32}

/-! ### Enough rounds -/

theorem findEntry_mono {length : BitVec 32} {rounds more : Nat} {entry : BitVec 64}
    {reads : List (BitVec 64)} {call : Call}
    (returns : findEntry firmware table length type rounds entry reads = some call)
    (enough : rounds ≤ more) :
    findEntry firmware table length type more entry reads = some call := by
  induction rounds generalizing more entry reads with
  | zero => cases returns
  | succ rounds inductionHypothesis =>
      obtain ⟨more, rfl⟩ : ∃ less, more = less + 1 := ⟨more - 1, by omega⟩
      rw [findEntry] at returns ⊢
      split at returns
      next inside =>
          rw [if_pos inside]
          split at returns
          next all => rwa [if_pos all]
          next some =>
              rw [if_neg some]
              split at returns
              next same => rwa [if_pos same]
              next other =>
                  rw [if_neg other]
                  exact inductionHypothesis returns (Nat.le_of_succ_le_succ enough)
      next outside => rwa [if_neg outside]

/-- A call that returns does so with more rounds. -/
theorem getNextAcpiEntry_mono {rounds more : Nat} {entry : BitVec 64} {call : Call}
    (returns : getNextAcpiEntry tables firmware rounds table (some entry) type = some call)
    (enough : rounds ≤ more) :
    getNextAcpiEntry tables firmware more table (some entry) type = some call := by
  rw [getNextAcpiEntry] at returns ⊢
  split at returns
  next isNull => rwa [if_pos isNull]
  next notNull =>
      rw [if_neg notNull]
      cases size : tableSize tables table with
      | none => rwa [size] at returns
      | some tsize =>
          rw [size] at returns
          exact findEntry_mono returns enough

/-! ### The loop -/

section Loop

variable {σ : Type} {allowed : BitVec 64 → Call → Prop} {cursor : BitVec 64}
  {entries : List (BitVec 64)}

/-- The loop does its body for the entries of an enumeration. -/
theorem forEachEntry_of_enumerates
    (enumerates : Enumerates tables firmware table type allowed cursor entries) :
    ∃ enough, ∀ rounds ≥ enough, ∀ fuel ≥ enough,
      ∀ (body : BitVec 64 → σ → Option (ForInStep σ)) (state : σ),
        forEachEntry tables firmware rounds table type body fuel cursor state =
          forIn entries state body := by
  induction enumerates with
  | @done cursor call rounds returns isAllowed err =>
      refine ⟨rounds + 1, fun more enough fuel fueled body state => ?_⟩
      obtain ⟨fuel, rfl⟩ : ∃ less, fuel = less + 1 := ⟨fuel - 1, by omega⟩
      rw [forEachEntry, getNextAcpiEntry_mono returns (by omega)]
      simp [err]
  | @next cursor call rounds entries returns isAllowed err later inductionHypothesis =>
      obtain ⟨least, rest⟩ := inductionHypothesis
      refine ⟨max rounds least + 1, fun more enough fuel fueled body state => ?_⟩
      obtain ⟨fuel, rfl⟩ : ∃ less, fuel = less + 1 := ⟨fuel - 1, by omega⟩
      rw [forEachEntry, getNextAcpiEntry_mono returns (by omega), List.forIn_cons]
      simp only [Option.bind_eq_bind, Option.bind_some, err, if_true]
      refine congrArg (Option.bind _) (funext fun step => ?_)
      cases step with
      | done state => rfl
      | yield state => exact rest more (by omega) fuel (by omega) body state

/-- There are no entries in a table that is absent. -/
theorem forEachEntry_of_null {rounds fuel : Nat} (fueled : 1 ≤ fuel)
    (body : BitVec 64 → σ → Option (ForInStep σ)) (state : σ) :
    forEachEntry tables firmware rounds 0 type body fuel cursor state = some state := by
  obtain ⟨fuel, rfl⟩ : ∃ less, fuel = less + 1 := ⟨fuel - 1, by omega⟩
  simp [forEachEntry, getNextAcpiEntry]

end Loop

/-! ### Loops over tables made of entries -/

/-- A byte of an entry, by its offset. -/
def Entry.byte (entry : Entry) (i : Nat) : BitVec 8 :=
  entry.bytes.getD i 0

/-- Memory holds an entry at an address. -/
def HoldsEntry (firmware : Firmware) (address : BitVec 64) (entry : Entry) : Prop :=
  ∀ i < entry.length, firmware (address + BitVec.ofNat 64 i) = entry.byte i

/-- The first entry of a table is at its offset. -/
theorem MadeOf.holdsEntry {offset : Nat} {entry : Entry} {entries : List Entry}
    (made : MadeOf firmware table offset (entry :: entries)) :
    HoldsEntry firmware (atOffset table offset) entry := by
  intro i inside
  have present : entry.bytes[i]? = some (entry.byte i) := by
    rw [Entry.byte, List.getD_eq_getElem?_getD, List.getElem?_eq_getElem inside,
      Option.getD_some]
  rw [atOffset_add]
  apply made.holds
  rw [List.flatMap_cons, List.getElem?_append_left inside, present]

/-- A body that depends on the bytes of the entries only acts on the entries of the
requested type. -/
theorem MadeOf.forIn_eq {σ : Type} {offset : Nat} {entries : List Entry}
    (made : MadeOf firmware table offset entries)
    {body : BitVec 64 → σ → Option (ForInStep σ)} {bodyOf : Entry → σ → Option (ForInStep σ)}
    (agree : ∀ entry ∈ entries, entry.Wanted type → ∀ address,
      HoldsEntry firmware address entry → body address = bodyOf entry) (state : σ) :
    forIn ((wantedOffsets type offset entries).map (atOffset table)) state body =
      forIn (entries.filter (Entry.Wanted type)) state bodyOf := by
  induction entries generalizing offset state with
  | nil => rfl
  | cons entry entries inductionHypothesis =>
      obtain ⟨-, -, -, rest⟩ := made.cons type
      have later := inductionHypothesis rest fun other present =>
        agree other (List.mem_cons_of_mem _ present)
      rw [wantedOffsets]
      by_cases wanted : entry.Wanted type
      · rw [if_pos wanted, List.map_cons, List.forIn_cons,
          List.filter_cons_of_pos (by simpa using wanted), List.forIn_cons,
          agree entry List.mem_cons_self wanted _ made.holdsEntry]
        refine congrArg (Option.bind _) (funext fun step => ?_)
        cases step with
        | done state => rfl
        | yield state => exact later state
      · rw [if_neg wanted, List.filter_cons_of_neg (by simpa using wanted)]
        exact later state

/-- The loop over a table made of entries. -/
theorem forEachEntry_of_madeOf {σ : Type} {tsize : BitVec 64} {entries : List Entry}
    (nonNull : table ≠ 0) (isTable : tableSize tables table = some tsize)
    (made : MadeOf firmware table tsize.toNat entries) (type : BitVec 32) :
    ∃ enough, ∀ rounds ≥ enough,
      ∀ (body : BitVec 64 → σ → Option (ForInStep σ)) (bodyOf : Entry → σ → Option (ForInStep σ)),
        (∀ entry ∈ entries, entry.Wanted type → ∀ address,
          HoldsEntry firmware address entry → body address = bodyOf entry) →
        ∀ state, forEachEntry tables firmware rounds table type body rounds 0 state =
          forIn (entries.filter (Entry.Wanted type)) state bodyOf := by
  obtain ⟨enough, loops⟩ :=
    forEachEntry_of_enumerates (enumerates_wantedOffsets nonNull isTable entries made type)
  refine ⟨enough, fun rounds many body bodyOf agree state => ?_⟩
  rw [loops rounds many rounds many body state, made.forIn_eq agree]

end Acpi
end ToyKernel
