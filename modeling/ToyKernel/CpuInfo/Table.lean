import ToyKernel.CpuInfo.Widths

/-!
# The table of CPUs

`fill_cpu_descs` goes through the enabled local APICs of the MADT, and for each of them
through those of the SRAT.  On tables made of entries the result describes the first
`CONFIG_MAX_CPUS` of the enabled local APICs, in order.
-/

namespace ToyKernel
namespace CpuInfo

open Acpi Pci

/-! ### Parts of an APIC identifier -/

theorem toNat_ofInt_natCast {n : Nat} (small : n ≤ 31) : (BitVec.ofInt 64 n).toNat = n := by
  rw [BitVec.ofInt_natCast, BitVec.toNat_ofNat]
  omega

/-- The parts of an APIC identifier, as numbers. -/
structure Parts where
  thread : Nat
  core : Nat
  chip : Nat
  deriving DecidableEq

/-- The parts for some numbers of thread and core bits. -/
def partsOf (apicId threadBits coreBits : Nat) : Parts where
  thread := apicId % 2 ^ threadBits
  core := apicId / 2 ^ threadBits % 2 ^ coreBits
  chip := apicId / 2 ^ (threadBits + coreBits)

/-- The parts make up the identifier. -/
theorem partsOf_recombine (apicId threadBits coreBits : Nat) :
    (partsOf apicId threadBits coreBits).thread +
        2 ^ threadBits * (partsOf apicId threadBits coreBits).core +
        2 ^ (threadBits + coreBits) * (partsOf apicId threadBits coreBits).chip = apicId := by
  have low := Nat.mod_add_div apicId (2 ^ threadBits)
  have high := Nat.mod_add_div (apicId / 2 ^ threadBits) (2 ^ coreBits)
  rw [partsOf, Nat.pow_add, ← Nat.div_div_eq_div_mul, Nat.mul_assoc, Nat.add_assoc,
    ← Nat.mul_add, high, low]

/-- A mask of the lowest bits. -/
theorem toNat_mask {n : Nat} (small : n ≤ 31) :
    ((1 : BitVec 32) <<< n - 1).toNat = 2 ^ n - 1 := by
  have below : 2 ^ n ≤ 2 ^ 31 := Nat.pow_le_pow_right (by decide) small
  have positive : 0 < 2 ^ n := Nat.two_pow_pos n
  have one : (1 : BitVec 32).toNat = 1 := rfl
  rw [BitVec.toNat_sub, BitVec.toNat_shiftLeft, Nat.shiftLeft_eq, one]
  omega

/-- Masking the lowest bits of a number. -/
theorem toNat_and_mask (value : BitVec 32) {n : Nat} (small : n ≤ 31) :
    (value &&& ((1 : BitVec 32) <<< n - 1)).toNat = value.toNat % 2 ^ n := by
  rw [BitVec.toNat_and, toNat_mask small, Nat.and_two_pow_sub_one_eq_mod]

/-- No part is greater than the identifier. -/
theorem partsOf_le (apicId threadBits coreBits : Nat) :
    (partsOf apicId threadBits coreBits).thread ≤ apicId ∧
      (partsOf apicId threadBits coreBits).core ≤ apicId ∧
        (partsOf apicId threadBits coreBits).chip ≤ apicId :=
  ⟨Nat.mod_le .., (Nat.mod_le ..).trans (Nat.div_le_self ..), Nat.div_le_self ..⟩

/-- With usable widths all shifts are defined. -/
theorem splitApicId_eq (apicId : BitVec 8) {threadBits coreBits : Nat}
    (short : threadBits + coreBits ≤ 31) :
    splitApicId apicId ⟨threadBits, coreBits⟩ =
      some (BitVec.ofNat 8 (partsOf apicId.toNat threadBits coreBits).thread,
        BitVec.ofNat 8 (partsOf apicId.toNat threadBits coreBits).core,
        BitVec.ofNat 8 (partsOf apicId.toNat threadBits coreBits).chip) := by
  have sum : (threadBits : Int) + coreBits = (threadBits + coreBits : Nat) := by omega
  rw [splitApicId]
  simp only [sum]
  rw [shiftLeft_of_lt 1 (toNat_ofInt_natCast (by omega)) (by omega),
    shiftRight_of_lt _ (toNat_ofInt_natCast (by omega)) (by omega),
    shiftLeft_of_lt 1 (toNat_ofInt_natCast (by omega)) (by omega),
    shiftRight_of_lt _ (toNat_ofInt_natCast short) (by omega)]
  have id : (BitVec.ofNat 32 apicId.toNat).toNat = apicId.toNat := by
    rw [BitVec.ofNat_toNat, BitVec.toNat_setWidth_of_le (by decide)]
  simp only [Option.bind_eq_bind, Option.bind_some, ← BitVec.ofNat_toNat,
    toNat_and_mask _ (show threadBits ≤ 31 by omega),
    toNat_and_mask _ (show coreBits ≤ 31 by omega), BitVec.toNat_ushiftRight,
    Nat.shiftRight_eq_div_pow, id]
  rfl

/-- The shifts are defined for the widths that `get_thread_core_bits` yields. -/
theorem Usable.splits {cpuid : Cpuid} (usable : Usable cpuid) :
    ∃ bits, getThreadCoreBits cpuid = some bits ∧
      ∀ apicId, (splitApicId apicId bits).isSome = true := by
  obtain ⟨⟨thread, core⟩, found, widths, -⟩ := usable
  refine ⟨_, found, fun apicId => ?_⟩
  obtain ⟨threadBits, rfl⟩ := Int.eq_ofNat_of_zero_le widths.thread
  obtain ⟨coreBits, rfl⟩ := Int.eq_ofNat_of_zero_le widths.core
  have short : (threadBits : Int) + coreBits ≤ 31 := widths.sum
  rw [splitApicId_eq apicId (by omega)]
  rfl

/-! ### Local APICs -/

section LocalApics

/-- The member `enabled` of an entry for a local APIC. -/
def enabled (entry : Entry) : Bool :=
  (entry.byte 4).getLsbD 0

/-- The member `apic_id`. -/
def apicId (entry : Entry) : BitVec 8 :=
  entry.byte 3

/-- The proximity domain of an entry of the SRAT, from its lowest byte and its three higher
ones. -/
def proximityDomain (entry : Entry) : BitVec 32 :=
  entry.byte 11 ++ entry.byte 10 ++ entry.byte 9 ++ entry.byte 2

/-- The enabled local APICs among the entries of a table. -/
def enabledLapics (type : BitVec 32) (entries : List Entry) : List Entry :=
  (entries.filter (Entry.Wanted type)).filter enabled

/-- The identifiers of the enabled local APICs of a MADT. -/
def enabledIds (entries : List Entry) : List (BitVec 8) :=
  (enabledLapics acpiMadtLapicType entries).map apicId

/-- The proximity domain of the last enabled entry of a SRAT for an APIC identifier. -/
def domainOf (entries : List Entry) (id : BitVec 8) : Option (BitVec 32) :=
  (((enabledLapics acpiSratLapicType entries).filter (apicId · = id)).getLast?).map
    proximityDomain

variable {firmware : Firmware} {address : BitVec 64} {entry : Entry}

theorem entryEnabled_eq (holds : HoldsEntry firmware address entry) (long : 8 ≤ entry.length) :
    entryEnabled firmware address = enabled entry :=
  congrArg (BitVec.getLsbD · 0) (holds 4 (by omega))

theorem entryApicId_eq (holds : HoldsEntry firmware address entry) (long : 8 ≤ entry.length) :
    entryApicId firmware address = apicId entry :=
  holds 3 (by omega)

theorem toNat_append_byte {w : Nat} (high : BitVec w) (low : BitVec 8) :
    (high ++ low).toNat = high.toNat * 2 ^ 8 + low.toNat := by
  rw [BitVec.toNat_append, ← Nat.shiftLeft_add_eq_or_of_lt low.isLt, Nat.shiftLeft_eq]

/-- The parts of a proximity domain are added up without carries. -/
theorem entryDomain_eq (holds : HoldsEntry firmware address entry) (long : 16 ≤ entry.length) :
    entryDomain firmware address = proximityDomain entry := by
  have byte (i : Nat) (inside : i < 16) :
      firmware (address + BitVec.ofNat 64 i) = entry.byte i :=
    holds i (Nat.lt_of_lt_of_le inside long)
  have sum (a b c d : BitVec 8) :
      d.setWidth 32 + (b ++ c).setWidth 32 <<< 8 + a.setWidth 32 <<< 24 = a ++ b ++ c ++ d := by
    apply BitVec.eq_of_toNat_eq
    simp only [toNat_append_byte, BitVec.toNat_add, BitVec.toNat_shiftLeft,
      BitVec.toNat_setWidth, Nat.shiftLeft_eq]
    omega
  rw [entryDomain, proximityDomain, ← byte 2 (by decide), ← byte 9 (by decide),
    ← byte 10 (by decide), ← byte 11 (by decide)]
  exact sum _ _ _ _

end LocalApics

/-! ### The loops -/

section Loops

variable {tables : Tables} {firmware : Firmware} {madt srat : List Entry}

/-- The entries that a MADT is made of; those for local APICs have all their members. -/
structure WellFormedMadt (tables : Tables) (firmware : Firmware) (entries : List Entry) :
    Prop where
  present : getAcpiMadt tables ≠ 0
  madeOf : MadeOf firmware (getAcpiMadt tables) madtSize.toNat entries
  lapics : ∀ entry ∈ entries, entry.Wanted acpiMadtLapicType → 8 ≤ entry.length

/-- The entries that a SRAT is made of, none if it is absent. -/
inductive WellFormedSrat (tables : Tables) (firmware : Firmware) : List Entry → Prop
  | absent (isNull : getAcpiSrat tables = 0) : WellFormedSrat tables firmware []
  | present {entries : List Entry}
      (notNull : getAcpiSrat tables ≠ 0) (apart : getAcpiSrat tables ≠ getAcpiMadt tables)
      (madeOf : MadeOf firmware (getAcpiSrat tables) sratSize.toNat entries)
      (lapics : ∀ entry ∈ entries, entry.Wanted acpiSratLapicType → 16 ≤ entry.length) :
      WellFormedSrat tables firmware entries

/-- The last entry for an identifier decides. -/
theorem forIn_domain (entries : List Entry) (id : BitVec 8) (domain : BitVec 32) :
    (forIn entries domain fun entry domain =>
        some (.yield
          (if enabled entry ∧ apicId entry = id then proximityDomain entry else domain))) =
      some (((((entries.filter enabled).filter (apicId · = id)).getLast?).map
        proximityDomain).getD domain) := by
  induction entries generalizing domain with
  | nil => rfl
  | cons entry entries inductionHypothesis =>
      rw [List.forIn_cons, Option.bind_eq_bind, Option.bind_some]
      simp only [inductionHypothesis]
      by_cases isEnabled : enabled entry = true
      · rw [List.filter_cons_of_pos isEnabled]
        by_cases same : apicId entry = id
        · rw [if_pos ⟨isEnabled, same⟩, List.filter_cons_of_pos (by simpa using same),
            List.getLast?_cons]
          cases ((entries.filter enabled).filter (apicId · = id)).getLast? <;> rfl
        · rw [if_neg fun both => same both.2, List.filter_cons_of_neg (by simpa using same)]
      · rw [if_neg fun both => isEnabled both.1, List.filter_cons_of_neg isEnabled]

/-- The loop over the SRAT finds the proximity domain. -/
theorem findDomain_eq (wellFormed : WellFormedSrat tables firmware srat) :
    ∃ enough, ∀ rounds ≥ enough, ∀ id domain,
      findDomain tables firmware rounds id domain = some ((domainOf srat id).getD domain) := by
  cases wellFormed with
  | absent isNull =>
      refine ⟨1, fun rounds many id domain => ?_⟩
      rw [findDomain, isNull, forEachEntry_of_null many]
      rfl
  | present notNull apart madeOf lapics =>
      have isTable : tableSize tables (getAcpiSrat tables) = some sratSize := by
        rw [tableSize, if_neg apart, if_pos rfl]
      obtain ⟨enough, loops⟩ :=
        forEachEntry_of_madeOf notNull isTable madeOf acpiSratLapicType
      refine ⟨enough, fun rounds many id domain => ?_⟩
      rw [findDomain, loops rounds many _ _ _ domain]
      · exact forIn_domain _ id domain
      · intro entry present wanted address holds
        have long := lapics entry present wanted
        rw [entryEnabled_eq holds (by omega), entryApicId_eq holds (by omega),
          entryDomain_eq holds long]

/-- Describe one more CPU. -/
def addCpu (srat : List Entry) (threadBits coreBits : Nat) (table : CpuTable)
    (id : BitVec 8) : CpuTable :=
  let parts := partsOf id.toNat threadBits coreBits
  { num := table.num + 1
    descs := Function.update table.descs table.num
      { id := id
        thread := BitVec.ofNat 8 parts.thread
        core := BitVec.ofNat 8 parts.core
        chip := BitVec.ofNat 8 parts.chip
        domain := (domainOf srat id).getD (table.descs table.num).domain }
    cpuIndexes := Function.update table.cpuIndexes id (BitVec.ofNat 8 table.num) }

variable {threadBits coreBits : Nat}

/-- The loop over the local APICs of a MADT stops at `CONFIG_MAX_CPUS`. -/
theorem forIn_addCpu (entries : List Entry) (table : CpuTable) :
    (forIn entries table fun entry table =>
        if enabled entry then
          if table.num ≥ configMaxCpus then some (.done table)
          else some (.yield (addCpu srat threadBits coreBits table (apicId entry)))
        else some (.yield table)) =
      some ((((entries.filter enabled).map apicId).take (configMaxCpus - table.num)).foldl
        (addCpu srat threadBits coreBits) table) := by
  induction entries generalizing table with
  | nil => simp
  | cons entry entries inductionHypothesis =>
      rw [List.forIn_cons]
      by_cases isEnabled : enabled entry = true
      · rw [if_pos isEnabled, List.filter_cons_of_pos isEnabled, List.map_cons]
        by_cases full : table.num ≥ configMaxCpus
        · rw [if_pos full, Nat.sub_eq_zero_of_le full]
          rfl
        · rw [if_neg full]
          have room : configMaxCpus - table.num = configMaxCpus - (table.num + 1) + 1 := by omega
          rw [room, List.take_succ_cons, List.foldl_cons]
          exact inductionHypothesis (addCpu srat threadBits coreBits table (apicId entry))
      · rw [if_neg isEnabled, List.filter_cons_of_neg isEnabled]
        exact inductionHypothesis table

/-- `fill_cpu_descs` describes the enabled local APICs, as far as there is room. -/
theorem fillCpuDescs_eq (wellFormed : WellFormedMadt tables firmware madt)
    (affinities : WellFormedSrat tables firmware srat) (short : threadBits + coreBits ≤ 31) :
    ∃ enough, ∀ rounds ≥ enough,
      fillCpuDescs tables firmware rounds ⟨threadBits, coreBits⟩ .empty =
        some (((enabledIds madt).take configMaxCpus).foldl
          (addCpu srat threadBits coreBits) .empty) := by
  have isTable : tableSize tables (getAcpiMadt tables) = some madtSize := by
    rw [tableSize, if_pos rfl]
  obtain ⟨least, domains⟩ := findDomain_eq affinities
  obtain ⟨enough, loops⟩ :=
    forEachEntry_of_madeOf wellFormed.present isTable wellFormed.madeOf acpiMadtLapicType
  refine ⟨max least enough, fun rounds many => ?_⟩
  have described (id : BitVec 8) (table : CpuTable) :
      fillCpuDesc tables firmware rounds ⟨threadBits, coreBits⟩ id table =
        some (addCpu srat threadBits coreBits table id) := by
    rw [fillCpuDesc, splitApicId_eq id short, domains rounds (by omega)]
    rfl
  rw [fillCpuDescs, loops rounds (by omega) _ _ _ _]
  · exact forIn_addCpu _ _
  · intro entry present wanted address holds
    have long := wellFormed.lapics entry present wanted
    simp only [entryEnabled_eq holds long, entryApicId_eq holds long, described,
      Option.bind_eq_bind, Option.bind_some]

/-- The descriptor of a CPU. -/
def describe (srat : List Entry) (threadBits coreBits : Nat) (id : BitVec 8) : CpuDesc :=
  let parts := partsOf id.toNat threadBits coreBits
  { id := id
    thread := BitVec.ofNat 8 parts.thread
    core := BitVec.ofNat 8 parts.core
    chip := BitVec.ofNat 8 parts.chip
    domain := (domainOf srat id).getD 0 }

/-- The members of a descriptor have room for the parts of the identifier. -/
theorem describe_parts (srat : List Entry) (threadBits coreBits : Nat) (id : BitVec 8) :
    let desc := describe srat threadBits coreBits id
    let parts := partsOf id.toNat threadBits coreBits
    desc.thread.toNat = parts.thread ∧ desc.core.toNat = parts.core ∧
      desc.chip.toNat = parts.chip := by
  obtain ⟨thread, core, chip⟩ := partsOf_le id.toNat threadBits coreBits
  have small := id.isLt
  refine ⟨?_, ?_, ?_⟩ <;> exact Nat.mod_eq_of_lt (by omega)

/-- The table holds the descriptors of these CPUs, and nothing yet behind them. -/
structure Filled (srat : List Entry) (threadBits coreBits : Nat) (ids : List (BitVec 8))
    (table : CpuTable) : Prop where
  num : table.num = ids.length
  descs : ∀ i (inside : i < ids.length),
    table.descs i = describe srat threadBits coreBits ids[i]
  free : ∀ i, ids.length ≤ i → (table.descs i).domain = 0
  indexes : ids.Nodup → ∀ i (inside : i < ids.length),
    table.cpuIndexes ids[i] = BitVec.ofNat 8 i

theorem Filled.addCpu {ids : List (BitVec 8)} {table : CpuTable}
    (filled : Filled srat threadBits coreBits ids table) (id : BitVec 8) :
    Filled srat threadBits coreBits (ids ++ [id]) (addCpu srat threadBits coreBits table id) where
  num := by
    rw [List.length_append, List.length_singleton, ← filled.num]
    rfl
  descs := by
    intro i inside
    rw [List.length_append, List.length_singleton] at inside
    by_cases last : i = ids.length
    · subst last
      simp only [CpuInfo.addCpu, filled.num, Function.update_self, List.getElem_concat_length,
        filled.free ids.length le_rfl]
      rfl
    · have before : i < ids.length := by omega
      simp only [CpuInfo.addCpu, filled.num, Function.update_of_ne last,
        List.getElem_append_left before, filled.descs i before]
  free := by
    intro i behind
    rw [List.length_append, List.length_singleton] at behind
    have other : i ≠ ids.length := by omega
    simp only [CpuInfo.addCpu, filled.num, Function.update_of_ne other]
    exact filled.free i (by omega)
  indexes := by
    intro nodup i inside
    rw [List.length_append, List.length_singleton] at inside
    obtain ⟨before, -, disjoint⟩ := List.nodup_append.mp nodup
    by_cases last : i = ids.length
    · subst last
      simp only [CpuInfo.addCpu, filled.num, List.getElem_concat_length, Function.update_self]
    · have earlier : i < ids.length := by omega
      have other : ids[i] ≠ id := disjoint _ (List.getElem_mem earlier) _ (by simp)
      simp only [CpuInfo.addCpu, List.getElem_append_left earlier,
        Function.update_of_ne other, filled.indexes before i earlier]

/-- The table after describing a number of CPUs. -/
theorem filled_foldl (srat : List Entry) (threadBits coreBits : Nat) (ids : List (BitVec 8)) :
    Filled srat threadBits coreBits ids
      (ids.foldl (addCpu srat threadBits coreBits) .empty) := by
  induction ids using List.reverseRecOn with
  | nil => exact ⟨rfl, by simp, fun _ _ => rfl, by simp⟩
  | append_singleton ids id inductionHypothesis =>
      rw [List.foldl_append]
      exact inductionHypothesis.addCpu id

end Loops

/-! ### What the table says -/

/-- The table describes the CPUs with these identifiers, as far as there is room for them. -/
structure Describes (table : CpuTable) (ids : List (BitVec 8)) (srat : List Entry)
    (bits : Bits) : Prop where
  num : table.num = min configMaxCpus ids.length
  id : ∀ i (inside : i < ids.length), i < table.num → (table.descs i).id = ids[i]
  index : ∀ i < table.num, (table.cpuIndexes (table.descs i).id).toNat = i
  thread : ∀ i < table.num, (table.descs i).thread.toNat < 2 ^ bits.thread.toNat
  core : ∀ i < table.num, (table.descs i).core.toNat < 2 ^ bits.core.toNat
  recombines : ∀ i < table.num,
    (table.descs i).thread.toNat + 2 ^ bits.thread.toNat * (table.descs i).core.toNat +
        2 ^ (bits.thread.toNat + bits.core.toNat) * (table.descs i).chip.toNat =
      (table.descs i).id.toNat
  differ : ∀ i < table.num, ∀ j < table.num,
    (table.descs i).thread = (table.descs j).thread →
      (table.descs i).core = (table.descs j).core →
        (table.descs i).chip = (table.descs j).chip → i = j
  domain : ∀ i < table.num,
    (table.descs i).domain = (domainOf srat (table.descs i).id).getD 0

variable {tables : Tables} {firmware : Firmware} {madt srat : List Entry} {bits : Bits}

theorem Filled.describes {ids : List (BitVec 8)} {table : CpuTable} {threadBits coreBits : Nat}
    (filled : Filled srat threadBits coreBits (ids.take configMaxCpus) table)
    (distinct : ids.Nodup) : Describes table ids srat ⟨threadBits, coreBits⟩ := by
  have num := filled.num
  have taken : (ids.take configMaxCpus).Nodup := distinct.sublist (List.take_sublist ..)
  have room : (ids.take configMaxCpus).length ≤ 16 := by
    rw [List.length_take]
    exact Nat.min_le_left ..
  have desc : ∀ i (inside : i < table.num), table.descs i =
      describe srat threadBits coreBits (ids.take configMaxCpus)[i] :=
    fun i inside => filled.descs i (num ▸ inside)
  have recombines : ∀ i < table.num,
      (table.descs i).thread.toNat + 2 ^ threadBits * (table.descs i).core.toNat +
          2 ^ (threadBits + coreBits) * (table.descs i).chip.toNat =
        (table.descs i).id.toNat := by
    intro i inside
    obtain ⟨thread, core, chip⟩ :=
      describe_parts srat threadBits coreBits (ids.take configMaxCpus)[i]
    rw [desc i inside, thread, core, chip]
    exact partsOf_recombine ..
  refine ⟨?_, ?_, ?_, ?_, ?_, recombines, ?_, ?_⟩
  · rw [num, List.length_take]
  · intro i inside few
    rw [desc i few, List.getElem_take]
    rfl
  · intro i few
    rw [desc i few]
    have index := filled.indexes taken i (num ▸ few)
    refine (congrArg BitVec.toNat index).trans (Nat.mod_eq_of_lt ?_)
    omega
  · intro i few
    rw [desc i few, (describe_parts srat threadBits coreBits _).1]
    exact Nat.mod_lt _ (Nat.two_pow_pos _)
  · intro i few
    rw [desc i few, (describe_parts srat threadBits coreBits _).2.1]
    exact Nat.mod_lt _ (Nat.two_pow_pos _)
  · intro i few j fewer thread core chip
    have same : (table.descs i).id = (table.descs j).id := by
      apply BitVec.eq_of_toNat_eq
      rw [← recombines i few, ← recombines j fewer, thread, core, chip]
    rw [desc i few, desc j fewer] at same
    exact (taken.getElem_inj_iff).mp same
  · intro i few
    rw [desc i few]
    rfl

/-- `fill_cpu_descs` describes the enabled local APICs of a well-formed MADT, each with the
proximity domain that a well-formed SRAT gives it last. -/
theorem fillCpuDescs_describes (wellFormed : WellFormedMadt tables firmware madt)
    (affinities : WellFormedSrat tables firmware srat) (distinct : (enabledIds madt).Nodup)
    (thread : 0 ≤ bits.thread) (core : 0 ≤ bits.core) (sum : bits.thread + bits.core ≤ 8) :
    ∃ enough, ∀ rounds ≥ enough, ∃ table,
      fillCpuDescs tables firmware rounds bits .empty = some table ∧
        Describes table (enabledIds madt) srat bits := by
  obtain ⟨threadBits, coreBits⟩ := bits
  obtain ⟨threadBits, rfl⟩ := Int.eq_ofNat_of_zero_le thread
  obtain ⟨coreBits, rfl⟩ := Int.eq_ofNat_of_zero_le core
  have short : (threadBits : Int) + coreBits ≤ 8 := sum
  obtain ⟨enough, fills⟩ := fillCpuDescs_eq wellFormed affinities
    (show threadBits + coreBits ≤ 31 by omega)
  exact ⟨enough, fun rounds many =>
    ⟨_, fills rounds many, (filled_foldl srat threadBits coreBits _).describes distinct⟩⟩

/-- The enabled local APIC 5 in a MADT. -/
def lapic : Entry where
  type := 0
  body := [0, 5, 1, 0, 0, 0]
  fits := by decide

/-- The enabled local APIC 6. -/
def otherLapic : Entry where
  type := 0
  body := [1, 6, 1, 0, 0, 0]
  fits := by decide

/-- The entry of the first one in a SRAT. -/
def affinity : Entry where
  type := 0
  body := [7, 5, 1, 0, 0, 0, 0, 1, 0, 2, 0, 0, 0, 0]
  fits := by decide

/-- The entry of the other one, in another domain. -/
def otherAffinity : Entry where
  type := 0
  body := [8, 6, 1, 0, 0, 0, 0, 1, 0, 2, 0, 0, 0, 0]
  fits := by decide

/-- The MADT at `0x1000`, and the SRAT at `0x2000`. -/
def twoCpus : Firmware := fun address =>
  if address < 0x2000 then
    ([0, 0, 0, 0, 60, 0, 0, 0] ++ List.replicate 36 0 ++ lapic.bytes ++ otherLapic.bytes).getD
      (address - 0x1000).toNat 0
  else
    ([0, 0, 0, 0, 80, 0, 0, 0] ++ List.replicate 40 0 ++ affinity.bytes ++
      otherAffinity.bytes).getD (address - 0x2000).toNat 0

theorem wellFormedMadt_twoCpus : WellFormedMadt ⟨0x1000, 0x2000⟩ twoCpus [lapic, otherLapic] where
  present := by decide
  madeOf := by
    refine ⟨by decide +kernel, fun i byte present => ?_⟩
    have all : ∀ i < 16, ([lapic, otherLapic].flatMap Entry.bytes)[i]? =
        some (twoCpus (atOffset 0x1000 (madtSize.toNat + i))) := by
      decide +kernel
    have inside : i < 16 := (List.getElem?_eq_some_iff.mp present).1
    exact Option.some.inj ((all i inside).symm.trans present)
  lapics := by decide

theorem wellFormedSrat_twoCpus :
    WellFormedSrat ⟨0x1000, 0x2000⟩ twoCpus [affinity, otherAffinity] := by
  refine .present (by decide) (by decide) ⟨by decide +kernel, fun i byte present => ?_⟩
    (by decide)
  have all : ∀ i < 32, ([affinity, otherAffinity].flatMap Entry.bytes)[i]? =
      some (twoCpus (atOffset 0x2000 (sratSize.toNat + i))) := by
    decide +kernel
  have inside : i < 32 := (List.getElem?_eq_some_iff.mp present).1
  exact Option.some.inj ((all i inside).symm.trans present)

theorem fillCpuDescs_describes_twoCpus :
    ∃ enough, ∀ rounds ≥ enough, ∃ table,
      fillCpuDescs ⟨0x1000, 0x2000⟩ twoCpus rounds ⟨1, 2⟩ .empty = some table ∧
        Describes table [5, 6] [affinity, otherAffinity] ⟨1, 2⟩ :=
  fillCpuDescs_describes wellFormedMadt_twoCpus wellFormedSrat_twoCpus (by decide) (by decide)
    (by decide) (by decide)

end CpuInfo
end ToyKernel
