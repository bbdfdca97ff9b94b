import Mathlib.Data.BitVec

/-!
# Segment and gate descriptors

The descriptors that `cpu.h` lays out as bit-fields, and the fields that the processor finds in
them.
-/

namespace ToyKernel
namespace Interrupts

/-! ## The structures of the kernel -/

/-- `struct gdt_desc`, lowest field first. -/
@[ext]
structure GdtDesc where
  limit0 : BitVec 16
  base0 : BitVec 16
  base1 : BitVec 8
  type : BitVec 4
  nonsys : BitVec 1
  dpl : BitVec 2
  present : BitVec 1
  limit1 : BitVec 4
  avl : BitVec 1
  bits64 : BitVec 1
  bits32 : BitVec 1
  gran : BitVec 1
  base2 : BitVec 8
  deriving DecidableEq

/-- `struct gdt_desc2`; its last three fields are `reserved`. -/
@[ext]
structure GdtDesc2 where
  base : GdtDesc
  base3 : BitVec 32
  reserved : BitVec 32
  deriving DecidableEq

/-- `struct idt_desc`, lowest field first. -/
@[ext]
structure IdtDesc where
  handler0 : BitVec 16
  cs : BitVec 16
  ist : BitVec 3
  reserved0 : BitVec 5
  type : BitVec 4
  zero : BitVec 1
  dpl : BitVec 2
  present : BitVec 1
  handler1 : BitVec 16
  handler2 : BitVec 32
  reserved1 : BitVec 32
  deriving DecidableEq

namespace GdtDesc

/-- A descriptor all of whose fields are zero. -/
def zero : GdtDesc := ⟨0, 0, 0, 0, 0, 0, 0, 0, 0, 0, 0, 0, 0⟩

/-- The descriptor in memory. -/
def word (desc : GdtDesc) : BitVec 64 :=
  desc.base2 ++ desc.gran ++ desc.bits32 ++ desc.bits64 ++ desc.avl ++ desc.limit1 ++
    desc.present ++ desc.dpl ++ desc.nonsys ++ desc.type ++ desc.base1 ++ desc.base0 ++
    desc.limit0

/-- The fields of a descriptor in memory. -/
def ofWord (word : BitVec 64) : GdtDesc where
  limit0 := word.extractLsb' 0 16
  base0 := word.extractLsb' 16 16
  base1 := word.extractLsb' 32 8
  type := word.extractLsb' 40 4
  nonsys := word.extractLsb' 44 1
  dpl := word.extractLsb' 45 2
  present := word.extractLsb' 47 1
  limit1 := word.extractLsb' 48 4
  avl := word.extractLsb' 52 1
  bits64 := word.extractLsb' 53 1
  bits32 := word.extractLsb' 54 1
  gran := word.extractLsb' 55 1
  base2 := word.extractLsb' 56 8

/-- Reading gives the fields that were written. -/
theorem ofWord_word (desc : GdtDesc) : ofWord desc.word = desc := by
  ext1
  -- skip the lower fields one by one
  all_goals repeat refine (BitVec.extractLsb'_append_eq_of_le (by decide)).trans ?_
  case base2 => exact BitVec.extractLsb'_eq_self
  all_goals exact BitVec.extractLsb'_append_eq_right

end GdtDesc

namespace GdtDesc2

/-- The descriptor in memory. -/
def word (desc : GdtDesc2) : BitVec 128 :=
  desc.reserved ++ desc.base3 ++ desc.base.word

theorem extract_base (desc : GdtDesc2) {start count : Nat} (inside : start + count ≤ 64) :
    desc.word.extractLsb' start count = desc.base.word.extractLsb' start count :=
  BitVec.extractLsb'_append_eq_of_add_le inside

theorem extract_base3 (desc : GdtDesc2) : desc.word.extractLsb' 64 32 = desc.base3 :=
  (BitVec.extractLsb'_append_eq_of_le (by decide)).trans BitVec.extractLsb'_append_eq_right

end GdtDesc2

namespace IdtDesc

/-- A descriptor all of whose fields are zero. -/
def zeroed : IdtDesc := ⟨0, 0, 0, 0, 0, 0, 0, 0, 0, 0, 0⟩

/-- The descriptor in memory. -/
def word (desc : IdtDesc) : BitVec 128 :=
  desc.reserved1 ++ desc.handler2 ++ desc.handler1 ++ desc.present ++ desc.dpl ++ desc.zero ++
    desc.type ++ desc.reserved0 ++ desc.ist ++ desc.cs ++ desc.handler0

/-- The fields of a descriptor in memory. -/
def ofWord (word : BitVec 128) : IdtDesc where
  handler0 := word.extractLsb' 0 16
  cs := word.extractLsb' 16 16
  ist := word.extractLsb' 32 3
  reserved0 := word.extractLsb' 35 5
  type := word.extractLsb' 40 4
  zero := word.extractLsb' 44 1
  dpl := word.extractLsb' 45 2
  present := word.extractLsb' 47 1
  handler1 := word.extractLsb' 48 16
  handler2 := word.extractLsb' 64 32
  reserved1 := word.extractLsb' 96 32

/-- Reading gives the fields that were written. -/
theorem ofWord_word (desc : IdtDesc) : ofWord desc.word = desc := by
  ext1
  -- skip the lower fields one by one
  all_goals repeat refine (BitVec.extractLsb'_append_eq_of_le (by decide)).trans ?_
  case reserved1 => exact BitVec.extractLsb'_eq_self
  all_goals exact BitVec.extractLsb'_append_eq_right

end IdtDesc

/-! ## What the processor reads -/

/-- A gate. -/
structure Gate where
  offset : BitVec 64
  selector : BitVec 16
  ist : BitVec 3
  type : BitVec 4
  nonsys : BitVec 1
  present : BitVec 1
  deriving DecidableEq

/-- The gate in a descriptor. -/
def decodeGate (word : BitVec 128) : Gate where
  offset := word.extractLsb' 64 32 ++ word.extractLsb' 48 16 ++ word.extractLsb' 0 16
  selector := word.extractLsb' 16 16
  ist := word.extractLsb' 32 3
  type := word.extractLsb' 40 4
  nonsys := word.extractLsb' 44 1
  present := word.extractLsb' 47 1

/-- A segment of the system. -/
structure SystemSegment where
  base : BitVec 64
  limit : BitVec 20
  gran : BitVec 1
  type : BitVec 4
  nonsys : BitVec 1
  present : BitVec 1
  deriving DecidableEq

/-- The last byte of a segment. -/
def SystemSegment.limitBytes (segment : SystemSegment) : Nat :=
  if segment.gran = 0 then segment.limit.toNat else segment.limit.toNat * 4096 + 4095

/-- The segment in a descriptor of 16 bytes. -/
def decodeSystemSegment (word : BitVec 128) : SystemSegment where
  base := word.extractLsb' 64 32 ++ word.extractLsb' 56 8 ++ word.extractLsb' 32 8 ++
    word.extractLsb' 16 16
  limit := word.extractLsb' 48 4 ++ word.extractLsb' 0 16
  gran := word.extractLsb' 55 1
  type := word.extractLsb' 40 4
  nonsys := word.extractLsb' 44 1
  present := word.extractLsb' 47 1

/-- A segment for code or data, as far as 64-bit mode looks at it. -/
structure Segment where
  type : BitVec 4
  nonsys : BitVec 1
  present : BitVec 1
  long : BitVec 1
  deriving DecidableEq

/-- The segment in a descriptor of 8 bytes. -/
def decodeSegment (word : BitVec 64) : Segment where
  type := word.extractLsb' 40 4
  nonsys := word.extractLsb' 44 1
  present := word.extractLsb' 47 1
  long := word.extractLsb' 53 1

/-- The segment holds 64-bit code. -/
def Segment.isLongCode (segment : Segment) : Bool :=
  segment.nonsys = 1 ∧ segment.type.extractLsb' 3 1 = 1#1 ∧ segment.present = 1 ∧ segment.long = 1

/-- The gate that a structure of the kernel describes. -/
def IdtDesc.gate (desc : IdtDesc) : Gate where
  offset := desc.handler2 ++ desc.handler1 ++ desc.handler0
  selector := desc.cs
  ist := desc.ist
  type := desc.type
  nonsys := desc.zero
  present := desc.present

theorem decodeGate_eq (word : BitVec 128) : decodeGate word = (IdtDesc.ofWord word).gate := rfl

/-- The segment that a structure of the kernel describes. -/
theorem decodeSystemSegment_word (desc : GdtDesc2) : decodeSystemSegment desc.word =
    { base := desc.base3 ++ desc.base.base2 ++ desc.base.base1 ++ desc.base.base0
      limit := desc.base.limit1 ++ desc.base.limit0
      gran := desc.base.gran
      type := desc.base.type
      nonsys := desc.base.nonsys
      present := desc.base.present } := by
  have fields := desc.base.ofWord_word
  simp only [decodeSystemSegment, desc.extract_base3, desc.extract_base (by decide : 56 + 8 ≤ 64),
    desc.extract_base (by decide : 32 + 8 ≤ 64), desc.extract_base (by decide : 16 + 16 ≤ 64),
    desc.extract_base (by decide : 48 + 4 ≤ 64), desc.extract_base (by decide : 0 + 16 ≤ 64),
    desc.extract_base (by decide : 55 + 1 ≤ 64), desc.extract_base (by decide : 40 + 4 ≤ 64),
    desc.extract_base (by decide : 44 + 1 ≤ 64), desc.extract_base (by decide : 47 + 1 ≤ 64)]
  generalize desc.base.word = word at fields
  rw [← fields]
  rfl

/-- The address that `set_isr` splits is the one that the processor puts together. -/
theorem address_split (address : BitVec 64) :
    (address >>> 32).setWidth 32 ++ (address >>> 16).setWidth 16 ++ address.setWidth 16 =
      address := by
  apply BitVec.eq_of_getLsbD_eq
  intro bit inside
  rw [BitVec.getLsbD_append, BitVec.getLsbD_append, BitVec.getLsbD_setWidth,
    BitVec.getLsbD_setWidth, BitVec.getLsbD_setWidth, BitVec.getLsbD_ushiftRight,
    BitVec.getLsbD_ushiftRight]
  by_cases low : bit < 16
  · simp [low]
  · by_cases middle : bit - 16 < 16
    · have position : 16 + (bit - 16) = bit := by omega
      simp [low, middle, position]
    · have position : 32 + (bit - 16 - 16) = bit := by omega
      have high : bit - 16 - 16 < 32 := by omega
      simp [low, middle, position, high]

/-- So is the base that `create_gdt` splits. -/
theorem base_split (address : BitVec 64) :
    (address >>> 32).setWidth 32 ++ (address >>> 24).setWidth 8 ++ (address >>> 16).setWidth 8 ++
      address.setWidth 16 = address := by
  apply BitVec.eq_of_getLsbD_eq
  intro bit inside
  simp only [BitVec.getLsbD_append, BitVec.getLsbD_setWidth, BitVec.getLsbD_ushiftRight]
  by_cases low : bit < 16
  · simp [low]
  · by_cases third : bit - 16 < 8
    · have position : 16 + (bit - 16) = bit := by omega
      simp [low, third, position]
    · by_cases fourth : bit - 16 - 8 < 8
      · have position : 24 + (bit - 16 - 8) = bit := by omega
        simp [low, third, fourth, position]
      · have position : 32 + (bit - 16 - 8 - 8) = bit := by omega
        have high : bit - 16 - 8 - 8 < 32 := by omega
        simp [low, third, fourth, position, high]

end Interrupts
end ToyKernel
