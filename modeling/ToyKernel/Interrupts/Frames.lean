import ToyKernel.Interrupts.Wrapper

/-!
# Reading and writing frames

The members of a frame do not overlap, so that C assignments to them and between frames do to the
frame in memory what they do to the structure.
-/

namespace ToyKernel
namespace Interrupts

open Amd64 ByteMemory

section Frames

variable {memory other : ByteMemory} {base dst src : BitVec 64} {member : Member}

/-! ## Layout -/

/-- Two ranges of bytes of a frame, as their offsets and sizes. -/
def Separate (first count second others : Nat) : Prop :=
  first + count ≤ second ∨ second + others ≤ first

instance (first count second others : Nat) : Decidable (Separate first count second others) :=
  inferInstanceAs (Decidable (_ ∨ _))

/-- A store to some bytes of the frame and a load from others. -/
theorem load_store_separate {width wide first second : Nat} (whole : wide % 8 = 0)
    (word : BitVec width) (separate : Separate first (width / 8) second (wide / 8))
    (inside : first + width / 8 ≤ frameSize) (alsoInside : second + wide / 8 ≤ frameSize)
    (positive : 0 < width / 8) (alsoPositive : 0 < wide / 8) :
    load wide (memory.store (base + BitVec.ofNat 64 first) word)
      (base + BitVec.ofNat 64 second) = load wide memory (base + BitVec.ofNat 64 second) := by
  rw [frameSize] at inside alsoInside
  refine load_store_of_apart whole word ?_
  obtain before | after := separate
  · exact apart_offsets base before (by omega) positive alsoPositive
  · exact (apart_offsets base after (by omega) alsoPositive positive).symm

theorem registers_separate (first second : Register) : first = second ∨
    Separate (registerOffset first) 8 (registerOffset second) 8 := by
  cases first <;> cases second <;> decide

/-- A register and another member. -/
theorem register_separate (register : Register) {offset size : Nat}
    (isOther : offset + size ≤ 664 ∧ 120 ≤ offset ∨ 672 ≤ offset) :
    Separate (registerOffset register) 8 offset size := by
  unfold Separate
  cases register <;> simp only [registerOffset] <;> omega

theorem Separate.symm {first count second others : Nat}
    (separate : Separate first count second others) : Separate second others first count :=
  Or.symm separate

theorem registerOffset_inside (register : Register) : registerOffset register + 8 ≤ frameSize := by
  cases register <;> decide

theorem Member.offset_inside (member : Member) : member.offset + member.size ≤ frameSize := by
  cases member with
  | general register => exact registerOffset_inside register
  | rip | cs | rflags | ss => decide

theorem Member.size_pos (member : Member) : 0 < member.size := by
  cases member <;> exact Nat.le_of_ble_eq_true rfl

/-! ## Assignments -/

theorem assign_general_self (frame : IntStackFrame) (register : Register)
    (value : BitVec (Member.general register).width) :
    (frame.assign (.general register) value).general register = value := by
  change Function.update frame.general register value register = value
  exact Function.update_self ..

theorem assign_general_of_ne (frame : IntStackFrame) {register another : Register}
    (value : BitVec (Member.general register).width) (different : another ≠ register) :
    (frame.assign (.general register) value).general another = frame.general another := by
  change Function.update frame.general register value another = frame.general another
  exact Function.update_of_ne different ..

section Assign

variable (memory : ByteMemory) (base : BitVec 64) (member : Member) (value : BitVec member.width)

theorem load_assignMember_self :
    load member.width (assignMember memory base member value)
      (base + BitVec.ofNat 64 member.offset) = value := by
  have inside := member.offset_inside
  rw [frameSize] at inside
  refine load_store ?_ ?_ ..
  · rw [member.width_eq, Nat.mul_mod_right]
  · rw [member.width_div]
    omega

/-- An assignment leaves the other bytes of the frame alone. -/
theorem load_assignMember {wide offset : Nat}
    (separate : Separate member.offset member.size offset (wide / 8))
    (isPart : wide % 8 = 0 ∧ offset + wide / 8 ≤ frameSize ∧ 0 < wide / 8) :
    load wide (assignMember memory base member value) (base + BitVec.ofNat 64 offset) =
      load wide memory (base + BitVec.ofNat 64 offset) := by
  rw [← member.width_div] at separate
  refine load_store_separate isPart.1 value separate ?_ isPart.2.1 ?_ isPart.2.2
  · rw [member.width_div]
    exact member.offset_inside
  · rw [member.width_div]
    exact member.size_pos

theorem load_assignMember_general (register : Register)
    (other : Separate (registerOffset register) 8 member.offset member.size) :
    load 64 (assignMember memory base member value)
        (base + BitVec.ofNat 64 (registerOffset register)) =
      load 64 memory (base + BitVec.ofNat 64 (registerOffset register)) :=
  load_assignMember memory base member value other.symm
    ⟨rfl, registerOffset_inside register, by decide⟩

/-- The assignment does to the frame in memory what it does to the structure. -/
theorem readFrame_assignMember :
    readFrame (assignMember memory base member value) base =
      (readFrame memory base).assign member value := by
  have self := load_assignMember_self memory base member value
  have general := load_assignMember_general memory base member value
  have others : ∀ wide offset,
      Separate member.offset member.size offset (wide / 8) →
      (wide % 8 = 0 ∧ offset + wide / 8 ≤ frameSize ∧ 0 < wide / 8) →
      load wide (assignMember memory base member value) (base + BitVec.ofNat 64 offset) =
        load wide memory (base + BitVec.ofNat 64 offset) :=
    fun _ _ => load_assignMember memory base member value
  cases member with
  | general register =>
      refine IntStackFrame.ext (funext fun another => ?_)
        (others 4096 _ (register_separate register (by decide)) (by decide))
        (others 32 _ (register_separate register (by decide)) (by decide))
        (others 64 _ (register_separate register (by decide)) (by decide))
        (others 16 _ (register_separate register (by decide)) (by decide))
        (others 64 _ (register_separate register (by decide)) (by decide))
        (others 16 _ (register_separate register (by decide)) (by decide))
      obtain rfl | different := eq_or_ne another register
      · rw [assign_general_self]
        dsimp only [readFrame, Member.width, Member.offset] at self ⊢
        exact self
      · rw [assign_general_of_ne _ _ different]
        exact general another ((registers_separate another register).resolve_left different)
  | rip =>
      exact IntStackFrame.ext
        (funext fun register => general register (register_separate register (by decide)))
        (others 4096 _ (by decide) (by decide)) (others 32 _ (by decide) (by decide)) self
        (others 16 _ (by decide) (by decide)) (others 64 _ (by decide) (by decide))
        (others 16 _ (by decide) (by decide))
  | cs =>
      exact IntStackFrame.ext
        (funext fun register => general register (register_separate register (by decide)))
        (others 4096 _ (by decide) (by decide)) (others 32 _ (by decide) (by decide))
        (others 64 _ (by decide) (by decide)) self (others 64 _ (by decide) (by decide))
        (others 16 _ (by decide) (by decide))
  | rflags =>
      exact IntStackFrame.ext
        (funext fun register => general register (register_separate register (by decide)))
        (others 4096 _ (by decide) (by decide)) (others 32 _ (by decide) (by decide))
        (others 64 _ (by decide) (by decide)) (others 16 _ (by decide) (by decide)) self
        (others 16 _ (by decide) (by decide))
  | ss =>
      exact IntStackFrame.ext
        (funext fun register => general register (register_separate register (by decide)))
        (others 4096 _ (by decide) (by decide)) (others 32 _ (by decide) (by decide))
        (others 64 _ (by decide) (by decide)) (others 16 _ (by decide) (by decide))
        (others 64 _ (by decide) (by decide)) self

end Assign

/-! ## Copies and other stores -/

/-- The copy is the frame that it was made from. -/
theorem readFrame_copyFrame (memory : ByteMemory) (dst src : BitVec 64) :
    readFrame (copyFrame memory dst src) dst = readFrame memory src := by
  have copied : ∀ width offset, width % 8 = 0 → offset + width / 8 ≤ frameSize →
      load width (copyFrame memory dst src) (dst + BitVec.ofNat 64 offset) =
        load width memory (src + BitVec.ofNat 64 offset) :=
    fun _ _ whole inside => load_copy whole inside (by decide)
  exact IntStackFrame.ext
    (funext fun register => copied 64 _ rfl (registerOffset_inside register))
    (copied 4096 _ rfl (by decide)) (copied 32 _ rfl (by decide)) (copied 64 _ rfl (by decide))
    (copied 16 _ rfl (by decide)) (copied 64 _ rfl (by decide)) (copied 16 _ rfl (by decide))

/-- The bytes of a member are apart from what the whole frame is apart from. -/
theorem Member.apart (member : Member) {address : BitVec 64} {others : Nat}
    (apart : Apart base frameSize address others) (small : others < 2 ^ 64)
    (positive : 0 < others) :
    Apart (base + BitVec.ofNat 64 member.offset) (member.width / 8) address others := by
  have within : Apart (base + BitVec.ofNat 64 member.offset) member.size
      (address + BitVec.ofNat 64 0) others :=
    apart.within member.offset_inside (by omega) (by decide) small member.size_pos positive
  rw [member.width_div]
  simpa using within

end Frames

end Interrupts
end ToyKernel
