import ToyKernel.Library.Program
import ToyKernel.Cpu
import Mathlib.Data.BitVec

/-!
# Bytes, strings and masks

The functions of `common.c` that work on memory, the macros of `common.h` for arrays of bits,
and `__find_mask_bsf`.  Addresses and sizes have 64 bits and wrap around, and a `char` has a
sign.
-/

namespace ToyKernel
namespace Bytes

/-- A program on the bytes at all addresses. -/
abbrev Code := Program (BitVec 64) (BitVec 8)

open Program (load store loop defined)

/-! ## Strings -/

/-- A round of `strlen`. -/
def strlenRound (chr : BitVec 64) : Code (Round (BitVec 64) (BitVec 64)) := do
  if (← load chr) ≠ 0 then
    pure (.next (chr + 1))
  else
    pure (.leave chr)

/-- `strlen`. -/
def strlen (str : BitVec 64) : Code (BitVec 64) := do
  let chr ← loop strlenRound str
  pure (chr - str)

/-- A round of `strcpy`, with the variables `tmp` and `src`. -/
def strcpyRound : BitVec 64 × BitVec 64 →
    Code (Round (BitVec 64 × BitVec 64) (BitVec 64))
  | (tmp, src) => do
      if (← load src) ≠ 0 then
        let chr ← load src
        store tmp chr
        pure (.next (tmp + 1, src + 1))
      else
        pure (.leave tmp)

/-- `strcpy`. -/
def strcpy (dst src : BitVec 64) : Code (BitVec 64) := do
  let tmp ← loop strcpyRound (dst, src)
  store tmp 0
  pure dst

/-- `strcat`. -/
def strcat (dst src : BitVec 64) : Code (BitVec 64) := do
  let len ← strlen dst
  let _ ← strcpy (dst + len) src
  pure dst

/-- A round of `strrev`, with the variables `i` and `j`. -/
def strrevRound (str len : BitVec 64) : BitVec 64 × BitVec 64 →
    Code (Round (BitVec 64 × BitVec 64) PUnit)
  | (i, j) => do
      if i < len / 2 then
        let tmp ← load (str + i)
        let chr ← load (str + j)
        store (str + i) chr
        store (str + j) tmp
        let i := i + 1
        pure (.next (i, len - i - 1))
      else
        pure (.leave ⟨⟩)

/-- `strrev`. -/
def strrev (str : BitVec 64) : Code (BitVec 64) := do
  let len ← strlen str
  loop (strrevRound str len) (0, len - 1)
  pure str

/-! ## Buffers -/

/-- A round of `memset`, with the variables `ptr` and `size`. -/
def memsetRound (value : BitVec 32) : BitVec 64 × BitVec 64 →
    Code (Round (BitVec 64 × BitVec 64) (BitVec 64))
  | (ptr, size) => do
      if 0 < size then
        store ptr (value.setWidth 8)
        pure (.next (ptr + 1, size - 1))
      else
        pure (.leave ptr)

/-- `memset`. -/
def memset (ptr : BitVec 64) (value : BitVec 32) (size : BitVec 64) : Code (BitVec 64) :=
  loop (memsetRound value) (ptr, size)

/-- A round of `memcpy`, with the variables `tmp`, `src` and `size`. -/
def memcpyRound : BitVec 64 × BitVec 64 × BitVec 64 →
    Code (Round (BitVec 64 × BitVec 64 × BitVec 64) PUnit)
  | (tmp, src, size) => do
      if 0 < size then
        let byte ← load src
        store tmp byte
        pure (.next (tmp + 1, src + 1, size - 1))
      else
        pure (.leave ⟨⟩)

/-- `memcpy`. -/
def memcpy (dst src size : BitVec 64) : Code (BitVec 64) := do
  loop memcpyRound (dst, src, size)
  pure dst

/-- A round of `memcmp`, with the variable `i`. -/
def memcmpRound (buf1 buf2 size i : BitVec 64) :
    Code (Round (BitVec 64) (BitVec 32)) := do
  if i < size then
    let left ← load (buf1 + i)
    let right ← load (buf2 + i)
    if right.slt left then
      pure (.leave 1)
    else
      let left ← load (buf1 + i)
      let right ← load (buf2 + i)
      if left.slt right then
        pure (.leave (-1))
      else
        pure (.next (i + 1))
  else
    pure (.leave 0)

/-- `memcmp`. -/
def memcmp (buf1 buf2 size : BitVec 64) : Code (BitVec 32) :=
  loop (memcmpRound buf1 buf2 size) 0

/-- A round of `memmem`, with the variables `buf1` and `size1`; `none` is `NULL`. -/
def memmemRound (buf2 size2 : BitVec 64) : BitVec 64 × BitVec 64 →
    Code (Round (BitVec 64 × BitVec 64) (Option (BitVec 64)))
  | (buf1, size1) => do
      if size2 ≤ size1 then
        let order ← memcmp buf1 buf2 size2
        if order = 0 then
          pure (.leave (some buf1))
        else
          pure (.next (buf1 + 1, size1 - 1))
      else
        pure (.leave none)

/-- `memmem`. -/
def memmem (buf1 size1 buf2 size2 : BitVec 64) : Code (Option (BitVec 64)) :=
  loop (memmemRound buf2 size2) (buf1, size1)

/-! ## Numerals -/

/-- A round of `ultoa`, with the variables `value` and `buf`. -/
def ultoaRound (lbase : BitVec 8) (radix : BitVec 32) : BitVec 64 × BitVec 64 →
    Code (Round (BitVec 64 × BitVec 64) (BitVec 64))
  | (value, buf) => do
      let rem : BitVec 32 := (value % radix.signExtend 64).setWidth 32
      store buf ((rem + if rem.slt 10 then 0x30 else lbase.signExtend 32).setWidth 8)
      let buf := buf + 1
      let value := value / radix.signExtend 64
      if value ≠ 0 then
        pure (.next (value, buf))
      else
        pure (.leave buf)

/-- `ultoa`. -/
def ultoa (value buf : BitVec 64) (radix : BitVec 32) : Code (BitVec 64) := do
  let str := buf
  let lbase : BitVec 8 := if BitVec.slt 0 radix then 0x61 else 0x41
  let radix := if BitVec.slt 0 radix then radix else -radix
  if radix.slt 2 ∨ BitVec.slt 36 radix then
    store buf 0
    pure buf
  else
    let lbase := lbase - 10
    let buf ← loop (ultoaRound lbase radix) (value, buf)
    store buf 0
    strrev str

/-! ## Masks -/

/-- The address `&((uint8_t*)array)[(bit) / 8]`. -/
def byteOf (array : BitVec 64) (bit : Nat) : BitVec 64 :=
  array + BitVec.ofNat 64 (bit / 8)

/-- `BIT_ARRAY_SET`. -/
def bitArraySet (array : BitVec 64) (bit : Nat) : Code PUnit := do
  let byte ← load (byteOf array bit)
  store (byteOf array bit) (byte ||| 1#8 <<< (bit % 8))

/-- `BIT_ARRAY_RESET`. -/
def bitArrayReset (array : BitVec 64) (bit : Nat) : Code PUnit := do
  let byte ← load (byteOf array bit)
  store (byteOf array bit) (byte &&& ~~~ (1#8 <<< (bit % 8)))

/-- `BIT_ARRAY_GET`. -/
def bitArrayGet (array : BitVec 64) (bit : Nat) : Code Bool := do
  let byte ← load (byteOf array bit)
  pure (byte &&& 1#8 <<< (bit % 8) ≠ 0)

/-- Read a `uint64_t`, whose lowest byte comes first. -/
def loadWord (address : BitVec 64) : Code (BitVec 64) := do
  let byte0 ← load address
  let byte1 ← load (address + 1)
  let byte2 ← load (address + 2)
  let byte3 ← load (address + 3)
  let byte4 ← load (address + 4)
  let byte5 ← load (address + 5)
  let byte6 ← load (address + 6)
  let byte7 ← load (address + 7)
  pure (byte7 ++ byte6 ++ byte5 ++ byte4 ++ byte3 ++ byte2 ++ byte1 ++ byte0)

/-- A round of `__find_mask_bsf`, with the variable `i`. -/
def findMaskBsfRound (mask : BitVec 64) (size i : BitVec 32) :
    Code (Round (BitVec 32) (BitVec 32)) := do
  if i.slt size then
    let word ← loadWord (mask + 8 * i.signExtend 64)
    if word ≠ 0 then
      let word ← loadWord (mask + 8 * i.signExtend 64)
      let bit ← defined (bsfq word)
      pure (.leave (i * 64 + bit))
    else
      pure (.next (i + 1))
  else
    pure (.leave (-1))

/-- `__find_mask_bsf`. -/
def findMaskBsf (mask : BitVec 64) (size : BitVec 32) : Code (BitVec 32) :=
  loop (findMaskBsfRound mask size) 0

end Bytes
end ToyKernel
