import Libtta.Model.Types

/-!
# Bits and floats in arrays

The functions of `tta_data.c`. A bit stands in one element of an array, and a float in two
registers. An `int` is an `Int32` and an `unsigned int` a `UInt32`, so that conversions and unsigned
sums are those of the source; `none` stands for an access outside an array, a sum of type `int` out
of range, or an assertion that fails.
-/

namespace Libtta

/-! ## Bits -/

/-- The body of the loop of `tta_set_bits_from_byte`: the index is a sum of type `int`. -/
def setBitStep (idx : Int32) (value : UInt8) (dest : Bytes) (i : ℕ) : Option Bytes := do
  let p ← addInt idx.toInt i
  Buffer.store dest (← p.toNat?) [if value.toNat &&& (1 <<< i : ℕ) ≠ 0 then 1 else 0]

/-- `tta_set_bits_from_byte`. -/
def ttaSetBitsFromByte (dest : Bytes) (idx : Int32) (value : UInt8) : Option Bytes :=
  (List.range 8).foldlM (setBitStep idx value) dest

/-- The loop of `tta_set_bits_from_bytes` up to the index `last`. -/
def setBitsLoop (idx last : UInt32) (tabByte : Bytes) (i : UInt32) (shift : ℕ) (dest : Bytes) :
    Option Bytes :=
  if h : i < last then do
    let b ← tabByte[((i - idx) / 8).toNat]?
    let dest ← Buffer.store dest i.toNat [if b.toNat &&& 1 <<< shift ≠ 0 then 1 else 0]
    setBitsLoop idx last tabByte (i + 1) ((shift + 1) % 8) dest
  else
    some dest
termination_by last.toNat - i.toNat
decreasing_by
  have hlt := UInt32.lt_iff_toNat_lt.mp h
  have hlast := last.toNat_lt
  have hnext : (i + 1).toNat = i.toNat + 1 := by
    rw [UInt32.toNat_add, UInt32.toNat_one]
    omega
  omega

/-- `tta_set_bits_from_bytes`: the index is unsigned. -/
def ttaSetBitsFromBytes (dest : Bytes) (idx : Int32) (nbBits : UInt32) (tabByte : Bytes) :
    Option Bytes :=
  setBitsLoop idx.toUInt32 (idx.toUInt32 + nbBits) tabByte idx.toUInt32 0 dest

/-- The body of the loop of `tta_get_byte_from_bits`: the index is unsigned. -/
def getBitStep (src : Bytes) (idx : Int32) (value : UInt8) (i : ℕ) : Option UInt8 := do
  let b ← src[(idx.toUInt32 + UInt32.ofNat i).toNat]?
  return UInt8.ofNat (value.toNat ||| b.toNat <<< i)

/-- `tta_get_byte_from_bits`; the assertion is there unless `NDEBUG` is set. -/
def ttaGetByteFromBits (ndebug : Bool) (src : Bytes) (idx : Int32) (nbBits : UInt32) :
    Option UInt8 :=
  if nbBits > 8 ∧ ndebug = false then
    none
  else
    let nbBits := if nbBits > 8 then 8 else nbBits
    (List.range nbBits.toNat).foldlM (getBitStep src idx) 0

/-! ## Floats -/

/-- `bswap_16`, in C. -/
def bswap16 (x : UInt16) : UInt16 := ((x.toUInt32 >>> 8) ||| (x.toUInt32 <<< 8)).toUInt16

/-- `bswap_32`, in C: the upper half is shifted as an `int`, which keeps its 32 bits. -/
def bswap32 (x : UInt32) : UInt32 :=
  (bswap16 (x &&& 0xffff).toUInt16).toUInt32 <<< 16 ||| (bswap16 (x >>> 16).toUInt16).toUInt32

/-- Two registers, `src[0]` and `src[1]`. -/
abbrev Registers := UInt16 × UInt16

/-- `tta_get_float`, up to the bit pattern that is copied into the float. -/
def ttaGetFloat (src : Registers) : UInt32 := src.2.toUInt32 <<< 16 + src.1.toUInt32

/-- `tta_get_float_dcba`, with the byte swap that `bswap_32` stands for. -/
def ttaGetFloatDcba (swap : UInt32 → UInt32) (src : Registers) : UInt32 :=
  swap (src.2.toUInt32 <<< 16 + src.1.toUInt32)

/-- `tta_set_float`, from the bit pattern of the float. -/
def ttaSetFloat (f : UInt32) : Registers := (f.toUInt16, (f >>> 16).toUInt16)

/-- `tta_set_float_dcba`. -/
def ttaSetFloatDcba (swap : UInt32 → UInt32) (f : UInt32) : Registers :=
  ((swap f).toUInt16, (swap f >>> 16).toUInt16)

end Libtta
