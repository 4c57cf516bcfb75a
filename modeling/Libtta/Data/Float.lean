import Libtta.Library.Words
import Libtta.Model.Data

/-!
# The order of the bytes of a float

A float has four bytes A, B, C and D, with A the most significant. By the documentation two
registers hold it in the order ABCD or DCBA: the first register holds AB or DC. The functions have
the registers the other way round, so they keep to the documented order exactly when both registers
are to hold the same word (`float_order_iff`). The getters invert the setters all the same, and the
two byte swaps agree.
-/

namespace Libtta

open Words

/-! ## The byte swaps -/

/-- `__builtin_bswap32`: the bytes in reverse order. -/
def builtinBswap32 (x : UInt32) : UInt32 :=
  word32 (byte x 0) (byte x 1) (byte x 2) (byte x 3)

/-- `__builtin_bswap16`. -/
def builtinBswap16 (x : UInt16) : UInt16 :=
  word16 (UInt8.ofNat x.toNat) (UInt8.ofNat (x.toNat / 256))

/-- The fallback for 16 bits swaps the two bytes. -/
theorem bswap16_word16 (hi lo : UInt8) : bswap16 (word16 hi lo) = word16 lo hi := by
  have hhi := hi.toNat_lt
  have hlo := lo.toNat_lt
  have hright : ((word16 hi lo).toUInt32 >>> 8).toNat = hi.toNat := by
    have hshift : ((word16 hi lo).toUInt32 >>> 8).toNat = (word16 hi lo).toNat / 2 ^ 8 := by
      simp [Nat.shiftRight_eq_div_pow]
    rw [hshift, toNat_word16]
    omega
  have hleft : ((word16 hi lo).toUInt32 <<< 8).toNat = 2 ^ 8 * (hi.toNat * 2 ^ 8 + lo.toNat) := by
    have hshift : ((word16 hi lo).toUInt32 <<< 8).toNat =
        (word16 hi lo).toNat * 2 ^ 8 % 2 ^ 32 := by
      simp [Nat.shiftLeft_eq]
    rw [hshift, toNat_word16]
    omega
  rw [← UInt16.toNat_inj, bswap16, UInt32.toNat_toUInt16, UInt32.toNat_or, hright, hleft,
    Nat.or_comm, ← Nat.two_pow_add_eq_or_of_lt hhi, toNat_word16]
  omega

/-- The fallback for 32 bits reverses the four bytes. -/
theorem bswap32_word32 (a b c d : UInt8) : bswap32 (word32 a b c d) = word32 d c b a := by
  have hb := b.toNat_lt
  have ha := a.toNat_lt
  have hmask : (word32 a b c d &&& 0xffff).toUInt16 = (word32 a b c d).toUInt16 := by
    rw [← UInt16.toNat_inj]
    simp [Nat.and_two_pow_sub_one_eq_mod _ 16]
  have hlow : b.toNat * 2 ^ 8 + a.toNat < 2 ^ 16 := by omega
  rw [bswap32, hmask, toUInt16_word32, toUInt16_shiftRight_word32, bswap16_word16, bswap16_word16,
    ← shiftLeft_word16_add, ← UInt32.toNat_inj, UInt32.toNat_or, UInt32.toNat_add,
    toNat_shiftLeft_word16, UInt16.toNat_toUInt32, toNat_word16, ← Nat.two_pow_add_eq_or_of_lt hlow]
  have hc := c.toNat_lt
  have hd := d.toNat_lt
  omega

/-- So does the built-in one. -/
theorem builtinBswap32_word32 (a b c d : UInt8) :
    builtinBswap32 (word32 a b c d) = word32 d c b a := by
  obtain ⟨ha, hb, hc, hd⟩ := byte_word32 a b c d
  rw [builtinBswap32, ha, hb, hc, hd]

/-- The built-in swap of 16 bits. -/
theorem builtinBswap16_word16 (hi lo : UInt8) : builtinBswap16 (word16 hi lo) = word16 lo hi := by
  have hhi := hi.toNat_lt
  have hlo := lo.toNat_lt
  rw [builtinBswap16, toNat_word16]
  congr 1
  · rw [← UInt8.toNat_inj, UInt8.toNat_ofNat']
    omega
  · rw [← UInt8.toNat_inj, UInt8.toNat_ofNat']
    omega

/-! ## The registers -/

variable {swap : UInt32 → UInt32} {a b c d : UInt8}

/-- The first register gets the low word. -/
theorem ttaSetFloat_word32 : ttaSetFloat (word32 a b c d) = (word16 c d, word16 a b) := by
  rw [ttaSetFloat, toUInt16_word32, toUInt16_shiftRight_word32]

/-- The first register is the low word. -/
theorem ttaGetFloat_word16 : ttaGetFloat (word16 c d, word16 a b) = word32 a b c d :=
  shiftLeft_word16_add a b c d

/-- The first register gets the low word of the swapped pattern. -/
theorem ttaSetFloatDcba_word32 (hswap : swap (word32 a b c d) = word32 d c b a) :
    ttaSetFloatDcba swap (word32 a b c d) = (word16 b a, word16 d c) := by
  rw [ttaSetFloatDcba, hswap, toUInt16_word32, toUInt16_shiftRight_word32]

/-- The first register is the low word of the swapped pattern. -/
theorem ttaGetFloatDcba_word16 (hswap : swap (word32 a b c d) = word32 d c b a) :
    ttaGetFloatDcba swap (word16 c d, word16 a b) = word32 d c b a := by
  rw [ttaGetFloatDcba, shiftLeft_word16_add, hswap]

/-- Both byte swaps reverse the four bytes. -/
theorem swap_word32 (hswap : swap = bswap32 ∨ swap = builtinBswap32) (a b c d : UInt8) :
    swap (word32 a b c d) = word32 d c b a := by
  rcases hswap with rfl | rfl
  · exact bswap32_word32 a b c d
  · exact builtinBswap32_word32 a b c d

/-- The getter inverts the setter. -/
theorem ttaGetFloat_ttaSetFloat (x : UInt32) : ttaGetFloat (ttaSetFloat x) = x := by
  obtain ⟨a, b, c, d, rfl⟩ := exists_word32 x
  rw [ttaSetFloat_word32, ttaGetFloat_word16]

/-- The getter inverts the setter. -/
theorem ttaGetFloatDcba_ttaSetFloatDcba (hswap : swap = bswap32 ∨ swap = builtinBswap32)
    (x : UInt32) : ttaGetFloatDcba swap (ttaSetFloatDcba swap x) = x := by
  obtain ⟨a, b, c, d, rfl⟩ := exists_word32 x
  have hrev := swap_word32 hswap
  rw [ttaSetFloatDcba_word32 (hrev a b c d), ttaGetFloatDcba_word16 (hrev d c b a)]

/-- The fallback for 32 bits does what the built-in swap does. -/
theorem bswap32_eq_builtin (x : UInt32) : bswap32 x = builtinBswap32 x := by
  obtain ⟨a, b, c, d, rfl⟩ := exists_word32 x
  rw [bswap32_word32, builtinBswap32_word32]

/-- The fallback for 16 bits does what the built-in swap does. -/
theorem bswap16_eq_builtin (x : UInt32) : bswap16 x.toUInt16 = builtinBswap16 x.toUInt16 := by
  obtain ⟨a, b, c, d, rfl⟩ := exists_word32 x
  rw [toUInt16_word32, bswap16_word16, builtinBswap16_word16]

/-- The documented order of the registers for the pattern `x` of a float: AB and CD, or DC and BA
with the bytes in reverse order. -/
structure FloatOrder (swap : UInt32 → UInt32) (x : UInt32) : Prop where
  set : ttaSetFloat x = (word16 (byte x 3) (byte x 2), word16 (byte x 1) (byte x 0))
  setDcba : ttaSetFloatDcba swap x = (word16 (byte x 0) (byte x 1), word16 (byte x 2) (byte x 3))
  get : ttaGetFloat (word16 (byte x 3) (byte x 2), word16 (byte x 1) (byte x 0)) = x
  getDcba : ttaGetFloatDcba swap
    (word16 (byte x 0) (byte x 1), word16 (byte x 2) (byte x 3)) = x
  get_set : ttaGetFloat (ttaSetFloat x) = x
  getDcba_setDcba : ttaGetFloatDcba swap (ttaSetFloatDcba swap x) = x
  fallback32 : bswap32 x = builtinBswap32 x
  fallback16 : bswap16 x.toUInt16 = builtinBswap16 x.toUInt16

/-- The registers are in the documented order exactly for the patterns whose two words are the
same. -/
theorem float_order_iff (hswap : swap = bswap32 ∨ swap = builtinBswap32) (x : UInt32) :
    FloatOrder swap x ↔ byte x 3 = byte x 1 ∧ byte x 2 = byte x 0 := by
  have hrev := swap_word32 hswap
  constructor
  · intro horder
    have hset := horder.set
    obtain ⟨a, b, c, d, rfl⟩ := exists_word32 x
    obtain ⟨ha, hb, hc, hd⟩ := byte_word32 a b c d
    rw [ttaSetFloat_word32, ha, hb, hc, hd] at hset
    rw [ha, hb, hc, hd]
    exact word16_inj.mp (Prod.mk.inj hset).2
  · rintro ⟨hac, hbd⟩
    have hx : word32 (byte x 3) (byte x 2) (byte x 3) (byte x 2) = x := by
      conv_rhs => rw [← word32_byte x, ← hac, ← hbd]
    refine ⟨?_, ?_, ?_, ?_, ttaGetFloat_ttaSetFloat x, ttaGetFloatDcba_ttaSetFloatDcba hswap x,
      bswap32_eq_builtin x, bswap16_eq_builtin x⟩
    · rw [← hac, ← hbd]
      exact (congrArg ttaSetFloat hx).symm.trans ttaSetFloat_word32
    · rw [← hac, ← hbd]
      exact (congrArg (ttaSetFloatDcba swap) hx).symm.trans (ttaSetFloatDcba_word32 (hrev _ _ _ _))
    · rw [← hac, ← hbd]
      exact ttaGetFloat_word16.trans hx
    · rw [← hac, ← hbd]
      exact (ttaGetFloatDcba_word16 (hrev _ _ _ _)).trans hx

/-- A pattern of two equal words. -/
theorem float_order_iff_same : FloatOrder bswap32 0x44654465 :=
  (float_order_iff (.inl rfl) 0x44654465).mpr (by decide)

/-- The documented registers of 916.540649 are read as another pattern, and the pattern is stored
with the registers the other way round. -/
theorem not_float_order :
    ¬FloatOrder builtinBswap32 0x4465229A ∧ ttaGetFloat (0x4465, 0x229A) = 0x229A4465 ∧
      ttaGetFloatDcba builtinBswap32 (0x9A22, 0x6544) = 0x229A4465 ∧
      ttaSetFloat 0x4465229A = (0x229A, 0x4465) ∧
      ttaSetFloatDcba builtinBswap32 0x4465229A = (0x6544, 0x9A22) :=
  ⟨fun horder => absurd horder.set (by decide), by decide, by decide, by decide, by decide⟩

end Libtta
