import Mathlib

/-!
# Words made of bytes

A word of 16 or 32 bits as the number that its bytes give, the most significant byte first:
`Words.word16` and `Words.word32`. `Words.byte` takes a word apart again, and the lemmas on shifts
say how a word of 32 bits is made of two words of 16 bits.
-/

namespace Words

/-- The byte of a word that counts for `256 ^ k`. -/
def byte (x : UInt32) (k : ℕ) : UInt8 := UInt8.ofNat (x.toNat / 256 ^ k)

/-- The word with the bytes `a` (most significant), `b`, `c` and `d`. -/
def word32 (a b c d : UInt8) : UInt32 :=
  UInt32.ofNat (a.toNat * 2 ^ 24 + b.toNat * 2 ^ 16 + c.toNat * 2 ^ 8 + d.toNat)

/-- The word with the bytes `hi` and `lo`. -/
def word16 (hi lo : UInt8) : UInt16 := UInt16.ofNat (hi.toNat * 2 ^ 8 + lo.toNat)

@[simp] theorem toNat_byte (x : UInt32) (k : ℕ) :
    (byte x k).toNat = x.toNat / 256 ^ k % 256 :=
  UInt8.toNat_ofNat'

@[simp] theorem toNat_word32 (a b c d : UInt8) : (word32 a b c d).toNat =
    a.toNat * 2 ^ 24 + b.toNat * 2 ^ 16 + c.toNat * 2 ^ 8 + d.toNat := by
  have ha := a.toNat_lt
  have hb := b.toNat_lt
  have hc := c.toNat_lt
  have hd := d.toNat_lt
  exact UInt32.toNat_ofNat_of_lt'
    (show a.toNat * 2 ^ 24 + b.toNat * 2 ^ 16 + c.toNat * 2 ^ 8 + d.toNat < 2 ^ 32 by omega)

@[simp] theorem toNat_word16 (hi lo : UInt8) :
    (word16 hi lo).toNat = hi.toNat * 2 ^ 8 + lo.toNat := by
  have hhi := hi.toNat_lt
  have hlo := lo.toNat_lt
  exact UInt16.toNat_ofNat_of_lt' (show hi.toNat * 2 ^ 8 + lo.toNat < 2 ^ 16 by omega)

/-- A word of 16 bits determines its bytes. -/
theorem word16_inj {a b c d : UInt8} : word16 a b = word16 c d ↔ a = c ∧ b = d := by
  have hb := b.toNat_lt
  have hd := d.toNat_lt
  rw [← UInt16.toNat_inj, toNat_word16, toNat_word16, ← UInt8.toNat_inj, ← UInt8.toNat_inj]
  omega

/-- The bytes of a word that is made of bytes. -/
theorem byte_word32 (a b c d : UInt8) :
    byte (word32 a b c d) 3 = a ∧ byte (word32 a b c d) 2 = b ∧
      byte (word32 a b c d) 1 = c ∧ byte (word32 a b c d) 0 = d := by
  have ha := a.toNat_lt
  have hb := b.toNat_lt
  have hc := c.toNat_lt
  have hd := d.toNat_lt
  refine ⟨?_, ?_, ?_, ?_⟩ <;> rw [← UInt8.toNat_inj, toNat_byte, toNat_word32] <;> omega

/-- Every word is made of its bytes. -/
theorem word32_byte (x : UInt32) :
    word32 (byte x 3) (byte x 2) (byte x 1) (byte x 0) = x := by
  have hx := x.toNat_lt
  rw [← UInt32.toNat_inj, toNat_word32]
  simp only [toNat_byte]
  omega

/-- Every word is made of four bytes. -/
theorem exists_word32 (x : UInt32) : ∃ a b c d, x = word32 a b c d :=
  ⟨_, _, _, _, (word32_byte x).symm⟩

/-! ### The two halves of a word -/

/-- The lower half. -/
theorem toUInt16_word32 (a b c d : UInt8) : (word32 a b c d).toUInt16 = word16 c d := by
  have hc := c.toNat_lt
  have hd := d.toNat_lt
  rw [← UInt16.toNat_inj, UInt32.toNat_toUInt16, toNat_word32, toNat_word16]
  omega

/-- The upper half. -/
theorem toUInt16_shiftRight_word32 (a b c d : UInt8) :
    (word32 a b c d >>> 16).toUInt16 = word16 a b := by
  have ha := a.toNat_lt
  have hb := b.toNat_lt
  have hc := c.toNat_lt
  have hd := d.toNat_lt
  have hshift : (word32 a b c d >>> 16).toNat = (word32 a b c d).toNat / 2 ^ 16 := by
    simp [Nat.shiftRight_eq_div_pow]
  rw [← UInt16.toNat_inj, UInt32.toNat_toUInt16, hshift, toNat_word32, toNat_word16]
  omega

/-- A word as the upper half. -/
theorem toNat_shiftLeft_word16 (hi lo : UInt8) :
    ((word16 hi lo).toUInt32 <<< 16).toNat = 2 ^ 16 * (hi.toNat * 2 ^ 8 + lo.toNat) := by
  have hhi := hi.toNat_lt
  have hlo := lo.toNat_lt
  have hshift : ((word16 hi lo).toUInt32 <<< 16).toNat =
      (word16 hi lo).toNat * 2 ^ 16 % 2 ^ 32 := by
    simp [Nat.shiftLeft_eq]
  rw [hshift, toNat_word16]
  omega

/-- The sum of two words, one in the upper half. -/
theorem shiftLeft_word16_add (a b c d : UInt8) :
    (word16 a b).toUInt32 <<< 16 + (word16 c d).toUInt32 = word32 a b c d := by
  have ha := a.toNat_lt
  have hb := b.toNat_lt
  have hc := c.toNat_lt
  have hd := d.toNat_lt
  rw [← UInt32.toNat_inj, UInt32.toNat_add, toNat_shiftLeft_word16, UInt16.toNat_toUInt32,
    toNat_word16, toNat_word32]
  omega

end Words
