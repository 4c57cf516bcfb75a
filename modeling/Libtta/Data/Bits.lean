import Libtta.Model.Data

/-!
# Packing bits

`tta_set_bits_from_bytes` and `tta_set_bits_from_byte` write the bits of bytes into the elements of
an array, the least significant bit of a byte first, and `tta_get_byte_from_bits` reads them back.
The two writers overwrite the same block with the same bits (`Buffer.overwrite`), as long as the
index of the last bit is an `int` (`bits_round_trip`); `tta_set_bits_from_byte` has no defined
behaviour behind it (`bits_from_byte_differ`).
-/

namespace Libtta

/-! ## Bits of bytes -/

/-- The element that stands for a bit. -/
def bitElement (b : UInt8) (k : ℕ) : UInt8 := if b.toNat.testBit k then 1 else 0

/-- The test of the source for a bit. -/
theorem ite_and_shiftLeft (b : UInt8) (k : ℕ) :
    (if b.toNat &&& (1 <<< k : ℕ) ≠ 0 then (1 : UInt8) else 0) = bitElement b k := by
  rw [bitElement, Nat.one_shiftLeft, Nat.and_two_pow]
  cases b.toNat.testBit k with
  | true => simp
  | false => simp

/-- The bit `j` of a table of bytes. -/
def tableBit (tabByte : Bytes) (j : ℕ) : UInt8 := bitElement (tabByte.getD (j / 8) 0) (j % 8)

/-! ## Writing -/

/-- The steps whose indices are values of type `int` overwrite a block. -/
theorem foldlM_setBitStep {dest : Bytes} {i n : ℕ} (value : UInt8) (hi : i < 2 ^ 31)
    (hint : i + n ≤ 2 ^ 31) (hdest : i + n ≤ dest.length) :
    (List.range n).foldlM (setBitStep (.ofNat i) value) dest =
      some (Buffer.overwrite dest i n (bitElement value)) := by
  induction n with
  | zero => exact congrArg some (Buffer.overwrite_zero _ _ _).symm
  | succ n ih =>
    have hp : addInt (Int32.ofNat i).toInt n = some ((i + n : ℕ) : Int) := by
      rw [Int32.toInt_ofNat_of_lt hi, addInt, if_pos (by omega)]
      rfl
    have hnat : ((i + n : ℕ) : Int).toNat? = some (i + n) := rfl
    rw [List.range_succ, List.foldlM_append, ih (by omega) (by omega)]
    simp only [List.foldlM_cons, List.foldlM_nil, Option.bind_eq_bind, Option.bind_some, setBitStep,
      hp, hnat, ite_and_shiftLeft]
    rw [Buffer.store_overwrite _ (by omega)]
    rfl

/-- `tta_set_bits_from_byte` overwrites a block of eight elements, when their indices are values of
type `int`. -/
theorem ttaSetBitsFromByte_eq {dest : Bytes} {i : ℕ} (value : UInt8) (hint : i + 8 ≤ 2 ^ 31)
    (hdest : i + 8 ≤ dest.length) :
    ttaSetBitsFromByte dest (.ofNat i) value =
      some (Buffer.overwrite dest i 8 (bitElement value)) :=
  foldlM_setBitStep value (by omega) hint hdest

/-- When one of the eight indices is no value of type `int`, `tta_set_bits_from_byte` has no defined
behaviour. -/
theorem ttaSetBitsFromByte_eq_none {dest : Bytes} {i : ℕ} (value : UInt8) (hi : i < 2 ^ 31)
    (hint : 2 ^ 31 < i + 8) (hdest : i + 8 ≤ dest.length) :
    ttaSetBitsFromByte dest (.ofNat i) value = none := by
  obtain ⟨m, hm⟩ : ∃ m, 8 = (2 ^ 31 - i) + (m + 1) := ⟨7 - (2 ^ 31 - i), by omega⟩
  have hover : addInt (Int32.ofNat i).toInt ((2 ^ 31 - i : ℕ) : Int) = none := by
    rw [Int32.toInt_ofNat_of_lt hi, addInt, if_neg (by omega)]
  rw [ttaSetBitsFromByte, hm, List.range_add, List.foldlM_append,
    foldlM_setBitStep value hi (by omega) (by omega), List.range_succ_eq_map]
  simp only [Option.bind_eq_bind, Option.bind_some, List.map_cons, List.foldlM_cons, Nat.add_zero,
    setBitStep, hover, Option.bind_none]

/-- The loop of `tta_set_bits_from_bytes` overwrites the rest of the block. -/
theorem setBitsLoop_eq {dest tabByte : Bytes} {i n : ℕ} (hn : i + n < 2 ^ 32)
    (hdest : i + n ≤ dest.length) (htab : n ≤ 8 * tabByte.length) {r j : ℕ} (hj : j + r = n) :
    setBitsLoop (.ofNat i) (.ofNat (i + n)) tabByte (.ofNat (i + j)) (j % 8)
        (Buffer.overwrite dest i j (tableBit tabByte)) =
      some (Buffer.overwrite dest i n (tableBit tabByte)) := by
  induction r generalizing j with
  | zero =>
    rw [setBitsLoop, dif_neg (by
      rw [← hj, Nat.add_zero]
      exact UInt32.lt_irrefl _), ← hj, Nat.add_zero]
  | succ r ih =>
    have htoNat (k : ℕ) (hk : k < 2 ^ 32) : (UInt32.ofNat k).toNat = k :=
      UInt32.toNat_ofNat_of_lt' hk
    have hlt : UInt32.ofNat (i + j) < UInt32.ofNat (i + n) := by
      rw [UInt32.lt_iff_toNat_lt, htoNat _ (by omega), htoNat _ hn]
      omega
    have hbyte : ((UInt32.ofNat (i + j) - UInt32.ofNat i) / 8).toNat = j / 8 := by
      rw [UInt32.toNat_div, UInt32.toNat_sub_of_le, htoNat _ (by omega), htoNat _ (by omega),
        Nat.add_sub_cancel_left]
      · rfl
      · rw [UInt32.le_iff_toNat_le, htoNat _ (by omega), htoNat _ (by omega)]
        omega
    have hnext : UInt32.ofNat (i + j) + 1 = UInt32.ofNat (i + (j + 1)) :=
      (UInt32.ofNat_add (i + j) 1).symm
    have hmem : j / 8 < tabByte.length := by omega
    rw [setBitsLoop, dif_pos hlt, hbyte, htoNat _ (by omega), List.getElem?_eq_getElem hmem]
    simp only [Option.bind_eq_bind, Option.bind_some, ite_and_shiftLeft]
    have hbit : bitElement tabByte[j / 8] (j % 8) = tableBit tabByte j := by
      rw [tableBit, List.getD_eq_getElem _ _ hmem]
    rw [hbit, Buffer.store_overwrite _ (by omega), Option.bind_some, hnext]
    have hshift : (j % 8 + 1) % 8 = (j + 1) % 8 := by omega
    rw [hshift]
    exact ih (by omega)

/-- `tta_set_bits_from_bytes` overwrites a block with the bits of the table. -/
theorem ttaSetBitsFromBytes_eq {dest tabByte : Bytes} {i n : ℕ} (hn : i + n < 2 ^ 32)
    (hdest : i + n ≤ dest.length) (htab : n ≤ 8 * tabByte.length) :
    ttaSetBitsFromBytes dest (.ofNat i) (.ofNat n) tabByte =
      some (Buffer.overwrite dest i n (tableBit tabByte)) := by
  have hloop := setBitsLoop_eq hn hdest htab (Nat.zero_add n)
  rwa [Buffer.overwrite_zero, Nat.add_zero, UInt32.ofNat_add] at hloop

/-! ## Reading -/

/-- The low bits of a byte, with one more of them. -/
theorem mod_or_bitElement (b : UInt8) (k : ℕ) :
    (b.toNat % 2 ^ k ||| (bitElement b k).toNat <<< k) = b.toNat % 2 ^ (k + 1) := by
  have hbit : (bitElement b k).toNat = b.toNat / 2 ^ k % 2 := by
    rw [bitElement, Nat.testBit_eq_decide_div_mod_eq]
    rcases Nat.mod_two_eq_zero_or_one (b.toNat / 2 ^ k) with h | h
    · simp [h]
    · simp [h]
  rw [Nat.or_comm, hbit, Nat.shiftLeft_eq, Nat.mul_comm,
    ← Nat.two_pow_add_eq_or_of_lt (Nat.mod_lt _ (Nat.two_pow_pos k)), Nat.mod_pow_succ,
    Nat.add_comm]

/-- The loop of `tta_get_byte_from_bits` collects the low bits of a byte whose bits stand in the
array. -/
theorem foldlM_getBitStep {src : Bytes} {i m : ℕ} (b : UInt8) (hm : m ≤ 8)
    (hi : i + m ≤ 2 ^ 32) (hsrc : ∀ j < m, src[i + j]? = some (bitElement b j)) :
    (List.range m).foldlM (getBitStep src (.ofNat i)) 0 =
      some (UInt8.ofNat (b.toNat % 2 ^ m)) := by
  induction m with
  | zero => simp [Nat.mod_one]
  | succ m ih =>
    have hidx : ((Int32.ofNat i).toUInt32 + UInt32.ofNat m).toNat = i + m := by
      rw [Int32.toUInt32_ofNat', ← UInt32.ofNat_add]
      exact UInt32.toNat_ofNat_of_lt' (show i + m < 2 ^ 32 by omega)
    have hlow : (UInt8.ofNat (b.toNat % 2 ^ m)).toNat = b.toNat % 2 ^ m :=
      UInt8.toNat_ofNat_of_lt' ((Nat.mod_le _ _).trans_lt b.toNat_lt)
    rw [List.range_succ, List.foldlM_append,
      ih (by omega) (by omega) fun j hj => hsrc j (by omega)]
    simp only [List.foldlM_cons, List.foldlM_nil, Option.bind_eq_bind, Option.bind_some, getBitStep,
      hidx, hsrc m (Nat.lt_succ_self m), hlow, mod_or_bitElement b m]
    rfl

/-- `tta_get_byte_from_bits` reads the low bits of a byte whose bits stand in the array. -/
theorem ttaGetByteFromBits_eq (ndebug : Bool) {src : Bytes} {i m : ℕ} (b : UInt8) (hm : m ≤ 8)
    (hi : i + m ≤ 2 ^ 32) (hsrc : ∀ j < m, src[i + j]? = some (bitElement b j)) :
    ttaGetByteFromBits ndebug src (.ofNat i) (.ofNat m) =
      some (UInt8.ofNat (b.toNat % 2 ^ m)) := by
  have htoNat : (UInt32.ofNat m).toNat = m :=
    UInt32.toNat_ofNat_of_lt' (show m < 2 ^ 32 by omega)
  have hsmall : ¬UInt32.ofNat m > 8 := by
    rw [gt_iff_lt, UInt32.lt_iff_toNat_lt, htoNat]
    exact Nat.not_lt.mpr hm
  rw [ttaGetByteFromBits, if_neg fun h => hsmall h.1]
  simp only [if_neg hsmall, htoNat]
  exact foldlM_getBitStep b hm hi hsrc

/-! ## The round trip -/

/-- The bits of a table of bytes stand in an array, from the index `i` on, and the rest of the array
is as it was. -/
structure HoldsBits (tabByte dest : Bytes) (i n : ℕ) (dest' : Bytes) : Prop where
  bits : ∀ j < n, ∃ b, tabByte[j / 8]? = some b ∧
    dest'[i + j]? = some (if b.toNat.testBit (j % 8) then 1 else 0)
  frame : ∀ p, p < i ∨ i + n ≤ p → dest'[p]? = dest[p]?
  /-- Each byte can be read back, the last one as far as its bits have been written. -/
  bytes : ∀ ndebug k, 8 * k < n → ∃ b, tabByte[k]? = some b ∧
    ttaGetByteFromBits ndebug dest' (.ofNat (i + 8 * k)) (.ofNat (min 8 (n - 8 * k))) =
      some (UInt8.ofNat (b.toNat % 2 ^ min 8 (n - 8 * k)))

/-- A bit of a table that is long enough. -/
theorem tableBit_of_getElem? {tabByte : Bytes} {j : ℕ} {b : UInt8} (h : tabByte[j / 8]? = some b) :
    tableBit tabByte j = bitElement b (j % 8) := by
  rw [tableBit, List.getD_eq_getElem?_getD, h, Option.getD_some]

/-- An array that has been overwritten with the bits of a table holds them. -/
theorem holdsBits_overwrite {dest tabByte : Bytes} {i n : ℕ} (hn : i + n < 2 ^ 32)
    (hdest : i + n ≤ dest.length) (htab : n ≤ 8 * tabByte.length) :
    HoldsBits tabByte dest i n (Buffer.overwrite dest i n (tableBit tabByte)) := by
  have hbyte (k : ℕ) (hk : 8 * k < n) : ∃ b, tabByte[k]? = some b :=
    ⟨_, List.getElem?_eq_getElem (by omega)⟩
  refine ⟨fun j hj => ?_, fun p hp => Buffer.getElem?_overwrite_of_not _ hp,
    fun ndebug k hk => ?_⟩
  · obtain ⟨b, hb⟩ := hbyte (j / 8) (by omega)
    refine ⟨b, hb, ?_⟩
    rw [Buffer.getElem?_overwrite_of_lt _ hj hdest, tableBit_of_getElem? hb]
    rfl
  · obtain ⟨b, hb⟩ := hbyte k hk
    refine ⟨b, hb, ttaGetByteFromBits_eq ndebug b (Nat.min_le_left _ _) (by omega) fun j hj => ?_⟩
    have hj8 : j < 8 := lt_of_lt_of_le hj (Nat.min_le_left _ _)
    have hdiv : (8 * k + j) / 8 = k := by omega
    have hmod : (8 * k + j) % 8 = j := by omega
    rw [Nat.add_assoc, Buffer.getElem?_overwrite_of_lt _ (by omega) hdest,
      tableBit_of_getElem? (hdiv.symm ▸ hb), hmod]

/-- Bits that are written can be read back and nothing else is written, and the two writers agree on
a byte whose eight indices are values of type `int`. -/
theorem bits_round_trip (dest : Bytes) :
    (∀ i n tabByte, i < 2 ^ 31 → i + n < 2 ^ 32 → i + n ≤ dest.length →
      (n + 7) / 8 ≤ tabByte.length →
      ∃ dest', ttaSetBitsFromBytes dest (.ofNat i) (.ofNat n) tabByte = some dest' ∧
        HoldsBits tabByte dest i n dest') ∧
    ∀ i value tabByte, i + 7 < 2 ^ 31 → i + 8 ≤ dest.length →
      ttaSetBitsFromByte dest (.ofNat i) value =
        ttaSetBitsFromBytes dest (.ofNat i) 8 (value :: tabByte) := by
  constructor
  · intro i n tabByte _ hn hdest htab
    have htab' : n ≤ 8 * tabByte.length := by omega
    exact ⟨_, ttaSetBitsFromBytes_eq hn hdest htab', holdsBits_overwrite hn hdest htab'⟩
  · intro i value tabByte hint hdest
    have htab : 8 ≤ 8 * (value :: tabByte).length := by
      rw [List.length_cons]
      omega
    have hbytes := ttaSetBitsFromBytes_eq (by omega) hdest htab
    rw [ttaSetBitsFromByte_eq value (by omega) hdest]
    refine Eq.trans (congrArg some (Buffer.overwrite_congr fun j hj => ?_)) hbytes.symm
    have hdiv : j / 8 = 0 := Nat.div_eq_of_lt hj
    rw [tableBit_of_getElem? (b := value) (by rw [hdiv]; rfl), Nat.mod_eq_of_lt hj]

/-- Thirteen bits behind the third element, and a byte there. -/
theorem bits_round_trip_unaligned :
    (∃ dest', ttaSetBitsFromBytes (List.replicate 20 7) (.ofNat 3) (.ofNat 13) [0xA5, 0xF3] =
        some dest' ∧ HoldsBits [0xA5, 0xF3] (List.replicate 20 7) 3 13 dest') ∧
      ttaSetBitsFromByte (List.replicate 20 7) (.ofNat 3) 0xA5 =
        ttaSetBitsFromBytes (List.replicate 20 7) (.ofNat 3) 8 [0xA5] :=
  ⟨(bits_round_trip (List.replicate 20 7)).1 3 13 [0xA5, 0xF3] (by decide) (by decide) (by decide)
      (by decide),
    (bits_round_trip (List.replicate 20 7)).2 3 0xA5 [] (by decide) (by decide)⟩

/-- At the last index of type `int` the two writers differ: the second bit of
`tta_set_bits_from_byte` has no index. -/
theorem bits_from_byte_differ :
    ttaSetBitsFromByte (List.replicate (2 ^ 31 + 7) 0) (.ofNat (2 ^ 31 - 1)) 255 = none ∧
      ttaSetBitsFromBytes (List.replicate (2 ^ 31 + 7) 0) (.ofNat (2 ^ 31 - 1)) (.ofNat 8) [255] ≠
        none := by
  have hdest : 2 ^ 31 - 1 + 8 ≤ (List.replicate (2 ^ 31 + 7) (0 : UInt8)).length := by
    rw [List.length_replicate]
    omega
  refine ⟨ttaSetBitsFromByte_eq_none 255 (by omega) (by omega) hdest, ?_⟩
  rw [ttaSetBitsFromBytes_eq (by omega) hdest (by decide)]
  exact Option.some_ne_none _

end Libtta
