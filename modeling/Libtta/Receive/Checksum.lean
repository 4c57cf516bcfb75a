import Libtta.Library.Parity
import Libtta.Receive.Reader

/-!
# What the checksums detect

A packet whose two checksums match is a table of bits, one row for each byte but the last, in which
every column is even: the first checksum is the exclusive or of the bytes before it. A corruption
that makes a column odd is detected (`Parity.exists_column_of_burst`,
`Parity.exists_column_of_odd`), and one that changes the last byte only is detected by the second
checksum.
-/

namespace Libtta

variable {σ : Type}

/-! ## Bits in transmission order -/

/-- The bits of a byte, the least significant one first. -/
def byteBits (x : UInt8) : Parity.Row := fun b => x.toNat.testBit b

/-- The bits of the bytes, one row for each byte. -/
def bitRows (bs : Bytes) : List Parity.Row := bs.map byteBits

/-- The bit of a packet that is transmitted at a position. -/
def bitAt (bs : Bytes) (p : ℕ) : Bool := byteBits (bs.getD (p / 8) 0) (p % 8)

/-- Is the bit at a position another one? -/
def flipped (f f' : Bytes) (p : ℕ) : Bool := bitAt f p ^^ bitAt f' p

/-- At least one bit is another one, and all that are lie within a window of 8 consecutive bits. -/
def BurstError (f f' : Bytes) : Prop :=
  (∃ p < 8 * f.length, flipped f f' p = true) ∧
    ∃ k, ∀ p < 8 * f.length, flipped f f' p = true → k ≤ p ∧ p < k + 8

/-- In the bytes before the last one, the number of bits that are other ones is odd. -/
def OddError (f f' : Bytes) : Prop :=
  (List.range (8 * (f.length - 1))).countP (flipped f f') % 2 = 1

@[simp] theorem length_bitRows (bs : Bytes) : (bitRows bs).length = bs.length := List.length_map _

/-- Bytes are equal when their bits are. -/
theorem eq_of_byteBits {x y : UInt8} (h : ∀ b < 8, byteBits x b = byteBits y b) : x = y := by
  refine UInt8.toNat_inj.mp (Nat.eq_of_testBit_eq fun b => ?_)
  rcases Nat.lt_or_ge b 8 with hb | hb
  · exact h b hb
  · have hpow : (2 : ℕ) ^ 8 ≤ 2 ^ b := Nat.pow_le_pow_right (by decide) hb
    rw [Nat.testBit_lt_two_pow (x.toNat_lt.trans_le hpow),
      Nat.testBit_lt_two_pow (y.toNat_lt.trans_le hpow)]

/-- The bits of a packet are the cells of its table. -/
theorem cell_bitRows (bs : Bytes) (p : ℕ) : Parity.cell 8 (bitRows bs) p = bitAt bs p := by
  have hzero : (fun _ => false : Parity.Row) = byteBits 0 :=
    funext fun b => (Nat.zero_testBit b).symm
  rw [Parity.cell, bitAt, hzero, bitRows, List.getD_map]

/-- The flipped bits are the cells in which the two tables differ. -/
theorem cell_diff {f f' : Bytes} (hlen : f'.length = f.length) (p : ℕ) :
    Parity.cell 8 (Parity.diff (bitRows f) (bitRows f')) p = flipped f f' p := by
  rw [flipped, ← cell_bitRows, ← cell_bitRows]
  exact Parity.cell_diff (by simp [hlen]) p

/-- A bit of the first bytes of two packets is a bit of the packets. -/
theorem flipped_take {f f' : Bytes} {n p : ℕ} (hp : p < 8 * n) :
    flipped (f.take n) (f'.take n) p = flipped f f' p := by
  have hrow : p / 8 < n := Nat.div_lt_of_lt_mul hp
  have hbit {g : Bytes} : bitAt (g.take n) p = bitAt g p := by
    rw [bitAt, bitAt, List.getD_eq_getElem?_getD, List.getElem?_take_of_lt hrow,
      ← List.getD_eq_getElem?_getD]
  rw [flipped, flipped, hbit, hbit]

/-! ## The two checksums -/

/-- A bit of the first checksum is the parity of a column. -/
theorem byteBits_sumXor (bs : Bytes) (b : ℕ) :
    byteBits (sumXor bs) b = Parity.columnParity (bitRows bs) b := by
  have hfold (a : UInt8) : byteBits (bs.foldl (· ^^^ ·) a) b =
      (byteBits a b ^^ Parity.columnParity (bitRows bs) b) := by
    induction bs generalizing a with
    | nil => exact (Bool.xor_false _).symm
    | cons x bs ih =>
      have hxor : byteBits (a ^^^ x) b = (byteBits a b ^^ byteBits x b) := by
        rw [byteBits, UInt8.toNat_xor, Nat.testBit_xor]
        rfl
      rw [List.foldl_cons, ih, hxor, Bool.xor_assoc]
      rfl
  have hzero : byteBits 0 b = false := Nat.zero_testBit b
  rw [sumXor, hfold, hzero, Bool.false_xor]

/-- In a packet whose checksums match, all columns of the bytes before the last one are even. -/
theorem columnParity_of_sumsMatch {f : Bytes} (hlen : 2 ≤ f.length) (h : sumsMatch f = true)
    (b : ℕ) : Parity.columnParity (bitRows (f.take (f.length - 1))) b = false := by
  obtain ⟨body, rfl⟩ : ∃ body, f = withSums body := ⟨_, eq_withSums_of_sumsMatch hlen h⟩
  have hbody : (withSums body).take ((withSums body).length - 1) = body ++ [sumXor body] := by
    rw [length_withSums, withSums, List.take_left' (by simp)]
  rw [hbody, bitRows, List.map_append, Parity.columnParity_append, ← bitRows, ← byteBits_sumXor]
  simp [Parity.columnParity]

/-- The last byte of a packet whose checksums match is the sum of the bytes before it. -/
theorem getElem?_of_sumsMatch {f : Bytes} (h : sumsMatch f = true) :
    f[f.length - 1]? = some (sumAdd (f.take (f.length - 1))) := by
  rw [sumsMatch, Bool.and_eq_true, beq_iff_eq, beq_iff_eq] at h
  exact h.2

section Detection

variable {f f' : Bytes} (hlen : f'.length = f.length) (htwo : 2 ≤ f.length)

include hlen htwo

/-- Between two packets whose checksums match, no column of the bytes before the last is odd. -/
theorem columnParity_diff_of_sumsMatch (h : sumsMatch f = true) (h' : sumsMatch f' = true) (b : ℕ) :
    Parity.columnParity (Parity.diff (bitRows (f.take (f.length - 1)))
      (bitRows (f'.take (f.length - 1)))) b = false := by
  have hcols' := columnParity_of_sumsMatch (hlen ▸ htwo) h' b
  rw [hlen] at hcols'
  rw [Parity.columnParity_diff (by simp [hlen]), columnParity_of_sumsMatch htwo h, hcols']
  rfl

/-- The bytes before the last one are the same when no bit of them is flipped. -/
theorem take_eq_of_flipped (h : ∀ p < 8 * (f.length - 1), flipped f f' p = false) :
    f.take (f.length - 1) = f'.take (f.length - 1) := by
  refine List.ext_getElem (by simp [hlen]) fun i hi hi' => eq_of_byteBits fun b hb => ?_
  rw [List.length_take] at hi hi'
  have hnone := h (8 * i + b) (by omega)
  have hrow : (8 * i + b) / 8 = i := by omega
  have hcol : (8 * i + b) % 8 = b := by omega
  rw [flipped, bitAt, bitAt, hrow, hcol, List.getD_eq_getElem _ _ (by omega),
    List.getD_eq_getElem _ _ (by omega)] at hnone
  rw [List.getElem_take, List.getElem_take]
  simpa using hnone

/-- An error within a window of 8 bits is detected. -/
theorem not_sumsMatch_of_burstError (h : sumsMatch f = true) (herr : BurstError f f') :
    sumsMatch f' = false := by
  refine Bool.eq_false_iff.mpr fun h' => ?_
  have heven := columnParity_diff_of_sumsMatch hlen htwo h h'
  obtain ⟨⟨p, hp, hflip⟩, k, hwindow⟩ := herr
  have hrows : (Parity.diff (bitRows (f.take (f.length - 1)))
      (bitRows (f'.take (f.length - 1)))).length = f.length - 1 := by
    simp [Parity.diff, hlen]
  have hcell {q : ℕ} (hq : q < 8 * (f.length - 1)) : Parity.cell 8
      (Parity.diff (bitRows (f.take (f.length - 1))) (bitRows (f'.take (f.length - 1)))) q =
        flipped f f' q := by
    rw [cell_diff (by simp [hlen]), flipped_take hq]
  by_cases hbody : ∃ q < 8 * (f.length - 1), flipped f f' q = true
  · obtain ⟨q, hq, hflip⟩ := hbody
    obtain ⟨b, -, hodd⟩ := Parity.exists_column_of_burst (k := k) (hrows.symm ▸ hq)
      ((hcell hq).trans hflip) fun q' hq' hflip' => by
        rw [hrows] at hq'
        exact hwindow q' (by omega) ((hcell hq').symm.trans hflip')
    rw [heven b] at hodd
    cases hodd
  · -- only the last byte has changed, and it is the sum of the others
    have hsame : f.take (f.length - 1) = f'.take (f.length - 1) :=
      take_eq_of_flipped hlen htwo fun q hq => Bool.eq_false_iff.mpr fun hq' => hbody ⟨q, hq, hq'⟩
    have hlast := getElem?_of_sumsMatch h
    have hlast' := getElem?_of_sumsMatch h'
    rw [hlen, ← hsame] at hlast'
    have hp' : p / 8 = f.length - 1 := by
      have : ¬p < 8 * (f.length - 1) := fun hp' => hbody ⟨p, hp', hflip⟩
      omega
    rw [flipped, bitAt, bitAt, hp', List.getD_eq_getElem?_getD, List.getD_eq_getElem?_getD, hlast,
      hlast', Bool.xor_self] at hflip
    cases hflip

/-- An odd number of errors in the bytes before the last one is detected. -/
theorem not_sumsMatch_of_oddError (h : sumsMatch f = true) (herr : OddError f f') :
    sumsMatch f' = false := by
  refine Bool.eq_false_iff.mpr fun h' => ?_
  have hcount : Parity.countOnes 8 (Parity.diff (bitRows (f.take (f.length - 1)))
      (bitRows (f'.take (f.length - 1)))) =
        (List.range (8 * (f.length - 1))).countP (flipped f f') := by
    have hrows : (Parity.diff (bitRows (f.take (f.length - 1)))
        (bitRows (f'.take (f.length - 1)))).length = f.length - 1 := by
      simp [Parity.diff, hlen]
    rw [Parity.countOnes_eq (by decide), hrows]
    refine List.countP_congr fun p hp => ?_
    rw [cell_diff (by simp [hlen]), flipped_take (List.mem_range.mp hp)]
  obtain ⟨b, -, hodd⟩ := Parity.exists_column_of_odd ((congrArg (· % 2) hcount).trans herr)
  rw [columnParity_diff_of_sumsMatch hlen htwo h h' b] at hodd
  cases hodd

end Detection

/-! ## The integrity check -/

/-- `tta_flush` returns on an RS485 or RF context. -/
theorem exists_run_ttaFlush (os : Os σ) (fuel : ℕ) {w : World σ} (htype : w.ctx.type ≠ .tcp) :
    ∃ r w', (ttaFlush os fuel).run w = .ok (r, w') := by
  unfold ttaFlush
  rw [Exec.run_bind_of_ok (run_getCtx w)]
  cases hbe : w.ctx.backend with
  | tcp d => exact absurd (congrArg Backend.type hbe) htype
  | rs485 d =>
    obtain ⟨e, h⟩ := exists_run_sys (os.tcflush w.ctx.s) w
    exact ⟨_, _, (Exec.run_bind_of_ok h).trans rfl⟩
  | rf d =>
    obtain ⟨e₁, h₁⟩ := exists_run_cc1120Strobe os w.ctx.s Cc1120.SFTX w
    obtain ⟨e₂, h₂⟩ := exists_run_cc1120Strobe os w.ctx.s Cc1120.SFRX
      { w with dev := (os.strobe w.ctx.s Cc1120.SFTX w.dev).2, errno := e₁ }
    exact ⟨_, _, (Exec.run_bind_of_ok h₁).trans ((Exec.run_bind_of_ok h₂).trans rfl)⟩

/-- The integrity check of an RS485 or RF packet returns: it accepts the packet when its checksums
match, and rejects it otherwise. -/
theorem exists_run_checkIntegrity (os : Os σ) (fuel : ℕ) {f pkt : Bytes} {w : World σ}
    (htype : w.ctx.type ≠ .tcp) (hf : f <+: pkt) (hlen : 2 ≤ f.length) :
    ∃ w', (checkIntegrity os fuel pkt f.length).run w =
        .ok (if sumsMatch f then some f.length else none, w') ∧
      (sumsMatch f = false → w'.errno = .EMBBADCRC) := by
  have hsums := run_loadSumsMatch hf hlen w
  have hcheck : (checkIntegrity os fuel pkt f.length).run w =
      (checkSums os fuel pkt f.length).run w := by
    unfold checkIntegrity
    rw [Exec.run_bind_of_ok (run_getCtx w)]
    cases hbe : w.ctx.backend with
    | tcp d => exact absurd (congrArg Backend.type hbe) htype
    | rs485 d => rfl
    | rf d => rfl
  rw [hcheck, checkSums, Exec.run_bind_of_ok hsums]
  by_cases hmatch : sumsMatch f = true
  · rw [if_pos hmatch, if_pos hmatch]
    exact ⟨w, rfl, fun h => absurd (hmatch.symm.trans h) (by decide)⟩
  rw [if_neg hmatch, if_neg hmatch, Exec.run_bind_of_ok (run_getCtx w)]
  cases w.ctx.recoversProtocol with
  | false => exact ⟨_, rfl, fun _ => rfl⟩
  | true =>
    obtain ⟨r, w', hflush⟩ := exists_run_ttaFlush os fuel htype
    exact ⟨{ w' with errno := .EMBBADCRC }, (Exec.run_bind_of_ok hflush).trans rfl, fun _ => rfl⟩

/-- A packet is accepted only when its checksums match. -/
theorem sumsMatch_of_checkIntegrity {os : Os σ} {fuel n : ℕ} {f pkt : Bytes} {w w' : World σ}
    (htype : w.ctx.type ≠ .tcp) (hf : f <+: pkt)
    (h : (checkIntegrity os fuel pkt f.length).run w = .ok (some n, w')) :
    2 ≤ f.length ∧ sumsMatch f = true := by
  have hlen : 2 ≤ f.length := by
    by_contra hshort
    have hstop : (checkSums os fuel pkt f.length).run w = .error (.load .pkt) := by
      refine Exec.run_bind_of_error ?_
      rw [loadSumsMatch, if_pos (by omega)]
      rfl
    unfold checkIntegrity at h
    rw [Exec.run_bind_of_ok (run_getCtx w)] at h
    cases hbe : w.ctx.backend with
    | tcp d => exact htype (congrArg Backend.type hbe)
    | rs485 d =>
      rw [hbe] at h
      cases hstop.symm.trans h
    | rf d =>
      rw [hbe] at h
      cases hstop.symm.trans h
  refine ⟨hlen, ?_⟩
  obtain ⟨w₁, hrun, -⟩ := exists_run_checkIntegrity os fuel htype hf hlen
  rw [hrun] at h
  by_contra hmatch
  rw [if_neg hmatch] at h
  cases h

/-- When a packet is accepted, every burst of at most 8 bits, and every odd number of errors in
front of the last byte, makes the integrity check reject it. -/
theorem checkIntegrity_of_error {os os' : Os σ} {fuel fuel' n : ℕ} {f f' pkt pkt' : Bytes}
    {w w₁ w' : World σ} (htype : w.ctx.type ≠ .tcp) (htype' : w'.ctx.type = w.ctx.type)
    (hf : f <+: pkt) (hf' : f' <+: pkt') (hlen : f'.length = f.length)
    (haccept : (checkIntegrity os fuel pkt f.length).run w = .ok (some n, w₁))
    (herr : BurstError f f' ∨ OddError f f') :
    ∃ w₂, (checkIntegrity os' fuel' pkt' f.length).run w' = .ok (none, w₂) ∧
      w₂.errno = .EMBBADCRC := by
  obtain ⟨htwo, hmatch⟩ := sumsMatch_of_checkIntegrity htype hf haccept
  have hbad : sumsMatch f' = false := by
    rcases herr with hburst | hodd
    · exact not_sumsMatch_of_burstError hlen htwo hmatch hburst
    · exact not_sumsMatch_of_oddError hlen htwo hmatch hodd
  obtain ⟨w₂, hrun, herrno⟩ := exists_run_checkIntegrity os' fuel' (htype'.symm ▸ htype) hf'
    (hlen.symm ▸ htwo)
  rw [hlen, hbad] at hrun
  exact ⟨w₂, hrun, herrno hbad⟩

/-- Two flipped bits on both sides of a byte boundary are detected. -/
theorem checkIntegrity_of_error_burst : ∃ w₂, (checkIntegrity ({} : Os Unit) 0
    [stx, 0x81, 3, 3, 0, 0xF7, 0xF4] 7).run
      ⟨ttaNewRs485 "/dev/ttyS0", .other 0, List.Vector.replicate 128 0, 0, ()⟩ = .ok (none, w₂) ∧
    w₂.errno = .EMBBADCRC := by
  let w : World Unit := ⟨ttaNewRs485 "/dev/ttyS0", .other 0, List.Vector.replicate 128 0, 0, ()⟩
  have haccept : (checkIntegrity {} 0 [stx, 1, 2, 3, 0, 0xF7, 0xF4]
      [stx, 1, 2, 3, 0, 0xF7, 0xF4].length).run w = .ok (some 7, w) := by
    rfl
  have hburst : BurstError [stx, 1, 2, 3, 0, 0xF7, 0xF4] [stx, 0x81, 3, 3, 0, 0xF7, 0xF4] :=
    ⟨⟨15, by decide, by decide⟩, 15, by decide⟩
  exact checkIntegrity_of_error (f := [stx, 1, 2, 3, 0, 0xF7, 0xF4]) (w := w) (by decide) rfl
    List.prefix_rfl List.prefix_rfl rfl haccept (.inl hburst)

end Libtta
