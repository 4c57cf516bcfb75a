import Libtta.Receive.Line
import Libtta.Context.Reachable

/-!
# The one-shot parser and the grammar of RS485 frames

The incremental reader is a one-shot parser in disguise: `oneShot` looks at the whole stream at
once, and `run_ttaReceivePkt_eq_oneShot` says that the reader has the same outcome and consumes the
same bytes, whatever the fragments. For RS485 this fixes the streams from which `tta_receive`
delivers a message: those that start with a frame that has the right length and the right checksums.
The first byte of the frame is not looked at.
-/

namespace Libtta

variable {σ ρ : Type}

/-! ## The one-shot parser -/

/-- The one-shot parser, with `errno` as it is before the call: the result, `errno` after the call,
and what is left of the stream. -/
def oneShot (b : BackendType) (errno : Errno) (s : Bytes) : Option ℕ × Errno × Bytes :=
  let h := b.headerLength
  let n := h + (s.getD (h - 1) 0).toNat + b.checksumLength
  if s.length < h then (none, .ECONNRESET, [])
  else if n > b.maxAduLength then (none, .EMBBADDATA, s.drop h)
  else if s.length < n then (none, .ECONNRESET, [])
  else if b.intact (s.take n) then (some n, errno, s.drop n)
  else (none, .EMBBADCRC, s.drop n)

/-- The length the header of a stream announces. -/
theorem total_eq (b : BackendType) {s : Bytes} (hs : b.headerLength ≤ s.length) :
    b.framing.total s =
      b.headerLength + (s.getD (b.headerLength - 1) 0).toNat + b.checksumLength := by
  have hpos : 0 < b.headerLength := b.framing.hdlen_pos
  obtain ⟨datalen, hdatalen, htotal⟩ := total_of_header (b := b)
    (List.take_append_drop b.headerLength s) (List.length_take_of_le hs)
  have hbyte : s.getD (b.headerLength - 1) 0 = datalen := by
    rw [List.getElem?_take_of_lt (by omega)] at hdatalen
    rw [List.getD_eq_getElem?_getD, hdatalen]
    rfl
  rw [htotal, hbyte]
  omega

/-- The one-shot parser, by the look at the front of the stream. -/
theorem oneShot_eq_parse (b : BackendType) (errno : Errno) (s : Bytes) :
    oneShot b errno s =
      match b.parse s with
      | (.error e, rest) => (none, e, rest)
      | (.ok f, rest) => (some f.length, errno, rest) := by
  rw [oneShot, BackendType.parse]
  by_cases hhd : s.length < b.headerLength
  · rw [if_pos hhd, Framing.next_of_length_lt_hdlen hhd]
  have htotal := total_eq b (not_lt.mp hhd)
  rw [if_neg hhd, ← htotal]
  by_cases hlong : b.framing.total s > b.maxAduLength
  · rw [if_pos hlong, Framing.next_of_limit_lt (not_lt.mp hhd) hlong]
  by_cases hshort : s.length < b.framing.total s
  · rw [if_neg hlong, if_pos hshort, Framing.next_of_length_lt_total (not_lt.mp hlong) hshort]
  have hlen : (s.take (b.framing.total s)).length = b.framing.total s :=
    List.length_take_of_le (not_lt.mp hshort)
  rw [if_neg hlong, if_neg hshort, Framing.next_of_total_le (not_lt.mp hlong) (not_lt.mp hshort)]
  by_cases hintact : b.intact (s.take (b.framing.total s)) = true
  · simp only [hintact, if_true, hlen]
  · simp only [hintact, hlen]
    rfl

/-- The incremental reader equals the one-shot parser: it has the same result and the same `errno`,
leaves the same part of the stream, and a packet that is there in full is stored unchanged at the
front of the buffer, whatever the fragments. -/
theorem run_ttaReceivePkt_eq_oneShot {os : Os σ} {input : σ → Bytes} {other : σ → ρ}
    (hos : Feeds os input other never) (fuel : ℕ) (pkt : Bytes) (fgtimeout : Bool) (w : World σ)
    (hrf : w.ctx.type ≠ .rf) (hnone : w.ctx.errorRecovery = 0)
    (hsize : pkt.length = maxMessageLength) :
    ∃ rc pkt' errno d,
      (ttaReceivePkt os fuel pkt fgtimeout).run w =
        .ok ((rc, pkt'), { w with errno := errno, dev := d }) ∧
      (rc, errno, input d) = oneShot w.ctx.type w.errno (input w.dev) ∧
      (let h := w.ctx.type.headerLength
        let n := h + ((input w.dev).getD (h - 1) 0).toNat + w.ctx.type.checksumLength
        n ≤ w.ctx.type.maxAduLength → n ≤ (input w.dev).length →
          (input w.dev).take n <+: pkt') := by
  obtain ⟨⟨rc, pkt'⟩, w', hrun, hend⟩ := run_ttaReceivePkt hos fuel pkt fgtimeout
    (by rw [hsize]; exact BackendType.maxAduLength_le _) hrf (Calm.of_none hnone)
  have hstored (hall : ∀ f, w.ctx.type.framing.next (input w.dev) = .frame f → f <+: pkt') :
      (let h := w.ctx.type.headerLength
        let n := h + ((input w.dev).getD (h - 1) 0).toNat + w.ctx.type.checksumLength
        n ≤ w.ctx.type.maxAduLength → n ≤ (input w.dev).length →
          (input w.dev).take n <+: pkt') := by
    intro h n hfit hlen
    have htotal := total_eq w.ctx.type (s := input w.dev) (by omega)
    change w.ctx.type.framing.total (input w.dev) = n at htotal
    rw [← htotal] at hfit hlen ⊢
    exact hall _ (Framing.next_of_total_le hfit hlen)
  rw [oneShot_eq_parse]
  cases hend with
  | refused hparse hall hin _ =>
    exact ⟨none, pkt', _, _, hrun, by rw [hparse, hin], hstored hall⟩
  | failed hfail _ _ => exact hfail.elim
  | @read _ f rest d hparse hpre _ hin _ =>
    refine ⟨some f.length, pkt', w.errno, d, hrun, by rw [hparse, hin], hstored fun g hg => ?_⟩
    obtain ⟨hf, -, hsplit⟩ := BackendType.parse_eq_ok_iff.mp hparse
    rw [← hsplit, Framing.next_append hf] at hg
    cases hg
    exact hpre

/-- On a TCP line whose reads return at most three bytes, a frame with one byte of payload is read,
and the byte behind it is left. -/
theorem run_ttaReceivePkt_eq_oneShot_tcp :
    ∃ pkt' d, (ttaReceivePkt lineOs 0 (List.replicate 260 0) false).run
        ⟨ttaNewTcp "127.0.0.1" 502, .other 0, List.Vector.replicate 128 0, 0,
          ⟨[0, 1, 0, 0, 1, 0, 16, 1, 0xAA, 0x55], [], fun _ => 2, 0, fun _ => 0⟩⟩ =
      .ok ((some 9, pkt'), ⟨ttaNewTcp "127.0.0.1" 502, .other 0, List.Vector.replicate 128 0, 0,
        d⟩) ∧ d.input = [0x55] := by
  obtain ⟨rc, pkt', errno, d, hrun, hone, -⟩ := run_ttaReceivePkt_eq_oneShot feeds_lineOs 0
    (List.replicate 260 0) false
    ⟨ttaNewTcp "127.0.0.1" 502, .other 0, List.Vector.replicate 128 0, 0,
      ⟨[0, 1, 0, 0, 1, 0, 16, 1, 0xAA, 0x55], [], fun _ => 2, 0, fun _ => 0⟩⟩
    (by decide) rfl List.length_replicate
  have hparsed : oneShot .tcp (.other 0) [0, 1, 0, 0, 1, 0, 16, 1, 0xAA, 0x55] =
      (some 9, .other 0, [0x55]) := by decide
  obtain ⟨rfl, rfl, hin⟩ : rc = some 9 ∧ errno = .other 0 ∧ d.input = [0x55] := by
    simpa using hone.trans hparsed
  exact ⟨pkt', d, hrun, hin⟩

/-! ## RS485 frames -/

/-- The stream starts with an RS485 frame whose first byte satisfies `start`: that byte, the device
id, the sub id, the command, the length of the payload, the payload, the exclusive or of what
precedes and the sum of what precedes, of at most 256 bytes altogether. -/
def StartsWithRs485Frame (start : UInt8 → Prop) (s : Bytes) : Prop :=
  ∃ (first devid subid cmd datalen : UInt8) (data rest : Bytes),
    start first ∧ data.length = datalen.toNat ∧ 7 + datalen.toNat ≤ 256 ∧
      s = withSums ([first, devid, subid, cmd, datalen] ++ data) ++ rest

/-- The one-shot parser finds an RS485 packet exactly in the streams that start with a frame. -/
theorem parse_rs485_ok_iff {s : Bytes} :
    (∃ f rest, BackendType.rs485.parse s = (.ok f, rest)) ↔
      StartsWithRs485Frame (fun _ => True) s := by
  constructor
  · rintro ⟨f, rest, hparse⟩
    obtain ⟨hf, hintact, rfl⟩ := BackendType.parse_eq_ok_iff.mp hparse
    obtain ⟨pre, m, sums, hlayout, hpre, hsums⟩ := exists_layout hf
    obtain ⟨first, rfl⟩ : ∃ first, pre = [first] := List.length_eq_one_iff.mp hpre
    have hlen : f.length = 5 + m.hd.datalen.toNat + 2 := by
      rw [hlayout]
      simp only [List.length_append, List.length_singleton, TtamsgHd.length_bytes, m.length_data,
        hsums, BackendType.checksumLength]
    have hbody : f.take (f.length - 2) = [first] ++ m.hd.bytes ++ m.data := by
      rw [hlayout]
      refine List.take_left' ?_
      simp only [List.length_append, hsums, BackendType.checksumLength, Nat.add_sub_cancel]
    refine ⟨first, m.hd.devid, m.hd.subid, m.hd.cmd, m.hd.datalen, m.data, rest, trivial,
      m.length_data, ?_, ?_⟩
    · have hle := hf.length_le
      rw [BackendType.limit_framing, hlen] at hle
      change 5 + m.hd.datalen.toNat + 2 ≤ 256 at hle
      omega
    · rw [eq_withSums_of_sumsMatch (by omega) hintact, hbody]
      rfl
  · rintro ⟨first, devid, subid, cmd, datalen, data, rest, -, hdata, hfit, rfl⟩
    set m : Ttamsg := ⟨0, ⟨devid, subid, cmd, datalen⟩, data, hdata⟩
    refine ⟨_, rest, BackendType.parse_eq_ok_iff.mpr ⟨?_, sumsMatch_withSums _, rfl⟩⟩
    rw [withSums, List.append_assoc]
    exact isFrame_layout (b := .rs485) m (show [first].length = 1 from rfl) rfl
      (by change 5 + datalen.toNat + 2 ≤ 256; omega)

/-- When nothing fails, a message is delivered exactly when the one-shot parser finds a packet. -/
theorem MsgEnd.isSome_iff {b : BackendType} {s : Bytes} {input : σ → Bytes} {other : σ → ρ}
    {w w' : World σ} {r : Option (ℕ × Ttamsg)} (h : MsgEnd b s input other never w r w') :
    r.isSome ↔ ∃ f rest, b.parse s = (.ok f, rest) := by
  cases h with
  | refused hparse =>
    refine iff_of_false (by simp) ?_
    rintro ⟨f, rest, hok⟩
    rw [hparse] at hok
    cases hok
  | failed hfail => exact hfail.elim
  | delivered hparse => exact iff_of_true rfl ⟨_, _, hparse⟩

/-- `tta_receive` on an RS485 context delivers a message exactly when the stream starts with an
RS485 frame, with any first byte, and returns -1 otherwise, whatever the fragments. -/
theorem run_ttaReceive_rs485_iff {os : Os σ} {input : σ → Bytes} {other : σ → ρ}
    (hos : Feeds os input other never) (fuel : ℕ) (fgtm : Bool) {n : ℕ} (w : World σ)
    (hctx : Reachable w.ctx n) (htype : w.ctx.type = .rs485) (hnone : w.ctx.errorRecovery = 0) :
    ∃ r w', (ttaReceive os fuel fgtm).run w = .ok (r, w') ∧
      (r.isSome ↔ StartsWithRs485Frame (fun _ => True) (input w.dev)) := by
  obtain ⟨r, w', hrun, hend⟩ := run_ttaReceive hos fuel fgtm (htype ▸ by decide)
    hctx.counts.flag (Calm.of_none hnone)
  rw [htype] at hend
  exact ⟨r, w', hrun, hend.isSome_iff.trans parse_rs485_ok_iff⟩

/-- The end of an RS485 line on which `s` is still to be read, one byte at a time. -/
def rs485Line (s : Bytes) : World Line :=
  ⟨ttaNewRs485 "/dev/ttyS0", .other 0, List.Vector.replicate 128 0, 0,
    ⟨s, [], fun _ => 0, 0, fun _ => 0⟩⟩

/-- A frame with one byte of payload is received. -/
theorem run_ttaReceive_rs485_iff_frame :
    ∃ r w', (ttaReceive lineOs 0 false).run
        (rs485Line [0xF7, 1, 0, 0x10, 1, 0xAA, 0x4D, 0x00]) = .ok (r, w') ∧ r.isSome := by
  obtain ⟨r, w', hrun, hiff⟩ := run_ttaReceive_rs485_iff feeds_lineOs 0 false
    (rs485Line [0xF7, 1, 0, 0x10, 1, 0xAA, 0x4D, 0x00]) (.newRs485 _ _ _) rfl rfl
  exact ⟨r, w', hrun, hiff.mpr ⟨0xF7, 1, 0, 0x10, 1, [0xAA], [], trivial, rfl, by decide, rfl⟩⟩

/-- Noise that lines up with the length and the checksums is received, too: here the first byte is 0
and not STX. -/
theorem run_ttaReceive_rs485_noise :
    (∃ r w', (ttaReceive lineOs 0 false).run (rs485Line [0, 1, 0, 0x10, 0, 0x11, 0x22]) =
        .ok (r, w') ∧ r.isSome) ∧
      ¬StartsWithRs485Frame (· = stx) [0, 1, 0, 0x10, 0, 0x11, 0x22] := by
  constructor
  · obtain ⟨r, w', hrun, hend⟩ := run_ttaReceive feeds_lineOs 0 false
      (w := rs485Line [0, 1, 0, 0x10, 0, 0x11, 0x22]) (by decide) rfl (Calm.of_none rfl)
    exact ⟨r, w', hrun, hend.isSome_iff.mpr (parse_rs485_ok_iff.mpr
      ⟨0, 1, 0, 0x10, 0, [], [], trivial, rfl, by decide, rfl⟩)⟩
  · rintro ⟨first, devid, subid, cmd, datalen, data, rest, rfl, -, -, hs⟩
    have hhead := congrArg List.head? hs
    simp [withSums, stx] at hhead

end Libtta
