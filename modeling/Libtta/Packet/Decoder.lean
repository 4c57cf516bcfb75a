import Libtta.Packet.Frame

/-!
# The public decoder

`tta_conv_pkt2ttamsg` takes a packet and its length. `DecodesWithin` is what it is for: to read a
message out of the packet, without a look at what follows it in memory, and to refuse a packet that
is shorter than it announces. The decoders do not look at the length, so they do this exactly for
the packets that hold what they announce (`decodesWithin_iff`).
-/

namespace Libtta

variable {σ : Type}

/-! ## What a decoder reads -/

/-- A block that is copied out of a packet lies in the packet. -/
theorem length_of_run_copyTtamsg {preheader tid : ℕ} {pkt : Bytes} {m : Ttamsg} {w w' : World σ}
    (h : (copyTtamsg preheader tid pkt).run w = .ok (m, w')) :
    preheader + 4 + (pkt.getD (preheader + 3) 0).toNat ≤ pkt.length := by
  obtain ⟨datalen, w₁, h₁, h⟩ := Exec.run_bind_eq_ok.mp h
  obtain ⟨hdatalen, -⟩ := Exec.run_access_eq_ok.mp h₁
  obtain ⟨buf, w₂, h₂, -⟩ := Exec.run_bind_eq_ok.mp h
  obtain ⟨hbuf, -⟩ := Exec.run_access_eq_ok.mp h₂
  rw [List.getD_eq_getElem?_getD, hdatalen, Option.getD_some]
  change preheader + 4 + datalen.toNat ≤ pkt.length
  by_contra hshort
  have hnone : Buffer.load pkt preheader (4 + datalen.toNat) = none := by
    rw [Buffer.load, if_neg (by omega)]
  cases hnone.symm.trans hbuf

/-- A packet that is decoded without a read behind its end holds what its header announces. -/
theorem announced_of_run_convPkt2ttamsg {pkt : Bytes} {m : Ttamsg} {w w' : World σ}
    (h : (convPkt2ttamsg pkt).run w = .ok (m, w')) : w.ctx.type.Announced pkt := by
  have hread {tid : ℕ} {w₁ : World σ}
      (h : (copyTtamsg w.ctx.type.preheaderLength tid pkt).run w₁ = .ok (m, w')) :
      w.ctx.type.Announced pkt := by
    have hlen := length_of_run_copyTtamsg h
    have hhd := w.ctx.type.preheaderLength_add
    have hlast : w.ctx.type.headerLength - 1 = w.ctx.type.preheaderLength + 3 := by omega
    refine ⟨by omega, ?_⟩
    rw [hlast]
    omega
  obtain ⟨⟨s, rec, rt, bt, be⟩, errno, rxfifo, pos, dev⟩ := w
  cases be with
  | tcp d =>
    change (ttaTcpConvPkt2ttamsg pkt).run _ = _ at h
    obtain ⟨hi, w₁, -, h⟩ := Exec.run_bind_eq_ok.mp h
    obtain ⟨lo, w₂, -, h⟩ := Exec.run_bind_eq_ok.mp h
    exact hread h
  | rs485 d => exact hread h
  | rf d => exact hread h

/-! ## The length of the packet -/

/-- The message that a packet holds: behind what the backend puts before it come the header and as
many bytes as the header announces. -/
def BackendType.Holds (b : BackendType) (p : Bytes) (m : Ttamsg) : Prop :=
  m.tid = b.tidOf p ∧ m.hd.bytes ++ m.data <+: p.drop b.preheaderLength

/-- The public decoder does what it is for with the buffer `buf` and the length `pktlen`. -/
structure DecodesWithin (w : World σ) (buf : Bytes) (pktlen : Int) : Prop where
  /-- Only the first `pktlen` bytes are read: the call returns the same whatever follows them, also
  when nothing does. -/
  inside : ∃ r, ∀ buf', buf.take pktlen.toNat <+: buf' →
    (ttaConvPkt2ttamsg buf' pktlen).run w = .ok (r, w)
  /-- A packet that does not hold what its header announces is refused. -/
  refuses : ¬w.ctx.type.Announced (buf.take pktlen.toNat) →
    (ttaConvPkt2ttamsg buf pktlen).run w = .ok (none, w)
  /-- From any other packet the message is read. -/
  yields : w.ctx.type.Announced (buf.take pktlen.toNat) →
    ∃ m, (ttaConvPkt2ttamsg buf pktlen).run w = .ok (some m, w) ∧ w.ctx.type.Holds buf m

/-- A packet that holds what its header announces is decoded, whatever follows it. -/
theorem exists_run_ttaConvPkt2ttamsg {w : World σ} {p : Bytes} (pktlen : Int)
    (h : w.ctx.type.Announced p) :
    ∃ m, ∀ buf, p <+: buf →
      (ttaConvPkt2ttamsg buf pktlen).run w = .ok (some m, w) ∧ w.ctx.type.Holds buf m := by
  obtain ⟨pre, m, rest, rfl, hpre⟩ := exists_layout_of_announced h
  refine ⟨{ m with tid := w.ctx.type.tidOf pre }, fun buf hbuf => ?_⟩
  have hmsg := run_convPkt2ttamsg ((List.prefix_append _ rest).trans hbuf) w hpre
  refine ⟨(Exec.run_bind_of_ok hmsg).trans rfl, ?_⟩
  obtain ⟨tail, rfl⟩ := hbuf
  have heq : pre ++ m.hd.bytes ++ m.data ++ rest ++ tail =
      pre ++ (m.hd.bytes ++ m.data ++ (rest ++ tail)) := by
    simp only [List.append_assoc]
  rw [heq]
  refine ⟨(tidOf_append hpre _).symm, ?_⟩
  rw [← hpre, List.drop_left]
  exact List.prefix_append _ _

/-- The public decoder does what it is for exactly with the packets that hold what they announce. -/
theorem decodesWithin_iff (w : World σ) (buf : Bytes) (pktlen : Int) :
    DecodesWithin w buf pktlen ↔ w.ctx.type.Announced (buf.take pktlen.toNat) := by
  constructor
  · rintro ⟨⟨r, hinside⟩, -, -⟩
    obtain ⟨m, w', hmsg, -⟩ := Exec.run_bind_eq_ok.mp (hinside _ List.prefix_rfl)
    exact announced_of_run_convPkt2ttamsg hmsg
  · intro hann
    obtain ⟨m, hrun⟩ := exists_run_ttaConvPkt2ttamsg pktlen hann
    exact ⟨⟨some m, fun buf' hbuf' => (hrun buf' hbuf').1⟩, fun hnot => absurd hann hnot,
      fun _ => ⟨m, hrun buf (List.take_prefix _ _)⟩⟩

/-- An RS485 packet of five bytes whose header announces 200 more is read past its end. -/
theorem not_decodesWithin : ¬DecodesWithin (σ := Unit)
    ⟨ttaNewRs485 "/dev/ttyS0", .other 0, List.Vector.replicate 128 0, 0, ()⟩
    [stx, 1, 2, 3, 200] 5 := by
  rintro ⟨⟨r, hinside⟩, -, -⟩
  obtain ⟨m, w', hmsg, -⟩ := Exec.run_bind_eq_ok.mp (hinside _ List.prefix_rfl)
  have hann := (announced_of_run_convPkt2ttamsg hmsg).2
  revert hann
  decide

end Libtta
