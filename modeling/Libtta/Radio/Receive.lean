import Libtta.Radio.Radio
import Libtta.Receive.Rxfifo

/-!
# Receiving a radio packet

A packet that the radio has received is moved to the static receive buffer, and read from there. A
frame of another radio is received exactly when it fits the receive FIFO.
-/

namespace Libtta

variable {σ : Type}

/-- An intact frame in the static receive buffer is read. -/
theorem run_ttaReceivePkt_rf (os : Os σ) (fuel : ℕ) {f : Bytes} (pkt : Bytes) (fgtimeout : Bool)
    {w : World σ} (hf : BackendType.rf.framing.IsFrame f)
    (hintact : BackendType.rf.intact f = true) (hsize : BackendType.rf.maxAduLength ≤ pkt.length)
    (htype : w.ctx.type = .rf) (hfifo : f <+: w.rxfifo.1) (hread : w.rxfifoPos = 0) :
    ∃ pkt' pos, (ttaReceivePkt os fuel pkt fgtimeout).run w =
        .ok ((some f.length, pkt'), { w with rxfifoPos := pos }) ∧ f <+: pkt' := by
  have hnext : BackendType.rf.framing.next w.rxfifo.1 = .frame f :=
    Framing.next_eq_frame_iff.mpr ⟨hf, hfifo⟩
  have hend := rfEnd_of_start os fuel pkt
    (if fgtimeout then some w.ctx.responseTimeout else none) hsize htype hread
  generalize hloop : (receiveLoop os fuel BackendType.rf.maxAduLength
    ⟨pkt, 0, BackendType.rf.headerLength, .hd,
      if fgtimeout then some w.ctx.responseTimeout else none⟩).run w = res at hend
  cases hend with
  | short h => rw [h] at hnext; cases hnext
  | long h => rw [h] at hnext; cases hnext
  | @complete st g h hstored hcount _ =>
    rw [h] at hnext
    cases hnext
    have hlen : 2 ≤ f.length := by
      have hfour := four_le_length_of_isFrame hf
      omega
    have hgood : w.ctx.type.intact f = true := by rw [htype, hintact]
    have hcheck := run_checkIntegrity os fuel (w := { w with rxfifoPos := f.length }) hstored hlen
      (.inr hgood)
    rw [if_pos hgood, ← hcount] at hcheck
    refine ⟨st.pkt, f.length, ?_, hstored⟩
    unfold ttaReceivePkt
    rw [Exec.run_bind_of_ok (run_getCtx w), htype, ← hcount]
    rw [← hcount] at hloop
    exact (Exec.run_bind_of_ok hloop).trans ((Exec.run_bind_of_ok hcheck).trans rfl)

/-! ## Receiving from the radio -/

/-- A frame that fits the receive FIFO is received. -/
theorem run_ttaRfReceive (fuel : ℕ) {f : Bytes} (pkt : Bytes) (fgtimeout : Bool) {w : World Radio}
    (hf : BackendType.rf.framing.IsFrame f) (hintact : BackendType.rf.intact f = true)
    (hsize : BackendType.rf.maxAduLength ≤ pkt.length) (htype : w.ctx.type = .rf)
    (hflag : w.ctx.backend.confirmationToIgnore = false) (hrx : w.dev.rx = Radio.arrival f)
    (hfit : f.length ≤ 125) :
    ∃ pkt' w', (ttaRfReceive radioOs (fuel + 1) pkt fgtimeout).run w =
        .ok ((some f.length, pkt'), w') ∧ f <+: pkt' ∧ w'.ctx = w.ctx := by
  obtain ⟨fifo, hlen, hfifo⟩ := run_uninit radioOs 128 w
  obtain ⟨v, hwait, hv⟩ := run_waitRxPacket w.ctx.s
    ⟨0 + w.ctx.responseTimeout.sec, 0 + w.ctx.responseTimeout.usec⟩ fuel w hrx hlen hfit
  obtain ⟨pkt', pos, hread, hpre⟩ := run_ttaReceivePkt_rf radioOs (fuel + 1) pkt fgtimeout
    (w := { w with rxfifo := v, rxfifoPos := 0 }) hf hintact hsize htype hv rfl
  have hne : some f.length ≠ some 0 := by
    have hpos := hf.length_pos
    simp only [ne_eq, Option.some.injEq]
    omega
  have hreceive := run_receiveUnlessIgnored_of_ok
    (w := { w with rxfifo := v, rxfifoPos := 0 }) hflag hread hne
  refine ⟨pkt', { w with rxfifo := v, rxfifoPos := pos }, ?_, hpre, rfl⟩
  unfold ttaRfReceive
  rw [Exec.run_bind_of_ok (run_getCtx w), Exec.run_bind_of_ok hfifo]
  apply (Exec.run_bind_of_ok (run_ask radioOs.gettimeofday _)).trans
  apply (Exec.run_bind_of_ok (run_strobe_radio _ _ _)).trans
  apply (Exec.run_bind_of_ok (run_strobe_radio _ _ _)).trans
  apply (Exec.run_bind_of_ok (run_strobe_radio _ _ _)).trans
  apply (Exec.run_bind_of_ok hwait).trans
  exact (Exec.run_bind_of_ok hreceive).trans rfl

/-- A packet that overflows the receive FIFO is not received. -/
theorem run_ttaRfReceive_eq_none (fuel : ℕ) (pkt : Bytes) (fgtimeout : Bool) {w w' : World Radio}
    {r : Option ℕ × Bytes} (hlong : 128 < w.dev.rx.length)
    (hrun : (ttaRfReceive radioOs fuel pkt fgtimeout).run w = .ok (r, w')) : r.1 = none := by
  obtain ⟨fifo, hlen, hfifo⟩ := run_uninit radioOs 128 w
  unfold ttaRfReceive at hrun
  rw [Exec.run_bind_of_ok (run_getCtx w), Exec.run_bind_of_ok hfifo] at hrun
  have h := (Exec.run_bind_of_ok (run_ask radioOs.gettimeofday _)).symm.trans hrun
  replace h := (Exec.run_bind_of_ok (run_strobe_radio _ _ _)).symm.trans h
  replace h := (Exec.run_bind_of_ok (run_strobe_radio _ _ _)).symm.trans h
  replace h := (Exec.run_bind_of_ok (run_strobe_radio _ _ _)).symm.trans h
  obtain ⟨got, w₁, hwait, h⟩ := Exec.run_bind_eq_ok.mp h
  cases got with
  | true => exact absurd hwait (run_waitRxPacket_ne _ _ _ _ hlong)
  | false =>
    cases h
    rfl

end Libtta
