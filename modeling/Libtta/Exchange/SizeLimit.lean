import Libtta.Context.Overrun
import Libtta.Radio.Receive
import Libtta.Receive.RoundTrip
import Libtta.Send.Packet

/-!
# The size limits of sender and receiver

Over a link on which nothing goes wrong, a payload should either be refused by the sender or be
accepted by the receiver. No sender looks at the length of a payload: a frame that fits its buffers
is sent, and a longer one overruns them. The limits of the receivers are others: `max_adu_length`
for RS485 and TCP, and for RF the 128 bytes of the receive FIFO, which hold a length byte and two
status bytes beside the frame. `refused_or_accepted_iff` tells for which payloads all is well.
-/

namespace Libtta

variable {σ : Type}

/-- The sender refuses the message, or what it sends is accepted. A sender that overruns a buffer
does neither. -/
inductive RefusedOrAccepted (accepted : World σ → Prop) :
    Except Stop (Option ℕ × World σ) → Prop where
  | refused (w : World σ) : RefusedOrAccepted accepted (.ok (none, w))
  | accepted (n : ℕ) {w : World σ} (h : accepted w) : RefusedOrAccepted accepted (.ok (some n, w))

/-- What is sent has to be accepted. -/
theorem refusedOrAccepted_ok_iff {accepted : World σ → Prop} {n : ℕ} {w : World σ} :
    RefusedOrAccepted accepted (.ok (some n, w)) ↔ accepted w := by
  constructor
  · rintro ⟨⟩
    assumption
  · exact .accepted n

/-- A sender that stops does not refuse the message. -/
theorem not_refusedOrAccepted_error {accepted : World σ → Prop} {e : Stop} :
    ¬RefusedOrAccepted accepted (.error e) := by
  rintro ⟨⟩

/-- A call of `tta_receive` delivers the message. -/
def Delivers (os : Os σ) (fuel : ℕ) (w : World σ) (m : Ttamsg) : Prop :=
  ∃ n m' w', (ttaReceive os fuel false).run w = .ok (some (n, m'), w') ∧ m'.content = m.content

/-- The longest payload for which sender and receiver agree. -/
def BackendType.payloadLimit : BackendType → ℕ
  | tcp => 252
  | rs485 => 249
  | rf => 115

/-! ## Lines -/

/-- A line takes every write in full. -/
theorem takes_lineOs : Takes lineOs fun bs d => { d with output := d.output ++ bs } where
  garbage _ := rfl
  write _ _ _ := rfl
  rtsSet _ _ := rfl
  rtsClear _ _ := rfl
  txEmpty _ _ := rfl
  modemGet _ _ := ⟨0, rfl⟩
  modemSet _ _ _ := rfl
  usleep _ _ := rfl

/-- A frame beyond the limit of the backend is refused, and nothing is written. -/
theorem run_ttaReceive_long (fuel : ℕ) (fgtm : Bool) {w : World Line} (be : Backend) {m : Ttamsg}
    (htype : w.ctx.type = be.type) (hrf : w.ctx.type ≠ .rf)
    (hflag : w.ctx.backend.confirmationToIgnore = false) (hin : w.dev.input = be.frame m)
    (hlong : be.type.maxAduLength < m.frameLength be.type) :
    ∃ w', (ttaReceive lineOs fuel fgtm).run w = .ok (none, w') ∧
      w'.dev.output = w.dev.output := by
  have hnext := next_frame_of_limit_lt be m hlong
  have hcalm : Calm w.ctx never w.dev.input := by
    right
    rw [htype, hin, hnext]
    exact ⟨fun _ _ h => h.elim, by simp, by rintro _ ⟨⟩⟩
  obtain ⟨r, w', hrun, hend⟩ := run_ttaReceive feeds_lineOs fuel fgtm hrf hflag hcalm
  rw [htype, hin] at hend
  cases hend with
  | refused _ _ hother => exact ⟨_, hrun, hother⟩
  | failed hfail => exact hfail.elim
  | delivered hparse =>
    rw [BackendType.parse, hnext] at hparse
    cases hparse

/-- A frame is received from a line exactly when it is within the limit of the backend. -/
theorem delivers_lineOs_iff (fuel : ℕ) {w : World Line} (be : Backend) {m : Ttamsg}
    (htype : w.ctx.type = be.type) (hrf : w.ctx.type ≠ .rf)
    (hflag : w.ctx.backend.confirmationToIgnore = false) (hin : w.dev.input = be.frame m) :
    Delivers lineOs fuel w m ↔ m.frameLength be.type ≤ be.type.maxAduLength := by
  constructor
  · rintro ⟨n, m', w', hrun, -⟩
    by_contra hlong
    obtain ⟨w'', hrefused, -⟩ :=
      run_ttaReceive_long fuel false be htype hrf hflag hin (not_le.mp hlong)
    rw [hrun] at hrefused
    cases hrefused
  · intro hfit
    obtain ⟨d, hrun, -, -⟩ := run_ttaReceive_frame feeds_lineOs (fun _ _ h => h.elim) fuel false
      htype hrf hflag hfit (hin.trans (List.append_nil _).symm)
    exact ⟨_, _, _, hrun, rfl⟩

/-! ## Radios -/

/-- On an RF context, a packet is handed to the radio. -/
theorem run_backendSend_radio (fuel : ℕ) (pkt : Bytes) {w : World Radio}
    (htype : w.ctx.type = .rf) :
    (backendSend radioOs fuel pkt).run w = (ttaRfSend radioOs fuel w.ctx.s pkt).run w := by
  obtain ⟨d, hbe⟩ := Tta.exists_rf htype
  unfold backendSend
  rw [Exec.run_bind_of_ok (run_getCtx w), hbe]

/-- A frame that fits the transmit FIFO is sent. -/
theorem run_ttaSend_radio (fuel : ℕ) {m : Ttamsg} (w : World Radio) (htype : w.ctx.type = .rf)
    (hsynced : w.dev.synced = false) (hfit : m.frameLength w.ctx.type ≤ 127) :
    (ttaSend radioOs (fuel + 2) m).run w = .ok (some (m.frameLength w.ctx.type),
      { w with
        ctx := w.ctx.stepped
        dev := { w.dev with
          tx := UInt8.ofNat (w.ctx.backend.frame m).length :: w.ctx.backend.frame m } }) := by
  set f := w.ctx.backend.frame m
  have hlength : f.length = m.frameLength w.ctx.type := w.ctx.backend.length_frame m
  have hgarbage (d : Radio) : (radioOs.garbage d).2 = d := rfl
  obtain ⟨buf, pkt, hbuf, hconv, -, htake⟩ := run_buildPkt hgarbage w (hfit.trans (by decide))
  have htype' : w.ctx.stepped.type = .rf := w.ctx.type_stepped.trans htype
  have hbackend := (run_backendSend_radio (fuel + 2) f (w := { w with ctx := w.ctx.stepped })
    htype').trans (run_ttaRfSend w.ctx.s fuel f _ hsynced (hlength ▸ hfit))
  unfold ttaSend
  rw [Exec.run_bind_of_ok hbuf, Exec.run_bind_of_ok hconv]
  dsimp only
  rw [htake, ← hlength]
  exact run_sendPkt_of_full hbackend

/-- A frame that does not fit the transmit FIFO overruns a buffer of the sender. -/
theorem run_ttaSend_radio_overrun (fuel : ℕ) {m : Ttamsg} (w : World Radio)
    (htype : w.ctx.type = .rf) (hlong : 127 < m.frameLength w.ctx.type) :
    ∃ o, (ttaSend radioOs fuel m).run w = .error (.store o) := by
  by_cases hroom : m.frameLength w.ctx.type ≤ maxMessageLength
  · set f := w.ctx.backend.frame m
    have hlength : f.length = m.frameLength w.ctx.type := w.ctx.backend.length_frame m
    have hgarbage (d : Radio) : (radioOs.garbage d).2 = d := rfl
    obtain ⟨buf, pkt, hbuf, hconv, -, htake⟩ := run_buildPkt hgarbage w hroom
    have htype' : w.ctx.stepped.type = .rf := w.ctx.type_stepped.trans htype
    have hbackend := (run_backendSend_radio fuel f (w := { w with ctx := w.ctx.stepped })
      htype').trans (run_ttaRfSend_overrun radioOs w.ctx.s fuel f _ (hlength ▸ hlong))
    refine ⟨.fifo, ?_⟩
    unfold ttaSend
    rw [Exec.run_bind_of_ok hbuf, Exec.run_bind_of_ok hconv]
    dsimp only
    rw [htake]
    exact Exec.run_bind_of_error (Exec.run_bind_of_error hbackend)
  · exact ⟨.pkt, not_not.mp (mt (run_ttaSend_ne_iff radioOs fuel w m).mp hroom)⟩

/-- What `tta_receive` makes of a packet. -/
def decodeReceived : Option ℕ × Bytes → Machine Radio (Option (ℕ × Ttamsg))
  | (none, _) => return none
  | (some rc, pkt) => return some (rc, ← convPkt2ttamsg pkt)

/-- A frame is received by another radio exactly when it fits the receive FIFO. -/
theorem delivers_radioOs_iff (fuel : ℕ) {w : World Radio} (be : Backend) {m : Ttamsg}
    (htype : w.ctx.type = .rf) (hbe : be.type = .rf)
    (hflag : w.ctx.backend.confirmationToIgnore = false)
    (hrx : w.dev.rx = Radio.arrival (be.frame m)) :
    Delivers radioOs (fuel + 1) w m ↔ m.frameLength .rf ≤ 125 := by
  have hlength : (be.frame m).length = m.frameLength .rf := by rw [be.length_frame, hbe]
  have hrxlen : w.dev.rx.length = m.frameLength .rf + 3 := by
    rw [hrx, Radio.arrival, ← hlength]
    simp
  obtain ⟨buf, hlen, hbuf⟩ := run_uninit radioOs maxMessageLength w
  obtain ⟨d, hctx⟩ := Tta.exists_rf htype
  have hreceive : (ttaReceive radioOs (fuel + 1) false).run w =
      (ttaRfReceive radioOs (fuel + 1) buf false >>= decodeReceived).run w := by
    unfold ttaReceive
    rw [Exec.run_bind_of_ok hbuf]
    have hbackend : (backendReceive radioOs (fuel + 1) buf false).run w =
        (ttaRfReceive radioOs (fuel + 1) buf false).run w := by
      unfold backendReceive
      rw [Exec.run_bind_of_ok (run_getCtx w), hctx]
    exact Exec.run_bind_congr hbackend _
  rw [Delivers, hreceive]
  constructor
  · rintro ⟨n, m', w', hrun, -⟩
    by_contra hlong
    obtain ⟨⟨rc, pkt⟩, w₁, hrf, hrun⟩ := Exec.run_bind_eq_ok.mp hrun
    obtain rfl : rc = none := run_ttaRfReceive_eq_none _ _ _ (by omega) hrf
    cases hrun
  · intro hfit
    have hframe : BackendType.rf.framing.IsFrame (be.frame m) := by
      rw [← hbe]
      exact isFrame_frame be m (by rw [hbe]; exact hfit.trans (by decide))
    have hintact : BackendType.rf.intact (be.frame m) = true := hbe ▸ intact_frame be m
    obtain ⟨pkt', w', hrf, hpre, hctx'⟩ := run_ttaRfReceive fuel buf false hframe hintact
      (by rw [hlen]; decide) htype hflag hrx (hlength ▸ hfit)
    have htype' : w'.ctx.type = be.type := by rw [hctx', htype, hbe]
    obtain ⟨m', hdecode, hconv⟩ := run_convPkt2ttamsg_of_isFrame (w := w') (f := be.frame m)
      (by rw [htype', hbe]; exact hframe) hpre
    rw [htype', decode_frame, Option.some.injEq] at hdecode
    refine ⟨_, m', w', (Exec.run_bind_of_ok hrf).trans ((Exec.run_bind_of_ok hconv).trans rfl), ?_⟩
    rw [← hdecode]
    rfl

/-! ## Agreement -/

/-- The limit of the payload is where the frame reaches the limit of the receiver. -/
theorem frameLength_le_maxAduLength_iff {b : BackendType} (hrf : b ≠ .rf) {m : Ttamsg} :
    m.frameLength b ≤ b.maxAduLength ↔ m.hd.datalen.toNat ≤ b.payloadLimit := by
  cases b with
  | tcp =>
    change 8 + m.hd.datalen.toNat + 0 ≤ 260 ↔ _ ≤ 252
    omega
  | rs485 =>
    change 5 + m.hd.datalen.toNat + 2 ≤ 256 ↔ _ ≤ 249
    omega
  | rf => exact absurd rfl hrf

/-- Over a line, all is well with the payloads up to the limit. -/
theorem refusedOrAccepted_line_iff (fuel : ℕ) (m : Ttamsg) {k : ℕ} (sender receiver : World Line)
    (hreceiver : Reachable receiver.ctx k) (htype : receiver.ctx.type = sender.ctx.type)
    (hrf : sender.ctx.type ≠ .rf) (hout : sender.dev.output = []) :
    RefusedOrAccepted (fun s => Delivers lineOs fuel
          { receiver with dev := { receiver.dev with input := s.dev.output } } m)
        ((ttaSend lineOs fuel m).run sender) ↔
      m.hd.datalen.toNat ≤ sender.ctx.type.payloadLimit := by
  by_cases hroom : m.frameLength sender.ctx.type ≤ maxMessageLength
  · have hdelivers := delivers_lineOs_iff fuel sender.ctx.backend (m := m)
      (w := { receiver with dev := { receiver.dev with input := sender.ctx.backend.frame m } })
      htype (htype ▸ hrf) hreceiver.counts.flag rfl
    rw [run_ttaSend takes_lineOs fuel sender hrf hroom, refusedOrAccepted_ok_iff, hout,
      List.nil_append, hdelivers]
    exact frameLength_le_maxAduLength_iff hrf
  · have hsend : (ttaSend lineOs fuel m).run sender = .error (.store .pkt) :=
      not_not.mp (mt (run_ttaSend_ne_iff lineOs fuel sender m).mp hroom)
    rw [hsend]
    refine iff_of_false not_refusedOrAccepted_error fun hfit => hroom ?_
    exact ((frameLength_le_maxAduLength_iff hrf).mpr hfit).trans sender.ctx.type.maxAduLength_le

/-- Over the radio, all is well with the payloads up to the limit. -/
theorem refusedOrAccepted_radio_iff (fuel : ℕ) (m : Ttamsg) {k : ℕ} (sender receiver : World Radio)
    (hreceiver : Reachable receiver.ctx k) (htype : receiver.ctx.type = .rf)
    (hrf : sender.ctx.type = .rf) (hsynced : sender.dev.synced = false) :
    RefusedOrAccepted (fun s => Delivers radioOs (fuel + 1)
          { receiver with dev := { receiver.dev with rx := s.dev.onAir } } m)
        ((ttaSend radioOs (fuel + 2) m).run sender) ↔
      m.hd.datalen.toNat ≤ BackendType.rf.payloadLimit := by
  have hlength : m.frameLength sender.ctx.type = 8 + m.hd.datalen.toNat + 2 := by
    rw [hrf]
    rfl
  by_cases hfit : m.frameLength sender.ctx.type ≤ 127
  · rw [run_ttaSend_radio fuel sender hrf hsynced hfit, refusedOrAccepted_ok_iff]
    refine (delivers_radioOs_iff fuel sender.ctx.backend
      (w := { receiver with dev := { receiver.dev with
        rx := Radio.arrival (sender.ctx.backend.frame m) } })
      htype hrf hreceiver.counts.flag rfl).trans ?_
    change 8 + m.hd.datalen.toNat + 2 ≤ 125 ↔ _ ≤ 115
    omega
  · obtain ⟨o, hsend⟩ := run_ttaSend_radio_overrun (fuel + 2) sender hrf (not_le.mp hfit)
    rw [hsend]
    refine iff_of_false not_refusedOrAccepted_error ?_
    change ¬_ ≤ 115
    omega

/-- Sender and receiver agree on the size of a payload, in that it is refused by the one or accepted
by the other, exactly for the payloads of at most 249 bytes for RS485, 252 bytes for TCP and 115
bytes for RF. The contexts are any two of one backend, and the fragments are arbitrary. -/
theorem refused_or_accepted_iff (fuel : ℕ) (m : Ttamsg) :
    (∀ {k : ℕ} (sender receiver : World Line), Reachable receiver.ctx k →
      receiver.ctx.type = sender.ctx.type → sender.ctx.type ≠ .rf → sender.dev.output = [] →
      (RefusedOrAccepted (fun s => Delivers lineOs fuel
            { receiver with dev := { receiver.dev with input := s.dev.output } } m)
          ((ttaSend lineOs fuel m).run sender) ↔
        m.hd.datalen.toNat ≤ sender.ctx.type.payloadLimit)) ∧
    ∀ {k : ℕ} (sender receiver : World Radio), Reachable receiver.ctx k →
      receiver.ctx.type = .rf → sender.ctx.type = .rf → sender.dev.synced = false →
      (RefusedOrAccepted (fun s => Delivers radioOs (fuel + 1)
            { receiver with dev := { receiver.dev with rx := s.dev.onAir } } m)
          ((ttaSend radioOs (fuel + 2) m).run sender) ↔
        m.hd.datalen.toNat ≤ BackendType.rf.payloadLimit) :=
  ⟨refusedOrAccepted_line_iff fuel m, refusedOrAccepted_radio_iff fuel m⟩

/-- A message with a payload of zeros. -/
def zeros (datalen : UInt8) : Ttamsg :=
  ttamsgMake 1 0 0x10 (List.replicate datalen.toNat 0) datalen List.length_replicate.ge

/-- The longest payloads are accepted. -/
theorem refused_or_accepted_longest :
    RefusedOrAccepted (fun s => Delivers lineOs 0 (rs485Line s.dev.output) (zeros 249))
        ((ttaSend lineOs 0 (zeros 249)).run (rs485Line [])) ∧
      RefusedOrAccepted (fun s => Delivers radioOs 1
          { rfEnd with dev := { rfEnd.dev with rx := s.dev.onAir } } (zeros 115))
        ((ttaSend radioOs 2 (zeros 115)).run rfEnd) :=
  ⟨((refused_or_accepted_iff 0 (zeros 249)).1 (rs485Line []) (rs485Line []) (.newRs485 _ _ _) rfl
      (by decide) rfl).mpr (by decide),
    ((refused_or_accepted_iff 0 (zeros 115)).2 rfEnd rfEnd (.newRf _ _ _ _ _) rfl rfl rfl).mpr
      (by decide)⟩

/-- An RS485 payload of 250 bytes is sent with success and refused by the receiver, and so is an RF
payload of 116 bytes. -/
theorem not_refused_or_accepted :
    ¬RefusedOrAccepted (fun s => Delivers lineOs 0 (rs485Line s.dev.output) (zeros 250))
        ((ttaSend lineOs 0 (zeros 250)).run (rs485Line [])) ∧
      ¬RefusedOrAccepted (fun s => Delivers radioOs 1
          { rfEnd with dev := { rfEnd.dev with rx := s.dev.onAir } } (zeros 116))
        ((ttaSend radioOs 2 (zeros 116)).run rfEnd) := by
  constructor
  · intro h
    have hlimit := (refusedOrAccepted_line_iff 0 (zeros 250) (rs485Line []) (rs485Line [])
      (.newRs485 _ _ _) rfl (by decide) rfl).mp h
    exact absurd hlimit (by decide)
  · intro h
    have hlimit := (refusedOrAccepted_radio_iff 0 (zeros 116) rfEnd rfEnd (.newRf _ _ _ _ _)
      rfl rfl rfl).mp h
    exact absurd hlimit (by decide)

end Libtta
