import Libtta.Exchange.SizeLimit

/-!
# Replies

`tta_reply` takes the length of its payload as an `int` and passes it on as a byte. Over a link on
which nothing goes wrong a reply should either be refused, or reach the peer with exactly the
payload that was given. This is so up to the limit of the receivers (`replies_or_fails_iff`); beyond
it the payload may be cut, the peer may refuse the frame, or a buffer is overrun.
-/

namespace Libtta

variable {σ : Type}

/-! ## What a reply is for -/

/-- The reply is refused and the link is silent, or it is sent and the peer gets it. -/
inductive RepliesOrFails (silent replied : World σ → Prop) :
    Except Stop (Option ℕ × World σ) → Prop where
  | failed {w : World σ} (h : silent w) : RepliesOrFails silent replied (.ok (none, w))
  | sent (n : ℕ) {w : World σ} (h : replied w) : RepliesOrFails silent replied (.ok (some n, w))

/-- A call of `tta_receive` delivers the reply to `req` with the payload `data`. -/
def DeliversReply (os : Os σ) (fuel : ℕ) (w : World σ) (req : Ttamsg) (data : Bytes) : Prop :=
  ∃ n m w', (ttaReceive os fuel false).run w = .ok (some (n, m), w') ∧
    m.hd.devid = req.hd.devid ∧ m.hd.subid = req.hd.subid ∧ m.hd.cmd = req.hd.cmd ||| 0x80 ∧
    m.data = data

/-- A reply that is sent has to reach the peer. -/
theorem repliesOrFails_ok_iff {silent replied : World σ → Prop} {n : ℕ} {w : World σ} :
    RepliesOrFails silent replied (.ok (some n, w)) ↔ replied w := by
  constructor
  · rintro ⟨⟩
    assumption
  · exact .sent n

/-- A call that stops does not refuse the reply. -/
theorem not_repliesOrFails_error {silent replied : World σ → Prop} {e : Stop} :
    ¬RepliesOrFails silent replied (.error e) := by
  rintro ⟨⟩

/-! ## The length of the payload -/

/-- The length of a payload becomes a byte in the message. -/
theorem datalen_replyMsg (req : Ttamsg) (data : Bytes) :
    (replyMsg req data).hd.datalen.toNat = data.length % 256 :=
  UInt8.toNat_ofNat'

/-- The payload of a reply is the one that was passed, if its length fits a byte. -/
theorem data_replyMsg (req : Ttamsg) {data : Bytes} (h : data.length < 256) :
    (replyMsg req data).data = data := by
  change data.take (UInt8.ofNat data.length).toNat = data
  rw [UInt8.toNat_ofNat', Nat.mod_eq_of_lt h, List.take_length]

/-- The peer gets the reply exactly when it gets the message and the payload has not been cut. -/
theorem deliversReply_iff {os : Os σ} {fuel : ℕ} {w : World σ} {req : Ttamsg} {data : Bytes} :
    DeliversReply os fuel w req data ↔
      data.length ≤ 255 ∧ Delivers os fuel w (replyMsg req data) := by
  constructor
  · rintro ⟨n, m, w', hrun, hdevid, hsubid, hcmd, rfl⟩
    have hlt : m.hd.datalen.toNat < 256 := m.hd.datalen.toNat_lt
    have hlen := m.length_data
    have hdatalen : m.hd.datalen = (replyMsg req m.data).hd.datalen := by
      apply UInt8.toNat_inj.mp
      rw [datalen_replyMsg, hlen, Nat.mod_eq_of_lt hlt]
    refine ⟨by omega, n, m, w', hrun, ?_⟩
    have hhd : m.hd = (replyMsg req m.data).hd := by
      calc m.hd = ⟨m.hd.devid, m.hd.subid, m.hd.cmd, m.hd.datalen⟩ := rfl
        _ = (replyMsg req m.data).hd := by
          rw [hdevid, hsubid, hcmd, hdatalen]
          rfl
    rw [Ttamsg.content, Ttamsg.content, data_replyMsg req (by omega), hhd]
  · rintro ⟨hlen, n, m, w', hrun, hcontent⟩
    rw [Ttamsg.content, Ttamsg.content, Prod.mk.injEq] at hcontent
    obtain ⟨hhd, hdata⟩ := hcontent
    rw [data_replyMsg req (by omega)] at hdata
    exact ⟨n, m, w', hrun, by rw [hhd]; rfl, by rw [hhd]; rfl, by rw [hhd]; rfl, hdata⟩

/-! ## Replies on a link -/

/-- On a line, a reply is refused or reaches the peer exactly with the payloads up to the limit. -/
theorem repliesOrFails_line_iff (fuel : ℕ) (req : Ttamsg) (data : Bytes) {k : ℕ}
    (sender receiver : World Line) (hreceiver : Reachable receiver.ctx k)
    (htype : receiver.ctx.type = sender.ctx.type) (hrf : sender.ctx.type ≠ .rf)
    (hout : sender.dev.output = []) :
    RepliesOrFails (fun s => s.dev.output = [])
        (fun s => sender.ctx.type.framing.IsFrame s.dev.output ∧ DeliversReply lineOs fuel
          { receiver with dev := { receiver.dev with input := s.dev.output } } req data)
        ((ttaReply lineOs fuel req data).run sender) ↔
      data.length ≤ sender.ctx.type.payloadLimit := by
  have hlimit : sender.ctx.type.payloadLimit ≤ 252 := by cases sender.ctx.type <;> decide
  have hdatalen := datalen_replyMsg req data
  have hfits := frameLength_le_maxAduLength_iff hrf (m := replyMsg req data)
  unfold ttaReply
  by_cases hroom : (replyMsg req data).frameLength sender.ctx.type ≤ maxMessageLength
  · have hdelivers := delivers_lineOs_iff fuel sender.ctx.backend (m := replyMsg req data)
      (w := { receiver with dev := { receiver.dev with
        input := sender.ctx.backend.frame (replyMsg req data) } })
      htype (htype ▸ hrf) hreceiver.counts.flag rfl
    rw [run_ttaSend takes_lineOs fuel sender hrf hroom, repliesOrFails_ok_iff, hout,
      List.nil_append, deliversReply_iff, hdelivers]
    constructor
    · rintro ⟨-, hlen, hfit⟩
      have := hfits.mp hfit
      omega
    · intro hlen
      have hfit := hfits.mpr (by omega)
      exact ⟨isFrame_frame sender.ctx.backend _ hfit, by omega, hfit⟩
  · have hsend : (ttaSend lineOs fuel (replyMsg req data)).run sender = .error (.store .pkt) :=
      not_not.mp (mt (run_ttaSend_ne_iff lineOs fuel sender _).mp hroom)
    rw [hsend]
    refine iff_of_false not_repliesOrFails_error fun hlen => hroom ?_
    exact (hfits.mpr (by omega)).trans sender.ctx.type.maxAduLength_le

/-- Over the radio, a reply is refused or reaches the peer exactly with the payloads up to the
limit. -/
theorem repliesOrFails_radio_iff (fuel : ℕ) (req : Ttamsg) (data : Bytes) {k : ℕ}
    (sender receiver : World Radio) (hreceiver : Reachable receiver.ctx k)
    (htype : receiver.ctx.type = .rf) (hrf : sender.ctx.type = .rf)
    (hsynced : sender.dev.synced = false) :
    RepliesOrFails (fun s => s.dev.tx = sender.dev.tx)
        (fun s => (∃ f, s.dev.tx = UInt8.ofNat f.length :: f ∧ BackendType.rf.framing.IsFrame f) ∧
          DeliversReply radioOs (fuel + 1)
            { receiver with dev := { receiver.dev with rx := s.dev.onAir } } req data)
        ((ttaReply radioOs (fuel + 2) req data).run sender) ↔
      data.length ≤ BackendType.rf.payloadLimit := by
  have hlength : (replyMsg req data).frameLength sender.ctx.type = 8 + data.length % 256 + 2 := by
    rw [hrf, ← datalen_replyMsg req data]
    rfl
  unfold ttaReply
  by_cases hfit : (replyMsg req data).frameLength sender.ctx.type ≤ 127
  · have hdelivers := delivers_radioOs_iff fuel sender.ctx.backend (m := replyMsg req data)
      (w := { receiver with dev := { receiver.dev with
        rx := Radio.arrival (sender.ctx.backend.frame (replyMsg req data)) } })
      htype hrf hreceiver.counts.flag rfl
    rw [run_ttaSend_radio fuel sender hrf hsynced hfit, repliesOrFails_ok_iff, deliversReply_iff]
    refine (and_congr_right' (and_congr_right' hdelivers)).trans ?_
    rw [← hrf, hlength]
    have hlimit : sender.ctx.type.payloadLimit = 115 := by
      rw [hrf]
      rfl
    constructor
    · rintro ⟨-, hlen, hshort⟩
      omega
    · intro hlen
      refine ⟨⟨_, rfl, ?_⟩, by omega, by omega⟩
      exact isFrame_frame sender.ctx.backend _ (by
        change (replyMsg req data).frameLength sender.ctx.type ≤ sender.ctx.type.maxAduLength
        rw [hlength, hrf]
        change _ ≤ 256
        omega)
  · obtain ⟨o, hsend⟩ := run_ttaSend_radio_overrun (fuel + 2) sender hrf (not_le.mp hfit)
    rw [hsend]
    refine iff_of_false not_repliesOrFails_error ?_
    change ¬_ ≤ 115
    omega

/-- A reply is refused, or reaches the peer with exactly the payload that was given, exactly for the
payloads of at most 249 bytes for RS485, 252 bytes for TCP and 115 bytes for RF. -/
theorem replies_or_fails_iff (fuel : ℕ) (req : Ttamsg) (data : Bytes) :
    (∀ {k : ℕ} (sender receiver : World Line), Reachable receiver.ctx k →
      receiver.ctx.type = sender.ctx.type → sender.ctx.type ≠ .rf → sender.dev.output = [] →
      (RepliesOrFails (fun s => s.dev.output = [])
          (fun s => sender.ctx.type.framing.IsFrame s.dev.output ∧ DeliversReply lineOs fuel
            { receiver with dev := { receiver.dev with input := s.dev.output } } req data)
          ((ttaReply lineOs fuel req data).run sender) ↔
        data.length ≤ sender.ctx.type.payloadLimit)) ∧
    ∀ {k : ℕ} (sender receiver : World Radio), Reachable receiver.ctx k →
      receiver.ctx.type = .rf → sender.ctx.type = .rf → sender.dev.synced = false →
      (RepliesOrFails (fun s => s.dev.tx = sender.dev.tx)
          (fun s => (∃ f, s.dev.tx = UInt8.ofNat f.length :: f ∧ BackendType.rf.framing.IsFrame f) ∧
            DeliversReply radioOs (fuel + 1)
              { receiver with dev := { receiver.dev with rx := s.dev.onAir } } req data)
          ((ttaReply radioOs (fuel + 2) req data).run sender) ↔
        data.length ≤ BackendType.rf.payloadLimit) :=
  ⟨repliesOrFails_line_iff fuel req data, repliesOrFails_radio_iff fuel req data⟩

/-- The longest payloads reach the peer. -/
theorem replies_or_fails_longest :
    RepliesOrFails (fun s => s.dev.output = [])
        (fun s => BackendType.rs485.framing.IsFrame s.dev.output ∧
          DeliversReply lineOs 0 (rs485Line s.dev.output) (zeros 0) (List.replicate 249 1))
        ((ttaReply lineOs 0 (zeros 0) (List.replicate 249 1)).run (rs485Line [])) ∧
      RepliesOrFails (fun s => s.dev.tx = [])
        (fun s => (∃ f, s.dev.tx = UInt8.ofNat f.length :: f ∧ BackendType.rf.framing.IsFrame f) ∧
          DeliversReply radioOs 1 { rfEnd with dev := { rfEnd.dev with rx := s.dev.onAir } }
            (zeros 0)
            (List.replicate 115 1))
        ((ttaReply radioOs 2 (zeros 0) (List.replicate 115 1)).run rfEnd) :=
  ⟨((replies_or_fails_iff 0 (zeros 0) (List.replicate 249 1)).1 (rs485Line []) (rs485Line [])
      (.newRs485 _ _ _) rfl (by decide) rfl).mpr (List.length_replicate.trans_le (by decide)),
    ((replies_or_fails_iff 0 (zeros 0) (List.replicate 115 1)).2 rfEnd rfEnd
      (.newRf _ _ _ _ _) rfl rfl
      rfl).mpr (List.length_replicate.trans_le (by decide))⟩

/-- A payload of 256 bytes is sent over RS485 as an empty one. -/
theorem not_replies_or_fails : ¬RepliesOrFails (fun s => s.dev.output = [])
    (fun s => BackendType.rs485.framing.IsFrame s.dev.output ∧
      DeliversReply lineOs 0 (rs485Line s.dev.output) (zeros 0) (List.replicate 256 1))
    ((ttaReply lineOs 0 (zeros 0) (List.replicate 256 1)).run (rs485Line [])) := by
  intro h
  have hlimit := (repliesOrFails_line_iff 0 (zeros 0) (List.replicate 256 1) (rs485Line [])
    (rs485Line []) (.newRs485 _ _ _) rfl (by decide) rfl).mp h
  exact absurd (List.length_replicate.symm.trans_le hlimit) (by decide)

end Libtta
