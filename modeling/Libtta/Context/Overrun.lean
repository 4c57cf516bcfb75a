import Libtta.Context.Reachable

/-!
# When a packet buffer is overrun

`tta_send`, `tta_request` and `tta_reply` build their packet in a buffer of 260 bytes, and the
encoders do not know its size. They write past its end exactly for the messages whose frame is
longer, in every context and under every operating system: nothing that happens before or after the
packet is built overruns a packet buffer.
-/

namespace Libtta

variable {σ : Type}

/-- A computation that builds a packet in a fresh packet buffer, and keeps to its buffers
afterwards, overruns the buffer exactly when the frame is too long. -/
private theorem run_uninit_convTtamsg2pkt_ne_iff {α : Type} (os : Os σ) (w : World σ) (m : Ttamsg)
    {f : Bytes × ℕ → Machine σ α}
    (hf : ∀ r, Keeps (·.type = w.ctx.type) (f r)) :
    (do f (← convTtamsg2pkt m (← uninit os maxMessageLength))).run w ≠ .error (.store .pkt) ↔
      m.frameLength w.ctx.type ≤ maxMessageLength := by
  obtain ⟨buf, hlen, hbuf⟩ := run_uninit os maxMessageLength w
  rw [Exec.run_bind_of_ok hbuf]
  set w₁ : World σ := { w with dev := (os.garbage w.dev).2 }
  constructor
  · intro h
    by_contra hlong
    exact h (Exec.run_bind_of_error (run_convTtamsg2pkt_overrun m w₁ (hlen ▸ not_le.mp hlong)))
  · intro hfit
    obtain ⟨pkt, hconv, -, -⟩ := run_convTtamsg2pkt m w₁ (hlen ▸ hfit)
    rw [Exec.run_bind_of_ok hconv]
    exact (hf _).run_ne w.ctx.backend.type_stepped

/-- `tta_send` overruns its buffer exactly when the frame is too long. -/
theorem run_ttaSend_ne_iff (os : Os σ) (fuel : ℕ) (w : World σ) (m : Ttamsg) :
    (ttaSend os fuel m).run w ≠ .error (.store .pkt) ↔
      m.frameLength w.ctx.type ≤ maxMessageLength :=
  run_uninit_convTtamsg2pkt_ne_iff os w m fun _ => keeps_sendPkt os fuel _

/-- The first half of `tta_request` overruns its buffer exactly when the frame is too long. -/
theorem run_ttaRequestSend_ne_iff (os : Os σ) (fuel : ℕ) (w : World σ) (m : Ttamsg) :
    (ttaRequestSend os fuel m).run w ≠ .error (.store .pkt) ↔
      m.frameLength w.ctx.type ≤ maxMessageLength :=
  run_uninit_convTtamsg2pkt_ne_iff os w m fun _ => (keeps_sendPkt os fuel _).bind fun _ => .pure _

/-- `tta_request` overruns its buffers exactly when the frame of the request is too long: the
response always fits. -/
theorem run_ttaRequest_ne_iff (os : Os σ) (fuel : ℕ) (w : World σ) (m : Ttamsg) :
    (ttaRequest os fuel m).run w ≠ .error (.store .pkt) ↔
      m.frameLength w.ctx.type ≤ maxMessageLength := by
  rw [← run_ttaRequestSend_ne_iff os fuel w m]
  refine not_congr (Exec.run_bind_eq_error.trans (or_iff_left ?_))
  rintro ⟨⟨reqbuf, rc⟩, w₁, hsend, hrest⟩
  have htype : w₁.ctx.type = w.ctx.type := by
    rw [Tta.type, (backend_of_ttaRequestSend hsend).1, Backend.type_stepped, Tta.type]
  cases rc with
  | none => cases hrest
  | some len =>
    exact (keeps_ttaRequestReceive (P := (·.type = w.ctx.type)) os fuel (fun _ h => h)
      (fun be h => by cases be <;> exact h) reqbuf).run_ne htype hrest

/-- A message that has been sent has had room in its buffer. -/
theorem frameLength_le_of_ttaSend {os : Os σ} {fuel : ℕ} {m : Ttamsg} {w w' : World σ}
    {r : Option ℕ}
    (h : (ttaSend os fuel m).run w = .ok (r, w')) : m.frameLength w.ctx.type ≤ maxMessageLength :=
  (run_ttaSend_ne_iff os fuel w m).mp (by rw [h]; simp)

/-- A request that has been sent has had room in its buffer. -/
theorem frameLength_le_of_ttaRequestSend {os : Os σ} {fuel : ℕ} {req : Ttamsg} {w w' : World σ}
    {r : Bytes × Option ℕ} (h : (ttaRequestSend os fuel req).run w = .ok (r, w')) :
    req.frameLength w.ctx.type ≤ maxMessageLength :=
  (run_ttaRequestSend_ne_iff os fuel w req).mp (by rw [h]; simp)

/-- The packet buffer is not overrun exactly when the frame of the message fits its 260 bytes, for
the three functions that send, in every context and under every operating system. -/
theorem packet_buffer_not_overrun_iff (os : Os σ) (fuel : ℕ) (w : World σ) (m req : Ttamsg)
    (data : Bytes) :
    ((ttaSend os fuel m).run w ≠ .error (.store .pkt) ↔
      w.ctx.type.headerLength + m.hd.datalen.toNat + w.ctx.type.checksumLength ≤ 260) ∧
    ((ttaRequest os fuel m).run w ≠ .error (.store .pkt) ↔
      w.ctx.type.headerLength + m.hd.datalen.toNat + w.ctx.type.checksumLength ≤ 260) ∧
    ((ttaReply os fuel req data).run w ≠ .error (.store .pkt) ↔
      w.ctx.type.headerLength + data.length % 256 + w.ctx.type.checksumLength ≤ 260) := by
  refine ⟨run_ttaSend_ne_iff os fuel w m, run_ttaRequest_ne_iff os fuel w m, ?_⟩
  refine (run_ttaSend_ne_iff os fuel w (replyMsg req data)).trans ?_
  rw [Ttamsg.frameLength, BackendType.frameLength]
  change _ + (UInt8.ofNat data.length).toNat + _ ≤ 260 ↔ _
  rw [UInt8.toNat_ofNat']

/-- An RS485 message with a payload of 254 bytes has a frame of 261 bytes, and `tta_send` writes it
into the 260 bytes of its buffer. -/
theorem packet_buffer_overrun_rs485 :
    (ttaSend (σ := Unit) {} 0
        (ttamsgMake 1 0 0x10 (List.replicate 254 0) 254
          (by rw [List.length_replicate]; decide))).run
      ⟨ttaNewRs485 "/dev/ttyS0", .other 0, List.Vector.replicate 128 0, 0, ()⟩ =
    .error (.store .pkt) := by
  by_contra h
  exact absurd ((run_ttaSend_ne_iff _ _ _ _).mp h) (by decide)

end Libtta
