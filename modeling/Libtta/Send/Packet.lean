import Libtta.Model.Core
import Libtta.Packet.Frame

/-!
# Sending over a device that takes what is written

The functions that send, for the RS485 and the TCP backend, on an operating system that takes every
write in full (`Takes`): they hand it exactly the frame of the message, and return its length.
-/

namespace Libtta

variable {σ : Type}

/-- The operating system takes every write in full, as `deliver` says, and all that the serial line
needs around a write succeeds without a trace. -/
structure Takes (os : Os σ) (deliver : Bytes → σ → σ) : Prop where
  garbage : ∀ d, (os.garbage d).2 = d
  write : ∀ fd bs d, os.write fd bs d = (.ok bs.length, deliver bs d)
  rtsSet : ∀ fd d, os.rtsSet fd d = (.ok (), d)
  rtsClear : ∀ fd d, os.rtsClear fd d = (.ok (), d)
  txEmpty : ∀ fd d, os.txEmpty fd d = ((true, .ok ()), d)
  modemGet : ∀ fd d, ∃ flags, os.modemGet fd d = ((flags, .ok ()), d)
  modemSet : ∀ fd flags d, os.modemSet fd flags d = (.ok (), d)
  usleep : ∀ n d, os.usleep n d = (.ok (), d)

variable {os : Os σ} {deliver : Bytes → σ → σ}

/-- Switching the RTS line leaves no trace. -/
theorem run_ttaRs485IoctlRts (hos : Takes os deliver) (fd : Int) (on : Bool) (w : World σ) :
    (ttaRs485IoctlRts os fd on).run w = .ok ((), w) := by
  obtain ⟨flags, hget⟩ := hos.modemGet fd w.dev
  have hanswer : (sysAnswer (os.modemGet fd)).run w = .ok (flags, w) := by
    unfold sysAnswer
    rw [Exec.run_bind_of_ok (run_ask _ w), hget]
    rfl
  have hset := run_sys_of_ok
    (hos.modemSet fd (if on then flags ||| tiocmRts else flags &&& ~~~tiocmRts) w.dev)
  unfold ttaRs485IoctlRts
  rw [Exec.run_bind_of_ok hanswer, Exec.run_bind_of_ok hset]
  rfl

/-- A packet written to the serial port is taken in full. -/
theorem run_writeUart (hos : Takes os deliver) (fd : Int) (pkt : Bytes) (w : World σ) :
    (writeUart os fd pkt).run w =
      .ok (some pkt.length, { w with dev := deliver pkt w.dev }) := by
  have hset := run_sys_of_ok (hos.rtsSet fd w.dev)
  have hwrite := run_sys_of_ok (hos.write fd pkt w.dev)
  have hempty : (waitTxEmpty os fd 1001).run { w with dev := deliver pkt w.dev } =
      .ok (true, { w with dev := deliver pkt w.dev }) := by
    have hanswer : (sysAnswer (os.txEmpty fd)).run { w with dev := deliver pkt w.dev } =
        .ok (true, { w with dev := deliver pkt w.dev }) := by
      unfold sysAnswer
      rw [Exec.run_bind_of_ok (run_ask _ _), hos.txEmpty]
      rfl
    unfold waitTxEmpty
    rw [Exec.run_bind_of_ok hanswer]
    rfl
  have hclear := run_sys_of_ok (w := { w with dev := deliver pkt w.dev })
    (hos.rtsClear fd (deliver pkt w.dev))
  unfold writeUart
  rw [Exec.run_bind_of_ok hset]
  apply (Exec.run_bind_of_ok hwrite).trans
  apply (Exec.run_bind_of_ok hempty).trans
  apply (Exec.run_bind_of_ok hclear).trans
  rw [Nat.min_self]
  rfl

/-- The send functions of the RS485 and the TCP backend hand over the packet. -/
theorem run_backendSend (hos : Takes os deliver) (fuel : ℕ) (pkt : Bytes) (w : World σ)
    (hrf : w.ctx.type ≠ .rf) :
    (backendSend os fuel pkt).run w =
      .ok (some pkt.length, { w with dev := deliver pkt w.dev }) := by
  have hwrite := run_sys_of_ok (hos.write w.ctx.s pkt w.dev)
  have hsleep (d : σ) : (sys (os.usleep 10000)).run { w with dev := d } =
      .ok (some (), { w with dev := d }) := run_sys_of_ok (hos.usleep 10000 d)
  have hdriven (rts : Rts) : (do
      ttaRs485IoctlRts os w.ctx.s (rts = .up)
      let _ ← sys (os.usleep 10000)
      let size ← sys (os.write w.ctx.s pkt)
      let _ ← sys (os.usleep 10000)
      ttaRs485IoctlRts os w.ctx.s (rts ≠ .up)
      return size.map (min · pkt.length) : Machine σ (Option ℕ)).run w =
      .ok (some pkt.length, { w with dev := deliver pkt w.dev }) := by
    rw [Exec.run_bind_of_ok (run_ttaRs485IoctlRts hos _ _ w)]
    apply (Exec.run_bind_of_ok (hsleep w.dev)).trans
    apply (Exec.run_bind_of_ok hwrite).trans
    apply (Exec.run_bind_of_ok (hsleep _)).trans
    rw [Exec.run_bind_of_ok (run_ttaRs485IoctlRts hos _ _ _), Option.map_some, Nat.min_self]
    rfl
  unfold backendSend
  rw [Exec.run_bind_of_ok (run_getCtx w)]
  cases hbe : w.ctx.backend with
  | rf d => exact absurd (congrArg Backend.type hbe) hrf
  | tcp d =>
    apply (Exec.run_bind_of_ok hwrite).trans
    rw [Option.map_some, Nat.min_self]
    rfl
  | rs485 d =>
    change (ttaRs485Send os d w.ctx.s pkt).run w = _
    rw [ttaRs485Send]
    cases d.rts with
    | none => exact run_writeUart hos _ pkt w
    | up => exact hdriven .up
    | down => exact hdriven .down

/-- The backend has sent `n` bytes: a count between nothing and the whole packet is an error. -/
theorem run_sendPkt_of_some {os : Os σ} {fuel n : ℕ} {pkt : Bytes} {w w' : World σ}
    (h : (backendSend os fuel pkt).run w = .ok (some n, w')) :
    (sendPkt os fuel pkt).run w =
      .ok (if 0 < n ∧ n ≠ pkt.length then (none, { w' with errno := .EMBBADDATA })
        else (some n, w')) := by
  have hloop : (sendLoop os fuel pkt (fuel + 1)).run w = .ok (some n, w') := by
    unfold sendLoop
    rw [Exec.run_bind_of_ok h]
    rfl
  unfold sendPkt
  rw [Exec.run_bind_of_ok hloop]
  change StateT.run (if 0 < n ∧ n ≠ pkt.length then _ else _) _ = _
  split_ifs
  · rfl
  · rfl

/-- Without link recovery a packet that the backend fails to send is not sent again. -/
theorem run_sendPkt_of_none {os : Os σ} {fuel : ℕ} {pkt : Bytes} {w w' : World σ}
    (h : (backendSend os fuel pkt).run w = .ok (none, w')) (hlink : w'.ctx.recoversLink = false) :
    (sendPkt os fuel pkt).run w = .ok (none, w') := by
  have hloop : (sendLoop os fuel pkt (fuel + 1)).run w = .ok (none, w') := by
    unfold sendLoop
    rw [Exec.run_bind_of_ok h]
    apply (Exec.run_bind_of_ok (run_getCtx w')).trans
    rw [hlink]
    rfl
  unfold sendPkt
  rw [Exec.run_bind_of_ok hloop]
  rfl

/-- A packet that the backend sends in full is sent. -/
theorem run_sendPkt_of_full {os : Os σ} {fuel : ℕ} {pkt : Bytes} {w w' : World σ}
    (h : (backendSend os fuel pkt).run w = .ok (some pkt.length, w')) :
    (sendPkt os fuel pkt).run w = .ok (some pkt.length, w') := by
  rw [run_sendPkt_of_some h, if_neg fun h => h.2 rfl]

/-- A packet is sent with one write. -/
theorem run_sendPkt (hos : Takes os deliver) (fuel : ℕ) (pkt : Bytes) (w : World σ)
    (hrf : w.ctx.type ≠ .rf) :
    (sendPkt os fuel pkt).run w = .ok (some pkt.length, { w with dev := deliver pkt w.dev }) :=
  run_sendPkt_of_full (run_backendSend hos fuel pkt w hrf)

/-- A packet is built in a fresh buffer. -/
theorem run_buildPkt (hgarbage : ∀ d, (os.garbage d).2 = d) {m : Ttamsg} (w : World σ)
    (hroom : m.frameLength w.ctx.type ≤ maxMessageLength) :
    ∃ buf pkt, (uninit os maxMessageLength).run w = .ok (buf, w) ∧
      (convTtamsg2pkt m buf).run w =
        .ok ((pkt, m.frameLength w.ctx.type), { w with ctx := w.ctx.stepped }) ∧
      w.ctx.backend.frame m <+: pkt ∧
      pkt.take (m.frameLength w.ctx.type) = w.ctx.backend.frame m := by
  obtain ⟨buf, hlen, hbuf⟩ := run_uninit os maxMessageLength w
  rw [hgarbage] at hbuf
  obtain ⟨pkt, hconv, hpre, -⟩ := run_convTtamsg2pkt m w (hlen.symm ▸ hroom)
  exact ⟨buf, pkt, hbuf, hconv, hpre, Backend.take_of_frame_prefix hpre⟩

/-- The frame of a message is sent with one write. -/
theorem run_sendPkt_frame (hos : Takes os deliver) (fuel : ℕ) (m : Ttamsg) (w : World σ)
    (hrf : w.ctx.type ≠ .rf) :
    (sendPkt os fuel (w.ctx.backend.frame m)).run { w with ctx := w.ctx.stepped } =
      .ok (some (m.frameLength w.ctx.type),
        { w with ctx := w.ctx.stepped, dev := deliver (w.ctx.backend.frame m) w.dev }) := by
  have hsend := run_sendPkt hos fuel (w.ctx.backend.frame m)
    { w with ctx := w.ctx.stepped } (w.ctx.type_stepped ▸ hrf)
  rw [w.ctx.backend.length_frame] at hsend
  exact hsend

/-- A message is sent as its frame. -/
theorem run_ttaSend (hos : Takes os deliver) (fuel : ℕ) {m : Ttamsg} (w : World σ)
    (hrf : w.ctx.type ≠ .rf) (hroom : m.frameLength w.ctx.type ≤ maxMessageLength) :
    (ttaSend os fuel m).run w = .ok (some (m.frameLength w.ctx.type),
      { w with ctx := w.ctx.stepped, dev := deliver (w.ctx.backend.frame m) w.dev }) := by
  obtain ⟨buf, pkt, hbuf, hconv, -, htake⟩ := run_buildPkt hos.garbage w hroom
  unfold ttaSend
  rw [Exec.run_bind_of_ok hbuf, Exec.run_bind_of_ok hconv]
  dsimp only
  rw [htake]
  exact run_sendPkt_frame hos fuel m w hrf

/-- The first half of a request hands over the frame of the request, and keeps it in its buffer. -/
theorem run_ttaRequestSend (hos : Takes os deliver) (fuel : ℕ) (req : Ttamsg) (w : World σ)
    (hrf : w.ctx.type ≠ .rf) (hroom : req.frameLength w.ctx.type ≤ maxMessageLength) :
    ∃ reqbuf, (ttaRequestSend os fuel req).run w =
        .ok ((reqbuf, some (req.frameLength w.ctx.type)),
          { w with ctx := w.ctx.stepped, dev := deliver (w.ctx.backend.frame req) w.dev }) ∧
      w.ctx.backend.frame req <+: reqbuf := by
  obtain ⟨buf, pkt, hbuf, hconv, hpre, htake⟩ := run_buildPkt hos.garbage w hroom
  refine ⟨pkt, ?_, hpre⟩
  unfold ttaRequestSend
  rw [Exec.run_bind_of_ok hbuf, Exec.run_bind_of_ok hconv]
  dsimp only
  rw [htake]
  exact (Exec.run_bind_of_ok (run_sendPkt_frame hos fuel req w hrf)).trans rfl

end Libtta
