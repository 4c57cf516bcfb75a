import Libtta.Receive.Reader

/-!
# Receiving messages

The receive functions of the RS485 and the TCP backend, and `tta_receive`, on a stream of bytes. As
long as no confirmation is to be ignored, they add nothing to the reader but the decoder:
`run_ttaReceive` describes one call of `tta_receive` by the one-shot parser, and `MsgEnd` lists how
it may end.
-/

namespace Libtta

variable {σ ρ : Type} {os : Os σ} {input : σ → Bytes} {other : σ → ρ}
  {fails : Bytes → Errno → Prop}

/-- What an application puts into a message, and finds in one: everything but the transaction id. -/
def Ttamsg.content (m : Ttamsg) : TtamsgHd × Bytes := (m.hd, m.data)

/-- Without a confirmation to ignore, a packet that is read is received; no packet is empty, so the
flag is not set. -/
theorem run_receiveUnlessIgnored_of_ok {os : Os σ} {fuel : ℕ} {pkt pkt' : Bytes} {fgtimeout : Bool}
    {rc : Option ℕ} {w w' : World σ} (hflag : w.ctx.backend.confirmationToIgnore = false)
    (hrun : (ttaReceivePkt os fuel pkt fgtimeout).run w = .ok ((rc, pkt'), w'))
    (hrc : rc ≠ some 0) :
    (receiveUnlessIgnored os fuel pkt fgtimeout).run w = .ok ((rc, pkt'), w') := by
  unfold receiveUnlessIgnored
  rw [Exec.run_bind_of_ok (run_getCtx w), hflag]
  apply (Exec.run_bind_of_ok hrun).trans
  change StateT.run (if rc = some 0 then _ else _) w' = _
  rw [if_neg hrc]
  rfl

/-- Without a confirmation to ignore, a packet is received the way it is read. -/
theorem run_receiveUnlessIgnored (hos : Feeds os input other fails) (fuel : ℕ) (pkt : Bytes)
    (fgtimeout : Bool) {w : World σ} (hsize : w.ctx.type.maxAduLength ≤ pkt.length)
    (hrf : w.ctx.type ≠ .rf) (hflag : w.ctx.backend.confirmationToIgnore = false)
    (hcalm : Calm w.ctx fails (input w.dev)) :
    ∃ r w', (receiveUnlessIgnored os fuel pkt fgtimeout).run w = .ok (r, w') ∧
      PktEnd w.ctx.type (input w.dev) pkt.length input other fails w r w' := by
  obtain ⟨⟨rc, pkt'⟩, w', hrun, hend⟩ := run_ttaReceivePkt hos fuel pkt fgtimeout hsize hrf hcalm
  have hrc : rc ≠ some 0 := by
    cases hend with
    | refused => simp
    | failed => simp
    | read hparse =>
      have hpos := (BackendType.parse_eq_ok_iff.mp hparse).1.length_pos
      simp only [ne_eq, Option.some.injEq]
      omega
  exact ⟨(rc, pkt'), w', run_receiveUnlessIgnored_of_ok hflag hrun hrc, hend⟩

/-- The receive functions of the RS485 and the TCP backend. -/
theorem run_backendReceive (hos : Feeds os input other fails) (fuel : ℕ) (pkt : Bytes)
    (fgtimeout : Bool) {w : World σ} (hsize : w.ctx.type.maxAduLength ≤ pkt.length)
    (hrf : w.ctx.type ≠ .rf) (hflag : w.ctx.backend.confirmationToIgnore = false)
    (hcalm : Calm w.ctx fails (input w.dev)) :
    ∃ r w', (backendReceive os fuel pkt fgtimeout).run w = .ok (r, w') ∧
      PktEnd w.ctx.type (input w.dev) pkt.length input other fails w r w' := by
  unfold backendReceive
  rw [Exec.run_bind_of_ok (run_getCtx w)]
  cases hbe : w.ctx.backend with
  | tcp d => exact run_ttaReceivePkt hos fuel pkt fgtimeout hsize hrf hcalm
  | rs485 d => exact run_receiveUnlessIgnored hos fuel pkt fgtimeout hsize hrf hflag hcalm
  | rf d => exact absurd (congrArg Backend.type hbe) hrf

/-- What one call of `tta_receive` does with the stream `s`: it reports the error of the one-shot
parser, it fails because a wait or a read does, or it delivers the message in the packet that the
one-shot parser finds. -/
inductive MsgEnd (b : BackendType) (s : Bytes) (input : σ → Bytes) (other : σ → ρ)
    (fails : Bytes → Errno → Prop) (w : World σ) : Option (ℕ × Ttamsg) → World σ → Prop where
  | refused {rest : Bytes} {d : σ} {e : Errno} : b.parse s = (.error e, rest) →
      input d = rest → other d = other w.dev →
      MsgEnd b s input other fails w none { w with dev := d, errno := e }
  | failed {t : Bytes} {d : σ} {e : Errno} : fails t e → (t = [] → b.framing.next s = .short) →
      other d = other w.dev →
      MsgEnd b s input other fails w none { w with dev := d, errno := e }
  | delivered {f rest : Bytes} {m : Ttamsg} {d : σ} : b.parse s = (.ok f, rest) →
      b.decode f = some m → input d = rest → other d = other w.dev →
      MsgEnd b s input other fails w (some (f.length, m)) { w with dev := d }

/-- A message is received from a stream the way the one-shot parser and the decoder read it, unless
a wait or a read fails. -/
theorem run_ttaReceive (hos : Feeds os input other fails) (fuel : ℕ) (fgtm : Bool)
    {w : World σ} (hrf : w.ctx.type ≠ .rf)
    (hflag : w.ctx.backend.confirmationToIgnore = false)
    (hcalm : Calm w.ctx fails (input w.dev)) :
    ∃ r w', (ttaReceive os fuel fgtm).run w = .ok (r, w') ∧
      MsgEnd w.ctx.type (input w.dev) input other fails w r w' := by
  obtain ⟨pkt, hsize, huninit⟩ := run_uninit os maxMessageLength w
  obtain ⟨hin₀, hother₀⟩ := hos.garbage w.dev
  obtain ⟨r, w', hrun, hend⟩ := run_backendReceive hos fuel pkt fgtm
    (w := { w with dev := (os.garbage w.dev).2 })
    (by rw [hsize]; exact BackendType.maxAduLength_le _) hrf hflag (by rw [hin₀]; exact hcalm)
  simp only [hin₀] at hend
  unfold ttaReceive
  rw [Exec.run_bind_of_ok huninit]
  cases hend with
  | refused hparse _ hin hother =>
    exact ⟨_, _, (Exec.run_bind_of_ok hrun).trans rfl,
      .refused hparse hin (hother.trans hother₀)⟩
  | failed hfail hend hother =>
    exact ⟨_, _, (Exec.run_bind_of_ok hrun).trans rfl,
      .failed hfail hend (hother.trans hother₀)⟩
  | @read pkt' f rest d hparse hpre _ hin hother =>
    obtain ⟨m, hm, hconv⟩ := run_convPkt2ttamsg_of_isFrame (w := { w with dev := d })
      (BackendType.parse_eq_ok_iff.mp hparse).1 hpre
    exact ⟨some (f.length, m), { w with dev := d },
      (Exec.run_bind_of_ok hrun).trans ((Exec.run_bind_of_ok hconv).trans rfl),
      .delivered hparse hm hin (hother.trans hother₀)⟩

end Libtta
