import Libtta.Exchange.Confirmation

/-!
# Responses on a stream

The second half of `tta_request`, for the RS485 and the TCP backend, on a stream of bytes:
`run_ttaRequestReceive` describes it by the one-shot parser, the comparison of the confirmation
check and the decoder, and `RspEnd` lists how it may end. A response that is there in full is either
delivered or rejected, as `run_ttaRequestReceive_frame` says.
-/

namespace Libtta

variable {σ ρ : Type} {os : Os σ} {input : σ → Bytes} {other : σ → ρ}
  {fails : Bytes → Errno → Prop}

/-- The check of a response compares its header only. -/
theorem Backend.matches_of_prefix (be : Backend) (req : Bytes) {rsp pkt : Bytes}
    (hlen : 4 ≤ rsp.length)
    (hpre : rsp <+: pkt) : be.matches req pkt = be.matches req rsp := by
  obtain ⟨rest, rfl⟩ := hpre
  match rsp, hlen with
  | _ :: _ :: _ :: _ :: _, _ => cases be <;> rfl

/-- What the second half of a request does with the stream `s`: it reports the error of the one-shot
parser, it fails because a wait or a read does, it rejects the packet that the one-shot parser
finds, or it delivers the message in this packet. -/
inductive RspEnd (be : Backend) (req s : Bytes) (input : σ → Bytes) (other : σ → ρ)
    (fails : Bytes → Errno → Prop) (w : World σ) : Option Ttamsg → World σ → Prop where
  | refused {rest : Bytes} {d : σ} {e : Errno} : be.type.parse s = (.error e, rest) →
      input d = rest → other d = other w.dev →
      RspEnd be req s input other fails w none { w with dev := d, errno := e }
  | failed {t : Bytes} {d : σ} {e : Errno} : fails t e →
      (t = [] → be.type.framing.next s = .short) → other d = other w.dev →
      RspEnd be req s input other fails w none { w with dev := d, errno := e }
  | rejected {f rest : Bytes} {d : σ} : be.type.parse s = (.ok f, rest) →
      be.matches req f = false → input d = rest → other d = other w.dev →
      RspEnd be req s input other fails w none { w with dev := d, errno := be.type.mismatch }
  | delivered {f rest : Bytes} {m : Ttamsg} {d : σ} : be.type.parse s = (.ok f, rest) →
      be.matches req f = true → be.type.decode f = some m → input d = rest →
      other d = other w.dev → RspEnd be req s input other fails w (some m) { w with dev := d }

/-- A response is received from a stream the way the one-shot parser reads it, and delivered if it
matches the request, unless a wait or a read fails. -/
theorem run_ttaRequestReceive (hos : Feeds os input other fails) (fuel : ℕ) {reqbuf : Bytes}
    {w : World σ} (hlen : 4 ≤ reqbuf.length) (hrf : w.ctx.type ≠ .rf)
    (hflag : w.ctx.backend.confirmationToIgnore = false)
    (hcalm : Calm w.ctx fails (input w.dev))
    (hmatch : w.ctx.recoversProtocol = false ∨ ∀ f rest,
      w.ctx.type.parse (input w.dev) = (.ok f, rest) → w.ctx.backend.matches reqbuf f = true) :
    ∃ r w', (ttaRequestReceive os fuel reqbuf).run w = .ok (r, w') ∧
      RspEnd w.ctx.backend reqbuf (input w.dev) input other fails w r w' := by
  obtain ⟨buf, hsize, huninit⟩ := run_uninit os maxMessageLength w
  obtain ⟨hin₀, hother₀⟩ := hos.garbage w.dev
  obtain ⟨r, w', hrun, hend⟩ := run_backendReceive hos fuel buf true
    (w := { w with dev := (os.garbage w.dev).2 })
    (by rw [hsize]; exact BackendType.maxAduLength_le _) hrf hflag (by rw [hin₀]; exact hcalm)
  simp only [hin₀] at hend
  unfold ttaRequestReceive
  rw [Exec.run_bind_of_ok huninit]
  cases hend with
  | refused hparse _ hin hother =>
    exact ⟨_, _, (Exec.run_bind_of_ok hrun).trans rfl,
      .refused hparse hin (hother.trans hother₀)⟩
  | failed hfail hend hother =>
    exact ⟨_, _, (Exec.run_bind_of_ok hrun).trans rfl,
      .failed hfail hend (hother.trans hother₀)⟩
  | @read rspbuf f rest d hparse hpre hlength hin hother =>
    have hf : w.ctx.type.framing.IsFrame f := (BackendType.parse_eq_ok_iff.mp hparse).1
    have hrsplen : 4 ≤ rspbuf.length := (four_le_length_of_isFrame hf).trans hpre.length_le
    have hsame := w.ctx.backend.matches_of_prefix reqbuf (four_le_length_of_isFrame hf) hpre
    by_cases hm : w.ctx.backend.matches reqbuf f = true
    · have hcheck := run_checkConfirmation_of_matches os fuel hlen hrsplen
        (w := { w with dev := d }) (hsame.trans hm)
      obtain ⟨m, hdecode, hconv⟩ := run_convPkt2ttamsg_of_isFrame (w := { w with dev := d }) hf hpre
      refine ⟨some m, { w with dev := d }, ?_,
        .delivered hparse hm hdecode hin (hother.trans hother₀)⟩
      refine (Exec.run_bind_of_ok hrun).trans ((Exec.run_bind_of_ok hcheck).trans ?_)
      exact (Exec.run_bind_of_ok hconv).trans rfl
    · have hnone := hmatch.resolve_right fun h => hm (h f rest hparse)
      rw [Bool.not_eq_true] at hm
      have hcheck := run_checkConfirmation_of_not_matches os fuel hlen hrsplen
        (w := { w with dev := d }) (hsame.trans hm) hnone
      refine ⟨none, { w with dev := d, errno := w.ctx.type.mismatch }, ?_,
        .rejected hparse hm hin (hother.trans hother₀)⟩
      exact (Exec.run_bind_of_ok hrun).trans ((Exec.run_bind_of_ok hcheck).trans rfl)

/-- Without error recovery, a request whose response does not start with a frame fails, and not
because of the check. -/
theorem run_ttaRequestReceive_of_next_ne_frame (hos : Feeds os input other fails) (fuel : ℕ)
    {reqbuf : Bytes} {w : World σ} (hlen : 4 ≤ reqbuf.length) (hrf : w.ctx.type ≠ .rf)
    (hflag : w.ctx.backend.confirmationToIgnore = false) (hnone : w.ctx.errorRecovery = 0)
    (hno : ∀ f, w.ctx.type.framing.next (input w.dev) ≠ .frame f) :
    ∃ w', (ttaRequestReceive os fuel reqbuf).run w = .ok (none, w') ∧
      (w'.errno = .ECONNRESET ∨ w'.errno = .EMBBADDATA ∨ ∃ t, fails t w'.errno) := by
  obtain ⟨e, rest, hparse, he⟩ := BackendType.parse_of_next_ne_frame hno
  change w.ctx.backend.type.parse _ = _ at hparse
  obtain ⟨r, w', hrun, hend⟩ := run_ttaRequestReceive hos fuel hlen hrf hflag (.of_none hnone)
    (.inl (w.ctx.recoversProtocol_of_none hnone))
  cases hend with
  | refused hparse' =>
    rw [hparse, Prod.mk.injEq, Except.error.injEq] at hparse'
    obtain ⟨rfl, -⟩ := hparse'
    exact ⟨_, hrun, he.imp_right .inl⟩
  | @failed t _ _ hfail => exact ⟨_, hrun, .inr (.inr ⟨t, hfail⟩)⟩
  | rejected hparse' =>
    rw [hparse] at hparse'
    cases hparse'
  | delivered hparse' =>
    rw [hparse] at hparse'
    cases hparse'

/-- What the second half of a request does when the frame of the message `m` is at the front of the
stream: the message is delivered or rejected, or a wait or a read fails before the whole frame has
been read. -/
inductive FrameRspEnd (req : Bytes) (be : Backend) (m : Ttamsg) (rest : Bytes) (input : σ → Bytes)
    (other : σ → ρ) (fails : Bytes → Errno → Prop) (w : World σ) :
    Option Ttamsg → World σ → Prop where
  | delivered {d : σ} : w.ctx.backend.matches req (be.frame m) = true → input d = rest →
      other d = other w.dev →
      FrameRspEnd req be m rest input other fails w (some { m with tid := be.nextTid })
        { w with dev := d }
  | rejected {d : σ} : w.ctx.backend.matches req (be.frame m) = false → input d = rest →
      other d = other w.dev →
      FrameRspEnd req be m rest input other fails w none
        { w with dev := d, errno := w.ctx.type.mismatch }
  | failed {t : Bytes} {d : σ} {e : Errno} : fails t e → t ≠ [] → other d = other w.dev →
      FrameRspEnd req be m rest input other fails w none { w with dev := d, errno := e }

/-- A response that is there in full is delivered if it matches the request, unless a wait or a read
fails. -/
theorem run_ttaRequestReceive_frame (hos : Feeds os input other fails) (fuel : ℕ) {reqbuf : Bytes}
    {w : World σ} {be : Backend} {m : Ttamsg} {rest : Bytes} (hlen : 4 ≤ reqbuf.length)
    (htype : w.ctx.type = be.type) (hrf : w.ctx.type ≠ .rf)
    (hflag : w.ctx.backend.confirmationToIgnore = false)
    (hfit : m.frameLength be.type ≤ be.type.maxAduLength) (hin : input w.dev = be.frame m ++ rest)
    (hcalm : w.ctx.errorRecovery = 0 ∨
      (∀ t e, fails t e → t = []) ∧ w.ctx.backend.matches reqbuf (be.frame m) = true) :
    ∃ r w', (ttaRequestReceive os fuel reqbuf).run w = .ok (r, w') ∧
      FrameRspEnd reqbuf be m rest input other fails w r w' := by
  have htype' : w.ctx.backend.type = be.type := htype
  have hparsed : be.type.parse (input w.dev) = (.ok (be.frame m), rest) := by
    rw [hin]
    exact parse_frame be hfit rest
  have hcalm₁ : Calm w.ctx fails (input w.dev) := by
    rcases hcalm with hnone | ⟨hlast, -⟩
    · exact .of_none hnone
    · rw [hin]
      exact .of_frame htype hlast hfit rest
  have hmatch : w.ctx.recoversProtocol = false ∨ ∀ f rest,
      w.ctx.type.parse (input w.dev) = (.ok f, rest) → w.ctx.backend.matches reqbuf f = true := by
    rcases hcalm with hnone | ⟨-, hm⟩
    · exact .inl (w.ctx.recoversProtocol_of_none hnone)
    · right
      intro f rest' hparse
      rw [htype, hparsed, Prod.mk.injEq, Except.ok.injEq] at hparse
      rw [← hparse.1]
      exact hm
  obtain ⟨r, w', hrun, hend⟩ := run_ttaRequestReceive hos fuel hlen hrf hflag hcalm₁ hmatch
  refine ⟨r, w', hrun, ?_⟩
  cases hend with
  | refused hparse =>
    rw [htype', hparsed] at hparse
    cases hparse
  | failed hfail hend hother =>
    refine .failed hfail (fun ht => ?_) hother
    have hshort := hend ht
    rw [htype', hin, Framing.next_append (isFrame_frame be m hfit)] at hshort
    cases hshort
  | rejected hparse hm hrest hother =>
    rw [htype', hparsed, Prod.mk.injEq, Except.ok.injEq] at hparse
    obtain ⟨rfl, rfl⟩ := hparse
    exact .rejected hm hrest hother
  | delivered hparse hm hdecode hrest hother =>
    rw [htype', hparsed, Prod.mk.injEq, Except.ok.injEq] at hparse
    obtain ⟨rfl, rfl⟩ := hparse
    rw [htype', decode_frame, Option.some.injEq] at hdecode
    rw [← hdecode]
    exact .delivered hm hrest hother

end Libtta
