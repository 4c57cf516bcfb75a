import Libtta.Exchange.Bursts
import Libtta.Radio.Calibration
import Libtta.Receive.Requests

/-!
# Calls that return

Without error recovery, the calls of an RS485 or a TCP context return, whatever the calls to the
operating system give: a packet is sent once, and every round of the receiver reads a byte at least,
or ends it. So `tta_receive` and `tta_request` return (`ttaReceive_returns`, `ttaRequest_returns`),
as long as the waits do that they make.
-/

namespace Libtta

variable {σ α : Type} (os : Os σ) (fuel : ℕ) {w : World σ}

/-- Some call returns and leaves the context alone. -/
def Stays (x : Machine σ α) (w : World σ) : Prop := ∃ a w', x.run w = .ok (a, w') ∧ w'.ctx = w.ctx

omit os fuel in
/-- A call that acts leaves the context alone. -/
theorem Acts.stays {x : Machine σ α} (h : Acts x) (w : World σ) : Stays x w := by
  obtain ⟨a, d, e, hrun⟩ := h w
  exact ⟨a, _, hrun, rfl⟩

omit fuel in
/-- Waiting. -/
theorem stays_backendSelect (tv : Option Timeval) (w : World σ) :
    Stays (backendSelect os tv) w := by
  have hanswer (r : SelectResult) : Acts (SelectResult.answer r : Machine σ (Option Unit)) := by
    cases r with
    | ready => exact .pure _
    | timeout => exact fun w => ⟨none, w.dev, .ETIMEDOUT, rfl⟩
    | fail e he => exact fun w => ⟨none, w.dev, e, rfl⟩
  by_cases hrf : w.ctx.type = .rf
  · obtain ⟨d, hbe⟩ := Tta.exists_rf hrf
    refine ⟨some (), w, ?_, rfl⟩
    unfold backendSelect
    rw [Exec.run_bind_of_ok (run_getCtx w), hbe]
    rfl
  · rw [Stays, run_backendSelect_of_ne_rf os tv hrf, Exec.run_bind_of_ok (run_ask _ w)]
    exact (hanswer _).stays { w with dev := (os.select w.ctx.s tv w.dev).2 }

/-- A round returns that begins in a state of the loop, and the invariant holds again when the loop
goes on. -/
theorem exists_run_receiveStep {got : Bytes} {size : ℕ} {st : ReadState} (hrf : w.ctx.type ≠ .rf)
    (hnone : w.ctx.recoversLink = false) (hsize : w.ctx.type.maxAduLength ≤ size)
    (h : Reading w.ctx.type got size got [] st) :
    ∃ r w', (receiveStep os fuel st).run w = .ok (r, w') ∧ w'.ctx = w.ctx ∧
      ∀ st', r = .ok st' → ∃ got', Reading w.ctx.type got' size got' [] st' ∧
        got.length < got'.length := by
  have herror (e : Errno) (w₁ : World σ) (hctx : w₁.ctx = w.ctx) :
      (do setErrno e; readRecovery os fuel; return .error st.pkt :
        Machine σ (Except Bytes ReadState)).run
        w₁ = .ok (.error st.pkt, { w₁ with errno := e }) := by
    rw [Exec.run_bind_of_ok (run_setErrno e w₁)]
    exact (Exec.run_bind_of_ok (run_readRecovery os fuel (w := { w₁ with errno := e })
      (hctx ▸ hnone))).trans rfl
  obtain ⟨sel, w₁, hselect, hctx₁⟩ := stays_backendSelect os st.tv w
  unfold receiveStep
  rw [Exec.run_bind_of_ok hselect]
  cases sel with
  | none =>
    refine ⟨_, w₁, (Exec.run_bind_of_ok (run_selectRecovery os fuel (hctx₁ ▸ hnone))).trans rfl,
      hctx₁, ?_⟩
    rintro _ ⟨⟩
  | some u =>
    have hread := run_backendRecv_of_ne_rf os st.lengthToRead (w := w₁) (hctx₁ ▸ hrf)
    obtain ⟨e, hsys⟩ := exists_run_sys (os.read w₁.ctx.s st.lengthToRead) w₁
    rw [Exec.run_bind_of_ok hsys] at hread
    dsimp only
    rw [Exec.run_bind_of_ok (hread.trans rfl)]
    cases hbs : (os.read w₁.ctx.s st.lengthToRead w₁.dev).1.toOption.map
        (List.take st.lengthToRead) with
    | none =>
      refine ⟨_, _, (Exec.run_bind_of_ok (run_readRecovery os fuel (hctx₁ ▸ hnone))).trans rfl,
        hctx₁, ?_⟩
      rintro _ ⟨⟩
    | some bs =>
      cases bs with
      | nil =>
        refine ⟨_, _, herror .ECONNRESET _ hctx₁, hctx₁, ?_⟩
        rintro _ ⟨⟩
      | cons b bs =>
        have hle : (b :: bs).length ≤ st.lengthToRead := by
          obtain ⟨bs', -, htake⟩ := Option.map_eq_some_iff.mp hbs
          rw [← htake]
          exact List.length_take_le _ _
        rcases run_receiveBytes (h.extend (b :: bs)) hsize hle
            (w := { w₁ with dev := (os.read w₁.ctx.s st.lengthToRead w₁.dev).2, errno := e })
            (congrArg Tta.type hctx₁) with ⟨st', hrun, hreading⟩ | ⟨pkt, hrun, -⟩
        · refine ⟨_, _, hrun, hctx₁, ?_⟩
          rintro _ ⟨⟩
          exact ⟨_, hreading, by rw [List.length_append, List.length_cons]; omega⟩
        · refine ⟨_, _, hrun, hctx₁, ?_⟩
          rintro _ ⟨⟩

/-- The loop returns: every round reads a byte at least. The induction is on the rounds that are
left. -/
theorem exists_run_receiveLoop {got : Bytes} {size rounds : ℕ} {st : ReadState}
    (hrf : w.ctx.type ≠ .rf) (hnone : w.ctx.recoversLink = false)
    (hsize : w.ctx.type.maxAduLength ≤ size) (h : Reading w.ctx.type got size got [] st)
    (hrounds : w.ctx.type.maxAduLength ≤ got.length + rounds) :
    ∃ r w', (receiveLoop os fuel rounds st).run w = .ok (r, w') ∧ w'.ctx = w.ctx ∧
      ∀ st', r = .ok st' →
        ∃ f, w.ctx.type.framing.IsFrame f ∧ f <+: st'.pkt ∧ st'.pktlen = f.length := by
  have hcomplete (hzero : st.lengthToRead = 0) :
      ∃ f, w.ctx.type.framing.IsFrame f ∧ f <+: st.pkt ∧ st.pktlen = f.length :=
    ⟨got, (Framing.next_eq_frame_iff.mp (h.next_frame hzero)).1, h.filled, h.count⟩
  induction rounds generalizing got st w with
  | zero =>
    have hadu := h.pktlen_add_le
    have hcount := h.count
    have hzero : st.lengthToRead = 0 := by omega
    refine ⟨.ok st, w, ?_, rfl, ?_⟩
    · rw [receiveLoop, if_pos hzero]
      rfl
    · rintro _ ⟨⟩
      exact hcomplete hzero
  | succ rounds ih =>
    rw [receiveLoop]
    by_cases hzero : st.lengthToRead = 0
    · refine ⟨.ok st, w, by rw [if_pos hzero]; rfl, rfl, ?_⟩
      rintro _ ⟨⟩
      exact hcomplete hzero
    · rw [if_neg hzero]
      obtain ⟨r₁, w₁, hstep, hctx₁, hreading⟩ := exists_run_receiveStep os fuel hrf hnone hsize h
      rw [Exec.run_bind_of_ok hstep]
      cases r₁ with
      | error pkt =>
        refine ⟨_, _, rfl, hctx₁, ?_⟩
        rintro _ ⟨⟩
      | ok st' =>
        obtain ⟨got', h', hlt⟩ := hreading st' rfl
        rw [← hctx₁] at hrf hnone hsize h' hrounds ⊢
        exact ih hrf hnone hsize h' (by omega) fun hzero' =>
          ⟨got', (Framing.next_eq_frame_iff.mp (h'.next_frame hzero')).1, h'.filled, h'.count⟩

/-- The reader returns. -/
theorem exists_run_ttaReceivePkt (pkt : Bytes) (fgtimeout : Bool) (hrf : w.ctx.type ≠ .rf)
    (hnone : w.ctx.errorRecovery = 0) (hsize : w.ctx.type.maxAduLength ≤ pkt.length) :
    ∃ r w', (ttaReceivePkt os fuel pkt fgtimeout).run w = .ok (r, w') ∧ w'.ctx = w.ctx ∧
      r.1 ≠ some 0 ∧ ∀ n, r.1 = some n → ∃ f, w.ctx.type.framing.IsFrame f ∧ f <+: r.2 := by
  set st : ReadState :=
    .start w.ctx.type pkt (if fgtimeout then some w.ctx.responseTimeout else none)
  have hvisits : Visits os st w 0 [] st w := .start
  obtain ⟨r, w₁, hloop, hctx₁, hend⟩ := exists_run_receiveLoop os fuel hrf
    (w.ctx.recoversLink_of_none hnone) hsize (hvisits.reading hsize).1 (Nat.le_add_left _ _)
  unfold ttaReceivePkt
  rw [Exec.run_bind_of_ok (run_getCtx w)]
  cases r with
  | error pkt' => exact ⟨_, _, (Exec.run_bind_of_ok hloop).trans rfl, hctx₁, by simp, nofun⟩
  | ok st' =>
    obtain ⟨f, hf, hpre, hlen⟩ := hend st' rfl
    have hfour := four_le_length_of_isFrame hf
    have hcheck := run_checkIntegrity os fuel (w := w₁) hpre (by omega)
      (.inl (hctx₁ ▸ w.ctx.recoversProtocol_of_none hnone))
    rw [← hlen] at hcheck
    by_cases hintact : w₁.ctx.type.intact f = true
    · rw [if_pos hintact] at hcheck
      refine ⟨(some st'.pktlen, st'.pkt), w₁, ?_, hctx₁, ?_, fun _ _ => ⟨f, hf, hpre⟩⟩
      · exact (Exec.run_bind_of_ok hloop).trans ((Exec.run_bind_of_ok hcheck).trans rfl)
      · rw [hlen, ne_eq, Option.some.injEq]
        omega
    · rw [if_neg hintact] at hcheck
      refine ⟨(none, st'.pkt), { w₁ with errno := .EMBBADCRC }, ?_, hctx₁, by simp, nofun⟩
      exact (Exec.run_bind_of_ok hloop).trans ((Exec.run_bind_of_ok hcheck).trans rfl)

/-- The receive functions of the backends return. -/
theorem exists_run_backendReceive (pkt : Bytes) (fgtimeout : Bool) (hrf : w.ctx.type ≠ .rf)
    (hnone : w.ctx.errorRecovery = 0) (hflag : w.ctx.backend.confirmationToIgnore = false)
    (hsize : w.ctx.type.maxAduLength ≤ pkt.length) :
    ∃ r w', (backendReceive os fuel pkt fgtimeout).run w = .ok (r, w') ∧ w'.ctx = w.ctx ∧
      ∀ n, r.1 = some n → ∃ f, w.ctx.type.framing.IsFrame f ∧ f <+: r.2 := by
  obtain ⟨⟨rc, pkt'⟩, w', hrun, hctx, hzero, hframe⟩ :=
    exists_run_ttaReceivePkt os fuel pkt fgtimeout hrf hnone hsize
  refine ⟨(rc, pkt'), w', ?_, hctx, hframe⟩
  unfold backendReceive
  rw [Exec.run_bind_of_ok (run_getCtx w)]
  cases hbe : w.ctx.backend with
  | tcp d => exact hrun
  | rs485 d => exact run_receiveUnlessIgnored_of_ok hflag hrun hzero
  | rf d => exact absurd (congrArg Backend.type hbe) hrf

/-- `tta_receive` returns. -/
theorem ttaReceive_returns (fgtm : Bool) (hrf : w.ctx.type ≠ .rf) (hnone : w.ctx.errorRecovery = 0)
    (hflag : w.ctx.backend.confirmationToIgnore = false) :
    ∃ r w', (ttaReceive os fuel fgtm).run w = .ok (r, w') := by
  obtain ⟨pkt, hlen, huninit⟩ := run_uninit os maxMessageLength w
  obtain ⟨⟨rc, pkt'⟩, w', hrun, hctx, hframe⟩ := exists_run_backendReceive os fuel pkt fgtm
    (w := { w with dev := (os.garbage w.dev).2 }) hrf hnone hflag
    (by rw [hlen]; exact BackendType.maxAduLength_le _)
  unfold ttaReceive
  rw [Exec.run_bind_of_ok huninit, Exec.run_bind_of_ok hrun]
  cases rc with
  | none => exact ⟨_, _, rfl⟩
  | some n =>
    obtain ⟨f, hf, hpre⟩ := hframe n rfl
    obtain ⟨m, -, hconv⟩ := run_convPkt2ttamsg_of_isFrame (w := w') (hctx ▸ hf) hpre
    exact ⟨_, _, (Exec.run_bind_of_ok hconv).trans rfl⟩

/-- Sending a packet once returns. -/
theorem stays_backendSend (pkt : Bytes) (hrf : w.ctx.type ≠ .rf) :
    Stays (backendSend os fuel pkt) w := by
  rw [Stays, backendSend, Exec.run_bind_of_ok (run_getCtx w)]
  cases hbe : w.ctx.backend with
  | tcp d => exact Acts.stays ((Acts.sys _).bind fun _ => .pure _) w
  | rs485 d => exact (acts_of_uses (uses_ttaRs485Send _ d pkt (by decide))).stays w
  | rf d => exact absurd (congrArg Backend.type hbe) hrf

/-- Without link recovery `_send_pkt` returns. -/
theorem stays_sendPkt (pkt : Bytes) (hrf : w.ctx.type ≠ .rf) (hnone : w.ctx.recoversLink = false) :
    Stays (sendPkt os fuel pkt) w := by
  obtain ⟨r, w₁, hsend, hctx₁⟩ := stays_backendSend os fuel pkt hrf
  have hloop : (sendLoop os fuel pkt (fuel + 1)).run w = .ok (r, w₁) := by
    unfold sendLoop
    rw [Exec.run_bind_of_ok hsend]
    cases r with
    | some n => rfl
    | none =>
      dsimp only
      rw [Exec.run_bind_of_ok (run_getCtx w₁), hctx₁, hnone]
      rfl
  unfold sendPkt
  rw [Stays, Exec.run_bind_of_ok hloop]
  cases r with
  | none => exact ⟨_, _, rfl, hctx₁⟩
  | some n =>
    dsimp only
    split
    · exact ⟨_, _, rfl, hctx₁⟩
    · exact ⟨_, _, rfl, hctx₁⟩

/-- `tta_request` returns, for a request that fits its buffer. -/
theorem ttaRequest_returns {req : Ttamsg} (hrf : w.ctx.type ≠ .rf) (hnone : w.ctx.errorRecovery = 0)
    (hflag : w.ctx.backend.confirmationToIgnore = false)
    (hroom : req.frameLength w.ctx.type ≤ maxMessageLength) :
    ∃ r w', (ttaRequest os fuel req).run w = .ok (r, w') := by
  obtain ⟨buf, hlen, huninit⟩ := run_uninit os maxMessageLength w
  obtain ⟨pkt, hconv, hpre, -⟩ := run_convTtamsg2pkt req
    { w with dev := (os.garbage w.dev).2 } (hlen.symm ▸ hroom)
  obtain ⟨rc, w₁, hsendPkt, hctx₁⟩ := stays_sendPkt os fuel (pkt.take (req.frameLength w.ctx.type))
    (w := { w with ctx := w.ctx.stepped, dev := (os.garbage w.dev).2 })
    (w.ctx.type_stepped.trans_ne hrf) (w.ctx.stepped.recoversLink_of_none hnone)
  have hsend : (ttaRequestSend os fuel req).run w = .ok ((pkt, rc), w₁) := by
    unfold ttaRequestSend
    rw [Exec.run_bind_of_ok huninit, Exec.run_bind_of_ok hconv]
    exact (Exec.run_bind_of_ok hsendPkt).trans rfl
  have hreq : 4 ≤ pkt.length := w.ctx.backend.four_le_length_frame.trans hpre.length_le
  have htype₁ : w₁.ctx.type = w.ctx.type := (congrArg Tta.type hctx₁).trans w.ctx.type_stepped
  unfold ttaRequest
  rw [Exec.run_bind_of_ok hsend]
  cases rc with
  | none => exact ⟨_, _, rfl⟩
  | some n =>
    obtain ⟨rspbuf, hlen', huninit'⟩ := run_uninit os maxMessageLength w₁
    obtain ⟨⟨rc', rsp⟩, w₂, hreceive, hctx₂, hframe⟩ := exists_run_backendReceive os fuel
      rspbuf true (w := { w₁ with dev := (os.garbage w₁.dev).2 }) (htype₁.trans_ne hrf)
      ((congrArg Tta.errorRecovery hctx₁).trans hnone)
      ((congrArg (·.backend.confirmationToIgnore) hctx₁).trans
        (w.ctx.backend.confirmationToIgnore_stepped.trans hflag))
      (by rw [hlen']; exact BackendType.maxAduLength_le _)
    dsimp only
    unfold ttaRequestReceive
    rw [Exec.run_bind_of_ok huninit', Exec.run_bind_of_ok hreceive]
    cases rc' with
    | none => exact ⟨_, _, rfl⟩
    | some n' =>
      obtain ⟨f, hf, hpre'⟩ := hframe n' rfl
      obtain ⟨m, -, hconv'⟩ := run_convPkt2ttamsg_of_isFrame (w := w₂) (hctx₂ ▸ hf) hpre'
      have hcheck := run_preCheckConfirmation (σ := σ) hreq
        ((four_le_length_of_isFrame hf).trans hpre'.length_le) w₂
      have hprotocol : w₂.ctx.recoversProtocol = false := by
        refine w₂.ctx.recoversProtocol_of_none ?_
        exact (congrArg Tta.errorRecovery hctx₂).trans
          ((congrArg Tta.errorRecovery hctx₁).trans hnone)
      dsimp only
      unfold checkConfirmation
      by_cases hmatches : w₂.ctx.backend.matches pkt rsp = true
      · rw [if_pos hmatches] at hcheck
        rw [Exec.run_bind_of_ok ((Exec.run_bind_of_ok hcheck).trans rfl)]
        exact ⟨_, _, (Exec.run_bind_of_ok hconv').trans rfl⟩
      · rw [if_neg hmatches] at hcheck
        have hrecovery : (do
            if (← getCtx).recoversProtocol then sleepAndFlush os fuel
            return false : Machine σ Bool).run { w₂ with errno := w₂.ctx.type.mismatch } =
              .ok (false, { w₂ with errno := w₂.ctx.type.mismatch }) := by
          rw [Exec.run_bind_of_ok (run_getCtx _), hprotocol]
          rfl
        rw [Exec.run_bind_of_ok ((Exec.run_bind_of_ok hcheck).trans hrecovery)]
        exact ⟨_, _, rfl⟩

end Libtta
