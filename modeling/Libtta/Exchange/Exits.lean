import Libtta.Exchange.Response
import Libtta.Receive.OneShot
import Libtta.Receive.Received
import Libtta.Send.Attempts

/-!
# How the public functions return

The exits of `tta_receive` and of the second half of `tta_request`, for arbitrary outcomes of all
calls. What they deliver is the message in the packet that has been received in the same call
(`received_in_call`): no packet is empty, so the flag that makes a backend drop a packet is never
set, and the decoder runs on received packets only.
-/

namespace Libtta

variable {σ : Type} {os : Os σ} {fuel : ℕ}

/-! ## Receiving a message -/

/-- The packet that has been received holds the message. -/
structure InCall (b : BackendType) (evs : List Event) (w' : Traced σ) (m : Ttamsg) : Prop where
  isFrame : b.framing.IsFrame (received b evs w')
  intact : b.intact (received b evs w') = true
  decode : b.decode (received b evs w') = some m

/-- The length of the packet that holds a message. -/
theorem InCall.length_eq {b : BackendType} {evs : List Event} {w' : Traced σ} {m : Ttamsg}
    (h : InCall b evs w' m) : (received b evs w').length = m.frameLength b :=
  length_of_decode h.isFrame h.decode

/-- A packet that is received is decoded without a further call. -/
theorem RecvExit.decode {b : BackendType} {protocol : Bool} {evs : List Event} {w₁ w' : Traced σ}
    {n : ℕ} {pkt : Bytes} {m : Ttamsg} (hexit : RecvExit b protocol evs w₁ (some n, pkt))
    (htype : w₁.ctx.type = b) (h : (convPkt2ttamsg pkt).run w₁ = .ok (m, w')) :
    w' = w₁ ∧ InCall b evs w₁ m := by
  obtain ⟨hf, hintact, -, hpre⟩ := hexit.of_some
  subst htype
  obtain ⟨m', hm', hconv⟩ := run_convPkt2ttamsg_of_isFrame hf hpre
  rw [h] at hconv
  cases hconv
  exact ⟨rfl, hf, hintact, hm'⟩

/-- What `tta_receive` and `tta_request` do first: a packet is received into a local buffer. -/
theorem recvExit_of_buffer {α : Type} {fgtm : Bool} {w w' : Traced σ} {a : α}
    {f : Option ℕ × Bytes → Machine (σ × List Event) α}
    (hflag : w.ctx.backend.confirmationToIgnore = false) (h : (do
      let buf ← uninit os.traced maxMessageLength
      let r ← backendReceive os.traced fuel buf fgtm
      f r).run w = .ok (a, w')) :
    ∃ r w₁ evs, (f r).run w₁ = .ok (a, w') ∧ w₁.log = evs ++ w.log ∧
      w.ctx.Relinked w₁.ctx ∧
      RecvExit w.ctx.type w.ctx.recoversProtocol evs w₁ r := by
  obtain ⟨buf, w₁, h₁, h⟩ := Exec.run_bind_eq_ok.mp h
  obtain ⟨hadds₁, hlen⟩ := adds_uninit h₁
  obtain ⟨r, w₂, h₂, h⟩ := Exec.run_bind_eq_ok.mp h
  obtain ⟨evs, hlog, hctx, hexit⟩ := recvExit_of_backendReceive
    (by rw [hlen]; exact BackendType.maxAduLength_le _) (by rw [hadds₁.ctx]; exact hflag) h₂
  rw [hadds₁.ctx] at hctx hexit
  rw [hadds₁.log, List.nil_append] at hlog
  exact ⟨r, w₂, evs, h, hlog, hctx, hexit⟩

/-- How `tta_receive` returns. -/
theorem recvExit_of_ttaReceive {fgtm : Bool} {w w' : Traced σ} {r : Option (ℕ × Ttamsg)}
    (hflag : w.ctx.backend.confirmationToIgnore = false)
    (h : (ttaReceive os.traced fuel fgtm).run w = .ok (r, w')) :
    ∃ evs pkt, w'.log = evs ++ w.log ∧
      RecvExit w.ctx.type w.ctx.recoversProtocol evs w' (r.map Prod.fst, pkt) ∧
      ∀ n m, r = some (n, m) → InCall w.ctx.type evs w' m := by
  obtain ⟨⟨rc, pkt⟩, w₂, evs, h, hlog, hctx, hexit⟩ := recvExit_of_buffer hflag h
  cases rc with
  | none =>
    cases h
    exact ⟨evs, pkt, hlog, hexit, by simp⟩
  | some n =>
    obtain ⟨m, w₃, h₃, hret⟩ := Exec.run_bind_eq_ok.mp h
    have htype : w₂.ctx.type = w.ctx.type := hctx.type
    obtain ⟨rfl, hcall⟩ := hexit.decode htype h₃
    cases hret
    refine ⟨evs, pkt, hlog, hexit, ?_⟩
    rintro _ _ ⟨⟩
    exact hcall

/-! ## Receiving a response -/

/-- How the second half of `tta_request` returns that has made the calls `evs`: nothing has been
received, or a packet that does not match the request, which may have been flushed, or the
response. -/
inductive ReplyExit (b : BackendType) (protocol : Bool) (evs : List Event) (w' : Traced σ) :
    Option Ttamsg → Prop where
  | failed {pkt : Bytes} : RecvExit b protocol evs w' (none, pkt) → ReplyExit b protocol evs w' none
  | mismatch {flush read : List Event} :
      b.framing.IsFrame (received b evs w') → b.intact (received b evs w') = true →
      evs = flush ++ read → w'.errno = (lastFailure flush).getD b.mismatch →
      (if protocol then ∃ evs₁ failure, flush = evs₁ ++ [.other failure] ∧ IsFlush b evs₁
        else flush = []) → ReplyExit b protocol evs w' none
  | delivered {m : Ttamsg} : InCall b evs w' m → ReplyExit b protocol evs w' (some m)

/-- The confirmation check accepts the packet, or it rejects it and, with protocol recovery, flushes
the input. -/
theorem exit_of_checkConfirmation {req rsp : Bytes} {w w' : Traced σ} {b : Bool}
    (hreq : 4 ≤ req.length) (hrsp : 4 ≤ rsp.length)
    (h : (checkConfirmation os.traced fuel req rsp).run w = .ok (b, w')) :
    (b = true ∧ w' = w) ∨ b = false ∧ ∃ evs,
      Adds evs { w with errno := w.ctx.type.mismatch } w' ∧
        if w.ctx.recoversProtocol then
          ∃ evs₁ failure, evs = evs₁ ++ [.other failure] ∧ IsFlush w.ctx.type evs₁
        else evs = [] := by
  have hcheck := run_preCheckConfirmation hreq hrsp w
  by_cases hm : w.ctx.backend.matches req rsp = true
  · rw [run_checkConfirmation_of_matches os.traced fuel hreq hrsp hm] at h
    cases h
    exact .inl ⟨rfl, rfl⟩
  · right
    rw [if_neg hm] at hcheck
    unfold checkConfirmation at h
    rw [Exec.run_bind_of_ok hcheck] at h
    replace h := (Exec.run_bind_of_ok (run_getCtx _)).symm.trans h
    dsimp only at h
    cases hprotocol : w.ctx.recoversProtocol with
    | false =>
      rw [hprotocol] at h
      cases h
      exact ⟨rfl, [], .refl _, rfl⟩
    | true =>
      rw [hprotocol] at h
      obtain ⟨u, w₁, h₁, h⟩ := Exec.run_bind_eq_ok.mp h
      obtain ⟨evs, failure, hadds, hflush⟩ := adds_sleepAndFlush h₁
      cases h
      exact ⟨rfl, _, hadds, evs, failure, rfl, hflush⟩

/-- Calls that neither read from the line nor read the receive FIFO do not change what has been
received. -/
theorem received_append {b : BackendType} {evs read : List Event} {K : List Kind} {w w' : Traced σ}
    (hkinds : ∀ e ∈ evs, e.kind ∈ K) (hread : .read ∉ K) (hfifo : .fifoRead ∉ K)
    (hrxfifo : w'.rxfifo = w.rxfifo) (hpos : w'.rxfifoPos = w.rxfifoPos) :
    received b (evs ++ read) w' = received b read w := by
  have hin : inputOf (evs ++ read) = inputOf read := by
    rw [inputOf_append, inputOf_of_kinds hkinds hread, List.append_nil]
  have hbytes : bytesRead b (evs ++ read) w' = bytesRead b read w := by
    cases b with
    | rf =>
      change w'.rxfifo.1.take w'.rxfifoPos = w.rxfifo.1.take w.rxfifoPos
      rw [hrxfifo, hpos]
    | tcp => exact hin
    | rs485 => exact hin
  rw [received, received, radioAccepted_append, radioAccepted_of_kinds hkinds hfifo, hbytes]
  rfl

/-- How the second half of `tta_request` returns, for arbitrary outcomes of all calls. -/
theorem replyExit_of_ttaRequestReceive {reqbuf : Bytes} {w w' : Traced σ} {r : Option Ttamsg}
    (hflag : w.ctx.backend.confirmationToIgnore = false) (hreq : 4 ≤ reqbuf.length)
    (h : (ttaRequestReceive os.traced fuel reqbuf).run w = .ok (r, w')) :
    ∃ evs, w'.log = evs ++ w.log ∧ ReplyExit w.ctx.type w.ctx.recoversProtocol evs w' r := by
  obtain ⟨⟨rc, pkt⟩, w₂, evs, h, hlog, hctx, hexit⟩ := recvExit_of_buffer hflag h
  cases rc with
  | none =>
    cases h
    exact ⟨evs, hlog, .failed hexit⟩
  | some n =>
    obtain ⟨hf, hintact, -, hpre⟩ := hexit.of_some
    have hrsp : 4 ≤ pkt.length := (four_le_length_of_isFrame hf).trans hpre.length_le
    obtain ⟨b, w₃, h₃, hret⟩ := Exec.run_bind_eq_ok.mp h
    have htype : w₂.ctx.type = w.ctx.type := hctx.type
    rcases exit_of_checkConfirmation hreq hrsp h₃ with ⟨rfl, rfl⟩ | ⟨rfl, flush, hadds, hflush⟩
    · obtain ⟨m, w₄, h₄, hdone⟩ := Exec.run_bind_eq_ok.mp hret
      obtain ⟨rfl, hcall⟩ := hexit.decode htype h₄
      cases hdone
      exact ⟨evs, hlog, .delivered hcall⟩
    · cases hret
      have hprotocol : w₂.ctx.recoversProtocol = w.ctx.recoversProtocol := hctx.recoversProtocol
      rw [htype, hprotocol] at hflush
      have hkinds : ∀ e ∈ flush, e.kind ∈ [Kind.discard, .strobe, .other] := by
        cases hrec : w.ctx.recoversProtocol with
        | false =>
          rw [hrec] at hflush
          rw [show flush = [] from hflush]
          exact List.forall_mem_nil _
        | true =>
          rw [hrec] at hflush
          obtain ⟨evs₁, failure, rfl, hevs₁⟩ := hflush
          intro e he
          rcases List.mem_append.mp he with hmem | hmem
          · exact (by decide : [Kind.discard, .strobe] ⊆ [.discard, .strobe, .other])
              (kinds_of_isFlush hevs₁ e hmem)
          · rw [List.mem_singleton.mp hmem]
            simp [Event.kind]
      have hsame : received w.ctx.type (flush ++ evs) w' = received w.ctx.type evs w₂ :=
        received_append hkinds (by decide) (by decide) hadds.rxfifo hadds.rxfifoPos
      refine ⟨flush ++ evs, ?_, .mismatch (hsame ▸ hf) (hsame ▸ hintact) rfl ?_ hflush⟩
      · rw [hadds.log, List.append_assoc, ← hlog]
        rfl
      · rw [hadds.errno, htype]

/-! ## A request -/

/-- What has been received does not depend on the calls that sent the request. -/
theorem received_append_send {b : BackendType} {evs evs₁ : List Event} {w : Traced σ}
    (hkinds : ∀ e ∈ evs₁, e.kind ∈ sendKinds) : received b (evs ++ evs₁) w = received b evs w := by
  have hin : inputOf (evs ++ evs₁) = inputOf evs := by
    rw [inputOf_append, inputOf_of_kinds hkinds (by decide), List.nil_append]
  have hbytes : bytesRead b (evs ++ evs₁) w = bytesRead b evs w := by
    cases b with
    | rf => rfl
    | tcp => exact hin
    | rs485 => exact hin
  rw [received, received, radioAccepted_append, radioAccepted_of_kinds hkinds (by decide), hbytes,
    Bool.or_false]

/-- How `tta_request` returns: the request has been sent from `w₁`, and if this has not failed, the
second half follows. -/
theorem exit_of_ttaRequest {req : Ttamsg} {w w' : Traced σ} {r : Option Ttamsg}
    (hflag : w.ctx.backend.confirmationToIgnore = false)
    (h : (ttaRequest os.traced fuel req).run w = .ok (r, w')) :
    ∃ w₁ w₂ rc, w₁ = { w with ctx := w.ctx.stepped, dev := w₁.dev } ∧ w₁.log = w.log ∧
      (sendPkt os.traced fuel (w.ctx.backend.frame req)).run w₁ = .ok (rc, w₂) ∧
      (rc = none → r = none ∧ w' = w₂) ∧
      (rc ≠ none → ∃ evs, w'.log = evs ++ w₂.log ∧
        ReplyExit w.ctx.type w.ctx.recoversProtocol evs w' r) := by
  obtain ⟨⟨reqbuf, rc⟩, w₂, hsend, h⟩ := Exec.run_bind_eq_ok.mp h
  obtain ⟨buf, w₀, h₀, hsend⟩ := Exec.run_bind_eq_ok.mp hsend
  obtain ⟨⟨pkt, len⟩, w₁, h₁, hsend⟩ := Exec.run_bind_eq_ok.mp hsend
  obtain ⟨hw₁, hlog₁, htake, hpre⟩ := run_buildPkt_traced h₀ h₁
  obtain ⟨rc', w₂', h₂, hdone⟩ := Exec.run_bind_eq_ok.mp hsend
  cases hdone
  rw [htake] at h₂
  refine ⟨w₁, w₂, rc, hw₁, hlog₁, h₂, ?_, ?_⟩
  · rintro rfl
    cases h
    exact ⟨rfl, rfl⟩
  · intro hrc
    obtain ⟨n, rfl⟩ := Option.ne_none_iff_exists'.mp hrc
    have hctx₂ := (extends_sendPkt os fuel _ _ _ _ h₂).ctx
    rw [hw₁] at hctx₂
    have htype : w₂.ctx.type = w.ctx.type := hctx₂.type.trans w.ctx.backend.type_stepped
    have hprotocol : w₂.ctx.recoversProtocol = w.ctx.recoversProtocol := hctx₂.recoversProtocol
    have hflag₂ : w₂.ctx.backend.confirmationToIgnore = false := by
      rw [hctx₂.backend]
      exact (w.ctx.backend.confirmationToIgnore_stepped).trans hflag
    obtain ⟨evs, hlog, hexit⟩ := replyExit_of_ttaRequestReceive hflag₂
      (w.ctx.backend.four_le_length_frame.trans hpre.length_le) h
    rw [htype, hprotocol] at hexit
    exact ⟨evs, hlog, hexit⟩

end Libtta
