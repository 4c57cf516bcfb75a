import Libtta.Receive.Rxfifo
import Libtta.Receive.Traced

/-!
# How a packet is received

The exits of `_tta_receive_pkt`, for arbitrary outcomes of all calls: which bytes have been read
when the function returns, what `errno` is then, and whether the input has been flushed (`PktExit`).
For the RF backend the bytes are those that have been taken from the static receive buffer.
-/

namespace Libtta

variable {σ : Type}

/-! ## Flushing -/

/-- The calls of `tta_flush`. -/
def IsFlush : BackendType → List Event → Prop
  | .rf, evs => ∃ f f', evs = [.strobe Cc1120.SFRX f', .strobe Cc1120.SFTX f]
  | _, evs => evs ≠ [] ∧ ∀ e ∈ evs, e.kind = .discard

/-- A strobe of the radio chip. -/
theorem adds_cc1120Strobe {os : Os σ} {fd : Int} {cmd : UInt8} {w w' : Traced σ} {u : Unit}
    (h : (cc1120Strobe os.traced fd cmd).run w = .ok (u, w')) :
    ∃ failure, Adds [.strobe cmd failure] w w' := by
  obtain ⟨r₁, w₁, h₁, h⟩ := Exec.run_bind_eq_ok.mp h
  obtain ⟨res, -, hadds⟩ := adds_sys (fun _ => by rfl) h₁
  cases h
  exact ⟨_, hadds⟩

/-- The loop of `_tta_tcp_flush` reads at least once. -/
theorem adds_ttaTcpFlushLoop {os : Os σ} {fd sum n : Int} {fuel : ℕ} {w w' : Traced σ}
    (h : (ttaTcpFlushLoop os.traced fd fuel sum).run w = .ok (n, w')) :
    ∃ evs, Adds evs w w' ∧ IsFlush .tcp evs := by
  cases fuel with
  | zero => cases h
  | succ fuel =>
    obtain ⟨r₁, w₁, h₁, h⟩ := Exec.run_bind_eq_ok.mp h
    obtain ⟨res, -, hadds₁⟩ := adds_sys (fun _ => by rfl) h₁
    have hmore {evs : List Event} {w₂ : Traced σ} (hadds : Adds evs w₁ w₂)
        (hevs : ∀ e ∈ evs, e.kind = .discard) : ∃ evs, Adds evs w w₂ ∧ IsFlush .tcp evs := by
      refine ⟨_, hadds₁.trans hadds, by simp, ?_⟩
      intro e he
      rcases List.mem_append.mp he with hmem | hmem
      · exact hevs e hmem
      · rw [List.mem_singleton.mp hmem]
        rfl
    cases r₁ with
    | none =>
      cases h
      exact hmore (.refl _) (by simp)
    | some bs =>
      obtain ⟨sum', w₂, hsum, h₂⟩ := Exec.run_bind_eq_ok.mp h
      cases (Exec.run_access_eq_ok.mp hsum).2
      split at h₂
      · obtain ⟨evs, hadds, hevs⟩ := quiet_ttaTcpFlushLoop os fuel fd _ _ _ _ h₂
        exact hmore hadds fun e he => List.mem_singleton.mp (hevs e he)
      · cases h₂
        exact hmore (.refl _) (by simp)

/-- `tta_flush`, as the calls that it makes. -/
theorem adds_ttaFlush {os : Os σ} {fuel : ℕ} {w w' : Traced σ} {r : Option Int}
    (h : (ttaFlush os.traced fuel).run w = .ok (r, w')) :
    ∃ evs, Adds evs w w' ∧ IsFlush w.ctx.type evs := by
  unfold ttaFlush at h
  rw [Exec.run_bind_of_ok (run_getCtx w)] at h
  rw [Tta.type]
  cases hbe : w.ctx.backend with
  | tcp d =>
    rw [hbe] at h
    obtain ⟨n, w₁, h₁, h⟩ := Exec.run_bind_eq_ok.mp h
    cases h
    exact adds_ttaTcpFlushLoop h₁
  | rs485 d =>
    rw [hbe] at h
    obtain ⟨r₁, w₁, h₁, h⟩ := Exec.run_bind_eq_ok.mp h
    obtain ⟨res, -, hadds⟩ := adds_sys (fun _ => by rfl) h₁
    cases h
    exact ⟨_, hadds, by simp, by simp [Event.kind]⟩
  | rf d =>
    rw [hbe] at h
    obtain ⟨u₁, w₁, h₁, h⟩ := Exec.run_bind_eq_ok.mp h
    obtain ⟨f, hadds₁⟩ := adds_cc1120Strobe h₁
    obtain ⟨u₂, w₂, h₂, h⟩ := Exec.run_bind_eq_ok.mp h
    obtain ⟨f', hadds₂⟩ := adds_cc1120Strobe h₂
    cases h
    exact ⟨_, hadds₁.trans hadds₂, f, f', rfl⟩

/-- The calls of `_sleep_and_flush`. -/
theorem adds_sleepAndFlush {os : Os σ} {fuel : ℕ} {w w' : Traced σ} {u : Unit}
    (h : (sleepAndFlush os.traced fuel).run w = .ok (u, w')) :
    ∃ evs failure, Adds (evs ++ [.other failure]) w w' ∧ IsFlush w.ctx.type evs := by
  replace h := (Exec.run_bind_of_ok (run_getCtx w)).symm.trans h
  obtain ⟨r₁, w₁, h₁, h⟩ := Exec.run_bind_eq_ok.mp h
  obtain ⟨res, -, hadds₁⟩ := adds_sys (fun _ => by rfl) h₁
  obtain ⟨r₂, w₂, h₂, h⟩ := Exec.run_bind_eq_ok.mp h
  obtain ⟨evs, hadds₂, hflush⟩ := adds_ttaFlush h₂
  cases h
  rw [hadds₁.ctx] at hflush
  exact ⟨evs, _, hadds₁.trans hadds₂, hflush⟩

/-! ## One packet -/

/-- The bytes that a backend has read with the calls `evs`, for the RF backend since the static
receive buffer was filled. -/
def bytesRead (b : BackendType) (evs : List Event) (w : Traced σ) : Bytes :=
  match b with
  | .rf => w.rxfifo.1.take w.rxfifoPos
  | _ => inputOf evs

/-- The kinds of calls with which a backend reads a packet; the static receive buffer is read
without any. -/
def readKinds : BackendType → List Kind
  | .rf => []
  | _ => inputKinds

/-- On a socket or a serial line the bytes come from the reads. -/
theorem bytesRead_of_ne_rf {b : BackendType} (hrf : b ≠ .rf) (evs : List Event) (w : Traced σ) :
    bytesRead b evs w = inputOf evs := by
  cases b with
  | rf => exact absurd rfl hrf
  | tcp => rfl
  | rs485 => rfl

/-- A socket or a serial line is read by calls. -/
theorem readKinds_of_ne_rf {b : BackendType} (hrf : b ≠ .rf) : readKinds b = inputKinds := by
  cases b with
  | rf => exact absurd rfl hrf
  | tcp => rfl
  | rs485 => rfl

/-- How `_tta_receive_pkt` returns that has read the bytes `s` with the calls `evs`; `protocol` says
whether the protocol is recovered. -/
inductive PktExit (b : BackendType) (protocol : Bool) (s : Bytes) (evs : List Event)
    (w' : Traced σ) : Option ℕ × Bytes → Prop where
  | failed {pkt : Bytes} : b ≠ .rf → b.framing.next s = .short →
      inputFault evs = some w'.errno → PktExit b protocol s evs w' (none, pkt)
  | long {pkt : Bytes} : b.framing.next s = .long → (∀ e ∈ evs, e.kind ∈ readKinds b) →
      w'.errno = .EMBBADDATA → PktExit b protocol s evs w' (none, pkt)
  | bad {pkt : Bytes} {flush read : List Event} : b.framing.next s = .frame s →
      b.intact s = false → evs = flush ++ read → (∀ e ∈ read, e.kind ∈ readKinds b) →
      (if protocol then IsFlush b flush else flush = []) → w'.errno = .EMBBADCRC →
      PktExit b protocol s evs w' (none, pkt)
  | read {pkt : Bytes} : b.framing.next s = .frame s → b.intact s = true →
      (∀ e ∈ evs, e.kind ∈ readKinds b) → s <+: pkt →
      PktExit b protocol s evs w' (some s.length, pkt)

/-- What the integrity check does with a packet. -/
theorem exit_of_checkIntegrity {os : Os σ} {fuel : ℕ} {f pkt : Bytes} {w w' : Traced σ}
    {rc : Option ℕ} (hf : f <+: pkt) (hlen : 2 ≤ f.length)
    (h : (checkIntegrity os.traced fuel pkt f.length).run w = .ok (rc, w')) :
    (w.ctx.type.intact f = true ∧ rc = some f.length ∧ w' = w) ∨
      w.ctx.type.intact f = false ∧ rc = none ∧ w'.errno = .EMBBADCRC ∧
        ∃ evs w₁, Adds evs w w₁ ∧ w' = { w₁ with errno := .EMBBADCRC } ∧
          if w.ctx.recoversProtocol then IsFlush w.ctx.type evs else evs = [] := by
  by_cases hcalm : w.ctx.recoversProtocol = false ∨ w.ctx.type.intact f = true
  · rw [run_checkIntegrity os.traced fuel hf hlen hcalm] at h
    by_cases hintact : w.ctx.type.intact f = true
    · rw [if_pos hintact] at h
      cases h
      exact .inl ⟨hintact, rfl, rfl⟩
    · rw [if_neg hintact] at h
      cases h
      refine .inr ⟨Bool.eq_false_iff.mpr hintact, rfl, rfl, [], w, .refl w, rfl, ?_⟩
      rw [hcalm.resolve_right hintact]
      rfl
  · right
    obtain ⟨hprotocol, hintact⟩ := not_or.mp hcalm
    rw [Bool.not_eq_false] at hprotocol
    rw [Bool.not_eq_true] at hintact
    have hload := run_loadSumsMatch hf hlen w
    have hsums : sumsMatch f = false → (checkSums os.traced fuel pkt f.length).run w =
        .ok (rc, w') → rc = none ∧ ∃ evs w₁, Adds evs w w₁ ∧
          w' = { w₁ with errno := .EMBBADCRC } ∧ IsFlush w.ctx.type evs := by
      intro hbad hrun
      unfold checkSums at hrun
      rw [Exec.run_bind_of_ok hload, hbad] at hrun
      replace hrun := (Exec.run_bind_of_ok (run_getCtx w)).symm.trans hrun
      rw [hprotocol] at hrun
      obtain ⟨r₁, w₁, h₁, hrun⟩ := Exec.run_bind_eq_ok.mp hrun
      obtain ⟨evs, hadds, hflush⟩ := adds_ttaFlush h₁
      cases hrun
      exact ⟨rfl, evs, w₁, hadds, rfl, hflush⟩
    have hdone : rc = none ∧ ∃ evs w₁, Adds evs w w₁ ∧
        w' = { w₁ with errno := .EMBBADCRC } ∧ IsFlush w.ctx.type evs := by
      unfold checkIntegrity at h
      rw [Exec.run_bind_of_ok (run_getCtx w)] at h
      rw [Tta.type] at hintact
      cases hbe : w.ctx.backend with
      | tcp d =>
        rw [hbe] at hintact
        cases hintact
      | rs485 d =>
        rw [hbe] at h hintact
        exact hsums hintact h
      | rf d =>
        rw [hbe] at h hintact
        exact hsums hintact h
    obtain ⟨hrc, evs, w₁, hadds, hw', hflush⟩ := hdone
    refine ⟨hintact, hrc, by rw [hw'], evs, w₁, hadds, hw', ?_⟩
    rw [hprotocol]
    exact hflush

/-- The kinds of the calls of `tta_flush`. -/
theorem kinds_of_isFlush {b : BackendType} {evs : List Event} (h : IsFlush b evs) :
    ∀ e ∈ evs, e.kind ∈ [Kind.discard, .strobe] := by
  intro e he
  cases b with
  | tcp =>
    rw [h.2 e he]
    decide
  | rs485 =>
    rw [h.2 e he]
    decide
  | rf =>
    obtain ⟨f, f', rfl⟩ := h
    rcases List.mem_cons.mp he with rfl | he
    · simp [Event.kind]
    · rw [List.mem_singleton.mp he]
      simp [Event.kind]

/-- No call of `tta_flush` is a read. -/
theorem inputOf_of_isFlush {b : BackendType} {evs : List Event} (h : IsFlush b evs) :
    inputOf evs = [] :=
  inputOf_of_kinds (kinds_of_isFlush h) (by decide)

/-- The exits of `_tta_receive_pkt` that lie behind the integrity check of the packet `f`. -/
theorem pktExit_of_checkIntegrity {os : Os σ} {fuel : ℕ} {f pkt : Bytes} {w w₁ w' : Traced σ}
    {r : Option ℕ × Bytes} {read : List Event} (hf : w.ctx.type.framing.IsFrame f)
    (hpre : f <+: pkt) (hlog : w₁.log = read ++ w.log) (hctx : w₁.ctx = w.ctx)
    (hkinds : ∀ e ∈ read, e.kind ∈ readKinds w.ctx.type)
    (hread : bytesRead w.ctx.type read w₁ = f)
    (h : (do
      let rc ← checkIntegrity os.traced fuel pkt f.length
      return (rc, pkt) : Machine (σ × List Event) _).run w₁ = .ok (r, w')) :
    ∃ evs, w'.log = evs ++ w.log ∧ w'.ctx = w.ctx ∧
      PktExit w.ctx.type w.ctx.recoversProtocol (bytesRead w.ctx.type evs w') evs w' r := by
  have hnext := Framing.next_self hf
  obtain ⟨rc, w₂, h₂, h⟩ := Exec.run_bind_eq_ok.mp h
  cases h
  have hlen : 2 ≤ f.length := by
    have hfour := four_le_length_of_isFrame hf
    omega
  rcases exit_of_checkIntegrity hpre hlen h₂ with
    ⟨hintact, rfl, rfl⟩ | ⟨hbad, rfl, -, flush, w₃, hadds, rfl, hflush⟩
  · rw [hctx] at hintact
    exact ⟨read, hlog, hctx, hread.symm ▸ .read hnext hintact hkinds hpre⟩
  · rw [hctx] at hbad hflush
    have hin : inputOf flush = [] := by
      cases hprotocol : w.ctx.recoversProtocol with
      | false =>
        rw [hprotocol] at hflush
        rw [show flush = [] from hflush]
        rfl
      | true =>
        rw [hprotocol] at hflush
        exact inputOf_of_isFlush hflush
    have hread' : bytesRead w.ctx.type (flush ++ read) { w₃ with errno := .EMBBADCRC } = f := by
      rw [← hread]
      cases w.ctx.type with
      | rf =>
        change w₃.rxfifo.1.take w₃.rxfifoPos = w₁.rxfifo.1.take w₁.rxfifoPos
        rw [hadds.rxfifo, hadds.rxfifoPos]
      | tcp =>
        change inputOf (flush ++ read) = inputOf read
        rw [inputOf_append, hin, List.append_nil]
      | rs485 =>
        change inputOf (flush ++ read) = inputOf read
        rw [inputOf_append, hin, List.append_nil]
    refine ⟨flush ++ read, ?_, hadds.ctx.trans hctx, ?_⟩
    · rw [List.append_assoc, ← hlog]
      exact hadds.log
    · rw [hread']
      exact .bad hnext hbad rfl hkinds hflush rfl

/-- How `_tta_receive_pkt` returns, for arbitrary outcomes of all calls. -/
theorem pktExit_of_ttaReceivePkt {os : Os σ} {fuel : ℕ} {pkt : Bytes} {fgtimeout : Bool}
    {w w' : Traced σ} {r : Option ℕ × Bytes} (hsize : w.ctx.type.maxAduLength ≤ pkt.length)
    (hpos : w.ctx.type = .rf → w.rxfifoPos = 0)
    (h : (ttaReceivePkt os.traced fuel pkt fgtimeout).run w = .ok (r, w')) :
    ∃ evs, w'.log = evs ++ w.log ∧ w.ctx.Relinked w'.ctx ∧
      PktExit w.ctx.type w.ctx.recoversProtocol (bytesRead w.ctx.type evs w') evs w' r := by
  replace h := (Exec.run_bind_of_ok (run_getCtx w)).symm.trans h
  obtain ⟨r₁, w₁, h₁, h⟩ := Exec.run_bind_eq_ok.mp h
  have hchecked {st : ReadState} {f : Bytes} (read : List Event)
      (hrun : (do
        let rc ← checkIntegrity os.traced fuel st.pkt st.pktlen
        return (rc, st.pkt) : Machine (σ × List Event) _).run w₁ = .ok (r, w'))
      (hf : w.ctx.type.framing.IsFrame f) (hpre : f <+: st.pkt) (hcount : st.pktlen = f.length)
      (hlog : w₁.log = read ++ w.log) (hctx : w₁.ctx = w.ctx)
      (hkinds : ∀ e ∈ read, e.kind ∈ readKinds w.ctx.type)
      (hread : bytesRead w.ctx.type read w₁ = f) :
      ∃ evs, w'.log = evs ++ w.log ∧ w.ctx.Relinked w'.ctx ∧
        PktExit w.ctx.type w.ctx.recoversProtocol (bytesRead w.ctx.type evs w') evs w' r := by
    rw [hcount] at hrun
    obtain ⟨evs, hlog', hctx', hexit⟩ :=
      pktExit_of_checkIntegrity hf hpre hlog hctx hkinds hread hrun
    exact ⟨evs, hlog', .of_eq hctx', hexit⟩
  by_cases hrf : w.ctx.type = .rf
  · -- the packet is read from the static receive buffer
    have hend := rfEnd_of_start os.traced fuel pkt
      (if fgtimeout then some w.ctx.responseTimeout else none) (hrf ▸ hsize) hrf (hpos hrf)
    rw [hrf] at h₁
    rw [h₁] at hend
    cases hend with
    | @long pkt' hnext =>
      cases h
      refine ⟨[], rfl, .of_eq rfl, .long ?_ (by simp) rfl⟩
      rw [hrf]
      exact Framing.next_take_hdlen hnext
    | @complete st f hnext hpre hcount hlen =>
      obtain ⟨hf, hfifo⟩ := Framing.next_eq_frame_iff.mp hnext
      refine hchecked [] h (hrf ▸ hf) hpre hcount rfl rfl (by simp) ?_
      rw [hrf]
      exact (List.prefix_iff_eq_take.mp hfifo).symm
  · have hstart : Reading w.ctx.type [] pkt.length [] [] ⟨pkt, 0, w.ctx.type.headerLength, .hd,
        if fgtimeout then some w.ctx.responseTimeout else none⟩ :=
      ⟨rfl, List.nil_prefix, rfl, rfl, .inl ⟨rfl, w.ctx.type.framing.hdlen_pos, Nat.zero_add _⟩⟩
    obtain ⟨evs, hlog, hend⟩ := lineEnd_of_receiveLoop hstart hsize rfl hrf h₁
    have hkinds := readKinds_of_ne_rf hrf
    have hbytes := bytesRead_of_ne_rf (σ := σ) hrf
    cases hend with
    | failed hnext hfault hctx =>
      cases h
      exact ⟨evs, hlog, hctx, .failed hrf (by rw [hbytes]; exact hnext) hfault⟩
    | long hnext hall herrno hctx =>
      cases h
      exact ⟨evs, hlog, .of_eq hctx, .long (by rw [hbytes]; exact hnext) (hkinds ▸ hall) herrno⟩
    | @complete st hnext hall hpre hcount hlen hctx =>
      exact hchecked evs h (Framing.next_eq_frame_iff.mp hnext).1 hpre hcount hlog hctx
        (hkinds ▸ hall)
        (hbytes _ _)

end Libtta
