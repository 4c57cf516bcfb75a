import Libtta.Receive.RoundTrip

/-!
# Repeated calls on an arbitrary stream

Without error recovery, repeated calls of `tta_receive` are repeated looks of the one-shot parser:
`run_ttaReceives_results` says what each of the calls returns, and `run_ttaReceives` which messages
they deliver, those in the frames that repeated looks at the stream find.
-/

namespace Libtta

variable {σ ρ : Type}

/-! ## Messages -/

/-- What the one-shot parser leaves of a stream. -/
theorem BackendType.parse_snd (b : BackendType) (s : Bytes) : (b.parse s).2 = b.framing.rest s := by
  rw [parse, Framing.rest]
  cases b.framing.next s with
  | short => rfl
  | long => rfl
  | frame f => rfl

/-- The messages in the frames that `k` looks at a stream find. -/
def BackendType.messages (b : BackendType) (k : ℕ) (s : Bytes) : List Ttamsg :=
  ((b.framing.frames k s).filter b.intact).filterMap b.decode

/-- A look that finds no intact packet adds no message. -/
theorem messages_of_error {b : BackendType} {s rest : Bytes} {e : Errno}
    (h : b.parse s = (.error e, rest)) (k : ℕ) : b.messages (k + 1) s = b.messages k rest := by
  have hrest : b.framing.rest s = rest := by rw [← b.parse_snd, h]
  have hnone : ((b.framing.next s).frame?.toList).filter b.intact = [] := by
    cases hnext : b.framing.next s with
    | short => rfl
    | long => rfl
    | frame f =>
      obtain ⟨hf, t, hsplit⟩ := Framing.next_eq_frame_iff.mp hnext
      have hbad : ¬b.intact f = true := by
        intro hintact
        rw [BackendType.parse_eq_ok_iff.mpr ⟨hf, hintact, hsplit⟩] at h
        cases h
      exact List.filter_cons_of_neg hbad
  rw [BackendType.messages, Framing.frames, List.filter_append, hnone, List.nil_append, hrest]
  rfl

/-- A look that finds an intact packet adds its message. -/
theorem messages_of_ok {b : BackendType} {s rest f : Bytes} {m : Ttamsg}
    (h : b.parse s = (.ok f, rest)) (hm : b.decode f = some m) (k : ℕ) :
    b.messages (k + 1) s = m :: b.messages k rest := by
  obtain ⟨hf, hintact, rfl⟩ := BackendType.parse_eq_ok_iff.mp h
  rw [BackendType.messages, Framing.frames_append hf, List.filter_cons_of_pos hintact,
    List.filterMap_cons_some hm]
  rfl

/-! ## Results -/

/-- What a call of `tta_receive` returns on the stream `s`. -/
def BackendType.result (b : BackendType) (s : Bytes) : Option (ℕ × Ttamsg) :=
  match b.parse s with
  | (.error _, _) => none
  | (.ok f, _) => (b.decode f).map fun m => (f.length, m)

/-- What `k` calls of `tta_receive` return on the stream `s`. -/
def BackendType.results (b : BackendType) : ℕ → Bytes → List (Option (ℕ × Ttamsg))
  | 0, _ => []
  | k + 1, s => b.result s :: b.results k (b.framing.rest s)

/-- A look that finds no intact packet delivers nothing. -/
theorem result_of_error {b : BackendType} {s rest : Bytes} {e : Errno}
    (h : b.parse s = (.error e, rest)) : b.result s = none := by
  rw [BackendType.result, h]

/-- A look that finds an intact packet delivers its message. -/
theorem result_of_ok {b : BackendType} {s rest f : Bytes} {m : Ttamsg}
    (h : b.parse s = (.ok f, rest)) (hm : b.decode f = some m) :
    b.result s = some (f.length, m) := by
  unfold BackendType.result
  rw [h]
  exact congrArg (Option.map _) hm

/-- An intact packet at the front of a stream is delivered. -/
theorem result_append {b : BackendType} {f : Bytes} (hf : b.framing.IsFrame f)
    (hintact : b.intact f = true) (s : Bytes) :
    b.result (f ++ s) = (b.decode f).map fun m => (f.length, m) := by
  rw [BackendType.result, BackendType.parse_eq_ok_iff.mpr ⟨hf, hintact, rfl⟩]

/-- A frame that is too long is not delivered. -/
theorem result_append_of_limit_lt {b : BackendType} {f : Bytes} (hf : b.framing.IsWhole f)
    (hlong : b.maxAduLength < f.length) (s : Bytes) : b.result (f ++ s) = none := by
  rw [BackendType.result, BackendType.parse, Framing.next_append_of_limit_lt hf hlong]

/-- The messages that are delivered are those in the frames that repeated looks find. -/
theorem messages_eq_results (b : BackendType) (k : ℕ) (s : Bytes) :
    b.messages k s = (b.results k s).reduceOption.map Prod.snd := by
  induction k generalizing s with
  | zero => rfl
  | succ k ih =>
    rcases hparse : b.parse s with ⟨e | f, rest⟩
    · have hrest : b.framing.rest s = rest := by rw [← b.parse_snd, hparse]
      rw [messages_of_error hparse, BackendType.results, result_of_error hparse, hrest,
        List.reduceOption_cons_of_none, ih]
    · have hrest : b.framing.rest s = rest := by rw [← b.parse_snd, hparse]
      obtain ⟨pre, m, sums, hlayout, hpre, hsums⟩ :=
        exists_layout (BackendType.parse_eq_ok_iff.mp hparse).1
      have hdecode : b.decode f = some { m with tid := b.tidOf pre } := by
        rw [hlayout, decode_layout m hpre hsums]
      rw [messages_of_ok hparse hdecode, BackendType.results, result_of_ok hparse hdecode, hrest,
        List.reduceOption_cons_of_some, List.map_cons, ih]

/-- Without error recovery, each call of `tta_receive` returns what the one-shot parser finds at the
front of what the earlier calls have left of the stream. -/
theorem run_ttaReceives_results {os : Os σ} {input : σ → Bytes} {other : σ → ρ}
    (hos : Feeds os input other never) (fuel : ℕ) (fgtm : Bool) (k : ℕ) (w : World σ)
    (hrf : w.ctx.type ≠ .rf) (hnone : w.ctx.errorRecovery = 0)
    (hflag : w.ctx.backend.confirmationToIgnore = false) :
    ∃ w', (ttaReceives os fuel fgtm k).run w =
      .ok (w.ctx.type.results k (input w.dev), w') := by
  induction k generalizing w with
  | zero => exact ⟨w, rfl⟩
  | succ k ih =>
    obtain ⟨r, w₁, hrun, hend⟩ := run_ttaReceive hos fuel fgtm hrf hflag (Calm.of_none hnone)
    have hstep (d : σ) (errno : Errno) (hin : input d = w.ctx.type.framing.rest (input w.dev)) :
        ∃ w', (ttaReceives os fuel fgtm k).run { w with dev := d, errno := errno } =
          .ok (w.ctx.type.results k (w.ctx.type.framing.rest (input w.dev)), w') := by
      rw [← hin]
      exact ih { w with dev := d, errno := errno } hrf hnone hflag
    unfold ttaReceives
    rw [Exec.run_bind_of_ok hrun, BackendType.results]
    cases hend with
    | @refused rest d e hparse hin _ =>
      obtain ⟨w', hruns⟩ := hstep d e (by rw [hin, ← BackendType.parse_snd, hparse])
      rw [result_of_error hparse]
      exact ⟨w', (Exec.run_bind_of_ok hruns).trans rfl⟩
    | failed hfail => exact hfail.elim
    | @delivered f rest m d hparse hdecode hin _ =>
      obtain ⟨w', hruns⟩ := hstep d w.errno (by rw [hin, ← BackendType.parse_snd, hparse])
      rw [result_of_ok hparse hdecode]
      exact ⟨w', (Exec.run_bind_of_ok hruns).trans rfl⟩

/-- Without error recovery, repeated calls of `tta_receive` deliver the messages in the frames that
repeated looks at the stream find. -/
theorem run_ttaReceives {os : Os σ} {input : σ → Bytes} {other : σ → ρ}
    (hos : Feeds os input other never) (fuel : ℕ) (fgtm : Bool) (k : ℕ) (w : World σ)
    (hrf : w.ctx.type ≠ .rf) (hnone : w.ctx.errorRecovery = 0)
    (hflag : w.ctx.backend.confirmationToIgnore = false) :
    ∃ rs w', (ttaReceives os fuel fgtm k).run w = .ok (rs, w') ∧
      rs.reduceOption.map Prod.snd = w.ctx.type.messages k (input w.dev) := by
  obtain ⟨w', hrun⟩ := run_ttaReceives_results hos fuel fgtm k w hrf hnone hflag
  exact ⟨_, w', hrun, (messages_eq_results _ k _).symm⟩

/-- The receiving end of a TCP connection on which `s` is still to be read. -/
def tcpLine (s : Bytes) : World Line :=
  ⟨ttaNewTcp "127.0.0.1" 502, .other 0, List.Vector.replicate 128 0, 0,
    ⟨s, [], fun _ => 0, 0, fun _ => 0⟩⟩

end Libtta
