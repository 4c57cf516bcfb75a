import Libtta.Trace.Event

/-!
# Draining a socket

`tta_flush` on a TCP context reads the socket in chunks until a `recv` gives less than a whole one.
It drains the queue and returns the number of bytes that were in it, when that number is an `int`
and no `recv` fails (`flush_reports_iff`). A `recv` that fails ends the loop as an empty queue does,
and the bytes flushed before it are returned in place of `-1`.
-/

namespace Libtta

variable {σ : Type} {os : Os σ} {fd sum n : Int} {queued : σ → ℕ}

/-! ## A socket with a queue of bytes -/

/-- What a `recv` for a whole chunk gives in the state `d`: the bytes that are queued, up to a chunk
of them, or `EAGAIN` when there are none, or another failure. `EWOULDBLOCK` is the same code as
`EAGAIN`. -/
inductive RecvAnswer (queued : σ → ℕ) (d : σ) : Except Errno Bytes × σ → Prop
  | taken {bs : Bytes} {d' : σ} : queued d ≠ 0 →
      bs.length = min (queued d) BackendType.tcp.maxAduLength →
      queued d' = queued d - bs.length → RecvAnswer queued d (.ok bs, d')
  | empty {d' : σ} : queued d = 0 → queued d' = 0 → RecvAnswer queued d (.error .EAGAIN, d')
  | failed {e : Errno} {d' : σ} : e ≠ .EAGAIN → RecvAnswer queued d (.error e, d')

/-- A socket that holds a queue of bytes, and may fail. -/
def QueueSocket (os : Os σ) (fd : Int) (queued : σ → ℕ) : Prop :=
  ∀ d, RecvAnswer queued d (os.readNow fd BackendType.tcp.maxAduLength d)

/-- The state after `k` calls of `recv`. -/
def recvState (os : Os σ) (fd : Int) (d : σ) (k : ℕ) : σ :=
  (fun d => (os.readNow fd BackendType.tcp.maxAduLength d).2)^[k] d

/-- None of the calls of `recv` that the bytes in the queue take, up to the one that finds less than
a chunk, fails. -/
def NeverFails (os : Os σ) (fd : Int) (queued : σ → ℕ) (d : σ) : Prop :=
  ∀ k ≤ queued d / BackendType.tcp.maxAduLength, ∀ e d',
    os.readNow fd BackendType.tcp.maxAduLength (recvState os fd d k) = (.error e, d') → e = .EAGAIN

/-- Behind a whole chunk, the remaining calls have to be looked at. -/
theorem neverFails_iff_of_chunk {d d' : σ} {bs : Bytes}
    (hrecv : os.readNow fd BackendType.tcp.maxAduLength d = (.ok bs, d'))
    (hlen : BackendType.tcp.maxAduLength ≤ queued d)
    (hqueued : queued d' = queued d - BackendType.tcp.maxAduLength) :
    NeverFails os fd queued d ↔ NeverFails os fd queued d' := by
  have hstate (k : ℕ) : recvState os fd d (k + 1) = recvState os fd d' k := by
    rw [recvState, Function.iterate_succ_apply, hrecv]
    rfl
  have hchunks : queued d / BackendType.tcp.maxAduLength =
      queued d' / BackendType.tcp.maxAduLength + 1 := by
    rw [hqueued]
    exact (Nat.div_eq_sub_div (by decide) hlen)
  constructor
  · intro h k hk e d'' hfail
    exact h (k + 1) (by omega) e d'' (hstate k ▸ hfail)
  · intro h k hk e d'' hfail
    cases k with
    | zero =>
      have := hrecv.symm.trans hfail
      cases this
    | succ k => exact h k (by omega) e d'' (hstate k ▸ hfail)

/-- With less than a chunk in the queue, one call is looked at. -/
theorem neverFails_iff_of_lt {d : σ} (hlen : queued d < BackendType.tcp.maxAduLength) :
    NeverFails os fd queued d ↔
      ∀ e d', os.readNow fd BackendType.tcp.maxAduLength d = (.error e, d') → e = .EAGAIN := by
  unfold NeverFails
  rw [Nat.div_eq_of_lt hlen]
  constructor
  · intro h
    exact h 0 (Nat.le_refl 0)
  · intro h k hk
    obtain rfl := Nat.le_zero.mp hk
    exact h

/-! ## The loop -/

/-- A call that fails ends the loop. -/
theorem run_ttaTcpFlushLoop_of_error {fuel : ℕ} {w : World σ} {e : Errno} {d : σ}
    (hrecv : os.readNow fd BackendType.tcp.maxAduLength w.dev = (.error e, d)) :
    (ttaTcpFlushLoop os fd (fuel + 1) sum).run w = .ok (sum, { w with dev := d, errno := e }) :=
  (Exec.run_bind_of_ok (run_sys_of_error hrecv)).trans rfl

/-- A call that gives bytes adds their number to the sum, and the loop goes on behind a whole
chunk. -/
theorem run_ttaTcpFlushLoop_of_ok {fuel : ℕ} {w : World σ} {bs : Bytes} {d : σ}
    (hrecv : os.readNow fd BackendType.tcp.maxAduLength w.dev = (.ok bs, d))
    (hlen : bs.length ≤ BackendType.tcp.maxAduLength) :
    (ttaTcpFlushLoop os fd (fuel + 1) sum).run w =
      (do
        let sum ← Exec.access .overflow (addInt sum bs.length)
        if bs.length = BackendType.tcp.maxAduLength then ttaTcpFlushLoop os fd fuel sum
        else return sum : Machine σ Int).run { w with dev := d } := by
  rw [ttaTcpFlushLoop, Exec.run_bind_of_ok (run_sys_of_ok hrecv)]
  simp only [List.take_of_length_le hlen]

/-- Some call of `recv` has failed, but not for an empty queue. -/
def RecvFailed (evs : List Event) : Prop := ∃ e, e ≠ .EAGAIN ∧ .discard (some e) ∈ evs

/-- A call that is recorded. -/
theorem traced_readNow {m : ℕ} {w : Traced σ} {r : Except Errno Bytes} {d : σ}
    (h : os.readNow fd m w.dev.1 = (r, d)) :
    os.traced.readNow fd m w.dev = (r, d, .discard (failureOf r) :: w.log) := by
  simp only [Os.traced, logged, h]
  rfl

/-- How the loop ends that starts in `d` with the sum `sum` and returns `n` in `d'`: a call has
failed, or the queue is empty and its length has been added to the sum. -/
inductive DrainEnds (os : Os σ) (fd : Int) (queued : σ → ℕ) (d : σ) (sum n : Int)
    (evs : List Event) (d' : σ) : Prop
  | failed : RecvFailed evs → ¬NeverFails os fd queued d → DrainEnds os fd queued d sum n evs d'
  | drained : ¬RecvFailed evs → NeverFails os fd queued d → n = sum + queued d → n < 2 ^ 31 →
      queued d' = 0 → DrainEnds os fd queued d sum n evs d'

/-- An earlier call that has given bytes is no failure. -/
theorem recvFailed_append_discard {evs : List Event} :
    RecvFailed (evs ++ [.discard none]) ↔ RecvFailed evs := by
  constructor
  · rintro ⟨e, he, hmem⟩
    exact ⟨e, he, by simpa using hmem⟩
  · rintro ⟨e, he, hmem⟩
    exact ⟨e, he, List.mem_append_left _ hmem⟩

/-- The sum of two values of type `int` is in range. -/
theorem addInt_eq_some {a b c : Int} (h : addInt a b = some c) : c = a + b ∧ c < 2 ^ 31 := by
  unfold addInt at h
  split at h
  · next hrange =>
    cases h
    exact ⟨rfl, hrange.2⟩
  · cases h

/-- A call that finds the queue empty ends the loop. -/
theorem drainEnds_of_empty {d d' : σ} (hsum : sum < 2 ^ 31) (hnone : queued d = 0)
    (hnone' : queued d' = 0)
    (hrecv : os.readNow fd BackendType.tcp.maxAduLength d = (.error .EAGAIN, d')) :
    DrainEnds os fd queued d sum sum [.discard (some .EAGAIN)] d' := by
  refine .drained ?_ ?_ (by simp [hnone]) hsum hnone'
  · rintro ⟨e, he, hmem⟩
    cases List.mem_singleton.mp hmem
    exact he rfl
  · refine (neverFails_iff_of_lt (by rw [hnone]; decide)).mpr fun e d'' hfail => ?_
    cases hrecv.symm.trans hfail
    rfl

/-- A call that gives less than a chunk gives the last bytes. -/
theorem drainEnds_of_short {d d' : σ} {bs : Bytes} (hlt : n < 2 ^ 31)
    (hshort : bs.length ≠ BackendType.tcp.maxAduLength)
    (hlen : bs.length = min (queued d) BackendType.tcp.maxAduLength)
    (hqueued : queued d' = queued d - bs.length) (hn : n = sum + bs.length)
    (hrecv : os.readNow fd BackendType.tcp.maxAduLength d = (.ok bs, d')) :
    DrainEnds os fd queued d sum n [.discard none] d' := by
  have hall : bs.length = queued d := by omega
  refine .drained ?_ ?_ (hall ▸ hn) hlt (by omega)
  · rintro ⟨e, he, hmem⟩
    cases List.mem_singleton.mp hmem
  · refine (neverFails_iff_of_lt (by omega)).mpr fun e d'' hfail => ?_
    cases hrecv.symm.trans hfail

/-- Behind a whole chunk the loop ends as it does on the rest of the queue. -/
theorem drainEnds_of_chunk {d d' d'' : σ} {bs : Bytes} {evs : List Event} {sum' : Int}
    (hchunk : bs.length = BackendType.tcp.maxAduLength)
    (hlen : bs.length = min (queued d) BackendType.tcp.maxAduLength)
    (hqueued : queued d' = queued d - bs.length) (hsum' : sum' = sum + bs.length)
    (hrecv : os.readNow fd BackendType.tcp.maxAduLength d = (.ok bs, d'))
    (hends : DrainEnds os fd queued d' sum' n evs d'') :
    DrainEnds os fd queued d sum n (evs ++ [.discard none]) d'' := by
  have hnever := neverFails_iff_of_chunk hrecv (by omega) (hchunk ▸ hqueued)
  cases hends with
  | failed hfailed hnot =>
    exact .failed (recvFailed_append_discard.mpr hfailed) (hnever.not.mpr hnot)
  | drained hfailed hnot hn hlt hempty =>
    exact .drained (recvFailed_append_discard.not.mpr hfailed) (hnever.mpr hnot) (by omega) hlt
      hempty

/-- The loop returns only with a failure, or behind the last byte. -/
theorem drainEnds_of_run (hsock : QueueSocket os fd queued) {fuel : ℕ} {w w' : Traced σ}
    (hsum : sum < 2 ^ 31)
    (h : (ttaTcpFlushLoop os.traced fd fuel sum).run w = .ok (n, w')) :
    ∃ evs, w'.log = evs ++ w.log ∧ DrainEnds os fd queued w.dev.1 sum n evs w'.dev.1 := by
  induction fuel generalizing sum w with
  | zero => cases h
  | succ fuel ih =>
    have hanswer := hsock w.dev.1
    rcases hrecv : os.readNow fd BackendType.tcp.maxAduLength w.dev.1 with ⟨r, d'⟩
    have htraced := traced_readNow hrecv
    rw [hrecv] at hanswer
    cases hanswer with
    | empty hnone hnone' =>
      rw [run_ttaTcpFlushLoop_of_error htraced] at h
      cases h
      exact ⟨[.discard (some .EAGAIN)], rfl, drainEnds_of_empty hsum hnone hnone' hrecv⟩
    | @failed e _ he =>
      rw [run_ttaTcpFlushLoop_of_error htraced] at h
      cases h
      refine ⟨[.discard (some e)], rfl, .failed ⟨e, he, List.mem_singleton.mpr rfl⟩ ?_⟩
      exact fun hnever => he (hnever 0 (Nat.zero_le _) e d' hrecv)
    | @taken bs _ hsome hlen hqueued =>
      have hle : bs.length ≤ BackendType.tcp.maxAduLength := hlen ▸ Nat.min_le_right _ _
      rw [run_ttaTcpFlushLoop_of_ok htraced hle] at h
      obtain ⟨sum', w₂, hadd, h⟩ := Exec.run_bind_eq_ok.mp h
      obtain ⟨hadd, hw₂⟩ := Exec.run_access_eq_ok.mp hadd
      cases hw₂
      obtain ⟨hsum', hlt⟩ := addInt_eq_some hadd
      by_cases hchunk : bs.length = BackendType.tcp.maxAduLength
      · rw [if_pos hchunk] at h
        obtain ⟨evs, hlog, hends⟩ := ih hlt h
        refine ⟨evs ++ [.discard none], ?_,
          drainEnds_of_chunk hchunk hlen hqueued hsum' hrecv hends⟩
        rw [hlog, List.append_assoc]
        rfl
      · rw [if_neg hchunk] at h
        cases h
        exact ⟨[.discard none], rfl, drainEnds_of_short hlt hchunk hlen hqueued hsum' hrecv⟩

/-- The loop returns when no call fails and the bytes can be counted. -/
theorem exists_run_ttaTcpFlushLoop (hsock : QueueSocket os fd queued) {fuel : ℕ} {w : Traced σ}
    (hnever : NeverFails os fd queued w.dev.1) (hpos : 0 ≤ sum)
    (hsum : sum + queued w.dev.1 < 2 ^ 31)
    (hfuel : queued w.dev.1 / BackendType.tcp.maxAduLength < fuel) :
    ∃ n w', (ttaTcpFlushLoop os.traced fd fuel sum).run w = .ok (n, w') := by
  induction fuel generalizing sum w with
  | zero => exact absurd hfuel (Nat.not_lt_zero _)
  | succ fuel ih =>
    have hanswer := hsock w.dev.1
    rcases hrecv : os.readNow fd BackendType.tcp.maxAduLength w.dev.1 with ⟨r, d'⟩
    have htraced := traced_readNow hrecv
    rw [hrecv] at hanswer
    cases hanswer with
    | empty hnone hnone' => exact ⟨_, _, run_ttaTcpFlushLoop_of_error htraced⟩
    | failed he => exact ⟨_, _, run_ttaTcpFlushLoop_of_error htraced⟩
    | @taken bs _ hsome hlen hqueued =>
      have hle : bs.length ≤ BackendType.tcp.maxAduLength := hlen ▸ Nat.min_le_right _ _
      have hadd : addInt sum bs.length = some (sum + bs.length) := if_pos (by omega)
      rw [run_ttaTcpFlushLoop_of_ok htraced hle, Exec.run_bind_of_ok (Exec.run_access_of_some hadd)]
      by_cases hchunk : bs.length = BackendType.tcp.maxAduLength
      · rw [if_pos hchunk]
        have hwhole : BackendType.tcp.maxAduLength ≤ queued w.dev.1 := by omega
        refine ih ((neverFails_iff_of_chunk hrecv hwhole (hchunk ▸ hqueued)).mp hnever) (by omega)
          (by change sum + (bs.length : Int) + (queued d' : Int) < 2 ^ 31; omega) ?_
        change queued d' / BackendType.tcp.maxAduLength < fuel
        rw [Nat.div_eq_sub_div (by decide) hwhole, ← hchunk, ← hqueued, hchunk] at hfuel
        omega
      · rw [if_neg hchunk]
        exact ⟨_, _, rfl⟩

/-! ## The flush -/

/-- `tta_flush` returns the number of bytes that were queued and leaves the queue empty, and it
returns `-1` when a `recv` fails. -/
def FlushReports (os : Os σ) (queued : σ → ℕ) (w : World σ) : Prop :=
  ∃ fuel₀, ∀ fuel, fuel₀ ≤ fuel → ∃ r w', (ttaFlush os.traced fuel).run w.traced = .ok (r, w') ∧
    (RecvFailed w'.log → r = none) ∧
    (¬RecvFailed w'.log → r = some (queued w.dev : Int) ∧ queued w'.dev.1 = 0)

/-- `tta_flush` on a TCP context is the loop. -/
theorem run_ttaFlush_tcp {fuel : ℕ} {w : World σ} (htype : w.ctx.type = .tcp) :
    (ttaFlush os fuel).run w =
      ((ttaTcpFlushLoop os w.ctx.s fuel 0).run w).map fun p => (some p.1, p.2) := by
  obtain ⟨d, hbe⟩ := Tta.exists_tcp htype
  unfold ttaFlush
  rw [Exec.run_bind_of_ok (run_getCtx w), hbe]
  change StateT.run (ttaTcpFlushLoop os w.ctx.s fuel 0 >>= fun n => pure (some n)) w = _
  cases hloop : (ttaTcpFlushLoop os w.ctx.s fuel 0).run w with
  | error e => exact Exec.run_bind_of_error hloop
  | ok p => exact (Exec.run_bind_of_ok hloop).trans rfl

/-- How `tta_flush` ends on a socket with a queue of bytes. -/
theorem drainEnds_of_ttaFlush {fuel : ℕ} {w : World σ} {w' : Traced σ} {r : Option Int}
    (htype : w.ctx.type = .tcp) (hsock : QueueSocket os w.ctx.s queued)
    (h : (ttaFlush os.traced fuel).run w.traced = .ok (r, w')) :
    ∃ n, r = some n ∧ DrainEnds os w.ctx.s queued w.dev 0 n w'.log w'.dev.1 := by
  rw [run_ttaFlush_tcp (w := w.traced) htype] at h
  obtain ⟨⟨n, w₁⟩, hloop, heq⟩ := Exec.exists_of_map_eq_ok h
  cases heq
  obtain ⟨evs, hlog, hends⟩ := drainEnds_of_run hsock (by decide) hloop
  have hevs : w₁.log = evs := hlog.trans (List.append_nil evs)
  exact ⟨n, rfl, hevs ▸ hends⟩

/-- On a socket with a queue of bytes, `tta_flush` drains the queue and reports it exactly when the
number of bytes is an `int` and no `recv` fails. -/
theorem flush_reports_iff {w : World σ} (htype : w.ctx.type = .tcp)
    (hsock : QueueSocket os w.ctx.s queued) :
    FlushReports os queued w ↔
      queued w.dev < 2 ^ 31 ∧ NeverFails os w.ctx.s queued w.dev := by
  constructor
  · rintro ⟨fuel, hreports⟩
    obtain ⟨r, w', hrun, hfailed, -⟩ := hreports fuel (Nat.le_refl fuel)
    obtain ⟨n, rfl, hends⟩ := drainEnds_of_ttaFlush htype hsock hrun
    cases hends with
    | failed hfail hnot => cases hfailed hfail
    | drained hfail hnever hn hlt hempty => exact ⟨by omega, hnever⟩
  · rintro ⟨hlt, hnever⟩
    refine ⟨queued w.dev / BackendType.tcp.maxAduLength + 1, fun fuel hfuel => ?_⟩
    obtain ⟨n, w', hloop⟩ := exists_run_ttaTcpFlushLoop (w := w.traced) hsock hnever
      (Int.le_refl 0) (by change 0 + (queued w.dev : Int) < 2 ^ 31; omega) hfuel
    have hrun : (ttaFlush os.traced fuel).run w.traced = .ok (some n, w') :=
      (run_ttaFlush_tcp (w := w.traced) htype).trans
        (congrArg (Except.map fun p => (some p.1, p.2)) hloop)
    obtain ⟨m, hm, hends⟩ := drainEnds_of_ttaFlush htype hsock hrun
    cases hm
    refine ⟨some n, w', hrun, ?_⟩
    cases hends with
    | failed hfail hnot => exact absurd hnever hnot
    | drained hfail _ hn _ hempty =>
      exact ⟨fun h => absurd h hfail, fun _ => ⟨by rw [hn, Int.zero_add], hempty⟩⟩

/-- A socket with a queue of bytes, as many as the state says. -/
def queueOs : Os ℕ where
  readNow _ n queued :=
    if queued = 0 then (.error .EAGAIN, 0)
    else (.ok (List.replicate (min queued n) 0), queued - n)

/-- The socket is one with a queue of bytes. -/
theorem queueSocket_queueOs (fd : Int) : QueueSocket queueOs fd id := by
  intro d
  by_cases hd : d = 0
  · have hrecv : queueOs.readNow fd BackendType.tcp.maxAduLength d = (.error .EAGAIN, 0) :=
      if_pos hd
    rw [hrecv]
    exact .empty hd rfl
  · have hrecv : queueOs.readNow fd BackendType.tcp.maxAduLength d =
        (.ok (List.replicate (min d BackendType.tcp.maxAduLength) 0),
          d - BackendType.tcp.maxAduLength) := if_neg hd
    rw [hrecv]
    refine .taken hd List.length_replicate ?_
    rw [List.length_replicate]
    change d - _ = d - _
    omega

/-- A TCP context on a socket in the state `d`. -/
def flushWorld (d : σ) : World σ :=
  ⟨ttaNewTcp "127.0.0.1" 502, .other 0, List.Vector.replicate 128 0, 0, d⟩

/-- Two whole chunks are drained, and the call that finds no more of them is no failure. -/
theorem flush_reports_iff_chunks : FlushReports queueOs id (flushWorld 520) := by
  refine (flush_reports_iff (w := flushWorld 520) rfl (queueSocket_queueOs _)).mpr ⟨by decide, ?_⟩
  intro k hk e d' hfail
  have hk' : k ≤ 2 := hk
  interval_cases k
  · cases hfail
  · cases hfail
  · cases hfail
    rfl

/-- A socket whose connection has been reset. -/
def resetOs : Os Unit where
  readNow _ _ d := (.error .ECONNRESET, d)

/-- On a connection that has been reset `tta_flush` returns 0. -/
theorem not_flush_reports :
    QueueSocket resetOs (flushWorld ()).ctx.s (fun _ => 0) ∧
      ¬FlushReports resetOs (fun _ => 0) (flushWorld ()) := by
  refine ⟨fun d => .failed (by decide), ?_⟩
  rintro ⟨fuel, hreports⟩
  obtain ⟨r, w', hrun, hfailed, -⟩ := hreports (fuel + 1) (Nat.le_succ fuel)
  cases hrun
  cases hfailed ⟨.ECONNRESET, by decide, List.mem_singleton.mpr rfl⟩

end Libtta
