import Libtta.Receive.Message
import Libtta.Trace.Device

/-!
# The reader and the calls it makes

What `_tta_receive_pkt` does on a socket or a serial line, in terms of the record of its calls and
for arbitrary outcomes. `inputOf` collects the bytes that the reads have given; the look at them,
`Framing.next`, tells how the reader ends (`lineEnd_of_receiveLoop`): when they are too few, a wait
or a read has failed, and `inputFault` is its code; when they announce too much, they are refused;
and otherwise they are one frame.
-/

namespace Libtta

variable {σ : Type}

/-! ## Input -/

/-- The bytes that the reads in a log have given, in order. -/
def inputOf : List Event → Bytes
  | [] => []
  | .read (.ok bs) :: log => inputOf log ++ bs
  | _ :: log => inputOf log

/-- The code of the last wait for input or read, if it has failed; a read that gives nothing counts
as a connection that is reset. -/
def inputFault : List Event → Option Errno
  | [] => none
  | .select failure :: _ => failure
  | .read (.error e) :: _ => some e
  | .read (.ok []) :: _ => some .ECONNRESET
  | .read (.ok (_ :: _)) :: _ => none
  | _ :: log => inputFault log

/-- The kinds of calls that read from a socket or a serial line. -/
def inputKinds : List Kind := [.select, .read]

/-- Input behind other input. -/
theorem inputOf_append (evs log : List Event) :
    inputOf (evs ++ log) = inputOf log ++ inputOf evs := by
  induction evs with
  | nil => exact (List.append_nil _).symm
  | cons e evs ih =>
    cases e with
    | read res =>
      cases res with
      | error e => exact ih
      | ok bs => rw [List.cons_append, inputOf, ih, inputOf, List.append_assoc]
    | _ => exact ih

/-- Calls that do not read give no input. -/
theorem inputOf_of_kinds {evs : List Event} {K : List Kind} (h : ∀ e ∈ evs, e.kind ∈ K)
    (hread : .read ∉ K) : inputOf evs = [] := by
  induction evs with
  | nil => rfl
  | cons e evs ih =>
    have hevs := ih fun e' he' => h e' (List.mem_cons_of_mem e he')
    have he := h e List.mem_cons_self
    cases e with
    | read res => exact absurd he hread
    | _ => exact hevs

/-- Calls that neither wait nor read leave the last wait or read what it is. -/
theorem inputFault_append_of_kinds {evs : List Event} {K : List Kind}
    (h : ∀ e ∈ evs, e.kind ∈ K) (hselect : .select ∉ K) (hread : .read ∉ K) (log : List Event) :
    inputFault (evs ++ log) = inputFault log := by
  induction evs with
  | nil => rfl
  | cons e evs ih =>
    have hevs := ih fun e' he' => h e' (List.mem_cons_of_mem e he')
    have he := h e List.mem_cons_self
    cases e with
    | read res => exact absurd he hread
    | select f => exact absurd he hselect
    | _ => exact hevs

/-- The last failure is the last one whatever came before. -/
theorem inputFault_append_of_some {evs : List Event} {e : Errno} (h : inputFault evs = some e)
    (log : List Event) : inputFault (evs ++ log) = some e := by
  induction evs with
  | nil => cases h
  | cons ev evs ih =>
    cases ev with
    | select f => exact h
    | read res =>
      rcases res with e' | ⟨_ | ⟨byte, bytes⟩⟩
      · exact h
      · exact h
      · cases h
    | _ => exact ih h

/-! ## Waiting and reading -/

/-- A wait for input on a socket or a serial line. -/
theorem adds_backendSelect {os : Os σ} {tv : Option Timeval} {w w' : Traced σ} {r : Option Unit}
    (hrf : w.ctx.type ≠ .rf) (h : (backendSelect os.traced tv).run w = .ok (r, w')) :
    ∃ failure, Adds [.select failure] w w' ∧ (r = none ↔ failure ≠ none) := by
  have hwait := (run_backendSelect_of_ne_rf os.traced tv hrf).symm.trans h
  rw [Exec.run_bind_of_ok (run_ask _ w)] at hwait
  rcases hres : os.select w.ctx.s tv w.dev.1 with ⟨_ | _ | ⟨e, he⟩, d⟩
  · simp only [Os.traced, logged, hres] at hwait
    cases hwait
    exact ⟨none, ⟨rfl, rfl, rfl, rfl, rfl⟩, by simp⟩
  · simp only [Os.traced, logged, hres] at hwait
    cases hwait
    exact ⟨some .ETIMEDOUT, ⟨rfl, rfl, rfl, rfl, rfl⟩, by simp⟩
  · simp only [Os.traced, logged, hres] at hwait
    cases hwait
    exact ⟨some e, ⟨rfl, rfl, rfl, rfl, rfl⟩, by simp⟩

/-- A read from a socket or a serial line. -/
theorem adds_backendRecv {os : Os σ} {n : ℕ} {w w' : Traced σ} {r : Option Bytes}
    (hrf : w.ctx.type ≠ .rf) (h : (backendRecv os.traced n).run w = .ok (r, w')) :
    ∃ res, Adds [.read res] w w' ∧ r = res.toOption ∧ ∀ bs, r = some bs → bs.length ≤ n := by
  have hread := (run_backendRecv_of_ne_rf os.traced n hrf).symm.trans h
  obtain ⟨r₁, w₁, h₁, hread⟩ := Exec.run_bind_eq_ok.mp hread
  obtain ⟨res, rfl, hadds⟩ := adds_sys (fun _ => by exact failureOf_map _ _) h₁
  cases hread
  refine ⟨_, hadds, ?_, ?_⟩
  · cases res <;> rfl
  · intro bs hbs
    obtain ⟨_, -, rfl⟩ := Option.map_eq_some_iff.mp hbs
    exact List.length_take_le _ _

/-- A recovery step behind a wait that fails keeps `errno`. -/
theorem errno_of_selectRecovery {os : Os σ} {fuel : ℕ} {w w' : World σ} {u : Unit}
    (h : (selectRecovery os fuel).run w = .ok (u, w')) : w'.errno = w.errno := by
  unfold selectRecovery at h
  rw [Exec.run_bind_of_ok (run_getCtx w)] at h
  cases hlink : w.ctx.recoversLink with
  | false =>
    rw [hlink] at h
    cases h
    rfl
  | true =>
    rw [hlink] at h
    obtain ⟨w₁, w₂, h₁, h⟩ := Exec.run_bind_eq_ok.mp h
    cases h₁
    dsimp only at h
    split at h
    · obtain ⟨u₃, w₃, -, h⟩ := Exec.run_bind_eq_ok.mp h
      cases h
      rfl
    split at h
    · obtain ⟨u₃, w₃, -, h⟩ := Exec.run_bind_eq_ok.mp h
      obtain ⟨r₄, w₄, -, h⟩ := Exec.run_bind_eq_ok.mp h
      cases h
      rfl
    · cases h
      rfl

/-- A recovery step behind a read that fails keeps `errno`. -/
theorem errno_of_readRecovery {os : Os σ} {fuel : ℕ} {w w' : World σ} {u : Unit}
    (h : (readRecovery os fuel).run w = .ok (u, w')) : w'.errno = w.errno := by
  unfold readRecovery at h
  obtain ⟨w₁, w₂, h₁, h⟩ := Exec.run_bind_eq_ok.mp h
  cases h₁
  replace h := (Exec.run_bind_of_ok (run_getCtx w)).symm.trans h
  split at h
  · obtain ⟨u₃, w₃, -, h⟩ := Exec.run_bind_eq_ok.mp h
    obtain ⟨r₄, w₄, -, h⟩ := Exec.run_bind_eq_ok.mp h
    cases h
    rfl
  · cases h
    rfl

/-! ## One round -/

/-- The invariant of the loop for the bytes that have been read holds for the stream of these bytes
and those that are read next. -/
theorem Reading.extend {b : BackendType} {got : Bytes} {size : ℕ} {st : ReadState}
    (h : Reading b got size got [] st) (bs : Bytes) :
    Reading b (got ++ bs) size got (bs ++ []) st where
  split := by rw [List.append_nil]
  filled := h.filled
  count := h.count
  size_eq := h.size_eq
  phase := by
    rcases h.phase with hhd | ⟨hstep, hhd, hsum, hle⟩
    · exact .inl hhd
    · have htotal : b.framing.total (got ++ bs) = b.framing.total got :=
        Framing.total_append (by rw [BackendType.hdlen_framing, ← h.count]; exact hhd)
      rw [← htotal] at hsum hle
      exact .inr ⟨hstep, hhd, hsum, hle⟩

/-- How the reader ends that has read `got` before, with the calls `evs`. -/
inductive LineEnd (b : BackendType) (size : ℕ) (got : Bytes) (evs : List Event)
    (w w' : Traced σ) : Except Bytes ReadState → Prop where
  | failed {pkt : Bytes} : b.framing.next (got ++ inputOf evs) = .short →
      inputFault evs = some w'.errno → w.ctx.Relinked w'.ctx →
      LineEnd b size got evs w w' (.error pkt)
  | long {pkt : Bytes} : b.framing.next (got ++ inputOf evs) = .long →
      (∀ e ∈ evs, e.kind ∈ inputKinds) → w'.errno = .EMBBADDATA → w'.ctx = w.ctx →
      LineEnd b size got evs w w' (.error pkt)
  | complete {st : ReadState} : b.framing.next (got ++ inputOf evs) = .frame (got ++ inputOf evs) →
      (∀ e ∈ evs, e.kind ∈ inputKinds) → got ++ inputOf evs <+: st.pkt →
      st.pktlen = (got ++ inputOf evs).length → st.pkt.length = size → w'.ctx = w.ctx →
      LineEnd b size got evs w w' (.ok st)

/-- A wait or a read that fails ends the reader, after a recovery step that keeps `errno`. -/
theorem lineEnd_of_recovery {b : BackendType} {got : Bytes} {size : ℕ} {st : ReadState}
    {w v w' : Traced σ} {r : Except Bytes ReadState} {evs : List Event} {pkt : Bytes}
    {recovery : Machine (σ × List Event) Unit} (h : Reading b got size got [] st)
    (hpos : 0 < st.lengthToRead) (hlog : v.log = evs ++ w.log) (hctx : v.ctx = w.ctx)
    (hin : inputOf evs = []) (hfault : inputFault evs = some v.errno)
    (hext : Exec.Along (Extends recoveryKinds) recovery)
    (hkeep : ∀ u w₂, recovery.run v = .ok (u, w₂) → w₂.errno = v.errno)
    (hrun : (do recovery; return .error pkt : Machine (σ × List Event) _).run v = .ok (r, w')) :
    ∃ evs, r = .error pkt ∧ w'.log = evs ++ w.log ∧ LineEnd b size got evs w w' (.error pkt) := by
  obtain ⟨u, w₂, h₂, hrun⟩ := Exec.run_bind_eq_ok.mp hrun
  cases hrun
  obtain ⟨evs₂, hlog₂, hevs₂⟩ := (hext _ _ _ h₂).log
  refine ⟨evs₂ ++ evs, rfl, by rw [hlog₂, hlog, List.append_assoc], .failed ?_ ?_ ?_⟩
  · rw [inputOf_append, hin, inputOf_of_kinds hevs₂ (by decide), List.append_nil, List.append_nil]
    exact h.next_short hpos rfl
  · rw [inputFault_append_of_kinds hevs₂ (by decide) (by decide), hfault, hkeep u _ h₂]
  · exact hctx ▸ (hext _ _ _ h₂).ctx

/-- What one round does: it reads some bytes, or the reader ends. -/
theorem lineEnd_of_receiveStep {os : Os σ} {fuel : ℕ} {b : BackendType} {got : Bytes} {size : ℕ}
    {st : ReadState} {w w' : Traced σ} {r : Except Bytes ReadState}
    (h : Reading b got size got [] st) (hpos : 0 < st.lengthToRead)
    (hsize : b.maxAduLength ≤ size) (htype : w.ctx.type = b) (hrf : b ≠ .rf)
    (hrun : (receiveStep os.traced fuel st).run w = .ok (r, w')) :
    (∃ st' evs, r = .ok st' ∧ Adds evs w w' ∧ (∀ e ∈ evs, e.kind ∈ inputKinds) ∧
        Reading b (got ++ inputOf evs) size (got ++ inputOf evs) [] st') ∨
      ∃ pkt evs, r = .error pkt ∧ w'.log = evs ++ w.log ∧
        LineEnd b size got evs w w' (.error pkt) := by
  unfold receiveStep at hrun
  obtain ⟨r₁, w₁, h₁, hrun⟩ := Exec.run_bind_eq_ok.mp hrun
  obtain ⟨failure, hadds₁, hr₁⟩ := adds_backendSelect (htype ▸ hrf) h₁
  have htype₁ : w₁.ctx.type = b := by rw [hadds₁.ctx, htype]
  cases r₁ with
  | none =>
    right
    refine ⟨st.pkt, ?_⟩
    obtain ⟨e, rfl⟩ := Option.ne_none_iff_exists'.mp (hr₁.mp rfl)
    exact lineEnd_of_recovery h hpos hadds₁.log hadds₁.ctx rfl
      (congrArg some hadds₁.errno.symm) (extends_selectRecovery os fuel)
      (fun _ _ => errno_of_selectRecovery) hrun
  | some _ =>
    obtain rfl : failure = none := by
      by_contra hne
      exact absurd (hr₁.mpr hne) (by simp)
    obtain ⟨r₂, w₂, h₂, hrun⟩ := Exec.run_bind_eq_ok.mp hrun
    obtain ⟨res, hadds₂, rfl, hle⟩ := adds_backendRecv (htype₁ ▸ hrf) h₂
    have hadds := hadds₁.trans hadds₂
    rcases res with e | ⟨_ | ⟨byte, bytes⟩⟩
    · right
      refine ⟨st.pkt, ?_⟩
      exact lineEnd_of_recovery h hpos hadds.log hadds.ctx rfl
        (congrArg some hadds.errno.symm) (extends_readRecovery os fuel)
        (fun _ _ => errno_of_readRecovery) hrun
    · right
      refine ⟨st.pkt, ?_⟩
      replace hrun := (Exec.run_bind_of_ok (run_setErrno _ _)).symm.trans hrun
      exact lineEnd_of_recovery h hpos (v := { w₂ with errno := .ECONNRESET })
        hadds.log hadds.ctx rfl rfl (extends_readRecovery os fuel)
        (fun _ _ => errno_of_readRecovery) hrun
    · have hkinds : ∀ e ∈ [Event.read (.ok (byte :: bytes)), .select none],
          e.kind ∈ inputKinds := by simp [Event.kind, inputKinds]
      rcases run_receiveBytes (h.extend (byte :: bytes)) hsize (hle _ rfl) w₂
        (by rw [hadds.ctx, htype]) with ⟨st', hstep, hreading⟩ | ⟨pkt, hstep, hlong, -⟩
      · left
        obtain ⟨rfl, rfl⟩ : r = .ok st' ∧ w' = w₂ := by
          cases hstep.symm.trans hrun
          exact ⟨rfl, rfl⟩
        exact ⟨st', _, rfl, hadds, hkinds, hreading⟩
      · right
        cases hstep.symm.trans hrun
        exact ⟨pkt, _, rfl, hadds.log, .long hlong hkinds rfl hadds.ctx⟩

/-! ## The loop -/

/-- What was read in a round before may be counted as read in the call. -/
theorem LineEnd.of_read {b : BackendType} {size : ℕ} {got : Bytes} {evs evs' : List Event}
    {w w₁ w' : Traced σ} {r : Except Bytes ReadState} (hadds : Adds evs w w₁)
    (hkinds : ∀ e ∈ evs, e.kind ∈ inputKinds)
    (h : LineEnd b size (got ++ inputOf evs) evs' w₁ w' r) :
    LineEnd b size got (evs' ++ evs) w w' r := by
  have hin : got ++ inputOf (evs' ++ evs) = got ++ inputOf evs ++ inputOf evs' := by
    rw [inputOf_append, List.append_assoc]
  have hall (hkinds' : ∀ e ∈ evs', e.kind ∈ inputKinds) :
      ∀ e ∈ evs' ++ evs, e.kind ∈ inputKinds := by
    intro e he
    rcases List.mem_append.mp he with hmem | hmem
    · exact hkinds' e hmem
    · exact hkinds e hmem
  cases h with
  | failed hnext hfault hctx =>
    exact .failed (by rw [hin]; exact hnext) (inputFault_append_of_some hfault _)
      (hadds.ctx ▸ hctx)
  | long hnext hkinds' herrno hctx =>
    exact .long (by rw [hin]; exact hnext) (hall hkinds') herrno (hctx.trans hadds.ctx)
  | complete hnext hkinds' hpre hcount hlen hctx =>
    rw [← hin] at hnext hpre hcount
    exact .complete hnext (hall hkinds') hpre hcount hlen (hctx.trans hadds.ctx)

/-- When nothing is left to read, the reader ends with the frame that has been read. -/
theorem Reading.lineEnd {b : BackendType} {got : Bytes} {size : ℕ} {st : ReadState} {w : Traced σ}
    (h : Reading b got size got [] st) (hzero : st.lengthToRead = 0) :
    LineEnd b size got [] w w (.ok st) := by
  have hgot : got ++ inputOf [] = got := List.append_nil _
  exact .complete (by rw [hgot]; exact h.next_frame hzero) (by simp)
    (by rw [hgot]; exact h.filled) (by rw [hgot]; exact h.count) h.size_eq rfl

/-- How the loop ends. The induction is on the rounds that are left. -/
theorem lineEnd_of_receiveLoop {os : Os σ} {fuel rounds : ℕ} {b : BackendType} {got : Bytes}
    {size : ℕ} {st : ReadState} {w w' : Traced σ} {r : Except Bytes ReadState}
    (h : Reading b got size got [] st) (hsize : b.maxAduLength ≤ size) (htype : w.ctx.type = b)
    (hrf : b ≠ .rf) (hrun : (receiveLoop os.traced fuel rounds st).run w = .ok (r, w')) :
    ∃ evs, w'.log = evs ++ w.log ∧ LineEnd b size got evs w w' r := by
  induction rounds generalizing got st w with
  | zero =>
    by_cases hzero : st.lengthToRead = 0
    · rw [receiveLoop, if_pos hzero] at hrun
      cases hrun
      exact ⟨[], rfl, h.lineEnd hzero⟩
    · rw [receiveLoop, if_neg hzero] at hrun
      cases hrun
  | succ rounds ih =>
    by_cases hzero : st.lengthToRead = 0
    · rw [receiveLoop, if_pos hzero] at hrun
      cases hrun
      exact ⟨[], rfl, h.lineEnd hzero⟩
    rw [receiveLoop, if_neg hzero] at hrun
    obtain ⟨r₁, w₁, h₁, hrun⟩ := Exec.run_bind_eq_ok.mp hrun
    rcases lineEnd_of_receiveStep h (by omega) hsize htype hrf h₁ with
      ⟨st', evs, rfl, hadds, hkinds, hreading⟩ | ⟨pkt, evs, rfl, hlog, hend⟩
    · obtain ⟨evs', hlog', hend⟩ := ih hreading (by rw [hadds.ctx, htype]) hrun
      exact ⟨evs' ++ evs, by rw [hlog', hadds.log, List.append_assoc],
        hend.of_read hadds hkinds⟩
    · cases hrun
      exact ⟨evs, hlog, hend⟩

end Libtta
