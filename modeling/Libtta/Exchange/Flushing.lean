import Libtta.Exchange.Failures

/-!
# Flushing the input after a bad message

With protocol recovery, the library flushes the input when the message that has been received is the
cause of a failure, so that the next message is not looked for inside it. It does so for wrong
checksums and for a response that does not match the request, and it does not for a header that
announces too much (`flushed_iff`).
-/

namespace Libtta

variable {σ : Type} {os : Os σ} {fuel : ℕ}

/-- The calls that bring input. -/
def Event.isInput (e : Event) : Bool := e.kind = .read ∨ e.kind = .fifoRead

/-- The input has been flushed after the last read. -/
def Flushed (b : BackendType) (evs : List Event) : Prop :=
  ∃ after flush before, evs = after ++ (flush ++ before) ∧ IsFlush b flush ∧
    ∀ e ∈ after, e.isInput = false

/-- Calls that come before a flush do not matter. -/
theorem Flushed.append {b : BackendType} {evs : List Event} (h : Flushed b evs)
    (earlier : List Event) : Flushed b (evs ++ earlier) := by
  obtain ⟨after, flush, before, rfl, hflush, hafter⟩ := h
  exact ⟨after, flush, before ++ earlier, by simp only [List.append_assoc], hflush, hafter⟩

/-- No call of a flush brings input. -/
theorem isInput_of_isFlush {b : BackendType} {flush : List Event} (h : IsFlush b flush) :
    ∀ e ∈ flush, e.isInput = false := by
  intro e he
  have hkind := kinds_of_isFlush h e he
  rw [Event.isInput]
  revert hkind
  cases e.kind <;> decide

/-- Behind the last read there is only what comes after it. -/
theorem prefix_of_isInput {p rest head tail : List Event} {e : Event}
    (h : p ++ rest = head ++ e :: tail) (hp : ∀ x ∈ p, x.isInput = false)
    (he : e.isInput = true) : p <+: head := by
  rcases List.append_eq_append_iff.mp h with ⟨mid, hhead, -⟩ | ⟨mid, hmid, htail⟩
  · exact ⟨mid, hhead.symm⟩
  · cases mid with
    | nil => exact ⟨[], by rw [List.append_nil, hmid, List.append_nil]⟩
    | cons x mid =>
      obtain ⟨rfl, -⟩ := List.cons.inj htail
      have hmem : e ∈ p := by
        rw [hmid]
        exact List.mem_append_right _ List.mem_cons_self
      exact Bool.noConfusion (he.symm.trans (hp e hmem))

/-- Nothing has been flushed when the calls behind the last read hold no flush. -/
theorem not_flushed {b : BackendType} {head tail : List Event} {e : Event} (he : e.isInput = true)
    (hno : ∀ after flush, after ++ flush <+: head → ¬IsFlush b flush) :
    ¬Flushed b (head ++ e :: tail) := by
  rintro ⟨after, flush, before, hevs, hflush, hafter⟩
  have hsplit : (after ++ flush) ++ before = head ++ e :: tail := by
    rw [List.append_assoc, ← hevs]
  refine hno after flush (prefix_of_isInput hsplit ?_ he) hflush
  intro x hx
  rcases List.mem_append.mp hx with hmem | hmem
  · exact hafter x hmem
  · exact isInput_of_isFlush hflush x hmem

/-- A header that is refused has been read by a call. -/
theorem exists_isInput {evs : List Event} (hall : ∀ e ∈ evs, e.kind ∈ inputKinds)
    (hin : inputOf evs ≠ []) : ∃ head e tail, evs = head ++ e :: tail ∧ e.isInput = true := by
  by_contra hno
  refine hin (inputOf_of_kinds (K := [.select]) ?_ (by decide))
  intro e he
  obtain ⟨head, tail, rfl⟩ := List.append_of_mem he
  rcases List.mem_pair.mp (hall e he) with hkind | hkind
  · rw [hkind]
    exact List.mem_singleton_self _
  · exact absurd ⟨head, e, tail, rfl, by rw [Event.isInput, hkind]; decide⟩ hno

/-- Waiting and reading flushes nothing. -/
theorem not_flushed_of_inputKinds {b : BackendType} {evs earlier : List Event} (hrf : b ≠ .rf)
    (hall : ∀ e ∈ evs, e.kind ∈ inputKinds) (hin : inputOf evs ≠ []) :
    ¬Flushed b (evs ++ earlier) := by
  obtain ⟨head, e, tail, rfl, he⟩ := exists_isInput hall hin
  rw [List.append_assoc, List.cons_append]
  refine not_flushed he ?_
  intro after flush hpre hflush
  have hdiscard : flush ≠ [] ∧ ∀ x ∈ flush, x.kind = .discard := by
    cases b with
    | rf => exact absurd rfl hrf
    | tcp => exact hflush
    | rs485 => exact hflush
  obtain ⟨x, hx⟩ := List.exists_mem_of_ne_nil flush hdiscard.1
  have hkind := hall x
    (List.mem_append_left _ (hpre.subset (List.mem_append_right _ hx)))
  rw [hdiscard.2 x hx] at hkind
  exact absurd hkind (by decide)

/-- The two strobes at the end of a call on an RF context are no flush: they put the radio into idle
mode, and flush its receive FIFO only. -/
theorem not_flushed_strobes {bs : Bytes} {failure f f' : Option Errno} {tail : List Event} :
    ¬Flushed .rf ([.strobe Cc1120.SFRX f', .strobe Cc1120.SIDLE f] ++
      .fifoRead bs failure :: tail) := by
  refine not_flushed rfl ?_
  rintro after _ hpre ⟨g, g', rfl⟩
  have hlen := hpre.length_le
  obtain rfl : after = [] := by
    rw [List.length_append] at hlen
    exact List.length_eq_zero_iff.mp (by simpa using hlen)
  have heq := hpre.eq_of_length rfl
  simp [Cc1120.SFTX, Cc1120.SIDLE] at heq

/-- With protocol recovery, a receive function that fails has flushed the input behind a bad packet,
unless its header announces too much. -/
theorem flushed_of_recvExit {b : BackendType} {evs earlier : List Event} {w' : Traced σ}
    {pkt : Bytes}
    (h : RecvExit b true evs w' (none, pkt)) :
    (cause b (received b evs w') ≠ .device → Flushed b (evs ++ earlier)) ↔
      b.framing.next (received b evs w') ≠ .long := by
  cases h with
  | line hrf hexit =>
    rw [received_of_ne_rf hrf]
    cases hexit with
    | failed _ hnext _ =>
      exact iff_of_true (fun hne => absurd (cause_of_short hnext) hne) (by rw [hnext]; simp)
    | long hnext hall herrno =>
      have hin : inputOf evs ≠ [] := by
        intro hnil
        rw [hnil, Framing.next_nil] at hnext
        cases hnext
      rw [readKinds_of_ne_rf hrf] at hall
      exact iff_of_false (fun hflushed => not_flushed_of_inputKinds hrf hall hin
        (hflushed (by rw [cause_of_long hnext]; simp))) (fun hne => hne hnext)
    | bad hnext hbad hevs hall hflush herrno =>
      refine iff_of_true (fun _ => Flushed.append ?_ _) (by rw [hnext]; simp)
      exact ⟨[], _, _, hevs, hflush, by simp⟩
  | silent hrf hnone hall _ =>
    have hnil : received b evs w' = [] := if_pos ⟨hrf, hnone⟩
    rw [hnil]
    exact iff_of_true (fun hne => absurd (cause_of_short Framing.next_nil) hne)
      (by rw [Framing.next_nil]; simp)
  | @radio bs failure f f' inner before w hrf hevs hcrc hbefore hexit hadds =>
    have haccepted : radioAccepted evs = true := by
      rw [hevs, ← List.append_assoc]
      exact radioAccepted_of_crcGood hcrc
    have hread : received b evs w' = w'.rxfifo.1.take w'.rxfifoPos := by
      rw [hrf]
      exact received_rf haccepted w'
    rw [hread]
    cases hexit with
    | failed hne => exact absurd hrf hne
    | long hnext hall herrno =>
      rw [hrf] at hall
      obtain rfl : inner = [] :=
        List.eq_nil_iff_forall_not_mem.mpr fun e he => List.not_mem_nil (hall e he)
      refine iff_of_false (fun hflushed => ?_) (fun hne => hne hnext)
      have hbad := hflushed (by rw [cause_of_long hnext]; simp)
      rw [hrf, hevs, List.append_assoc] at hbad
      exact not_flushed_strobes hbad
    | @bad _ flush read hnext hbad hinner hall hflush herrno =>
      refine iff_of_true (fun _ => Flushed.append ?_ _) (by rw [hnext]; simp)
      refine ⟨[.strobe Cc1120.SFRX f', .strobe Cc1120.SIDLE f], flush,
        read ++ .fifoRead bs failure :: before, ?_, hflush, ?_⟩
      · rw [hevs, hinner, List.append_assoc flush]
      · simp [Event.isInput, Event.kind]

/-- With protocol recovery, every call that fails because of what it has received has flushed the
input behind it, if and only if the header has not announced too much. -/
theorem flushed_iff {w w' : Traced σ} {n : ℕ} (hw : Reachable w.ctx n)
    (hprotocol : w.ctx.recoversProtocol = true) (h : Fails os.traced fuel w w') :
    ∃ evs, w'.log = evs ++ w.log ∧
      ((cause w.ctx.type (received w.ctx.type evs w') ≠ .device → Flushed w.ctx.type evs) ↔
        w.ctx.type.framing.next (received w.ctx.type evs w') ≠ .long) := by
  obtain ⟨evs, hlog, hexit⟩ := failExit_of_fails hw.counts.flag h
  refine ⟨evs, hlog, ?_⟩
  cases hexit with
  | send hnil =>
    rw [hnil]
    exact iff_of_true (fun hne => absurd (cause_of_short Framing.next_nil) hne)
      (by rw [Framing.next_nil]; simp)
  | @reply evs₁ evs₂ hevs hkinds hexit =>
    rw [hprotocol] at hexit
    rw [hevs, received_append_send hkinds]
    cases hexit with
    | failed hexit => exact flushed_of_recvExit hexit
    | mismatch hf hintact hread herrno hflush =>
      obtain ⟨flush, failure, rfl, hflush⟩ := hflush
      refine iff_of_true (fun _ => Flushed.append ?_ _) (by rw [Framing.next_self hf]; simp)
      exact ⟨[], flush, _, by rw [hread, List.append_assoc]; rfl, hflush, by simp⟩

/-- The end of an RS485 line on which `s` is still to be read, with protocol recovery. -/
def rs485Recovering (s : Bytes) : World Line :=
  { rs485Line s with ctx := ttaSetErrorRecovery errorRecoveryProtocol (rs485Line s).ctx }

/-- The recovery mode has been set on a new context. -/
theorem reachable_rs485Recovering (s : Bytes) : Reachable (rs485Recovering s).ctx 0 :=
  @Reachable.call 0 Line lineOs 0 (.setErrorRecovery errorRecoveryProtocol) (rs485Line s)
    (rs485Recovering s) (.newRs485 _ _ _) rfl

/-- A frame with wrong checksums is flushed. -/
theorem flushed_iff_checksum :
    ∃ w', Fails lineOs.traced 0 (rs485Recovering [0xF7, 1, 0, 0x10, 0, 0, 0]).traced w' ∧
      ∃ evs, w'.log = evs ++ [] ∧ Flushed .rs485 evs := by
  have hrun : ((ttaReceive lineOs.traced 0 false).run
      (rs485Recovering [0xF7, 1, 0, 0x10, 0, 0, 0]).traced).map
        (fun p => (p.1.isNone, cause .rs485 (received .rs485 p.2.log p.2))) =
      .ok (true, .checksum) := by
    decide +kernel
  obtain ⟨⟨r, w'⟩, hrun, hr⟩ := Exec.exists_of_map_eq_ok hrun
  obtain ⟨hnone, hcause⟩ := Prod.mk.inj hr
  obtain rfl : r = none := Option.isNone_iff_eq_none.mp hnone
  have hfails := Fails.receive hrun
  obtain ⟨evs, hlog, hiff⟩ := flushed_iff (reachable_rs485Recovering _) rfl hfails
  rw [hlog, show (rs485Recovering [0xF7, 1, 0, 0x10, 0, 0, 0]).traced.log = [] from rfl,
    List.append_nil] at hcause
  refine ⟨w', hfails, evs, hlog, hiff.mpr (fun hlong => ?_) (fun hdevice => ?_)⟩
  · exact absurd (hcause.symm.trans (cause_of_long hlong)) (by decide)
  · exact absurd (hcause.symm.trans hdevice) (by decide)

/-- A header that announces 250 bytes of payload is refused, and nothing is flushed. -/
theorem not_flushed_header :
    ∃ w', (ttaReceive lineOs.traced 0 false).run
        (rs485Recovering [0xF7, 1, 0, 0x10, 250, 0, 0]).traced = .ok (none, w') ∧
      cause .rs485 (received .rs485 w'.log w') = .tooLong ∧ ¬Flushed .rs485 w'.log := by
  have hrun : ((ttaReceive lineOs.traced 0 false).run
      (rs485Recovering [0xF7, 1, 0, 0x10, 250, 0, 0]).traced).map
        (fun p => (p.1.isNone, cause .rs485 (received .rs485 p.2.log p.2),
          p.2.log.all (fun e => e.kind ∈ inputKinds), inputOf p.2.log)) =
      .ok (true, .tooLong, true, [0xF7, 1, 0, 0x10, 250]) := by
    decide +kernel
  obtain ⟨⟨r, w'⟩, hrun, hr⟩ := Exec.exists_of_map_eq_ok hrun
  obtain ⟨hnone, hr⟩ := Prod.mk.inj hr
  obtain ⟨hcause, hr⟩ := Prod.mk.inj hr
  obtain ⟨hall, hin⟩ := Prod.mk.inj hr
  obtain rfl : r = none := Option.isNone_iff_eq_none.mp hnone
  refine ⟨w', hrun, hcause, ?_⟩
  rw [← List.append_nil w'.log]
  refine not_flushed_of_inputKinds (by decide) ?_ (by rw [hin]; simp)
  intro e he
  exact of_decide_eq_true (List.all_eq_true.mp hall e he)

end Libtta
