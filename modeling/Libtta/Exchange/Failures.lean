import Libtta.Exchange.Exits
import Libtta.Receive.Stream
import Libtta.Send.Copies

/-!
# Calls that fail

When `tta_send`, `tta_receive` or `tta_request` returns `-1`, the record of its calls and the bytes
that have been received tell the cause: a device has failed, the header announces a packet that is
too long, the checksums are wrong, or the packet does not match the request. `fault` is the code
that the library assigns for it, and `later` are the calls that may leave another code in `errno`
(`errno_named_iff`). `Flushed` says that the input has been flushed behind the last read.
-/

namespace Libtta

variable {σ : Type} {os : Os σ} {fuel : ℕ}

/-- A call that returns `-1`. -/
inductive Fails (os : Os σ) (fuel : ℕ) (w w' : World σ) : Prop where
  | send {m : Ttamsg} : (ttaSend os fuel m).run w = .ok (none, w') → Fails os fuel w w'
  | receive {fgtm : Bool} : (ttaReceive os fuel fgtm).run w = .ok (none, w') → Fails os fuel w w'
  | request {req : Ttamsg} : (ttaRequest os fuel req).run w = .ok (none, w') → Fails os fuel w w'

/-! ## The causes -/

/-- Why a call has failed. -/
inductive Cause where
  | device
  | tooLong
  | checksum
  | mismatch
  deriving DecidableEq, Repr

/-- The cause of a failure, for a call that has received the bytes `s`. -/
def cause (b : BackendType) (s : Bytes) : Cause :=
  match b.framing.next s with
  | .short => .device
  | .long => .tooLong
  | .frame f => if b.intact f then .mismatch else .checksum

/-- The code for a send that has failed after the given attempts. The RS485 backend assigns none
when the transmitter stays busy, and the RF backend assigns none at all. -/
def sendFault : Backend → List Attempt → Option Errno
  | .rf _, _ => none
  | _, [] => none
  | .rs485 ⟨_, _, .none, _⟩, a :: _ => if a.drained then some .EMBBADDATA else none
  | _, a :: _ =>
    match a.res with
    | .error e => some e
    | .ok _ => some .EMBBADDATA

/-- The code that is assigned for the failure of a call. -/
def fault (ctx : Tta) (evs : List Event) (w' : Traced σ) : Option Errno :=
  match cause ctx.type (received ctx.type evs w') with
  | .device => (inputFault evs).or (sendFault ctx.backend (attempts evs))
  | .tooLong => some .EMBBADDATA
  | .checksum => some .EMBBADCRC
  | .mismatch => some ctx.type.mismatch

/-- The calls behind the last write, if it has failed. -/
def behindWrite (evs : List Event) : List Event :=
  match attempts evs with
  | ⟨_, .error _, _⟩ :: _ => evs.takeWhile fun e => e.kind ≠ .write
  | _ => []

/-- The calls that are made after the code has been assigned, without restoring it: the calls behind
a write that has failed, the two strobes behind a radio packet, and the flush of a packet that does
not match the request. -/
def later (ctx : Tta) (evs : List Event) (w' : Traced σ) : List Event :=
  match cause ctx.type (received ctx.type evs w') with
  | .device => if inputFault evs = none then behindWrite evs else []
  | .tooLong | .checksum => if ctx.type = .rf then evs.take 2 else []
  | .mismatch =>
    if ctx.recoversProtocol then evs.take (evs.findIdx (fun e => e.kind = .other) + 1) else []

/-- The code `c` has been assigned, if there is one, and only the calls `evs` may have replaced
it. -/
def Kept (c : Option Errno) (evs : List Event) (errno : Errno) : Prop :=
  ∀ e ∈ c, errno = (lastFailure evs).getD e

/-- A code that has been assigned is in `errno` unless a later call fails with another one. -/
theorem Kept.iff {c : Option Errno} {evs : List Event} {errno : Errno} (h : Kept c evs errno) :
    c = some errno ↔ c.isSome ∧ ∀ e, lastFailure evs = some e → c = some e := by
  cases c with
  | none => simp
  | some c =>
    have herrno := h c rfl
    cases hlast : lastFailure evs with
    | none =>
      rw [hlast] at herrno
      simpa using herrno.symm
    | some e =>
      rw [hlast] at herrno
      simp [show errno = e from herrno]

/-! ## A send that fails -/

/-- The last attempt is the last write in the log. -/
theorem exists_write_of_attempts {evs : List Event} {a : Attempt} {as : List Attempt}
    (h : attempts evs = a :: as) :
    ∃ pre fd post, evs = pre ++ .write fd a.bs a.res :: post ∧ ∀ e ∈ pre, e.kind ≠ .write := by
  induction evs generalizing a as with
  | nil => cases h
  | cons e evs ih =>
    change noteAttempt e (attempts evs) = a :: as at h
    have hskip {a' : Attempt} {as' : List Attempt} (h' : attempts evs = a' :: as')
        (hbs : a'.bs = a.bs) (hres : a'.res = a.res) (he : e.kind ≠ .write) :
        ∃ pre fd post, e :: evs = pre ++ .write fd a.bs a.res :: post ∧
          ∀ e ∈ pre, e.kind ≠ .write := by
      obtain ⟨pre, fd, post, hevs, hpre⟩ := ih h'
      refine ⟨e :: pre, fd, post, by rw [hevs, hbs, hres]; rfl, ?_⟩
      intro e' he'
      rcases List.mem_cons.mp he' with rfl | hmem
      · exact he
      · exact hpre e' hmem
    cases e with
    | write fd bs res =>
      cases h
      exact ⟨[], fd, evs, rfl, by simp⟩
    | txEmpty answer f =>
      cases hold : attempts evs with
      | nil =>
        rw [hold] at h
        cases h
      | cons a' as' =>
        rw [hold] at h
        cases h
        exact hskip hold rfl rfl (by simp [Event.kind])
    | _ => exact hskip h rfl rfl (by simp [Event.kind])

/-- The last failure of a call whose last write has failed. -/
theorem lastFailure_of_attempts {evs : List Event} {a : Attempt} {as : List Attempt}
    {c errno : Errno}
    (h : attempts evs = a :: as) (hres : a.res = .error c) :
    (lastFailure evs).getD errno = (lastFailure (behindWrite evs)).getD c := by
  obtain ⟨pre, fd, post, hevs, hpre⟩ := exists_write_of_attempts h
  obtain ⟨bs, res, drained⟩ := a
  obtain rfl : res = .error c := hres
  have hbehind : behindWrite evs = pre := by
    rw [behindWrite, h]
    change evs.takeWhile (fun e => e.kind ≠ .write) = pre
    rw [hevs, List.takeWhile_append_of_pos (by simpa using hpre)]
    simp [Event.kind]
  rw [hbehind, hevs, lastFailure_append]
  rfl

/-- The code for a last attempt that the backend reports as `-1` is the code of its write. -/
theorem res_of_sendFault {be : Backend} {a : Attempt} {as : List Attempt} {c : Errno}
    (hnone : be.sendResult a = none) (hc : sendFault be (a :: as) = some c) : a.res = .error c := by
  have hwrite (h : writeResult a.bs.length a.res = none)
      (hc : (match a.res with
        | .error e => some e
        | .ok _ => some Errno.EMBBADDATA) = some c) : a.res = .error c := by
    cases hres : a.res with
    | error e =>
      rw [hres] at hc
      rw [Option.some.inj hc]
    | ok n =>
      rw [hres] at h
      cases h
  cases be with
  | rf d => cases hc
  | tcp d => exact hwrite hnone hc
  | rs485 d =>
    obtain ⟨device, serial, rts, flag⟩ := d
    cases rts with
    | up => exact hwrite hnone hc
    | down => exact hwrite hnone hc
    | none =>
      rw [sendResult_rs485_none] at hnone
      cases hres : a.res with
      | error e =>
        rw [hres] at hnone
        cases hnone
      | ok n =>
        rw [hres] at hnone
        change (if a.drained then some Errno.EMBBADDATA else none) = some c at hc
        cases hdrained : a.drained with
        | false =>
          rw [hdrained] at hc
          cases hc
        | true =>
          rw [hdrained] at hnone
          cases hnone

/-- The code for a last attempt that is short. -/
theorem sendFault_of_short {be : Backend} {a : Attempt} {as : List Attempt} {c : Errno} {k : ℕ}
    (hk : be.sendResult a = some k) (hpos : 0 < k) (hc : sendFault be (a :: as) = some c) :
    c = .EMBBADDATA ∧ ∃ n, a.res = .ok n := by
  have hwrite (h : writeResult a.bs.length a.res = some k)
      (hc : (match a.res with
        | .error e => some e
        | .ok _ => some Errno.EMBBADDATA) = some c) : c = .EMBBADDATA ∧ ∃ n, a.res = .ok n := by
    cases hres : a.res with
    | error e =>
      rw [hres] at h
      cases h
    | ok n =>
      rw [hres] at hc
      exact ⟨(Option.some.inj hc).symm, n, rfl⟩
  cases be with
  | rf d => cases hc
  | tcp d => exact hwrite hk hc
  | rs485 d =>
    obtain ⟨device, serial, rts, flag⟩ := d
    cases rts with
    | up => exact hwrite hk hc
    | down => exact hwrite hk hc
    | none =>
      rw [sendResult_rs485_none] at hk
      change (if a.drained then some Errno.EMBBADDATA else none) = some c at hc
      cases hres : a.res with
      | error e =>
        rw [hres] at hk
        cases hk
        exact absurd hpos (lt_irrefl 0)
      | ok n =>
        split at hc
        · exact ⟨(Option.some.inj hc).symm, n, rfl⟩
        · cases hc

/-- A call of `_send_pkt` that fails keeps the code that is assigned, up to the calls behind the
write. -/
theorem kept_of_sendPkt {pkt : Bytes} {w w' : Traced σ}
    (h : (sendPkt os.traced fuel pkt).run w = .ok (none, w')) :
    ∃ evs, w'.log = evs ++ w.log ∧ (∀ e ∈ evs, e.kind ∈ sendKinds) ∧
      Kept (sendFault w.ctx.backend (attempts evs)) (behindWrite evs) w'.errno := by
  obtain ⟨evs, hlog, hkinds⟩ := (extends_sendPkt os fuel _ _ _ _ h).log
  refine ⟨evs, hlog, hkinds, ?_⟩
  intro c hc
  by_cases hrf : w.ctx.type = .rf
  · obtain ⟨d, hbe⟩ := Tta.exists_rf hrf
    rw [hbe] at hc
    cases hc
  · obtain ⟨evs', a, as, hend⟩ := exists_sendEnd hrf h
    obtain rfl : evs = evs' := List.append_cancel_right (hlog.symm.trans hend.log)
    rw [hend.attempts.eq] at hc
    cases hr : w.ctx.backend.sendResult a with
    | none =>
      rw [hend.failed hr, lastFailure_of_attempts hend.attempts.eq (res_of_sendFault hr hc)]
    | some k =>
      have hresult := hend.result
      rw [hr] at hresult
      have hpos : 0 < k := by
        rcases Nat.eq_zero_or_pos k with rfl | hpos
        · have hsome := isSome_sendPktResult.mpr (.inl rfl : 0 = 0 ∨ 0 = pkt.length)
          rw [← hresult] at hsome
          cases hsome
        · exact hpos
      obtain ⟨rfl, n, hres⟩ := sendFault_of_short hr hpos hc
      have hbehind : behindWrite evs = [] := by
        rw [behindWrite, hend.attempts.eq]
        obtain ⟨bs, res, drained⟩ := a
        obtain rfl : res = .ok n := hres
        rfl
      rw [hend.short rfl (by rw [hr]; exact Option.some_ne_none k), hbehind]
      rfl

/-! ## Nothing received, or a packet that does not match -/

/-- The cause of a failure is a device when the packet is not complete. -/
theorem cause_of_short {b : BackendType} {s : Bytes} (h : b.framing.next s = .short) :
    cause b s = .device := by
  rw [cause, h]

/-- The cause of a failure is the header when it announces too much. -/
theorem cause_of_long {b : BackendType} {s : Bytes} (h : b.framing.next s = .long) :
    cause b s = .tooLong := by
  rw [cause, h]

/-- With a complete packet, the checksums or the confirmation check are the cause of a failure. -/
theorem cause_of_frame {b : BackendType} {s : Bytes} (h : b.framing.next s = .frame s) :
    cause b s = if b.intact s then .mismatch else .checksum := by
  rw [cause, h]

/-- The kinds of calls without which nothing is read from a line. -/
theorem inputFault_of_kinds {evs : List Event} {K : List Kind} (h : ∀ e ∈ evs, e.kind ∈ K)
    (hselect : .select ∉ K) (hread : .read ∉ K) : inputFault evs = none := by
  have hnil := inputFault_append_of_kinds h hselect hread []
  rwa [List.append_nil] at hnil

/-- The elements up to the first one with a property. -/
theorem take_findIdx {α : Type} {p : α → Bool} {pre rest : List α} {a : α}
    (hpre : ∀ x ∈ pre, p x = false) (ha : p a = true) :
    (pre ++ (a :: rest)).take ((pre ++ (a :: rest)).findIdx p + 1) = pre ++ [a] := by
  induction pre with
  | nil => simp [List.findIdx_cons, ha]
  | cons x pre ih =>
    obtain ⟨hx, hpre⟩ := List.forall_mem_cons.mp hpre
    rw [List.cons_append, List.findIdx_cons, hx, cond_false, List.take_succ_cons, ih hpre,
      List.cons_append]

/-- A packet was refused for what it announces or for its checksums, with the code for it. -/
def Refused (c : Cause) (e : Errno) : Prop :=
  c = .tooLong ∧ e = .EMBBADDATA ∨ c = .checksum ∧ e = .EMBBADCRC

/-- A packet that is not received: a device has failed, or it was refused. -/
theorem refused_of_pktExit {b : BackendType} {protocol : Bool} {s pkt : Bytes} {evs : List Event}
    {w : Traced σ} (h : PktExit b protocol s evs w (none, pkt)) :
    (b ≠ .rf ∧ cause b s = .device ∧ inputFault evs = some w.errno) ∨
      Refused (cause b s) w.errno := by
  cases h with
  | failed hrf hnext hfault => exact .inl ⟨hrf, cause_of_short hnext, hfault⟩
  | long hnext hall herrno => exact .inr (.inl ⟨cause_of_long hnext, herrno⟩)
  | bad hnext hbad hevs hall hflush herrno =>
    refine .inr (.inr ⟨?_, herrno⟩)
    rw [cause_of_frame hnext, hbad]
    rfl

/-- A packet that was refused keeps the code, up to the two strobes behind a radio packet. -/
theorem kept_of_refused {ctx : Tta} {evs : List Event} {w' : Traced σ} {e : Errno}
    (h : Refused (cause ctx.type (received ctx.type evs w')) e)
    (herrno : w'.errno = (lastFailure (if ctx.type = .rf then evs.take 2 else [])).getD e) :
    Kept (fault ctx evs w') (later ctx evs w') w'.errno := by
  intro c hc
  rw [fault] at hc
  rw [later]
  rcases h with ⟨hcause, rfl⟩ | ⟨hcause, rfl⟩
  · rw [hcause] at hc ⊢
    obtain rfl : Errno.EMBBADDATA = c := Option.some.inj hc
    exact herrno
  · rw [hcause] at hc ⊢
    obtain rfl : Errno.EMBBADCRC = c := Option.some.inj hc
    exact herrno

/-- A response that does not match keeps the code, up to the flush behind it. -/
theorem kept_of_mismatch {ctx : Tta} {evs evs₁ flush read : List Event} {w' : Traced σ}
    (hcause : cause ctx.type (received ctx.type (evs ++ evs₁) w') = .mismatch)
    (hevs : evs = flush ++ read) (herrno : w'.errno = (lastFailure flush).getD ctx.type.mismatch)
    (hflush : if ctx.recoversProtocol then
        ∃ evs₂ failure, flush = evs₂ ++ [.other failure] ∧ IsFlush ctx.type evs₂
      else flush = []) :
    Kept (fault ctx (evs ++ evs₁) w') (later ctx (evs ++ evs₁) w') w'.errno := by
  intro c hc
  rw [fault, hcause] at hc
  rw [later, hcause]
  obtain rfl : ctx.type.mismatch = c := Option.some.inj hc
  cases hprotocol : ctx.recoversProtocol with
  | false =>
    rw [hprotocol] at hflush
    rw [herrno, show flush = [] from hflush]
    rfl
  | true =>
    rw [hprotocol] at hflush
    obtain ⟨evs', failure, rfl, hevs'⟩ := hflush
    have htake : (evs ++ evs₁).take ((evs ++ evs₁).findIdx (fun e => e.kind = .other) + 1) =
        evs' ++ [.other failure] := by
      rw [hevs, List.append_assoc, List.append_assoc]
      refine take_findIdx ?_ rfl
      intro e he
      have hkind := kinds_of_isFlush hevs' e he
      revert hkind
      cases e.kind <;> decide
    dsimp only
    rw [if_pos rfl, htake, herrno]

/-- A receive that fails keeps the code that is assigned. -/
theorem kept_of_recvExit {ctx : Tta} {evs evs₁ : List Event} {w' : Traced σ} {pkt : Bytes}
    (hkinds : ∀ e ∈ evs₁, e.kind ∈ sendKinds)
    (h : RecvExit ctx.type ctx.recoversProtocol evs w' (none, pkt)) :
    Kept (fault ctx (evs ++ evs₁) w') (later ctx (evs ++ evs₁) w') w'.errno := by
  have hsame : received ctx.type (evs ++ evs₁) w' = received ctx.type evs w' :=
    received_append_send hkinds
  cases h with
  | line hrf hexit =>
    have hread := hsame.trans (received_of_ne_rf hrf evs w')
    rcases refused_of_pktExit hexit with ⟨-, hcause, hfault⟩ | hrefused
    · intro c hc
      rw [fault, hread, hcause] at hc
      rw [later, hread, hcause]
      change ((inputFault (evs ++ evs₁)).or _) = some c at hc
      change _ = (lastFailure (if inputFault (evs ++ evs₁) = none then _ else [])).getD c
      rw [inputFault_append_of_some hfault] at hc ⊢
      obtain rfl : w'.errno = c := Option.some.inj hc
      rfl
    · refine kept_of_refused (hread ▸ hrefused) ?_
      rw [if_neg hrf]
      rfl
  | silent hrf hnone hall _ =>
    obtain ⟨d, hbe⟩ := Tta.exists_rf hrf
    have hnil : received ctx.type (evs ++ evs₁) w' = [] := hsame.trans (if_pos ⟨hrf, hnone⟩)
    intro c hc
    rw [fault, hnil, cause_of_short Framing.next_nil] at hc
    change ((inputFault (evs ++ evs₁)).or (sendFault ctx.backend _)) = some c at hc
    rw [inputFault_append_of_kinds hall (by decide) (by decide),
      inputFault_of_kinds hkinds (by decide) (by decide), hbe] at hc
    cases hc
  | radio hrf hevs hcrc hbefore hexit hadds =>
    have haccepted : radioAccepted evs = true := by
      rw [hevs, ← List.append_assoc]
      exact radioAccepted_of_crcGood hcrc
    have hread : received ctx.type (evs ++ evs₁) w' = w'.rxfifo.1.take w'.rxfifoPos := by
      rw [hsame, hrf]
      exact received_rf haccepted w'
    rcases refused_of_pktExit hexit with ⟨hne, -⟩ | hrefused
    · exact absurd hrf hne
    · refine kept_of_refused (hread ▸ hrefused) ?_
      rw [if_pos hrf, hevs, hadds.errno]
      rfl

/-- A receive that fails, or a response that does not match, keeps the code that is assigned. -/
theorem kept_of_replyExit {ctx : Tta} {evs evs₁ : List Event} {w' : Traced σ}
    (hkinds : ∀ e ∈ evs₁, e.kind ∈ sendKinds)
    (h : ReplyExit ctx.type ctx.recoversProtocol evs w' none) :
    Kept (fault ctx (evs ++ evs₁) w') (later ctx (evs ++ evs₁) w') w'.errno := by
  cases h with
  | failed hexit => exact kept_of_recvExit hkinds hexit
  | mismatch hf hintact hevs herrno hflush =>
    refine kept_of_mismatch ?_ hevs herrno hflush
    rw [received_append_send hkinds, cause_of_frame (Framing.next_self hf), if_pos hintact]

/-! ## Every call that fails -/

/-- Without any call nothing has been received. -/
theorem received_nil (b : BackendType) (w : Traced σ) : received b [] w = [] := by
  cases b with
  | rf => exact if_pos ⟨rfl, rfl⟩
  | tcp => rfl
  | rs485 => rfl

/-- A step of the transaction counter does not change the code for a send. -/
theorem sendFault_stepped (be : Backend) (as : List Attempt) :
    sendFault be.stepped as = sendFault be as := by
  cases be with
  | tcp d =>
    cases as with
    | nil => rfl
    | cons a as => rfl
  | rs485 d => rfl
  | rf d => rfl

/-- A send that fails keeps the code that is assigned. -/
theorem kept_of_send {ctx : Tta} {pkt : Bytes} {w w' : Traced σ} (hctx : w.ctx = ctx.stepped)
    (h : (sendPkt os.traced fuel pkt).run w = .ok (none, w')) :
    ∃ evs, w'.log = evs ++ w.log ∧ received ctx.type evs w' = [] ∧
      Kept (fault ctx evs w') (later ctx evs w') w'.errno := by
  obtain ⟨evs, hlog, hkinds, hkept⟩ := kept_of_sendPkt h
  have hsame : received ctx.type ([] ++ evs) w' = received ctx.type [] w' :=
    received_append_send hkinds
  have hnil : received ctx.type evs w' = [] := hsame.trans (received_nil _ _)
  have hfault : inputFault evs = none := inputFault_of_kinds hkinds (by decide) (by decide)
  refine ⟨evs, hlog, hnil, ?_⟩
  intro c hc
  rw [fault, hnil, cause_of_short Framing.next_nil] at hc
  rw [later, hnil, cause_of_short Framing.next_nil]
  change ((inputFault evs).or (sendFault ctx.backend _)) = some c at hc
  rw [hfault, Option.none_or] at hc
  rw [hctx, Tta.stepped, sendFault_stepped] at hkept
  change _ = (lastFailure (if inputFault evs = none then _ else [])).getD c
  rw [if_pos hfault]
  exact hkept c hc

/-- How a call that fails has come to its end: nothing was received because the send has failed, or
the calls `evs₂` behind the send `evs₁` have ended so. -/
inductive FailExit (ctx : Tta) (evs : List Event) (w' : Traced σ) : Prop where
  | send : received ctx.type evs w' = [] → Kept (fault ctx evs w') (later ctx evs w') w'.errno →
      FailExit ctx evs w'
  | reply {evs₁ evs₂ : List Event} : evs = evs₂ ++ evs₁ → (∀ e ∈ evs₁, e.kind ∈ sendKinds) →
      ReplyExit ctx.type ctx.recoversProtocol evs₂ w' none → FailExit ctx evs w'

/-- The end of a call that fails. -/
theorem failExit_of_fails {w w' : Traced σ} (hflag : w.ctx.backend.confirmationToIgnore = false)
    (h : Fails os.traced fuel w w') : ∃ evs, w'.log = evs ++ w.log ∧ FailExit w.ctx evs w' := by
  cases h with
  | send h =>
    obtain ⟨w₁, hw₁, hlog₁, hsend⟩ := exists_sendPkt_of_ttaSend h
    obtain ⟨evs, hlog, hnil, hkept⟩ := kept_of_send (by rw [hw₁]) hsend
    exact ⟨evs, by rw [hlog, hlog₁], .send hnil hkept⟩
  | receive h =>
    obtain ⟨evs, pkt, hlog, hexit, -⟩ := recvExit_of_ttaReceive hflag h
    exact ⟨evs, hlog, .reply (List.append_nil _).symm (by simp) (.failed hexit)⟩
  | request h =>
    obtain ⟨w₁, w₂, rc, hw₁, hlog₁, hsend, hnone, hsome⟩ := exit_of_ttaRequest hflag h
    by_cases hrc : rc = none
    · obtain ⟨-, rfl⟩ := hnone hrc
      rw [hrc] at hsend
      obtain ⟨evs, hlog, hnil, hkept⟩ := kept_of_send (by rw [hw₁]) hsend
      exact ⟨evs, by rw [hlog, hlog₁], .send hnil hkept⟩
    · obtain ⟨evs₁, hlog₂, hkinds⟩ := (extends_sendPkt os fuel _ _ _ _ hsend).log
      obtain ⟨evs, hlog, hexit⟩ := hsome hrc
      exact ⟨evs ++ evs₁, by rw [hlog, hlog₂, hlog₁, List.append_assoc], .reply rfl hkinds hexit⟩

/-! ## The code in `errno` -/

/-- For every call that fails, the code that is assigned for the failure is in `errno` at the end if
and only if a code is assigned at all, and no later call fails with another one. -/
theorem errno_named_iff {w w' : Traced σ} {n : ℕ} (hw : Reachable w.ctx n)
    (h : Fails os.traced fuel w w') :
    ∃ evs, w'.log = evs ++ w.log ∧ (fault w.ctx evs w' = some w'.errno ↔
      (fault w.ctx evs w').isSome ∧
        ∀ e, lastFailure (later w.ctx evs w') = some e → fault w.ctx evs w' = some e) := by
  obtain ⟨evs, hlog, hexit⟩ := failExit_of_fails hw.counts.flag h
  refine ⟨evs, hlog, ?_⟩
  cases hexit with
  | send _ hkept => exact hkept.iff
  | reply hevs hkinds hexit =>
    rw [hevs]
    exact (kept_of_replyExit hkinds hexit).iff

/-- A TCP connection that the peer has closed is reported as one that is reset. -/
theorem errno_named_iff_closed :
    ∃ w', Fails lineOs.traced 0 (tcpLine []).traced w' ∧
      ∃ evs, w'.log = evs ++ [] ∧ fault (tcpLine []).ctx evs w' = some w'.errno := by
  have hrun : ((ttaReceive lineOs.traced 0 false).run (tcpLine []).traced).map
      (fun p => (p.1.isNone, fault (tcpLine []).ctx p.2.log p.2,
        lastFailure (later (tcpLine []).ctx p.2.log p.2))) =
      .ok (true, some .ECONNRESET, none) := by
    decide +kernel
  obtain ⟨⟨r, w'⟩, hrun, hr⟩ := Exec.exists_of_map_eq_ok hrun
  obtain ⟨hnone, hr⟩ := Prod.mk.inj hr
  obtain ⟨hfault, hlater⟩ := Prod.mk.inj hr
  obtain rfl : r = none := Option.isNone_iff_eq_none.mp hnone
  have hfails := Fails.receive hrun
  obtain ⟨evs, hlog, hiff⟩ := errno_named_iff (w := (tcpLine []).traced) (.newTcp _ _) hfails
  rw [hlog, show (tcpLine []).traced.log = [] from rfl, List.append_nil] at hfault hlater
  refine ⟨w', hfails, evs, hlog, hiff.mpr ⟨?_, ?_⟩⟩
  · exact Option.isSome_of_eq_some hfault
  · intro e he
    rw [show lastFailure (later (tcpLine []).traced.ctx evs w') = none from hlater] at he
    cases he

/-- An operating system whose clock moves on by a second each time, and a radio that stays
silent. -/
def silentOs : Os ℕ where
  gettimeofday d := (⟨.ofNat d, 0⟩, d + 1)

/-- A TCP connection on which a response with another transaction id than the first one is to be
read, with protocol recovery. -/
def tcpRecovering : World Line :=
  { tcpLine [0, 9, 0, 0, 1, 0, 0x90, 0] with
    ctx := ttaSetErrorRecovery errorRecoveryProtocol (tcpLine []).ctx }

/-- A response that does not match leaves the code of the flush in `errno`; and a receive that times
out on the radio leaves in `errno` whatever it was before. -/
theorem errno_not_named :
    ((ttaRequest lineOs.traced 1 poke).run tcpRecovering.traced).map
        (fun p => (p.1.isNone, fault tcpRecovering.ctx p.2.log p.2, p.2.errno)) =
      .ok (true, some .EMBBADDATA, .EAGAIN) ∧
      ∀ e ∈ [Errno.EPIPE, .EINVAL], ((ttaReceive silentOs 1 false).run
        ⟨ttaNewRf "/dev/spi" 1 2 3 4, e, List.Vector.replicate 128 0, 0, 0⟩).map
          (fun p => (p.1.isNone, p.2.errno)) = .ok (true, e) :=
  ⟨by decide +kernel, by decide +kernel⟩

end Libtta
