import Libtta.Trace.Device
import Libtta.Send.Packet

/-!
# The attempts of a call of `tta_send`

With link recovery a packet may be written to the device several times. `attempts` reads from the
log of a call which writes there were, what came of each, and whether the last poll behind it found
the transmitter empty. For the RS485 and the TCP backend the result of the call is a function of
these attempts: the loop of `_send_pkt` ends with the first attempt that the backend does not report
as `-1`, and a short count is an error (`exists_sendEnd`, `exists_sendPkt_of_ttaSend`).
-/

namespace Libtta

variable {σ : Type}

/-! ## Attempts -/

/-- A write to the device. -/
structure Attempt where
  bs : Bytes
  /-- The number of bytes that were accepted. -/
  res : Except Errno ℕ
  /-- Has the last poll found the transmitter empty? -/
  drained : Bool
  deriving DecidableEq

/-- What an event adds to the attempts, of which the most recent is the first. -/
def noteAttempt : Event → List Attempt → List Attempt
  | .write _ bs res, as => ⟨bs, res, false⟩ :: as
  | .txEmpty answer _, a :: as => { a with drained := answer } :: as
  | _, as => as

/-- The attempts in a log, the most recent first. -/
def attempts (log : List Event) : List Attempt := log.foldr noteAttempt []

/-- The events add exactly these attempts to every log. -/
def Attempts (evs : List Event) (as : List Attempt) : Prop :=
  ∀ log, attempts (evs ++ log) = as ++ attempts log

/-- The events are polls of the transmitter, the last of them with the answer `b`. -/
def Polls (evs : List Event) (b : Bool) : Prop :=
  ∀ log a as, attempts log = a :: as → attempts (evs ++ log) = { a with drained := b } :: as

/-- The attempts in the events themselves. -/
theorem Attempts.eq {evs : List Event} {as : List Attempt} (h : Attempts evs as) :
    attempts evs = as := by
  have hnil := h []
  rwa [List.append_nil, show attempts [] = [] from rfl, List.append_nil] at hnil

/-- Attempts behind one another. -/
theorem Attempts.append {evs evs' : List Event} {as as' : List Attempt} (h : Attempts evs as)
    (h' : Attempts evs' as') : Attempts (evs' ++ evs) (as' ++ as) := by
  intro log
  rw [List.append_assoc, h', h, List.append_assoc]

/-- A write is an attempt. -/
theorem attempts_write (fd : Int) (bs : Bytes) (res : Except Errno ℕ) :
    Attempts [.write fd bs res] [⟨bs, res, false⟩] := fun _ => rfl

/-- Calls that neither write nor poll are no attempts. -/
theorem attempts_of_kinds {evs : List Event}
    (h : ∀ e ∈ evs, e.kind ≠ .write ∧ e.kind ≠ .txEmpty) : Attempts evs [] := by
  intro log
  induction evs with
  | nil => rfl
  | cons e evs ih =>
    have hevs := ih fun e' he' => h e' (List.mem_cons_of_mem e he')
    obtain ⟨hwrite, hpoll⟩ := h e List.mem_cons_self
    change noteAttempt e (attempts (evs ++ log)) = attempts log
    rw [hevs, List.nil_append]
    cases e with
    | write => exact absurd rfl hwrite
    | txEmpty => exact absurd rfl hpoll
    | _ => rfl

/-- The attempts of an extended log, when the calls neither write nor poll. -/
theorem attempts_of_kinds_mem {evs : List Event} {K : List Kind} (h : ∀ e ∈ evs, e.kind ∈ K)
    (hwrite : .write ∉ K) (hpoll : .txEmpty ∉ K) : Attempts evs [] :=
  attempts_of_kinds fun e he =>
    ⟨fun hk => hwrite (hk ▸ h e he), fun hk => hpoll (hk ▸ h e he)⟩

/-- A poll. -/
theorem polls_txEmpty (b : Bool) (f : Option Errno) : Polls [.txEmpty b f] b := by
  intro log a as h
  change noteAttempt (.txEmpty b f) (attempts log) = _
  rw [h]
  rfl

/-- Of several polls the last one counts. -/
theorem Polls.append {evs evs' : List Event} {b b' : Bool} (h : Polls evs b) (h' : Polls evs' b') :
    Polls (evs' ++ evs) b' := by
  intro log a as hlog
  rw [List.append_assoc, h' _ _ _ (h log a as hlog)]

/-- Calls behind a poll that neither write nor poll. -/
theorem Polls.append_of_attempts {evs evs' : List Event} {b : Bool} (h : Polls evs b)
    (h' : Attempts evs' []) : Polls (evs' ++ evs) b := by
  intro log a as hlog
  rw [List.append_assoc, h', h log a as hlog, List.nil_append]

/-- The polls behind a write belong to it. -/
theorem Attempts.polls {evs evs' : List Event} {a : Attempt} {b : Bool} (h : Attempts evs [a])
    (h' : Polls evs' b) : Attempts (evs' ++ evs) [{ a with drained := b }] := by
  intro log
  rw [List.append_assoc, h' _ a (attempts log) (h log)]
  rfl

/-! ## One attempt -/

/-- The wait for an empty transmitter reports the answer of the last poll. -/
theorem adds_waitTxEmpty {os : Os σ} {fd : Int} {left : ℕ} {w w' : Traced σ} {b : Bool}
    (h : (waitTxEmpty os.traced fd left).run w = .ok (b, w')) :
    ∃ evs, Adds evs w w' ∧ Polls evs b := by
  induction left generalizing w with
  | zero =>
    obtain ⟨res, hadds⟩ := adds_sysAnswer (fun _ => rfl) h
    exact ⟨_, hadds, polls_txEmpty _ _⟩
  | succ left ih =>
    obtain ⟨b₁, w₁, h₁, h⟩ := Exec.run_bind_eq_ok.mp h
    obtain ⟨res, hadds₁⟩ := adds_sysAnswer (fun _ => rfl) h₁
    cases b₁ with
    | true =>
      cases h
      exact ⟨_, hadds₁, polls_txEmpty _ _⟩
    | false =>
      obtain ⟨r₂, w₂, h₂, h⟩ := Exec.run_bind_eq_ok.mp h
      obtain ⟨res₂, -, hadds₂⟩ := adds_sys (fun _ => rfl) h₂
      obtain ⟨evs, hadds, hpolls⟩ := ih h
      have hsleep : Attempts [.other (failureOf res₂)] [] :=
        attempts_of_kinds_mem (K := [.other]) (by simp [Event.kind]) (by decide) (by decide)
      exact ⟨_, (hadds₁.trans hadds₂).trans hadds,
        ((polls_txEmpty false _).append_of_attempts hsleep).append hpolls⟩

/-- What a write with the result `res` reports of a packet of `n` bytes. -/
def writeResult (n : ℕ) (res : Except Errno ℕ) : Option ℕ := res.toOption.map (min · n)

/-- What the backend reports of an attempt. With the default mode of the RTS line, the RS485 backend
reports a write that fails as 0, and one behind which the transmitter stays busy as `-1`. -/
def Backend.sendResult : Backend → Attempt → Option ℕ
  | rs485 ⟨_, _, .none, _⟩, a =>
    match a.res with
    | .error _ => some 0
    | .ok n => if a.drained then some (min n a.bs.length) else none
  | _, a => writeResult a.bs.length a.res

/-- A TCP connection reports what `send` does. -/
theorem sendResult_tcp (d : TtaTcp) (a : Attempt) :
    (Backend.tcp d).sendResult a = writeResult a.bs.length a.res := rfl

/-- The report of an RS485 backend with the default mode of the RTS line. -/
theorem sendResult_rs485_none (device : String) (serial : SerialSettings) (flag : Bool)
    (a : Attempt) :
    (Backend.rs485 ⟨device, serial, .none, flag⟩).sendResult a =
      match a.res with
      | .error _ => some 0
      | .ok n => if a.drained then some (min n a.bs.length) else none := rfl

/-- `write_uart` is one attempt. -/
theorem adds_writeUart {os : Os σ} {fd : Int} {buf : Bytes} {w w' : Traced σ} {r : Option ℕ}
    (h : (writeUart os.traced fd buf).run w = .ok (r, w')) :
    ∃ evs a, Adds evs w w' ∧ Attempts evs [a] ∧ a.bs = buf ∧
      r = match a.res with
        | .error _ => some 0
        | .ok n => if a.drained then some (min n a.bs.length) else none := by
  obtain ⟨r₁, w₁, h₁, h⟩ := Exec.run_bind_eq_ok.mp h
  obtain ⟨res₁, -, hadds₁⟩ := adds_sys (fun _ => rfl) h₁
  obtain ⟨r₂, w₂, h₂, h⟩ := Exec.run_bind_eq_ok.mp h
  obtain ⟨res₂, rfl, hadds₂⟩ := adds_sys (fun _ => rfl) h₂
  have hset : Attempts [.rts fd true (failureOf res₁)] [] :=
    attempts_of_kinds_mem (K := [.rts]) (by simp [Event.kind]) (by decide) (by decide)
  have hwrite := hset.append (attempts_write fd buf res₂)
  cases res₂ with
  | error e =>
    cases h
    exact ⟨_, _, hadds₁.trans hadds₂, hwrite, rfl, rfl⟩
  | ok n =>
    obtain ⟨drained, w₃, h₃, h⟩ := Exec.run_bind_eq_ok.mp h
    obtain ⟨evs₃, hadds₃, hpolls⟩ := adds_waitTxEmpty h₃
    obtain ⟨r₄, w₄, h₄, h⟩ := Exec.run_bind_eq_ok.mp h
    obtain ⟨res₄, -, hadds₄⟩ := adds_sys (fun _ => rfl) h₄
    cases h
    have hclear : Attempts [.rts fd false (failureOf res₄)] [] :=
      attempts_of_kinds_mem (K := [.rts]) (by simp [Event.kind]) (by decide) (by decide)
    exact ⟨_, _, ((hadds₁.trans hadds₂).trans hadds₃).trans hadds₄,
      (hwrite.polls hpolls).append hclear, rfl, rfl⟩

/-- The write between two switches of the RTS line is one attempt. -/
theorem adds_drivenSend {os : Os σ} {fd : Int} {pkt : Bytes} (rts : Rts) {w w' : Traced σ}
    {r : Option ℕ}
    (h : (do
      ttaRs485IoctlRts os.traced fd (rts = .up)
      let _ ← sys (os.traced.usleep 10000)
      let size ← sys (os.traced.write fd pkt)
      let _ ← sys (os.traced.usleep 10000)
      ttaRs485IoctlRts os.traced fd (rts ≠ .up)
      return size.map (min · pkt.length) : Machine (σ × List Event) (Option ℕ)).run w =
        .ok (r, w')) :
    ∃ evs a, Adds evs w w' ∧ Attempts evs [a] ∧ a.bs = pkt ∧ r = writeResult pkt.length a.res := by
  have hdrive {on : Bool} {w w' : Traced σ} {u : Unit}
      (h : (ttaRs485IoctlRts os.traced fd on).run w = .ok (u, w')) :
      ∃ evs, Adds evs w w' ∧ Attempts evs [] := by
    obtain ⟨evs, hadds, hevs⟩ := quiet_ttaRs485IoctlRts os fd on w u w' h
    exact ⟨evs, hadds, attempts_of_kinds_mem hevs (by decide) (by decide)⟩
  have hsleep (f : Option Errno) : Attempts [.other f] [] :=
    attempts_of_kinds_mem (K := [.other]) (by simp [Event.kind]) (by decide) (by decide)
  obtain ⟨u₁, w₁, h₁, h⟩ := Exec.run_bind_eq_ok.mp h
  obtain ⟨evs₁, hadds₁, hnone₁⟩ := hdrive h₁
  obtain ⟨r₂, w₂, h₂, h⟩ := Exec.run_bind_eq_ok.mp h
  obtain ⟨res₂, -, hadds₂⟩ := adds_sys (fun _ => rfl) h₂
  obtain ⟨r₃, w₃, h₃, h⟩ := Exec.run_bind_eq_ok.mp h
  obtain ⟨res₃, rfl, hadds₃⟩ := adds_sys (fun _ => rfl) h₃
  obtain ⟨r₄, w₄, h₄, h⟩ := Exec.run_bind_eq_ok.mp h
  obtain ⟨res₄, -, hadds₄⟩ := adds_sys (fun _ => rfl) h₄
  obtain ⟨u₅, w₅, h₅, h⟩ := Exec.run_bind_eq_ok.mp h
  obtain ⟨evs₅, hadds₅, hnone₅⟩ := hdrive h₅
  cases h
  exact ⟨_, _, (((hadds₁.trans hadds₂).trans hadds₃).trans hadds₄).trans hadds₅,
    (((hnone₁.append (hsleep _)).append (attempts_write fd pkt res₃)).append (hsleep _)).append
      hnone₅, rfl, rfl⟩

/-- The send functions of the RS485 and the TCP backend make one attempt. -/
theorem adds_backendSend {os : Os σ} {fuel : ℕ} {pkt : Bytes} {w w' : Traced σ} {r : Option ℕ}
    (hrf : w.ctx.type ≠ .rf) (h : (backendSend os.traced fuel pkt).run w = .ok (r, w')) :
    ∃ evs a, Adds evs w w' ∧ Attempts evs [a] ∧ a.bs = pkt ∧
      r = w.ctx.backend.sendResult a := by
  unfold backendSend at h
  rw [Exec.run_bind_of_ok (run_getCtx w)] at h
  cases hbe : w.ctx.backend with
  | rf d => exact absurd (congrArg Backend.type hbe) hrf
  | tcp d =>
    rw [hbe] at h
    obtain ⟨r₁, w₁, h₁, h⟩ := Exec.run_bind_eq_ok.mp h
    obtain ⟨res₁, rfl, hadds₁⟩ := adds_sys (fun _ => rfl) h₁
    cases h
    exact ⟨_, _, hadds₁, attempts_write _ pkt res₁, rfl, rfl⟩
  | rs485 d =>
    rw [hbe] at h
    obtain ⟨device, serial, rts, flag⟩ := d
    change (ttaRs485Send os.traced ⟨device, serial, rts, flag⟩ w.ctx.s pkt).run w = _ at h
    rw [ttaRs485Send] at h
    cases rts with
    | none => exact adds_writeUart h
    | up =>
      obtain ⟨evs, a, hadds, hone, rfl, hr⟩ := adds_drivenSend .up h
      exact ⟨evs, a, hadds, hone, rfl, hr⟩
    | down =>
      obtain ⟨evs, a, hadds, hone, rfl, hr⟩ := adds_drivenSend .down h
      exact ⟨evs, a, hadds, hone, rfl, hr⟩

/-! ## The loop -/

/-- How the loop of `_send_pkt` ends after the attempts `a :: as`, of which `a` is the last: the
backend reports `r` for it, and has reported `-1` for the others; without link recovery there are no
others. -/
structure LoopEnd (be : Backend) (link : Bool) (pkt : Bytes) (r : Option ℕ) (a : Attempt)
    (as : List Attempt) : Prop where
  bytes : ∀ a' ∈ a :: as, a'.bs = pkt
  result : r = be.sendResult a
  earlier : ∀ a' ∈ as, be.sendResult a' = none
  single : link = false → as = []
  repeats : link = true → r ≠ none

/-- The loop makes attempts until the backend does not report `-1`, or only one. A loop that reports
`-1` has made nothing but the calls of one attempt. -/
theorem exists_attempts_of_sendLoop {os : Os σ} {fuel : ℕ} {pkt : Bytes} {rounds : ℕ}
    {w w' : Traced σ} {r : Option ℕ} (hrf : w.ctx.type ≠ .rf)
    (h : (sendLoop os.traced fuel pkt rounds).run w = .ok (r, w')) :
    ∃ evs a as, w'.log = evs ++ w.log ∧ w.ctx.Relinked w'.ctx ∧
      Attempts evs (a :: as) ∧ LoopEnd w.ctx.backend w.ctx.recoversLink pkt r a as ∧
      (r = none → Adds evs w w') := by
  induction rounds generalizing w with
  | zero => cases h
  | succ rounds ih =>
    unfold sendLoop at h
    obtain ⟨r₁, w₁, h₁, h⟩ := Exec.run_bind_eq_ok.mp h
    obtain ⟨evs₁, a, hadds₁, hone, hbs, hr₁⟩ := adds_backendSend hrf h₁
    have hbytes : ∀ a' ∈ [a], a'.bs = pkt := by simpa using hbs
    cases r₁ with
    | some n =>
      cases h
      exact ⟨evs₁, a, [], hadds₁.log, .of_eq hadds₁.ctx, hone,
        ⟨hbytes, hr₁, by simp, fun _ => rfl, fun _ => by simp⟩, by simp⟩
    | none =>
      replace h := (Exec.run_bind_of_ok (run_getCtx w₁)).symm.trans h
      rw [hadds₁.ctx] at h
      cases hlink : w.ctx.recoversLink with
      | false =>
        rw [hlink] at h
        cases h
        exact ⟨evs₁, a, [], hadds₁.log, .of_eq hadds₁.ctx, hone,
          ⟨hbytes, hr₁, by simp, fun _ => rfl, by simp⟩, fun _ => hadds₁⟩
      | true =>
        rw [hlink] at h
        obtain ⟨u, w₂, h₂, h⟩ := Exec.run_bind_eq_ok.mp h
        have hext := extends_sendRecovery os fuel _ _ _ h₂
        obtain ⟨evs₂, hlog₂, hevs₂⟩ := hext.log
        have hnone₂ : Attempts evs₂ [] := attempts_of_kinds_mem hevs₂ (by decide) (by decide)
        have hctx₂ : w.ctx.Relinked w₂.ctx := hadds₁.ctx ▸ hext.ctx
        obtain ⟨evs, b, as, hlog, hctx, hall, hend, -⟩ := ih (hctx₂.type.trans_ne hrf) h
        rw [hctx₂.backend, hctx₂.recoversLink] at hend
        have hr : r ≠ none := hend.repeats hlink
        refine ⟨evs ++ (evs₂ ++ evs₁), b, as ++ [a], ?_, hctx₂.trans hctx, ?_,
          ⟨?_, hend.result, ?_, by simp,
          fun _ => hr⟩, fun hnone => absurd hnone hr⟩
        · rw [hlog, hlog₂, hadds₁.log]
          simp only [List.append_assoc]
        · have hattempts := (hone.append hnone₂).append hall
          rwa [List.nil_append] at hattempts
        · intro a' ha'
          rcases List.mem_append.mp (List.cons_append ▸ ha' : a' ∈ (b :: as) ++ [a]) with hm | hm
          · exact hend.bytes a' hm
          · exact hbytes a' hm
        · intro a' ha'
          rcases List.mem_append.mp ha' with hm | hm
          · exact hend.earlier a' hm
          · rw [List.mem_singleton.mp hm]
            exact hr₁.symm

/-- What `_send_pkt` makes of the result of its loop for a packet of `n` bytes: a short count is an
error. -/
def sendPktResult (n : ℕ) (r : Option ℕ) : Option ℕ := r.filter fun k => k = 0 ∨ k = n

/-- Success is reported for a count of nothing or of everything. -/
theorem isSome_sendPktResult {n k : ℕ} : (sendPktResult n (some k)).isSome ↔ k = 0 ∨ k = n := by
  rw [sendPktResult, Option.filter_some]
  by_cases h : k = 0 ∨ k = n
  · rw [if_pos (by simpa using h)]
    exact iff_of_true rfl h
  · rw [if_neg (by simpa using h)]
    exact iff_of_false (by simp) h

/-- What a call of `_send_pkt` has done with the packet `pkt`: it has made the attempts `a :: as`,
and unless the last of them was short, the failure that is reported is the last one in the log. -/
structure SendEnd (pkt : Bytes) (w : Traced σ) (evs : List Event) (a : Attempt) (as : List Attempt)
    (r : Option ℕ) (w' : Traced σ) : Prop where
  log : w'.log = evs ++ w.log
  ctx : w.ctx.Relinked w'.ctx
  attempts : Attempts evs (a :: as)
  loop : LoopEnd w.ctx.backend w.ctx.recoversLink pkt (w.ctx.backend.sendResult a) a as
  result : r = sendPktResult pkt.length (w.ctx.backend.sendResult a)
  failed : w.ctx.backend.sendResult a = none → w'.errno = (lastFailure evs).getD w.errno
  short : r = none → w.ctx.backend.sendResult a ≠ none → w'.errno = .EMBBADDATA

/-- A call of `_send_pkt` makes attempts to send the packet. -/
theorem exists_sendEnd {os : Os σ} {fuel : ℕ} {pkt : Bytes} {w w' : Traced σ} {r : Option ℕ}
    (hrf : w.ctx.type ≠ .rf) (h : (sendPkt os.traced fuel pkt).run w = .ok (r, w')) :
    ∃ evs a as, SendEnd pkt w evs a as r w' := by
  obtain ⟨r₁, w₁, h₁, h⟩ := Exec.run_bind_eq_ok.mp h
  obtain ⟨evs, a, as, hlog, hctx, hattempts, hloop, hadds⟩ :=
    exists_attempts_of_sendLoop hrf h₁
  obtain rfl := hloop.result
  refine ⟨evs, a, as, ?_⟩
  cases hr : w.ctx.backend.sendResult a with
  | none =>
    rw [hr] at h
    cases h
    exact ⟨hlog, hctx, hattempts, hloop, by rw [hr]; rfl, fun _ => (hadds hr).errno,
      fun _ hne => absurd hr hne⟩
  | some n =>
    rw [hr] at h
    change StateT.run (if 0 < n ∧ n ≠ pkt.length then _ else _) w₁ = _ at h
    have hfilter : sendPktResult pkt.length (some n) =
        if 0 < n ∧ n ≠ pkt.length then none else some n := by
      rw [sendPktResult, Option.filter_some]
      by_cases hshort : 0 < n ∧ n ≠ pkt.length
      · rw [if_pos hshort, if_neg (by simp; omega)]
      · rw [if_neg hshort, if_pos (by simp; omega)]
    by_cases hshort : 0 < n ∧ n ≠ pkt.length
    · rw [if_pos hshort] at h hfilter
      cases h
      exact ⟨hlog, hctx, hattempts, hloop, by rw [hr, hfilter], by simp [hr], fun _ _ => rfl⟩
    · rw [if_neg hshort] at h hfilter
      cases h
      exact ⟨hlog, hctx, hattempts, hloop, by rw [hr, hfilter], by simp [hr], by simp⟩

/-- The packet of a message is built without any call that is recorded. -/
theorem run_buildPkt_traced {os : Os σ} {m : Ttamsg} {w w₁ w₂ : Traced σ} {buf : Bytes}
    {r : Bytes × ℕ} (h₁ : (uninit os.traced maxMessageLength).run w = .ok (buf, w₁))
    (h₂ : (convTtamsg2pkt m buf).run w₁ = .ok (r, w₂)) :
    w₂ = { w with ctx := w.ctx.stepped, dev := w₂.dev } ∧ w₂.log = w.log ∧
      r.1.take r.2 = w.ctx.backend.frame m ∧ w.ctx.backend.frame m <+: r.1 := by
  obtain ⟨hadds₁, -⟩ := adds_uninit h₁
  obtain ⟨-, hw₂, hpre, hlen, -⟩ := run_convTtamsg2pkt_eq_ok h₂
  rw [hadds₁.ctx] at hw₂ hpre hlen
  refine ⟨?_, ?_, ?_, hpre⟩
  · rw [hw₂, hadds₁.errno, hadds₁.rxfifo, hadds₁.rxfifoPos]
    rfl
  · rw [hw₂]
    exact hadds₁.log
  · rw [hlen]
    exact Backend.take_of_frame_prefix hpre

/-- `tta_send` sends the frame of the message. -/
theorem exists_sendPkt_of_ttaSend {os : Os σ} {fuel : ℕ} {m : Ttamsg} {w w' : Traced σ}
    {r : Option ℕ} (h : (ttaSend os.traced fuel m).run w = .ok (r, w')) :
    ∃ w₁, w₁ = { w with ctx := w.ctx.stepped, dev := w₁.dev } ∧ w₁.log = w.log ∧
      (sendPkt os.traced fuel (w.ctx.backend.frame m)).run w₁ = .ok (r, w') := by
  obtain ⟨buf, w₁, h₁, h⟩ := Exec.run_bind_eq_ok.mp h
  obtain ⟨⟨pkt, len⟩, w₂, h₂, h⟩ := Exec.run_bind_eq_ok.mp h
  obtain ⟨hw₂, hlog, htake, -⟩ := run_buildPkt_traced h₁ h₂
  rw [← htake]
  exact ⟨w₂, hw₂, hlog, h⟩

/-- A step of the transaction counter does not change what the backend reports. -/
@[simp] theorem Backend.sendResult_stepped (be : Backend) (a : Attempt) :
    be.stepped.sendResult a = be.sendResult a := by
  cases be <;> rfl

end Libtta
