import Libtta.Receive.Checksum
import Libtta.Receive.Exits
import Libtta.Send.Attempts

/-!
# What the link recovery of a send depends on

`_send_pkt` chooses its recovery by `errno`. Where the backend reports `-1` and none of its calls
has failed, `errno` is what it was before the call: `SilentFailure` says that the first attempt of a
call ends so. `SameRecoveries` says that two calls which differ in `errno` only take the same steps,
and `sameRecoveries_iff` that they do unless the first attempt fails silently.
-/

namespace Libtta

variable {σ α : Type}

/-! ## Runs that differ in `errno` -/

/-- The states differ in `errno` at most. -/
def UpToErrno (w w' : World σ) : Prop := w' = { w with errno := w'.errno }

/-- A step with one of the effects of sending does not look at `errno`. -/
theorem respects_of_does {os : Os σ} {k : Effect} {x : Machine σ α} (h : os.Does k x)
    (hk : k ∈ backendSendEffects) : Exec.Respects UpToErrno x := by
  have hask {α : Type} (call : σ → α × σ) : Exec.Respects UpToErrno (ask call) := by
    intro w w' hw
    rw [hw]
    exact .ok (call w.dev).1 rfl
  have hsys {α : Type} (call : σ → Except Errno α × σ) : Exec.Respects UpToErrno (sys call) := by
    intro w w' hw
    obtain ⟨e, hrun⟩ := exists_run_sys call w
    obtain ⟨e', hrun'⟩ := exists_run_sys call { w with errno := w'.errno }
    rw [hw, hrun, hrun']
    exact .ok _ rfl
  have hanswer {α : Type} (call : σ → (α × Except Errno Unit) × σ) :
      Exec.Respects UpToErrno (sysAnswer call) := by
    intro w w' hw
    obtain ⟨e, hrun⟩ := exists_run_sysAnswer call w
    obtain ⟨e', hrun'⟩ := exists_run_sysAnswer call { w with errno := w'.errno }
    rw [hw, hrun, hrun']
    exact .ok _ rfl
  cases h with
  | garbage | gettimeofday => exact hask _
  | txEmpty | modemGet | readReg => exact hanswer _
  | write | rtsSet | rtsClear | modemSet | usleep | strobe | fifoWrite => exact hsys _
  | _ => exact absurd hk (by decide)

/-- No attempt looks at `errno`. -/
theorem respects_backendSend (os : Os σ) (fuel : ℕ) (pkt : Bytes) :
    Exec.Respects UpToErrno (backendSend os fuel pkt) := by
  have huses : os.Uses backendSendEffects (fun _ => True) (fun _ => True)
      (backendSend os fuel pkt) :=
    uses_backendSend fuel pkt (List.Subset.refl _) fun _ _ => trivial
  intro w w' hw
  refine huses.respects (fun hx s s' _ _ => ?_) (fun hview s s' hs => ?_) w w' trivial trivial hw
  · rcases hx with ⟨hk, hdoes⟩ | ⟨_, hk, -⟩
    · exact respects_of_does hdoes hk s s'
    · exact absurd hk (by decide)
  · rcases hview with _ | hk
    · rw [hs]
    · exact absurd hk (by decide)

/-! ## The steps of a call -/

/-- The first rounds of the loop of `_send_pkt`: nothing is returned when it goes on behind them. -/
def sendRounds (os : Os σ) (fuel : ℕ) (pkt : Bytes) : ℕ → Machine σ (Option (Option ℕ))
  | 0 => return none
  | rounds + 1 => do
    match ← backendSend os fuel pkt with
    | some n => return some (some n)
    | none =>
      if (← getCtx).recoversLink then
        sendRecovery os fuel
        sendRounds os fuel pkt rounds
      else
        return some none

/-- The first rounds of `tta_send`. -/
def ttaSendRounds (os : Os σ) (fuel : ℕ) (m : Ttamsg) (rounds : ℕ) :
    Machine σ (Option (Option ℕ)) := do
  let buf ← uninit os maxMessageLength
  let (buf, buflen) ← convTtamsg2pkt m buf
  sendRounds os fuel (buf.take buflen) rounds

/-- The loop of `_send_pkt` makes its rounds, and stops when it would go on behind them. -/
theorem run_sendLoop_eq (os : Os σ) (fuel : ℕ) (pkt : Bytes) (rounds : ℕ) (w : World σ) :
    (sendLoop os fuel pkt rounds).run w = (do
      match ← sendRounds os fuel pkt rounds with
      | some r => return r
      | none => Exec.stop .fuel : Machine σ (Option ℕ)).run w := by
  induction rounds generalizing w with
  | zero => rfl
  | succ rounds ih =>
    rw [sendLoop, sendRounds, bind_assoc]
    rcases hsend : (backendSend os fuel pkt).run w with e | ⟨_ | n, w₁⟩
    · rw [Exec.run_bind_of_error hsend, Exec.run_bind_of_error hsend]
    · rw [Exec.run_bind_of_ok hsend, Exec.run_bind_of_ok hsend]
      dsimp only
      rw [bind_assoc, Exec.run_bind_of_ok (run_getCtx w₁), Exec.run_bind_of_ok (run_getCtx w₁)]
      by_cases hlink : w₁.ctx.recoversLink = true
      · rw [if_pos hlink, if_pos hlink, bind_assoc]
        rcases hrec : (sendRecovery os fuel).run w₁ with e | ⟨⟨⟩, w₂⟩
        · rw [Exec.run_bind_of_error hrec, Exec.run_bind_of_error hrec]
        · rw [Exec.run_bind_of_ok hrec, Exec.run_bind_of_ok hrec]
          exact ih w₂
      · rw [if_neg hlink, if_neg hlink]
        rfl
    · rw [Exec.run_bind_of_ok hsend, Exec.run_bind_of_ok hsend]
      rfl

/-- Two calls of `tta_send` from states that differ in `errno` only make the same calls, in every
number of rounds. -/
def SameRecoveries (os : Os σ) (fuel : ℕ) (m : Ttamsg) (w : World σ) : Prop :=
  ∀ e e' rounds,
    ((ttaSendRounds os.traced fuel m rounds).run { w.traced with errno := e }).map
        (fun r => (r.1, r.2.log)) =
      ((ttaSendRounds os.traced fuel m rounds).run { w.traced with errno := e' }).map
        (fun r => (r.1, r.2.log))

/-- The state before the first attempt of a call. -/
def World.beforeSend (os : Os σ) (w : World σ) : World σ :=
  { w with ctx := w.ctx.stepped, dev := (os.garbage w.dev).2 }

/-- The frame of the message fits the buffer, and the first attempt to send it reports `-1` although
none of its calls fails. -/
def SilentFailure (os : Os σ) (fuel : ℕ) (m : Ttamsg) (w : World σ) : Prop :=
  m.frameLength w.ctx.type ≤ maxMessageLength ∧
    ∃ w', (backendSend os.traced fuel (w.ctx.backend.frame m)).run (w.beforeSend os).traced =
        .ok (none, w') ∧ ∀ ev ∈ w'.log, ev.failure = none

/-! ## The first attempt decides -/

section Decides

variable {os : Os σ} {fuel : ℕ} {pkt : Bytes}

/-- No call has failed. -/
theorem lastFailure_eq_none_iff {evs : List Event} :
    lastFailure evs = none ↔ ∀ ev ∈ evs, ev.failure = none :=
  List.findSome?_eq_none_iff

/-- The first attempt leaves the code of its last failure in `errno`. -/
theorem errno_of_backendSend {w w' : Traced σ} {r : Option ℕ} (hlog : w.log = [])
    (h : (backendSend os.traced fuel pkt).run w = .ok (r, w')) :
    w'.errno = (lastFailure w'.log).getD w.errno ∧ w'.ctx = w.ctx := by
  obtain ⟨evs, hadds, -⟩ := quiet_backendSend os fuel pkt w r w' h
  rw [hadds.errno, hadds.log, hlog, List.append_nil]
  exact ⟨rfl, hadds.ctx⟩

/-- Calls from states that differ in `errno` only make the same rounds, when a first attempt that
reports `-1` has a call that fails. -/
theorem sendRounds_eq_of_failure {w : Traced σ} (hlog : w.log = [])
    (hfails : ∀ w', (backendSend os.traced fuel pkt).run w = .ok (none, w') →
      lastFailure w'.log ≠ none) (e e' : Errno) (rounds : ℕ) :
    ((sendRounds os.traced fuel pkt rounds).run { w with errno := e }).map
        (fun r => (r.1, r.2.log)) =
      ((sendRounds os.traced fuel pkt rounds).run { w with errno := e' }).map
        (fun r => (r.1, r.2.log)) := by
  rcases rounds with _ | rounds
  · rfl
  have hstart := respects_backendSend os.traced fuel pkt { w with errno := e } w rfl
  have halike := respects_backendSend os.traced fuel pkt { w with errno := e }
    { w with errno := e' } rfl
  rw [sendRounds]
  rcases hx : (backendSend os.traced fuel pkt).run { w with errno := e } with stop | ⟨r, w₁⟩
  · rw [hx] at halike
    generalize hx' : (backendSend os.traced fuel pkt).run { w with errno := e' } = x' at halike
    rcases halike with _ | _
    rw [Exec.run_bind_of_error hx, Exec.run_bind_of_error hx']
  · rw [hx] at halike hstart
    generalize hx' : (backendSend os.traced fuel pkt).run { w with errno := e' } = x' at halike
    generalize hy : (backendSend os.traced fuel pkt).run w = y at hstart
    rcases halike with @⟨_, _, w₁', hw₁'⟩ | _
    rcases hstart with @⟨_, _, w₂, hw₂⟩ | _
    have hlog' : w₁'.log = w₁.log := by rw [hw₁']; rfl
    rw [Exec.run_bind_of_ok hx, Exec.run_bind_of_ok hx']
    rcases r with _ | n
    · have hfail : lastFailure w₁.log ≠ none := by
        have h := hfails w₂ hy
        rw [hw₂] at h
        exact h
      obtain ⟨code, hcode⟩ := Option.ne_none_iff_exists'.mp hfail
      have herrno := (errno_of_backendSend (w := { w with errno := e }) hlog hx).1
      have herrno' := (errno_of_backendSend (w := { w with errno := e' }) hlog hx').1
      rw [hcode, Option.getD_some] at herrno
      rw [hlog', hcode, Option.getD_some] at herrno'
      have hsame : w₁' = w₁ := by
        rw [hw₁', herrno', ← herrno]
      rw [hsame]
    · exact congrArg (fun l => Except.ok (some (some n), l)) hlog'.symm

/-- Closing and connecting begins with a call that is none of those of `_sleep_and_flush`, but on a
TCP connection. -/
theorem exists_first_of_reconnect {w w₁ w' : Traced σ} {u : Unit} {r : Option Unit}
    (htcp : w.ctx.type ≠ .tcp) (h₁ : (ttaClose os.traced).run w = .ok (u, w₁))
    (h : (ttaConnect os.traced fuel).run w₁ = .ok (r, w')) :
    ∃ evs ev, w'.log = evs ++ ev :: w.log ∧ (ev.kind = .setup ∨ ev.kind = .opened) := by
  unfold ttaClose at h₁
  rw [Exec.run_bind_of_ok (run_getCtx w)] at h₁
  rcases hbe : w.ctx.backend with d | d | d
  · exact absurd (congrArg Backend.type hbe) htcp
  · rw [hbe] at h₁
    obtain ⟨r₂, w₂, h₂, h₁⟩ := Exec.run_bind_eq_ok.mp h₁
    obtain ⟨res₂, -, hadds₂⟩ := adds_sys (fun _ => by exact failureOf_map _ _) h₂
    obtain ⟨r₃, w₃, h₃, h₁⟩ := Exec.run_bind_eq_ok.mp h₁
    obtain ⟨res₃, -, hadds₃⟩ := adds_sys (fun _ => by rfl) h₃
    cases h₁
    obtain ⟨evs, hlog, -⟩ := (extends_ttaConnect os fuel w₁ r w' h).log
    refine ⟨evs ++ [.close w.ctx.s (failureOf res₃)], .setup (res₂.map fun _ => true), ?_, .inl rfl⟩
    rw [hlog, hadds₃.log, hadds₂.log, List.append_assoc]
    rfl
  · rw [hbe] at h₁
    cases h₁
    unfold ttaConnect at h
    rw [Exec.run_bind_of_ok (run_getCtx w), hbe] at h
    obtain ⟨r₂, w₂, h₂, h⟩ := Exec.run_bind_eq_ok.mp h
    obtain ⟨res₂, -, hadds₂⟩ := adds_sys (fun _ => by rfl) h₂
    have hextends : Extends connectKinds w₂ w' := by
      refine extends_of_uses (by decide)
        (show os.traced.Uses connectEffects (fun _ => True) (fun _ => True) _ from ?_) w₂ r w' h
      refine (uses_step (.setSocket _) (by decide)).bind fun _ => ?_
      cases r₂ with
      | none => exact .pure _
      | some fd => exact uses_rfSetup fuel fd (by decide) trivial
    obtain ⟨evs, hlog, -⟩ := hextends.log
    exact ⟨evs, _, by rw [hlog, hadds₂.log]; rfl, .inr rfl⟩

/-- `_sleep_and_flush` returns, but on a TCP connection. -/
theorem exists_run_sleepAndFlush (os : Os σ) (fuel : ℕ) {w : World σ} (htcp : w.ctx.type ≠ .tcp) :
    ∃ w', (sleepAndFlush os fuel).run w = .ok ((), w') := by
  obtain ⟨e, hsleep⟩ := exists_run_sys (os.nanosleep w.ctx.responseTimeout.request) w
  set w₁ : World σ :=
    { w with dev := (os.nanosleep w.ctx.responseTimeout.request w.dev).2, errno := e }
  obtain ⟨r, w', hflush⟩ := exists_run_ttaFlush os fuel (w := w₁) htcp
  unfold sleepAndFlush
  rw [Exec.run_bind_of_ok (run_getCtx w), Exec.run_bind_of_ok hsleep]
  exact ⟨w', (Exec.run_bind_of_ok hflush).trans rfl⟩

/-- The recovery of a send goes by the code in `errno`, and keeps it. -/
theorem run_sendRecovery (os : Os σ) (fuel : ℕ) (w : World σ) :
    (sendRecovery os fuel).run w =
      (if w.errno = .EBADF ∨ w.errno = .ECONNRESET ∨ w.errno = .EPIPE then do
        ttaClose os
        let _ ← ttaConnect os fuel
        setErrno w.errno
      else do
        sleepAndFlush os fuel
        setErrno w.errno : Machine σ Unit).run w := by
  have hget : (get : Machine σ (World σ)).run w = .ok (w, w) := rfl
  exact Exec.run_bind_of_ok hget

/-- A silent failure makes the difference: with `EBADF` left in `errno` the link is closed and
connected again, with any other code the device is flushed. -/
theorem sendRounds_ne_of_silent {w w' : Traced σ} (htcp : w.ctx.type ≠ .tcp)
    (hlink : w.ctx.recoversLink = true) (hlog : w.log = [])
    (h : (backendSend os.traced fuel pkt).run w = .ok (none, w'))
    (hsilent : lastFailure w'.log = none) :
    ((sendRounds os.traced fuel pkt 1).run { w with errno := .EBADF }).map
        (fun r => (r.1, r.2.log)) ≠
      ((sendRounds os.traced fuel pkt 1).run { w with errno := .other 0 }).map
        (fun r => (r.1, r.2.log)) := by
  have hattempt (e : Errno) : (backendSend os.traced fuel pkt).run { w with errno := e } =
      .ok (none, { w' with errno := e }) := by
    have halike := respects_backendSend os.traced fuel pkt w { w with errno := e } rfl
    generalize hx : (backendSend os.traced fuel pkt).run { w with errno := e } = x at halike
    rw [h] at halike
    rcases halike with @⟨_, _, w₁, hw₁⟩ | _
    obtain ⟨herrno, -⟩ := errno_of_backendSend (w := { w with errno := e }) hlog hx
    have hlog₁ : w₁.log = w'.log := by
      rw [hw₁]
      rfl
    rw [hlog₁, hsilent, Option.getD_none] at herrno
    rw [hw₁, herrno]
  have hctx : w'.ctx = w.ctx := (errno_of_backendSend hlog h).2
  have hround (e : Errno) : (sendRounds os.traced fuel pkt 1).run { w with errno := e } = (do
      sendRecovery os.traced fuel
      return none : Machine (σ × List Event) (Option (Option ℕ))).run { w' with errno := e } := by
    rw [sendRounds, Exec.run_bind_of_ok (hattempt e)]
    refine (Exec.run_bind_of_ok (run_getCtx _)).trans ?_
    exact congrArg (fun x => StateT.run x _) (if_pos (hctx ▸ hlink))
  obtain ⟨w₁, hdrain⟩ := exists_run_sleepAndFlush os.traced fuel
    (w := { w' with errno := .other 0 }) (hctx.symm ▸ htcp)
  obtain ⟨evs, failure, hadds, -⟩ := adds_sleepAndFlush hdrain
  intro heq
  rw [hround, hround, Exec.run_bind_congr (run_sendRecovery os.traced fuel _),
    Exec.run_bind_congr (run_sendRecovery os.traced fuel { w' with errno := .other 0 }),
    if_pos (.inl rfl), if_neg (by simp)] at heq
  replace heq := heq.trans (congrArg (Except.map _)
    ((Exec.run_bind_of_ok ((Exec.run_bind_of_ok hdrain).trans rfl)).trans rfl))
  obtain ⟨⟨r, w₂⟩, hrun, hlog₂⟩ := Exec.exists_of_map_eq_ok heq
  obtain ⟨u₃, w₃, h₃, h₄⟩ := Exec.run_bind_eq_ok.mp hrun
  cases h₄
  obtain ⟨u₅, w₅, h₅, h₆⟩ := Exec.run_bind_eq_ok.mp h₃
  obtain ⟨u₇, w₇, h₇, h₈⟩ := Exec.run_bind_eq_ok.mp h₆
  cases h₈
  obtain ⟨evs', ev, hlog₇, hkind⟩ := exists_first_of_reconnect (hctx.symm ▸ htcp) h₅ h₇
  -- the first calls behind the attempt are of different kinds
  have hlogs : evs' ++ [ev] ++ w'.log = evs ++ [.other failure] ++ w'.log := by
    rw [List.append_assoc]
    exact hlog₇.symm.trans ((congrArg Prod.snd hlog₂).trans hadds.log)
  have hfirst : [ev] = [.other failure] :=
    (List.append_inj' (List.append_cancel_right hlogs) rfl).2
  rw [List.singleton_inj.mp hfirst] at hkind
  rcases hkind with h | h
  · cases h
  · cases h

end Decides

/-! ## Which calls recover alike -/

/-- An attempt whose write has failed is in a log with a failure. -/
theorem exists_failure_of_attempt {log : List Event} {a : Attempt} (ha : a ∈ attempts log)
    {e : Errno} (hres : a.res = .error e) : ∃ ev ∈ log, ev.failure ≠ none := by
  induction log generalizing a with
  | nil => cases ha
  | cons ev log ih =>
    have hlater (a' : Attempt) (ha' : a' ∈ attempts log) (hres' : a'.res = .error e) :
        ∃ ev' ∈ ev :: log, ev'.failure ≠ none := by
      obtain ⟨ev', hmem, hfail⟩ := ih ha' hres'
      exact ⟨ev', List.mem_cons_of_mem ev hmem, hfail⟩
    change a ∈ noteAttempt ev (attempts log) at ha
    cases ev with
    | write fd bs res =>
      rcases List.mem_cons.mp ha with rfl | ha
      · refine ⟨.write fd bs res, List.mem_cons_self, ?_⟩
        rw [show res = .error e from hres]
        exact Option.some_ne_none e
      · exact hlater a ha hres
    | txEmpty answer failure =>
      rcases hattempts : attempts log with _ | ⟨a', as⟩
      · rw [hattempts] at ha
        cases ha
      · rw [hattempts] at ha hlater
        rcases List.mem_cons.mp ha with rfl | ha
        · exact hlater a' List.mem_cons_self hres
        · exact hlater a (List.mem_cons_of_mem a' ha) hres
    | _ => exact hlater a ha hres

/-- Only a transmitter that stays busy and a radio that does not send can fail silently. -/
theorem backend_of_silentFailure {os : Os σ} {fuel : ℕ} {m : Ttamsg} {w : World σ}
    (h : SilentFailure os fuel m w) :
    w.ctx.type = .rf ∨
      ∃ device serial flag, w.ctx.backend = .rs485 ⟨device, serial, .none, flag⟩ := by
  obtain ⟨-, w', hrun, hsilent⟩ := h
  by_cases hrf : w.ctx.type = .rf
  · exact .inl hrf
  have hrf' : (w.beforeSend os).traced.ctx.type ≠ .rf := by
    rw [show (w.beforeSend os).traced.ctx.type = w.ctx.type from w.ctx.type_stepped]
    exact hrf
  obtain ⟨evs, a, hadds, hattempts, -, hres⟩ := adds_backendSend hrf' hrun
  have hwritten (e : Errno) : a.res ≠ .error e := by
    intro herror
    obtain ⟨ev, hmem, hfail⟩ := exists_failure_of_attempt (show a ∈ attempts w'.log by
      rw [hadds.log, show (w.beforeSend os).traced.log = [] from rfl, List.append_nil, hattempts.eq]
      exact List.mem_singleton_self a) herror
    exact hfail (hsilent ev hmem)
  have hreported (n : ℕ) : none ≠ writeResult n a.res := by
    intro hnone
    rcases hcase : a.res with e | k
    · exact hwritten e hcase
    · rw [hcase] at hnone
      cases hnone
  change none = w.ctx.backend.stepped.sendResult a at hres
  rw [Backend.sendResult_stepped] at hres
  rcases hbe : w.ctx.backend with d | ⟨device, serial, rts, flag⟩ | d
  · rw [hbe] at hres
    exact absurd hres (hreported _)
  · rw [hbe] at hres
    rcases rts with _ | _ | _
    · exact .inr ⟨device, serial, flag, rfl⟩
    · exact absurd hres (hreported _)
    · exact absurd hres (hreported _)
  · exact absurd (congrArg Backend.type hbe) hrf

/-- The calls of a message that fits make the rounds of its frame. -/
theorem run_ttaSendRounds {os : Os σ} {fuel : ℕ} {m : Ttamsg} {w : World σ}
    (hfit : m.frameLength w.ctx.type ≤ maxMessageLength) (rounds : ℕ) (e : Errno) :
    (ttaSendRounds os.traced fuel m rounds).run { w.traced with errno := e } =
      (sendRounds os.traced fuel (w.ctx.backend.frame m) rounds).run
        { (w.beforeSend os).traced with errno := e } := by
  obtain ⟨buf, hbuf, huninit⟩ :=
    run_uninit os.traced maxMessageLength { w.traced with errno := e }
  obtain ⟨pkt, hconv, hpre, -⟩ := run_convTtamsg2pkt m
    { w.traced with errno := e, dev := (os.traced.garbage w.traced.dev).2 }
    (show m.frameLength w.ctx.type ≤ buf.length from hfit.trans_eq hbuf.symm)
  rw [ttaSendRounds, Exec.run_bind_of_ok huninit]
  refine (Exec.run_bind_of_ok hconv).trans ?_
  have htake : pkt.take (m.frameLength w.ctx.type) = w.ctx.backend.frame m := by
    have hlen : (w.ctx.backend.frame m).length = m.frameLength w.ctx.type :=
      w.ctx.backend.length_frame m
    rw [← hlen]
    exact (List.prefix_iff_eq_take.mp hpre).symm
  exact congrArg (fun f => (sendRounds os.traced fuel f rounds).run
    { (w.beforeSend os).traced with errno := e }) htake

/-- The calls of a message that does not fit stop in the encoder. -/
theorem run_ttaSendRounds_overrun {os : Os σ} {fuel : ℕ} {m : Ttamsg} {w : World σ}
    (hover : ¬m.frameLength w.ctx.type ≤ maxMessageLength) (rounds : ℕ) (e : Errno) :
    (ttaSendRounds os.traced fuel m rounds).run { w.traced with errno := e } =
      .error (.store .pkt) := by
  obtain ⟨buf, hbuf, huninit⟩ :=
    run_uninit os.traced maxMessageLength { w.traced with errno := e }
  have hconv := run_convTtamsg2pkt_overrun m
    { w.traced with errno := e, dev := (os.traced.garbage w.traced.dev).2 }
    (show buf.length < m.frameLength w.ctx.type from hbuf.trans_lt (not_le.mp hover))
  rw [ttaSendRounds, Exec.run_bind_of_ok huninit]
  exact Exec.run_bind_of_error hconv

/-- A silent failure makes two calls differ that have different codes in `errno`. -/
theorem not_sameRecoveries_of_silentFailure {os : Os σ} {fuel : ℕ} {m : Ttamsg} {w : World σ}
    (hlink : w.ctx.recoversLink = true) (hfails : SilentFailure os fuel m w) :
    ¬SameRecoveries os fuel m w := by
  intro hsame
  have htcp : (w.beforeSend os).traced.ctx.type ≠ .tcp := by
    rw [show (w.beforeSend os).traced.ctx.type = w.ctx.type from w.ctx.type_stepped]
    rcases backend_of_silentFailure hfails with htype | ⟨device, serial, flag, hbe⟩
    · rw [htype]
      decide
    · rw [Tta.type, hbe]
      intro hrs485
      cases hrs485
  obtain ⟨hfit, w', hrun, hsilent⟩ := hfails
  refine sendRounds_ne_of_silent htcp hlink rfl hrun (lastFailure_eq_none_iff.mpr hsilent) ?_
  rw [← run_ttaSendRounds hfit, ← run_ttaSendRounds hfit]
  exact hsame .EBADF (.other 0) 1

/-- With link recovery, two calls that differ in `errno` recover alike exactly when the first
attempt does not fail silently. -/
theorem sameRecoveries_iff {os : Os σ} {fuel : ℕ} {m : Ttamsg} {w : World σ}
    (hlink : w.ctx.recoversLink = true) :
    SameRecoveries os fuel m w ↔ ¬SilentFailure os fuel m w := by
  constructor
  · intro hsame hfails
    exact not_sameRecoveries_of_silentFailure hlink hfails hsame
  · intro hloud e e' rounds
    by_cases hfit : m.frameLength w.ctx.type ≤ maxMessageLength
    · rw [run_ttaSendRounds hfit, run_ttaSendRounds hfit]
      refine sendRounds_eq_of_failure rfl
        (fun w' hrun hsilent => hloud ⟨hfit, w', hrun, ?_⟩) e e' rounds
      exact lastFailure_eq_none_iff.mp hsilent
    · rw [run_ttaSendRounds_overrun hfit, run_ttaSendRounds_overrun hfit]

/-- A context with link recovery, before a send. -/
def recovering (ctx : Tta) : World ℕ :=
  ⟨{ ctx with errorRecovery := errorRecoveryLink }, .other 0, List.Vector.replicate 128 0, 0, 0⟩

/-- An operating system whose first write finds the connection gone. -/
def brokenPipeOs : Os ℕ where
  write _ bs n := (if n = 0 then .error .EPIPE else .ok bs.length, n + 1)

/-- On a TCP connection every failure sets `errno`. Here the first write fails, and the frame is
written again once the connection is made anew. -/
theorem sameRecoveries_iff_brokenPipe :
    ((ttaSendRounds brokenPipeOs.traced 0 (ttamsgMake 1 0 0x10 [] 0 (by decide)) 2).run
        (recovering (ttaNewTcp "127.0.0.1" 502)).traced).map
        (fun r => (r.1, r.2.log.map Event.kind |>.reverse)) =
      .ok (some (some 8), [.write, .other, .close, .opened, .setup, .setup, .setup, .write]) ∧
    SameRecoveries brokenPipeOs 0 (ttamsgMake 1 0 0x10 [] 0 (by decide))
      (recovering (ttaNewTcp "127.0.0.1" 502)) := by
  refine ⟨by decide +kernel, (sameRecoveries_iff rfl).mpr fun hfails => ?_⟩
  rcases backend_of_silentFailure hfails with htype | ⟨device, serial, flag, hbe⟩
  · cases htype
  · cases hbe

/-- A radio that never finds the channel clear fails without a call that does, and the recovery
depends on what an earlier call has left in `errno`. -/
theorem not_sameRecoveries :
    ¬SameRecoveries {} 0 (ttamsgMake 1 0 0x10 [] 0 (by decide))
      (recovering (ttaNewRf "/dev/spidev1.0" 1 2 3 4)) := by
  have hrun : ((backendSend ({} : Os ℕ).traced 0 ((ttaNewRf "/dev/spidev1.0" 1 2 3 4).backend.frame
      (ttamsgMake 1 0 0x10 [] 0 (by decide)))).run
      ((recovering (ttaNewRf "/dev/spidev1.0" 1 2 3 4)).beforeSend {}).traced).map
        (fun p => (p.1, lastFailure p.2.log)) = .ok (none, none) := by decide +kernel
  obtain ⟨⟨r, w'⟩, hrun, hres⟩ := Exec.exists_of_map_eq_ok hrun
  obtain ⟨rfl, hsilent⟩ := Prod.mk.inj hres
  exact not_sameRecoveries_of_silentFailure rfl
    ⟨by decide, w', hrun, lastFailure_eq_none_iff.mp hsilent⟩

end Libtta
