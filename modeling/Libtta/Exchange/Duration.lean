import Libtta.Library.Cost
import Libtta.Exchange.Returns

/-!
# How long a call may take

An operating system keeps time if no wait takes longer than its limit, and everything else takes no
time (`Timed`). The time that a wait without a limit takes is not counted. On such a system a
receiver waits for the first byte of a packet with the response timeout, or without a limit, and
then for each of the others with the byte timeout; after a failure the error recovery waits once
more. So there is a bound on the duration of every call that receives, and of every request,
whatever the other end does (`call_duration`).
-/

namespace Libtta

variable {σ α β : Type} {clock : σ → ℕ}

/-! ## Time -/

/-- The microseconds of a wait. A negative number of microseconds beside the seconds makes the wait
fail, and so does a negative time. -/
def Timeval.span (tv : Timeval) : ℕ := (tv.sec.toInt * 1000000 + max tv.usec.toInt 0).toNat

/-- What is left of the microseconds without whole seconds is not more. -/
theorem toInt_usec_request_le (tv : Timeval) :
    max tv.request.usec.toInt 0 ≤ max tv.usec.toInt 0 := by
  have hrem : tv.request.usec.toInt = tv.usec.toInt.tmod 1000000 := Int64.toInt_mod _ _
  rw [hrem]
  rcases le_total 0 tv.usec.toInt with hpos | hneg
  · rw [Int.tmod_eq_emod_of_nonneg hpos]
    omega
  · have hrest := Int.tmod_nonneg 1000000 (Int.neg_nonneg_of_nonpos hneg)
    rw [Int.neg_tmod] at hrest
    omega

/-- A flush sleeps no longer than the time it is given. -/
theorem Timeval.span_request_le (tv : Timeval) : tv.request.span ≤ tv.span :=
  Int.toNat_le_toNat (Int.add_le_add_left (toInt_usec_request_le tv) _)

/-- The limit of a wait; a wait without a limit is not counted. -/
def limit (tv : Option Timeval) : ℕ := (tv.map Timeval.span).getD 0

/-- By the clock a wait takes no longer than its limit, `select` leaves no more of it than there
was, and the other calls take no time. -/
structure Timed (os : Os σ) (clock : σ → ℕ) : Prop where
  select : ∀ fd tv d, clock (os.select fd tv d).2 ≤ clock d + limit tv
  selectWrite : ∀ fd tv d, clock (os.selectWrite fd tv d).2 ≤ clock d + tv.span
  left : ∀ fd tv d, (os.selectWrite fd tv d).1.1.span ≤ tv.span
  nanosleep : ∀ tv d, clock (os.nanosleep tv d).2 ≤ clock d + tv.span
  usleep : ∀ n d, clock (os.usleep n d).2 ≤ clock d + n
  garbage : ∀ d, clock (os.garbage d).2 ≤ clock d
  read : ∀ fd n d, clock (os.read fd n d).2 ≤ clock d
  write : ∀ fd bs d, clock (os.write fd bs d).2 ≤ clock d
  readNow : ∀ fd n d, clock (os.readNow fd n d).2 ≤ clock d
  openDevice : ∀ dev d, clock (os.openDevice dev d).2 ≤ clock d
  close : ∀ fd d, clock (os.close fd d).2 ≤ clock d
  shutdown : ∀ fd d, clock (os.shutdown fd d).2 ≤ clock d
  socket : ∀ d, clock (os.socket d).2 ≤ clock d
  setNodelay : ∀ fd d, clock (os.setNodelay fd d).2 ≤ clock d
  setTos : ∀ fd d, clock (os.setTos fd d).2 ≤ clock d
  connect : ∀ fd ip port d, clock (os.connect fd ip port d).2 ≤ clock d
  noError : ∀ fd d, clock (os.noError fd d).2 ≤ clock d
  tcgetattr : ∀ fd d, clock (os.tcgetattr fd d).2 ≤ clock d
  tcsetattr : ∀ fd tios d, clock (os.tcsetattr fd tios d).2 ≤ clock d
  tcflush : ∀ fd d, clock (os.tcflush fd d).2 ≤ clock d
  rtsSet : ∀ fd d, clock (os.rtsSet fd d).2 ≤ clock d
  rtsClear : ∀ fd d, clock (os.rtsClear fd d).2 ≤ clock d
  txEmpty : ∀ fd d, clock (os.txEmpty fd d).2 ≤ clock d
  modemGet : ∀ fd d, clock (os.modemGet fd d).2 ≤ clock d
  modemSet : ∀ fd flags d, clock (os.modemSet fd flags d).2 ≤ clock d
  gettimeofday : ∀ d, clock (os.gettimeofday d).2 ≤ clock d
  strobe : ∀ fd cmd d, clock (os.strobe fd cmd d).2 ≤ clock d
  readReg : ∀ fd addr d, clock (os.readReg fd addr d).2 ≤ clock d
  writeReg : ∀ fd addr val d, clock (os.writeReg fd addr val d).2 ≤ clock d
  fifoRead : ∀ fd len d, clock (os.fifoRead fd len d).2 ≤ clock d
  fifoWrite : ∀ fd bs d, clock (os.fifoWrite fd bs d).2 ≤ clock d

/-- The second context has what the duration of a call depends on from the first one, and no longer
a response timeout. -/
structure Tta.Limits (ctx ctx' : Tta) : Prop where
  type : ctx'.type = ctx.type
  responseTimeout : ctx'.responseTimeout.span ≤ ctx.responseTimeout.span
  byteTimeout : ctx'.byteTimeout = ctx.byteTimeout
  errorRecovery : ctx'.errorRecovery = ctx.errorRecovery

/-- A context in the limits of `ctx` stays there, and the call takes at most `c` microseconds. -/
abbrev Lasts (clock : σ → ℕ) (ctx : Tta) (c : ℕ) (x : Machine σ α) : Prop :=
  Exec.Costs (fun w => ctx.Limits w.ctx) (fun w => clock w.dev) c x

/-! ## Rules -/

section Rules

variable {ctx : Tta} {c : ℕ}

/-- A call that has no way to fail. -/
theorem lasts_ask {call : σ → α × σ} (h : ∀ d, clock (call d).2 ≤ clock d + c) :
    Lasts clock ctx c (ask call) := by
  rintro w _ _ hw ⟨⟩
  exact ⟨hw, h w.dev⟩

/-- An update that takes no time. -/
theorem lasts_modify {g : World σ → World σ} (hctx : ∀ w : World σ, w.ctx.Limits (g w).ctx)
    (hdev : ∀ w, (g w).dev = w.dev) : Lasts clock ctx c (modify g : Machine σ PUnit) := by
  refine .modify (fun w hw => ?_) fun w => (congrArg clock (hdev w)).trans_le (Nat.le_add_right _ _)
  have h := hctx w
  exact ⟨h.type.trans hw.type, h.responseTimeout.trans hw.responseTimeout,
    h.byteTimeout.trans hw.byteTimeout, h.errorRecovery.trans hw.errorRecovery⟩

/-- Setting `errno`. -/
theorem lasts_setErrno (e : Errno) : Lasts clock ctx c (setErrno e : Machine σ Unit) :=
  lasts_modify (fun _ => ⟨rfl, le_rfl, rfl, rfl⟩) fun _ => rfl

/-- Setting or clearing the flag of the context. -/
theorem lasts_setConfirmationToIgnore (v : Bool) :
    Lasts clock ctx c (setConfirmationToIgnore v : Machine σ Unit) :=
  lasts_modify (fun w => ⟨w.ctx.backend.type_setConfirmationToIgnore v, le_rfl, rfl, rfl⟩)
    fun _ => rfl

/-- A call. -/
theorem lasts_sys {call : σ → Except Errno α × σ} (h : ∀ d, clock (call d).2 ≤ clock d + c) :
    Lasts clock ctx c (sys call) := by
  refine (lasts_ask h).bind_right fun r => ?_
  cases r with
  | ok a => exact .pure _
  | error e => exact (lasts_setErrno e).bind_left fun _ => .pure _

/-- A call that leaves an answer. -/
theorem lasts_sysAnswer {call : σ → (α × Except Errno Unit) × σ}
    (h : ∀ d, clock (call d).2 ≤ clock d + c) : Lasts clock ctx c (sysAnswer call) := by
  refine (lasts_ask h).bind_right fun ⟨a, r⟩ => ?_
  cases r with
  | ok u => exact .pure _
  | error e => exact (lasts_setErrno e).bind_left fun _ => .pure _

/-- Reading the context, with what is known of it. -/
theorem lasts_getCtx {f : Tta → Machine σ β}
    (hf : ∀ ctx', ctx.Limits ctx' → Lasts clock ctx c (f ctx')) :
    Lasts clock ctx c (getCtx >>= f) :=
  fun w b w' hw hr => hf w.ctx hw w b w' hw hr

end Rules

/-! ## What takes no time -/

/-- The effects that take no time. -/
def instantEffects : List Effect :=
  [.garbage, .read, .write, .readNow, .openDevice, .close, .shutdown, .socket, .setNodelay, .setTos,
   .connect, .noError, .tcgetattr, .tcsetattr, .tcflush, .rtsSet, .rtsClear, .txEmpty, .modemGet,
   .modemSet, .gettimeofday, .strobe, .setupStrobe, .readReg, .writeReg, .fifoRead, .fifoWrite,
   .errno, .setErrno, .setSocket, .save, .setConfirmationToIgnore, .rxfifo, .encode]

section Bounds

variable {os : Os σ} {ctx : Tta} (htimed : Timed os clock) (hrf : ctx.type ≠ .rf) (fuel : ℕ)
include htimed

/-- The steps with these effects. -/
theorem lasts_of_does {k : Effect} {x : Machine σ α} (h : os.Does k x) (hk : k ∈ instantEffects) :
    Lasts clock ctx 0 x := by
  cases h with
  | garbage => exact lasts_ask htimed.garbage
  | gettimeofday => exact lasts_ask htimed.gettimeofday
  | read fd n => exact lasts_sys (htimed.read fd n)
  | write fd bs => exact lasts_sys (htimed.write fd bs)
  | readNow fd n => exact lasts_sys (htimed.readNow fd n)
  | openDevice device => exact lasts_sys (htimed.openDevice device)
  | close fd => exact lasts_sys (htimed.close fd)
  | shutdown fd => exact lasts_sys (htimed.shutdown fd)
  | socket => exact lasts_sys htimed.socket
  | setNodelay fd => exact lasts_sys (htimed.setNodelay fd)
  | setTos fd => exact lasts_sys (htimed.setTos fd)
  | connect fd ip port => exact lasts_sys (htimed.connect fd ip port)
  | noError fd => exact lasts_sys (htimed.noError fd)
  | tcgetattr fd => exact lasts_sys (htimed.tcgetattr fd)
  | tcsetattr fd tios => exact lasts_sys (htimed.tcsetattr fd tios)
  | tcflush fd => exact lasts_sys (htimed.tcflush fd)
  | rtsSet fd => exact lasts_sys (htimed.rtsSet fd)
  | rtsClear fd => exact lasts_sys (htimed.rtsClear fd)
  | modemSet fd flags => exact lasts_sys (htimed.modemSet fd flags)
  | strobe fd => exact lasts_sys (htimed.strobe fd _)
  | setupStrobe fd cmd => exact lasts_sys (htimed.strobe fd cmd)
  | writeReg fd addr val => exact lasts_sys (htimed.writeReg fd addr val)
  | fifoWrite fd bs => exact lasts_sys (htimed.fifoWrite fd bs)
  | txEmpty fd => exact lasts_sysAnswer (htimed.txEmpty fd)
  | modemGet fd => exact lasts_sysAnswer (htimed.modemGet fd)
  | readReg fd addr => exact lasts_sysAnswer (htimed.readReg fd addr)
  | fifoRead fd len => exact lasts_sysAnswer (htimed.fifoRead fd len)
  | setErrno e => exact lasts_setErrno e
  | setSocket | save => exact lasts_modify (fun _ => ⟨rfl, le_rfl, rfl, rfl⟩) fun _ => rfl
  | setConfirmationToIgnore v => exact lasts_setConfirmationToIgnore v
  | fillRxfifo bs =>
    intro w u w' hw hrun
    obtain ⟨v, pos, rfl⟩ := exists_of_rxfifo (.fillRxfifo bs : os.Does _ _) hrun
    exact ⟨hw, le_rfl⟩
  | readRf n =>
    intro w bs w' hw hrun
    obtain ⟨v, pos, rfl⟩ := exists_of_rxfifo (.readRf n : os.Does _ _) hrun
    exact ⟨hw, le_rfl⟩
  | encode m pkt =>
    intro w r w' hw hrun
    obtain ⟨-, rfl, -⟩ := run_convTtamsg2pkt_eq_ok hrun
    exact ⟨⟨w.ctx.type_stepped.trans hw.type, hw.responseTimeout, hw.byteTimeout,
      hw.errorRecovery⟩, le_rfl⟩
  | select | selectWrite | nanosleep | usleep | setTimeout => exact absurd hk (by decide)

/-- What is made of such steps. -/
theorem lasts_of_uses {x : Machine σ α}
    (h : os.Uses instantEffects (fun _ => True) (fun _ => True) x) : Lasts clock ctx 0 x := by
  refine .of_built h ?_
  rintro Q α x (⟨hk, hdoes⟩ | ⟨fuel, hk, -⟩)
  · exact lasts_of_does htimed hdoes hk
  · exact absurd hk (by decide)

/-! ## The device side -/

/-- The wait for a connection, which leaves the rest of the response timeout in the context. -/
theorem lasts_waitWritable (fd : Int) :
    Lasts clock ctx ctx.responseTimeout.span (waitWritable os fd) := by
  intro w r w' hw hrun
  have hleft := (htimed.left fd w.ctx.responseTimeout w.dev).trans hw.responseTimeout
  have hclock := (htimed.selectWrite fd w.ctx.responseTimeout w.dev).trans
    (Nat.add_le_add_left hw.responseTimeout _)
  unfold waitWritable at hrun
  rw [Exec.run_bind_of_ok (run_getCtx w), Exec.run_bind_of_ok (run_ask _ w)] at hrun
  rcases hres : os.selectWrite fd w.ctx.responseTimeout w.dev with ⟨⟨left, e | writable⟩, d⟩
  all_goals
    rw [hres] at hrun hleft hclock
    cases hrun
    exact ⟨⟨hw.type, hleft, hw.byteTimeout, hw.errorRecovery⟩, hclock⟩

/-- Connecting a socket: the wait for a pending connection. -/
theorem lasts_connectSocket (fd : Int) (d : TtaTcp) :
    Lasts clock ctx ctx.responseTimeout.span (connectSocket os fd d) := by
  refine (lasts_sys (htimed.connect fd d.ip d.port)).bind_left fun r => ?_
  cases r with
  | some u => exact .pure _
  | none =>
    refine .get_bind fun w _ => .ite ?_ (.pure _)
    refine (lasts_waitWritable htimed fd).bind_right fun r => ?_
    match r with
    | none => exact .pure _
    | some false => exact .pure _
    | some true =>
      refine (lasts_sys (htimed.noError fd)).bind_left fun r => ?_
      match r with
      | some true => exact .pure _
      | some false => exact (lasts_setErrno _).bind_left fun _ => .pure _
      | none => exact (lasts_setErrno _).bind_left fun _ => .pure _

/-- Connecting a TCP context. -/
theorem lasts_ttaTcpConnect (d : TtaTcp) :
    Lasts clock ctx ctx.responseTimeout.span (ttaTcpConnect os d) := by
  have hsocket (s : Int) : Lasts clock ctx 0 (modifyCtx fun ctx => { ctx with s := s }) :=
    lasts_of_does htimed (.setSocket s) (by decide)
  refine (lasts_sys htimed.socket).bind_left fun fd => (hsocket _).bind_left fun _ => ?_
  cases fd with
  | none => exact .pure _
  | some fd =>
    have hoptions : Lasts clock ctx 0 (ttaTcpSetIpv4Options os fd) :=
      lasts_of_uses htimed (uses_ttaTcpSetIpv4Options fd (by decide))
    refine hoptions.bind_left fun r => ?_
    cases r with
    | none => exact (lasts_sys (htimed.close fd)).bind_left fun _ => .pure _
    | some u =>
      refine (lasts_connectSocket htimed fd d).bind_right fun r => ?_
      cases r with
      | none => exact (lasts_sys (htimed.close fd)).bind_left fun _ => .pure _
      | some u => exact .pure _

include hrf

/-- Connecting. -/
theorem lasts_ttaConnect : Lasts clock ctx ctx.responseTimeout.span (ttaConnect os fuel) := by
  refine lasts_getCtx fun ctx' hctx => ?_
  cases hbe : ctx'.backend with
  | tcp d => exact lasts_ttaTcpConnect htimed d
  | rs485 d =>
    exact (lasts_of_uses htimed (uses_ttaRs485Connect d (by decide))).mono (Nat.zero_le _)
  | rf d => exact absurd (hctx.type.symm.trans (congrArg Backend.type hbe)) hrf

omit hrf in
/-- Sleeping before a flush. -/
theorem lasts_sleepAndFlush : Lasts clock ctx ctx.responseTimeout.span (sleepAndFlush os fuel) := by
  refine lasts_getCtx fun ctx' hctx => ?_
  have hsleep : Lasts clock ctx ctx.responseTimeout.span
      (sys (os.nanosleep ctx'.responseTimeout.request)) :=
    lasts_sys fun d => (htimed.nanosleep _ d).trans (Nat.add_le_add_left
      (ctx'.responseTimeout.span_request_le.trans hctx.responseTimeout) _)
  have hflush : Lasts clock ctx 0 (ttaFlush os fuel) :=
    lasts_of_uses htimed (uses_ttaFlush fuel (by decide) fun _ _ => trivial)
  exact hsleep.bind_right fun _ => hflush.bind_left fun _ => .pure _

/-! ## Receiving -/

/-- How long the error recovery may take: it sleeps for the response timeout, or waits for a
connection with it. -/
def Tta.recoveryMicros (ctx : Tta) : ℕ :=
  if ctx.errorRecovery = 0 then 0 else ctx.responseTimeout.span

omit htimed hrf in
/-- What is done only with an error recovery. -/
theorem lasts_recovery {x : Machine σ Unit}
    (hnone : ∀ w : World σ, w.ctx.errorRecovery = 0 → x.run w = .ok ((), w))
    (hx : Lasts clock ctx ctx.responseTimeout.span x) : Lasts clock ctx ctx.recoveryMicros x := by
  by_cases h : ctx.errorRecovery = 0
  · intro w u w' hw hr
    rw [hnone w (hw.errorRecovery.trans h)] at hr
    cases hr
    exact ⟨hw, Nat.le_add_right _ _⟩
  · rw [Tta.recoveryMicros, if_neg h]
    exact hx

/-- Connecting anew, with `errno` restored. -/
theorem lasts_reconnect (e : Errno) : Lasts clock ctx ctx.responseTimeout.span (do
    ttaClose os
    let _ ← ttaConnect os fuel
    setErrno e) := by
  have hclose : Lasts clock ctx 0 (ttaClose os) := lasts_of_uses htimed (uses_ttaClose (by decide))
  exact hclose.bind_left fun _ => (lasts_ttaConnect htimed hrf fuel).bind_right fun _ =>
    lasts_setErrno e

/-- The recovery step after a failing `select`. -/
theorem lasts_selectRecovery : Lasts clock ctx ctx.recoveryMicros (selectRecovery os fuel) := by
  refine lasts_recovery (fun w h => run_selectRecovery os fuel (w.ctx.recoversLink_of_none h)) ?_
  unfold selectRecovery
  refine lasts_getCtx fun ctx' _ => .ite (.get_bind fun w _ => ?_) (.pure _)
  dsimp only
  split
  · exact (lasts_sleepAndFlush htimed fuel).bind_right fun _ => lasts_setErrno _
  split
  · exact lasts_reconnect htimed hrf fuel _
  · exact lasts_setErrno _

/-- The recovery step after a failing read. -/
theorem lasts_readRecovery : Lasts clock ctx ctx.recoveryMicros (readRecovery os fuel) := by
  refine lasts_recovery (fun w h => run_readRecovery os fuel (w.ctx.recoversLink_of_none h)) ?_
  unfold readRecovery
  refine .get_bind fun w _ => lasts_getCtx fun ctx' _ => .ite ?_ (.pure _)
  exact lasts_reconnect htimed hrf fuel _

/-- Waiting. -/
theorem lasts_backendSelect (tv : Option Timeval) :
    Lasts clock ctx (limit tv) (backendSelect os tv) := by
  refine lasts_getCtx fun ctx' hctx => ?_
  have hwait : Lasts clock ctx (limit tv) (ask (os.select ctx'.s tv) >>= SelectResult.answer) := by
    refine (lasts_ask (htimed.select ctx'.s tv)).bind_right fun r => ?_
    cases r with
    | ready => exact .pure _
    | timeout => exact (lasts_setErrno _).bind_left fun _ => .pure _
    | fail e he => exact (lasts_setErrno _).bind_left fun _ => .pure _
  cases hbe : ctx'.backend with
  | tcp d => exact hwait
  | rs485 d => exact hwait
  | rf d => exact absurd (hctx.type.symm.trans (congrArg Backend.type hbe)) hrf

/-- A round waits once, and when it ends the loop, the recovery may take its time, too. -/
theorem clock_of_receiveStep {st : ReadState} {r : Except Bytes ReadState} {w w' : World σ}
    (hw : ctx.Limits w.ctx) (h : (receiveStep os fuel st).run w = .ok (r, w')) :
    ctx.Limits w'.ctx ∧ clock w'.dev ≤ clock w.dev + limit st.tv + ctx.recoveryMicros ∧
      ∀ st', r = .ok st' → clock w'.dev ≤ clock w.dev + limit st.tv := by
  obtain ⟨sel, w₁, hselect, h⟩ := Exec.run_bind_eq_ok.mp h
  obtain ⟨hw₁, hle₁⟩ := lasts_backendSelect htimed hrf st.tv w _ w₁ hw hselect
  dsimp only at hle₁
  cases sel with
  | none =>
    obtain ⟨_, _, hrecovery, ⟨⟩⟩ := Exec.run_bind_eq_ok.mp h
    obtain ⟨hw', hle⟩ := lasts_selectRecovery htimed hrf fuel w₁ _ w' hw₁ hrecovery
    dsimp only at hle
    exact ⟨hw', by omega, nofun⟩
  | some u =>
    have hrecv (n : ℕ) : Lasts clock ctx 0 (backendRecv os n) :=
      lasts_of_uses htimed (uses_backendRecv n (by decide))
    obtain ⟨bs, w₂, hread, h⟩ := Exec.run_bind_eq_ok.mp h
    obtain ⟨hw₂, hle₂⟩ := hrecv _ w₁ _ w₂ hw₁ hread
    dsimp only at hle₂
    match bs with
    | none =>
      obtain ⟨_, _, hrecovery, ⟨⟩⟩ := Exec.run_bind_eq_ok.mp h
      obtain ⟨hw', hle⟩ := lasts_readRecovery htimed hrf fuel w₂ _ w' hw₂ hrecovery
      dsimp only at hle
      exact ⟨hw', by omega, nofun⟩
    | some [] =>
      obtain ⟨_, w₃, herrno, h⟩ := Exec.run_bind_eq_ok.mp h
      obtain ⟨hw₃, hle₃⟩ := (lasts_setErrno _ : Lasts clock ctx 0 _) w₂ _ w₃ hw₂ herrno
      obtain ⟨_, _, hrecovery, ⟨⟩⟩ := Exec.run_bind_eq_ok.mp h
      obtain ⟨hw', hle⟩ := lasts_readRecovery htimed hrf fuel w₃ _ w' hw₃ hrecovery
      dsimp only at hle hle₃
      exact ⟨hw', by omega, nofun⟩
    | some (b :: bs) =>
      have hstore : Lasts clock ctx 0 (receiveBytes st (b :: bs) : Machine σ _) :=
        lasts_of_uses htimed (uses_receiveBytes st _ (by decide) fun _ => trivial)
      obtain ⟨hw', hle⟩ := hstore w₂ _ w' hw₂ h
      dsimp only at hle
      exact ⟨hw', by omega, fun _ _ => by omega⟩

/-- The loop waits once with the limit it starts with, and then with the byte timeout. The induction
is on the rounds. -/
theorem clock_of_receiveLoop {rounds : ℕ} {st : ReadState} {r : Except Bytes ReadState}
    {w w' : World σ} (hw : ctx.Limits w.ctx)
    (h : (receiveLoop os fuel (rounds + 1) st).run w = .ok (r, w')) :
    ctx.Limits w'.ctx ∧ clock w'.dev ≤
      clock w.dev + limit st.tv + rounds * ctx.byteTimeout.span + ctx.recoveryMicros := by
  induction rounds generalizing st w with
  | zero =>
    unfold receiveLoop at h
    split at h
    · cases h
      exact ⟨hw, by omega⟩
    · obtain ⟨r₁, w₁, hstep, h⟩ := Exec.run_bind_eq_ok.mp h
      obtain ⟨hw₁, hle, -⟩ := clock_of_receiveStep htimed hrf fuel hw hstep
      cases r₁ with
      | error pkt =>
        cases h
        exact ⟨hw₁, by omega⟩
      | ok st' =>
        dsimp only at h
        unfold receiveLoop at h
        split at h
        · cases h
          exact ⟨hw₁, by omega⟩
        · cases h
  | succ rounds ih =>
    unfold receiveLoop at h
    split at h
    · cases h
      exact ⟨hw, by omega⟩
    · obtain ⟨r₁, w₁, hstep, h⟩ := Exec.run_bind_eq_ok.mp h
      obtain ⟨hw₁, hle, hok⟩ := clock_of_receiveStep htimed hrf fuel hw hstep
      cases r₁ with
      | error pkt =>
        cases h
        exact ⟨hw₁, by rw [Nat.succ_mul]; omega⟩
      | ok st' =>
        have htv : limit st'.tv = ctx.byteTimeout.span := by
          rw [tv_of_receiveStep hstep, hw₁.byteTimeout]
          rfl
        obtain ⟨hw', hle'⟩ := ih hw₁ h
        have hle₁ := hok st' rfl
        rw [htv] at hle'
        exact ⟨hw', by rw [Nat.succ_mul]; omega⟩

/-- How long a receive function may take that waits for the first byte with the limit `tv`: it waits
for each of the other bytes with the byte timeout, and recovers once. -/
def Tta.receiveMicros (ctx : Tta) (tv : Option Timeval) : ℕ :=
  limit tv + (ctx.type.maxAduLength - 1) * ctx.byteTimeout.span + ctx.recoveryMicros

/-- Receiving a packet. -/
theorem lasts_ttaReceivePkt (pkt : Bytes) (fgtimeout : Bool) :
    Lasts clock ctx (ctx.receiveMicros (if fgtimeout then some ctx.responseTimeout else none))
      (ttaReceivePkt os fuel pkt fgtimeout) := by
  refine lasts_getCtx fun ctx' hctx => ?_
  rw [hctx.type]
  have hrounds : ctx.type.maxAduLength = ctx.type.maxAduLength - 1 + 1 := by
    have hpos := ctx.type.framing.hdlen_pos
    have hle : ctx.type.headerLength ≤ ctx.type.maxAduLength := ctx.type.framing.hdlen_le
    change 0 < ctx.type.headerLength at hpos
    omega
  have hlimit : limit (if fgtimeout then some ctx'.responseTimeout else none) ≤
      limit (if fgtimeout then some ctx.responseTimeout else none) := by
    cases fgtimeout with
    | false => exact le_rfl
    | true => exact hctx.responseTimeout
  refine Exec.Costs.bind_right (fun w r w' hw h => ?_) fun r => ?_
  · rw [hrounds] at h
    obtain ⟨hw', hle⟩ := clock_of_receiveLoop htimed hrf fuel hw h
    dsimp only at hle
    refine ⟨hw', hle.trans ?_⟩
    rw [Tta.receiveMicros]
    omega
  · cases r with
    | error pkt => exact .pure _
    | ok st =>
      have hcheck : Lasts clock ctx 0 (checkIntegrity os fuel st.pkt st.pktlen) :=
        lasts_of_uses htimed (uses_checkIntegrity fuel _ _ (by decide) fun _ => trivial)
      exact hcheck.bind_left fun _ => .pure _

/-- The receive functions of the backends. -/
theorem lasts_backendReceive (pkt : Bytes) (fgtimeout : Bool) :
    Lasts clock ctx (ctx.receiveMicros (if fgtimeout then some ctx.responseTimeout else none))
      (backendReceive os fuel pkt fgtimeout) := by
  have hpkt := lasts_ttaReceivePkt htimed hrf fuel pkt fgtimeout
  refine lasts_getCtx fun ctx' hctx => ?_
  cases hbe : ctx'.backend with
  | tcp d => exact hpkt
  | rs485 d =>
    refine lasts_getCtx fun _ _ => .ite ?_ ?_
    · exact hpkt.bind_right fun _ => (lasts_setConfirmationToIgnore _).bind_left fun _ => .pure _
    · refine hpkt.bind_right fun ⟨rc, pkt⟩ => ?_
      dsimp only
      split
      · exact (lasts_setConfirmationToIgnore _).bind_left fun _ => .pure _
      · exact .pure _
  | rf d => exact absurd (hctx.type.symm.trans (congrArg Backend.type hbe)) hrf

omit hrf in
/-- Checking a confirmation: a packet that is not the response is followed by the protocol
recovery. -/
theorem lasts_checkConfirmation (req rsp : Bytes) :
    Lasts clock ctx ctx.recoveryMicros (checkConfirmation os fuel req rsp) := by
  have hpre : Lasts clock ctx 0 (preCheckConfirmation req rsp : Machine σ Bool) :=
    lasts_of_uses htimed (uses_preCheckConfirmation req rsp (by decide) trivial)
  refine hpre.bind_left fun ok => .ite (.pure _) (lasts_getCtx fun ctx' hctx => ?_)
  split
  · rename_i hrecovers
    have hne : ctx.errorRecovery ≠ 0 := by
      intro h
      rw [ctx'.recoversProtocol_of_none (hctx.errorRecovery.trans h)] at hrecovers
      cases hrecovers
    rw [Tta.recoveryMicros, if_neg hne]
    exact (lasts_sleepAndFlush htimed fuel).bind_right fun _ => .pure _
  · exact .pure _

/-! ## Sending -/

/-- The longest send: the transmitter of a serial port is polled 1002 times, with a pause of 100
microseconds between two polls. -/
def sendMicros : ℕ := 100100

omit hrf in
/-- The wait for an empty transmitter. -/
theorem lasts_waitTxEmpty (fd : Int) (left : ℕ) :
    Lasts clock ctx (left * 100) (waitTxEmpty os fd left) := by
  induction left with
  | zero => exact lasts_sysAnswer (htimed.txEmpty fd)
  | succ left ih =>
    refine (lasts_sysAnswer (htimed.txEmpty fd)).bind_left fun _ => .ite (.pure _) ?_
    rw [Nat.succ_mul, Nat.add_comm]
    exact (lasts_sys (htimed.usleep 100)).bind fun _ => ih

/-- Sending a packet once. -/
theorem lasts_backendSend (pkt : Bytes) : Lasts clock ctx sendMicros (backendSend os fuel pkt) := by
  have huart (fd : Int) : Lasts clock ctx sendMicros (writeUart os fd pkt) := by
    refine (lasts_sys (htimed.rtsSet fd)).bind_left fun _ => ?_
    refine (lasts_sys (htimed.write fd pkt)).bind_left fun r => ?_
    cases r with
    | none => exact .pure _
    | some n =>
      refine ((lasts_waitTxEmpty htimed fd 1001).bind_right fun _ => ?_)
      exact (lasts_sys (htimed.rtsClear fd)).bind_left fun _ => .pure _
  have hrts (fd : Int) (on : Bool) : Lasts clock ctx 0 (ttaRs485IoctlRts os fd on) :=
    lasts_of_uses htimed (uses_ttaRs485IoctlRts fd on (by decide))
  have hdriven (fd : Int) (rts : Rts) : Lasts clock ctx sendMicros (do
      ttaRs485IoctlRts os fd (rts = .up)
      let _ ← sys (os.usleep 10000)
      let size ← sys (os.write fd pkt)
      let _ ← sys (os.usleep 10000)
      ttaRs485IoctlRts os fd (rts ≠ .up)
      return size.map (min · pkt.length) : Machine σ (Option ℕ)) := by
    refine Exec.Costs.mono (c := 10000 + 10000) ?_ (by decide)
    refine (hrts fd _).bind_left fun _ => ?_
    refine (lasts_sys (htimed.usleep 10000)).bind fun _ => ?_
    refine (lasts_sys (htimed.write fd pkt)).bind_left fun _ => ?_
    refine (lasts_sys (htimed.usleep 10000)).bind_right fun _ => ?_
    exact (hrts fd _).bind_left fun _ => .pure _
  refine lasts_getCtx fun ctx' hctx => ?_
  cases hbe : ctx'.backend with
  | tcp d =>
    refine Exec.Costs.mono (c := 0) ?_ (Nat.zero_le _)
    exact (lasts_sys (htimed.write _ pkt)).bind_left fun _ => .pure _
  | rs485 d =>
    dsimp only
    unfold ttaRs485Send
    cases d.rts with
    | none => exact huart _
    | up => exact hdriven _ .up
    | down => exact hdriven _ .down
  | rf d => exact absurd (hctx.type.symm.trans (congrArg Backend.type hbe)) hrf

/-- Without link recovery a packet is sent once. -/
theorem lasts_sendPkt (hlink : ctx.recoversLink = false) (pkt : Bytes) :
    Lasts clock ctx sendMicros (sendPkt os fuel pkt) := by
  have hloop : Lasts clock ctx sendMicros (sendLoop os fuel pkt (fuel + 1)) := by
    refine (lasts_backendSend htimed hrf fuel pkt).bind_right fun r => ?_
    cases r with
    | some n => exact .pure _
    | none =>
      refine lasts_getCtx fun ctx' hctx => ?_
      rw [if_neg]
      · exact .pure _
      · rw [Tta.recoversLink, hctx.errorRecovery, ← Tta.recoversLink, hlink]
        decide
  refine hloop.bind_right fun r => ?_
  cases r with
  | none => exact .pure _
  | some n => exact .ite ((lasts_setErrno _).bind_left fun _ => .pure _) (.pure _)

/-! ## Calls -/

/-- Receiving a message. -/
theorem lasts_ttaReceive (fgtm : Bool) :
    Lasts clock ctx (ctx.receiveMicros (if fgtm then some ctx.responseTimeout else none))
      (ttaReceive os fuel fgtm) := by
  have huninit (n : ℕ) : Lasts clock ctx 0 (uninit os n) :=
    lasts_of_uses htimed (uses_uninit n (by decide))
  have hconv (pkt : Bytes) : Lasts clock ctx 0 (convPkt2ttamsg pkt : Machine σ Ttamsg) :=
    lasts_of_uses htimed (uses_convPkt2ttamsg pkt trivial)
  refine (huninit _).bind_left fun buf => ?_
  refine (lasts_backendReceive htimed hrf fuel buf fgtm).bind_right fun ⟨rc, buf⟩ => ?_
  cases rc with
  | none => exact .pure _
  | some n => exact (hconv buf).bind_left fun _ => .pure _

/-- A request. -/
theorem lasts_ttaRequest (hlink : ctx.recoversLink = false) (req : Ttamsg) :
    Lasts clock ctx
      (sendMicros + (ctx.receiveMicros (some ctx.responseTimeout) + ctx.recoveryMicros))
      (ttaRequest os fuel req) := by
  have huninit (n : ℕ) : Lasts clock ctx 0 (uninit os n) :=
    lasts_of_uses htimed (uses_uninit n (by decide))
  have hconv (pkt : Bytes) : Lasts clock ctx 0 (convPkt2ttamsg pkt : Machine σ Ttamsg) :=
    lasts_of_uses htimed (uses_convPkt2ttamsg pkt trivial)
  have hsend : Lasts clock ctx sendMicros (ttaRequestSend os fuel req) := by
    refine (huninit _).bind_left fun buf => ?_
    refine (lasts_of_does htimed (.encode req buf) (by decide)).bind_left fun ⟨buf, len⟩ => ?_
    exact (lasts_sendPkt htimed hrf fuel hlink _).bind_right fun _ => .pure _
  have hreceive (reqbuf : Bytes) :
      Lasts clock ctx (ctx.receiveMicros (some ctx.responseTimeout) + ctx.recoveryMicros)
        (ttaRequestReceive os fuel reqbuf) := by
    refine (huninit _).bind_left fun buf => ?_
    refine Exec.Costs.bind (lasts_backendReceive htimed hrf fuel buf true) fun ⟨rc, buf⟩ => ?_
    cases rc with
    | none => exact .pure _
    | some n =>
      refine (lasts_checkConfirmation htimed fuel reqbuf buf).bind_right fun _ => ?_
      exact .ite ((hconv buf).bind_left fun _ => .pure _) (.pure _)
  refine hsend.bind fun ⟨reqbuf, rc⟩ => ?_
  cases rc with
  | none => exact .pure _
  | some n => exact hreceive reqbuf

end Bounds

/-- How long calls may take on RS485 and TCP, in microseconds. A receive takes no longer than the
wait for the first byte, one byte timeout for each of the other bytes that a packet can have, and
one recovery, whatever arrives; a request without link recovery takes a send, a receive that waits
for the response timeout, and one recovery more. Without error recovery a receive with a timeout
always returns, and so does a request. -/
theorem call_duration {os : Os σ} (htimed : Timed os clock) (fuel : ℕ) {w : World σ}
    (hrf : w.ctx.type ≠ .rf) :
    (∀ fgtm r w', (ttaReceive os fuel fgtm).run w = .ok (r, w') →
      clock w'.dev ≤ clock w.dev +
        w.ctx.receiveMicros (if fgtm then some w.ctx.responseTimeout else none)) ∧
    (∀ req r w', w.ctx.recoversLink = false → (ttaRequest os fuel req).run w = .ok (r, w') →
      clock w'.dev ≤ clock w.dev +
        (sendMicros + (w.ctx.receiveMicros (some w.ctx.responseTimeout) + w.ctx.recoveryMicros))) ∧
    ∀ n, Reachable w.ctx n → w.ctx.errorRecovery = 0 →
      (∃ r w', (ttaReceive os fuel true).run w = .ok (r, w')) ∧
      ∀ req : Ttamsg, req.frameLength w.ctx.type ≤ maxMessageLength →
        ∃ r w', (ttaRequest os fuel req).run w = .ok (r, w') := by
  have hw : w.ctx.Limits w.ctx := ⟨rfl, le_rfl, rfl, rfl⟩
  refine ⟨fun fgtm r w' h => ?_, fun req r w' hlink h => ?_, fun n hreach hnone => ⟨?_, ?_⟩⟩
  · exact (lasts_ttaReceive htimed hrf fuel fgtm w r w' hw h).2
  · exact (lasts_ttaRequest htimed hrf fuel hlink req w r w' hw h).2
  · exact ttaReceive_returns os fuel true hrf hnone hreach.counts.flag
  · exact fun req hroom => ttaRequest_returns os fuel hrf hnone hreach.counts.flag hroom

/-- An operating system on which nothing ever arrives, and time is the number of microseconds. -/
def waitingOs : Os ℕ where
  select := fun _ tv t => (.timeout, t + limit tv)
  selectWrite := fun _ tv t => ((⟨0, 0⟩, .ok false), t + tv.span)
  nanosleep := fun tv t => (.ok (), t + tv.span)
  usleep := fun n t => (.ok (), t + n)

/-- A fresh context on this system. -/
def waitingStart : World ℕ :=
  ⟨ttaNewTcp "127.0.0.1" 502, .other 0, List.Vector.replicate 128 0, 0, 0⟩

/-- A request on this system takes at most 14 seconds: half a second for the first byte, and 50
milliseconds for each of the others. -/
theorem call_duration_waiting :
    ∃ r w', (ttaRequest waitingOs 0 (ttamsgMake 1 0 0x10 [] 0 (by decide))).run waitingStart =
      .ok (r, w') ∧ w'.dev ≤ 14000000 := by
  have hspent : Timeval.span ⟨0, 0⟩ = 0 := by decide
  have htimed : Timed waitingOs fun t => t := by
    constructor
    case left => exact fun _ _ tv => hspent.trans_le (Nat.zero_le _)
    all_goals intros; exact le_rfl
  obtain ⟨-, hbound, hreturns⟩ := call_duration htimed 0 (w := waitingStart) (by decide)
  obtain ⟨r, w', hrun⟩ := (hreturns 0 (.newTcp _ _) rfl).2
    (ttamsgMake 1 0 0x10 [] 0 (by decide)) (by decide)
  refine ⟨r, w', hrun, (hbound _ r w' rfl hrun).trans ?_⟩
  decide

end Libtta
