import Libtta.Library.Parts
import Libtta.Model.Core

/-!
# What the functions of the library are made of

Every function of the library is put together from single steps: calls to the operating system, and
updates of the program's own state. `Os.Does os k x` says that `x` is a step with the effect `k`,
and `os.Uses K E P x` that `x`, run from a state with `P`, makes steps with the effects `K` only,
and stops for a reason in `E` only. There is one lemma for each function; what is to be shown of all
functions is then shown of the steps, with the rules of `Exec.Built`.

Closing a context and connecting it again, as the error recovery does, may be taken as one step: it
is made only in states in which the context recovers the link.
-/

namespace Libtta

variable {σ α β : Type}

/-! ## Steps -/

/-- What a step does: which call it makes, or what it updates. -/
inductive Effect where
  | garbage
  | select
  | read
  | write
  | readNow
  | openDevice
  | close
  | shutdown
  | socket
  | setNodelay
  | setTos
  | connect
  | selectWrite
  | noError
  | tcgetattr
  | tcsetattr
  | tcflush
  | rtsSet
  | rtsClear
  | txEmpty
  | modemGet
  | modemSet
  | nanosleep
  | usleep
  | gettimeofday
  /-- A strobe of sending, receiving and flushing. -/
  | strobe
  /-- Any strobe, also those that set up the radio. -/
  | setupStrobe
  | readReg
  | writeReg
  | fifoRead
  | fifoWrite
  /-- `errno` is looked at. -/
  | errno
  | setErrno
  /-- The descriptor of the context is replaced. -/
  | setSocket
  /-- The response timeout of the context is replaced by the time that is left. -/
  | setTimeout
  /-- The old settings of the line are kept in the context. -/
  | save
  | setConfirmationToIgnore
  /-- The static receive buffer is filled or read. -/
  | rxfifo
  /-- A packet is built. -/
  | encode
  /-- The context is closed and connected again. -/
  | reconnect
  deriving DecidableEq

/-- The strobes of sending, receiving and flushing. -/
def Cc1120.linkStrobes : List UInt8 := [SIDLE, SRX, STX, SFRX, SFTX]

/-- The single steps. -/
inductive Os.Does (os : Os σ) : Effect → ∀ ⦃α : Type⦄, Machine σ α → Prop
  | garbage : os.Does .garbage (ask os.garbage)
  | select (fd : Int) (tv : Option Timeval) : os.Does .select (ask (os.select fd tv))
  | read (fd : Int) (n : ℕ) : os.Does .read (sys (os.read fd n))
  | write (fd : Int) (bs : Bytes) : os.Does .write (sys (os.write fd bs))
  | readNow (fd : Int) (n : ℕ) : os.Does .readNow (sys (os.readNow fd n))
  | openDevice (device : String) : os.Does .openDevice (sys (os.openDevice device))
  | close (fd : Int) : os.Does .close (sys (os.close fd))
  | shutdown (fd : Int) : os.Does .shutdown (sys (os.shutdown fd))
  | socket : os.Does .socket (sys os.socket)
  | setNodelay (fd : Int) : os.Does .setNodelay (sys (os.setNodelay fd))
  | setTos (fd : Int) : os.Does .setTos (sys (os.setTos fd))
  | connect (fd : Int) (ip : String) (port : Int) : os.Does .connect (sys (os.connect fd ip port))
  | selectWrite (fd : Int) (tv : Timeval) : os.Does .selectWrite (ask (os.selectWrite fd tv))
  | noError (fd : Int) : os.Does .noError (sys (os.noError fd))
  | tcgetattr (fd : Int) : os.Does .tcgetattr (sys (os.tcgetattr fd))
  | tcsetattr (fd : Int) (tios : Termios) : os.Does .tcsetattr (sys (os.tcsetattr fd tios))
  | tcflush (fd : Int) : os.Does .tcflush (sys (os.tcflush fd))
  | rtsSet (fd : Int) : os.Does .rtsSet (sys (os.rtsSet fd))
  | rtsClear (fd : Int) : os.Does .rtsClear (sys (os.rtsClear fd))
  | txEmpty (fd : Int) : os.Does .txEmpty (sysAnswer (os.txEmpty fd))
  | modemGet (fd : Int) : os.Does .modemGet (sysAnswer (os.modemGet fd))
  | modemSet (fd : Int) (flags : UInt32) : os.Does .modemSet (sys (os.modemSet fd flags))
  | nanosleep (tv : Timeval) : os.Does .nanosleep (sys (os.nanosleep tv))
  | usleep (n : ℕ) : os.Does .usleep (sys (os.usleep n))
  | gettimeofday : os.Does .gettimeofday (ask os.gettimeofday)
  | strobe (fd : Int) {cmd : UInt8} :
      cmd ∈ Cc1120.linkStrobes → os.Does .strobe (sys (os.strobe fd cmd))
  | setupStrobe (fd : Int) (cmd : UInt8) : os.Does .setupStrobe (sys (os.strobe fd cmd))
  | readReg (fd : Int) (addr : UInt16) : os.Does .readReg (sysAnswer (os.readReg fd addr))
  | writeReg (fd : Int) (addr : UInt16) (val : UInt8) :
      os.Does .writeReg (sys (os.writeReg fd addr val))
  | fifoRead (fd : Int) (len : UInt8) : os.Does .fifoRead (sysAnswer (os.fifoRead fd len))
  | fifoWrite (fd : Int) (bs : Bytes) : os.Does .fifoWrite (sys (os.fifoWrite fd bs))
  | setErrno (e : Errno) : os.Does .setErrno (setErrno e)
  | setSocket (s : Int) : os.Does .setSocket (modifyCtx fun ctx => { ctx with s := s })
  | setTimeout (left : Timeval) :
      os.Does .setTimeout (modifyCtx fun ctx => { ctx with responseTimeout := left })
  | save (old : Option Termios) : os.Does .save (modifyCtx (Tta.save old))
  | setConfirmationToIgnore (v : Bool) :
      os.Does .setConfirmationToIgnore (setConfirmationToIgnore v)
  | fillRxfifo (bs : Bytes) : os.Does .rxfifo (fillRxfifo bs)
  | readRf (n : ℕ) : os.Does .rxfifo (readRf n)
  | encode (m : Ttamsg) (pkt : Bytes) : os.Does .encode (convTtamsg2pkt m pkt)

/-- A step on the static receive buffer leaves everything else alone. -/
theorem exists_of_rxfifo {os : Os σ} {x : Machine σ α} {a : α} {w w' : World σ}
    (h : os.Does .rxfifo x) (hrun : x.run w = .ok (a, w')) :
    ∃ v pos, w' = { w with rxfifo := v, rxfifoPos := pos } := by
  cases h with
  | fillRxfifo bs =>
    obtain ⟨_, _, ⟨⟩, hrun⟩ := Exec.run_bind_eq_ok.mp hrun
    obtain ⟨v, _, haccess, hrun⟩ := Exec.run_bind_eq_ok.mp hrun
    obtain ⟨-, rfl⟩ := Exec.run_access_eq_ok.mp haccess
    cases hrun
    exact ⟨v, 0, rfl⟩
  | readRf n =>
    obtain ⟨_, _, ⟨⟩, hrun⟩ := Exec.run_bind_eq_ok.mp hrun
    obtain ⟨bs, _, haccess, hrun⟩ := Exec.run_bind_eq_ok.mp hrun
    obtain ⟨-, rfl⟩ := Exec.run_access_eq_ok.mp haccess
    cases hrun
    exact ⟨_, _, rfl⟩

/-- A step with one of the effects, or closing and connecting a context that recovers the link. -/
inductive Os.Part (os : Os σ) (K : List Effect) : Exec.Parts (World σ) Stop
  | step {P : World σ → Prop} {α : Type} {x : Machine σ α} {k : Effect} :
      k ∈ K → os.Does k x → os.Part K P x
  | reconnect {P : World σ → Prop} (fuel : ℕ) :
      .reconnect ∈ K → (∀ w, P w → w.ctx.recoversLink = true) →
      os.Part K P (ttaClose os >>= fun _ => ttaConnect os fuel)

/-- What the functions look at: the context, and `errno` if this is one of the effects. -/
inductive View (K : List Effect) : Exec.Views (World σ)
  | ctx : View K World.ctx
  | errno : .errno ∈ K → View K World.errno

/-- Run from a state with `P`, the computation has the effects `K` only, and stops for a reason in
`E` only. -/
abbrev Os.Uses (os : Os σ) (K : List Effect) (E : Stop → Prop) (P : World σ → Prop)
    (x : Machine σ α) : Prop :=
  Exec.Built (os.Part K) (View K) E P x

/-! ## Rules -/

section Rules

variable {os : Os σ} {K : List Effect} {E : Stop → Prop} {P : World σ → Prop}

/-- A step. -/
theorem uses_step {x : Machine σ α} {k : Effect} (h : os.Does k x) (hk : k ∈ K) : os.Uses K E P x :=
  .part (.step hk h)

/-- Looking at the context. -/
theorem uses_getCtx {f : Tta → Machine σ α}
    (hf : ∀ ctx, os.Uses K E (fun w => P w ∧ w.ctx = ctx) (f ctx)) :
    os.Uses K E P (getCtx >>= f) := by
  rw [getCtx, bind_assoc]
  simp only [pure_bind]
  exact .read .ctx hf

/-- Looking at `errno`. -/
theorem uses_errno {f : Errno → Machine σ α} (hk : .errno ∈ K)
    (hf : ∀ e, os.Uses K E (fun w => P w ∧ w.errno = e) (f e)) :
    os.Uses K E P (get >>= fun w => f w.errno) :=
  .read (.errno hk) hf

/-- A local array. -/
theorem uses_uninit (n : ℕ) (hk : .garbage ∈ K) : os.Uses K E P (uninit os n) :=
  (uses_step .garbage hk).bind fun _ => .pure _

end Rules

/-! ## The radio chip -/

section Walk

variable {os : Os σ} {K : List Effect} {E : Stop → Prop} {P : World σ → Prop} (fuel : ℕ) (fd : Int)

/-- A strobe. -/
theorem uses_cc1120Strobe {cmd : UInt8}
    (hK : .setupStrobe ∈ K ∨ cmd ∈ Cc1120.linkStrobes ∧ .strobe ∈ K) :
    os.Uses K E P (cc1120Strobe os fd cmd) := by
  refine Exec.Built.bind ?_ fun _ => .pure _
  rcases hK with hk | ⟨hcmd, hk⟩
  · exact uses_step (.setupStrobe fd cmd) hk
  · exact uses_step (.strobe fd hcmd) hk

/-- A register that is read. -/
theorem uses_cc1120ReadSingle (addr : UInt16) (hk : .readReg ∈ K) :
    os.Uses K E P (cc1120ReadSingle os fd addr) :=
  uses_step (.readReg fd addr) hk

/-- A register that is written. -/
theorem uses_cc1120WriteSingle (addr : UInt16) (val : UInt8) (hk : .writeReg ∈ K) :
    os.Uses K E P (cc1120WriteSingle os fd addr val) :=
  (uses_step (.writeReg fd addr val) hk).bind fun _ => .pure _

/-- Registers that are written one after the other. -/
theorem uses_writeSingles (rs : List (UInt16 × UInt8)) (hk : .writeReg ∈ K) :
    os.Uses K E P (rs.forM fun r => cc1120WriteSingle os fd r.1 r.2) := by
  induction rs generalizing P with
  | nil => exact .pure _
  | cons r rs ih => exact (uses_cc1120WriteSingle fd r.1 r.2 hk).bind fun _ => ih

/-- The first polling loop of the calibration. -/
theorem uses_pollIdleBounded (left : ℕ) (hk : .readReg ∈ K) :
    os.Uses K E P (pollIdleBounded os fd left) := by
  induction left generalizing P with
  | zero => exact (uses_cc1120ReadSingle fd _ hk).bind fun _ => .pure _
  | succ left ih =>
    exact (uses_cc1120ReadSingle fd _ hk).bind fun _ => .ite (fun _ => .pure _) fun _ => ih

/-- The second polling loop of the calibration. -/
theorem uses_pollIdle (hk : .readReg ∈ K) (hE : E .fuel) : os.Uses K E P (pollIdle os fd fuel) := by
  induction fuel generalizing P with
  | zero => exact .stop hE
  | succ fuel ih =>
    exact (uses_cc1120ReadSingle fd _ hk).bind fun _ => .ite (fun _ => .pure _) fun _ => ih

/-- The result of a calibration. -/
theorem uses_readCalResults (hk : .readReg ∈ K) : os.Uses K E P (readCalResults os fd) :=
  (uses_cc1120ReadSingle fd _ hk).bind fun _ => (uses_cc1120ReadSingle fd _ hk).bind fun _ =>
    (uses_cc1120ReadSingle fd _ hk).bind fun _ => .pure _

/-- The result of a calibration is programmed. -/
theorem uses_writeCalResults (r : CalResults) (hk : .writeReg ∈ K) :
    os.Uses K E P (writeCalResults os fd r) :=
  (uses_cc1120WriteSingle fd _ _ hk).bind fun _ =>
    (uses_cc1120WriteSingle fd _ _ hk).bind fun _ => uses_cc1120WriteSingle fd _ _ hk

/-- The effects of a calibration. -/
def calibrateEffects : List Effect := [.setupStrobe, .readReg, .writeReg]

/-- The calibration. -/
theorem uses_cc1120Manualcalibration (hK : calibrateEffects ⊆ K) (hE : E .fuel) :
    os.Uses K E P (cc1120Manualcalibration os fuel fd) := by
  have hstrobe {Q : World σ → Prop} (cmd : UInt8) : os.Uses K E Q (cc1120Strobe os fd cmd) :=
    uses_cc1120Strobe fd (.inl (hK (by decide)))
  have hread : .readReg ∈ K := hK (by decide)
  have hwrite : .writeReg ∈ K := hK (by decide)
  exact (hstrobe _).bind fun _ => (uses_cc1120WriteSingle fd _ _ hwrite).bind fun _ =>
    (uses_cc1120ReadSingle fd _ hread).bind fun _ =>
    (uses_cc1120WriteSingle fd _ _ hwrite).bind fun _ => (hstrobe _).bind fun _ =>
    (uses_pollIdleBounded fd _ hread).bind fun _ => (uses_readCalResults fd hread).bind fun _ =>
    (uses_cc1120WriteSingle fd _ _ hwrite).bind fun _ =>
    (uses_cc1120WriteSingle fd _ _ hwrite).bind fun _ => (hstrobe _).bind fun _ =>
    (uses_pollIdle fuel fd hread hE).bind fun _ => (uses_readCalResults fd hread).bind fun _ =>
    .ite (fun _ => uses_writeCalResults fd _ hwrite) fun _ => uses_writeCalResults fd _ hwrite

/-! ## Connecting and closing -/

/-- Driving the RTS line. -/
theorem uses_ttaRs485IoctlRts (on : Bool) (hK : [.modemGet, .modemSet] ⊆ K) :
    os.Uses K E P (ttaRs485IoctlRts os fd on) :=
  (uses_step (.modemGet fd) (hK (by decide))).bind fun _ =>
    (uses_step (.modemSet fd _) (hK (by decide))).bind fun _ => .pure _

/-- The effects of connecting. -/
def connectEffects : List Effect :=
  [.openDevice, .close, .socket, .setNodelay, .setTos, .connect, .selectWrite, .noError, .tcgetattr,
   .tcsetattr, .rtsClear, .usleep, .setupStrobe, .readReg, .writeReg, .errno, .setErrno, .setSocket,
   .setTimeout, .save]

/-- Programming the settings of a line. -/
theorem uses_programLine (serial : SerialSettings) (hk : .tcsetattr ∈ K) :
    os.Uses K E P (programLine os fd serial) := by
  unfold programLine
  cases rs485Tios serial with
  | none => exact .pure _
  | some tios => exact uses_step (.tcsetattr fd tios) hk

/-- Connecting an RS485 context. -/
theorem uses_ttaRs485Connect (d : TtaRs485)
    (hK : [.openDevice, .setSocket, .tcgetattr, .save, .tcsetattr, .close, .rtsClear] ⊆ K) :
    os.Uses K E P (ttaRs485Connect os d) := by
  refine (uses_step (.openDevice d.device) (hK (by decide))).bind fun fd =>
    (uses_step (.setSocket _) (hK (by decide))).bind fun _ => ?_
  cases fd with
  | none => exact .pure _
  | some fd =>
    refine (uses_step (.tcgetattr fd) (hK (by decide))).bind fun old =>
      (uses_step (.save old) (hK (by decide))).bind fun _ =>
      (uses_programLine fd d.serial (hK (by decide))).bind fun r => ?_
    cases r with
    | none =>
      exact (uses_step (.close fd) (hK (by decide))).bind fun _ =>
        (uses_step (.setSocket _) (hK (by decide))).bind fun _ => .pure _
    | some _ => exact (uses_step (.rtsClear fd) (hK (by decide))).bind fun _ => .pure _

/-- The options of a socket. -/
theorem uses_ttaTcpSetIpv4Options (hK : [.setNodelay, .setTos] ⊆ K) :
    os.Uses K E P (ttaTcpSetIpv4Options os fd) := by
  refine (uses_step (.setNodelay fd) (hK (by decide))).bind fun r => ?_
  cases r with
  | none => exact .pure _
  | some _ => exact uses_step (.setTos fd) (hK (by decide))

/-- The effects of connecting a socket. -/
def socketEffects : List Effect :=
  [.connect, .selectWrite, .setTimeout, .noError, .errno, .setErrno]

/-- The wait for a connection in progress. -/
theorem uses_finishConnect (hK : socketEffects ⊆ K) : os.Uses K E P (finishConnect os fd) := by
  have hfail {Q : World σ → Prop} {α : Type} (e : Errno) :
      os.Uses K E Q (do setErrno e; return none : Machine σ (Option α)) :=
    (uses_step (.setErrno e) (hK (by decide))).bind fun _ => .pure _
  have hwait : os.Uses K E P (waitWritable os fd) := by
    refine uses_getCtx fun ctx => (uses_step (.selectWrite fd _) (hK (by decide))).bind
      fun ⟨left, res⟩ => (uses_step (.setTimeout left) (hK (by decide))).bind fun _ => ?_
    cases res with
    | ok writable => exact .pure _
    | error e => exact hfail e
  refine hwait.bind fun r => ?_
  match r with
  | none => exact .pure _
  | some false => exact .pure _
  | some true =>
    refine (uses_step (.noError fd) (hK (by decide))).bind fun r => ?_
    match r with
    | none => exact hfail _
    | some false => exact hfail _
    | some true => exact .pure _

/-- Connecting a socket. -/
theorem uses_connectSocket (d : TtaTcp) (hK : socketEffects ⊆ K) :
    os.Uses K E P (connectSocket os fd d) := by
  refine (uses_step (.connect fd d.ip d.port) (hK (by decide))).bind fun r => ?_
  cases r with
  | some _ => exact .pure _
  | none =>
    exact uses_errno (f := fun e => if e = .EINPROGRESS then finishConnect os fd else return none)
      (hK (by decide)) fun e => .ite (fun _ => uses_finishConnect fd hK) fun _ => .pure _

/-- Connecting a TCP context. -/
theorem uses_ttaTcpConnect (d : TtaTcp) (hK : connectEffects ⊆ K) :
    os.Uses K E P (ttaTcpConnect os d) := by
  have hclose {Q : World σ → Prop} (fd : Int) :
      os.Uses K E Q (do let _ ← sys (os.close fd); return none : Machine σ (Option Unit)) :=
    (uses_step (.close fd) (hK (by decide))).bind fun _ => .pure _
  refine (uses_step .socket (hK (by decide))).bind fun fd =>
    (uses_step (.setSocket _) (hK (by decide))).bind fun _ => ?_
  cases fd with
  | none => exact .pure _
  | some fd =>
    refine (uses_ttaTcpSetIpv4Options fd (List.Subset.trans (by decide) hK)).bind fun r => ?_
    cases r with
    | none => exact hclose fd
    | some _ =>
      refine (uses_connectSocket fd d (List.Subset.trans (by decide) hK)).bind fun r => ?_
      cases r with
      | none => exact hclose fd
      | some _ => exact .pure _

/-- Setting up the radio. -/
theorem uses_rfSetup (hK : .usleep :: calibrateEffects ⊆ K) (hE : E .fuel) : os.Uses K E P (do
    cc1120Strobe os fd Cc1120.SRES
    let _ ← sys (os.usleep 500000)
    cc1120Writesetting os fd
    cc1120Manualcalibration os fuel fd
    cc1120Strobe os fd Cc1120.SIDLE
    return some () : Machine σ (Option Unit)) :=
  (uses_cc1120Strobe fd (.inl (hK (by decide)))).bind fun _ =>
    (uses_step (.usleep _) (hK (by decide))).bind fun _ =>
    (uses_writeSingles fd _ (hK (by decide))).bind fun _ =>
    (uses_cc1120Manualcalibration fuel fd (List.Subset.trans (by decide) hK) hE).bind fun _ =>
    (uses_cc1120Strobe fd (.inl (hK (by decide)))).bind fun _ => .pure _

/-- Connecting. -/
theorem uses_ttaConnect (hK : connectEffects ⊆ K) (hE : E .fuel) :
    os.Uses K E P (ttaConnect os fuel) := by
  refine uses_getCtx fun ctx => ?_
  cases ctx.backend with
  | tcp d => exact uses_ttaTcpConnect d hK
  | rs485 d => exact uses_ttaRs485Connect d (List.Subset.trans (by decide) hK)
  | rf d =>
    refine (uses_step (.openDevice d.device) (hK (by decide))).bind fun fd =>
      (uses_step (.setSocket _) (hK (by decide))).bind fun _ => ?_
    cases fd with
    | none => exact .pure _
    | some fd => exact uses_rfSetup fuel fd (List.Subset.trans (by decide) hK) hE

/-- The effects of closing. -/
def closeEffects : List Effect := [.shutdown, .close, .tcsetattr]

/-- Closing. -/
theorem uses_ttaClose (hK : closeEffects ⊆ K) : os.Uses K E P (ttaClose os) := by
  refine uses_getCtx fun ctx => ?_
  cases ctx.backend with
  | tcp d =>
    exact (uses_step (.shutdown _) (hK (by decide))).bind fun _ =>
      (uses_step (.close _) (hK (by decide))).bind fun _ => .pure _
  | rs485 d =>
    exact (uses_step (.tcsetattr _ _) (hK (by decide))).bind fun _ =>
      (uses_step (.close _) (hK (by decide))).bind fun _ => .pure _
  | rf d => exact .pure _

/-! ## Flushing -/

/-- The effects of flushing. -/
def flushEffects : List Effect := [.readNow, .tcflush, .strobe]

/-- One read after the other discards what has arrived on a socket. -/
theorem uses_ttaTcpFlushLoop (sum : Int) (hk : .readNow ∈ K) (hE : E .fuel ∧ E .overflow) :
    os.Uses K E P (ttaTcpFlushLoop os fd fuel sum) := by
  induction fuel generalizing P sum with
  | zero => exact .stop hE.1
  | succ fuel ih =>
    refine (uses_step (.readNow fd _) hk).bind fun r => ?_
    cases r with
    | none => exact .pure _
    | some bs =>
      exact (Exec.Built.access hE.2 _).bind fun sum => .ite (fun _ => ih sum) fun _ => .pure _

/-- Flushing. -/
theorem uses_ttaFlush (hK : flushEffects ⊆ K) (hE : ∀ e, e ≠ .store .pkt → E e) :
    os.Uses K E P (ttaFlush os fuel) := by
  refine uses_getCtx fun ctx => ?_
  cases ctx.backend with
  | tcp d =>
    exact (uses_ttaTcpFlushLoop fuel _ 0 (hK (by decide)) ⟨hE _ (by decide), hE _ (by decide)⟩).bind
      fun _ => .pure _
  | rs485 d => exact (uses_step (.tcflush _) (hK (by decide))).bind fun _ => .pure _
  | rf d =>
    have hstrobe {Q : World σ → Prop} {cmd : UInt8} (hcmd : cmd ∈ Cc1120.linkStrobes) :
        os.Uses K E Q (cc1120Strobe os ctx.s cmd) :=
      uses_cc1120Strobe _ (.inr ⟨hcmd, hK (by decide)⟩)
    exact (hstrobe (by decide)).bind fun _ => (hstrobe (by decide)).bind fun _ => .pure _

/-- The effects of sleeping and flushing. -/
def drainEffects : List Effect := .nanosleep :: flushEffects

/-- Sleeping and flushing. -/
theorem uses_sleepAndFlush (hK : drainEffects ⊆ K) (hE : ∀ e, e ≠ .store .pkt → E e) :
    os.Uses K E P (sleepAndFlush os fuel) :=
  uses_getCtx fun _ => (uses_step (.nanosleep _) (hK (by decide))).bind fun _ =>
    (uses_ttaFlush fuel (List.Subset.trans (by decide) hK) hE).bind fun _ => .pure _

/-! ## Sending -/

/-- The effects of sending a packet once. -/
def backendSendEffects : List Effect :=
  [.garbage, .write, .rtsSet, .rtsClear, .txEmpty, .modemGet, .modemSet, .usleep, .gettimeofday,
   .strobe, .readReg, .fifoWrite]

/-- The wait for an empty transmitter. -/
theorem uses_waitTxEmpty (left : ℕ) (hK : [.txEmpty, .usleep] ⊆ K) :
    os.Uses K E P (waitTxEmpty os fd left) := by
  induction left generalizing P with
  | zero => exact uses_step (.txEmpty fd) (hK (by decide))
  | succ left ih =>
    exact (uses_step (.txEmpty fd) (hK (by decide))).bind fun _ => .ite (fun _ => .pure _) fun _ =>
      (uses_step (.usleep 100) (hK (by decide))).bind fun _ => ih

/-- Writing to a serial port. -/
theorem uses_writeUart (buf : Bytes) (hK : [.rtsSet, .write, .txEmpty, .usleep, .rtsClear] ⊆ K) :
    os.Uses K E P (writeUart os fd buf) := by
  refine (uses_step (.rtsSet fd) (hK (by decide))).bind fun _ =>
    (uses_step (.write fd buf) (hK (by decide))).bind fun r => ?_
  cases r with
  | none => exact .pure _
  | some n =>
    exact (uses_waitTxEmpty fd _ (List.Subset.trans (by decide) hK)).bind fun _ =>
      (uses_step (.rtsClear fd) (hK (by decide))).bind fun _ => .pure _

/-- Sending a packet over a serial line. -/
theorem uses_ttaRs485Send (d : TtaRs485) (pkt : Bytes)
    (hK : [.rtsSet, .write, .txEmpty, .usleep, .rtsClear, .modemGet, .modemSet] ⊆ K) :
    os.Uses K E P (ttaRs485Send os d fd pkt) := by
  have hrts {Q : World σ → Prop} (on : Bool) : os.Uses K E Q (ttaRs485IoctlRts os fd on) :=
    uses_ttaRs485IoctlRts fd on (List.Subset.trans (by decide) hK)
  have hdriven (rts : Rts) : os.Uses K E P (do
      ttaRs485IoctlRts os fd (rts = .up)
      let _ ← sys (os.usleep 10000)
      let size ← sys (os.write fd pkt)
      let _ ← sys (os.usleep 10000)
      ttaRs485IoctlRts os fd (rts ≠ .up)
      return size.map (min · pkt.length) : Machine σ (Option ℕ)) :=
    (hrts _).bind fun _ => (uses_step (.usleep _) (hK (by decide))).bind fun _ =>
      (uses_step (.write fd pkt) (hK (by decide))).bind fun _ =>
      (uses_step (.usleep _) (hK (by decide))).bind fun _ => (hrts _).bind fun _ => .pure _
  unfold ttaRs485Send
  cases d.rts with
  | none => exact uses_writeUart fd pkt (List.Subset.trans (by decide) hK)
  | up => exact hdriven .up
  | down => exact hdriven .down

/-- Filling the FIFO of the radio. -/
theorem uses_writeRf (buf : Bytes) (hK : [.garbage, .fifoWrite] ⊆ K)
    (hE : ∀ e, e ≠ .store .pkt → E e) : os.Uses K E P (writeRf os fd buf) := by
  have hwrite {Q : World σ → Prop} (fifo : Bytes) (len : ℕ) :
      os.Uses K E Q (cc1120FifoWrite os fd fifo len) :=
    (Exec.Built.access (hE (.load .fifo) (by decide)) _).bind fun _ =>
      (uses_step (.fifoWrite fd _) (hK (by decide))).bind fun _ => .pure _
  exact (uses_uninit _ (hK (by decide))).bind fun _ =>
    (Exec.Built.access (hE (.store .fifo) (by decide)) _).bind fun _ =>
    (Exec.Built.access (hE (.store .fifo) (by decide)) _).bind fun _ =>
    (hwrite _ _).bind fun _ => .pure _

/-- The carrier sense. -/
theorem uses_carrierSense (left : ℕ) (hK : [.usleep, .readReg] ⊆ K) :
    os.Uses K E P (carrierSense os fd left) := by
  induction left generalizing P with
  | zero => exact (uses_step (.usleep _) (hK (by decide))).bind fun _ => .pure _
  | succ left ih =>
    exact (uses_step (.usleep _) (hK (by decide))).bind fun _ =>
      (uses_cc1120ReadSingle fd _ (hK (by decide))).bind fun _ =>
      .ite (fun _ => .pure _) fun _ => ih

/-- The wait for the end of a transmission. -/
theorem uses_waitTxDone (deadline : Timeval) (fgstart : Bool)
    (hK : [.readReg, .gettimeofday, .usleep] ⊆ K) (hE : E .fuel) :
    os.Uses K E P (waitTxDone os fd deadline fuel fgstart) := by
  induction fuel generalizing P fgstart with
  | zero => exact .stop hE
  | succ fuel ih =>
    exact (uses_cc1120ReadSingle fd _ (hK (by decide))).bind fun _ =>
      .ite (fun _ => .pure _) fun _ =>
      (uses_step .gettimeofday (hK (by decide))).bind fun _ => .ite (fun _ => .pure _) fun _ =>
      (uses_step (.usleep _) (hK (by decide))).bind fun _ => ih _

/-- Sending a packet by radio. -/
theorem uses_ttaRfSend (pkt : Bytes)
    (hK : [.garbage, .usleep, .gettimeofday, .strobe, .readReg, .fifoWrite] ⊆ K)
    (hE : ∀ e, e ≠ .store .pkt → E e) : os.Uses K E P (ttaRfSend os fuel fd pkt) := by
  have hstrobe {Q : World σ → Prop} {cmd : UInt8} (hcmd : cmd ∈ Cc1120.linkStrobes) :
      os.Uses K E Q (cc1120Strobe os fd cmd) :=
    uses_cc1120Strobe fd (.inr ⟨hcmd, hK (by decide)⟩)
  have hend {Q : World σ → Prop} (rc : ℕ) (sent : Bool) : os.Uses K E Q (do
      cc1120Strobe os fd Cc1120.SIDLE
      cc1120Strobe os fd Cc1120.SFTX
      return if sent then some rc else none : Machine σ (Option ℕ)) :=
    (hstrobe (by decide)).bind fun _ => (hstrobe (by decide)).bind fun _ => .pure _
  refine (hstrobe (by decide)).bind fun _ => (hstrobe (by decide)).bind fun _ =>
    (uses_writeRf fd pkt (List.Subset.trans (by decide) hK) hE).bind fun rc =>
    (hstrobe (by decide)).bind fun _ =>
    (uses_carrierSense fd _ (List.Subset.trans (by decide) hK)).bind fun _ =>
    .ite (fun _ => ?_) fun _ => (Exec.Built.pure _).bind (hend rc)
  exact (hstrobe (by decide)).bind fun _ =>
    (uses_step .gettimeofday (hK (by decide))).bind fun _ =>
    (uses_waitTxDone fuel fd _ _ (List.Subset.trans (by decide) hK) (hE _ (by decide))).bind
      (hend rc)

/-- Sending a packet once. -/
theorem uses_backendSend (pkt : Bytes) (hK : backendSendEffects ⊆ K)
    (hE : ∀ e, e ≠ .store .pkt → E e) : os.Uses K E P (backendSend os fuel pkt) := by
  refine uses_getCtx fun ctx => ?_
  cases ctx.backend with
  | tcp d => exact (uses_step (.write _ pkt) (hK (by decide))).bind fun _ => .pure _
  | rs485 d => exact uses_ttaRs485Send _ d pkt (List.Subset.trans (by decide) hK)
  | rf d => exact uses_ttaRfSend fuel _ pkt (List.Subset.trans (by decide) hK) hE

/-! ## Recovering -/

/-- The effects of the recovery steps, but for closing and connecting. -/
def recoveryEffects : List Effect := .errno :: .setErrno :: drainEffects

/-- May the recovery steps close the context and connect it again? -/
def Reconnects (K : List Effect) : Prop := .reconnect ∈ K ∨ closeEffects ++ connectEffects ⊆ K

/-- Closing a context that recovers the link, and connecting it again, with `errno` restored. -/
theorem uses_reconnect (saved : Errno) (hR : Reconnects K) (hk : .setErrno ∈ K) (hE : E .fuel)
    (hP : .reconnect ∈ K → ∀ w, P w → w.ctx.recoversLink = true) : os.Uses K E P (do
      ttaClose os
      let _ ← ttaConnect os fuel
      setErrno saved) := by
  have hunit : os.Uses K E P (ttaClose os >>= fun _ => ttaConnect os fuel) := by
    rcases hR with hk | hK
    · exact .part (.reconnect fuel hk (hP hk))
    · exact (uses_ttaClose (List.Subset.trans (by decide) hK)).bind fun _ =>
        uses_ttaConnect fuel (List.Subset.trans (by decide) hK) hE
  rw [← bind_assoc]
  exact hunit.bind fun _ => uses_step (.setErrno saved) hk

/-- Sleeping and flushing, with `errno` restored. -/
theorem uses_drain (saved : Errno) (hK : recoveryEffects ⊆ K) (hE : ∀ e, e ≠ .store .pkt → E e) :
    os.Uses K E P (do
      sleepAndFlush os fuel
      setErrno saved) :=
  (uses_sleepAndFlush fuel (List.Subset.trans (by decide) hK) hE).bind fun _ =>
    uses_step (.setErrno saved) (hK (by decide))

/-- The recovery step of `_send_pkt`. -/
theorem uses_sendRecovery (hK : recoveryEffects ⊆ K) (hR : Reconnects K)
    (hE : ∀ e, e ≠ .store .pkt → E e)
    (hP : .reconnect ∈ K → ∀ w, P w → w.ctx.recoversLink = true) :
    os.Uses K E P (sendRecovery os fuel) := by
  refine uses_errno (f := fun saved =>
    if saved = .EBADF ∨ saved = .ECONNRESET ∨ saved = .EPIPE then do
      ttaClose os
      let _ ← ttaConnect os fuel
      setErrno saved
    else do
      sleepAndFlush os fuel
      setErrno saved) (hK (by decide)) fun e => .ite (fun _ => ?_) fun _ => uses_drain fuel e hK hE
  exact uses_reconnect fuel e hR (hK (by decide)) (hE _ (by decide)) fun hk w hw => hP hk w hw.1

/-- The loop of `_send_pkt`. -/
theorem uses_sendLoop (pkt : Bytes) (rounds : ℕ) (hK : backendSendEffects ++ recoveryEffects ⊆ K)
    (hR : Reconnects K) (hE : ∀ e, e ≠ .store .pkt → E e) :
    os.Uses K E P (sendLoop os fuel pkt rounds) := by
  induction rounds generalizing P with
  | zero => exact .stop (hE _ (by decide))
  | succ rounds ih =>
    refine (uses_backendSend fuel pkt (List.Subset.trans (by decide) hK) hE).bind fun r => ?_
    cases r with
    | some n => exact .pure _
    | none =>
      refine uses_getCtx fun ctx => .ite (fun hlink => ?_) fun _ => .pure _
      refine Exec.Built.bind ?_ fun _ => ih
      exact uses_sendRecovery fuel (List.Subset.trans (by decide) hK) hR hE fun _ w hw =>
        hw.2 ▸ hlink

/-- `_send_pkt`. -/
theorem uses_sendPkt (pkt : Bytes) (hK : backendSendEffects ++ recoveryEffects ⊆ K)
    (hR : Reconnects K) (hE : ∀ e, e ≠ .store .pkt → E e) :
    os.Uses K E P (sendPkt os fuel pkt) := by
  refine (uses_sendLoop fuel pkt _ hK hR hE).bind fun r => ?_
  cases r with
  | none => exact .pure _
  | some n =>
    exact .ite (fun _ => (uses_step (.setErrno _) (hK (by decide))).bind fun _ => .pure _)
      fun _ => .pure _

/-- The recovery step after a failing `select`. -/
theorem uses_selectRecovery (hK : recoveryEffects ⊆ K) (hR : Reconnects K)
    (hE : ∀ e, e ≠ .store .pkt → E e) : os.Uses K E P (selectRecovery os fuel) := by
  refine uses_getCtx fun ctx => .ite (fun hlink => ?_) fun _ => .pure _
  refine uses_errno (f := fun saved =>
    if saved = .ETIMEDOUT then do
      sleepAndFlush os fuel
      setErrno saved
    else if saved = .EBADF then do
      ttaClose os
      let _ ← ttaConnect os fuel
      setErrno saved
    else
      setErrno saved) (hK (by decide)) fun e => .ite (fun _ => uses_drain fuel e hK hE) fun _ =>
    .ite (fun _ => ?_) fun _ => uses_step (.setErrno e) (hK (by decide))
  exact uses_reconnect fuel e hR (hK (by decide)) (hE _ (by decide)) fun _ w hw => hw.1.2 ▸ hlink

/-- The recovery step after a failing read. -/
theorem uses_readRecovery (hK : recoveryEffects ⊆ K) (hR : Reconnects K)
    (hE : ∀ e, e ≠ .store .pkt → E e) : os.Uses K E P (readRecovery os fuel) := by
  refine uses_errno (f := fun saved => do
    if (← getCtx).recoversLink ∧
        (saved = .ECONNRESET ∨ saved = .ECONNREFUSED ∨ saved = .EBADF) then
      ttaClose os
      let _ ← ttaConnect os fuel
      setErrno saved) (hK (by decide)) fun e => uses_getCtx fun ctx => .ite (fun hlink => ?_)
    fun _ => .pure _
  exact uses_reconnect fuel e hR (hK (by decide)) (hE _ (by decide)) fun _ w hw => hw.2 ▸ hlink.1

/-! ## Receiving -/

/-- The effects of receiving a packet, but for those of the recovery steps. -/
def receiveEffects : List Effect :=
  [.garbage, .select, .read, .gettimeofday, .usleep, .strobe, .readReg, .fifoRead, .setErrno,
   .setConfirmationToIgnore, .rxfifo]

/-- Waiting for input. -/
theorem uses_backendSelect (tv : Option Timeval) (hK : [.select, .setErrno] ⊆ K) :
    os.Uses K E P (backendSelect os tv) := by
  have hwait {Q : World σ → Prop} (fd : Int) :
      os.Uses K E Q (ask (os.select fd tv) >>= SelectResult.answer) := by
    refine (uses_step (.select fd tv) (hK (by decide))).bind fun r => ?_
    cases r with
    | ready => exact .pure _
    | timeout => exact (uses_step (.setErrno _) (hK (by decide))).bind fun _ => .pure _
    | fail e he => exact (uses_step (.setErrno e) (hK (by decide))).bind fun _ => .pure _
  refine uses_getCtx fun ctx => ?_
  cases ctx.backend with
  | tcp d => exact hwait _
  | rs485 d => exact hwait _
  | rf d => exact .pure _

/-- Reading. -/
theorem uses_backendRecv (n : ℕ) (hK : [.read, .rxfifo] ⊆ K) :
    os.Uses K E P (backendRecv os n) := by
  have hread {Q : World σ → Prop} (fd : Int) : os.Uses K E Q
      (do return (← sys (os.read fd n)).map (List.take n) : Machine σ (Option Bytes)) :=
    (uses_step (.read fd n) (hK (by decide))).bind fun _ => .pure _
  refine uses_getCtx fun ctx => ?_
  cases ctx.backend with
  | tcp d => exact hread _
  | rs485 d => exact hread _
  | rf d => exact (uses_step (.readRf n) (hK (by decide))).bind fun _ => .pure _

/-- Storing what has been read. -/
theorem uses_receiveBytes (st : ReadState) (bs : Bytes) (hk : .setErrno ∈ K) (hE : ∀ e, E e) :
    os.Uses K E P (receiveBytes st bs) :=
  uses_getCtx fun _ => (Exec.Built.access (hE _) _).bind fun _ => .ite
    (fun _ => (Exec.Built.access (hE _) _).bind fun _ => .ite
      (fun _ => (uses_step (.setErrno _) hk).bind fun _ => .pure _) fun _ => .pure _)
    fun _ => .pure _

/-- One round of the reader. -/
theorem uses_receiveStep (st : ReadState) (hK : receiveEffects ++ recoveryEffects ⊆ K)
    (hR : Reconnects K) (hE : ∀ e, E e) : os.Uses K E P (receiveStep os fuel st) := by
  have hrecovery : recoveryEffects ⊆ K := List.Subset.trans (by decide) hK
  have hread {Q : World σ → Prop} : os.Uses K E Q (readRecovery os fuel) :=
    uses_readRecovery fuel hrecovery hR fun e _ => hE e
  refine (uses_backendSelect _ (List.Subset.trans (by decide) hK)).bind fun r => ?_
  cases r with
  | none =>
    exact (uses_selectRecovery fuel hrecovery hR fun e _ => hE e).bind fun _ => .pure _
  | some _ =>
    refine (uses_backendRecv _ (List.Subset.trans (by decide) hK)).bind fun r => ?_
    match r with
    | none => exact hread.bind fun _ => .pure _
    | some [] =>
      exact (uses_step (.setErrno _) (hK (by decide))).bind fun _ => hread.bind fun _ => .pure _
    | some (b :: bs) => exact uses_receiveBytes st (b :: bs) (hK (by decide)) hE

/-- The integrity check. -/
theorem uses_checkIntegrity (pkt : Bytes) (pktlen : ℕ) (hK : .setErrno :: flushEffects ⊆ K)
    (hE : ∀ e, E e) : os.Uses K E P (checkIntegrity os fuel pkt pktlen) := by
  have hload {Q : World σ → Prop} : os.Uses K E Q (loadSumsMatch pkt pktlen : Machine σ Bool) :=
    .ite (fun _ => .stop (hE _)) fun _ => (Exec.Built.access (hE _) _).bind fun _ => .pure _
  have hfail {Q : World σ → Prop} :
      os.Uses K E Q (do setErrno .EMBBADCRC; return none : Machine σ (Option ℕ)) :=
    (uses_step (.setErrno _) (hK (by decide))).bind fun _ => .pure _
  have hsums {Q : World σ → Prop} : os.Uses K E Q (checkSums os fuel pkt pktlen) := by
    refine hload.bind fun _ => .ite (fun _ => .pure _) fun _ => uses_getCtx fun _ =>
      .ite (fun _ => ?_) fun _ => hfail
    exact (uses_ttaFlush fuel (List.Subset.trans (by decide) hK) fun e _ => hE e).bind fun _ =>
      hfail
  refine uses_getCtx fun ctx => ?_
  cases ctx.backend with
  | tcp d => exact .pure _
  | rs485 d => exact hsums
  | rf d => exact hsums

/-- `_tta_receive_pkt`. -/
theorem uses_ttaReceivePkt (pkt : Bytes) (fgtimeout : Bool)
    (hK : receiveEffects ++ recoveryEffects ⊆ K) (hR : Reconnects K) (hE : ∀ e, E e) :
    os.Uses K E P (ttaReceivePkt os fuel pkt fgtimeout) := by
  have hloop {Q : World σ → Prop} (rounds : ℕ) (st : ReadState) :
      os.Uses K E Q (receiveLoop os fuel rounds st) := by
    induction rounds generalizing Q st with
    | zero => exact .ite (fun _ => .pure _) fun _ => .stop (hE _)
    | succ rounds ih =>
      refine .ite (fun _ => .pure _) fun _ => (uses_receiveStep fuel st hK hR hE).bind fun r => ?_
      cases r with
      | error pkt => exact .pure _
      | ok st' => exact ih st'
  refine uses_getCtx fun ctx => (hloop _ _).bind fun r => ?_
  cases r with
  | error pkt => exact .pure _
  | ok st =>
    exact (uses_checkIntegrity fuel _ _ (List.Subset.trans (by decide) hK) hE).bind fun _ => .pure _

/-- The receive functions of RS485 and RF, but for the radio. -/
theorem uses_receiveUnlessIgnored (pkt : Bytes) (fgtimeout : Bool)
    (hK : receiveEffects ++ recoveryEffects ⊆ K) (hR : Reconnects K) (hE : ∀ e, E e) :
    os.Uses K E P (receiveUnlessIgnored os fuel pkt fgtimeout) := by
  have hset {Q : World σ → Prop} (v : Bool) : os.Uses K E Q (setConfirmationToIgnore v) :=
    uses_step (.setConfirmationToIgnore v) (hK (by decide))
  exact uses_getCtx fun _ => .ite
    (fun _ => (uses_ttaReceivePkt fuel pkt fgtimeout hK hR hE).bind fun _ =>
      (hset false).bind fun _ => .pure _)
    fun _ => (uses_ttaReceivePkt fuel pkt fgtimeout hK hR hE).bind fun _ =>
      .ite (fun _ => (hset true).bind fun _ => .pure _) fun _ => .pure _

/-- The wait for a radio packet. -/
theorem uses_waitRxPacket (deadline : Timeval) (fifo : Bytes)
    (hK : [.readReg, .fifoRead, .rxfifo, .gettimeofday, .usleep] ⊆ K)
    (hE : ∀ e, e ≠ .store .pkt → E e) :
    os.Uses K E P (waitRxPacket os fd deadline fifo fuel) := by
  have hload : E (.load .fifo) := hE _ (by decide)
  have hfifo {Q : World σ → Prop} (len : UInt8) : os.Uses K E Q (cc1120FifoRead os fd fifo len) :=
    (uses_step (.fifoRead fd len) (hK (by decide))).bind fun _ =>
      .access (hE (.store .fifo) (by decide)) _
  induction fuel generalizing P with
  | zero => exact .stop (hE _ (by decide))
  | succ fuel ih =>
    refine (uses_cc1120ReadSingle fd _ (hK (by decide))).bind fun numrx =>
      (uses_cc1120ReadSingle fd _ (hK (by decide))).bind fun _ => .ite (fun _ => ?_) fun _ => ?_
    · exact (hfifo numrx).bind fun _ => (Exec.Built.access hload _).bind fun _ =>
        (Exec.Built.access hload _).bind fun _ => .ite
          (fun _ => (Exec.Built.access hload _).bind fun _ => (Exec.Built.access hload _).bind
            fun bs => (uses_step (.fillRxfifo bs) (hK (by decide))).bind fun _ => .pure _)
          fun _ => .pure _
    · exact (uses_step .gettimeofday (hK (by decide))).bind fun _ => .ite (fun _ => .pure _)
        fun _ => (uses_step (.usleep _) (hK (by decide))).bind fun _ => ih

/-- Receiving by radio. -/
theorem uses_ttaRfReceive (pkt : Bytes) (fgtimeout : Bool)
    (hK : receiveEffects ++ recoveryEffects ⊆ K) (hR : Reconnects K) (hE : ∀ e, E e) :
    os.Uses K E P (ttaRfReceive os fuel pkt fgtimeout) := by
  have hstrobe {Q : World σ → Prop} (fd : Int) {cmd : UInt8} (hcmd : cmd ∈ Cc1120.linkStrobes) :
      os.Uses K E Q (cc1120Strobe os fd cmd) :=
    uses_cc1120Strobe fd (.inr ⟨hcmd, hK (by decide)⟩)
  have hend {Q : World σ → Prop} (fd : Int) (res : Option ℕ × Bytes) : os.Uses K E Q (do
      cc1120Strobe os fd Cc1120.SIDLE
      cc1120Strobe os fd Cc1120.SFRX
      return res : Machine σ (Option ℕ × Bytes)) :=
    (hstrobe fd (by decide)).bind fun _ => (hstrobe fd (by decide)).bind fun _ => .pure _
  exact uses_getCtx fun ctx => (uses_uninit _ (hK (by decide))).bind fun fifo =>
    (uses_step .gettimeofday (hK (by decide))).bind fun start =>
    (hstrobe _ (by decide)).bind fun _ => (hstrobe _ (by decide)).bind fun _ =>
    (hstrobe _ (by decide)).bind fun _ =>
    (uses_waitRxPacket fuel _ _ fifo (List.Subset.trans (by decide) hK) fun e _ => hE e).bind
      fun got => .ite
        (fun _ => (uses_receiveUnlessIgnored fuel pkt fgtimeout hK hR hE).bind (hend _))
        fun _ => (Exec.Built.pure _).bind (hend _)

/-- The receive functions of the backends. -/
theorem uses_backendReceive (pkt : Bytes) (fgtimeout : Bool)
    (hK : receiveEffects ++ recoveryEffects ⊆ K) (hR : Reconnects K) (hE : ∀ e, E e) :
    os.Uses K E P (backendReceive os fuel pkt fgtimeout) := by
  refine uses_getCtx fun ctx => ?_
  cases ctx.backend with
  | tcp d => exact uses_ttaReceivePkt fuel pkt fgtimeout hK hR hE
  | rs485 d => exact uses_receiveUnlessIgnored fuel pkt fgtimeout hK hR hE
  | rf d => exact uses_ttaRfReceive fuel pkt fgtimeout hK hR hE

/-- Decoding. -/
theorem uses_convPkt2ttamsg (pkt : Bytes) (hE : E (.load .pkt)) :
    os.Uses K E P (convPkt2ttamsg pkt : Machine σ Ttamsg) := by
  have hcopy {Q : World σ → Prop} (preheader tid : ℕ) :
      os.Uses K E Q (copyTtamsg preheader tid pkt : Machine σ Ttamsg) :=
    (Exec.Built.access hE _).bind fun _ => (Exec.Built.access hE _).bind fun _ => .access hE _
  refine uses_getCtx fun ctx => ?_
  cases ctx.backend with
  | tcp d =>
    exact (Exec.Built.access hE _).bind fun _ => (Exec.Built.access hE _).bind fun _ => hcopy _ _
  | rs485 d => exact hcopy _ _
  | rf d => exact hcopy _ _

/-- The comparison of a response with its request. -/
theorem uses_preCheckConfirmation (req rsp : Bytes) (hk : .setErrno ∈ K) (hE : E (.load .pkt)) :
    os.Uses K E P (preCheckConfirmation req rsp : Machine σ Bool) := by
  have hbyte {Q : World σ → Prop} (pkt : Bytes) (i : ℕ) :
      os.Uses K E Q (loadByte pkt i : Machine σ UInt8) := .access hE _
  have hfail {Q : World σ → Prop} (e : Errno) :
      os.Uses K E Q (do setErrno e; return false : Machine σ Bool) :=
    (uses_step (.setErrno e) hk).bind fun _ => .pure _
  refine uses_getCtx fun ctx => ?_
  cases ctx.backend with
  | tcp d =>
    exact (hbyte req 0).bind fun _ => (hbyte rsp 0).bind fun _ => (hbyte req 1).bind fun _ =>
      (hbyte rsp 1).bind fun _ => .ite (fun _ => hfail _) fun _ => .pure _
  | rs485 d =>
    exact (hbyte req 1).bind fun _ => (hbyte rsp 1).bind fun _ => (hbyte req 3).bind fun _ =>
      (hbyte rsp 3).bind fun _ => .ite (fun _ => hfail _) fun _ => .pure _
  | rf d => exact (Exec.Built.access hE _).bind fun _ => .ite (fun _ => hfail _) fun _ => .pure _

/-- `check_confirmation`. -/
theorem uses_checkConfirmation (req rsp : Bytes) (hK : .setErrno :: drainEffects ⊆ K)
    (hE : ∀ e, e ≠ .store .pkt → E e) : os.Uses K E P (checkConfirmation os fuel req rsp) := by
  refine (uses_preCheckConfirmation req rsp (hK (by decide)) (hE _ (by decide))).bind fun _ =>
    .ite (fun _ => .pure _) fun _ => uses_getCtx fun _ => .ite (fun _ => ?_) fun _ => .pure _
  exact (uses_sleepAndFlush fuel (List.Subset.trans (by decide) hK) hE).bind fun _ => .pure _

/-! ## The public functions -/

/-- The effects of a call that sends or receives, but for closing and connecting. -/
def callEffects : List Effect :=
  .encode :: backendSendEffects ++ receiveEffects ++ recoveryEffects

/-- `tta_send`. -/
theorem uses_ttaSend (m : Ttamsg) (hK : callEffects ⊆ K) (hR : Reconnects K) (hE : ∀ e, E e) :
    os.Uses K E P (ttaSend os fuel m) :=
  (uses_uninit _ (hK (by decide))).bind fun buf =>
    (uses_step (.encode m buf) (hK (by decide))).bind fun ⟨_, _⟩ =>
    uses_sendPkt fuel _ (List.Subset.trans (by decide) hK) hR fun e _ => hE e

/-- `tta_receive`. -/
theorem uses_ttaReceive (fgtm : Bool) (hK : callEffects ⊆ K) (hR : Reconnects K) (hE : ∀ e, E e) :
    os.Uses K E P (ttaReceive os fuel fgtm) := by
  refine (uses_uninit _ (hK (by decide))).bind fun buf => (uses_backendReceive fuel buf fgtm
    (List.Subset.trans (by decide) hK) hR hE).bind fun r => ?_
  rcases r with ⟨_ | rc, buf'⟩
  · exact .pure _
  · exact (uses_convPkt2ttamsg buf' (hE _)).bind fun _ => .pure _

/-- The first half of a request. -/
theorem uses_ttaRequestSend (req : Ttamsg) (hK : callEffects ⊆ K) (hR : Reconnects K)
    (hE : ∀ e, E e) : os.Uses K E P (ttaRequestSend os fuel req) :=
  (uses_uninit _ (hK (by decide))).bind fun buf =>
    (uses_step (.encode req buf) (hK (by decide))).bind fun ⟨_, _⟩ =>
    (uses_sendPkt fuel _ (List.Subset.trans (by decide) hK) hR fun e _ => hE e).bind fun _ =>
    .pure _

/-- The second half of a request. -/
theorem uses_ttaRequestReceive (reqbuf : Bytes) (hK : callEffects ⊆ K) (hR : Reconnects K)
    (hE : ∀ e, E e) : os.Uses K E P (ttaRequestReceive os fuel reqbuf) := by
  refine (uses_uninit _ (hK (by decide))).bind fun buf => (uses_backendReceive fuel buf true
    (List.Subset.trans (by decide) hK) hR hE).bind fun r => ?_
  rcases r with ⟨_ | rc, buf'⟩
  · exact .pure _
  · exact (uses_checkConfirmation fuel reqbuf buf' (List.Subset.trans (by decide) hK)
      fun e _ => hE e).bind fun _ =>
        .ite (fun _ => (uses_convPkt2ttamsg buf' (hE _)).bind fun _ => .pure _)
        fun _ => .pure _

/-- `tta_request`. -/
theorem uses_ttaRequest (req : Ttamsg) (hK : callEffects ⊆ K) (hR : Reconnects K)
    (hE : ∀ e, E e) : os.Uses K E P (ttaRequest os fuel req) := by
  refine (uses_ttaRequestSend fuel req hK hR hE).bind fun r => ?_
  rcases r with ⟨reqbuf, _ | rc⟩
  · exact .pure _
  · exact uses_ttaRequestReceive fuel reqbuf hK hR hE

end Walk

end Libtta
