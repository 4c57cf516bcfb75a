import Libtta.Trace.Event
import Libtta.Context.Walk

/-!
# The calls of the device side

The kinds of calls that each function of the device side makes, from what the function is made of.
The functions that neither connect nor recover change nothing but `errno` (`Quiet`); connecting
replaces the descriptor as well, with the time that is left and the old settings of the line, and a
recovery step restores `errno` (`Extends`).
-/

namespace Libtta

variable {σ α : Type}

/-! ## Steps -/

/-- The kind of the call that a step makes, if it makes one that is recorded. -/
def Effect.kind : Effect → Option Kind
  | select => some .select
  | read => some .read
  | write => some .write
  | readNow | tcflush => some .discard
  | openDevice | socket => some .opened
  | close => some .close
  | setNodelay | setTos | connect | selectWrite | noError | tcsetattr => some .setup
  | rtsSet | rtsClear | modemSet => some .rts
  | txEmpty => some .txEmpty
  | strobe | setupStrobe => some .strobe
  | fifoRead => some .fifoRead
  | fifoWrite => some .fifoWrite
  | shutdown | tcgetattr | modemGet | nanosleep | usleep | readReg | writeReg => some .other
  | garbage | gettimeofday | errno | setErrno | setSocket | setTimeout | save
  | setConfirmationToIgnore | rxfifo | encode | reconnect => none

/-- The effects that change nothing but `errno`, to the code of a call that fails. -/
def quietEffects : List Effect :=
  [.garbage, .read, .write, .readNow, .openDevice, .close, .shutdown, .socket, .setNodelay, .setTos,
   .connect, .noError, .tcgetattr, .tcsetattr, .tcflush, .rtsSet, .rtsClear, .txEmpty, .modemGet,
   .modemSet, .nanosleep, .usleep, .gettimeofday, .strobe, .setupStrobe, .readReg, .writeReg,
   .fifoRead, .fifoWrite]

/-- The effects of connecting and recovering that are not quiet. -/
def extendingEffects : List Effect :=
  [.selectWrite, .errno, .setErrno, .setSocket, .setTimeout, .save]

/-- The effect is one of the given ones, and the call that it makes is of one of the kinds `K`. -/
def Effect.Allowed (effects : List Effect) (K : List Kind) (k : Effect) : Prop :=
  k ∈ effects ∧ ∀ c ∈ k.kind, c ∈ K

instance (effects : List Effect) (K : List Kind) (k : Effect) :
    Decidable (k.Allowed effects K) :=
  inferInstanceAs (Decidable (_ ∧ _))

variable {os : Os σ} {K : List Kind} {x : Machine (σ × List Event) α}

/-- The quiet steps. -/
theorem quiet_of_does {k : Effect} (h : os.traced.Does k x) (hk : k.Allowed quietEffects K) :
    Exec.Along (Quiet K) x := by
  obtain ⟨hquiet, hkind⟩ := hk
  cases h with
  | garbage | gettimeofday => exact quiet_ask
  | txEmpty | modemGet | readReg | fifoRead =>
    exact quiet_sysAnswer (fun _ => rfl) (fun _ => rfl) (hkind _ rfl)
  | select | selectWrite | setErrno | setSocket | setTimeout | save | setConfirmationToIgnore
  | fillRxfifo | readRf | encode => exact absurd hquiet (by decide)
  | read | setNodelay | setTos | connect | tcsetattr =>
    exact quiet_sys (fun _ => failureOf_map _ _) (fun _ => rfl) (hkind _ rfl)
  | _ => exact quiet_sys (fun _ => rfl) (fun _ => rfl) (hkind _ rfl)

/-- The steps of connecting and recovering. -/
theorem extends_of_does {k : Effect} (h : os.traced.Does k x)
    (hk : k.Allowed (extendingEffects ++ quietEffects) K) : Exec.Along (Extends K) x := by
  obtain ⟨hmem, hkind⟩ := hk
  rcases List.mem_append.mp hmem with hmem | hmem
  · cases h with
    | setErrno | setSocket | setTimeout | save =>
      exact Extends.modify (fun _ => rfl) (fun _ => ⟨rfl, rfl, rfl⟩) (fun _ => rfl) fun _ => rfl
    | selectWrite fd tv =>
      rintro w r _ ⟨⟩
      exact ⟨⟨[_], rfl, fun e he => List.mem_singleton.mp he ▸ hkind .setup rfl⟩,
        .of_eq rfl, rfl, rfl⟩
    | _ => exact absurd hmem (by decide)
  · exact (quiet_of_does h ⟨hmem, hkind⟩).mono fun _ _ => Quiet.extends

/-- What is made of quiet steps is quiet. -/
theorem quiet_of_uses {L : List Effect} (hL : ∀ k ∈ L, k.Allowed quietEffects K)
    (h : os.traced.Uses L (fun _ => True) (fun _ => True) x) : Exec.Along (Quiet K) x := by
  intro w a w' hrun
  refine h.along (R := Quiet K) (fun hy s r s' _ hrun => ?_) w a w' trivial hrun
  rcases hy with ⟨hk, hdoes⟩ | ⟨fuel, hk, -⟩
  · exact quiet_of_does hdoes (hL _ hk) s r s' hrun
  · exact absurd (hL _ hk).1 (by decide)

/-- What is made of steps of connecting and recovering extends the log. -/
theorem extends_of_uses {L : List Effect}
    (hL : ∀ k ∈ L, k.Allowed (extendingEffects ++ quietEffects) K)
    (h : os.traced.Uses L (fun _ => True) (fun _ => True) x) : Exec.Along (Extends K) x := by
  intro w a w' hrun
  refine h.along (R := Extends K) (fun hy s r s' _ hrun => ?_) w a w' trivial hrun
  rcases hy with ⟨hk, hdoes⟩ | ⟨fuel, hk, -⟩
  · exact extends_of_does hdoes (hL _ hk) s r s' hrun
  · exact absurd (hL _ hk).1 (by decide)

/-! ## Functions -/

section Functions

variable (os : Os σ) (fuel : ℕ) (fd : Int)

/-- A strobe. -/
theorem quiet_cc1120Strobe (cmd : UInt8) :
    Exec.Along (Quiet [.strobe]) (cc1120Strobe os.traced fd cmd) :=
  quiet_of_uses (L := [.setupStrobe]) (by decide) (uses_cc1120Strobe fd (.inl (by decide)))

/-- A register that is read. -/
theorem quiet_cc1120ReadSingle (addr : UInt16) :
    Exec.Along (Quiet [.other]) (cc1120ReadSingle os.traced fd addr) :=
  quiet_of_uses (L := [.readReg]) (by decide) (uses_cc1120ReadSingle fd addr (by decide))

/-- Driving the RTS line. -/
theorem quiet_ttaRs485IoctlRts (on : Bool) :
    Exec.Along (Quiet [.other, .rts]) (ttaRs485IoctlRts os.traced fd on) :=
  quiet_of_uses (L := [.modemGet, .modemSet]) (by decide) (uses_ttaRs485IoctlRts fd on (by decide))

/-- The kinds of calls that a connection is made with. -/
def connectKinds : List Kind := [.opened, .close, .setup, .rts, .strobe, .other]

/-- Connecting an RS485 context. -/
theorem extends_ttaRs485Connect (d : TtaRs485) :
    Exec.Along (Extends connectKinds) (ttaRs485Connect os.traced d) :=
  extends_of_uses (L := connectEffects) (by decide) (uses_ttaRs485Connect d (by decide))

/-- Connecting a socket. -/
theorem extends_connectSocket (d : TtaTcp) :
    Exec.Along (Extends [.setup]) (connectSocket os.traced fd d) :=
  extends_of_uses (by decide) (uses_connectSocket fd d (List.Subset.refl _))

/-- Connecting. -/
theorem extends_ttaConnect : Exec.Along (Extends connectKinds) (ttaConnect os.traced fuel) :=
  extends_of_uses (by decide) (uses_ttaConnect fuel (List.Subset.refl _) trivial)

/-- One read after the other discards what has arrived on a socket. -/
theorem quiet_ttaTcpFlushLoop (sum : Int) :
    Exec.Along (Quiet [.discard]) (ttaTcpFlushLoop os.traced fd fuel sum) :=
  quiet_of_uses (L := [.readNow]) (by decide)
    (uses_ttaTcpFlushLoop fuel fd sum (by decide) (by simp))

/-- The kinds of calls that a recovery step makes. -/
def recoveryKinds : List Kind := [.opened, .close, .setup, .rts, .strobe, .other, .discard]

/-- The effects of a recovery step. -/
def recoverEffects : List Effect := closeEffects ++ connectEffects ++ recoveryEffects

/-- They include closing and connecting. -/
theorem reconnects_recoverEffects : Reconnects recoverEffects := .inr (by decide)

/-- The recovery step of `_send_pkt`. -/
theorem extends_sendRecovery : Exec.Along (Extends recoveryKinds) (sendRecovery os.traced fuel) :=
  extends_of_uses (by decide) (uses_sendRecovery fuel (K := recoverEffects) (by decide)
    reconnects_recoverEffects (fun _ _ => trivial) fun hk => absurd hk (by decide))

/-- The recovery step after a failing `select`. -/
theorem extends_selectRecovery :
    Exec.Along (Extends recoveryKinds) (selectRecovery os.traced fuel) :=
  extends_of_uses (by decide) (uses_selectRecovery fuel (K := recoverEffects) (by decide)
    reconnects_recoverEffects fun _ _ => trivial)

/-- The recovery step after a failing read. -/
theorem extends_readRecovery : Exec.Along (Extends recoveryKinds) (readRecovery os.traced fuel) :=
  extends_of_uses (by decide) (uses_readRecovery fuel (K := recoverEffects) (by decide)
    reconnects_recoverEffects fun _ _ => trivial)

/-- The wait for an empty transmitter. -/
theorem quiet_waitTxEmpty (left : ℕ) :
    Exec.Along (Quiet [.txEmpty, .other]) (waitTxEmpty os.traced fd left) :=
  quiet_of_uses (L := [.txEmpty, .usleep]) (by decide) (uses_waitTxEmpty fd left (by decide))

/-- A local array costs no call. -/
theorem adds_uninit {os : Os σ} {n : ℕ} {buf : Bytes} {w w' : Traced σ}
    (h : (uninit os.traced n).run w = .ok (buf, w')) : Adds [] w w' ∧ buf.length = n := by
  obtain ⟨g, w₁, h₁, h⟩ := Exec.run_bind_eq_ok.mp h
  cases h
  exact ⟨adds_ask h₁, by rw [List.length_map, List.length_range]⟩

/-- The carrier sense. -/
theorem quiet_carrierSense (left : ℕ) :
    Exec.Along (Quiet [.other]) (carrierSense os.traced fd left) :=
  quiet_of_uses (L := [.usleep, .readReg]) (by decide) (uses_carrierSense fd left (by decide))

/-- The wait for the end of a transmission. -/
theorem quiet_waitTxDone (deadline : Timeval) (fgstart : Bool) :
    Exec.Along (Quiet [.other]) (waitTxDone os.traced fd deadline fuel fgstart) :=
  quiet_of_uses (L := [.readReg, .gettimeofday, .usleep]) (by decide)
    (uses_waitTxDone fuel fd deadline fgstart (by decide) trivial)

/-- The kinds of calls of the send functions of the backends. -/
def backendSendKinds : List Kind := [.write, .txEmpty, .rts, .strobe, .fifoWrite, .other]

/-- Sending a packet once. -/
theorem quiet_backendSend (pkt : Bytes) :
    Exec.Along (Quiet backendSendKinds) (backendSend os.traced fuel pkt) :=
  quiet_of_uses (by decide) (uses_backendSend fuel pkt (List.Subset.refl _) fun _ _ => trivial)

/-- The kinds of calls of `_send_pkt`. -/
def sendKinds : List Kind := backendSendKinds ++ recoveryKinds

/-- Sending a packet. -/
theorem extends_sendPkt (pkt : Bytes) :
    Exec.Along (Extends sendKinds) (sendPkt os.traced fuel pkt) :=
  extends_of_uses (by decide) (uses_sendPkt fuel pkt (K := backendSendEffects ++ recoverEffects)
    (by decide) (.inr (by decide)) fun _ _ => trivial)

end Functions

end Libtta
