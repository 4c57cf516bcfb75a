import Libtta.Context.Bounds
import Libtta.Model.Api

/-!
# What the calls do to the device

The descriptor of a context and the device behind it change only by single calls to the operating
system, and where the error recovery closes the context and connects it again. So a relation between
what a context has of its line, before and after, holds for every call of the library once it holds
for these (`moves_call`). Connecting and closing from outside are left out: they are what such a
relation is about.
-/

namespace Libtta

variable {σ α β : Type}

/-! ## Single calls -/

/-- A device after one call to the operating system, other than those of connecting and closing. -/
inductive Os.Step (os : Os σ) : σ → σ → Prop
  | garbage (d : σ) : Step os d (os.garbage d).2
  | select (fd : Int) (tv : Option Timeval) (d : σ) : Step os d (os.select fd tv d).2
  | read (fd : Int) (n : ℕ) (d : σ) : Step os d (os.read fd n d).2
  | write (fd : Int) (bs : Bytes) (d : σ) : Step os d (os.write fd bs d).2
  | readNow (fd : Int) (n : ℕ) (d : σ) : Step os d (os.readNow fd n d).2
  | tcflush (fd : Int) (d : σ) : Step os d (os.tcflush fd d).2
  | rtsSet (fd : Int) (d : σ) : Step os d (os.rtsSet fd d).2
  | rtsClear (fd : Int) (d : σ) : Step os d (os.rtsClear fd d).2
  | txEmpty (fd : Int) (d : σ) : Step os d (os.txEmpty fd d).2
  | modemGet (fd : Int) (d : σ) : Step os d (os.modemGet fd d).2
  | modemSet (fd : Int) (flags : UInt32) (d : σ) : Step os d (os.modemSet fd flags d).2
  | nanosleep (tv : Timeval) (d : σ) : Step os d (os.nanosleep tv d).2
  | usleep (n : ℕ) (d : σ) : Step os d (os.usleep n d).2
  | gettimeofday (d : σ) : Step os d (os.gettimeofday d).2
  | strobe (fd : Int) {cmd : UInt8} (d : σ) :
      cmd ∈ Cc1120.linkStrobes → Step os d (os.strobe fd cmd d).2
  | readReg (fd : Int) (addr : UInt16) (d : σ) : Step os d (os.readReg fd addr d).2
  | fifoRead (fd : Int) (len : UInt8) (d : σ) : Step os d (os.fifoRead fd len d).2
  | fifoWrite (fd : Int) (bs : Bytes) (d : σ) : Step os d (os.fifoWrite fd bs d).2

/-! ## Ports -/

/-- The settings of the line that a context asks for. -/
def Backend.serial : Backend → Option SerialSettings
  | .rs485 d => some d.serial
  | _ => none

/-- What a context has of its line: the descriptor, the recovery of the link, the settings asked for
and those kept, and the device behind it. -/
@[ext] structure Port (σ : Type) where
  s : Int
  recovers : Bool
  serial : Option SerialSettings
  oldTios : Termios
  dev : σ

/-- The port of a context, with a device behind it. -/
def Tta.port (ctx : Tta) (dev : σ) : Port σ where
  s := ctx.s
  recovers := ctx.recoversLink
  serial := ctx.backend.serial
  oldTios := ctx.oldTios
  dev := dev

/-- The port of the program. -/
def World.port (w : World σ) : Port σ := w.ctx.port w.dev

/-- The type of the context stays, and if it is `b`, the port changes as `R` says. -/
structure Moves (b : BackendType) (R : Port σ → Port σ → Prop) (w w' : World σ) : Prop where
  type : w'.ctx.type = w.ctx.type
  port : w.ctx.type = b → R w.port w'.port

/-- The relation holds for single calls, and where a context of type `b` that recovers the link is
closed and connected again. -/
structure Covers (os : Os σ) (b : BackendType) (R : Port σ → Port σ → Prop) : Prop where
  step : ∀ (p : Port σ) (d : σ), os.Step p.dev d → R p { p with dev := d }
  reconnect : ∀ fuel r w w', w.ctx.type = b → w.ctx.recoversLink = true →
    (ttaClose os >>= fun _ => ttaConnect os fuel).run w = .ok (r, w') → R w.port w'.port

section Rules

variable {b : BackendType} {R : Port σ → Port σ → Prop} [Std.Refl R] [IsTrans (Port σ) R]

instance : Std.Refl (Moves b R : World σ → World σ → Prop) where
  refl w := ⟨rfl, fun _ => refl_of R w.port⟩

instance : IsTrans (World σ) (Moves b R) where
  trans w w' w'' h h' := by
    refine ⟨h'.type.trans h.type, fun hb => ?_⟩
    exact trans_of R (h.port hb) (h'.port (h.type.trans hb))

/-! ## Steps -/

omit [IsTrans (Port σ) R] in
/-- Updating anything but the type and the port. -/
theorem moves_modify {g : World σ → World σ} (htype : ∀ w, (g w).ctx.type = w.ctx.type)
    (hport : ∀ w, (g w).port = w.port) :
    Exec.Along (Moves b R) (modify g : Machine σ PUnit) := by
  refine .modify fun w => ⟨htype w, fun _ => ?_⟩
  rw [hport]
  exact refl_of R w.port

omit [IsTrans (Port σ) R] in
/-- Setting `errno`. -/
theorem moves_setErrno (e : Errno) : Exec.Along (Moves b R) (setErrno e : Machine σ Unit) :=
  moves_modify (fun _ => rfl) fun _ => rfl

omit [IsTrans (Port σ) R] in
/-- Building a packet. -/
theorem moves_convTtamsg2pkt (m : Ttamsg) (pkt : Bytes) :
    Exec.Along (Moves b R) (convTtamsg2pkt m pkt : Machine σ (Bytes × ℕ)) := by
  intro w r w' hrun
  obtain ⟨-, rfl, -⟩ := run_convTtamsg2pkt_eq_ok hrun
  refine ⟨w.ctx.type_stepped, fun _ => ?_⟩
  have hport : ({ w with ctx := w.ctx.stepped } : World σ).port = w.port := by
    refine Port.ext rfl rfl ?_ rfl rfl
    change w.ctx.backend.stepped.serial = w.ctx.backend.serial
    cases w.ctx.backend <;> rfl
  rw [hport]
  exact refl_of R w.port

omit [IsTrans (Port σ) R] in
/-- Setting or clearing the flag of the receive functions. -/
theorem moves_setConfirmationToIgnore (v : Bool) :
    Exec.Along (Moves b R) (setConfirmationToIgnore v : Machine σ Unit) := by
  refine moves_modify (fun w => ?_) fun w => Port.ext rfl rfl ?_ rfl rfl
  · change (w.ctx.backend.setConfirmationToIgnore v).type = w.ctx.backend.type
    cases w.ctx.backend <;> rfl
  · change (w.ctx.backend.setConfirmationToIgnore v).serial = w.ctx.backend.serial
    cases w.ctx.backend <;> rfl

omit [IsTrans (Port σ) R] in
/-- Filling and reading the static receive buffer. -/
theorem moves_rxfifo {os : Os σ} {x : Machine σ α} (h : os.Does .rxfifo x) :
    Exec.Along (Moves b R) x := by
  intro w a w' hrun
  obtain ⟨v, pos, rfl⟩ := exists_of_rxfifo h hrun
  exact ⟨rfl, fun _ => refl_of R _⟩

variable {os : Os σ} (h : Covers os b R)
include h

omit [Std.Refl R] [IsTrans (Port σ) R] in
/-- A call that has no way to fail. -/
theorem moves_ask {call : σ → α × σ} (hcall : ∀ d, os.Step d (call d).2) :
    Exec.Along (Moves b R) (ask call) := by
  rintro w _ _ ⟨⟩
  exact ⟨rfl, fun _ => h.step w.port _ (hcall w.dev)⟩

/-- A call. -/
theorem moves_sys {call : σ → Except Errno α × σ} (hcall : ∀ d, os.Step d (call d).2) :
    Exec.Along (Moves b R) (sys call) := by
  refine (moves_ask h hcall).bind fun r => ?_
  rcases r with e | a
  · exact (moves_setErrno e).bind fun _ => .pure _
  · exact .pure _

/-- A call that leaves an answer. -/
theorem moves_sysAnswer {call : σ → (α × Except Errno Unit) × σ}
    (hcall : ∀ d, os.Step d (call d).2) : Exec.Along (Moves b R) (sysAnswer call) := by
  refine (moves_ask h hcall).bind fun r => ?_
  rcases r with ⟨a, e | u⟩
  · exact (moves_setErrno e).bind fun _ => .pure _
  · exact .pure _

/-- The steps of sending, receiving and flushing. -/
theorem moves_of_does {k : Effect} {x : Machine σ α} (hx : os.Does k x) (hk : k ∈ callEffects) :
    Exec.Along (Moves b R) x := by
  cases hx with
  | garbage => exact moves_ask h .garbage
  | select fd tv => exact moves_ask h (.select fd tv)
  | gettimeofday => exact moves_ask h .gettimeofday
  | read fd n => exact moves_sys h (.read fd n)
  | write fd bs => exact moves_sys h (.write fd bs)
  | readNow fd n => exact moves_sys h (.readNow fd n)
  | tcflush fd => exact moves_sys h (.tcflush fd)
  | rtsSet fd => exact moves_sys h (.rtsSet fd)
  | rtsClear fd => exact moves_sys h (.rtsClear fd)
  | modemSet fd flags => exact moves_sys h (.modemSet fd flags)
  | nanosleep tv => exact moves_sys h (.nanosleep tv)
  | usleep n => exact moves_sys h (.usleep n)
  | strobe fd hcmd => exact moves_sys h fun d => .strobe fd d hcmd
  | fifoWrite fd bs => exact moves_sys h (.fifoWrite fd bs)
  | txEmpty fd => exact moves_sysAnswer h (.txEmpty fd)
  | modemGet fd => exact moves_sysAnswer h (.modemGet fd)
  | readReg fd addr => exact moves_sysAnswer h (.readReg fd addr)
  | fifoRead fd len => exact moves_sysAnswer h (.fifoRead fd len)
  | setErrno e => exact moves_setErrno e
  | setConfirmationToIgnore v => exact moves_setConfirmationToIgnore v
  | fillRxfifo bs => exact moves_rxfifo (.fillRxfifo bs : os.Does _ _)
  | readRf n => exact moves_rxfifo (.readRf n : os.Does _ _)
  | encode m pkt => exact moves_convTtamsg2pkt m pkt
  | openDevice | close | shutdown | socket | setNodelay | setTos | connect | selectWrite | noError
  | tcgetattr | tcsetattr | setupStrobe | writeReg | setSocket | setTimeout | save =>
    exact absurd hk (by decide)

omit [Std.Refl R] [IsTrans (Port σ) R] in
/-- Closing a context that recovers the link, and connecting it again. -/
theorem moves_reconnect {fuel : ℕ} {w w' : World σ} {r : Option Unit}
    (hlink : w.ctx.recoversLink = true)
    (hrun : (ttaClose os >>= fun _ => ttaConnect os fuel).run w = .ok (r, w')) :
    Moves b R w w' := by
  obtain ⟨u, w₁, hclose, hconnect⟩ := Exec.run_bind_eq_ok.mp hrun
  have htype₁ : w₁.ctx.backend.type = w.ctx.type :=
    (keeps_ttaClose (P := fun be => be.type = w.ctx.type) os).of_ok rfl hclose
  have htype₂ : w'.ctx.backend.type = w.ctx.type :=
    (keeps_ttaConnect (P := fun be => be.type = w.ctx.type) os fuel).of_ok htype₁ hconnect
  exact ⟨htype₂, fun hb => h.reconnect fuel r w w' hb hlink hrun⟩

/-! ## Calls -/

/-- What is made of steps of sending, receiving and flushing, and of link recoveries. -/
theorem moves_of_uses {E : Stop → Prop} {x : Machine σ α}
    (hx : os.Uses (.reconnect :: callEffects) E (fun _ => True) x) :
    Exec.Along (Moves b R) x := by
  intro w a w' hrun
  refine hx.along (R := Moves b R) (fun hy s r s' hs hrun => ?_) w a w' trivial hrun
  rcases hy with ⟨hk, hdoes⟩ | ⟨fuel, -, hlink⟩
  · rename_i k
    rcases List.mem_cons.mp hk with rfl | hk
    · cases hdoes
    · exact moves_of_does h hdoes hk s r s' hrun
  · exact moves_reconnect h (hlink s hs) hrun

/-- Setting the RTS mode. -/
theorem moves_ttaRs485SetRts (mode : Rts) : Exec.Along (Moves b R) (ttaRs485SetRts os mode) := by
  have hfail : Exec.Along (Moves b R) (do
      setErrno .EINVAL
      return none : Machine σ (Option Unit)) :=
    (moves_setErrno _).bind fun _ => .pure _
  have hioctl (fd : Int) (on : Bool) : Exec.Along (Moves b R) (ttaRs485IoctlRts os fd on) :=
    moves_of_uses h (E := fun _ => True) (uses_ttaRs485IoctlRts fd on (by decide))
  intro w r w' hrun
  obtain ⟨ctx, _, ⟨⟩, hrun⟩ := Exec.run_bind_eq_ok.mp hrun
  rcases hbe : w.ctx.backend with d | d | d
  · rw [hbe] at hrun
    exact hfail w r w' hrun
  · rw [hbe] at hrun
    obtain ⟨_, w₁, ⟨⟩, hrun⟩ := Exec.run_bind_eq_ok.mp hrun
    obtain ⟨_, w₂, hrts, ⟨⟩⟩ := Exec.run_bind_eq_ok.mp hrun
    obtain ⟨htype, hport⟩ := hioctl _ _ _ _ _ hrts
    have hrs485 : BackendType.rs485 = w.ctx.type := (congrArg Backend.type hbe).symm
    refine ⟨htype.trans hrs485, fun hb => ?_⟩
    have hsame : World.port { w with ctx :=
        { w.ctx with backend := .rs485 { d with rts := mode } } } = w.port := by
      refine Port.ext rfl rfl ?_ rfl rfl
      change some d.serial = w.ctx.backend.serial
      rw [hbe]
      rfl
    exact hsame ▸ hport (hrs485.trans hb)
  · rw [hbe] at hrun
    exact hfail w r w' hrun

end Rules

/-- The calls that do not connect, close or replace the descriptor from outside, or set the recovery
mode. -/
def Call.KeepsPort : Call → Prop
  | connect => False
  | close => False
  | setSocket _ => False
  | setErrorRecovery _ => False
  | _ => True

/-- What holds for single calls to the operating system and for recovering the link holds for every
call of the library that does not connect, close or replace the descriptor, or set the recovery
mode. -/
theorem moves_call {os : Os σ} {b : BackendType} {R : Port σ → Port σ → Prop} [Std.Refl R]
    [IsTrans (Port σ) R] (h : Covers os b R) (fuel : ℕ) {c : Call} (hc : c.KeepsPort) :
    Exec.Along (Moves b R) (c.run os fuel) := by
  have hset {f : Tta → Tta} (htype : ∀ ctx, (f ctx).type = ctx.type)
      (hport : ∀ ctx dev, (f ctx).port (σ := σ) dev = ctx.port dev) :
      Exec.Along (Moves b R) (modifyCtx f : Machine σ Unit) :=
    moves_modify (fun w => htype w.ctx) fun w => hport w.ctx w.dev
  have huses {α : Type} {x : Machine σ α}
      (hx : os.Uses (.reconnect :: callEffects) (fun _ => True) (fun _ => True) x) :
      Exec.Along (Moves b R) (do let _ ← x : Machine σ Unit) :=
    (moves_of_uses h hx).bind fun _ => .pure _
  have hR : Reconnects (.reconnect :: callEffects) := .inl (by decide)
  have hK : callEffects ⊆ .reconnect :: callEffects := by decide
  match c with
  | .send m => exact huses (uses_ttaSend fuel m hK hR fun _ => trivial)
  | .receive fgtm => exact huses (uses_ttaReceive fuel fgtm hK hR fun _ => trivial)
  | .reply req data => exact huses (uses_ttaSend fuel (replyMsg req data) hK hR fun _ => trivial)
  | .request req => exact huses (uses_ttaRequest fuel req hK hR fun _ => trivial)
  | .convTtamsg2pkt m pkt => exact huses (uses_step (.encode m pkt) (by decide))
  | .flush => exact huses (uses_ttaFlush fuel (by decide) fun _ _ => trivial)
  | .setResponseTimeout tv => exact hset (fun _ => rfl) fun _ _ => rfl
  | .setByteTimeout tv => exact hset (fun _ => rfl) fun _ _ => rfl
  | .setIp ip port =>
    refine hset (fun ctx => ?_) fun ctx dev => ?_
    all_goals
      unfold ttaTcpSetIp
      rcases hbe : ctx.backend with d | d | d <;>
        simp [Tta.type, Tta.port, Tta.recoversLink, hbe, Backend.type, Backend.serial]
  | .setId id0 id1 id2 id3 =>
    refine hset (fun ctx => ?_) fun ctx dev => ?_
    all_goals
      unfold ttaRfSetId
      rcases hbe : ctx.backend with d | d | d <;>
        simp [Tta.type, Tta.port, Tta.recoversLink, hbe, Backend.type, Backend.serial]
  | .setRts mode => exact (moves_ttaRs485SetRts h mode).bind fun _ => .pure _

end Libtta
