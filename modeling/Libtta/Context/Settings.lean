import Libtta.Context.Device
import Libtta.Context.LineMode
import Libtta.Model.Tty

/-!
# The settings of a serial line over whole runs

Contexts may be connected to a serial line one after another. While a descriptor is open on the
line, it is set up as the context asks for, whatever is sent and received in between, and however
often the error recovery closes the line and opens it again. As soon as the descriptor is closed,
the settings are the original ones again, if the operating system gives them out and takes them back
(`settings_of_serialRun`). The library ignores the results of these two calls, so otherwise other
settings may be left behind.

The application must not connect a context whose descriptor is open: then the settings of the
context are kept in the place of the original ones.
-/

namespace Libtta

variable {σ : Type}

/-! ## The line -/

/-- On open descriptors, `tcgetattr` does not fail, and neither does a `tcsetattr` back to the
settings `orig`. Other settings may be refused. -/
structure Os.Restores (os : Os σ) (orig : Termios) : Prop where
  tcgetattr : ∀ fd d, ∃ t, (os.tcgetattr fd d).1 = .ok t
  tcsetattr : ∀ fd d, (os.tcsetattr fd orig d).1 = .ok ()

/-- No descriptor is open on a line that was set to `orig` before, and these are its settings if the
operating system restores them. -/
structure Tty.Closed (os : Os σ) (orig : Termios) (t : Tty) : Prop where
  fds : t.fds = []
  settings : os.Restores orig → t.settings = orig

/-- The descriptor of the context is open on a line that was set to `orig` before, which has the
settings the context asks for; the context has kept `orig` if the operating system gives it out. -/
structure Tty.Opened (os : Os σ) (orig : Termios) (p : Port (Tty × σ)) : Prop where
  fds : p.dev.1.fds = [p.s]
  settings : p.serial.bind rs485Tios = some p.dev.1.settings
  oldTios : os.Restores orig → p.oldTios = orig

/-- A line that is closed, or opened by the context. -/
def Tty.Settled (os : Os σ) (orig : Termios) (p : Port (Tty × σ)) : Prop :=
  Tty.Closed os orig p.dev.1 ∨ Tty.Opened os orig p

section

variable {os : Os σ} {orig : Termios} {w w' : World (Tty × σ)} {r : Option Unit} {u : Unit}

/-- Nothing but the rest of the device has changed, if the line is not opened or closed. -/
theorem fst_of_step_tty {d d' : Tty × σ} (h : (ttyOs os).Step d d') : d'.1 = d.1 := by
  cases h <;> rfl

/-- What `tcgetattr` gives on an open descriptor. -/
theorem tcgetattr_of_mem (os : Os σ) (orig : Termios) {fd : Int} {d : Tty × σ}
    (h : fd ∈ d.1.fds) :
    (Tty.tcgetattr os fd d).2.1 = d.1 ∧
      (os.Restores orig → (Tty.tcgetattr os fd d).1.toOption = some d.1.settings) := by
  unfold Tty.tcgetattr
  rw [if_pos h]
  refine ⟨rfl, fun hrestores => ?_⟩
  obtain ⟨t, ht⟩ := hrestores.tcgetattr fd d.2
  change ((os.tcgetattr fd d.2).1.map fun _ => d.1.settings).toOption = _
  rw [ht]
  rfl

/-- What `tcsetattr` does on an open descriptor. -/
theorem tcsetattr_of_mem (os : Os σ) (tios : Termios) {fd : Int} {d : Tty × σ}
    (h : fd ∈ d.1.fds) :
    (Tty.tcsetattr os fd tios d).2.1.fds = d.1.fds ∧
      ((Tty.tcsetattr os fd tios d).1.toOption = some () ∧
          (Tty.tcsetattr os fd tios d).2.1.settings = tios ∨
        (Tty.tcsetattr os fd tios d).1.toOption = none ∧
          (Tty.tcsetattr os fd tios d).2.1.settings = d.1.settings) := by
  unfold Tty.tcsetattr
  rw [if_pos h]
  refine ⟨rfl, ?_⟩
  change (os.tcsetattr fd tios d.2).1.toOption = some () ∧
      (if (os.tcsetattr fd tios d.2).1.isOk then tios else d.1.settings) = tios ∨
    (os.tcsetattr fd tios d.2).1.toOption = none ∧
      (if (os.tcsetattr fd tios d.2).1.isOk then tios else d.1.settings) = d.1.settings
  rcases (os.tcsetattr fd tios d.2).1 with e | ⟨⟩
  · exact .inr ⟨rfl, rfl⟩
  · exact .inl ⟨rfl, rfl⟩

/-- Setting up a line whose descriptor has just been opened: the settings that the context keeps are
those of the line, and if the line refuses those asked for, it is closed again. -/
theorem settled_of_programLine {fd : Int} {c : SerialSettings}
    (hserial : w.ctx.backend.serial = some c) (hfds : w.dev.1.fds = [fd]) (hs : w.ctx.s = fd)
    (horig : os.Restores orig → w.dev.1.settings = orig)
    (hrun : (do
      let old ← sys ((ttyOs os).tcgetattr fd)
      modifyCtx (Tta.save old)
      match ← programLine (ttyOs os) fd c with
      | none =>
        let _ ← sys ((ttyOs os).close fd)
        modifyCtx fun ctx => { ctx with s := -1 }
        return none
      | some _ =>
        let _ ← sys ((ttyOs os).rtsClear fd)
        return some () : Machine (Tty × σ) (Option Unit)).run w = .ok (r, w')) :
    Tty.Settled os orig w'.port := by
  obtain ⟨tios, htios, -⟩ := exists_rs485Tios c
  have hmem : fd ∈ w.dev.1.fds := hfds ▸ List.mem_singleton_self fd
  obtain ⟨old, w₁, hget, hrun⟩ := Exec.run_bind_eq_ok.mp hrun
  obtain ⟨e₁, hget'⟩ := exists_run_sys (Tty.tcgetattr os fd) w
  obtain ⟨rfl, rfl⟩ := Prod.mk.inj (Except.ok.inj (hget.symm.trans hget'))
  obtain ⟨_, w₂, ⟨⟩, hrun⟩ := Exec.run_bind_eq_ok.mp hrun
  obtain ⟨hline₁, hold⟩ := tcgetattr_of_mem os orig hmem
  set d₁ := (Tty.tcgetattr os fd w.dev).2
  obtain ⟨set, w₃, hset, hrun⟩ := Exec.run_bind_eq_ok.mp hrun
  rw [programLine, htios] at hset
  obtain ⟨e₂, hset'⟩ := exists_run_sys (Tty.tcsetattr os fd tios) _
  obtain ⟨rfl, rfl⟩ := Prod.mk.inj (Except.ok.inj (hset.symm.trans hset'))
  obtain ⟨hfds₂, hset₂⟩ := tcsetattr_of_mem os tios (d := d₁) (hline₁ ▸ hmem)
  rcases hset₂ with ⟨hsome, hsettings⟩ | ⟨hnone, hsettings⟩
  · -- the line has the settings asked for
    simp only [hsome] at hrun
    obtain ⟨_, w₄, hrts, ⟨⟩⟩ := Exec.run_bind_eq_ok.mp hrun
    obtain ⟨e₃, hrts'⟩ := exists_run_sys ((ttyOs os).rtsClear fd) _
    obtain ⟨-, rfl⟩ := Prod.mk.inj (Except.ok.inj (hrts.symm.trans hrts'))
    refine .inr ⟨?_, ?_, fun hrestores => ?_⟩
    · change (Tty.tcsetattr os fd tios d₁).2.1.fds = [w.ctx.s]
      rw [hfds₂, hline₁, hfds, hs]
    · change w.ctx.backend.serial.bind rs485Tios = some (Tty.tcsetattr os fd tios d₁).2.1.settings
      rw [hserial, hsettings]
      exact htios
    · change (Tty.tcgetattr os fd w.dev).1.toOption.getD w.ctx.oldTios = orig
      rw [hold hrestores]
      exact horig hrestores
  · -- the line refuses them
    simp only [hnone] at hrun
    obtain ⟨_, w₄, hclose, hrun⟩ := Exec.run_bind_eq_ok.mp hrun
    obtain ⟨e₃, hclose'⟩ := exists_run_sys (Tty.close os fd) _
    obtain ⟨-, rfl⟩ := Prod.mk.inj (Except.ok.inj (hclose.symm.trans hclose'))
    obtain ⟨_, w₅, ⟨⟩, ⟨⟩⟩ := Exec.run_bind_eq_ok.mp hrun
    refine .inl ⟨?_, fun hrestores => ?_⟩
    · change (Tty.tcsetattr os fd tios d₁).2.1.fds.filter (· ≠ fd) = []
      rw [hfds₂, hline₁, hfds]
      simp
    · change (Tty.tcsetattr os fd tios d₁).2.1.settings = orig
      rw [hsettings, hline₁]
      exact horig hrestores

/-- Connecting a context whose line is closed. -/
theorem settled_of_ttaConnect {fuel : ℕ} (hrs485 : w.ctx.type = .rs485)
    (h : Tty.Closed os orig w.dev.1)
    (hrun : (ttaConnect (ttyOs os) fuel).run w = .ok (r, w')) : Tty.Settled os orig w'.port := by
  obtain ⟨ctx, _, ⟨⟩, hrun⟩ := Exec.run_bind_eq_ok.mp hrun
  rcases hbe : w.ctx.backend with d | d | d
  · rw [Tta.type, hbe] at hrs485
    cases hrs485
  · simp only [hbe] at hrun
    obtain ⟨fd, w₁, hopen, hrun⟩ := Exec.run_bind_eq_ok.mp hrun
    obtain ⟨e, hopen'⟩ := exists_run_sys (Tty.openDevice os d.device) w
    obtain ⟨rfl, rfl⟩ := Prod.mk.inj (Except.ok.inj (hopen.symm.trans hopen'))
    obtain ⟨_, w₂, ⟨⟩, hrun⟩ := Exec.run_bind_eq_ok.mp hrun
    have hfds : (Tty.openDevice os d.device w.dev).2.1.fds =
        (Tty.openDevice os d.device w.dev).1.toOption.toList := by
      change _ ++ w.dev.1.fds = _
      rw [h.fds, List.append_nil]
      rfl
    rcases hfd : (Tty.openDevice os d.device w.dev).1.toOption with _ | fd
    · simp only [hfd] at hrun
      cases hrun
      exact .inl ⟨hfds.trans (congrArg Option.toList hfd), h.settings⟩
    · simp only [hfd] at hrun
      exact settled_of_programLine (w := { w with
          ctx := { w.ctx with s := fd }, dev := (Tty.openDevice os d.device w.dev).2, errno := e })
        (congrArg Backend.serial hbe) (hfds.trans (congrArg Option.toList hfd)) rfl h.settings hrun
  · rw [Tta.type, hbe] at hrs485
    cases hrs485

/-- Closing a context whose line is settled: the line is closed, and if it was open it has the
settings that the context had kept. -/
theorem closed_of_ttaClose (hrs485 : w.ctx.type = .rs485) (h : Tty.Settled os orig w.port)
    (hrun : (ttaClose (ttyOs os)).run w = .ok (u, w')) :
    w'.ctx = w.ctx ∧ Tty.Closed os orig w'.dev.1 := by
  obtain ⟨ctx, _, ⟨⟩, hrun⟩ := Exec.run_bind_eq_ok.mp hrun
  rcases hbe : w.ctx.backend with d | d | d
  · rw [Tta.type, hbe] at hrs485
    cases hrs485
  · simp only [hbe] at hrun
    obtain ⟨_, w₁, hset, hrun⟩ := Exec.run_bind_eq_ok.mp hrun
    obtain ⟨e, hset'⟩ := exists_run_sys (Tty.tcsetattr os w.ctx.s w.ctx.oldTios) w
    obtain ⟨-, rfl⟩ := Prod.mk.inj (Except.ok.inj (hset.symm.trans hset'))
    obtain ⟨_, w₂, hclose, ⟨⟩⟩ := Exec.run_bind_eq_ok.mp hrun
    obtain ⟨e', hclose'⟩ := exists_run_sys (Tty.close os w.ctx.s) _
    obtain ⟨-, rfl⟩ := Prod.mk.inj (Except.ok.inj (hclose.symm.trans hclose'))
    set d₁ := (Tty.tcsetattr os w.ctx.s w.ctx.oldTios w.dev).2 with hd₁
    refine ⟨rfl, ?_⟩
    change Tty.Closed os orig { d₁.1 with fds := d₁.1.fds.filter (· ≠ w.ctx.s) }
    rcases h with hclosed | hopened
    · have hsame : d₁ = w.dev := by
        rw [hd₁, Tty.tcsetattr, if_neg]
        rw [show w.dev.1.fds = [] from hclosed.fds]
        exact List.not_mem_nil
      rw [hsame]
      refine ⟨?_, hclosed.settings⟩
      change w.dev.1.fds.filter _ = []
      rw [show w.dev.1.fds = [] from hclosed.fds, List.filter_nil]
    · have hfds : w.dev.1.fds = [w.ctx.s] := hopened.fds
      have hmem : w.ctx.s ∈ w.dev.1.fds := hfds ▸ List.mem_singleton_self w.ctx.s
      have hpos : d₁ = ({ w.dev.1 with
          settings := if (os.tcsetattr w.ctx.s w.ctx.oldTios w.dev.2).1.isOk then w.ctx.oldTios
            else w.dev.1.settings }, (os.tcsetattr w.ctx.s w.ctx.oldTios w.dev.2).2) := by
        rw [hd₁, Tty.tcsetattr, if_pos hmem]
      refine ⟨?_, fun hrestores => ?_⟩
      · change d₁.1.fds.filter (· ≠ w.ctx.s) = []
        rw [hpos]
        change w.dev.1.fds.filter (· ≠ w.ctx.s) = []
        rw [hfds]
        simp
      · change d₁.1.settings = orig
        have hold : w.ctx.oldTios = orig := hopened.oldTios hrestores
        rw [hpos, hold, hrestores.tcsetattr w.ctx.s w.dev.2]
        rfl
  · rw [Tta.type, hbe] at hrs485
    cases hrs485

end

/-! ## Runs -/

/-- A settled line stays settled. -/
def Tty.KeepsSettled (os : Os σ) (orig : Termios) (p q : Port (Tty × σ)) : Prop :=
  Tty.Settled os orig p → Tty.Settled os orig q

instance (os : Os σ) (orig : Termios) : Std.Refl (Tty.KeepsSettled os orig) where
  refl _ h := h

instance (os : Os σ) (orig : Termios) :
    IsTrans (Port (Tty × σ)) (Tty.KeepsSettled os orig) where
  trans _ _ _ h h' hp := h' (h hp)

/-- The runs on a line that was set to `orig` before: RS485 contexts are connected to it, one after
another, and each is used as the application likes, except that it is not connected while its
descriptor is open, and its descriptor is not replaced. -/
inductive SerialRun (os : Os σ) (orig : Termios) : World (Tty × σ) → Prop
  | start {w : World (Tty × σ)} (hrs485 : w.ctx.type = .rs485) (hfds : w.dev.1.fds = [])
      (hsettings : w.dev.1.settings = orig) : SerialRun os orig w
  | call {w w' : World (Tty × σ)} (fuel : ℕ) (call : Call) (h : SerialRun os orig w)
      (hsocket : ∀ s, call ≠ .setSocket s) (hconnect : call = .connect → w.ctx.s ∉ w.dev.1.fds)
      (hrun : (call.run (ttyOs os) fuel).run w = .ok ((), w')) : SerialRun os orig w'
  | next {w w' : World (Tty × σ)} (h : SerialRun os orig w) (hfds : w.dev.1.fds = [])
      (hrs485 : w'.ctx.type = .rs485) (hdev : w'.dev = w.dev) : SerialRun os orig w'

section

variable {os : Os σ} {orig : Termios} {w w' : World (Tty × σ)}

/-- The error recovery leaves the line settled, as all other calls do. -/
theorem covers_keepsSettled : Covers (ttyOs os) .rs485 (Tty.KeepsSettled os orig) where
  step p d hstep h := by
    rcases h with h | h
    · exact .inl ((fst_of_step_tty hstep).symm ▸ h)
    · refine .inr ⟨?_, ?_, h.oldTios⟩
      · exact (congrArg Tty.fds (fst_of_step_tty hstep)).trans h.fds
      · exact h.settings.trans (congrArg some (congrArg Tty.settings (fst_of_step_tty hstep)).symm)
  reconnect fuel r w w' hrs485 _ hrun h := by
    obtain ⟨u, w₁, hclose, hconnect⟩ := Exec.run_bind_eq_ok.mp hrun
    obtain ⟨hctx, hclosed⟩ := closed_of_ttaClose hrs485 h hclose
    exact settled_of_ttaConnect (hctx ▸ hrs485) hclosed hconnect

/-- In every run the context is an RS485 context and the line is settled. -/
theorem settled_of_serialRun (h : SerialRun os orig w) :
    w.ctx.type = .rs485 ∧ Tty.Settled os orig w.port := by
  induction h with
  | start hrs485 hfds hsettings => exact ⟨hrs485, .inl ⟨hfds, fun _ => hsettings⟩⟩
  | @next w w' h hfds hrs485 hdev ih =>
    refine ⟨hrs485, .inl ?_⟩
    change Tty.Closed os orig w'.dev.1
    rw [hdev]
    refine ih.2.resolve_right fun hopened => ?_
    cases hfds.symm.trans hopened.fds
  | @call w w' fuel call h hsocket hconnect hrun ih =>
    obtain ⟨hrs485, hsettled⟩ := ih
    have hport (hcall : call.KeepsPort) : w'.ctx.type = .rs485 ∧ Tty.Settled os orig w'.port := by
      have hcovers : Covers (ttyOs os) .rs485 (Tty.KeepsSettled os orig) := covers_keepsSettled
      obtain ⟨htype, hport⟩ := moves_call hcovers fuel hcall w () w' hrun
      exact ⟨htype.trans hrs485, hport hrs485 hsettled⟩
    match call with
    | .setSocket s => exact absurd rfl (hsocket s)
    | .setErrorRecovery v =>
      cases hrun
      exact ⟨hrs485, hsettled.imp_right fun h => ⟨h.fds, h.settings, h.oldTios⟩⟩
    | .connect =>
      obtain ⟨r, w₁, hrun, ⟨⟩⟩ := Exec.run_bind_eq_ok.mp hrun
      have hbackend : w'.ctx.backend = w.ctx.backend :=
        (keeps_ttaConnect (P := (· = w.ctx.backend)) _ _).of_ok rfl hrun
      have hclosed : Tty.Closed os orig w.dev.1 := by
        refine hsettled.resolve_right fun hopened => hconnect rfl ?_
        rw [show w.dev.1.fds = [w.ctx.s] from hopened.fds]
        exact List.mem_singleton_self _
      exact ⟨(congrArg Backend.type hbackend).trans hrs485,
        settled_of_ttaConnect hrs485 hclosed hrun⟩
    | .close =>
      obtain ⟨hctx, hclosed⟩ := closed_of_ttaClose hrs485 hsettled hrun
      exact ⟨hctx ▸ hrs485, .inl hclosed⟩
    | .send _ | .receive _ | .reply _ _ | .request _ | .convTtamsg2pkt _ _ | .flush
    | .setResponseTimeout _ | .setByteTimeout _ | .setIp _ _ | .setId _ _ _ _ | .setRts _ =>
      exact hport trivial

/-- In every run on a line, either no descriptor is open on it, or only that of the context is, and
the line works as the context asks for. If the operating system gives the original settings out and
takes them back, they are the settings of the line while no descriptor is open, and closing the
context brings them back. -/
theorem settings_of_serialRun (h : SerialRun os orig w) :
    (w.dev.1.fds = [] ∨
      w.dev.1.fds = [w.ctx.s] ∧ ∃ d, w.ctx.backend = .rs485 d ∧
        rs485Tios d.serial = some w.dev.1.settings ∧ w.dev.1.settings.mode = d.serial.mode) ∧
    (os.Restores orig → (w.dev.1.fds = [] → w.dev.1.settings = orig) ∧
      ∀ w', (ttaClose (ttyOs os)).run w = .ok ((), w') →
        w'.dev.1.fds = [] ∧ w'.dev.1.settings = orig) := by
  obtain ⟨hrs485, hsettled⟩ := settled_of_serialRun h
  refine ⟨hsettled.imp Tty.Closed.fds fun hopened => ⟨hopened.fds, ?_⟩,
    fun hrestores => ⟨fun hfds => ?_, fun w' hclose => ?_⟩⟩
  · have hsettings : w.ctx.backend.serial.bind rs485Tios = some w.dev.1.settings := hopened.settings
    rcases hbe : w.ctx.backend with d | d | d
    · rw [Tta.type, hbe] at hrs485
      cases hrs485
    · rw [hbe] at hsettings
      obtain ⟨tios, htios, hmode⟩ := exists_rs485Tios d.serial
      have heq : tios = w.dev.1.settings := Option.some.inj (htios.symm.trans hsettings)
      exact ⟨d, rfl, hsettings, heq ▸ hmode⟩
    · rw [Tta.type, hbe] at hrs485
      cases hrs485
  · have hclosed := hsettled.resolve_right fun hopened => by cases hfds.symm.trans hopened.fds
    exact hclosed.settings hrestores
  · obtain ⟨-, hclosed⟩ := closed_of_ttaClose hrs485 hsettled hclose
    exact ⟨hclosed.fds, hclosed.settings hrestores⟩

end

/-- An RS485 context at a closed line that is set up for lines of text at 38400 baud. -/
def closedSerialWorld : World (Tty × Unit) where
  ctx := ttaNewRs485 "/dev/ttyS0"
  errno := .EBADF
  rxfifo := ⟨List.replicate 128 0, rfl⟩
  rxfifoPos := 0
  dev :=
    ({ settings :=
        { Termios.zero with
          iflag := 0x500, oflag := 0x5, cflag := 0xBF, lflag := 0x8A3B, ispeed := 0xF,
          ospeed := 0xF }
       fds := [] }, ())

/-- Connected with the settings that a new context has, by an operating system that gives the
settings out and takes all others. -/
theorem settings_of_serialRun_connected :
    (∃ w', (Call.connect.run (ttyOs {}) 1).run closedSerialWorld = .ok ((), w') ∧
      w'.dev.1.fds = [3] ∧
      (w'.dev.1.fds = [] ∨
        w'.dev.1.fds = [w'.ctx.s] ∧ ∃ d, w'.ctx.backend = .rs485 d ∧
          rs485Tios d.serial = some w'.dev.1.settings ∧ w'.dev.1.settings.mode = d.serial.mode) ∧
      (Os.Restores (σ := Unit) {} closedSerialWorld.dev.1.settings →
        (w'.dev.1.fds = [] → w'.dev.1.settings = closedSerialWorld.dev.1.settings) ∧
        ∀ w'', (ttaClose (ttyOs {})).run w' = .ok ((), w'') →
          w''.dev.1.fds = [] ∧ w''.dev.1.settings = closedSerialWorld.dev.1.settings)) ∧
    Os.Restores (σ := Unit) {} closedSerialWorld.dev.1.settings := by
  refine ⟨⟨_, rfl, rfl, settings_of_serialRun (.call 1 .connect (.start rfl rfl rfl) ?_ ?_ rfl)⟩,
    fun fd d => ⟨_, rfl⟩, fun fd d => rfl⟩
  · rintro _ ⟨⟩
  · rintro - ⟨⟩

/-- If `tcgetattr` fails, closing the context leaves settings that the line never had. -/
example : ∃ w', (do
    let _ ← ttaConnect (ttyOs { tcgetattr := fun _ d => (.error .EINVAL, d) }) 1
    ttaClose (ttyOs {})).run closedSerialWorld = .ok ((), w') ∧
      w'.dev.1.fds = [] ∧ w'.dev.1.settings = .zero :=
  ⟨_, rfl, rfl, rfl⟩

/-- Connecting twice loses the original settings: closing the context restores those it has
programmed. -/
example : ∃ w', (do
    let _ ← ttaConnect (ttyOs {}) 1
    let _ ← ttaConnect (ttyOs {}) 1
    ttaClose (ttyOs {})).run closedSerialWorld = .ok ((), w') ∧
      some w'.dev.1.settings = rs485Tios ⟨115200, 8, 1, .none⟩ ∧
      w'.dev.1.settings ≠ closedSerialWorld.dev.1.settings :=
  ⟨_, rfl, by decide, by decide⟩

end Libtta
