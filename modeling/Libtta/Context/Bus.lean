import Libtta.Context.Reachable
import Libtta.Send.Attempts

/-!
# The RTS line of an RS485 context

The RTS line drives the transmitter of the bus. `rtsLine` reads its level off a record of calls, and
`Released` says that a connected context leaves it at the opposite of the level at which its mode
transmits. Connecting, changing the mode and a failing write do not take the mode into account in
the same way: `Releases` is the condition under which a call leaves the bus released, and
`released_of_busRun` says that in a run of such calls the bus is released after each of them.
-/

namespace Libtta

variable {σ : Type}

/-! ## The line -/

/-- The level of the line while a mode transmits. -/
def Rts.transmitLevel : Rts → Bool
  | none => true
  | up => true
  | down => false

/-- The level that a call puts the line to. -/
def Event.rtsLevel : Event → Option Bool
  | rts _ level .none => some level
  | _ => .none

/-- The level of the line behind the calls in a log. -/
def rtsLine (log : List Event) : Option Bool := log.findSome? Event.rtsLevel

/-- Later calls that put the line to a level decide. -/
theorem rtsLine_append_of_some {evs : List Event} {level : Bool} (h : rtsLine evs = some level)
    (log : List Event) : rtsLine (evs ++ log) = some level := by
  rw [rtsLine, List.findSome?_append, ← rtsLine, h]
  rfl

/-- An ioctl on the descriptor of a connected context succeeds. -/
def IoctlSucceeds (evs : List Event) : Prop :=
  ∀ fd level failure, .rts fd level failure ∈ evs → fd ≠ -1 → failure = none

/-- A write to the descriptor of a connected context succeeds. -/
def WriteSucceeds (evs : List Event) : Prop :=
  ∀ fd bs e, .write fd bs (.error e) ∈ evs → fd = -1

/-- Some of the calls may be left out. -/
theorem IoctlSucceeds.mono {evs evs' : List Event} (h : IoctlSucceeds evs') (hsub : evs ⊆ evs') :
    IoctlSucceeds evs :=
  fun fd level failure hev => h fd level failure (hsub hev)

/-- Some of the calls may be left out. -/
theorem WriteSucceeds.mono {evs evs' : List Event} (h : WriteSucceeds evs') (hsub : evs ⊆ evs') :
    WriteSucceeds evs :=
  fun fd bs e hev => h fd bs e (hsub hev)

/-- The bus is released: if the RS485 context is connected, the line is at the opposite of the level
at which the mode transmits. -/
def Released (w : Traced σ) : Prop :=
  ∃ d, w.ctx.backend = .rs485 d ∧
    (w.ctx.s ≠ -1 → rtsLine w.log = some (!d.rts.transmitLevel))

/-! ## One call of the device -/

/-- The flags that `_tta_rs485_ioctl_rts` sets say the level that it is asked for. -/
theorem rtsLevel_of_flags (flags : UInt32) (on : Bool) :
    rtsLevel (if on then flags ||| tiocmRts else flags &&& ~~~tiocmRts) = on := by
  cases on with
  | true =>
    have habsorb : (flags ||| tiocmRts) &&& tiocmRts = tiocmRts := by
      apply UInt32.eq_of_toBitVec_eq
      ext i
      simp only [UInt32.toBitVec_and, UInt32.toBitVec_or, BitVec.getElem_and, BitVec.getElem_or,
        Bool.and_eq_right_iff_imp, Bool.or_eq_true]
      intro h
      exact .inr h
    rw [if_pos rfl, rtsLevel, habsorb]
    rfl
  | false =>
    rw [if_neg Bool.false_ne_true, rtsLevel, UInt32.and_assoc,
      show ~~~tiocmRts &&& tiocmRts = 0 by decide, UInt32.and_zero]
    rfl

variable {os : Os σ} {fuel : ℕ} {fd : Int}

/-- `_tta_rs485_ioctl_rts` puts the line to the level that it is asked for. -/
theorem adds_ttaRs485IoctlRts {on : Bool} {w w' : Traced σ} {u : Unit}
    (h : (ttaRs485IoctlRts os.traced fd on).run w = .ok (u, w')) :
    ∃ failure failure', Adds [.rts fd on failure', .other failure] w w' := by
  obtain ⟨flags, w₁, h₁, h⟩ := Exec.run_bind_eq_ok.mp h
  obtain ⟨res₁, hadds₁⟩ := adds_sysAnswer (fun _ => by rfl) h₁
  obtain ⟨r₂, w₂, h₂, h⟩ := Exec.run_bind_eq_ok.mp h
  obtain ⟨res₂, -, hadds₂⟩ := adds_sys (fun _ => by rfl) h₂
  cases h
  have hadds := hadds₁.trans hadds₂
  rw [rtsLevel_of_flags] at hadds
  exact ⟨_, _, hadds⟩

/-- A call that puts the line to a level with an ioctl that succeeds. -/
theorem rtsLine_of_ioctl {level : Bool} {failure : Option Errno} {evs : List Event}
    (hioctl : IoctlSucceeds (.rts fd level failure :: evs)) (hfd : fd ≠ -1) :
    rtsLine (.rts fd level failure :: evs) = some level := by
  obtain rfl := hioctl fd level failure List.mem_cons_self hfd
  rfl

/-- A write between two switches of the line leaves it at the level of the second switch. -/
theorem rtsLine_of_drivenSend {pkt : Bytes} {rts : Rts} {w w' : Traced σ} {r : Option ℕ}
    (h : (do
      ttaRs485IoctlRts os.traced fd (rts = .up)
      let _ ← sys (os.traced.usleep 10000)
      let size ← sys (os.traced.write fd pkt)
      let _ ← sys (os.traced.usleep 10000)
      ttaRs485IoctlRts os.traced fd (rts ≠ .up)
      return size.map (min · pkt.length) : Machine (σ × List Event) (Option ℕ)).run w =
        .ok (r, w')) :
    ∃ evs, Adds evs w w' ∧
      (IoctlSucceeds evs → fd ≠ -1 → rtsLine evs = some (decide (rts ≠ .up))) := by
  obtain ⟨u₁, w₁, h₁, h⟩ := Exec.run_bind_eq_ok.mp h
  obtain ⟨f₁, f₁', hadds₁⟩ := adds_ttaRs485IoctlRts h₁
  obtain ⟨r₂, w₂, h₂, h⟩ := Exec.run_bind_eq_ok.mp h
  obtain ⟨res₂, -, hadds₂⟩ := adds_sys (fun _ => by rfl) h₂
  obtain ⟨r₃, w₃, h₃, h⟩ := Exec.run_bind_eq_ok.mp h
  obtain ⟨res₃, -, hadds₃⟩ := adds_sys (fun _ => by rfl) h₃
  obtain ⟨r₄, w₄, h₄, h⟩ := Exec.run_bind_eq_ok.mp h
  obtain ⟨res₄, -, hadds₄⟩ := adds_sys (fun _ => by rfl) h₄
  obtain ⟨u₅, w₅, h₅, h⟩ := Exec.run_bind_eq_ok.mp h
  obtain ⟨f₅, f₅', hadds₅⟩ := adds_ttaRs485IoctlRts h₅
  cases h
  exact ⟨_, (((hadds₁.trans hadds₂).trans hadds₃).trans hadds₄).trans hadds₅,
    fun hioctl hfd => rtsLine_of_ioctl hioctl hfd⟩

/-- `write_uart` leaves the line clear, unless the write fails. -/
theorem rtsLine_of_writeUart {buf : Bytes} {w w' : Traced σ} {r : Option ℕ}
    (h : (writeUart os.traced fd buf).run w = .ok (r, w')) :
    ∃ evs, Adds evs w w' ∧
      (IoctlSucceeds evs → WriteSucceeds evs → fd ≠ -1 → rtsLine evs = some false) := by
  obtain ⟨r₁, w₁, h₁, h⟩ := Exec.run_bind_eq_ok.mp h
  obtain ⟨res₁, -, hadds₁⟩ := adds_sys (fun _ => by rfl) h₁
  obtain ⟨r₂, w₂, h₂, h⟩ := Exec.run_bind_eq_ok.mp h
  obtain ⟨res₂, hr₂, hadds₂⟩ := adds_sys (fun _ => by rfl) h₂
  rcases res₂ with e | n
  · obtain rfl : r₂ = none := hr₂
    cases h
    refine ⟨_, hadds₁.trans hadds₂, fun _ hwrite hfd => ?_⟩
    exact absurd (hwrite fd buf e List.mem_cons_self) hfd
  · obtain rfl : r₂ = some n := hr₂
    obtain ⟨drained, w₃, h₃, h⟩ := Exec.run_bind_eq_ok.mp h
    obtain ⟨evs₃, hadds₃, -⟩ := quiet_waitTxEmpty os fd _ w₂ drained w₃ h₃
    obtain ⟨r₄, w₄, h₄, h⟩ := Exec.run_bind_eq_ok.mp h
    obtain ⟨res₄, -, hadds₄⟩ := adds_sys (fun _ => by rfl) h₄
    cases h
    exact ⟨_, ((hadds₁.trans hadds₂).trans hadds₃).trans hadds₄,
      fun hioctl _ hfd => rtsLine_of_ioctl hioctl hfd⟩

/-- An attempt to send leaves the line released, unless it is made in the default mode and the write
fails. -/
theorem rtsLine_of_ttaRs485Send {d : TtaRs485} {pkt : Bytes} {w w' : Traced σ} {r : Option ℕ}
    (h : (ttaRs485Send os.traced d fd pkt).run w = .ok (r, w')) :
    ∃ evs, Adds evs w w' ∧ (IoctlSucceeds evs → (d.rts = .none → WriteSucceeds evs) → fd ≠ -1 →
      rtsLine evs = some (!d.rts.transmitLevel)) := by
  obtain ⟨device, serial, rts, flag⟩ := d
  rcases rts with _ | _ | _
  · obtain ⟨evs, hadds, hline⟩ := rtsLine_of_writeUart h
    exact ⟨evs, hadds, fun hioctl hwrite hfd => hline hioctl (hwrite rfl) hfd⟩
  · obtain ⟨evs, hadds, hline⟩ := rtsLine_of_drivenSend h
    exact ⟨evs, hadds, fun hioctl _ hfd => hline hioctl hfd⟩
  · obtain ⟨evs, hadds, hline⟩ := rtsLine_of_drivenSend h
    exact ⟨evs, hadds, fun hioctl _ hfd => hline hioctl hfd⟩

/-- The settings of the line have been programmed. -/
theorem adds_programLine {serial : SerialSettings} {u : Unit} {w w' : Traced σ}
    (h : (programLine os.traced fd serial).run w = .ok (some u, w')) :
    Adds [.setup (.ok true)] w w' := by
  unfold programLine at h
  rcases htios : rs485Tios serial with _ | tios
  · rw [htios] at h
    cases h
  · rw [htios] at h
    obtain ⟨res, hres, hadds⟩ := adds_sys (fun _ => by exact failureOf_map _ _) h
    rcases res with e | u
    · cases hres
    · exact hadds

/-- Connecting leaves the line clear, and the speed of the line has been set then. -/
theorem rtsLine_of_ttaRs485Connect {d : TtaRs485} {w w' : Traced σ} {r : Option Unit}
    (h : (ttaRs485Connect os.traced d).run w = .ok (r, w')) :
    ∃ evs, w'.log = evs ++ w.log ∧ (w'.ctx.s ≠ -1 →
      (∃ done, .setup (.ok done) ∈ evs) ∧ (IoctlSucceeds evs → rtsLine evs = some false)) := by
  obtain ⟨evs, hlog, -⟩ := (extends_ttaRs485Connect os d w r w' h).log
  obtain ⟨r₁, w₁, h₁, h⟩ := Exec.run_bind_eq_ok.mp h
  obtain ⟨res₁, -, hadds₁⟩ := adds_sys (fun _ => by rfl) h₁
  replace h := (Exec.run_bind_of_ok (run_modifyCtx _ w₁)).symm.trans h
  rcases r₁ with _ | fd
  · cases h
    exact ⟨evs, hlog, fun hs => absurd rfl hs⟩
  · obtain ⟨old, w₂, h₂, h⟩ := Exec.run_bind_eq_ok.mp h
    obtain ⟨res₂, -, hadds₂⟩ := adds_sys (fun _ => by rfl) h₂
    replace h := (Exec.run_bind_of_ok (run_modifyCtx _ w₂)).symm.trans h
    obtain ⟨r₃, w₃, h₃, h⟩ := Exec.run_bind_eq_ok.mp h
    rcases r₃ with _ | u
    · obtain ⟨r₄, w₄, -, h⟩ := Exec.run_bind_eq_ok.mp h
      cases h
      exact ⟨evs, hlog, fun hs => absurd rfl hs⟩
    · have hadds₃ := adds_programLine h₃
      obtain ⟨r₄, w₄, h₄, h⟩ := Exec.run_bind_eq_ok.mp h
      obtain ⟨res₄, -, hadds₄⟩ := adds_sys (fun _ => by rfl) h₄
      cases h
      have hctx : w'.ctx.s = fd := by
        rw [hadds₄.ctx, hadds₃.ctx]
        change w₂.ctx.s = fd
        rw [hadds₂.ctx]
        rfl
      refine ⟨[.rts fd false (failureOf res₄), .setup (.ok true), .other (failureOf res₂),
        .opened res₁], ?_, fun hs =>
          ⟨⟨true, ?_⟩, fun hioctl => rtsLine_of_ioctl hioctl (hctx ▸ hs)⟩⟩
      · rw [hadds₄.log, hadds₃.log]
        change _ ++ (_ ++ w₂.log) = _
        rw [hadds₂.log]
        exact congrArg (fun l => [.rts fd false (failureOf res₄), .setup (.ok true),
          .other (failureOf res₂)] ++ l) hadds₁.log
      · exact List.mem_cons_of_mem _ List.mem_cons_self

/-! ## A send -/

/-- The loop of `_send_pkt` keeps the backend, and its last attempt decides where the line is. The
induction is on the rounds that are left. -/
theorem rtsLine_of_sendLoop {d : TtaRs485} {pkt : Bytes} {rounds : ℕ} {w w' : Traced σ}
    {r : Option ℕ} (hbe : w.ctx.backend = .rs485 d)
    (h : (sendLoop os.traced fuel pkt rounds).run w = .ok (r, w')) :
    w'.ctx.backend = .rs485 d ∧ ∃ evs, w'.log = evs ++ w.log ∧
      (IoctlSucceeds evs → (d.rts = .none → WriteSucceeds evs) → w'.ctx.s ≠ -1 →
        rtsLine evs = some (!d.rts.transmitLevel)) := by
  induction rounds generalizing w with
  | zero => cases h
  | succ rounds ih =>
    obtain ⟨r₁, w₁, h₁, h⟩ := Exec.run_bind_eq_ok.mp h
    have hsend : (ttaRs485Send os.traced d w.ctx.s pkt).run w = .ok (r₁, w₁) := by
      unfold backendSend at h₁
      rw [Exec.run_bind_of_ok (run_getCtx w), hbe] at h₁
      exact h₁
    obtain ⟨evs₁, hadds, hline⟩ := rtsLine_of_ttaRs485Send hsend
    have hbe₁ : w₁.ctx.backend = .rs485 d := by rw [hadds.ctx, hbe]
    have hlast : w₁.ctx.backend = .rs485 d ∧ ∃ evs, w₁.log = evs ++ w.log ∧
        (IoctlSucceeds evs → (d.rts = .none → WriteSucceeds evs) → w₁.ctx.s ≠ -1 →
          rtsLine evs = some (!d.rts.transmitLevel)) :=
      ⟨hbe₁, evs₁, hadds.log, fun hioctl hwrite hs => hline hioctl hwrite (hadds.ctx ▸ hs)⟩
    rcases r₁ with _ | n
    · replace h := (Exec.run_bind_of_ok (run_getCtx w₁)).symm.trans h
      by_cases hlink : w₁.ctx.recoversLink = true
      · replace h := (congrArg (fun x => StateT.run x w₁) (if_pos hlink)).symm.trans h
        obtain ⟨u, w₂, h₂, h⟩ := Exec.run_bind_eq_ok.mp h
        have hext := extends_sendRecovery os fuel w₁ u w₂ h₂
        obtain ⟨evs₂, hlog₂, -⟩ := hext.log
        obtain ⟨hbe₃, evs₃, hlog₃, hline₃⟩ := ih (hext.ctx.backend.trans hbe₁) h
        refine ⟨hbe₃, evs₃ ++ (evs₂ ++ evs₁), ?_, fun hioctl hwrite hs => ?_⟩
        · rw [hlog₃, hlog₂, hadds.log, List.append_assoc, List.append_assoc]
        · have hsub : evs₃ ⊆ evs₃ ++ (evs₂ ++ evs₁) := List.subset_append_left _ _
          exact rtsLine_append_of_some
            (hline₃ (hioctl.mono hsub) (fun hmode => (hwrite hmode).mono hsub) hs) _
      · replace h := (congrArg (fun x => StateT.run x w₁) (if_neg hlink)).symm.trans h
        cases h
        exact hlast
    · cases h
      exact hlast

/-- A call of `tta_send` leaves the line released, unless it is made in the default mode and a write
fails. -/
theorem rtsLine_of_ttaSend {d : TtaRs485} {m : Ttamsg} {w w' : Traced σ} {r : Option ℕ}
    (hbe : w.ctx.backend = .rs485 d) (h : (ttaSend os.traced fuel m).run w = .ok (r, w')) :
    w'.ctx.backend = .rs485 d ∧ ∃ evs, w'.log = evs ++ w.log ∧
      (IoctlSucceeds evs → (d.rts = .none → WriteSucceeds evs) → w'.ctx.s ≠ -1 →
        rtsLine evs = some (!d.rts.transmitLevel)) := by
  obtain ⟨w₁, hw₁, hlog₁, h⟩ := exists_sendPkt_of_ttaSend h
  have hbe₁ : w₁.ctx.backend = .rs485 d := by
    rw [hw₁]
    exact (congrArg Backend.stepped hbe).trans rfl
  obtain ⟨r₂, w₂, h₂, h⟩ := Exec.run_bind_eq_ok.mp h
  rw [← hlog₁]
  have hloop := rtsLine_of_sendLoop hbe₁ h₂
  rcases r₂ with _ | n
  · cases h
    exact hloop
  · by_cases hshort : 0 < n ∧ n ≠ (w.ctx.backend.frame m).length
    · replace h := (congrArg (fun x => StateT.run x w₂) (if_pos hshort)).symm.trans h
      cases h
      exact hloop
    · replace h := (congrArg (fun x => StateT.run x w₂) (if_neg hshort)).symm.trans h
      cases h
      exact hloop

/-! ## Runs -/

/-- The RTS mode of a context. -/
def Tta.rtsMode (ctx : Tta) : Option Rts :=
  match ctx.backend with
  | .rs485 d => some d.rts
  | _ => none

/-- The calls of a run: connecting, changing the mode, sending, and choosing the error recovery. -/
def Call.DrivesLine : Call → Prop
  | connect => True
  | setRts _ => True
  | send _ => True
  | setErrorRecovery _ => True
  | _ => False

/-- A call that makes the calls `evs` of the operating system takes the mode into account: the speed
of the line is not set for a context with the mode `down`, the default mode is not chosen for a
connected context, and in the default mode no write fails. -/
def Releases (ctx : Tta) (evs : List Event) : Call → Prop
  | .connect => ctx.rtsMode = some .down → ∀ done, .setup (.ok done) ∉ evs
  | .setRts mode => mode = .none → ctx.s = -1
  | .send _ => ctx.rtsMode = some .none → WriteSucceeds evs
  | _ => True

/-- The runs on a new RS485 context, in which an ioctl on the descriptor of the context succeeds,
and every call takes the mode into account. -/
inductive BusRun (os : Os σ) : Traced σ → Prop
  | start {device : String} {serial : SerialSettings} {oldTios : Termios} {w : Traced σ} :
      w.ctx = ttaNewRs485 device serial oldTios → w.log = [] → BusRun os w
  | call {c : Call} {fuel : ℕ} {w w' : Traced σ} {evs : List Event} : BusRun os w → c.DrivesLine →
      (c.run os.traced fuel).run w = .ok ((), w') → w'.log = evs ++ w.log → IoctlSucceeds evs →
      Releases w.ctx evs c → BusRun os w'

/-- Connecting leaves the bus released, when the mode is not `down`. -/
theorem released_of_connect {w w' : Traced σ} {r : Option Unit} {evs : List Event}
    (h : Released w) (hrun : (ttaConnect os.traced fuel).run w = .ok (r, w'))
    (hlog : w'.log = evs ++ w.log) (hioctl : IoctlSucceeds evs)
    (hreleases : w.ctx.rtsMode = some .down → ∀ done, .setup (.ok done) ∉ evs) : Released w' := by
  obtain ⟨d, hbe, -⟩ := h
  have hctx := (extends_ttaConnect os fuel w r w' hrun).ctx
  unfold ttaConnect at hrun
  rw [Exec.run_bind_of_ok (run_getCtx w), hbe] at hrun
  obtain ⟨evs', hlog', hline⟩ := rtsLine_of_ttaRs485Connect hrun
  obtain rfl : evs' = evs := List.append_cancel_right (hlog'.symm.trans hlog)
  refine ⟨d, hctx.backend.trans hbe, fun hs => ?_⟩
  obtain ⟨⟨done, hdone⟩, hclear⟩ := hline hs
  rw [hlog, rtsLine_append_of_some (hclear hioctl)]
  rw [Tta.rtsMode, hbe] at hreleases
  rcases hmode : d.rts with _ | _ | _
  · rfl
  · rfl
  · exact absurd hdone (hreleases (congrArg some hmode) done)

/-- Changing the mode leaves the bus released, when the new mode is not the default one. -/
theorem released_of_setRts {mode : Rts} {w w' : Traced σ} {r : Option Unit} {evs : List Event}
    (h : Released w) (hrun : (ttaRs485SetRts os.traced mode).run w = .ok (r, w'))
    (hlog : w'.log = evs ++ w.log) (hioctl : IoctlSucceeds evs)
    (hreleases : mode = .none → w.ctx.s = -1) : Released w' := by
  obtain ⟨d, hbe, -⟩ := h
  unfold ttaRs485SetRts at hrun
  rw [Exec.run_bind_of_ok (run_getCtx w), hbe] at hrun
  replace hrun := (Exec.run_bind_of_ok (run_modifyCtx _ w)).symm.trans hrun
  obtain ⟨u, w₁, h₁, hrun⟩ := Exec.run_bind_eq_ok.mp hrun
  obtain ⟨failure, failure', hadds⟩ := adds_ttaRs485IoctlRts h₁
  cases hrun
  have hlog' : w'.log = [.rts w.ctx.s (decide (mode ≠ .up)) failure', .other failure] ++ w.log :=
    hadds.log
  obtain rfl := List.append_cancel_right (hlog'.symm.trans hlog)
  have hs' : w'.ctx.s = w.ctx.s := (congrArg Tta.s hadds.ctx).trans rfl
  refine ⟨{ d with rts := mode }, congrArg Tta.backend hadds.ctx, fun hs => ?_⟩
  rw [hs'] at hs
  rw [hlog, rtsLine_append_of_some (rtsLine_of_ioctl hioctl hs)]
  rcases mode with _ | _ | _
  · exact absurd (hreleases rfl) hs
  · rfl
  · rfl

/-- Sending leaves the bus released, when no write fails in the default mode. -/
theorem released_of_send {m : Ttamsg} {w w' : Traced σ} {r : Option ℕ} {evs : List Event}
    (h : Released w) (hrun : (ttaSend os.traced fuel m).run w = .ok (r, w'))
    (hlog : w'.log = evs ++ w.log) (hioctl : IoctlSucceeds evs)
    (hreleases : w.ctx.rtsMode = some .none → WriteSucceeds evs) : Released w' := by
  obtain ⟨d, hbe, -⟩ := h
  obtain ⟨hbe', evs', hlog', hline⟩ := rtsLine_of_ttaSend hbe hrun
  obtain rfl := List.append_cancel_right (hlog'.symm.trans hlog)
  rw [Tta.rtsMode, hbe] at hreleases
  refine ⟨d, hbe', fun hs => ?_⟩
  rw [hlog, rtsLine_append_of_some (hline hioctl (fun hmode => hreleases (congrArg some hmode)) hs)]

/-- In every run of calls that take the mode into account, the bus is released after each call. -/
theorem released_of_busRun {w : Traced σ} (h : BusRun os w) : Released w := by
  induction h with
  | @start device serial oldTios w hctx _ =>
    refine ⟨_, by rw [hctx]; rfl, fun hs => ?_⟩
    rw [hctx] at hs
    exact absurd rfl hs
  | @call c fuel w w' evs _ hdrives hrun hlog hioctl hreleases ih =>
    cases c with
    | connect =>
      obtain ⟨r, w₁, hrun, hend⟩ := Exec.run_bind_eq_ok.mp hrun
      cases hend
      exact released_of_connect ih hrun hlog hioctl hreleases
    | setRts mode =>
      obtain ⟨r, w₁, hrun, hend⟩ := Exec.run_bind_eq_ok.mp hrun
      cases hend
      exact released_of_setRts ih hrun hlog hioctl hreleases
    | send m =>
      obtain ⟨r, w₁, hrun, hend⟩ := Exec.run_bind_eq_ok.mp hrun
      cases hend
      exact released_of_send ih hrun hlog hioctl hreleases
    | setErrorRecovery v =>
      cases hrun
      exact ih
    | _ => exact hdrives.elim

/-- A serial line whose ioctls fail without a descriptor, and whose writes have the given
outcome. -/
def serialOs (res : Except Errno ℕ) : Os Unit where
  openDevice _ d := (.ok 3, d)
  write _ _ d := (res, d)
  modemGet fd d := ((0, if fd = -1 then .error .EBADF else .ok ()), d)
  modemSet fd _ d := (if fd = -1 then .error .EBADF else .ok (), d)

/-- A new RS485 context, with an empty log. -/
def serialStart : Traced Unit :=
  ⟨ttaNewRs485 "/dev/ttyS0", .other 0, List.Vector.replicate 128 0, 0, (), []⟩

/-- An ioctl on the descriptor of a connected context does not fail. -/
def Event.ioctlFine : Event → Bool
  | rts fd _ failure => fd == -1 || failure.isNone
  | _ => true

/-- In a log without an ioctl that fails, they succeed. -/
theorem ioctlSucceeds_of_all {evs : List Event} (h : evs.all Event.ioctlFine = true) :
    IoctlSucceeds evs := by
  intro fd level failure hev hfd
  have hfine := List.all_eq_true.mp h _ hev
  rw [Event.ioctlFine, Bool.or_eq_true, beq_iff_eq, Option.isNone_iff_eq_none] at hfine
  exact hfine.resolve_left hfd

/-- A context is connected, told to transmit with the line clear, and sends: the bus is released,
and the line is set then. -/
theorem released_of_busRun_send : ∃ w', (do
      Call.run (serialOs (.ok 7)).traced 0 .connect
      Call.run (serialOs (.ok 7)).traced 0 (.setRts .down)
      Call.run (serialOs (.ok 7)).traced 0
        (.send (ttamsgMake 1 0 0x10 [] 0 (by decide)))).run serialStart = .ok ((), w') ∧
    w'.ctx.s = 3 ∧ rtsLine w'.log = some true ∧ Released w' := by
  let connected : List Event := [.rts 3 false none, .setup (.ok true), .other none, .opened (.ok 3)]
  let switched : List Event := [.rts 3 true none, .other none]
  let sent : List Event := [.rts 3 true none, .other none, .other none,
    .write 3 [0xf7, 1, 0, 0x10, 0, 0xe6, 0xee] (.ok 7), .other none, .rts 3 false none, .other none]
  have hruns : ((Call.run (serialOs (.ok 7)).traced 0 .connect).run serialStart).map
      (fun p => p.2.log) = .ok connected ∧
    ((do
      Call.run (serialOs (.ok 7)).traced 0 .connect
      Call.run (serialOs (.ok 7)).traced 0 (.setRts .down) :
        Machine (Unit × List Event) Unit).run serialStart).map
      (fun p => (p.2.ctx.rtsMode, p.2.log)) = .ok (some .down, switched ++ connected) ∧
    ((do
      Call.run (serialOs (.ok 7)).traced 0 .connect
      Call.run (serialOs (.ok 7)).traced 0 (.setRts .down)
      Call.run (serialOs (.ok 7)).traced 0
        (.send (ttamsgMake 1 0 0x10 [] 0 (by decide))) :
          Machine (Unit × List Event) Unit).run serialStart).map
      (fun p => (p.2.ctx.s, p.2.log)) = .ok (3, sent ++ (switched ++ connected)) := by
    decide +kernel
  obtain ⟨hrun₁, hrun₂, hrun₃⟩ := hruns
  obtain ⟨⟨u₁, w₁⟩, h₁, hlog₁⟩ := Exec.exists_of_map_eq_ok hrun₁
  obtain ⟨⟨u₂, w₂⟩, h₂, hres₂⟩ := Exec.exists_of_map_eq_ok hrun₂
  obtain ⟨⟨u₃, w₃⟩, h₃, hres₃⟩ := Exec.exists_of_map_eq_ok hrun₃
  obtain ⟨hmode₂, hlog₂⟩ := Prod.mk.inj hres₂
  obtain ⟨hs₃, hlog₃⟩ := Prod.mk.inj hres₃
  have hcall₂ := (Exec.run_bind_of_ok h₁).symm.trans h₂
  have hcall₃ := (Exec.run_bind_of_ok hcall₂).symm.trans ((Exec.run_bind_of_ok h₁).symm.trans h₃)
  have hnew₁ : w₁.log = connected ++ serialStart.log := hlog₁
  have hnew₂ : w₂.log = switched ++ w₁.log := hlog₂.trans (congrArg _ hlog₁.symm)
  have hnew₃ : w₃.log = sent ++ w₂.log := hlog₃.trans (congrArg _ hlog₂.symm)
  have hbus₁ : BusRun (serialOs (.ok 7)) w₁ := .call (c := .connect) (.start rfl rfl) trivial h₁
    hnew₁ (ioctlSucceeds_of_all (by decide)) nofun
  have hbus₂ : BusRun (serialOs (.ok 7)) w₂ := .call (c := .setRts .down) hbus₁ trivial hcall₂
    hnew₂ (ioctlSucceeds_of_all (by decide)) nofun
  have hbus₃ : BusRun (serialOs (.ok 7)) w₃ := by
    refine .call (c := .send _) hbus₂ trivial hcall₃ hnew₃ (ioctlSucceeds_of_all (by decide))
      fun hnone => ?_
    rw [hmode₂] at hnone
    cases hnone
  refine ⟨w₃, h₃, hs₃, ?_, released_of_busRun hbus₃⟩
  rw [show w₃.log = sent ++ (switched ++ connected) from hlog₃]
  rfl

/-- The line of a connected context is at the level at which its mode transmits. -/
theorem not_released_of_rtsLine {w : Traced σ} {mode : Rts} (hmode : w.ctx.rtsMode = some mode)
    (hs : w.ctx.s ≠ -1) (hline : rtsLine w.log = some mode.transmitLevel) : ¬Released w := by
  rintro ⟨d, hbe, hidle⟩
  rw [Tta.rtsMode, hbe] at hmode
  obtain rfl := Option.some.inj hmode
  have hsame := (hidle hs).symm.trans hline
  rcases hlevel : d.rts.transmitLevel with _ | _
  · rw [hlevel] at hsame
    cases hsame
  · rw [hlevel] at hsame
    cases hsame

/-- The bus is not released when a context is connected that has the mode `down`, when the default
mode is chosen for a connected context, and when a write fails in the default mode. -/
theorem not_released :
    (∃ w', (do
        Call.run (serialOs (.ok 7)).traced 0 (.setRts .down)
        Call.run (serialOs (.ok 7)).traced 0 .connect).run serialStart = .ok ((), w') ∧
      IoctlSucceeds w'.log ∧ ¬Released w') ∧
    (∃ w', (do
        Call.run (serialOs (.ok 7)).traced 0 .connect
        Call.run (serialOs (.ok 7)).traced 0 (.setRts .none)).run serialStart = .ok ((), w') ∧
      IoctlSucceeds w'.log ∧ ¬Released w') ∧
    ∃ w', (do
        Call.run (serialOs (.error .EAGAIN)).traced 0 .connect
        Call.run (serialOs (.error .EAGAIN)).traced 0
          (.send (ttamsgMake 1 0 0x10 [] 0 (by decide)))).run serialStart = .ok ((), w') ∧
      IoctlSucceeds w'.log ∧ ¬Released w' := by
  have hends {x : Machine (Unit × List Event) Unit} (mode : Rts)
      (h : (x.run serialStart).map (fun p => (p.2.ctx.s, p.2.ctx.rtsMode, rtsLine p.2.log,
        p.2.log.all Event.ioctlFine)) = .ok (3, some mode, some mode.transmitLevel, true)) :
      ∃ w', x.run serialStart = .ok ((), w') ∧ IoctlSucceeds w'.log ∧ ¬Released w' := by
    obtain ⟨⟨u, w'⟩, hrun, hres⟩ := Exec.exists_of_map_eq_ok h
    simp only [Prod.mk.injEq] at hres
    obtain ⟨hs, hmode, hline, hfine⟩ := hres
    refine ⟨w', hrun, ioctlSucceeds_of_all hfine, not_released_of_rtsLine hmode ?_ hline⟩
    rw [hs]
    decide
  exact ⟨hends .down (by decide +kernel), hends .none (by decide +kernel),
    hends .none (by decide +kernel)⟩

end Libtta
