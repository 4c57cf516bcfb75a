import Libtta.Context.Device
import Libtta.Radio.Tuning

/-!
# The tuning of the radio over whole runs

Once an RF context is connected, the registers of the radio are those of the last channel, power,
threshold and gain that were set since then, on top of the settings the library programs after a
reset; no calibration, message or measurement changes them (`config_of_radioRun`). The link recovery
resets the radio as a connect does: then what the application has set is lost, and the radio is on
channel 0 again. Without link recovery that does not happen.
-/

namespace Libtta

variable {σ α β : Type} {reset : UInt16 → UInt8} {os : Os σ} {fd : Int} {w w' : World (Chip × σ)}

/-! ## Changing registers -/

/-- Through the descriptor `fd`, if it is open, the registers have been changed by `f`; apart from
`errno` and the rest of the device, nothing else has changed. -/
structure Programs (fd : Int) (f : (UInt16 → UInt8) → UInt16 → UInt8) (w w' : World (Chip × σ)) :
    Prop where
  ctx : w'.ctx = w.ctx
  fds : w'.dev.1.fds = w.dev.1.fds
  resets : w'.dev.1.resets = w.dev.1.resets
  config : w'.dev.1.config = if fd ∈ w.dev.1.fds then f w.dev.1.config else w.dev.1.config

/-- One change after another. -/
theorem Programs.trans {f g : (UInt16 → UInt8) → UInt16 → UInt8} {w'' : World (Chip × σ)}
    (h : Programs fd f w w') (h' : Programs fd g w' w'') : Programs fd (g ∘ f) w w'' where
  ctx := h'.ctx.trans h.ctx
  fds := h'.fds.trans h.fds
  resets := h'.resets.trans h.resets
  config := by
    rw [h'.config, h.config, h.fds]
    split <;> rfl

instance : Std.Refl (Programs fd id : World (Chip × σ) → World (Chip × σ) → Prop) where
  refl _ := ⟨rfl, rfl, rfl, (ite_self _).symm⟩

instance : IsTrans (World (Chip × σ)) (Programs fd id) where
  trans _ _ _ h h' := h.trans h'

/-- Sequential composition. -/
theorem Programs.bind {f g : (UInt16 → UInt8) → UInt16 → UInt8} {x : Machine (Chip × σ) α}
    {k : α → Machine (Chip × σ) β} (hx : Exec.Along (Programs fd f) x)
    (hk : ∀ a, Exec.Along (Programs fd g) (k a)) : Exec.Along (Programs fd (g ∘ f)) (x >>= k) := by
  intro w b w'' hrun
  obtain ⟨a, w', h, h'⟩ := Exec.run_bind_eq_ok.mp hrun
  exact (hx w a w' h).trans (hk a w' b w'' h')

/-- What comes first leaves the registers alone. -/
theorem Programs.bind_left {g : (UInt16 → UInt8) → UInt16 → UInt8} {x : Machine (Chip × σ) α}
    {k : α → Machine (Chip × σ) β} (hx : Exec.Along (Programs fd id) x)
    (hk : ∀ a, Exec.Along (Programs fd g) (k a)) : Exec.Along (Programs fd g) (x >>= k) :=
  Programs.bind hx hk

/-- What comes last leaves the registers alone. -/
theorem Programs.bind_right {f : (UInt16 → UInt8) → UInt16 → UInt8} {x : Machine (Chip × σ) α}
    {k : α → Machine (Chip × σ) β} (hx : Exec.Along (Programs fd f) x)
    (hk : ∀ a, Exec.Along (Programs fd id) (k a)) : Exec.Along (Programs fd f) (x >>= k) :=
  Programs.bind (f := f) (g := id) hx hk

/-- The registers are the same when only the rest of the device has changed. -/
theorem programs_of_fst {d : Chip × σ} {e : Errno} (h : d.1 = w.dev.1) :
    Programs fd id w { w with dev := d, errno := e } :=
  ⟨rfl, congrArg Chip.fds h, congrArg Chip.resets h,
    (congrArg Chip.config h).trans (ite_self _).symm⟩

/-- A call that leaves the registers alone. -/
theorem programs_sys {call : Chip × σ → Except Errno α × Chip × σ}
    (hcall : ∀ d, (call d).2.1 = d.1) : Exec.Along (Programs fd id) (sys call) := by
  intro w r w' hrun
  obtain ⟨e, hrun'⟩ := exists_run_sys call w
  obtain ⟨-, rfl⟩ := Prod.mk.inj (Except.ok.inj (hrun.symm.trans hrun'))
  exact programs_of_fst (hcall w.dev)

/-- A strobe other than a reset leaves the registers alone. -/
theorem fst_strobe {fd : Int} {cmd : UInt8} (hcmd : cmd ≠ Cc1120.SRES) (d : Chip × σ) :
    (Chip.strobe reset os fd cmd d).2.1 = d.1 := by
  rw [Chip.strobe, if_neg fun h => hcmd h.2]
  rfl

/-- Reading a register leaves the registers alone. -/
theorem fst_read {fd : Int} (addr : UInt16) (d : Chip × σ) :
    (Chip.read os fd addr d).2.1 = d.1 := by
  unfold Chip.read
  split <;> rfl

/-- A strobe other than a reset. -/
theorem programs_cc1120Strobe {fd' : Int} {cmd : UInt8} (hcmd : cmd ≠ Cc1120.SRES) :
    Exec.Along (Programs fd id) (cc1120Strobe (chipOs reset os) fd' cmd) :=
  (programs_sys fun d => fst_strobe hcmd d).bind fun _ => .pure _

/-- Reading a register. -/
theorem programs_cc1120ReadSingle {fd' : Int} (addr : UInt16) :
    Exec.Along (Programs fd id) (cc1120ReadSingle (chipOs reset os) fd' addr) := by
  intro w v w' hrun
  obtain ⟨e, hrun'⟩ := exists_run_sysAnswer ((chipOs reset os).readReg fd' addr) w
  obtain ⟨-, rfl⟩ := Prod.mk.inj (Except.ok.inj (hrun.symm.trans hrun'))
  exact programs_of_fst (fst_read addr w.dev)

/-- What is made of link strobes, reads of registers and pauses leaves the registers alone. -/
theorem programs_of_uses {E : Stop → Prop} {x : Machine (Chip × σ) α}
    (h : (chipOs reset os).Uses [.strobe, .readReg, .usleep] E (fun _ => True) x) :
    Exec.Along (Programs fd id) x := by
  have hpart : ∀ {P : World (Chip × σ) → Prop} {γ : Type} {y : Machine (Chip × σ) γ},
      (chipOs reset os).Part [.strobe, .readReg, .usleep] P y →
      ∀ w a w', P w → y.run w = .ok (a, w') → Programs fd id w w' := by
    rintro P γ y (⟨hk, hdoes⟩ | ⟨fuel, hk⟩) w a w' - hrun
    · cases hdoes with
      | strobe fd hcmd =>
        have hne : _ ≠ Cc1120.SRES := ne_of_mem_of_not_mem hcmd (by decide)
        exact programs_sys (fun d => fst_strobe hne d) w a w' hrun
      | readReg fd addr => exact programs_cc1120ReadSingle addr w a w' hrun
      | usleep n => exact programs_sys (fun d => rfl) w a w' hrun
      | _ => exact absurd hk (by decide)
    · exact absurd hk (by decide)
  exact fun w a w' hrun => h.along hpart w a w' trivial hrun

/-- What reading a register gives, if the chip keeps what is written to it. -/
theorem eq_of_cc1120ReadSingle {addr : UInt16} {v : UInt8} (haddr : Cc1120.isConfig addr = true)
    (hfd : fd ∈ w.dev.1.fds)
    (hrun : (cc1120ReadSingle (chipOs reset os) fd addr).run w = .ok (v, w')) :
    v = w.dev.1.config addr := by
  obtain ⟨e, hrun'⟩ := exists_run_sysAnswer ((chipOs reset os).readReg fd addr) w
  obtain ⟨rfl, -⟩ := Prod.mk.inj (Except.ok.inj (hrun.symm.trans hrun'))
  change (Chip.read os fd addr w.dev).1.1 = _
  rw [Chip.read, if_pos ⟨hfd, haddr⟩]

/-- Writing a register. -/
theorem programs_cc1120WriteSingle (addr : UInt16) (val : UInt8) :
    Exec.Along (Programs fd (program [(addr, val)]))
      (cc1120WriteSingle (chipOs reset os) fd addr val) := by
  intro w u w' hrun
  obtain ⟨r, w₁, hwrite, ⟨⟩⟩ := Exec.run_bind_eq_ok.mp hrun
  obtain ⟨e, hrun'⟩ := exists_run_sys ((chipOs reset os).writeReg fd addr val) w
  obtain ⟨-, rfl⟩ := Prod.mk.inj (Except.ok.inj (hwrite.symm.trans hrun'))
  change Programs fd _ w { w with dev := (Chip.write fd addr val w.dev).2, errno := e }
  unfold Chip.write
  by_cases hfd : fd ∈ w.dev.1.fds
  · rw [if_pos hfd]
    exact ⟨rfl, rfl, rfl, (if_pos hfd).symm⟩
  · rw [if_neg hfd]
    exact ⟨rfl, rfl, rfl, (if_neg hfd).symm⟩

/-- Writing a register that a calibration writes, too. -/
theorem programs_write_cal {addr : UInt16} (haddr : Cc1120.isConfig addr = false) (val : UInt8) :
    Exec.Along (Programs fd id) (cc1120WriteSingle (chipOs reset os) fd addr val) := by
  have hid : program [(addr, val)] = id := by
    funext config
    exact if_neg (by rw [haddr]; exact Bool.false_ne_true)
  exact hid ▸ programs_cc1120WriteSingle addr val

/-- Writing registers, one after another. -/
theorem programs_writeRegs (regs : List (UInt16 × UInt8)) :
    Exec.Along (Programs fd (program regs)) (writeRegs (chipOs reset os) fd regs) := by
  induction regs with
  | nil =>
    have hpure : Exec.Along (Programs fd id) (pure () : Machine (Chip × σ) Unit) := .pure _
    exact hpure
  | cons r regs ih => exact Programs.bind (programs_cc1120WriteSingle r.1 r.2) fun _ => ih

/-! ## Calibrating -/

/-- Behind the second polling loop. -/
theorem programs_programBetter (high : CalResults) :
    Exec.Along (Programs fd id) (programBetter (chipOs reset os) fd high) := by
  have hwrite (r : CalResults) :
      Exec.Along (Programs fd id) (writeCalResults (chipOs reset os) fd r) :=
    (programs_write_cal (by decide) _).bind fun _ =>
      (programs_write_cal (by decide) _).bind fun _ => programs_write_cal (by decide) _
  exact (programs_of_uses (E := fun _ => True) (uses_readCalResults fd (by decide))).bind
    fun _ => .ite (hwrite _) (hwrite _)

/-- Up to the second polling loop, the start value of the calibration is changed and put back. -/
theorem programs_calibrateHigh :
    Exec.Along (Programs fd id) (calibrateHigh (chipOs reset os) fd) := by
  have hpoll : Exec.Along (Programs fd id) (pollIdleBounded (chipOs reset os) fd 50) :=
    programs_of_uses (E := fun _ => True) (uses_pollIdleBounded fd 50 (by decide))
  have hread : Exec.Along (Programs fd id) (readCalResults (chipOs reset os) fd) :=
    programs_of_uses (E := fun _ => True) (uses_readCalResults fd (by decide))
  refine (programs_cc1120Strobe (by decide)).bind fun _ =>
    (programs_write_cal (by decide) _).bind fun _ => ?_
  intro w u w' hrun
  obtain ⟨v, w₁, hv, hrun⟩ := Exec.run_bind_eq_ok.mp hrun
  have hcal : Programs fd (program [(Cc1120.FS_CAL2, v)] ∘ program [(Cc1120.FS_CAL2, v + 2)])
      w₁ w' := by
    refine Programs.bind (programs_cc1120WriteSingle _ (v + 2)) (fun _ => ?_) w₁ u w' hrun
    refine Programs.bind_left (programs_cc1120Strobe (by decide)) fun _ =>
      Programs.bind_left hpoll fun _ => Programs.bind_left hread fun high =>
      Programs.bind_left (programs_write_cal (by decide) _) fun _ => ?_
    exact Programs.bind_right (programs_cc1120WriteSingle _ v) fun _ =>
      (programs_cc1120Strobe (by decide)).bind fun _ => .pure _
  have hread₁ : Programs fd id w w₁ := programs_cc1120ReadSingle _ w v w₁ hv
  refine ⟨hcal.ctx.trans hread₁.ctx, hcal.fds.trans hread₁.fds,
    hcal.resets.trans hread₁.resets, ?_⟩
  have hconfig : w₁.dev.1.config = w.dev.1.config := hread₁.config.trans (ite_self _)
  rw [hcal.config, hconfig, hread₁.fds]
  by_cases hfd : fd ∈ w.dev.1.fds
  · rw [if_pos hfd, if_pos hfd, eq_of_cc1120ReadSingle (by decide) hfd hv]
    change Function.update (Function.update w.dev.1.config Cc1120.FS_CAL2 _) Cc1120.FS_CAL2 _ = _
    rw [Function.update_idem]
    exact Function.update_eq_self _ _
  · rw [if_neg hfd, if_neg hfd]

/-- A calibration leaves the registers alone. -/
theorem programs_cc1120Manualcalibration (fuel : ℕ) :
    Exec.Along (Programs fd id) (cc1120Manualcalibration (chipOs reset os) fuel fd) := by
  have hpoll : Exec.Along (Programs fd id) (pollIdle (chipOs reset os) fd fuel) :=
    programs_of_uses (E := fun _ => True) (uses_pollIdle fuel fd (by decide) trivial)
  rw [cc1120Manualcalibration_eq]
  exact programs_calibrateHigh.bind fun r => hpoll.bind fun _ => programs_programBetter r.2

/-- Setting registers, with a calibration behind it. -/
theorem programs_writeAndCalibrate (fuel : ℕ) (regs : List (UInt16 × UInt8)) :
    Exec.Along (Programs fd (program regs))
      (writeAndCalibrate (chipOs reset os) fuel fd regs) :=
  Programs.bind_right (programs_writeRegs regs) fun _ =>
    (programs_cc1120Manualcalibration fuel).bind fun _ =>
    (programs_cc1120Strobe (by decide)).bind fun _ => programs_cc1120Strobe (by decide)

/-- Measuring the signal strength leaves the registers alone. -/
theorem programs_cc1120GetRssi :
    Exec.Along (Programs fd id) (cc1120GetRssi (chipOs reset os) fd) := by
  have hsense : Exec.Along (Programs fd id) (carrierSense (chipOs reset os) fd 11) :=
    programs_of_uses (E := fun _ => True) (uses_carrierSense fd 11 (by decide))
  exact (programs_cc1120Strobe (by decide)).bind fun _ => hsense.bind fun _ =>
    .ite ((programs_cc1120ReadSingle _).bind fun _ => .pure _) (.pure _)

/-! ## Connecting -/

/-- What connecting does once the device is open. -/
theorem resets_of_configure {fuel : ℕ} {r : Option Unit} (hfd : fd ∈ w.dev.1.fds)
    (hrun : (do
      cc1120Strobe (chipOs reset os) fd Cc1120.SRES
      let _ ← sys ((chipOs reset os).usleep 500000)
      cc1120Writesetting (chipOs reset os) fd
      cc1120Manualcalibration (chipOs reset os) fuel fd
      cc1120Strobe (chipOs reset os) fd Cc1120.SIDLE
      return some () : Machine (Chip × σ) (Option Unit)).run w = .ok (r, w')) :
    w'.ctx = w.ctx ∧ w'.dev.1.resets = w.dev.1.resets + 1 ∧
      w'.dev.1.config = Tuning.start.config reset := by
  obtain ⟨_, w₁, hstrobe, hrun⟩ := Exec.run_bind_eq_ok.mp hrun
  obtain ⟨e, hstrobe'⟩ := exists_run_cc1120Strobe (chipOs reset os) fd Cc1120.SRES w
  obtain ⟨-, rfl⟩ := Prod.mk.inj (Except.ok.inj (hstrobe.symm.trans hstrobe'))
  have hreset : ((chipOs reset os).strobe fd Cc1120.SRES w.dev).2.1 =
      { w.dev.1 with config := reset, resets := w.dev.1.resets + 1 } := by
    change (Chip.strobe reset os fd Cc1120.SRES w.dev).2.1 = _
    rw [Chip.strobe, if_pos ⟨hfd, rfl⟩]
    rfl
  have hset : Programs fd (program cc1120Settings)
      { w with dev := ((chipOs reset os).strobe fd Cc1120.SRES w.dev).2, errno := e } w' :=
    Programs.bind_left (programs_sys fun _ => rfl) (fun _ =>
      Programs.bind_right (programs_writeRegs cc1120Settings) fun _ =>
        (programs_cc1120Manualcalibration fuel).bind fun _ =>
        (programs_cc1120Strobe (by decide)).bind fun _ => .pure (some ())) _ r w' hrun
  refine ⟨hset.ctx, hset.resets.trans (congrArg Chip.resets hreset), ?_⟩
  rw [hset.config, config_start]
  change (if fd ∈ ((chipOs reset os).strobe fd Cc1120.SRES w.dev).2.1.fds then
    program cc1120Settings ((chipOs reset os).strobe fd Cc1120.SRES w.dev).2.1.config else _) = _
  rw [hreset]
  exact if_pos hfd

/-- Connecting an RF context resets the radio and programs it, unless the device does not open. -/
theorem resets_of_ttaConnect {fuel : ℕ} {r : Option Unit} (hrf : w.ctx.type = .rf)
    (hrun : (ttaConnect (chipOs reset os) fuel).run w = .ok (r, w')) :
    w'.ctx = { w.ctx with s := w'.ctx.s } ∧
      (r = none ∧ w'.dev.1.resets = w.dev.1.resets ∧ w'.dev.1.config = w.dev.1.config ∨
        w'.dev.1.resets = w.dev.1.resets + 1 ∧ w'.dev.1.config = Tuning.start.config reset) := by
  obtain ⟨ctx, _, ⟨⟩, hrun⟩ := Exec.run_bind_eq_ok.mp hrun
  rcases hbe : w.ctx.backend with d | d | d
  · rw [Tta.type, hbe] at hrf
    cases hrf
  · rw [Tta.type, hbe] at hrf
    cases hrf
  · simp only [hbe] at hrun
    obtain ⟨fd, w₁, hopen, hrun⟩ := Exec.run_bind_eq_ok.mp hrun
    obtain ⟨e, hopen'⟩ := exists_run_sys (Chip.openDevice os d.device) w
    obtain ⟨rfl, rfl⟩ := Prod.mk.inj (Except.ok.inj (hopen.symm.trans hopen'))
    obtain ⟨_, w₂, ⟨⟩, hrun⟩ := Exec.run_bind_eq_ok.mp hrun
    rcases hfd : (Chip.openDevice os d.device w.dev).1.toOption with _ | fd
    · simp only [hfd] at hrun
      cases hrun
      exact ⟨rfl, .inl ⟨rfl, rfl, rfl⟩⟩
    · simp only [hfd] at hrun
      have hmem : fd ∈ (Chip.openDevice os d.device w.dev).2.1.fds := by
        change fd ∈ (Chip.openDevice os d.device w.dev).1.toOption.toList ++ w.dev.1.fds
        rw [hfd]
        exact List.mem_cons_self
      obtain ⟨hctx, hresets, hconfig⟩ := resets_of_configure (w := { w with
        ctx := { w.ctx with s := fd }, dev := (Chip.openDevice os d.device w.dev).2, errno := e })
        hmem hrun
      exact ⟨by rw [hctx], .inr ⟨hresets, hconfig⟩⟩

/-! ## Calls -/

/-- The registers and the number of resets behind a port, after calls that neither set a register
nor connect from outside: only the link recovery resets the radio. -/
structure Retuned (reset : UInt16 → UInt8) (p q : Port (Chip × σ)) : Prop where
  recovers : q.recovers = p.recovers
  le_resets : p.dev.1.resets ≤ q.dev.1.resets
  config : q.dev.1.resets = p.dev.1.resets → q.dev.1.config = p.dev.1.config
  reset : q.dev.1.resets ≠ p.dev.1.resets →
    p.recovers = true ∧ q.dev.1.config = Tuning.start.config reset

instance : Std.Refl (Retuned reset : Port (Chip × σ) → Port (Chip × σ) → Prop) where
  refl _ := ⟨rfl, le_refl _, fun _ => rfl, fun h => absurd rfl h⟩

instance : IsTrans (Port (Chip × σ)) (Retuned reset) where
  trans p q r h h' := by
    have hle := h.le_resets
    have hle' := h'.le_resets
    refine ⟨h'.recovers.trans h.recovers, hle.trans hle', fun heq => ?_, fun hne => ?_⟩
    · have hq : q.dev.1.resets = p.dev.1.resets := by omega
      exact (h'.config (heq.trans hq.symm)).trans (h.config hq)
    · by_cases hr : r.dev.1.resets = q.dev.1.resets
      · obtain ⟨hrecovers, hconfig⟩ := h.reset fun hq => hne (hr.trans hq)
        exact ⟨hrecovers, (h'.config hr).trans hconfig⟩
      · obtain ⟨hrecovers, hconfig⟩ := h'.reset hr
        exact ⟨h.recovers ▸ hrecovers, hconfig⟩

/-- What is not a reset leaves the registers alone. -/
theorem fst_of_step_chip {d d' : Chip × σ} (h : (chipOs reset os).Step d d') : d'.1 = d.1 := by
  cases h with
  | strobe fd _ hcmd => exact fst_strobe (ne_of_mem_of_not_mem hcmd (by decide)) d
  | readReg fd addr => exact fst_read addr d
  | _ => rfl

/-- Calls on an RF context retune the radio at most by recovering the link. -/
theorem covers_retuned : Covers (chipOs reset os) .rf (Retuned reset) where
  step p d hstep := by
    have hsame := fst_of_step_chip hstep
    exact ⟨rfl, (congrArg Chip.resets hsame).ge, fun _ => congrArg Chip.config hsame,
      fun h => absurd (congrArg Chip.resets hsame) h⟩
  reconnect fuel r w w' hrf hlink hrun := by
    obtain ⟨u, w₁, hclose, hconnect⟩ := Exec.run_bind_eq_ok.mp hrun
    obtain rfl := eq_of_ttaClose hrf hclose
    obtain ⟨hctx, hreset⟩ := resets_of_ttaConnect hrf hconnect
    refine ⟨?_, ?_, fun heq => ?_, fun hne => ?_⟩
    · change w'.ctx.recoversLink = w₁.ctx.recoversLink
      rw [hctx]
      rfl
    · change w₁.dev.1.resets ≤ w'.dev.1.resets
      rcases hreset with ⟨-, hresets, -⟩ | ⟨hresets, -⟩ <;> omega
    · change w'.dev.1.resets = w₁.dev.1.resets at heq
      exact (hreset.resolve_right fun h => by omega).2.2
    · exact ⟨hlink, (hreset.resolve_left fun h => hne h.2.1).2⟩

/-- A call on an RF context leaves the registers alone, unless it resets the radio: only connecting
and recovering the link do. -/
theorem retuned_of_call {fuel : ℕ} {c : Call} (hrf : w.ctx.type = .rf)
    (hrun : (c.run (chipOs reset os) fuel).run w = .ok ((), w')) :
    w'.ctx.type = .rf ∧
      (w'.dev.1.resets = w.dev.1.resets → w'.dev.1.config = w.dev.1.config) ∧
      (w'.dev.1.resets ≠ w.dev.1.resets → (c = .connect ∨ w.ctx.recoversLink = true) ∧
        w'.dev.1.config = Tuning.start.config reset) := by
  have hport (hcall : c.KeepsPort) : w'.ctx.type = .rf ∧
      (w'.dev.1.resets = w.dev.1.resets → w'.dev.1.config = w.dev.1.config) ∧
      (w'.dev.1.resets ≠ w.dev.1.resets → (c = .connect ∨ w.ctx.recoversLink = true) ∧
        w'.dev.1.config = Tuning.start.config reset) := by
    obtain ⟨htype, hretuned⟩ := moves_call covers_retuned fuel hcall w () w' hrun
    exact ⟨htype.trans hrf, (hretuned hrf).config,
      fun hne => ((hretuned hrf).reset hne).imp_left .inr⟩
  match c with
  | .connect =>
    obtain ⟨r, w₁, hrun, ⟨⟩⟩ := Exec.run_bind_eq_ok.mp hrun
    obtain ⟨hctx, hreset⟩ := resets_of_ttaConnect hrf hrun
    refine ⟨?_, fun heq => ?_, fun hne => ⟨.inl rfl, ?_⟩⟩
    · rw [hctx]
      exact hrf
    · exact (hreset.resolve_right fun h => by omega).2.2
    · exact (hreset.resolve_left fun h => hne h.2.1).2
  | .close =>
    obtain rfl := eq_of_ttaClose hrf hrun
    exact ⟨hrf, fun _ => rfl, fun h => absurd rfl h⟩
  | .setSocket s =>
    cases hrun
    exact ⟨hrf, fun _ => rfl, fun h => absurd rfl h⟩
  | .setErrorRecovery v =>
    cases hrun
    exact ⟨hrf, fun _ => rfl, fun h => absurd rfl h⟩
  | .send _ | .receive _ | .reply _ _ | .request _ | .convTtamsg2pkt _ _ | .flush
  | .setResponseTimeout _ | .setByteTimeout _ | .setIp _ _ | .setId _ _ _ _ | .setRts _ =>
    exact hport trivial

/-! ## Runs -/

/-- The calls an application makes on an RF context. -/
inductive RadioCall where
  | setCh (ch : Fin 21)
  | setPower (power : Fin 16)
  | setAgcCsThr (thr : Int)
  | setAgcGainAdjust (val : Int)
  | getRssi
  | call (c : Call)

namespace RadioCall

/-- Make a call; what it returns is not kept. -/
def run (os : Os σ) (fuel : ℕ) (memory : UInt16 → Int → UInt8) : RadioCall → Machine σ Unit
  | setCh ch => ttaRfSetCh os fuel memory ch.val
  | setPower power => ttaRfSetPower os fuel memory power.val
  | setAgcCsThr thr => ttaRfSetAgcCsThr os thr
  | setAgcGainAdjust val => ttaRfSetAgcGainAdjust os val
  | getRssi => do let _ ← ttaRfGetRssi os
  | call c => c.run os fuel

/-- What is set after a call on a context that is open. -/
def set : RadioCall → Tuning → Tuning
  | setCh ch, t => { t with channel := ch }
  | setPower power, t => { t with power := some power }
  | setAgcCsThr thr, t => { t with csThr := UInt8.ofInt thr }
  | setAgcGainAdjust val, t => { t with gainAdjust := UInt8.ofInt val }
  | getRssi, t => t
  | call _, t => t

/-- What is set after a call: a reset brings back what is set when a context has been connected, and
a context that is not open sets nothing. -/
def next (c : RadioCall) (t : Tuning) (w w' : World (Chip × σ)) : Tuning :=
  if w'.dev.1.resets = w.dev.1.resets then
    if w.ctx.s ∈ w.dev.1.fds then c.set t else t
  else
    .start

/-- A call that writes registers, or none. -/
theorem config_of_programs {c : RadioCall} {t : Tuning}
    {f : (UInt16 → UInt8) → UInt16 → UInt8} (hset : f (t.config reset) = (c.set t).config reset)
    (hrf : w.ctx.type = .rf) (hconfig : w.dev.1.config = t.config reset)
    (h : Programs w.ctx.s f w w') :
    w'.ctx.type = .rf ∧ w'.dev.1.config = (c.next t w w').config reset := by
  refine ⟨(congrArg Tta.type h.ctx).trans hrf, ?_⟩
  rw [next, if_pos h.resets, h.config, hconfig]
  split
  · exact hset
  · rfl

/-- After every call the registers are those of what is then set. -/
theorem config_of_run {fuel : ℕ} {memory : UInt16 → Int → UInt8} {c : RadioCall} {t : Tuning}
    (hrf : w.ctx.type = .rf) (hconfig : w.dev.1.config = t.config reset)
    (hrun : (c.run (chipOs reset os) fuel memory).run w = .ok ((), w')) :
    w'.ctx.type = .rf ∧ w'.dev.1.config = (c.next t w w').config reset := by
  match c with
  | setCh ch =>
    obtain ⟨_, _, ⟨⟩, hrun⟩ := Exec.run_bind_eq_ok.mp hrun
    exact config_of_programs (program_freqRegs memory ch) hrf hconfig
      (programs_writeAndCalibrate fuel _ _ _ _ hrun)
  | setPower power =>
    obtain ⟨_, _, ⟨⟩, hrun⟩ := Exec.run_bind_eq_ok.mp hrun
    exact config_of_programs (program_powerRegs memory power) hrf hconfig
      (programs_writeAndCalibrate fuel _ _ _ _ hrun)
  | setAgcCsThr thr =>
    obtain ⟨_, _, ⟨⟩, hrun⟩ := Exec.run_bind_eq_ok.mp hrun
    exact config_of_programs (program_csThr _) hrf hconfig
      (programs_cc1120WriteSingle _ _ _ _ _ hrun)
  | setAgcGainAdjust val =>
    obtain ⟨_, _, ⟨⟩, hrun⟩ := Exec.run_bind_eq_ok.mp hrun
    exact config_of_programs (program_gainAdjust _) hrf hconfig
      (programs_cc1120WriteSingle _ _ _ _ _ hrun)
  | getRssi =>
    obtain ⟨_, w₁, hrun, ⟨⟩⟩ := Exec.run_bind_eq_ok.mp hrun
    obtain ⟨_, _, ⟨⟩, hrun⟩ := Exec.run_bind_eq_ok.mp hrun
    exact config_of_programs (c := getRssi) (f := id) rfl hrf hconfig
      (programs_cc1120GetRssi _ _ _ hrun)
  | call c =>
    obtain ⟨hrf', hsame, hreset⟩ := retuned_of_call hrf hrun
    refine ⟨hrf', ?_⟩
    unfold next
    by_cases hresets : w'.dev.1.resets = w.dev.1.resets
    · rw [if_pos hresets, hsame hresets, hconfig]
      exact congrArg (Tuning.config reset) (ite_self t).symm
    · rw [if_neg hresets]
      exact (hreset hresets).2

end RadioCall

/-- The runs of RF contexts on a radio, each from a connect that succeeds, with what is set. -/
inductive RadioRun (reset : UInt16 → UInt8) (os : Os σ) : Tuning → World (Chip × σ) → Prop
  | connect {w w' : World (Chip × σ)} (fuel : ℕ) (hrf : w.ctx.type = .rf)
      (hrun : (ttaConnect (chipOs reset os) fuel).run w = .ok (some (), w')) :
      RadioRun reset os .start w'
  | call {t : Tuning} {w w' : World (Chip × σ)} (fuel : ℕ) (memory : UInt16 → Int → UInt8)
      (c : RadioCall) (h : RadioRun reset os t w)
      (hrun : (c.run (chipOs reset os) fuel memory).run w = .ok ((), w')) :
      RadioRun reset os (c.next t w w') w'

/-- In every run the context is an RF context, and the registers are those of what is set. -/
theorem tuned_of_radioRun {t : Tuning} (h : RadioRun reset os t w) :
    w.ctx.type = .rf ∧ w.dev.1.config = t.config reset := by
  induction h with
  | connect fuel hrf hrun =>
    obtain ⟨hctx, hreset⟩ := resets_of_ttaConnect hrf hrun
    refine ⟨?_, (hreset.resolve_left fun h => Option.some_ne_none _ h.1).2⟩
    rw [hctx]
    exact hrf
  | call fuel memory c h hrun ih => exact RadioCall.config_of_run ih.1 ih.2 hrun

/-- In every run the registers of the radio are those of what is set, so the radio is on the channel
that is set. Without link recovery, no call but connecting changes them, apart from those that set
them. -/
theorem config_of_radioRun {t : Tuning} (h : RadioRun reset os t w) :
    w.dev.1.config = t.config reset ∧
    frequencyWord w.dev.1.config = 0x6A2CCD + 1024 * t.channel.val / 5 ∧
    ∀ fuel (c : Call) w', c ≠ .connect → w.ctx.recoversLink = false →
      (c.run (chipOs reset os) fuel).run w = .ok ((), w') →
      w'.dev.1.config = t.config reset := by
  obtain ⟨hrf, hconfig⟩ := tuned_of_radioRun h
  refine ⟨hconfig, hconfig ▸ frequencyWord_config, fun fuel c w' hconnect hlink hrun => ?_⟩
  obtain ⟨-, hsame, hreset⟩ := retuned_of_call hrf hrun
  refine (hsame ?_).trans hconfig
  by_contra hne
  rcases (hreset hne).1 with hc | hrecovers
  · exact hconnect hc
  · rw [hlink] at hrecovers
    cases hrecovers

/-- A new RF context at a radio whose registers are all 0. -/
def freshRadio : World (Chip × Unit) :=
  ⟨ttaNewRf "/dev/spidev1.0" 1 2 3 4, .other 0, List.Vector.replicate 128 0, 0,
    ⟨fun _ => 0, [], 0⟩, ()⟩

/-- Connected and set to channel 7. -/
theorem config_of_radioRun_setCh :
    ∃ w₁ w₂, (ttaConnect (chipOs (fun _ => 0) idleRadio) 1).run freshRadio = .ok (some (), w₁) ∧
      ((RadioCall.setCh 7).run (chipOs (fun _ => 0) idleRadio) 1 fun _ _ => 0).run w₁ =
        .ok ((), w₂) ∧
      frequencyWord w₂.dev.1.config = 0x6A2CCD + 1433 := by
  have heval : ((do
      let r ← ttaConnect (chipOs (fun _ => 0) idleRadio) 1
      let w₁ ← get
      (RadioCall.setCh 7).run (chipOs (fun _ => 0) idleRadio) 1 fun _ _ => 0
      let w₂ ← get
      return (r, w₂.dev.1.resets == w₁.dev.1.resets, w₁.dev.1.fds.contains w₁.ctx.s) :
        Machine (Chip × Unit) (Option Unit × Bool × Bool)).run freshRadio).toOption.map Prod.fst =
      some (some (), true, true) := by
    decide +kernel
  obtain ⟨w₃, hrun⟩ := Exec.exists_run_of_fst heval
  obtain ⟨r, w₁, hconnect, hrun⟩ := Exec.run_bind_eq_ok.mp hrun
  obtain ⟨_, _, ⟨⟩, hrun⟩ := Exec.run_bind_eq_ok.mp hrun
  obtain ⟨⟨⟩, w₂, hset, hrun⟩ := Exec.run_bind_eq_ok.mp hrun
  obtain ⟨_, _, ⟨⟩, hrun⟩ := Exec.run_bind_eq_ok.mp hrun
  obtain ⟨hvalue, rfl⟩ := Prod.mk.inj (Except.ok.inj hrun)
  obtain ⟨rfl, hflags⟩ := Prod.mk.inj hvalue
  obtain ⟨hresets, hopen⟩ := Prod.mk.inj hflags
  have hnext : (RadioCall.setCh 7).next .start w₁ w₂ = { Tuning.start with channel := 7 } := by
    rw [RadioCall.next, if_pos (beq_iff_eq.mp hresets), if_pos (List.contains_iff_mem.mp hopen)]
    rfl
  have hword := (config_of_radioRun (.call 1 _ (.setCh 7) (.connect 1 rfl hconnect) hset)).2.1
  rw [hnext] at hword
  exact ⟨w₁, w₂, hconnect, hset, hword⟩

end Libtta
