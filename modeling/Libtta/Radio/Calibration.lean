import Libtta.Context.Walk
import Libtta.Model.Api

/-!
# Calls that wait for an idle radio

The calibration has two polling loops. The first one gives up after 51 reads of the state of the
radio, the second one does not. `Returns` says that a call comes to its end, with the bound on the
second loop that it is given, and `Acts` that a call always does; so the calls that calibrate the
radio return exactly when the radio shows that it is idle to the second loop
(`radio_configuration_returns_iff`).
-/

namespace Libtta

variable {σ α β : Type}

/-! ## Calls that return -/

/-- The call returns. -/
def Returns (x : Machine σ α) (w : World σ) : Prop := ∃ r, x.run w = .ok r

/-- From every state the call returns, and it changes at most the device and `errno`. -/
def Acts (x : Machine σ α) : Prop :=
  ∀ w, ∃ a d e, x.run w = .ok (a, { w with dev := d, errno := e })

/-- A composition returns when its first part does, and the second part does from there. -/
theorem returns_bind_iff {x : Machine σ α} {f : α → Machine σ β} {w : World σ} :
    Returns (x >>= f) w ↔ ∃ a w', x.run w = .ok (a, w') ∧ Returns (f a) w' := by
  constructor
  · rintro ⟨r, h⟩
    obtain ⟨a, w', hx, hf⟩ := Exec.run_bind_eq_ok.mp h
    exact ⟨a, w', hx, r, hf⟩
  · rintro ⟨a, w', hx, r, hf⟩
    exact ⟨r, Exec.run_bind_eq_ok.mpr ⟨a, w', hx, hf⟩⟩

/-- What comes first does not matter once it has returned. -/
theorem returns_bind_of_ok {x : Machine σ α} {f : α → Machine σ β} {w w' : World σ} {a : α}
    (h : x.run w = .ok (a, w')) : Returns (x >>= f) w ↔ Returns (f a) w' := by
  rw [Returns, Exec.run_bind_of_ok h]
  rfl

namespace Acts

/-- A call that acts, returns. -/
theorem returns {x : Machine σ α} (h : Acts x) (w : World σ) : Returns x w := by
  obtain ⟨a, d, e, hrun⟩ := h w
  exact ⟨_, hrun⟩

/-- A composition of calls that act. -/
protected theorem bind {x : Machine σ α} {f : α → Machine σ β} (hx : Acts x)
    (hf : ∀ a, Acts (f a)) : Acts (x >>= f) := by
  intro w
  obtain ⟨a, d, e, h₁⟩ := hx w
  obtain ⟨b, d', e', h₂⟩ := hf a { w with dev := d, errno := e }
  exact ⟨b, d', e', (Exec.run_bind_of_ok h₁).trans h₂⟩

/-- What is done behind a call does not matter for its return, if it acts. -/
theorem returns_bind_iff {x : Machine σ α} {f : α → Machine σ β} {w : World σ}
    (hf : ∀ a, Acts (f a)) : Returns (x >>= f) w ↔ Returns x w := by
  rw [Libtta.returns_bind_iff]
  constructor
  · rintro ⟨a, w', hx, -⟩
    exact ⟨_, hx⟩
  · rintro ⟨⟨a, w'⟩, hx⟩
    exact ⟨a, w', hx, (hf a).returns w'⟩

/-- Returning a value. -/
protected theorem pure (a : α) : Acts (pure a : Machine σ α) := fun w => ⟨a, w.dev, w.errno, rfl⟩

/-- A call. -/
protected theorem sys (call : σ → Except Errno α × σ) : Acts (sys call) := by
  intro w
  obtain ⟨e, hrun⟩ := exists_run_sys call w
  exact ⟨_, _, e, hrun⟩

/-- A call that leaves an answer. -/
protected theorem sysAnswer (call : σ → (α × Except Errno Unit) × σ) : Acts (sysAnswer call) := by
  intro w
  obtain ⟨e, hrun⟩ := exists_run_sysAnswer call w
  exact ⟨_, _, e, hrun⟩

end Acts

/-! ## Registers -/

section Registers

variable (os : Os σ) (fd : Int)

/-- The device and `errno` may have changed. -/
def Acted (w w' : World σ) : Prop := ∃ d e, w' = { w with dev := d, errno := e }

instance : Std.Refl (Acted : World σ → World σ → Prop) where
  refl w := ⟨w.dev, w.errno, rfl⟩

instance : IsTrans (World σ) Acted where
  trans := by
    rintro w _ _ ⟨d, e, rfl⟩ ⟨d', e', rfl⟩
    exact ⟨d', e', rfl⟩

/-- The effects that change at most the device and `errno`. -/
def actingEffects : List Effect :=
  [.garbage, .select, .read, .write, .readNow, .openDevice, .close, .shutdown, .socket, .setNodelay,
   .setTos, .connect, .selectWrite, .noError, .tcgetattr, .tcsetattr, .tcflush, .rtsSet, .rtsClear,
   .txEmpty, .modemGet, .modemSet, .nanosleep, .usleep, .gettimeofday, .strobe, .setupStrobe,
   .readReg, .writeReg, .fifoRead, .fifoWrite, .errno, .setErrno]

/-- The steps with these effects. -/
theorem acts_of_does {os : Os σ} {k : Effect} {x : Machine σ α} (h : os.Does k x)
    (hk : k ∈ actingEffects) : Acts x := by
  cases h with
  | garbage | select | selectWrite | gettimeofday => exact fun w => ⟨_, _, w.errno, rfl⟩
  | setErrno e => exact fun w => ⟨(), w.dev, e, rfl⟩
  | txEmpty | modemGet | readReg | fifoRead => exact .sysAnswer _
  | setSocket | setTimeout | save | setConfirmationToIgnore | fillRxfifo | readRf | encode =>
    exact absurd hk (by decide)
  | _ => exact .sys _

/-- What is made of such steps, acts. -/
theorem acts_of_uses {os : Os σ} {x : Machine σ α}
    (h : os.Uses actingEffects (fun _ => False) (fun _ => True) x) : Acts x := by
  have hpart : ∀ {P : World σ → Prop} {β : Type} {y : Machine σ β}, os.Part actingEffects P y →
      ∀ w, P w → ∃ a w', y.run w = .ok (a, w') ∧ Acted w w' := by
    rintro P β y (⟨hk, hdoes⟩ | ⟨fuel, hk⟩) w -
    · obtain ⟨a, d, e, hrun⟩ := acts_of_does hdoes hk w
      exact ⟨a, _, hrun, d, e, rfl⟩
    · exact absurd hk (by decide)
  intro w
  obtain ⟨a, _, hrun, d, e, rfl⟩ := h.always hpart w trivial
  exact ⟨a, d, e, hrun⟩

/-- A strobe acts. -/
theorem acts_cc1120Strobe (cmd : UInt8) : Acts (cc1120Strobe os fd cmd) :=
  acts_of_uses (uses_cc1120Strobe fd (.inl (by decide)))

end Registers

/-! ## The polling loops -/

section Polling

variable (os : Os σ) (fd : Int)

/-- The device after a number of reads of the state of the radio. -/
def Os.afterPolls : ℕ → σ → σ
  | 0, d => d
  | i + 1, d => Os.afterPolls i (os.readReg fd Cc1120.MARCSTATE d).2

/-- The state of the radio that the read with the given number shows. -/
def Os.marcPoll (i : ℕ) (d : σ) : UInt8 :=
  (os.readReg fd Cc1120.MARCSTATE (os.afterPolls fd i d)).1.1

/-- A read of the state of the radio. -/
theorem exists_run_marcPoll (w : World σ) :
    ∃ e, (cc1120ReadSingle os fd Cc1120.MARCSTATE).run w = .ok (os.marcPoll fd 0 w.dev,
      { w with dev := os.afterPolls fd 1 w.dev, errno := e }) :=
  exists_run_sysAnswer (os.readReg fd Cc1120.MARCSTATE) w

/-- The second loop makes at most `rounds` reads exactly when one of the first `rounds` reads shows
an idle radio. The induction is on the rounds. -/
theorem returns_pollIdle_iff (rounds : ℕ) (w : World σ) :
    Returns (pollIdle os fd rounds) w ↔ ∃ i < rounds, os.marcPoll fd i w.dev = Cc1120.idle := by
  induction rounds generalizing w with
  | zero =>
    refine iff_of_false ?_ (by simp)
    rintro ⟨r, h⟩
    cases h
  | succ rounds ih =>
    obtain ⟨e, hread⟩ := exists_run_marcPoll os fd w
    rw [pollIdle, returns_bind_of_ok hread]
    by_cases hidle : os.marcPoll fd 0 w.dev = Cc1120.idle
    · rw [if_pos hidle]
      exact iff_of_true (Acts.pure _ |>.returns _) ⟨0, Nat.succ_pos _, hidle⟩
    · rw [if_neg hidle, ih]
      constructor
      · rintro ⟨i, hi, hshown⟩
        exact ⟨i + 1, Nat.succ_lt_succ hi, hshown⟩
      · rintro ⟨i, hi, hshown⟩
        cases i with
        | zero => exact absurd hshown hidle
        | succ i => exact ⟨i, Nat.lt_of_succ_lt_succ hi, hshown⟩

end Polling

/-! ## The calibration -/

section Calibration

variable (os : Os σ) (fd : Int)

/-- The first part of the calibration, up to the second polling loop: the original value of
`FS_CAL2` has been read, and the results with the high start value. -/
def calibrateHigh : Machine σ (UInt8 × CalResults) := do
  cc1120Strobe os fd Cc1120.SIDLE
  cc1120WriteSingle os fd Cc1120.FS_VCO2 0x00
  let originalFsCal2 ← cc1120ReadSingle os fd Cc1120.FS_CAL2
  cc1120WriteSingle os fd Cc1120.FS_CAL2 (originalFsCal2 + 2)
  cc1120Strobe os fd Cc1120.SCAL
  pollIdleBounded os fd 50
  let high ← readCalResults os fd
  cc1120WriteSingle os fd Cc1120.FS_VCO2 0x00
  cc1120WriteSingle os fd Cc1120.FS_CAL2 originalFsCal2
  cc1120Strobe os fd Cc1120.SCAL
  return (originalFsCal2, high)

/-- The last part of the calibration, behind the second polling loop. -/
def programBetter (high : CalResults) : Machine σ Unit := do
  let mid ← readCalResults os fd
  if high.fsVco2 > mid.fsVco2 then
    writeCalResults os fd high
  else
    writeCalResults os fd mid

/-- The second polling loop stands between the two parts. -/
theorem cc1120Manualcalibration_eq (fuel : ℕ) : cc1120Manualcalibration os fuel fd =
    calibrateHigh os fd >>= fun r => pollIdle os fd fuel >>= fun _ => programBetter os fd r.2 := by
  simp only [cc1120Manualcalibration, calibrateHigh, programBetter, bind_assoc, pure_bind]

/-- The last part acts. -/
theorem acts_programBetter (high : CalResults) : Acts (programBetter os fd high) :=
  acts_of_uses ((uses_readCalResults fd (by decide)).bind fun _ =>
    .ite (fun _ => uses_writeCalResults fd _ (by decide))
      fun _ => uses_writeCalResults fd _ (by decide))

/-- In a calibration that begins in the given state, one of the first `rounds` reads of the second
loop shows an idle radio. -/
def ShowsIdle (rounds : ℕ) (w : World σ) : Prop :=
  ∃ r w', (calibrateHigh os fd).run w = .ok (r, w') ∧
    ∃ i < rounds, os.marcPoll fd i w'.dev = Cc1120.idle

/-- The calibration returns exactly when the radio shows that it is idle. -/
theorem returns_cc1120Manualcalibration_iff (rounds : ℕ) (w : World σ) :
    Returns (cc1120Manualcalibration os rounds fd) w ↔ ShowsIdle os fd rounds w := by
  rw [cc1120Manualcalibration_eq, returns_bind_iff]
  refine exists_congr fun r => exists_congr fun w' => and_congr_right fun _ => ?_
  rw [Acts.returns_bind_iff fun _ => acts_programBetter os fd r.2, returns_pollIdle_iff]

/-- The same for a calibration that begins when `x` has returned. -/
def ShowsIdleAfter (x : Machine σ Unit) (rounds : ℕ) (w : World σ) : Prop :=
  ∃ w', x.run w = .ok ((), w') ∧ ShowsIdle os fd rounds w'

/-- A calibration with calls before it, and calls behind it that act. -/
theorem returns_calibration_iff {x y : Machine σ Unit} {z : Unit → Machine σ α} (rounds : ℕ)
    (hy : y = cc1120Manualcalibration os rounds fd) (hz : ∀ u, Acts (z u)) (w : World σ) :
    Returns (x >>= fun _ => y >>= z) w ↔ ShowsIdleAfter os fd x rounds w := by
  rw [returns_bind_iff, hy]
  constructor
  · rintro ⟨⟨⟩, w', hx, hcal⟩
    exact ⟨w', hx, (returns_cc1120Manualcalibration_iff os fd rounds w').mp
      ((Acts.returns_bind_iff hz).mp hcal)⟩
  · rintro ⟨w', hx, hidle⟩
    exact ⟨(), w', hx, (Acts.returns_bind_iff hz).mpr
      ((returns_cc1120Manualcalibration_iff os fd rounds w').mpr hidle)⟩

end Calibration

/-! ## The public functions -/

section Configuration

variable (os : Os σ) (rounds : ℕ)

/-- The registers that `tta_rf_set_ch` writes before the calibration. -/
def freqRegs (memory : UInt16 → Int → UInt8) (ch : Int) : List (UInt16 × UInt8) :=
  [(Cc1120.FREQ2, tableAt (memory Cc1120.FREQ2) freq2Table ch),
    (Cc1120.FREQ1, tableAt (memory Cc1120.FREQ1) freq1Table ch),
    (Cc1120.FREQ0, tableAt (memory Cc1120.FREQ0) freq0Table ch)]

/-- The registers that `tta_rf_set_power` writes before the calibration. -/
def powerRegs (memory : UInt16 → Int → UInt8) (power : Int) : List (UInt16 × UInt8) :=
  [(Cc1120.PA_CFG2, tableAt (memory Cc1120.PA_CFG2) paCfg2Table power),
    (Cc1120.PA_CFG1, tableAt (memory Cc1120.PA_CFG1) paCfg1Table power),
    (Cc1120.PA_CFG0, tableAt (memory Cc1120.PA_CFG0) paCfg0Table power)]

/-- Writing registers. -/
def writeRegs (fd : Int) (regs : List (UInt16 × UInt8)) : Machine σ Unit :=
  regs.forM fun r => cc1120WriteSingle os fd r.1 r.2

/-- What `tta_connect` does with the radio before the calibration. -/
def resetRadio (fd : Int) : Machine σ Unit := do
  cc1120Strobe os fd Cc1120.SRES
  let _ ← sys (os.usleep 500000)
  cc1120Writesetting os fd

/-- Setting registers with a calibration behind it. -/
theorem returns_writeAndCalibrate_iff (fd : Int) (regs : List (UInt16 × UInt8)) (w : World σ) :
    Returns (writeAndCalibrate os rounds fd regs) w ↔
      ShowsIdleAfter os fd (writeRegs os fd regs) rounds w :=
  returns_calibration_iff os fd rounds rfl
    (fun _ => (acts_cc1120Strobe os fd _).bind fun _ => acts_cc1120Strobe os fd _) w

/-- Connecting an RF context returns exactly when the device cannot be opened, or the radio shows
that it is idle. -/
theorem returns_ttaConnect_rf_iff {w : World σ} {d : TtaRf} (hbe : w.ctx.backend = .rf d) :
    Returns (ttaConnect os rounds) w ↔
      ∀ fd dev, os.openDevice d.device w.dev = (.ok fd, dev) →
        ShowsIdleAfter os fd (resetRadio os fd) rounds
          { w with ctx := { w.ctx with s := fd }, dev := dev } := by
  unfold ttaConnect
  rw [returns_bind_of_ok (run_getCtx w), hbe]
  change Returns (ttaRfConnect os rounds d) w ↔ _
  unfold ttaRfConnect
  rcases hopen : os.openDevice d.device w.dev with ⟨e | fd, dev⟩
  · rw [returns_bind_of_ok (run_sys_of_error hopen)]
    exact iff_of_true ⟨_, rfl⟩ (by rintro _ _ ⟨⟩)
  · rw [returns_bind_of_ok (run_sys_of_ok hopen), returns_bind_of_ok (run_modifyCtx _ _)]
    have hreset : (do
          cc1120Strobe os fd Cc1120.SRES
          let _ ← sys (os.usleep 500000)
          cc1120Writesetting os fd
          cc1120Manualcalibration os rounds fd
          cc1120Strobe os fd Cc1120.SIDLE
          return some () : Machine σ (Option Unit)) =
        resetRadio os fd >>= fun _ => cc1120Manualcalibration os rounds fd >>= fun _ =>
          cc1120Strobe os fd Cc1120.SIDLE >>= fun _ => pure (some ()) := by
      simp only [resetRadio, bind_assoc]
    refine (Iff.of_eq (congrArg (Returns · _) hreset)).trans ?_
    rw [returns_calibration_iff os fd rounds rfl
      fun _ => (acts_cc1120Strobe os fd _).bind fun _ => .pure _]
    constructor
    · rintro hidle _ _ ⟨⟩
      exact hidle
    · intro h
      exact h fd dev rfl

/-- Every call that configures the radio returns, with at most `rounds` reads in the second polling
loop, exactly when one of these reads shows an idle radio. -/
theorem radio_configuration_returns_iff (w : World σ) (memory : UInt16 → Int → UInt8) (n : Int) :
    (∀ fd, Returns (cc1120Manualcalibration os rounds fd) w ↔ ShowsIdle os fd rounds w) ∧
    (∀ d, w.ctx.backend = .rf d → (Returns (ttaConnect os rounds) w ↔
      ∀ fd dev, os.openDevice d.device w.dev = (.ok fd, dev) →
        ShowsIdleAfter os fd (resetRadio os fd) rounds
          { w with ctx := { w.ctx with s := fd }, dev := dev })) ∧
    (Returns (ttaRfSetCh os rounds memory n) w ↔
      ShowsIdleAfter os w.ctx.s (writeRegs os w.ctx.s (freqRegs memory n)) rounds w) ∧
    (Returns (ttaRfSetPower os rounds memory n) w ↔
      ShowsIdleAfter os w.ctx.s (writeRegs os w.ctx.s (powerRegs memory n)) rounds w) :=
  ⟨fun fd => returns_cc1120Manualcalibration_iff os fd rounds w,
    fun _ hbe => returns_ttaConnect_rf_iff os rounds hbe,
    (returns_bind_of_ok (run_getCtx w)).trans
      (returns_writeAndCalibrate_iff os rounds w.ctx.s (freqRegs memory n) w),
    (returns_bind_of_ok (run_getCtx w)).trans
      (returns_writeAndCalibrate_iff os rounds w.ctx.s (powerRegs memory n) w)⟩

end Configuration

/-- An RF context whose radio reads 0 in every register. -/
def silentRadio : World Unit :=
  ⟨ttaNewRf "/dev/spidev1.0" 1 2 3 4, .other 0, List.Vector.replicate 128 0, 0, ()⟩

/-- A radio that is idle whenever it is looked at. -/
def idleRadio : Os Unit where
  readReg _ _ d := ((Cc1120.idle, .ok ()), d)

/-- With a radio that never shows that it is idle, connecting does not return; with one that does,
setting the channel does. -/
theorem radio_configuration_returns_iff_silent :
    ¬Returns (ttaConnect ({} : Os Unit) 1) silentRadio ∧
    Returns (ttaRfSetCh idleRadio 1 (fun _ _ => 0) 7) silentRadio := by
  refine ⟨fun h => ?_, ?_⟩
  · obtain ⟨w', -, r, w'', -, i, -, hidle⟩ :=
      ((radio_configuration_returns_iff {} 1 silentRadio (fun _ => 0) 0).2.1 _ rfl).mp h 3 () rfl
    have hzero : (0 : UInt8) = Cc1120.idle := hidle
    exact absurd hzero (by decide)
  · refine (radio_configuration_returns_iff idleRadio 1 silentRadio (fun _ _ => 0) 7).2.2.1.mpr ?_
    exact ⟨_, rfl, _, _, rfl, 0, by decide, rfl⟩

/-- With a radio that reads 0 in every register, none of the calls returns. -/
theorem not_radio_configuration_returns :
    (¬∃ rounds, Returns (cc1120Manualcalibration ({} : Os Unit) rounds 3) silentRadio) ∧
    (¬∃ rounds, Returns (ttaConnect ({} : Os Unit) rounds) silentRadio) ∧
    (¬∃ rounds, Returns (ttaRfSetCh ({} : Os Unit) rounds (fun _ _ => 0) 0) silentRadio) ∧
    ¬∃ rounds, Returns (ttaRfSetPower ({} : Os Unit) rounds (fun _ _ => 0) 0) silentRadio := by
  have hnot {rounds : ℕ} {fd : Int} {w : World Unit} : ¬ShowsIdle ({} : Os Unit) fd rounds w := by
    rintro ⟨r, w', -, i, -, hidle⟩
    have hzero : (0 : UInt8) = Cc1120.idle := hidle
    exact absurd hzero (by decide)
  have hnotAfter {x : Machine Unit Unit} {rounds : ℕ} {fd : Int} {w : World Unit} :
      ¬ShowsIdleAfter ({} : Os Unit) fd x rounds w := by
    rintro ⟨w', -, h⟩
    exact hnot h
  refine ⟨?_, ?_, ?_, ?_⟩
  · rintro ⟨rounds, h⟩
    exact hnot ((returns_cc1120Manualcalibration_iff _ _ _ _).mp h)
  · rintro ⟨rounds, h⟩
    exact hnotAfter ((returns_ttaConnect_rf_iff {} rounds rfl).mp h 3 () rfl)
  · rintro ⟨rounds, h⟩
    exact hnotAfter ((returns_writeAndCalibrate_iff {} rounds _ _ _).mp
      ((returns_bind_of_ok (run_getCtx _)).mp h))
  · rintro ⟨rounds, h⟩
    exact hnotAfter ((returns_writeAndCalibrate_iff {} rounds _ _ _).mp
      ((returns_bind_of_ok (run_getCtx _)).mp h))

end Libtta
