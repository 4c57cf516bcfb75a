import Libtta.Radio.Calibration

/-!
# What the calibration programs

`calOs` is an operating system with a radio whose registers can be read and written, and which
calibrates itself when it is told to: from then on its state is arbitrary, and so are the three
result registers, until the state shows that the radio is idle; by then the registers hold the
result of the calibration. The first polling loop of `cc1120_manualcalibration` may end before this
is so, and what it leaves behind is taken for a result all the same (`programs_better_iff`).
-/

namespace Libtta

/-! ## The chip -/

/-- What a chip does that calibrates itself. -/
structure CalEnv where
  /-- The state that the read with the second number shows, after the strobe with the first one. -/
  marcstate : ℕ → ℕ → UInt8
  /-- The result of a calibration. -/
  result : ℕ → CalResults
  /-- The contents of the result registers at a read, before the calibration has finished. -/
  between : ℕ → ℕ → CalResults

/-- A chip with registers that calibrates itself. -/
structure CalChip where
  regs : UInt16 → UInt8
  /-- The number of calibrations that have been started. -/
  calibrations : ℕ
  /-- Has the state been seen to be idle since the last calibration was started? -/
  done : Bool
  /-- The number of reads since then. -/
  reads : ℕ

/-- The result registers of a register file. -/
def calResults (regs : UInt16 → UInt8) : CalResults :=
  ⟨regs Cc1120.FS_VCO2, regs Cc1120.FS_VCO4, regs Cc1120.FS_CHP⟩

/-- A register file with other contents of the result registers. -/
def CalResults.store (r : CalResults) (regs : UInt16 → UInt8) : UInt16 → UInt8 :=
  Function.update (Function.update (Function.update regs Cc1120.FS_VCO2 r.fsVco2) Cc1120.FS_VCO4
    r.fsVco4) Cc1120.FS_CHP r.fsChp

namespace CalChip

/-- A read of a register. -/
def read (env : CalEnv) (addr : UInt16) (c : CalChip) : UInt8 × CalChip :=
  if addr = Cc1120.MARCSTATE then
    if c.done = false ∧ env.marcstate c.calibrations c.reads = Cc1120.idle then
      (env.marcstate c.calibrations c.reads,
        ⟨(env.result c.calibrations).store c.regs, c.calibrations, true, c.reads + 1⟩)
    else
      (env.marcstate c.calibrations c.reads, { c with reads := c.reads + 1 })
  else if c.done then
    (c.regs addr, { c with reads := c.reads + 1 })
  else
    ((env.between c.calibrations c.reads).store c.regs addr, { c with reads := c.reads + 1 })

/-- A strobe, of which only the start of a calibration matters. -/
def strobe (cmd : UInt8) (c : CalChip) : CalChip :=
  if cmd = Cc1120.SCAL then ⟨c.regs, c.calibrations + 1, false, 0⟩ else c

end CalChip

/-- The operating system with the chip. -/
def calOs (env : CalEnv) : Os CalChip where
  strobe _ cmd d := (.ok (), d.strobe cmd)
  readReg _ addr d := (((d.read env addr).1, .ok ()), (d.read env addr).2)
  writeReg _ addr val d := (.ok (), { d with regs := Function.update d.regs addr val })

/-! ## Register contents -/

section Contents

variable (r : CalResults) (regs : UInt16 → UInt8)

@[simp] theorem store_fsVco2 : r.store regs Cc1120.FS_VCO2 = r.fsVco2 := by
  have h₁ : (Cc1120.FS_VCO2 : UInt16) ≠ Cc1120.FS_VCO4 := by decide
  have h₂ : (Cc1120.FS_VCO2 : UInt16) ≠ Cc1120.FS_CHP := by decide
  simp [CalResults.store, h₁, h₂]

@[simp] theorem store_fsVco4 : r.store regs Cc1120.FS_VCO4 = r.fsVco4 := by
  have h : (Cc1120.FS_VCO4 : UInt16) ≠ Cc1120.FS_CHP := by decide
  simp [CalResults.store, h]

@[simp] theorem store_fsChp : r.store regs Cc1120.FS_CHP = r.fsChp := by
  simp [CalResults.store]

/-- Other registers keep their contents. -/
@[simp] theorem store_fsCal2 : r.store regs Cc1120.FS_CAL2 = regs Cc1120.FS_CAL2 := by
  have h₁ : (Cc1120.FS_CAL2 : UInt16) ≠ Cc1120.FS_VCO2 := by decide
  have h₂ : (Cc1120.FS_CAL2 : UInt16) ≠ Cc1120.FS_VCO4 := by decide
  have h₃ : (Cc1120.FS_CAL2 : UInt16) ≠ Cc1120.FS_CHP := by decide
  simp [CalResults.store, h₁, h₂, h₃]

@[simp] theorem calResults_store : calResults (r.store regs) = r := by
  simp [calResults]

end Contents

variable {env : CalEnv} {fd : Int}

/-! ## Single calls -/

@[simp] theorem run_strobe_cal (cmd : UInt8) (w : World CalChip) :
    (cc1120Strobe (calOs env) fd cmd).run w = .ok ((), { w with dev := w.dev.strobe cmd }) := rfl

@[simp] theorem run_readSingle_cal (addr : UInt16) (w : World CalChip) :
    (cc1120ReadSingle (calOs env) fd addr).run w =
      .ok ((w.dev.read env addr).1, { w with dev := (w.dev.read env addr).2 }) := rfl

@[simp] theorem run_writeSingle_cal (addr : UInt16) (val : UInt8) (w : World CalChip) :
    (cc1120WriteSingle (calOs env) fd addr val).run w =
      .ok ((), { w with dev := { w.dev with regs := Function.update w.dev.regs addr val } }) := rfl

/-- A read of the state that finds the radio idle finishes the calibration. -/
theorem run_readState_idle {w : World CalChip} (hrunning : w.dev.done = false)
    (hidle : env.marcstate w.dev.calibrations w.dev.reads = Cc1120.idle) :
    (cc1120ReadSingle (calOs env) fd Cc1120.MARCSTATE).run w = .ok (Cc1120.idle, { w with
      dev := ⟨(env.result w.dev.calibrations).store w.dev.regs, w.dev.calibrations, true,
        w.dev.reads + 1⟩ }) := by
  rw [run_readSingle_cal, CalChip.read, if_pos rfl, if_pos ⟨hrunning, hidle⟩, hidle]

/-- Any other read of the state only counts. -/
theorem run_readState_of_ne {w : World CalChip}
    (hidle : env.marcstate w.dev.calibrations w.dev.reads ≠ Cc1120.idle) :
    (cc1120ReadSingle (calOs env) fd Cc1120.MARCSTATE).run w =
      .ok (env.marcstate w.dev.calibrations w.dev.reads,
        { w with dev := { w.dev with reads := w.dev.reads + 1 } }) := by
  rw [run_readSingle_cal, CalChip.read, if_pos rfl, if_neg fun h => hidle h.2]

/-- A read of `FS_CAL2`, which no calibration changes. -/
theorem run_readFsCal2 {w : World CalChip} {v : UInt8} (h : w.dev.regs Cc1120.FS_CAL2 = v) :
    (cc1120ReadSingle (calOs env) fd Cc1120.FS_CAL2).run w =
      .ok (v, { w with dev := { w.dev with reads := w.dev.reads + 1 } }) := by
  obtain rfl := h
  obtain ⟨ctx, errno, rxfifo, pos, regs, k, done, i⟩ := w
  cases done with
  | false =>
    change Except.ok ((env.between k i).store regs Cc1120.FS_CAL2, _) = _
    rw [store_fsCal2]
    rfl
  | true => rfl

/-- What is read from the result registers before the calibration has finished. -/
def CalEnv.torn (env : CalEnv) (k i : ℕ) : CalResults :=
  ⟨(env.between k i).fsVco2, (env.between k (i + 1)).fsVco4, (env.between k (i + 2)).fsChp⟩

/-- Reading the result registers: the result, when the calibration has finished. -/
theorem run_readCalResults_cal (env : CalEnv) (fd : Int) (w : World CalChip) :
    (readCalResults (calOs env) fd).run w =
      .ok (if w.dev.done then calResults w.dev.regs else env.torn w.dev.calibrations w.dev.reads,
        { w with dev := { w.dev with reads := w.dev.reads + 3 } }) := by
  obtain ⟨ctx, errno, rxfifo, pos, regs, k, done, i⟩ := w
  cases done with
  | true => rfl
  | false =>
    have hread : (readCalResults (calOs env) fd).run ⟨ctx, errno, rxfifo, pos, regs, k, false, i⟩ =
        .ok (⟨(env.between k i).store regs Cc1120.FS_VCO2,
          (env.between k (i + 1)).store regs Cc1120.FS_VCO4,
          (env.between k (i + 2)).store regs Cc1120.FS_CHP⟩,
          ⟨ctx, errno, rxfifo, pos, regs, k, false, i + 3⟩) := rfl
    rw [hread, store_fsVco2, store_fsVco4, store_fsChp]
    rfl

/-! ## The polling loops -/

/-- The first loop: the calibration has finished when one of its reads has found the radio idle, and
is under way otherwise. The induction is on the reads that are left. -/
theorem run_pollIdleBounded_cal (env : CalEnv) (fd : Int) (left : ℕ) (w : World CalChip)
    (hrunning : w.dev.done = false) :
    ∃ c : CalChip, (pollIdleBounded (calOs env) fd left).run w = .ok ((), { w with dev := c }) ∧
      c.calibrations = w.dev.calibrations ∧
      ((∃ i ≤ left, env.marcstate w.dev.calibrations (w.dev.reads + i) = Cc1120.idle) →
        c.done = true ∧ c.regs = (env.result w.dev.calibrations).store w.dev.regs) ∧
      ((¬∃ i ≤ left, env.marcstate w.dev.calibrations (w.dev.reads + i) = Cc1120.idle) →
        c.done = false ∧ c.regs = w.dev.regs ∧ c.reads = w.dev.reads + left + 1) := by
  induction left generalizing w with
  | zero =>
    by_cases hidle : env.marcstate w.dev.calibrations w.dev.reads = Cc1120.idle
    · refine ⟨⟨(env.result w.dev.calibrations).store w.dev.regs, w.dev.calibrations, true,
        w.dev.reads + 1⟩, (Exec.run_bind_of_ok (run_readState_idle hrunning hidle)).trans rfl, rfl,
        fun _ => ⟨rfl, rfl⟩, fun h => absurd ⟨0, le_refl 0, hidle⟩ h⟩
    · refine ⟨_, (Exec.run_bind_of_ok (run_readState_of_ne hidle)).trans rfl, rfl, ?_,
        fun _ => ⟨hrunning, rfl, rfl⟩⟩
      rintro ⟨i, hi, h⟩
      obtain rfl : i = 0 := Nat.le_zero.mp hi
      exact absurd h hidle
  | succ left ih =>
    by_cases hidle : env.marcstate w.dev.calibrations w.dev.reads = Cc1120.idle
    · refine ⟨⟨(env.result w.dev.calibrations).store w.dev.regs, w.dev.calibrations, true,
        w.dev.reads + 1⟩, ?_, rfl, fun _ => ⟨rfl, rfl⟩,
        fun h => absurd ⟨0, Nat.zero_le _, hidle⟩ h⟩
      rw [pollIdleBounded, Exec.run_bind_of_ok (run_readState_idle hrunning hidle), if_pos rfl]
      rfl
    · obtain ⟨c, hrun, hcal, hseen, hnot⟩ :=
        ih { w with dev := { w.dev with reads := w.dev.reads + 1 } } hrunning
      have hshift :
          (∃ i ≤ left + 1, env.marcstate w.dev.calibrations (w.dev.reads + i) = Cc1120.idle) ↔
          ∃ i ≤ left, env.marcstate w.dev.calibrations (w.dev.reads + 1 + i) = Cc1120.idle := by
        constructor
        · rintro ⟨i, hi, h⟩
          cases i with
          | zero => exact absurd h hidle
          | succ i => exact ⟨i, Nat.le_of_succ_le_succ hi, by rwa [Nat.add_right_comm]⟩
        · rintro ⟨i, hi, h⟩
          exact ⟨i + 1, Nat.succ_le_succ hi, by rwa [Nat.add_right_comm] at h⟩
      refine ⟨c, ?_, hcal, fun h => hseen (hshift.mp h), fun h => ?_⟩
      · rw [pollIdleBounded, Exec.run_bind_of_ok (run_readState_of_ne hidle), if_neg hidle]
        exact hrun
      · obtain ⟨hdone, hregs, hreads⟩ := hnot (mt hshift.mpr h)
        exact ⟨hdone, hregs, by rw [hreads]; dsimp only; omega⟩

/-- When the second loop returns, the calibration has finished. The induction is on the rounds. -/
theorem eq_of_pollIdle_cal {rounds : ℕ} {w w' : World CalChip} (hrunning : w.dev.done = false)
    (h : (pollIdle (calOs env) fd rounds).run w = .ok ((), w')) :
    ∃ i, w' = { w with dev :=
      ⟨(env.result w.dev.calibrations).store w.dev.regs, w.dev.calibrations, true, i⟩ } := by
  induction rounds generalizing w with
  | zero => cases h
  | succ rounds ih =>
    rw [pollIdle] at h
    by_cases hidle : env.marcstate w.dev.calibrations w.dev.reads = Cc1120.idle
    · rw [Exec.run_bind_of_ok (run_readState_idle hrunning hidle), if_pos rfl] at h
      cases h
      exact ⟨_, rfl⟩
    · rw [Exec.run_bind_of_ok (run_readState_of_ne hidle), if_neg hidle] at h
      exact ih (w := { w with dev := { w.dev with reads := w.dev.reads + 1 } }) hrunning h

/-! ## The calibration -/

/-- One of the 51 reads of the first loop finds the radio idle. -/
def CalEnv.FirstSeen (env : CalEnv) (k : ℕ) : Prop := ∃ i ≤ 50, env.marcstate k i = Cc1120.idle

/-- What the calibration with the high start value is taken to have resulted in. -/
def CalEnv.HighRead (env : CalEnv) (k : ℕ) (high : CalResults) : Prop :=
  (env.FirstSeen k → high = env.result k) ∧ (¬env.FirstSeen k → high = env.torn k 51)

/-- The first part of the calibration leaves `FS_CAL2` as it was, and the second calibration under
way. -/
theorem run_calibrateHigh_cal (env : CalEnv) (fd : Int) (w : World CalChip) : ∃ high regs,
    (calibrateHigh (calOs env) fd).run w = .ok ((w.dev.regs Cc1120.FS_CAL2, high),
      { w with dev := ⟨regs, w.dev.calibrations + 2, false, 0⟩ }) ∧
    env.HighRead (w.dev.calibrations + 1) high ∧
      regs Cc1120.FS_CAL2 = w.dev.regs Cc1120.FS_CAL2 := by
  have hne : (Cc1120.FS_CAL2 : UInt16) ≠ Cc1120.FS_VCO2 := by decide
  have hidle : (cc1120Strobe (calOs env) fd Cc1120.SIDLE).run w = .ok ((), w) := by
    rw [run_strobe_cal, CalChip.strobe, if_neg (by decide)]
  have hcal2 : Function.update w.dev.regs Cc1120.FS_VCO2 0 Cc1120.FS_CAL2 =
      w.dev.regs Cc1120.FS_CAL2 := Function.update_of_ne hne _ _
  set orig := w.dev.regs Cc1120.FS_CAL2
  set regs :=
    Function.update (Function.update w.dev.regs Cc1120.FS_VCO2 0) Cc1120.FS_CAL2 (orig + 2)
  obtain ⟨c, hpoll, hcal, hseen, hnot⟩ := run_pollIdleBounded_cal env fd 50
    { w with dev := ⟨regs, w.dev.calibrations + 1, false, 0⟩ } rfl
  simp only [Nat.zero_add] at hseen hnot
  refine ⟨if c.done then calResults c.regs else env.torn c.calibrations c.reads,
    Function.update (Function.update c.regs Cc1120.FS_VCO2 0) Cc1120.FS_CAL2 orig, ?_, ⟨?_, ?_⟩,
    Function.update_self _ _ _⟩
  · unfold calibrateHigh
    rw [Exec.run_bind_of_ok hidle, Exec.run_bind_of_ok (run_writeSingle_cal _ _ w)]
    refine (Exec.run_bind_of_ok (run_readFsCal2 (w := { w with dev :=
      { w.dev with regs := Function.update w.dev.regs Cc1120.FS_VCO2 0 } }) hcal2)).trans ?_
    rw [Exec.run_bind_of_ok (run_writeSingle_cal _ _ _), Exec.run_bind_of_ok (run_strobe_cal _ _)]
    refine (Exec.run_bind_of_ok hpoll).trans ?_
    rw [Exec.run_bind_of_ok (run_readCalResults_cal _ _ _),
      Exec.run_bind_of_ok (run_writeSingle_cal _ _ _),
      Exec.run_bind_of_ok (run_writeSingle_cal _ _ _), Exec.run_bind_of_ok (run_strobe_cal _ _)]
    rw [show w.dev.calibrations + 2 = c.calibrations + 1 by rw [hcal]]
    rfl
  · intro h
    obtain ⟨hdone, hregs⟩ := hseen h
    rw [if_pos hdone, hregs, calResults_store]
  · intro h
    obtain ⟨hrunning, -, hreads⟩ := hnot h
    rw [if_neg (by rw [hrunning]; decide), hcal, hreads]

/-- The last part of the calibration programs the result with the greater `FS_VCO2`. -/
theorem run_programBetter_cal (high : CalResults) {w : World CalChip} (hdone : w.dev.done = true) :
    (programBetter (calOs env) fd high).run w = .ok ((), { w with dev := { w.dev with
      regs := (if high.fsVco2 > (calResults w.dev.regs).fsVco2 then high
        else calResults w.dev.regs).store w.dev.regs
      reads := w.dev.reads + 3 } }) := by
  have hmid := run_readCalResults_cal env fd w
  rw [if_pos hdone] at hmid
  rw [programBetter, Exec.run_bind_of_ok hmid]
  by_cases hgt : high.fsVco2 > (calResults w.dev.regs).fsVco2
  · rw [if_pos hgt, if_pos hgt]
    rfl
  · rw [if_neg hgt, if_neg hgt]
    rfl

/-- What a calibration that returns has programmed. -/
theorem calResults_of_calibration {rounds : ℕ} {w w' : World CalChip}
    (h : (cc1120Manualcalibration (calOs env) rounds fd).run w = .ok ((), w')) :
    ∃ high, env.HighRead (w.dev.calibrations + 1) high ∧
      w'.dev.regs Cc1120.FS_CAL2 = w.dev.regs Cc1120.FS_CAL2 ∧
      calResults w'.dev.regs =
        if high.fsVco2 > (env.result (w.dev.calibrations + 2)).fsVco2 then high
        else env.result (w.dev.calibrations + 2) := by
  obtain ⟨high, regs, hfirst, hhigh, hcal2⟩ := run_calibrateHigh_cal env fd w
  rw [cc1120Manualcalibration_eq, Exec.run_bind_of_ok hfirst] at h
  obtain ⟨⟨⟩, w₂, hpoll, h⟩ := Exec.run_bind_eq_ok.mp h
  obtain ⟨i, rfl⟩ := eq_of_pollIdle_cal rfl hpoll
  rw [run_programBetter_cal high rfl] at h
  cases h
  refine ⟨high, hhigh, ?_, ?_⟩
  · dsimp only
    rw [store_fsCal2, store_fsCal2, hcal2]
  · dsimp only
    rw [calResults_store, calResults_store]

/-- The calibration returns when the second loop finds the radio idle. -/
theorem returns_calibration_cal (fd : Int) {w : World CalChip}
    (hidle : env.marcstate (w.dev.calibrations + 2) 0 = Cc1120.idle) :
    Returns (cc1120Manualcalibration (calOs env) 1 fd) w := by
  obtain ⟨high, regs, hfirst, -, -⟩ := run_calibrateHigh_cal env fd w
  refine (returns_cc1120Manualcalibration_iff _ _ _ _).mpr ⟨_, _, hfirst, 0, Nat.one_pos, ?_⟩
  change (CalChip.read env Cc1120.MARCSTATE ⟨regs, w.dev.calibrations + 2, false, 0⟩).1 = _
  rw [CalChip.read, if_pos rfl, if_pos ⟨rfl, hidle⟩, hidle]

/-! ## The better one of two finished calibrations -/

/-- `FS_CAL2` is as it was, and the result registers hold the result with the high start value, if
the calibration has been seen to finish and its `FS_VCO2` is the greater one, and otherwise the
result with the original start value. -/
structure ProgramsBetter (env : CalEnv) (w w' : World CalChip) : Prop where
  fsCal2 : w'.dev.regs Cc1120.FS_CAL2 = w.dev.regs Cc1120.FS_CAL2
  high : env.FirstSeen (w.dev.calibrations + 1) →
    (env.result (w.dev.calibrations + 1)).fsVco2 > (env.result (w.dev.calibrations + 2)).fsVco2 →
    calResults w'.dev.regs = env.result (w.dev.calibrations + 1)
  mid : ¬(env.FirstSeen (w.dev.calibrations + 1) ∧
      (env.result (w.dev.calibrations + 1)).fsVco2 > (env.result (w.dev.calibrations + 2)).fsVco2) →
    calResults w'.dev.regs = env.result (w.dev.calibrations + 2)

/-- A calibration that returns has programmed the better one of two finished calibrations exactly
when the first one has been seen to finish, or what was read instead of its result is not
preferred. -/
theorem programs_better_iff {rounds : ℕ} {w w' : World CalChip}
    (h : (cc1120Manualcalibration (calOs env) rounds fd).run w = .ok ((), w')) :
    ProgramsBetter env w w' ↔ env.FirstSeen (w.dev.calibrations + 1) ∨
      ¬(env.between (w.dev.calibrations + 1) 51).fsVco2 >
        (env.result (w.dev.calibrations + 2)).fsVco2 := by
  obtain ⟨high, ⟨hseen, hnot⟩, hcal2, hresults⟩ := calResults_of_calibration h
  by_cases hfirst : env.FirstSeen (w.dev.calibrations + 1)
  · obtain rfl := hseen hfirst
    refine iff_of_true ⟨hcal2, fun _ hgt => ?_, fun hmid => ?_⟩ (.inl hfirst)
    · rw [hresults, if_pos hgt]
    · rw [hresults, if_neg fun hgt => hmid ⟨hfirst, hgt⟩]
  · obtain rfl := hnot hfirst
    by_cases hgt : (env.torn (w.dev.calibrations + 1) 51).fsVco2 >
        (env.result (w.dev.calibrations + 2)).fsVco2
    · refine iff_of_false (fun hbetter => ?_) (not_or.mpr ⟨hfirst, not_not.mpr hgt⟩)
      -- the triple that is programmed has a greater `FS_VCO2` than the only finished calibration
      have hmid := hbetter.mid fun hboth => hfirst hboth.1
      rw [hresults, if_pos hgt] at hmid
      have hlt := lt_of_lt_of_eq hgt (congrArg CalResults.fsVco2 hmid)
      exact UInt8.lt_irrefl _ hlt
    · refine iff_of_true ⟨hcal2, fun hseen => absurd hseen hfirst, fun _ => ?_⟩ (.inr hgt)
      rw [hresults, if_neg hgt]

/-- A chip in the middle of nothing. -/
def calStart : World CalChip :=
  ⟨ttaNewRf "/dev/spidev1.0" 1 2 3 4, .other 0, List.Vector.replicate 128 0, 0,
    ⟨fun _ => 0, 0, true, 0⟩⟩

/-- A chip whose calibrations finish at once. -/
def promptEnv : CalEnv := ⟨fun _ _ => Cc1120.idle, fun k => ⟨if k = 1 then 9 else 5, 1, 1⟩,
  fun _ _ => ⟨0, 0, 0⟩⟩

/-- A chip whose first calibration takes longer than 51 reads of the state. -/
def slowEnv : CalEnv := ⟨fun k _ => if k = 1 then 0 else Cc1120.idle, fun _ => ⟨5, 1, 1⟩,
  fun _ _ => ⟨200, 0, 0⟩⟩

/-- The better result is programmed when the calibrations finish at once. -/
theorem programs_better_prompt : ∃ w',
    (cc1120Manualcalibration (calOs promptEnv) 1 3).run calStart = .ok ((), w') ∧
      ProgramsBetter promptEnv calStart w' := by
  obtain ⟨⟨⟨⟩, w'⟩, h⟩ :=
    returns_calibration_cal 3 (w := calStart) (rfl : promptEnv.marcstate 2 0 = _)
  exact ⟨w', h, (programs_better_iff h).mpr (.inl ⟨0, Nat.zero_le _, rfl⟩)⟩

/-- The contents of the registers during an unfinished calibration are programmed. -/
theorem not_programs_better : ∃ w',
    (cc1120Manualcalibration (calOs slowEnv) 1 3).run calStart = .ok ((), w') ∧
      calResults w'.dev.regs = ⟨200, 0, 0⟩ ∧ ¬ProgramsBetter slowEnv calStart w' := by
  obtain ⟨⟨⟨⟩, w'⟩, h⟩ :=
    returns_calibration_cal 3 (w := calStart) (rfl : slowEnv.marcstate 2 0 = _)
  obtain ⟨high, ⟨-, hnot⟩, -, hresults⟩ := calResults_of_calibration h
  have hfirst : ¬slowEnv.FirstSeen 1 := by
    rintro ⟨i, -, hidle⟩
    have hzero : (0 : UInt8) = Cc1120.idle := hidle
    exact absurd hzero (by decide)
  obtain rfl := hnot hfirst
  have htorn : calResults w'.dev.regs = ⟨200, 0, 0⟩ := hresults
  refine ⟨w', h, htorn, fun hbetter => ?_⟩
  have hmid := hbetter.mid fun hboth => hfirst hboth.1
  rw [htorn] at hmid
  exact absurd hmid (by decide)

end Libtta
