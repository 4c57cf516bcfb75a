import Libtta.Radio.Poll

/-!
# The timeout of a radio receive

`_tta_rf_receive` adds the fields of the response timeout to those of the clock, and compares the
sum with later readings of the clock, seconds first. A sum with a million microseconds or more is
not a time: it is passed as soon as the next second begins. A sum of the seconds that is out of
range wraps around, and is passed at once. `HonoursTimeout` is what the timeout is for, and
`honoursTimeout_iff` tells for which instants and timeouts the code does this.
-/

namespace Libtta

variable {σ : Type}

/-! ## Time values -/

/-- A time value as a number of microseconds. -/
def Timeval.micros (tv : Timeval) : Int := tv.sec.toInt * 1000000 + tv.usec.toInt

/-- The microseconds of a time value are less than a second. -/
def Timeval.Normal (tv : Timeval) : Prop := 0 ≤ tv.usec.toInt ∧ tv.usec.toInt < 1000000

instance (tv : Timeval) : Decidable tv.Normal :=
  inferInstanceAs (Decidable (0 ≤ tv.usec.toInt ∧ tv.usec.toInt < 1000000))

/-- The fields of time values are compared as integers. -/
theorem past_iff {deadline now : Timeval} : deadline.past now = true ↔
    deadline.sec.toInt < now.sec.toInt ∨
      now.sec.toInt = deadline.sec.toInt ∧ deadline.usec.toInt < now.usec.toInt := by
  rw [Timeval.past, Bool.or_eq_true, Bool.and_eq_true, decide_eq_true_eq, beq_iff_eq,
    decide_eq_true_eq, Int64.lt_iff_toInt_lt, Int64.lt_iff_toInt_lt, Int64.toInt_inj]

/-- The seconds of a sum, which wraps around when it is out of range. -/
theorem toInt_add_cases (a b : Int64) :
    (a + b).toInt = a.toInt + b.toInt ∧ -2 ^ 63 ≤ a.toInt + b.toInt ∧ a.toInt + b.toInt < 2 ^ 63 ∨
    (a + b).toInt = a.toInt + b.toInt - 2 ^ 64 ∧ 2 ^ 63 ≤ a.toInt + b.toInt ∨
    (a + b).toInt = a.toInt + b.toInt + 2 ^ 64 ∧ a.toInt + b.toInt < -2 ^ 63 := by
  have ha := a.toInt_lt
  have ha' := a.le_toInt
  have hb := b.toInt_lt
  have hb' := b.le_toInt
  rw [Int64.toInt_add, Int.bmod_def]
  split <;> omega

/-- The microseconds of two times add up without wrapping around. -/
theorem toInt_usec_add {tv tv' : Timeval} (h : tv.Normal) (h' : tv'.Normal) :
    (tv.usec + tv'.usec).toInt = tv.usec.toInt + tv'.usec.toInt := by
  have hbounds := h
  have hbounds' := h'
  unfold Timeval.Normal at hbounds hbounds'
  rcases toInt_add_cases tv.usec tv'.usec with ⟨heq, -⟩ | ⟨-, hout⟩ | ⟨-, hout⟩
  · exact heq
  · omega
  · omega

/-! ## The timeout exit -/

/-- The clock in the wait for a radio packet: its reading in the poll with the given number. -/
def Os.rxClock (os : Os σ) (fd : Int) (i : ℕ) (d : σ) : Timeval :=
  (os.gettimeofday (os.afterPoll fd ((os.afterRound fd)^[i] d))).1

/-- The reading of the clock at which the wait for a radio packet takes its timeout exit, if it
does. -/
def Os.rxTimeout (os : Os σ) (fd : Int) (deadline : Timeval) : ℕ → σ → Option Timeval
  | 0, _ => none
  | fuel + 1, d =>
    if 0 < os.numRx fd d ∧ os.marcState fd d = Cc1120.idle then
      none
    else if deadline.past (os.gettimeofday (os.afterPoll fd d)).1 then
      some (os.gettimeofday (os.afterPoll fd d)).1
    else
      os.rxTimeout fd deadline fuel (os.afterRound fd d)

/-- The timeout exit is taken at a reading of the clock that is past the deadline. -/
theorem exists_rxClock_of_rxTimeout {os : Os σ} {fd : Int} {deadline t : Timeval} {fuel : ℕ} {d : σ}
    (h : os.rxTimeout fd deadline fuel d = some t) :
    deadline.past t = true ∧ ∃ i, os.rxClock fd i d = t := by
  induction fuel generalizing d with
  | zero => cases h
  | succ fuel ih =>
    unfold Os.rxTimeout at h
    by_cases hready : 0 < os.numRx fd d ∧ os.marcState fd d = Cc1120.idle
    · rw [if_pos hready] at h
      cases h
    · rw [if_neg hready] at h
      by_cases hpast : deadline.past (os.gettimeofday (os.afterPoll fd d)).1 = true
      · rw [if_pos hpast] at h
        cases h
        exact ⟨hpast, 0, rfl⟩
      · rw [if_neg hpast] at h
        obtain ⟨hpast', i, hi⟩ := ih h
        exact ⟨hpast', i + 1, hi⟩

/-- The wait ends without a packet exactly when it takes the timeout exit. -/
theorem rxPoll_eq_none_iff {os : Os σ} {fd : Int} {deadline : Timeval} {fuel : ℕ} {d : σ} :
    os.rxPoll fd deadline fuel d = .ok none ↔ ∃ t, os.rxTimeout fd deadline fuel d = some t := by
  induction fuel generalizing d with
  | zero => exact iff_of_false (by rintro ⟨⟩) (by rintro ⟨t, ⟨⟩⟩)
  | succ fuel ih =>
    unfold Os.rxPoll Os.rxTimeout
    by_cases hready : 0 < os.numRx fd d ∧ os.marcState fd d = Cc1120.idle
    · rw [if_pos hready, if_pos hready]
      exact iff_of_false (by rintro ⟨⟩) (by rintro ⟨t, ⟨⟩⟩)
    · rw [if_neg hready, if_neg hready]
      by_cases hpast : deadline.past (os.gettimeofday (os.afterPoll fd d)).1 = true
      · rw [if_pos hpast, if_pos hpast]
        exact iff_of_true rfl ⟨_, rfl⟩
      · rw [if_neg hpast, if_neg hpast]
        exact ih

/-- A call of the receive function takes its timeout exit at the reading `t` of the clock. -/
def TimesOut (os : Os σ) (fuel : ℕ) (fgtimeout : Bool) (w : World σ) (t : Timeval) : Prop :=
  os.rxTimeout w.ctx.s (os.rxDeadline w.ctx.responseTimeout w.dev) fuel (os.rxStart w.ctx.s w.dev) =
      some t ∧
    ∀ pkt, ∃ w', (ttaRfReceive os fuel pkt fgtimeout).run w = .ok ((none, pkt), w')

/-- When the wait takes its timeout exit, so does the receive function, whatever `fgtimeout` is. -/
theorem timesOut_iff {os : Os σ} {fuel : ℕ} {fgtimeout : Bool} {w : World σ} {t : Timeval} :
    TimesOut os fuel fgtimeout w t ↔
      os.rxTimeout w.ctx.s (os.rxDeadline w.ctx.responseTimeout w.dev) fuel
        (os.rxStart w.ctx.s w.dev) = some t := by
  refine ⟨fun h => h.1, fun h => ⟨h, fun pkt => ?_⟩⟩
  obtain ⟨e₁, hstart⟩ := exists_run_ttaRfReceive os fuel pkt fgtimeout w
  obtain ⟨e₂, d, hwait⟩ := run_waitRxPacket_eq os w.ctx.s
    (os.rxDeadline w.ctx.responseTimeout w.dev) ((List.range 128).map (os.garbage w.dev).1) fuel
    { w with dev := os.rxStart w.ctx.s w.dev, errno := e₁ }
  simp only [rxPoll_eq_none_iff.mpr ⟨t, h⟩] at hwait
  obtain ⟨e₃, h₃⟩ :=
    exists_run_cc1120Strobe os w.ctx.s Cc1120.SIDLE { w with dev := d, errno := e₂ }
  obtain ⟨e₄, h₄⟩ := exists_run_cc1120Strobe os w.ctx.s Cc1120.SFRX
    { w with dev := (os.strobe w.ctx.s Cc1120.SIDLE d).2, errno := e₃ }
  have hend : (do
      cc1120Strobe os w.ctx.s Cc1120.SIDLE
      cc1120Strobe os w.ctx.s Cc1120.SFRX
      return (none, pkt) : Machine σ (Option ℕ × Bytes)).run { w with dev := d, errno := e₂ } =
        .ok ((none, pkt), { w with
          dev := (os.strobe w.ctx.s Cc1120.SFRX (os.strobe w.ctx.s Cc1120.SIDLE d).2).2
          errno := e₄ }) :=
    (Exec.run_bind_of_ok h₃).trans ((Exec.run_bind_of_ok h₄).trans rfl)
  rw [hstart]
  exact ⟨_, (Exec.run_bind_of_ok hwait).trans hend⟩

/-! ## Which timeouts are honoured -/

/-- The clock shows `start` when the receive function begins, and its readings in the wait are time
values that do not decrease. -/
structure ClockFrom (os : Os σ) (w : World σ) (start : Timeval) : Prop where
  first : (os.gettimeofday (os.garbage w.dev).2).1 = start
  normal : ∀ i, (os.rxClock w.ctx.s i (os.rxStart w.ctx.s w.dev)).Normal
  start_le : start.micros ≤ (os.rxClock w.ctx.s 0 (os.rxStart w.ctx.s w.dev)).micros
  mono : ∀ i, (os.rxClock w.ctx.s i (os.rxStart w.ctx.s w.dev)).micros ≤
    (os.rxClock w.ctx.s (i + 1) (os.rxStart w.ctx.s w.dev)).micros

/-- No reading in the wait is earlier than `start`. -/
theorem ClockFrom.start_le_rxClock {os : Os σ} {w : World σ} {start : Timeval}
    (h : ClockFrom os w start) (i : ℕ) :
    start.micros ≤ (os.rxClock w.ctx.s i (os.rxStart w.ctx.s w.dev)).micros := by
  induction i with
  | zero => exact h.start_le
  | succ i ih => exact ih.trans (h.mono i)

/-- A call that begins at `start`, with the timeout `tv` and the flag `fgtimeout`, takes its timeout
exit only if the flag is set and more time than `tv` has passed. -/
def HonoursTimeout (start tv : Timeval) (fgtimeout : Bool) : Prop :=
  ∀ (σ : Type) (os : Os σ) (fuel : ℕ) (w : World σ) (t : Timeval), w.ctx.responseTimeout = tv →
    ClockFrom os w start → TimesOut os fuel fgtimeout w t →
      fgtimeout = true ∧ start.micros + tv.micros < t.micros

/-- A clock that shows one time first, and another one from then on. -/
def clockOs (start t : Timeval) : Os ℕ where
  gettimeofday n := (if n = 0 then start else t, n + 1)

/-- An RF context with the given timeout. -/
def rfWaits (tv : Timeval) : World ℕ :=
  ⟨{ ttaNewRf "/dev/spidev1.0" 1 2 3 4 with responseTimeout := tv }, .other 0,
    List.Vector.replicate 128 0, 0, 0⟩

/-- In the wait the clock shows the later time. -/
theorem rxClock_clockOs (start t : Timeval) (fd : Int) (i n : ℕ) :
    (clockOs start t).rxClock fd i (n + 1) = t := by
  induction i generalizing n with
  | zero => rfl
  | succ i ih => exact ih (n + 1)

/-- Such a clock does not decrease if the other time is not earlier. -/
theorem clockFrom_clockOs {start t tv : Timeval} (hnormal : t.Normal)
    (hle : start.micros ≤ t.micros) : ClockFrom (clockOs start t) (rfWaits tv) start where
  first := rfl
  normal i := (rxClock_clockOs start t _ i 0).symm ▸ hnormal
  start_le := hle
  mono i := le_of_eq (congrArg Timeval.micros ((rxClock_clockOs start t _ i 0).trans
    (rxClock_clockOs start t _ (i + 1) 0).symm))

section Honoured

variable {start tv t : Timeval} {fgtimeout : Bool}

/-- If the timeout is honoured, the exit at a time that is not earlier than the start is taken with
the flag, and after the timeout. -/
theorem HonoursTimeout.of_past (h : HonoursTimeout start tv fgtimeout) (hnormal : t.Normal)
    (hle : start.micros ≤ t.micros)
    (hpast : Timeval.past ⟨start.sec + tv.sec, start.usec + tv.usec⟩ t = true) :
    fgtimeout = true ∧ start.micros + tv.micros < t.micros :=
  h ℕ (clockOs start t) 1 (rfWaits tv) t rfl (clockFrom_clockOs hnormal hle)
    (timesOut_iff.mpr (if_pos hpast))

/-- It is enough to look at the times at which the exit may be taken. -/
theorem honoursTimeout_of_past
    (h : ∀ t : Timeval, t.Normal → start.micros ≤ t.micros →
      Timeval.past ⟨start.sec + tv.sec, start.usec + tv.usec⟩ t = true →
      fgtimeout = true ∧ start.micros + tv.micros < t.micros) :
    HonoursTimeout start tv fgtimeout := by
  rintro σ os fuel w t rfl hclock hexit
  obtain ⟨hpast, i, rfl⟩ := exists_rxClock_of_rxTimeout hexit.1
  rw [Os.rxDeadline, hclock.first] at hpast
  exact h _ (hclock.normal i) (hclock.start_le_rxClock i) hpast

/-- A time that no reading of the clock is past: the last microsecond of the last second, or a sum
behind it. -/
def Timeval.Last (tv : Timeval) : Prop :=
  tv.sec = Int64.maxValue ∧ 999999 ≤ tv.usec.toInt

/-- No reading of the clock is past such a time. -/
theorem Timeval.Last.not_past (h : tv.Last) (hnormal : t.Normal) : ¬tv.past t = true := by
  obtain ⟨hsec, husec⟩ := h
  have hmax : tv.sec.toInt = 2 ^ 63 - 1 := by rw [hsec]; decide
  have hlt := t.sec.toInt_lt
  unfold Timeval.Normal at hnormal
  rw [past_iff]
  omega

/-- A reading that is past every other time. -/
theorem Timeval.past_of_not_last (h : ¬tv.Last) :
    tv.past ⟨Int64.maxValue, 999999⟩ = true := by
  have hmax : Int64.maxValue.toInt = 2 ^ 63 - 1 := by decide
  have husec : (999999 : Int64).toInt = 999999 := by decide
  have hlt := tv.sec.toInt_lt
  rw [past_iff, hmax, husec]
  by_cases hsec : tv.sec = Int64.maxValue
  · right
    rw [hsec]
    exact ⟨hmax.symm, not_le.mp fun hle => h ⟨hsec, hle⟩⟩
  · left
    have hne : tv.sec.toInt ≠ Int64.maxValue.toInt := fun heq => hsec (Int64.toInt_inj.mp heq)
    omega

/-- No time is later than the last microsecond of the last second. -/
theorem micros_le_max (hnormal : tv.Normal) :
    tv.micros ≤ Timeval.micros ⟨Int64.maxValue, 999999⟩ := by
  have hmax : Timeval.micros ⟨Int64.maxValue, 999999⟩ = (2 ^ 63 - 1) * 1000000 + 999999 := by decide
  have hlt := tv.sec.toInt_lt
  unfold Timeval.Normal at hnormal
  rw [hmax, Timeval.micros]
  omega

/-- If the sum of the seconds is out of range, it is passed at once. -/
theorem past_of_overflow (h : 2 ^ 63 ≤ start.sec.toInt + tv.sec.toInt) :
    Timeval.past ⟨start.sec + tv.sec, start.usec + tv.usec⟩ start = true := by
  have hlt := tv.sec.toInt_lt
  rw [past_iff]
  left
  change (start.sec + tv.sec).toInt < start.sec.toInt
  rcases toInt_add_cases start.sec tv.sec with ⟨-, h₁, h₂⟩ | ⟨heq, -⟩ | ⟨-, h₁⟩
  · omega
  · omega
  · omega

/-- If the sum of the microseconds has a carry, it is passed when the next second begins, not later
than the timeout. -/
theorem exists_past_of_carry (hstart : start.Normal) (hpos : 0 ≤ tv.sec.toInt)
    (hrange : start.sec.toInt + tv.sec.toInt < 2 ^ 63 - 1)
    (hcarry : 1000000 ≤ start.usec.toInt + tv.usec.toInt) :
    ∃ t : Timeval, t.Normal ∧ start.micros ≤ t.micros ∧
      Timeval.past ⟨start.sec + tv.sec, start.usec + tv.usec⟩ t = true ∧
      t.micros ≤ start.micros + tv.micros := by
  have hmin := start.sec.le_toInt
  have hone : (1 : Int64).toInt = 1 := by decide
  have hsum : (start.sec + tv.sec).toInt = start.sec.toInt + tv.sec.toInt := by
    rcases toInt_add_cases start.sec tv.sec with ⟨heq, -⟩ | ⟨-, h₁⟩ | ⟨-, h₁⟩
    · exact heq
    · omega
    · omega
  have hnext : (start.sec + tv.sec + 1).toInt = start.sec.toInt + tv.sec.toInt + 1 := by
    rcases toInt_add_cases (start.sec + tv.sec) 1 with ⟨heq, -⟩ | ⟨-, h₁⟩ | ⟨-, h₁⟩
    · rw [heq, hsum, hone]
    · omega
    · omega
  have hmicros : Timeval.micros ⟨start.sec + tv.sec + 1, 0⟩ =
      (start.sec.toInt + tv.sec.toInt + 1) * 1000000 := by
    rw [Timeval.micros, hnext]
    exact add_zero _
  unfold Timeval.Normal at hstart
  have hzero : 0 ≤ (0 : Int64).toInt ∧ (0 : Int64).toInt < 1000000 := by decide
  refine ⟨⟨start.sec + tv.sec + 1, 0⟩, hzero, ?_, past_iff.mpr (.inl ?_), ?_⟩
  · rw [hmicros, Timeval.micros]
    omega
  · change (start.sec + tv.sec).toInt < (start.sec + tv.sec + 1).toInt
    omega
  · rw [hmicros, Timeval.micros, Timeval.micros]
    omega

/-- If the sums are in range, what is past the sum is later than the timeout. -/
theorem micros_lt_of_past (hstart : start.Normal) (htv : tv.Normal) (hpos : 0 ≤ tv.sec.toInt)
    (hrange : start.sec.toInt + tv.sec.toInt < 2 ^ 63)
    (hcarry : start.usec.toInt + tv.usec.toInt < 1000000) (hnormal : t.Normal)
    (hpast : Timeval.past ⟨start.sec + tv.sec, start.usec + tv.usec⟩ t = true) :
    start.micros + tv.micros < t.micros := by
  have hmin := start.sec.le_toInt
  have husec := toInt_usec_add hstart htv
  have hsum : (start.sec + tv.sec).toInt = start.sec.toInt + tv.sec.toInt := by
    rcases toInt_add_cases start.sec tv.sec with ⟨heq, -⟩ | ⟨-, h₁⟩ | ⟨-, h₁⟩
    · exact heq
    · omega
    · omega
  unfold Timeval.Normal at hnormal
  rw [past_iff] at hpast
  dsimp only at hpast
  rw [hsum, husec] at hpast
  simp only [Timeval.micros]
  omega

/-- The timeout is honoured exactly when no reading of the clock is past the sum of the fields, or
the flag is set and the timeout is negative, or the flag is set, the sum of the seconds is in range
and that of the microseconds has no carry. -/
theorem honoursTimeout_iff (hstart : start.Normal) (htv : tv.Normal) (fgtimeout : Bool) :
    HonoursTimeout start tv fgtimeout ↔
      Timeval.Last ⟨start.sec + tv.sec, start.usec + tv.usec⟩ ∨
      fgtimeout = true ∧ (tv.sec.toInt < 0 ∨
        start.sec.toInt + tv.sec.toInt < 2 ^ 63 ∧ start.usec.toInt + tv.usec.toInt < 1000000) := by
  constructor
  · intro h
    by_contra hnot
    obtain ⟨hlast, hnot⟩ := not_or.mp hnot
    have hflag : fgtimeout = true := (h.of_past (t := ⟨Int64.maxValue, 999999⟩) (by decide)
      (micros_le_max hstart) (Timeval.past_of_not_last hlast)).1
    have hpos : 0 ≤ tv.sec.toInt := not_lt.mp fun hneg => hnot ⟨hflag, .inl hneg⟩
    have hmicros : 0 ≤ tv.micros := by
      have husec := htv.1
      rw [Timeval.micros]
      omega
    by_cases hrange : start.sec.toInt + tv.sec.toInt < 2 ^ 63
    · have hcarry : 1000000 ≤ start.usec.toInt + tv.usec.toInt :=
        not_lt.mp fun hlt => hnot ⟨hflag, .inr ⟨hrange, hlt⟩⟩
      have hne : start.sec.toInt + tv.sec.toInt ≠ 2 ^ 63 - 1 := by
        intro heq
        refine hlast ⟨Int64.toInt_inj.mp ?_, ?_⟩
        · have hmax : Int64.maxValue.toInt = 2 ^ 63 - 1 := by decide
          change (start.sec + tv.sec).toInt = Int64.maxValue.toInt
          rcases toInt_add_cases start.sec tv.sec with ⟨hsum, -⟩ | ⟨-, h₁⟩ | ⟨-, h₁⟩ <;> omega
        · rw [toInt_usec_add hstart htv]
          omega
      obtain ⟨t, hnormal, hle, hpast, hearly⟩ :=
        exists_past_of_carry hstart hpos (by omega) hcarry
      exact absurd (h.of_past hnormal hle hpast).2 (not_lt.mpr hearly)
    · have hlt := (h.of_past hstart le_rfl (past_of_overflow (not_lt.mp hrange))).2
      omega
  · intro h
    refine honoursTimeout_of_past fun t hnormal hle hpast => ?_
    rcases h with hlast | ⟨hflag, hneg | ⟨hrange, hcarry⟩⟩
    · exact absurd hpast (hlast.not_past hnormal)
    · refine ⟨hflag, lt_of_lt_of_le ?_ hle⟩
      have husec := htv.2
      simp only [Timeval.micros]
      omega
    · refine ⟨hflag, ?_⟩
      by_cases hpos : 0 ≤ tv.sec.toInt
      · exact micros_lt_of_past hstart htv hpos hrange hcarry hnormal hpast
      · refine lt_of_lt_of_le ?_ hle
        have husec := htv.2
        simp only [Timeval.micros]
        omega

end Honoured

/-- A timeout of half a second from the beginning of a second is honoured. -/
theorem honoursTimeout_half : HonoursTimeout ⟨100, 0⟩ ⟨0, 500000⟩ true :=
  (honoursTimeout_iff (by decide) (by decide) true).mpr (.inr ⟨rfl, .inr ⟨by decide, by decide⟩⟩)

/-- The same timeout from 0.9 seconds into a second is not, none is without the flag, and the
longest timeout is passed at once. -/
theorem not_honoursTimeout : ¬HonoursTimeout ⟨100, 900000⟩ ⟨0, 500000⟩ true ∧
    ¬HonoursTimeout ⟨100, 0⟩ ⟨0, 500000⟩ false ∧
    ¬HonoursTimeout ⟨100, 0⟩ ⟨Int64.maxValue, 0⟩ true := by
  refine ⟨fun h => ?_, fun h => ?_, fun h => ?_⟩
  · have hlt := (h.of_past (t := ⟨101, 0⟩) (by decide) (by decide) (by decide)).2
    exact absurd hlt (by decide)
  · have hflag := (h.of_past (t := ⟨101, 0⟩) (by decide) (by decide) (by decide)).1
    exact absurd hflag (by decide)
  · have hlt := (h.of_past (t := ⟨100, 0⟩) (by decide) (by decide) (by decide)).2
    exact absurd hlt (by decide)

end Libtta
