import Libtta.Exchange.Session

/-!
# A line with pauses

On a serial line that several stations share, a receiver may hear the ends of packets, packets for
others and noise. What it hears comes in bursts with pauses between them, that are longer than the
byte timeout. A server waits for the first byte of a packet as long as it takes, and for the others
with the byte timeout, so a pause ends every packet that is not complete: what a burst does to the
server depends on that burst only (`serve_bursts`). In particular a burst of whole frames is served
in full, whatever the server has heard before.
-/

namespace Libtta

variable {σ : Type} {os : Os σ} {fuel : ℕ}

/-! ## Waits without a limit -/

/-- The operating system on which a wait without a limit ends after the time `tv`. -/
def Os.impatient (tv : Timeval) (os : Os σ) : Os σ :=
  { os with select := fun fd t d => os.select fd (some (t.getD tv)) d }

/-- The loop of the calibration that has no bound does not wait. -/
theorem pollIdle_impatient (tv : Timeval) (fd : Int) (fuel : ℕ) :
    pollIdle (os.impatient tv) fd fuel = pollIdle os fd fuel := by
  induction fuel with
  | zero => rfl
  | succ fuel ih =>
    unfold pollIdle
    rw [ih]
    rfl

/-- The loop of the calibration that has a bound does not wait. -/
theorem pollIdleBounded_impatient (tv : Timeval) (fd : Int) (left : ℕ) :
    pollIdleBounded (os.impatient tv) fd left = pollIdleBounded os fd left := by
  induction left with
  | zero => rfl
  | succ left ih =>
    unfold pollIdleBounded
    rw [ih]
    rfl

/-- Connecting does not wait for input. -/
theorem ttaConnect_impatient (tv : Timeval) (fuel : ℕ) :
    ttaConnect (os.impatient tv) fuel = ttaConnect os fuel := by
  have hcalibration (fd : Int) : cc1120Manualcalibration (os.impatient tv) fuel fd =
      cc1120Manualcalibration os fuel fd := by
    unfold cc1120Manualcalibration
    rw [pollIdleBounded_impatient, pollIdle_impatient]
    rfl
  unfold ttaConnect ttaRfConnect
  simp only [hcalibration]
  rfl

/-- The loop of a TCP flush does not wait for input. -/
theorem ttaTcpFlushLoop_impatient (tv : Timeval) (fd : Int) (fuel : ℕ) (sum : Int) :
    ttaTcpFlushLoop (os.impatient tv) fd fuel sum = ttaTcpFlushLoop os fd fuel sum := by
  induction fuel generalizing sum with
  | zero => rfl
  | succ fuel ih =>
    unfold ttaTcpFlushLoop
    simp only [ih]
    rfl

/-- Flushing does not wait for input. -/
theorem ttaFlush_impatient (tv : Timeval) (fuel : ℕ) :
    ttaFlush (os.impatient tv) fuel = ttaFlush os fuel := by
  unfold ttaFlush
  simp only [ttaTcpFlushLoop_impatient]
  rfl

/-- A round that has a limit to wait for is the same on both operating systems. -/
theorem receiveStep_impatient (tv : Timeval) {st : ReadState} (h : st.tv ≠ none) :
    receiveStep (os.impatient tv) fuel st = receiveStep os fuel st := by
  obtain ⟨t, ht⟩ := Option.ne_none_iff_exists'.mp h
  have hselect : selectRecovery (os.impatient tv) fuel = selectRecovery os fuel := by
    unfold selectRecovery sleepAndFlush
    rw [ttaFlush_impatient, ttaConnect_impatient]
    rfl
  have hread : readRecovery (os.impatient tv) fuel = readRecovery os fuel := by
    unfold readRecovery
    rw [ttaConnect_impatient]
    rfl
  unfold receiveStep
  rw [ht, hselect, hread]
  rfl

/-- After a round the reader waits with the byte timeout. -/
theorem tv_of_receiveStep {st st' : ReadState} {w w' : World σ}
    (h : (receiveStep os fuel st).run w = .ok (.ok st', w')) :
    st'.tv = some w'.ctx.byteTimeout := by
  obtain ⟨sel, w₁, -, h⟩ := Exec.run_bind_eq_ok.mp h
  cases sel with
  | none =>
    obtain ⟨_, _, -, h⟩ := Exec.run_bind_eq_ok.mp h
    cases h
  | some u =>
    obtain ⟨bs, w₂, -, h⟩ := Exec.run_bind_eq_ok.mp h
    match bs with
    | none =>
      obtain ⟨_, _, -, h⟩ := Exec.run_bind_eq_ok.mp h
      cases h
    | some [] =>
      obtain ⟨_, _, -, h⟩ := Exec.run_bind_eq_ok.mp h
      obtain ⟨_, _, -, h⟩ := Exec.run_bind_eq_ok.mp h
      cases h
    | some (b :: bs) =>
      obtain ⟨_, _, ⟨⟩, h⟩ := Exec.run_bind_eq_ok.mp h
      obtain ⟨pkt, w₃, hstore, h⟩ := Exec.run_bind_eq_ok.mp h
      obtain ⟨-, rfl⟩ := Exec.run_access_eq_ok.mp hstore
      dsimp only at h
      split at h
      · obtain ⟨datalen, w₄, hload, h⟩ := Exec.run_bind_eq_ok.mp h
        obtain ⟨-, rfl⟩ := Exec.run_access_eq_ok.mp hload
        split at h
        · obtain ⟨_, _, -, h⟩ := Exec.run_bind_eq_ok.mp h
          cases h
        · cases h
          rfl
      · cases h
        rfl

/-- Once there is a limit to wait for, the loop is the same on both operating systems. -/
theorem run_receiveLoop_impatient (tv : Timeval) (rounds : ℕ) {st : ReadState} (h : st.tv ≠ none)
    (w : World σ) : (receiveLoop (os.impatient tv) fuel rounds st).run w =
      (receiveLoop os fuel rounds st).run w := by
  induction rounds generalizing st w with
  | zero => rfl
  | succ rounds ih =>
    unfold receiveLoop
    split
    · rfl
    · rw [receiveStep_impatient tv h]
      rcases hstep : (receiveStep os fuel st).run w with e | ⟨pkt | st', w'⟩
      · rw [Exec.run_bind_of_error hstep, Exec.run_bind_of_error hstep]
      · rw [Exec.run_bind_of_ok hstep, Exec.run_bind_of_ok hstep]
      · rw [Exec.run_bind_of_ok hstep, Exec.run_bind_of_ok hstep]
        exact ih (by rw [tv_of_receiveStep hstep]; exact Option.some_ne_none _) w'

variable (fuel) in
/-- The first wait of a server has no limit. When it ends in the same way as one with a limit that
starts in the state `d` of the operating system, the rest of the loop is the same. -/
theorem run_receiveLoop_first (tv : Timeval) (rounds : ℕ) {st : ReadState} {w : World σ} {d : σ}
    (hst : st.tv = none) (hpos : st.lengthToRead ≠ 0) (hrf : w.ctx.type ≠ .rf)
    (hselect : os.select w.ctx.s none w.dev = os.select w.ctx.s (some tv) d) :
    (receiveLoop os fuel rounds st).run w =
      (receiveLoop (os.impatient tv) fuel rounds st).run { w with dev := d } := by
  set limited : ReadState := { st with tv := some tv }
  have hwait : (backendSelect os none).run w =
      (backendSelect os (some tv)).run { w with dev := d } := by
    rw [run_backendSelect_of_ne_rf os none hrf,
      run_backendSelect_of_ne_rf os (some tv) (w := { w with dev := d }) hrf,
      Exec.run_bind_of_ok (run_ask _ w), Exec.run_bind_of_ok (run_ask _ { w with dev := d })]
    dsimp only
    rw [hselect]
  have hstep : (receiveStep os fuel st).run w =
      (receiveStep os fuel limited).run { w with dev := d } := by
    unfold receiveStep
    rw [StateT.run_bind, StateT.run_bind, hst, hwait]
    rfl
  have himpatient : receiveStep (os.impatient tv) fuel st = receiveStep os fuel limited := by
    rw [← receiveStep_impatient tv (show limited.tv ≠ none from Option.some_ne_none tv)]
    unfold receiveStep
    rw [hst]
    rfl
  unfold receiveLoop
  rw [if_neg hpos, if_neg hpos]
  cases rounds with
  | zero => rfl
  | succ rounds =>
    dsimp only
    rw [himpatient]
    rcases hround : (receiveStep os fuel limited).run { w with dev := d } with e | ⟨pkt | st', w'⟩
    · rw [Exec.run_bind_of_error (hstep.trans hround), Exec.run_bind_of_error hround]
    · rw [Exec.run_bind_of_ok (hstep.trans hround), Exec.run_bind_of_ok hround]
    · rw [Exec.run_bind_of_ok (hstep.trans hround), Exec.run_bind_of_ok hround]
      refine (run_receiveLoop_impatient tv rounds ?_ w').symm
      rw [tv_of_receiveStep hround]
      exact Option.some_ne_none _

/-- The integrity check does not wait for input. -/
theorem checkIntegrity_impatient (tv : Timeval) (pkt : Bytes) (pktlen : ℕ) :
    checkIntegrity (os.impatient tv) fuel pkt pktlen = checkIntegrity os fuel pkt pktlen := by
  unfold checkIntegrity checkSums
  rw [ttaFlush_impatient]

variable (fuel) in
/-- A packet that a server waits for is read in the same way. -/
theorem run_ttaReceivePkt_impatient (tv : Timeval) (pkt : Bytes) {w : World σ} {d : σ}
    (hrf : w.ctx.type ≠ .rf)
    (hselect : os.select w.ctx.s none w.dev = os.select w.ctx.s (some tv) d) :
    (ttaReceivePkt os fuel pkt false).run w =
      (ttaReceivePkt (os.impatient tv) fuel pkt false).run { w with dev := d } := by
  have hloop := run_receiveLoop_first fuel tv w.ctx.type.maxAduLength
    (show (⟨pkt, 0, w.ctx.type.headerLength, .hd, none⟩ : ReadState).tv = none from rfl)
    w.ctx.type.framing.hdlen_pos.ne' hrf
    hselect
  unfold ttaReceivePkt
  rw [Exec.run_bind_of_ok (run_getCtx w), Exec.run_bind_of_ok (run_getCtx { w with dev := d })]
  simp only [checkIntegrity_impatient]
  rw [StateT.run_bind, StateT.run_bind]
  exact congrArg (· >>= _) hloop

/-- A message that a server waits for is received in the same way. -/
theorem run_ttaReceive_impatient (tv : Timeval) {w : World σ} {d : σ} {g : ℕ → UInt8}
    (hrf : w.ctx.type ≠ .rf) (hgarbage : os.garbage w.dev = (g, w.dev))
    (hgarbage' : os.garbage d = (g, d))
    (hselect : os.select w.ctx.s none w.dev = os.select w.ctx.s (some tv) d) :
    (ttaReceive os fuel false).run w =
      (ttaReceive (os.impatient tv) fuel false).run { w with dev := d } := by
  set pkt : Bytes := (List.range maxMessageLength).map g
  have huninit : (uninit os maxMessageLength).run w = .ok (pkt, w) := by
    unfold uninit
    rw [Exec.run_bind_of_ok (run_ask _ w), hgarbage]
    rfl
  have huninit' : (uninit (os.impatient tv) maxMessageLength).run { w with dev := d } =
      .ok (pkt, { w with dev := d }) := by
    unfold uninit
    rw [Exec.run_bind_of_ok (run_ask _ _)]
    change StateT.run (pure ((List.range maxMessageLength).map (os.garbage d).1)) _ = _
    dsimp only [Os.impatient]
    rw [hgarbage']
    rfl
  have hpkt := run_ttaReceivePkt_impatient fuel tv pkt hrf hselect
  have hreceive : (backendReceive os fuel pkt false).run w =
      (backendReceive (os.impatient tv) fuel pkt false).run { w with dev := d } := by
    unfold backendReceive receiveUnlessIgnored
    rw [Exec.run_bind_of_ok (run_getCtx w), Exec.run_bind_of_ok (run_getCtx { w with dev := d })]
    cases hbe : w.ctx.backend with
    | tcp _ => exact hpkt
    | rs485 _ =>
      dsimp only
      rw [Exec.run_bind_of_ok (run_getCtx w), Exec.run_bind_of_ok (run_getCtx { w with dev := d })]
      dsimp only
      split
      · rw [StateT.run_bind, StateT.run_bind, hpkt]
      · rw [StateT.run_bind, StateT.run_bind, hpkt]
    | rf _ => exact absurd (congrArg Backend.type hbe) hrf
  unfold ttaReceive
  rw [Exec.run_bind_of_ok huninit, Exec.run_bind_of_ok huninit', StateT.run_bind, StateT.run_bind,
    hreceive]

/-! ## The line -/

/-- What is heard between two pauses. -/
structure Burst where
  bytes : Bytes
  ne_nil : bytes ≠ []

/-- One end of a line on which bursts come in. -/
structure BurstLine where
  /-- What is still to be read of the burst that has begun. -/
  current : Bytes
  /-- The bursts that have not begun yet. -/
  later : List Burst
  /-- What has been written. -/
  output : Bytes
  /-- The read with number `k` returns at most `cuts k + 1` bytes. -/
  cuts : ℕ → ℕ
  /-- The number of reads that have been made. -/
  reads : ℕ
  /-- The content of uninitialised memory. -/
  junk : ℕ → UInt8

/-- When a burst has been read, a wait without a limit ends with the next one. -/
def BurstLine.next (d : BurstLine) : BurstLine :=
  match d.current, d.later with
  | [], b :: bs => { d with current := b.bytes, later := bs }
  | _, _ => d

/-- The operating system at one end of such a line. A wait with a limit times out in a pause;
without a limit it outlasts the pause. -/
def burstOs : Os BurstLine where
  garbage d := (d.junk, d)
  select _ tv d :=
    match tv with
    | none => (.ready, d.next)
    | some _ => (if d.current = [] then .timeout else .ready, d)
  read _ n d :=
    (.ok (d.current.take (min n (d.cuts d.reads + 1))),
      { d with current := d.current.drop (min n (d.cuts d.reads + 1)), reads := d.reads + 1 })
  write _ bs d := (.ok bs.length, { d with output := d.output ++ bs })

/-- Within a burst the line delivers what is heard, and a wait times out when there is nothing
left. -/
theorem feeds_burstOs (tv : Timeval) : Feeds (burstOs.impatient tv) BurstLine.current
    (fun d => (d.later, d.output)) (fun t e => t = [] ∧ e = .ETIMEDOUT) where
  garbage _ := ⟨rfl, rfl⟩
  select fd t d := by
    refine ⟨?_, rfl, rfl⟩
    by_cases hempty : d.current = []
    · exact .inr (.inl ⟨if_pos hempty, hempty, rfl⟩)
    · exact .inl (if_neg hempty)
  read fd n d hn := ⟨rfl, .inl ⟨min n (d.cuts d.reads + 1), min_le_left _ _, fun h => by omega,
    rfl, rfl⟩⟩

/-- What is written is taken. -/
theorem takes_burstOs : Takes burstOs fun bs d => { d with output := d.output ++ bs } where
  garbage _ := rfl
  write _ _ _ := rfl
  rtsSet _ _ := rfl
  rtsClear _ _ := rfl
  txEmpty _ _ := rfl
  modemGet _ _ := ⟨0, rfl⟩
  modemSet _ _ _ := rfl
  usleep _ _ := rfl

/-! ### Timeouts -/

/-- Storing the bytes of a read leaves the context alone, and fails only when too much is
announced. -/
theorem ends_of_receiveBytes {st : ReadState} {bs : Bytes} {r : Except Bytes ReadState}
    {w w' : World σ}
    (h : (receiveBytes st bs).run w = .ok (r, w')) :
    w'.ctx = w.ctx ∧ ∀ pkt, r = .error pkt → w'.errno = .EMBBADDATA := by
  obtain ⟨_, _, ⟨⟩, h⟩ := Exec.run_bind_eq_ok.mp h
  obtain ⟨pkt, w₁, hstore, h⟩ := Exec.run_bind_eq_ok.mp h
  obtain ⟨-, rfl⟩ := Exec.run_access_eq_ok.mp hstore
  dsimp only at h
  split at h
  · obtain ⟨datalen, w₂, hload, h⟩ := Exec.run_bind_eq_ok.mp h
    obtain ⟨-, rfl⟩ := Exec.run_access_eq_ok.mp hload
    split at h
    · obtain ⟨_, _, ⟨⟩, ⟨⟩⟩ := Exec.run_bind_eq_ok.mp h
      exact ⟨rfl, fun _ _ => rfl⟩
    · cases h
      exact ⟨rfl, nofun⟩
  · cases h
    exact ⟨rfl, nofun⟩

/-- A round on the line leaves the context alone without link recovery, and when it times out, the
burst has been read. -/
theorem ends_of_receiveStep {tv : Timeval} {st : ReadState} {r : Except Bytes ReadState}
    {w w' : World BurstLine} (hrf : w.ctx.type ≠ .rf) (hnone : w.ctx.recoversLink = false)
    (h : (receiveStep (burstOs.impatient tv) fuel st).run w = .ok (r, w')) :
    w'.ctx = w.ctx ∧ ∀ pkt, r = .error pkt → w'.errno = .ETIMEDOUT → w'.dev.current = [] := by
  by_cases hempty : w.dev.current = []
  · have hwait : (backendSelect (burstOs.impatient tv) st.tv).run w =
        .ok (none, { w with errno := .ETIMEDOUT }) := by
      rw [run_backendSelect_of_ne_rf _ _ hrf, Exec.run_bind_of_ok (run_ask _ w)]
      change (SelectResult.answer (if w.dev.current = [] then .timeout else .ready)).run _ = _
      rw [if_pos hempty]
      rfl
    unfold receiveStep at h
    rw [Exec.run_bind_of_ok hwait] at h
    obtain ⟨_, _, hrecovery, h⟩ := Exec.run_bind_eq_ok.mp h
    rw [run_selectRecovery _ fuel (w := { w with errno := .ETIMEDOUT }) hnone] at hrecovery
    cases hrecovery
    cases h
    exact ⟨rfl, fun _ _ _ => hempty⟩
  · have hwait : (backendSelect (burstOs.impatient tv) st.tv).run w = .ok (some (), w) := by
      rw [run_backendSelect_of_ne_rf _ _ hrf, Exec.run_bind_of_ok (run_ask _ w)]
      change (SelectResult.answer (if w.dev.current = [] then .timeout else .ready)).run _ = _
      rw [if_neg hempty]
      rfl
    set n := min st.lengthToRead (w.dev.cuts w.dev.reads + 1)
    set d : BurstLine := { w.dev with current := w.dev.current.drop n, reads := w.dev.reads + 1 }
    have hread : (backendRecv (burstOs.impatient tv) st.lengthToRead).run w =
        .ok (some ((w.dev.current.take n).take st.lengthToRead), { w with dev := d }) := by
      rw [run_backendRecv_of_ne_rf _ _ hrf]
      rfl
    unfold receiveStep at h
    rw [Exec.run_bind_of_ok hwait] at h
    dsimp only at h
    rw [Exec.run_bind_of_ok hread] at h
    cases hbs : (w.dev.current.take n).take st.lengthToRead with
    | nil =>
      rw [hbs] at h
      obtain ⟨_, _, ⟨⟩, h⟩ := Exec.run_bind_eq_ok.mp h
      obtain ⟨_, _, hrecovery, h⟩ := Exec.run_bind_eq_ok.mp h
      rw [run_readRecovery _ fuel (w := { w with dev := d, errno := .ECONNRESET })
        hnone] at hrecovery
      cases hrecovery
      cases h
      exact ⟨rfl, nofun⟩
    | cons b bs =>
      rw [hbs] at h
      obtain ⟨hctx, herrno⟩ := ends_of_receiveBytes h
      refine ⟨hctx, fun pkt hpkt htimeout => ?_⟩
      rw [herrno pkt hpkt] at htimeout
      cases htimeout

/-- When the reader times out, the burst has been read. -/
theorem ends_of_receiveLoop {tv : Timeval} {rounds : ℕ} {st : ReadState}
    {r : Except Bytes ReadState}
    {w w' : World BurstLine} (hrf : w.ctx.type ≠ .rf) (hnone : w.ctx.recoversLink = false)
    (h : (receiveLoop (burstOs.impatient tv) fuel rounds st).run w = .ok (r, w')) :
    w'.ctx = w.ctx ∧ ∀ pkt, r = .error pkt → w'.errno = .ETIMEDOUT → w'.dev.current = [] := by
  induction rounds generalizing st w with
  | zero =>
    unfold receiveLoop at h
    split at h
    · cases h
      refine ⟨rfl, ?_⟩
      rintro _ ⟨⟩
    · cases h
  | succ rounds ih =>
    unfold receiveLoop at h
    split at h
    · cases h
      refine ⟨rfl, ?_⟩
      rintro _ ⟨⟩
    · obtain ⟨r₁, w₁, hstep, h⟩ := Exec.run_bind_eq_ok.mp h
      obtain ⟨hctx, hend⟩ := ends_of_receiveStep hrf hnone hstep
      cases r₁ with
      | error pkt =>
        cases h
        exact ⟨hctx, hend⟩
      | ok st' =>
        obtain ⟨hctx', hend'⟩ := ih (hctx ▸ hrf) (hctx ▸ hnone) h
        exact ⟨hctx'.trans hctx, hend'⟩

/-- Bad checksums are reported as such. -/
theorem errno_of_checkIntegrity {pkt : Bytes} {pktlen : ℕ} {w w' : World σ}
    (h : (checkIntegrity os fuel pkt pktlen).run w = .ok (none, w')) : w'.errno = .EMBBADCRC := by
  have hsums (h : (checkSums os fuel pkt pktlen).run w = .ok (none, w')) :
      w'.errno = .EMBBADCRC := by
    obtain ⟨ok, w₁, -, h⟩ := Exec.run_bind_eq_ok.mp h
    split at h
    · cases h
    · obtain ⟨_, w₂, ⟨⟩, h⟩ := Exec.run_bind_eq_ok.mp h
      split at h
      · obtain ⟨_, w₃, -, h⟩ := Exec.run_bind_eq_ok.mp h
        obtain ⟨_, _, ⟨⟩, ⟨⟩⟩ := Exec.run_bind_eq_ok.mp h
        rfl
      · obtain ⟨_, _, ⟨⟩, ⟨⟩⟩ := Exec.run_bind_eq_ok.mp h
        rfl
  obtain ⟨_, _, ⟨⟩, h⟩ := Exec.run_bind_eq_ok.mp h
  split at h
  · cases h
  · exact hsums h

/-- When `tta_receive` times out, the burst has been read. -/
theorem current_of_ttaReceive {tv : Timeval} {fgtm : Bool} {w w' : World BurstLine}
    (hrf : w.ctx.type ≠ .rf) (hnone : w.ctx.recoversLink = false)
    (hflag : w.ctx.backend.confirmationToIgnore = false)
    (h : (ttaReceive (burstOs.impatient tv) fuel fgtm).run w = .ok (none, w'))
    (htimeout : w'.errno = .ETIMEDOUT) : w'.dev.current = [] := by
  have hpkt {pkt pkt' : Bytes} {w' : World BurstLine}
      (h : (ttaReceivePkt (burstOs.impatient tv) fuel pkt fgtm).run w = .ok ((none, pkt'), w'))
      (htimeout : w'.errno = .ETIMEDOUT) : w'.dev.current = [] := by
    obtain ⟨_, _, ⟨⟩, h⟩ := Exec.run_bind_eq_ok.mp h
    obtain ⟨r, w₁, hloop, h⟩ := Exec.run_bind_eq_ok.mp h
    cases r with
    | error pkt'' =>
      cases h
      exact (ends_of_receiveLoop hrf hnone hloop).2 _ rfl htimeout
    | ok st =>
      obtain ⟨rc, w₂, hcheck, h⟩ := Exec.run_bind_eq_ok.mp h
      cases h
      rw [errno_of_checkIntegrity hcheck] at htimeout
      cases htimeout
  obtain ⟨buf, _, ⟨⟩, h⟩ := Exec.run_bind_eq_ok.mp h
  obtain ⟨⟨rc, pkt⟩, w₁, hreceive, h⟩ := Exec.run_bind_eq_ok.mp h
  cases rc with
  | some n =>
    obtain ⟨m, w₂, -, ⟨⟩⟩ := Exec.run_bind_eq_ok.mp h
  | none =>
    cases h
    obtain ⟨_, _, ⟨⟩, hreceive⟩ := Exec.run_bind_eq_ok.mp hreceive
    cases hbe : w.ctx.backend with
    | tcp _ =>
      dsimp only at hreceive
      rw [hbe] at hreceive
      exact hpkt hreceive htimeout
    | rf _ => exact absurd (congrArg Backend.type hbe) hrf
    | rs485 _ =>
      dsimp only at hreceive
      rw [hbe] at hreceive
      obtain ⟨_, _, ⟨⟩, hreceive⟩ := Exec.run_bind_eq_ok.mp hreceive
      dsimp only at hreceive
      rw [if_neg (by rw [hflag]; decide)] at hreceive
      obtain ⟨⟨rc', pkt'⟩, w₂, hread, hreceive⟩ := Exec.run_bind_eq_ok.mp hreceive
      dsimp only at hreceive
      by_cases hzero : rc' = some 0
      · rw [if_pos hzero] at hreceive
        obtain ⟨_, _, ⟨⟩, hend⟩ := Exec.run_bind_eq_ok.mp hreceive
        rw [hzero] at hend
        cases hend
      · rw [if_neg hzero] at hreceive
        cases hreceive
        exact hpkt hread htimeout

/-! ## Serving -/

/-- The messages that repeated calls of `tta_receive` deliver from a burst. -/
def BackendType.heard (b : BackendType) (s : Bytes) : List Ttamsg :=
  ((b.framing.looks s).map b.result).reduceOption.map Prod.snd

/-- The number of calls after which nothing is left of the bursts. -/
def BackendType.calls (b : BackendType) (bursts : List Burst) : ℕ :=
  (bursts.map fun burst => (b.framing.looks burst.bytes).length).sum

/-- Serve as often as asked for. -/
def serves (os : Os σ) (fuel : ℕ) (payload : Ttamsg → Bytes) : ℕ → Machine σ Unit
  | 0 => return ()
  | k + 1 => do
    let _ ← serve os fuel payload
    serves os fuel payload k

/-- A server on a line, without error recovery. -/
structure Serving (w : World σ) : Prop where
  type_ne : w.ctx.type ≠ .rf
  errorRecovery : w.ctx.errorRecovery = 0
  flag : w.ctx.backend.confirmationToIgnore = false

variable (fuel) in
/-- A pause ends with the next burst, and makes no other difference to a call of `tta_receive`. -/
theorem run_ttaReceive_next {w : World BurstLine} (hw : Serving w)
    (hnext : w.dev.next.current ≠ []) :
    (ttaReceive burstOs fuel false).run w =
      (ttaReceive (burstOs.impatient ⟨0, 0⟩) fuel false).run { w with dev := w.dev.next } := by
  have hjunk : w.dev.next.junk = w.dev.junk := by
    unfold BurstLine.next
    split <;> rfl
  refine run_ttaReceive_impatient ⟨0, 0⟩ (g := w.dev.junk) hw.type_ne rfl ?_ ?_
  · exact congrArg (·, w.dev.next) hjunk
  · change (SelectResult.ready, w.dev.next) =
      (if w.dev.next.current = [] then .timeout else .ready, _)
    rw [if_neg hnext]

/-- A line on which a burst has begun has no pause to wait for. -/
theorem BurstLine.next_of_ne_nil {d : BurstLine} (h : d.current ≠ []) : d.next = d := by
  unfold next
  split
  · rename_i hcurrent _
    exact absurd hcurrent h
  · rfl

variable (fuel) in
/-- One call of `tta_receive` looks at what is left of the burst. -/
theorem run_ttaReceive_burst {w : World BurstLine} (hw : Serving w)
    (hcurrent : w.dev.current ≠ []) :
    ∃ e d, (ttaReceive burstOs fuel false).run w =
        .ok (w.ctx.type.result w.dev.current, { w with dev := d, errno := e }) ∧
      d.current = w.ctx.type.framing.rest w.dev.current ∧ d.later = w.dev.later ∧
      d.output = w.dev.output := by
  have hpause := run_ttaReceive_next fuel hw
    (by rw [BurstLine.next_of_ne_nil hcurrent]; exact hcurrent)
  rw [BurstLine.next_of_ne_nil hcurrent] at hpause
  obtain ⟨r, w', hrun, hend⟩ := run_ttaReceive (feeds_burstOs ⟨0, 0⟩) fuel false (w := w)
    hw.type_ne hw.flag (Calm.of_none hw.errorRecovery)
  have hrest := w.ctx.type.parse_snd w.dev.current
  cases hend with
  | @refused rest d e hparse hin hother =>
    rw [hparse] at hrest
    rw [result_of_error hparse]
    exact ⟨e, d, hpause.trans hrun, hin.trans hrest, congrArg Prod.fst hother,
      congrArg Prod.snd hother⟩
  | @failed t d e hfail hend hother =>
    obtain ⟨ht, rfl⟩ := hfail
    have hshort := hend ht
    have hparse : w.ctx.type.parse w.dev.current = (.error .ECONNRESET, []) := by
      rw [BackendType.parse, hshort]
    have hempty := current_of_ttaReceive hw.type_ne
      (w.ctx.recoversLink_of_none hw.errorRecovery) hw.flag hrun rfl
    rw [result_of_error hparse]
    exact ⟨_, d, hpause.trans hrun, hempty.trans (Framing.rest_of_short hshort).symm,
      congrArg Prod.fst hother, congrArg Prod.snd hother⟩
  | @delivered f rest m d hparse hdecode hin hother =>
    rw [hparse] at hrest
    rw [result_of_ok hparse hdecode]
    exact ⟨_, d, hpause.trans hrun, hin.trans hrest, congrArg Prod.fst hother,
      congrArg Prod.snd hother⟩

/-- What the calls that serve the messages `ms` do: the replies are written in order, and nothing
else; `rest` is left of the burst. -/
structure Served (payload : Ttamsg → Bytes) (ms : List Ttamsg) (rest : Bytes) (later : List Burst)
    (w w' : World BurstLine) : Prop where
  serving : Serving w'
  type : w'.ctx.type = w.ctx.type
  backend : w'.ctx.backend = Backend.stepped^[ms.length] w.ctx.backend
  current : w'.dev.current = rest
  later : w'.dev.later = later
  output : w'.dev.output = w.dev.output ++
    (w.ctx.backend.frames (ms.map fun m => replyMsg m (payload m))).flatten

/-- What is served first and what is served then. -/
theorem Served.trans {payload : Ttamsg → Bytes} {ms ms' : List Ttamsg} {rest rest' : Bytes}
    {later later' : List Burst} {w w' w'' : World BurstLine} (h : Served payload ms rest later w w')
    (h' : Served payload ms' rest' later' w' w'') :
    Served payload (ms ++ ms') rest' later' w w'' where
  serving := h'.serving
  type := h'.type.trans h.type
  backend := by
    rw [h'.backend, h.backend, List.length_append, Nat.add_comm, Function.iterate_add_apply]
  current := h'.current
  later := h'.later
  output := by
    rw [h'.output, h.output, h.backend, List.map_append, Backend.frames_append, List.length_map,
      List.flatten_append, List.append_assoc]

section Serve

variable {payload : Ttamsg → Bytes} {w : World BurstLine}

variable (fuel) in
/-- One round of a server looks at what is left of the burst, and answers the message that it
finds. -/
theorem run_serve_burst (hw : Serving w) (hcurrent : w.dev.current ≠ [])
    (hroom : ∀ m, (replyMsg m (payload m)).frameLength w.ctx.type ≤ maxMessageLength) :
    ∃ r w', (serve burstOs fuel payload).run w = .ok (r, w') ∧
      Served payload ((w.ctx.type.result w.dev.current).toList.map Prod.snd)
        (w.ctx.type.framing.rest w.dev.current) w.dev.later w w' := by
  obtain ⟨e, d, hreceive, hrest, hlater, houtput⟩ := run_ttaReceive_burst fuel hw hcurrent
  unfold serve
  rw [Exec.run_bind_of_ok hreceive]
  cases w.ctx.type.result w.dev.current with
  | none =>
    exact ⟨none, _, rfl, ⟨hw.type_ne, hw.errorRecovery, hw.flag⟩, rfl, rfl, hrest, hlater,
      houtput.trans (List.append_nil _).symm⟩
  | some r =>
    obtain ⟨n, m⟩ := r
    have hreply := run_ttaSend takes_burstOs fuel (m := replyMsg m (payload m))
      { w with dev := d, errno := e } hw.type_ne (hroom m)
    refine ⟨_, _, hreply, ⟨?_, hw.errorRecovery, ?_⟩, w.ctx.type_stepped, rfl, hrest, hlater, ?_⟩
    · exact w.ctx.type_stepped.trans_ne hw.type_ne
    · exact w.ctx.backend.confirmationToIgnore_stepped.trans hw.flag
    · change d.output ++ w.ctx.backend.frame _ = w.dev.output ++ (w.ctx.backend.frame _ ++ [])
      rw [houtput, List.append_nil]

/-- The rounds after a pause are the same as if there were no pause. -/
theorem run_serves_next (hw : Serving w) (hnext : w.dev.next.current ≠ []) (k : ℕ) :
    (serves burstOs fuel payload (k + 1)).run w =
      (serves burstOs fuel payload (k + 1)).run { w with dev := w.dev.next } := by
  have hnext' : w.dev.next.next = w.dev.next := BurstLine.next_of_ne_nil hnext
  have hreceive : (ttaReceive burstOs fuel false).run w =
      (ttaReceive burstOs fuel false).run { w with dev := w.dev.next } := by
    rw [run_ttaReceive_next fuel hw hnext,
      run_ttaReceive_next fuel (w := { w with dev := w.dev.next })
        ⟨hw.type_ne, hw.errorRecovery, hw.flag⟩ (by rw [hnext']; exact hnext), hnext']
  have hserve : (serve burstOs fuel payload).run w =
      (serve burstOs fuel payload).run { w with dev := w.dev.next } := by
    unfold serve
    rw [StateT.run_bind, StateT.run_bind, hreceive]
  unfold serves
  rw [StateT.run_bind, StateT.run_bind, hserve]

/-- More rounds after some rounds. -/
theorem run_serves_add {w' w'' : World BurstLine} {j k : ℕ}
    (h : (serves burstOs fuel payload j).run w = .ok ((), w'))
    (h' : (serves burstOs fuel payload k).run w' = .ok ((), w'')) :
    (serves burstOs fuel payload (j + k)).run w = .ok ((), w'') := by
  induction j generalizing w with
  | zero =>
    cases h
    rwa [Nat.zero_add]
  | succ j ih =>
    obtain ⟨r, w₁, hserve, hserves⟩ := Exec.run_bind_eq_ok.mp h
    rw [Nat.succ_add]
    exact (Exec.run_bind_of_ok hserve).trans (ih hserves)

variable (fuel payload) in
/-- A burst that has begun is served: the induction is on what is left of it. -/
theorem run_serves_burst (hw : Serving w)
    (hroom : ∀ m, (replyMsg m (payload m)).frameLength w.ctx.type ≤ maxMessageLength) :
    ∃ w', (serves burstOs fuel payload (w.ctx.type.framing.looks w.dev.current).length).run w =
        .ok ((), w') ∧
      Served payload (w.ctx.type.heard w.dev.current) [] w.dev.later w w' := by
  induction hn : w.dev.current.length using Nat.strong_induction_on generalizing w with
  | _ n ih =>
    by_cases hcurrent : w.dev.current = []
    · rw [hcurrent]
      exact ⟨w, rfl, hw, rfl, rfl, hcurrent, rfl, (List.append_nil _).symm⟩
    · obtain ⟨r, w₁, hserve, hserved⟩ := run_serve_burst fuel hw hcurrent hroom
      have hlt := w.ctx.type.framing.length_rest_lt hcurrent
      obtain ⟨w', hserves, hserved'⟩ := ih w₁.dev.current.length (by rw [hserved.current]; omega)
        hserved.serving (by rw [hserved.type]; exact hroom) rfl
      rw [hserved.type, hserved.current] at hserves hserved'
      have hlooks := Framing.looks_of_ne_nil (F := w.ctx.type.framing) hcurrent
      have hheard : w.ctx.type.heard w.dev.current =
          (w.ctx.type.result w.dev.current).toList.map Prod.snd ++
            w.ctx.type.heard (w.ctx.type.framing.rest w.dev.current) := by
        rw [BackendType.heard, hlooks, List.map_cons]
        cases w.ctx.type.result w.dev.current with
        | none => rfl
        | some r => rfl
      rw [hlooks, hheard]
      rw [hserved.later] at hserved'
      exact ⟨w', (Exec.run_bind_of_ok hserve).trans hserves, hserved.trans hserved'⟩

variable (fuel) in
/-- Bursts are served one after the other. -/
theorem run_serves_bursts (hw : Serving w) (hcurrent : w.dev.current = [])
    (hroom : ∀ m, (replyMsg m (payload m)).frameLength w.ctx.type ≤ maxMessageLength) :
    ∃ w', (serves burstOs fuel payload (w.ctx.type.calls w.dev.later)).run w = .ok ((), w') ∧
      Served payload (w.dev.later.flatMap fun b => w.ctx.type.heard b.bytes) [] [] w w' := by
  induction hlater : w.dev.later generalizing w with
  | nil => exact ⟨w, rfl, hw, rfl, rfl, hcurrent, hlater, (List.append_nil _).symm⟩
  | cons b bs ih =>
    have hnext : w.dev.next = { w.dev with current := b.bytes, later := bs } := by
      unfold BurstLine.next
      rw [hcurrent, hlater]
    obtain ⟨w₁, hserves, hserved⟩ := run_serves_burst fuel payload
      (w := { w with dev := w.dev.next }) ⟨hw.type_ne, hw.errorRecovery, hw.flag⟩ hroom
    rw [hnext] at hserves hserved
    have hfirst : (serves burstOs fuel payload
        (w.ctx.type.framing.looks b.bytes).length).run w = .ok ((), w₁) := by
      have hne : w.dev.next.current ≠ [] := by
        rw [hnext]
        exact b.ne_nil
      rw [← hserves, Framing.looks_of_ne_nil b.ne_nil, List.length_cons, run_serves_next hw hne,
        hnext]
    obtain ⟨w', hrest, hserved'⟩ := ih hserved.serving hserved.current
      (by rw [hserved.type]; exact hroom) hserved.later
    rw [hserved.type] at hrest hserved'
    have hserved₁ : Served payload (w.ctx.type.heard b.bytes) [] bs w w₁ :=
      ⟨hserved.serving, hserved.type, hserved.backend, hserved.current, hserved.later,
        hserved.output⟩
    exact ⟨w', run_serves_add hfirst hrest, hserved₁.trans hserved'⟩

end Serve

/-- What is heard of a burst of whole frames are the messages in them. -/
theorem heard_frames {be : Backend} {ms : List Ttamsg}
    (hfit : ∀ m ∈ ms, m.frameLength be.type ≤ be.type.maxAduLength) :
    be.type.heard (be.frames ms).flatten = ms.mapIdx fun k m => { m with tid := be.tidAt k } := by
  induction ms generalizing be with
  | nil => rfl
  | cons m ms ih =>
    have hm := hfit m List.mem_cons_self
    have hframe := isFrame_frame be m hm
    have hfit' : ∀ m' ∈ ms, m'.frameLength be.stepped.type ≤ be.stepped.type.maxAduLength := by
      rw [be.type_stepped]
      exact fun m' hm' => hfit m' (List.mem_cons_of_mem m hm')
    have ih' := ih hfit'
    have hne : be.frame m ++ (be.stepped.frames ms).flatten ≠ [] :=
      List.append_ne_nil_of_left_ne_nil (List.ne_nil_of_length_pos hframe.length_pos) _
    rw [be.type_stepped] at ih'
    rw [Backend.frames, List.flatten_cons, BackendType.heard, Framing.looks_of_ne_nil hne,
      Framing.rest_append hframe, List.map_cons, result_append hframe (intact_frame be m),
      decode_frame, Option.map_some, List.reduceOption_cons_of_some, List.map_cons,
      List.mapIdx_cons, be.tidAt_zero]
    refine congrArg (_ :: ·) (ih'.trans ?_)
    simp only [be.tidAt_stepped]

/-- A server on a line with pauses, for RS485 and TCP. Whatever is heard between the pauses, after
as many rounds as the bursts have looks the server has answered the intact frames that a reader
finds who starts anew at the beginning of each burst, in order and each once, and has written
nothing else. A burst that consists of whole frames, of messages that any sender has built, is
answered message by message: no garbage that has been heard before a pause makes a difference to
what is heard after it. -/
theorem serve_bursts (fuel : ℕ) (payload : Ttamsg → Bytes) {n : ℕ} {w : World BurstLine}
    (hctx : Reachable w.ctx n) (hrf : w.ctx.type ≠ .rf) (hnone : w.ctx.errorRecovery = 0)
    (hcurrent : w.dev.current = [])
    (hroom : ∀ m, (replyMsg m (payload m)).frameLength w.ctx.type ≤ maxMessageLength) :
    (∃ w', (serves burstOs fuel payload (w.ctx.type.calls w.dev.later)).run w = .ok ((), w') ∧
      w'.dev.current = [] ∧ w'.dev.later = [] ∧
      w'.dev.output = w.dev.output ++ (w.ctx.backend.frames
        ((w.dev.later.flatMap fun b => w.ctx.type.heard b.bytes).map fun m =>
          replyMsg m (payload m))).flatten) ∧
    ∀ (be : Backend) (ms : List Ttamsg), be.type = w.ctx.type →
      (∀ m ∈ ms, m.frameLength w.ctx.type ≤ w.ctx.type.maxAduLength) →
      w.ctx.type.heard (be.frames ms).flatten =
        ms.mapIdx fun k m => { m with tid := be.tidAt k } := by
  constructor
  · obtain ⟨w', hrun, hserved⟩ := run_serves_bursts fuel
      ⟨hrf, hnone, hctx.counts.flag⟩ hcurrent hroom
    exact ⟨w', hrun, hserved.current, hserved.later, hserved.output⟩
  · intro be ms htype hfit
    rw [← htype] at hfit ⊢
    exact heard_frames hfit

/-- The end of an RS485 line on which the end of a packet is heard, and after a pause a whole
one. -/
def burstStart : World BurstLine :=
  ⟨ttaNewRs485 "/dev/ttyS0", .other 0, List.Vector.replicate 128 0, 0,
    ⟨[], [⟨[0x10, 0xF7, 1, 0, 0x10, 1], by decide⟩,
      ⟨[0xF7, 1, 0, 0x10, 1, 0xAA, 0x4D, 0x00], by decide⟩], [], fun _ => 2, 0, fun _ => 0⟩⟩

/-- The packet after the pause is answered. -/
theorem serve_bursts_noise :
    ∃ w', (serves burstOs 0 (fun _ => []) 2).run burstStart = .ok ((), w') ∧
      w'.dev.output = [0xF7, 1, 0, 0x90, 0, 0x66, 0xEE] := by
  obtain ⟨⟨w', hrun, -, -, hout⟩, -⟩ :=
    serve_bursts 0 (fun _ => []) (w := burstStart) (.newRs485 _ _ _)
    (by decide) rfl rfl (fun _ => show BackendType.frameLength .rs485 0 ≤ 260 by decide)
  exact ⟨w', hrun, hout.trans (by decide)⟩

end Libtta
