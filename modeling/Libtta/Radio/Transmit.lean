import Libtta.Radio.Radio
import Libtta.Radio.Timeout

/-!
# What a radio send observes

`_tta_rf_send` polls the radio twice: for a clear channel, and for the end of the transmission.
`txOs` is an operating system with a radio that answers these polls, and a clock that is read, by
arbitrary sequences; it keeps a log of what the radio is told and asked. `WaitEnds` describes the
second loop for all sequences, and `ttaRfSend_reports` the whole function: for which sequences it
reports success, for which it fails, and what is in the log.
-/

namespace Libtta

/-! ## The radio -/

/-- What the radio is told and asked. -/
inductive TxEvent where
  | strobe (cmd : UInt8)
  /-- The transmit FIFO is loaded. -/
  | load (bs : Bytes)
  /-- `RSSI0` is read. -/
  | sense (v : UInt8)
  /-- `GPIO_STATUS` is read. -/
  | poll (v : UInt8)
  deriving DecidableEq

/-- The radio with the clock: how often it has been asked, and the log of the events. -/
structure TxDev where
  senses : ℕ
  polls : ℕ
  clocks : ℕ
  log : List TxEvent

/-- No question has been asked yet. -/
def TxDev.start : TxDev := ⟨0, 0, 0, []⟩

/-- What the radio and the clock answer. -/
structure TxEnv where
  rssi : ℕ → UInt8
  gpio : ℕ → UInt8
  clock : ℕ → Timeval
  normal : ∀ i, (clock i).Normal
  /-- The wait does not begin in the last second that the clock can show. -/
  inRange : (clock 0).sec < Int64.maxValue
  /-- The outcomes of the calls, which the library does not look at. -/
  outcome : TxDev → Except Errno Unit
  junk : ℕ → UInt8

/-- The operating system with the radio. -/
def txOs (env : TxEnv) : Os TxDev where
  garbage d := (env.junk, d)
  strobe _ cmd d := (env.outcome d, { d with log := d.log ++ [.strobe cmd] })
  fifoWrite _ bs d := (env.outcome d, { d with log := d.log ++ [.load bs] })
  usleep _ d := (env.outcome d, d)
  readReg _ addr d :=
    if addr = Cc1120.RSSI0 then
      ((env.rssi d.senses, env.outcome d),
        { d with senses := d.senses + 1, log := d.log ++ [.sense (env.rssi d.senses)] })
    else if addr = Cc1120.GPIO_STATUS then
      ((env.gpio d.polls, env.outcome d),
        { d with polls := d.polls + 1, log := d.log ++ [.poll (env.gpio d.polls)] })
    else ((0, env.outcome d), d)
  gettimeofday d := (env.clock d.clocks, { d with clocks := d.clocks + 1 })

namespace TxEnv

variable (env : TxEnv)

/-- The channel is found clear by a poll. -/
def Clear (i : ℕ) : Prop := env.rssi i &&& 0x01 ≠ 0

instance (i : ℕ) : Decidable (env.Clear i) := inferInstanceAs (Decidable (_ ≠ _))

/-- One of the first eleven polls finds the channel clear. -/
def Carrier : Prop := ∃ i < 11, env.Clear i

instance : Decidable env.Carrier := inferInstanceAs (Decidable (∃ i < 11, env.Clear i))

/-- The end of the transmission is seen by a poll: the pin is clear, and an earlier poll has seen it
set. -/
def Done (j : ℕ) : Prop := env.gpio j &&& 0x08 = 0 ∧ ∃ i < j, env.gpio i &&& 0x08 ≠ 0

/-- The clock that is read behind a poll shows more than a second since the start of the wait. -/
def Late (k : ℕ) : Prop := (env.clock 0).micros + 1000000 < (env.clock (k + 1)).micros

/-- The transmission is observed: its end is seen by a poll, and the clock has not been late
before. -/
def Transmits (j : ℕ) : Prop := env.Done j ∧ ∀ k < j, ¬env.Late k

/-- The wait reaches a poll: none before it has ended it. -/
def Waits (j : ℕ) : Prop := ∀ k < j, ¬env.Done k ∧ ¬env.Late k

end TxEnv

variable (env : TxEnv) (fd : Int)

/-! ## The first loop -/

/-- A poll of the channel. -/
theorem exists_run_sense (w : World TxDev) : ∃ e,
    (cc1120ReadSingle (txOs env) fd Cc1120.RSSI0).run w = .ok (env.rssi w.dev.senses, { w with
      errno := e
      dev := { w.dev with
        senses := w.dev.senses + 1, log := w.dev.log ++ [.sense (env.rssi w.dev.senses)] } }) :=
  exists_run_sysAnswer _ w

/-- The first loop: it finds the channel clear if one of its polls does, and this is its last poll
then. The induction is on the polls that are left. -/
theorem exists_run_carrierSense (left : ℕ) (w : World TxDev) :
    ∃ (got : Bool) (vs : List UInt8) (e : Errno),
    (carrierSense (txOs env) fd left).run w = .ok (got, { w with
      errno := e
      dev := { w.dev with
        senses := w.dev.senses + vs.length, log := w.dev.log ++ vs.map .sense } }) ∧
    vs.length ≤ left ∧ (got = true ↔ ∃ i < left, env.Clear (w.dev.senses + i)) ∧
    (got = true → ∃ us v, vs = us ++ [v] ∧ v &&& 0x01 ≠ 0) := by
  induction left generalizing w with
  | zero =>
    obtain ⟨e, h⟩ := exists_run_sys ((txOs env).usleep 1000) w
    refine ⟨false, [], e, ?_, le_refl 0, by simp, by simp⟩
    rw [carrierSense, Exec.run_bind_of_ok h, List.map_nil, List.append_nil]
    rfl
  | succ left ih =>
    obtain ⟨e₁, hsleep⟩ := exists_run_sys ((txOs env).usleep 1000) w
    obtain ⟨e₂, hsense⟩ := exists_run_sense env fd { w with errno := e₁ }
    rw [carrierSense, Exec.run_bind_of_ok hsleep]
    by_cases hclear : env.Clear w.dev.senses
    · refine ⟨true, [env.rssi w.dev.senses], e₂, ?_, Nat.succ_pos left, ?_,
        fun _ => ⟨[], _, rfl, hclear⟩⟩
      · refine (Exec.run_bind_of_ok hsense).trans ?_
        exact congrArg (fun x => StateT.run x _) (if_pos hclear)
      · exact iff_of_true rfl ⟨0, Nat.succ_pos left, hclear⟩
    · obtain ⟨got, vs, e, hrun, hlen, hgot, hlast⟩ := ih { w with
        errno := e₂
        dev := { w.dev with
          senses := w.dev.senses + 1, log := w.dev.log ++ [.sense (env.rssi w.dev.senses)] } }
      refine ⟨got, env.rssi w.dev.senses :: vs, e, ?_, Nat.succ_le_succ hlen, ?_, fun h => ?_⟩
      · refine (Exec.run_bind_of_ok hsense).trans ?_
        refine (congrArg (fun x => StateT.run x _) (if_neg hclear)).trans (hrun.trans ?_)
        rw [List.length_cons, List.map_cons, List.append_assoc, Nat.add_assoc, Nat.add_comm 1]
        rfl
      · rw [hgot]
        constructor
        · rintro ⟨i, hi, h⟩
          exact ⟨i + 1, Nat.succ_lt_succ hi, by rwa [Nat.add_assoc, Nat.add_comm 1] at h⟩
        · rintro ⟨i, hi, h⟩
          cases i with
          | zero => exact absurd h hclear
          | succ i => exact ⟨i, Nat.lt_of_succ_lt_succ hi, by rwa [Nat.add_assoc, Nat.add_comm 1]⟩
      · obtain ⟨us, v, rfl, hv⟩ := hlast h
        exact ⟨_ :: us, v, rfl, hv⟩

/-! ## The second loop -/

/-- The clock is past the deadline exactly when it is late. -/
theorem past_iff_late (k : ℕ) :
    Timeval.past ⟨(env.clock 0).sec + 1, (env.clock 0).usec⟩ (env.clock (k + 1)) = true ↔
      env.Late k := by
  have hnow := env.normal (k + 1)
  have hstart := env.normal 0
  have hmax : Int64.maxValue.toInt = 2 ^ 63 - 1 := by decide
  have hone : (1 : Int64).toInt = 1 := by decide
  have hrange := Int64.lt_iff_toInt_lt.mp env.inRange
  have hmin := (env.clock 0).sec.le_toInt
  have hsec : ((env.clock 0).sec + 1).toInt = (env.clock 0).sec.toInt + 1 := by
    rcases toInt_add_cases (env.clock 0).sec 1 with ⟨heq, -⟩ | ⟨-, h₁⟩ | ⟨-, h₁⟩ <;> omega
  unfold Timeval.Normal at hnow hstart
  rw [past_iff, TxEnv.Late, Timeval.micros, Timeval.micros]
  dsimp only
  rw [hsec]
  omega

/-- The wait goes on after a poll that neither sees the end nor is followed by a late clock. -/
theorem TxEnv.Waits.succ {env : TxEnv} {p : ℕ} (hwaits : env.Waits p) (hdone : ¬env.Done p)
    (hlate : ¬env.Late p) : env.Waits (p + 1) := by
  intro k hk
  rcases Nat.lt_succ_iff_lt_or_eq.mp hk with hlt | rfl
  · exact hwaits k hlt
  · exact ⟨hdone, hlate⟩

/-- The flag of the second loop tells whether a poll has seen the pin set. -/
theorem flag_iff {fgstart : Bool} {p : ℕ}
    (hflag : fgstart = true ↔ ∃ i < p, env.gpio i &&& 0x08 ≠ 0) :
    (fgstart || env.gpio p &&& 0x08 != 0) = true ↔ ∃ i < p + 1, env.gpio i &&& 0x08 ≠ 0 := by
  rw [Bool.or_eq_true, hflag, bne_iff_ne]
  constructor
  · rintro (⟨i, hi, hset⟩ | hset)
    · exact ⟨i, Nat.lt_succ_of_lt hi, hset⟩
    · exact ⟨p, Nat.lt_succ_self p, hset⟩
  · rintro ⟨i, hi, hset⟩
    rcases Nat.lt_succ_iff_lt_or_eq.mp hi with hlt | rfl
    · exact .inl ⟨i, hlt, hset⟩
    · exact .inr hset

/-- How the second loop ends: the fuel is used up, or a poll that the wait reaches ends it, in the
one way or the other. -/
inductive WaitEnds (w : World TxDev) (fuel : ℕ) : Except Stop (Bool × World TxDev) → Prop
  | fuel : env.Waits (w.dev.polls + fuel) → WaitEnds w fuel (.error .fuel)
  | done {j : ℕ} {w' : World TxDev} (vs : List UInt8) : env.Waits j → env.Done j →
      w'.dev.log = w.dev.log ++ vs.map .poll → WaitEnds w fuel (.ok (true, w'))
  | late {j : ℕ} {w' : World TxDev} (vs : List UInt8) : env.Waits j → ¬env.Done j → env.Late j →
      w'.dev.log = w.dev.log ++ vs.map .poll → WaitEnds w fuel (.ok (false, w'))

/-- A wait that goes on after its first poll ends in the same way. -/
theorem WaitEnds.of_succ {env : TxEnv} {w w₁ : World TxDev} {fuel : ℕ}
    {x : Except Stop (Bool × World TxDev)} {v : UInt8} (h : WaitEnds env w₁ fuel x)
    (hpolls : w₁.dev.polls = w.dev.polls + 1) (hlog : w₁.dev.log = w.dev.log ++ [.poll v]) :
    WaitEnds env w (fuel + 1) x := by
  have happend (vs : List UInt8) :
      w₁.dev.log ++ vs.map .poll = w.dev.log ++ (v :: vs).map .poll := by
    rw [hlog, List.append_assoc]
    rfl
  cases h with
  | fuel hwaits =>
    rw [hpolls, Nat.add_assoc, Nat.add_comm 1] at hwaits
    exact .fuel hwaits
  | done vs hwaits hdone hlog' => exact .done (v :: vs) hwaits hdone (hlog'.trans (happend vs))
  | late vs hwaits hdone hlate hlog' =>
    exact .late (v :: vs) hwaits hdone hlate (hlog'.trans (happend vs))

/-- The second loop, from the poll that it has reached. The clock is read once before it, and once
behind every poll. -/
theorem run_waitTxDone (fuel : ℕ) {fgstart : Bool} {w : World TxDev}
    (hclocks : w.dev.clocks = w.dev.polls + 1) (hwaits : env.Waits w.dev.polls)
    (hflag : fgstart = true ↔ ∃ i < w.dev.polls, env.gpio i &&& 0x08 ≠ 0) :
    WaitEnds env w fuel ((waitTxDone (txOs env) fd
      ⟨(env.clock 0).sec + 1, (env.clock 0).usec⟩ fuel fgstart).run w) := by
  induction fuel generalizing fgstart w with
  | zero => exact .fuel hwaits
  | succ fuel ih =>
    obtain ⟨e₁, hpoll⟩ : ∃ e, (cc1120ReadSingle (txOs env) fd Cc1120.GPIO_STATUS).run w =
        .ok (env.gpio w.dev.polls, { w with
          errno := e
          dev := { w.dev with
            polls := w.dev.polls + 1, log := w.dev.log ++ [.poll (env.gpio w.dev.polls)] } }) :=
      exists_run_sysAnswer _ w
    set w₁ : World TxDev := { w with
      errno := e₁
      dev := { w.dev with
        polls := w.dev.polls + 1, log := w.dev.log ++ [.poll (env.gpio w.dev.polls)] } }
    have hdone_iff : env.Done w.dev.polls ↔
        env.gpio w.dev.polls &&& 0x08 = 0 ∧ fgstart = true := and_congr_right fun _ => hflag.symm
    rw [waitTxDone, Exec.run_bind_of_ok hpoll]
    by_cases hdone : env.Done w.dev.polls
    · refine (congrArg (WaitEnds env w (fuel + 1)) (congrArg (fun x => StateT.run x w₁)
        (if_pos (hdone_iff.mp hdone)))).mpr ?_
      exact .done [env.gpio w.dev.polls] hwaits hdone rfl
    · refine (congrArg (WaitEnds env w (fuel + 1)) (congrArg (fun x => StateT.run x w₁)
        (if_neg (mt hdone_iff.mpr hdone)))).mpr ?_
      have hclock : (ask (txOs env).gettimeofday).run w₁ = .ok (env.clock (w.dev.polls + 1),
          { w₁ with dev := { w₁.dev with clocks := w.dev.clocks + 1 } }) := by
        rw [← hclocks]
        rfl
      rw [Exec.run_bind_of_ok hclock]
      by_cases hlate : env.Late w.dev.polls
      · refine (congrArg (WaitEnds env w (fuel + 1)) (congrArg (fun x => StateT.run x _)
          (if_pos ((past_iff_late env _).mpr hlate)))).mpr ?_
        exact .late [env.gpio w.dev.polls] hwaits hdone hlate rfl
      · refine (congrArg (WaitEnds env w (fuel + 1)) (congrArg (fun x => StateT.run x _)
          (if_neg (mt (past_iff_late env _).mp hlate)))).mpr ?_
        obtain ⟨e₂, hsleep⟩ := exists_run_sys ((txOs env).usleep 1000)
          { w₁ with dev := { w₁.dev with clocks := w.dev.clocks + 1 } }
        rw [Exec.run_bind_of_ok hsleep]
        refine WaitEnds.of_succ (ih ?_ (hwaits.succ hdone hlate) (flag_iff env hflag)) rfl rfl
        exact congrArg (· + 1) hclocks

/-! ## The whole function -/

/-- What a send tells and asks the radio up to its first loop, whose readings are `vs`. -/
def carrierLog (pkt vs : List UInt8) : List TxEvent :=
  [.strobe Cc1120.SIDLE, .strobe Cc1120.SFTX, .load (UInt8.ofNat pkt.length :: pkt),
    .strobe Cc1120.SRX] ++ vs.map .sense

/-- What a send tells and asks the radio: if the channel is found clear, it goes on with the
readings `ps` of its second loop. -/
def sendLog (pkt vs ps : List UInt8) : List TxEvent :=
  carrierLog pkt vs ++ (if env.Carrier then .strobe Cc1120.STX :: ps.map .poll else []) ++
    [.strobe Cc1120.SIDLE, .strobe Cc1120.SFTX]

/-- The log of a send: there are at most eleven polls of the channel, and the last of them finds it
clear if the packet is transmitted. -/
def SendLogged (pkt : Bytes) (log : List TxEvent) : Prop :=
  ∃ vs ps, log = sendLog env pkt vs ps ∧ vs.length ≤ 11 ∧
    (env.Carrier → ∃ us v, vs = us ++ [v] ∧ v &&& 0x01 ≠ 0)

/-- How a send ends: without a clear channel, or as its second loop does. -/
inductive SendEnds (pkt : Bytes) (fuel : ℕ) : Except Stop (Option ℕ × World TxDev) → Prop
  | busy {w' : World TxDev} : ¬env.Carrier → SendLogged env pkt w'.dev.log →
      SendEnds pkt fuel (.ok (none, w'))
  | fuel : env.Carrier → env.Waits fuel → SendEnds pkt fuel (.error .fuel)
  | done {j : ℕ} {w' : World TxDev} : env.Carrier → env.Waits j → env.Done j →
      SendLogged env pkt w'.dev.log → SendEnds pkt fuel (.ok (some pkt.length, w'))
  | late {j : ℕ} {w' : World TxDev} : env.Carrier → env.Waits j → ¬env.Done j → env.Late j →
      SendLogged env pkt w'.dev.log → SendEnds pkt fuel (.ok (none, w'))

/-- Behind the second loop the radio is set to idle, and its FIFO flushed. -/
theorem exists_run_restore (res : Option ℕ) (w : World TxDev) : ∃ w',
    (do
      cc1120Strobe (txOs env) fd Cc1120.SIDLE
      cc1120Strobe (txOs env) fd Cc1120.SFTX
      return res : Machine TxDev (Option ℕ)).run w = .ok (res, w') ∧
    w'.dev.log = w.dev.log ++ [.strobe Cc1120.SIDLE, .strobe Cc1120.SFTX] := by
  obtain ⟨e₁, h₁⟩ := exists_run_cc1120Strobe (txOs env) fd Cc1120.SIDLE w
  obtain ⟨e₂, h₂⟩ := exists_run_cc1120Strobe (txOs env) fd Cc1120.SFTX
    { w with dev := ((txOs env).strobe fd Cc1120.SIDLE w.dev).2, errno := e₁ }
  refine ⟨_, (Exec.run_bind_of_ok h₁).trans ((Exec.run_bind_of_ok h₂).trans rfl), ?_⟩
  exact List.append_assoc w.dev.log [TxEvent.strobe Cc1120.SIDLE] [TxEvent.strobe Cc1120.SFTX]

/-- A send up to its first loop: the packet has been loaded, and the channel is polled. -/
theorem exists_run_upToCarrier {pkt : Bytes} (hfit : pkt.length ≤ 127) (w : World TxDev) :
    ∃ (e : Errno) (vs : List UInt8), vs.length ≤ 11 ∧
      (env.Carrier → ∃ us v, vs = us ++ [v] ∧ v &&& 0x01 ≠ 0) ∧
      ∀ {β : Type} (f : ℕ → Bool → Machine TxDev β),
        (do
          cc1120Strobe (txOs env) fd Cc1120.SIDLE
          cc1120Strobe (txOs env) fd Cc1120.SFTX
          let rc ← writeRf (txOs env) fd pkt
          cc1120Strobe (txOs env) fd Cc1120.SRX
          f rc (← carrierSense (txOs env) fd 11)).run { w with dev := .start } =
        (f pkt.length (decide env.Carrier)).run
          { w with errno := e, dev := ⟨vs.length, 0, 0, carrierLog pkt vs⟩ } := by
  obtain ⟨e₁, h₁⟩ := exists_run_cc1120Strobe (txOs env) fd Cc1120.SIDLE { w with dev := .start }
  obtain ⟨e₂, h₂⟩ := exists_run_cc1120Strobe (txOs env) fd Cc1120.SFTX
    { w with dev := ((txOs env).strobe fd Cc1120.SIDLE .start).2, errno := e₁ }
  obtain ⟨e₃, h₃⟩ := exists_run_writeRf (txOs env) fd
    { w with
      dev := ((txOs env).strobe fd Cc1120.SFTX ((txOs env).strobe fd Cc1120.SIDLE .start).2).2
      errno := e₂ } hfit
  obtain ⟨e₄, h₄⟩ := exists_run_cc1120Strobe (txOs env) fd Cc1120.SRX { w with
    dev := ⟨0, 0, 0, [.strobe Cc1120.SIDLE, .strobe Cc1120.SFTX,
      .load (UInt8.ofNat pkt.length :: pkt)]⟩
    errno := e₃ }
  obtain ⟨got, vs, e₅, h₅, hlen, hgot, hlast⟩ := exists_run_carrierSense env fd 11 { w with
    dev := ⟨0, 0, 0, carrierLog pkt []⟩
    errno := e₄ }
  have hcarrier : got = true ↔ env.Carrier := by
    rw [hgot]
    exact exists_congr fun i => and_congr_right fun _ =>
      iff_of_eq (congrArg env.Clear (Nat.zero_add i))
  refine ⟨e₅, vs, hlen, fun h => hlast (hcarrier.mpr h), fun f => ?_⟩
  rw [Exec.run_bind_of_ok h₁, Exec.run_bind_of_ok h₂, Exec.run_bind_of_ok h₃]
  refine (Exec.run_bind_of_ok h₄).trans ((Exec.run_bind_of_ok h₅).trans ?_)
  rw [Bool.eq_iff_iff.mpr (hcarrier.trans decide_eq_true_iff.symm), Nat.zero_add]
  rfl

/-- How a send of a packet ends that fits the array of the library. -/
theorem sendEnds_ttaRfSend {pkt : Bytes} (hfit : pkt.length ≤ 127) (fuel : ℕ) (w : World TxDev) :
    SendEnds env pkt fuel ((ttaRfSend (txOs env) fuel fd pkt).run { w with dev := .start }) := by
  obtain ⟨e, vs, hlen, hlast, hrun⟩ := exists_run_upToCarrier env fd hfit w
  rw [ttaRfSend, hrun]
  by_cases hcarrier : env.Carrier
  · obtain ⟨e₁, hstx⟩ := exists_run_cc1120Strobe (txOs env) fd Cc1120.STX
      { w with errno := e, dev := ⟨vs.length, 0, 0, carrierLog pkt vs⟩ }
    set w₁ : World TxDev := { w with
      errno := e₁, dev := ⟨vs.length, 0, 1, carrierLog pkt vs ++ [.strobe Cc1120.STX]⟩ }
    have hnopoll : ¬∃ i < w₁.dev.polls, env.gpio i &&& 0x08 ≠ 0 := by
      rintro ⟨i, hi, -⟩
      exact Nat.not_lt_zero i hi
    have hwait : WaitEnds env w₁ fuel ((waitTxDone (txOs env) fd
        ⟨(env.clock 0).sec + 1, (env.clock 0).usec⟩ fuel false).run w₁) :=
      run_waitTxDone env fd fuel rfl (fun k hk => absurd hk (Nat.not_lt_zero k))
        (iff_of_false Bool.false_ne_true hnopoll)
    have hlogged {vs' : List UInt8} {w₂ w' : World TxDev}
        (h₂ : w₂.dev.log = w₁.dev.log ++ vs'.map .poll)
        (h' : w'.dev.log = w₂.dev.log ++ [.strobe Cc1120.SIDLE, .strobe Cc1120.SFTX]) :
        SendLogged env pkt w'.dev.log := by
      refine ⟨vs, vs', ?_, hlen, hlast⟩
      rw [h', h₂, sendLog, if_pos hcarrier]
      exact congrArg (· ++ _) (List.append_assoc _ _ _)
    rw [decide_eq_true hcarrier]
    have hbranch (f : Bool → Machine TxDev (Option ℕ)) : (do
        cc1120Strobe (txOs env) fd Cc1120.STX
        let start ← ask (txOs env).gettimeofday
        let sent ← waitTxDone (txOs env) fd ⟨start.sec + 1, start.usec⟩ fuel false
        f sent).run { w with errno := e, dev := ⟨vs.length, 0, 0, carrierLog pkt vs⟩ } =
        (waitTxDone (txOs env) fd ⟨(env.clock 0).sec + 1, (env.clock 0).usec⟩ fuel false >>= f).run
          w₁ :=
      (Exec.run_bind_of_ok hstx).trans rfl
    refine (congrArg (SendEnds env pkt fuel) (hbranch _)).mpr ?_
    cases hx : (waitTxDone (txOs env) fd
        ⟨(env.clock 0).sec + 1, (env.clock 0).usec⟩ fuel false).run w₁ with
    | error stop =>
      rw [hx] at hwait
      rw [Exec.run_bind_of_error hx]
      cases hwait with
      | fuel hwaits => exact .fuel hcarrier (Nat.zero_add fuel ▸ hwaits)
    | ok r =>
      obtain ⟨sent, w₂⟩ := r
      rw [hx] at hwait
      obtain ⟨w', hend, hlog⟩ :=
        exists_run_restore env fd (if sent then some pkt.length else none) w₂
      rw [Exec.run_bind_of_ok hx]
      refine (congrArg (SendEnds env pkt fuel) hend).mpr ?_
      cases hwait with
      | done ps hwaits hdone h₂ => exact .done hcarrier hwaits hdone (hlogged h₂ hlog)
      | late ps hwaits hdone hlate h₂ => exact .late hcarrier hwaits hdone hlate (hlogged h₂ hlog)
  · obtain ⟨w', hend, hlog⟩ := exists_run_restore env fd none
      { w with errno := e, dev := ⟨vs.length, 0, 0, carrierLog pkt vs⟩ }
    rw [decide_eq_false hcarrier]
    refine (congrArg (SendEnds env pkt fuel) hend).mpr (.busy hcarrier ⟨vs, [], ?_, hlen, hlast⟩)
    rw [hlog, sendLog, if_neg hcarrier, List.append_nil]

variable {env fd}

/-- Only the first poll that sees the end can end a wait with success. -/
theorem TxEnv.Transmits.le_of_waits {j k : ℕ} (h : env.Transmits j) (hwaits : env.Waits k) :
    k ≤ j :=
  Nat.le_of_not_lt fun hlt => (hwaits j hlt).1 h.1

/-- A send of a packet that fits reports success exactly when the channel is found clear and the
transmission is observed, it reports failure if not, once the clock has become late, and whenever it
returns, the log is that of one load, at most one transmission, and a radio that is set to idle and
flushed at the end. -/
theorem ttaRfSend_reports (env : TxEnv) (fd : Int) {pkt : Bytes} (hfit : pkt.length ≤ 127)
    (w : World TxDev) :
    (∀ fuel n w',
      (ttaRfSend (txOs env) fuel fd pkt).run { w with dev := .start } = .ok (some n, w') →
      n = pkt.length ∧ env.Carrier ∧ ∃ j, env.Transmits j) ∧
    (env.Carrier → ∀ j, env.Transmits j → ∀ fuel, j < fuel → ∃ w',
      (ttaRfSend (txOs env) fuel fd pkt).run { w with dev := .start } =
        .ok (some pkt.length, w')) ∧
    (¬env.Carrier → ∀ fuel, ∃ w',
      (ttaRfSend (txOs env) fuel fd pkt).run { w with dev := .start } = .ok (none, w')) ∧
    ((¬∃ j, env.Transmits j) → ∀ k, env.Late k → ∀ fuel, k < fuel → ∃ w',
      (ttaRfSend (txOs env) fuel fd pkt).run { w with dev := .start } = .ok (none, w')) ∧
    ∀ fuel res w', (ttaRfSend (txOs env) fuel fd pkt).run { w with dev := .start } = .ok (res, w') →
      SendLogged env pkt w'.dev.log := by
  refine ⟨fun fuel n w' h => ?_, fun hcarrier j hsent fuel hfuel => ?_, fun hcarrier fuel => ?_,
    fun hsent k hlate fuel hfuel => ?_, fun fuel res w' h => ?_⟩
  · have hends := sendEnds_ttaRfSend env fd hfit fuel w
    rw [h] at hends
    cases hends with
    | done hcarrier hwaits hdone _ =>
      exact ⟨rfl, hcarrier, _, hdone, fun k hk => (hwaits k hk).2⟩
  · have hends := sendEnds_ttaRfSend env fd hfit fuel w
    generalize (ttaRfSend (txOs env) fuel fd pkt).run { w with dev := .start } = x at hends
    cases hends with
    | busy hbusy _ => exact absurd hcarrier hbusy
    | fuel _ hwaits => exact absurd hsent.1 (hwaits j hfuel).1
    | done _ _ _ _ => exact ⟨_, rfl⟩
    | late _ hwaits hdone hlate _ =>
      rcases Nat.lt_or_eq_of_le (hsent.le_of_waits hwaits) with hlt | rfl
      · exact absurd hlate (hsent.2 _ hlt)
      · exact absurd hsent.1 hdone
  · have hends := sendEnds_ttaRfSend env fd hfit fuel w
    generalize (ttaRfSend (txOs env) fuel fd pkt).run { w with dev := .start } = x at hends
    cases hends with
    | busy _ _ => exact ⟨_, rfl⟩
    | fuel h _ => exact absurd h hcarrier
    | done h _ _ _ => exact absurd h hcarrier
    | late _ _ _ _ _ => exact ⟨_, rfl⟩
  · have hends := sendEnds_ttaRfSend env fd hfit fuel w
    generalize (ttaRfSend (txOs env) fuel fd pkt).run { w with dev := .start } = x at hends
    cases hends with
    | busy _ _ => exact ⟨_, rfl⟩
    | fuel _ hwaits => exact absurd hlate (hwaits k hfuel).2
    | done _ hwaits hdone _ => exact absurd ⟨_, hdone, fun k hk => (hwaits k hk).2⟩ hsent
    | late _ _ _ _ _ => exact ⟨_, rfl⟩
  · have hends := sendEnds_ttaRfSend env fd hfit fuel w
    rw [h] at hends
    cases hends with
    | busy _ hlog => exact hlog
    | done _ _ _ hlog => exact hlog
    | late _ _ _ _ hlog => exact hlog

/-- A radio that finds the channel clear at once, and whose pin is seen as given, with a clock that
stands. -/
def pinRadio (gpio : ℕ → UInt8) : TxEnv where
  rssi _ := 0x01
  gpio := gpio
  clock _ := ⟨0, 0⟩
  normal _ := show Timeval.Normal ⟨0, 0⟩ by decide
  inRange := show (0 : Int64) < Int64.maxValue by decide
  outcome _ := .ok ()
  junk _ := 0

/-- An RF context before the send. -/
def rfSends : World TxDev :=
  ⟨ttaNewRf "/dev/spidev1.0" 1 2 3 4, .other 0, List.Vector.replicate 128 0, 0, .start⟩

/-- A packet of three bytes is reported as sent when the pin is set at the second poll, and clear at
the third. -/
theorem ttaRfSend_reports_pulse : ∃ w',
    (ttaRfSend (txOs (pinRadio fun i => if i = 1 then 0x08 else 0)) 3 3 [1, 2, 3]).run rfSends =
      .ok (some 3, w') :=
  (ttaRfSend_reports (pinRadio fun i => if i = 1 then 0x08 else 0) 3
    (show ([1, 2, 3] : Bytes).length ≤ 127 by decide) rfSends).2.1 ⟨0, by decide, by decide⟩ 2
    ⟨⟨by decide, 1, by decide, by decide⟩, fun _ _ => by simp [TxEnv.Late, pinRadio]⟩ 3 (by decide)

/-- With a pin that is never set, and a clock that stands, no transmission is observed, and the send
does not return. -/
theorem not_ttaRfSend_reports :
    (∀ i, ((pinRadio fun _ => 0).clock i).micros ≤ ((pinRadio fun _ => 0).clock (i + 1)).micros) ∧
    (¬∃ j, (pinRadio fun _ => 0).Transmits j) ∧
    ¬∃ fuel res w', (ttaRfSend (txOs (pinRadio fun _ => 0)) fuel 3 [1, 2, 3]).run rfSends =
      .ok (res, w') := by
  have hdone (j : ℕ) : ¬(pinRadio fun _ => 0).Done j := by
    rintro ⟨-, i, -, hset⟩
    exact hset (UInt8.zero_and)
  have hlate (k : ℕ) : ¬(pinRadio fun _ => 0).Late k := by
    simp [TxEnv.Late, pinRadio]
  refine ⟨fun i => le_refl _, fun ⟨j, hsent⟩ => hdone j hsent.1, ?_⟩
  rintro ⟨fuel, res, w', h⟩
  have hends := sendEnds_ttaRfSend (pinRadio fun _ => 0) 3
    (show ([1, 2, 3] : Bytes).length ≤ 127 by decide) fuel rfSends
  rw [show { rfSends with dev := TxDev.start } = rfSends from rfl, h] at hends
  cases hends with
  | busy hbusy _ => exact hbusy ⟨0, by decide, by decide⟩
  | done _ _ hseen _ => exact hdone _ hseen
  | late _ _ _ hpassed _ => exact hlate _ hpassed

end Libtta
