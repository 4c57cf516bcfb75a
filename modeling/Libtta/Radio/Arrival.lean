import Libtta.Radio.Poll
import Libtta.Radio.Radio
import Libtta.Receive.Received

/-!
# A radio packet that arrives during the wait

A radio packet arrives byte by byte while the driver polls `NUM_RXBYTES` and `MARCSTATE`, one after
the other. Between the two reads more bytes may arrive, so the count may be that of a part of the
packet while the radio is seen idle. The CRC flag is then looked for in the last byte of that part,
which may be any byte of the packet.
-/

namespace Libtta

variable {σ : Type}

/-! ## The radio -/

/-- The bytes of a radio packet: the length byte, the payload and the two status bytes. -/
def airPacket (payload : Bytes) (rssi lqi : UInt8) : Bytes :=
  UInt8.ofNat payload.length :: payload ++ [rssi, lqi]

/-- The radio receives the packet `p`: bytes arrive at any time between the reads of the driver, and
`count` of them have arrived. `NUM_RXBYTES` counts them, a read of the receive FIFO gives them, and
the radio is seen idle only when the packet is complete. -/
structure Arrives (os : Os σ) (p : Bytes) (count : σ → ℕ) : Prop where
  count_le : ∀ d, count d ≤ p.length
  numRx : ∀ fd d, (os.readReg fd Cc1120.NUM_RXBYTES d).1.1.toNat = count d
  complete : ∀ fd d, (os.readReg fd Cc1120.MARCSTATE d).1.1 = Cc1120.idle → count d = p.length
  more : ∀ fd addr d, count d ≤ count (os.readReg fd addr d).2
  fifoRead : ∀ fd n d i, i < n.toNat → i < count d →
    p[i]? = some ((os.fifoRead fd n d).1.1 i)

/-- A packet that the wait finds is complete by then, and the bytes that were counted are of it. -/
theorem Arrives.of_rxPoll {os : Os σ} {p : Bytes} {count : σ → ℕ} (hos : Arrives os p count)
    {fd : Int} {deadline : Timeval} {fuel : ℕ} {d d' : σ} {n : UInt8}
    (h : os.rxPoll fd deadline fuel d = .ok (some (n, d'))) :
    n.toNat ≤ p.length ∧ count d' = p.length := by
  induction fuel generalizing d with
  | zero => cases h
  | succ fuel ih =>
    unfold Os.rxPoll at h
    split at h
    · next hready =>
      cases h
      have hcount : (os.numRx fd d).toNat = count d := hos.numRx fd d
      have hcomplete : count (os.afterNumRx fd d) = p.length := hos.complete fd _ hready.2
      have hmore : count (os.afterNumRx fd d) ≤ count (os.afterPoll fd d) := hos.more fd _ _
      exact ⟨hcount ▸ hos.count_le d, le_antisymm (hos.count_le _) (hcomplete ▸ hmore)⟩
    · split at h
      · cases h
      · exact ih h

/-- A record of the calls changes nothing of the wait. -/
theorem rxPoll_traced (os : Os σ) (fd : Int) (deadline : Timeval) (fuel : ℕ)
    (d : σ × List Event) :
    ∃ log, os.traced.rxPoll fd deadline fuel d =
      match os.rxPoll fd deadline fuel d.1 with
      | .error s => .error s
      | .ok none => .ok none
      | .ok (some (n, d')) => .ok (some (n, d', log)) := by
  induction fuel generalizing d with
  | zero => exact ⟨[], rfl⟩
  | succ fuel ih =>
    obtain ⟨log, h⟩ := ih (os.traced.afterRound fd d)
    have hnum : os.traced.numRx fd d = os.numRx fd d.1 := rfl
    have hstate : os.traced.marcState fd d = os.marcState fd d.1 := rfl
    have htime : (os.traced.gettimeofday (os.traced.afterPoll fd d)).1 =
        (os.gettimeofday (os.afterPoll fd d.1)).1 := rfl
    unfold Os.rxPoll
    rw [hnum, hstate, htime]
    by_cases hready : 0 < os.numRx fd d.1 ∧ os.marcState fd d.1 = Cc1120.idle
    · refine ⟨(os.traced.afterPoll fd d).2, ?_⟩
      rw [if_pos hready, if_pos hready]
      rfl
    · rw [if_neg hready, if_neg hready]
      by_cases hpast : deadline.past (os.gettimeofday (os.afterPoll fd d.1)).1 = true
      · refine ⟨[], ?_⟩
        rw [if_pos hpast, if_pos hpast]
      · refine ⟨log, ?_⟩
        rw [if_neg hpast, if_neg hpast]
        exact h

/-! ## What is taken -/

/-- The wait takes the packet `p` as a whole only: when it has moved something to the static receive
buffer, the bytes that it has read from the receive FIFO are all bytes of `p`, so that the flag it
has looked at is the one in the last status byte of `p`, and this says that the CRC is good. -/
def TakesWhole (os : Os σ) (p : Bytes) (fd : Int) (deadline : Timeval) (fifo : Bytes)
    (w : Traced σ) : Prop :=
  ∀ fuel w', (waitRxPacket os.traced fd deadline fifo fuel).run w = .ok (true, w') →
    (∃ failure, w'.log.head? = some (.fifoRead p failure)) ∧ crcGood p = true

/-- The bytes of the receive FIFO that are read when `n` of them have been counted. -/
theorem Arrives.map_spi {os : Os σ} {p : Bytes} {count : σ → ℕ} (hos : Arrives os p count)
    (fd : Int) {n : UInt8} {d : σ} (hn : n.toNat ≤ p.length) (hd : count d = p.length) :
    (List.range n.toNat).map (os.fifoRead fd n d).1.1 = p.take n.toNat := by
  refine List.ext_getElem? fun i => ?_
  by_cases hi : i < n.toNat
  · rw [List.getElem?_map, List.getElem?_range hi, List.getElem?_take_of_lt hi]
    exact (hos.fifoRead fd n d i hi (by omega)).symm
  · rw [List.getElem?_eq_none (by rw [List.length_map, List.length_range]; omega),
      List.getElem?_eq_none (by rw [List.length_take]; omega)]

/-- The wait that takes something has found a packet, and ends with the read of its bytes. -/
theorem exists_poll_of_waitRxPacket {os : Os σ} {fd : Int} {deadline : Timeval} {fifo : Bytes}
    (hfifo : fifo.length = 128) {fuel : ℕ} {w w' : Traced σ}
    (h : (waitRxPacket os.traced fd deadline fifo fuel).run w = .ok (true, w')) :
    ∃ n d, os.rxPoll fd deadline fuel w.dev.1 = .ok (some (n, d)) ∧
      (∃ bs, (RadioRead.mk n (os.fifoRead fd n d).1.1 fifo hfifo).taken = .ok (some bs)) ∧
      ∃ failure, w'.log.head? =
        some (.fifoRead ((List.range n.toNat).map (os.fifoRead fd n d).1.1) failure) := by
  obtain ⟨log, hpoll⟩ := rxPoll_traced os fd deadline fuel w.dev
  obtain ⟨e, d₁, hwait⟩ := run_waitRxPacket_eq os.traced fd deadline fifo fuel w
  rw [hpoll] at hwait
  cases hshown : os.rxPoll fd deadline fuel w.dev.1 with
  | error s =>
    simp only [hshown] at hwait
    cases hwait.symm.trans h
  | ok shown =>
    cases shown with
    | none =>
      simp only [hshown] at hwait
      cases hwait.symm.trans h
    | some shown =>
      obtain ⟨n, d⟩ := shown
      simp only [hshown] at hwait
      set p : RadioRead := ⟨n, (os.fifoRead fd n d).1.1, fifo, hfifo⟩
      obtain ⟨e', v, -, htake⟩ := run_takePacket_eq os.traced fd p
        { w with dev := (d, log), errno := e } rfl
      refine ⟨n, d, rfl, ?_⟩
      replace htake := (hwait.trans htake).symm.trans h
      cases htaken : p.taken with
      | error s =>
        simp only [htaken] at htake
        cases htake
      | ok block =>
        cases block with
        | none =>
          simp only [htaken] at htake
          cases htake
        | some bs =>
          simp only [htaken] at htake
          cases htake
          exact ⟨⟨bs, rfl⟩, _, rfl⟩

/-- The wait that finds a packet of which something is taken, takes it. -/
theorem exists_run_of_taken {os : Os σ} {fd : Int} {deadline : Timeval} {fifo bs : Bytes}
    (hfifo : fifo.length = 128) {fuel : ℕ} {w : Traced σ} {n : UInt8} {d : σ}
    (hpoll : os.rxPoll fd deadline fuel w.dev.1 = .ok (some (n, d)))
    (htaken : (RadioRead.mk n (os.fifoRead fd n d).1.1 fifo hfifo).taken = .ok (some bs)) :
    ∃ w', (waitRxPacket os.traced fd deadline fifo fuel).run w = .ok (true, w') := by
  obtain ⟨log, htraced⟩ := rxPoll_traced os fd deadline fuel w.dev
  obtain ⟨e, d₁, hwait⟩ := run_waitRxPacket_eq os.traced fd deadline fifo fuel w
  obtain ⟨e', v, -, htake⟩ := run_takePacket_eq os.traced fd
    ⟨n, (os.fifoRead fd n d).1.1, fifo, hfifo⟩ { w with dev := (d, log), errno := e } rfl
  rw [htraced] at hwait
  simp only [hpoll] at hwait
  simp only [htaken] at htake
  exact ⟨_, hwait.trans htake⟩

/-- The byte in front of a packet counts its payload. -/
theorem toNat_len_airPacket {payload : Bytes} (hfit : payload.length ≤ 125) :
    (UInt8.ofNat payload.length).toNat = payload.length := by
  rw [UInt8.toNat_ofNat']
  omega

/-- A byte below 128 does not have the CRC flag set. -/
theorem and_crcFlag_of_lt {b : UInt8} (h : b.toNat < 128) : b &&& 0x80 = 0 := by
  apply UInt8.toNat_inj.mp
  rw [UInt8.toNat_and]
  exact (Nat.and_two_pow b.toNat 7).trans (by rw [Nat.testBit_lt_two_pow h]; rfl)

/-- The flag that is tested is the one in the last byte that has been read. -/
theorem crcGood_take {p : Bytes} {n : ℕ} {b : UInt8} (hn : 0 < n) (hb : p[n - 1]? = some b) :
    crcGood (p.take n) = (b &&& 0x80 != 0) := by
  have hlt := (List.getElem?_eq_some_iff.mp hb).1
  have hlast : (p.take n).getLast? = some b := by
    rw [List.getLast?_eq_getElem?, List.length_take, Nat.min_eq_left (by omega),
      List.getElem?_take_of_lt (by omega), hb]
  rw [crcGood, hlast]
  rfl

/-- The bytes that have been counted are taken when the last one of them has bit 7 set: it is not
the length byte, which is below 128. -/
theorem taken_of_counted {os : Os σ} {payload : Bytes} {rssi lqi : UInt8} {count : σ → ℕ}
    (hos : Arrives os (airPacket payload rssi lqi) count) (hfit : payload.length ≤ 125) {fd : Int}
    {deadline : Timeval} {fifo : Bytes} (hfifo : fifo.length = 128) {fuel : ℕ} {d₀ d : σ}
    {n : UInt8}
    (hpoll : os.rxPoll fd deadline fuel d₀ = .ok (some (n, d)))
    (hgood : crcGood ((airPacket payload rssi lqi).take n.toNat) = true) :
    (RadioRead.mk n (os.fifoRead fd n d).1.1 fifo hfifo).taken =
      .ok (some (RadioRead.mk n (os.fifoRead fd n d).1.1 fifo hfifo).payload) := by
  set p := airPacket payload rssi lqi with hp
  have hlen : p.length = payload.length + 3 := by
    rw [hp, airPacket]
    simp
  have hzero : p[0]? = some (UInt8.ofNat payload.length) := rfl
  have hbit : UInt8.ofNat payload.length &&& 0x80 = 0 :=
    and_crcFlag_of_lt (by rw [toNat_len_airPacket hfit]; omega)
  obtain ⟨hn, hd⟩ := hos.of_rxPoll hpoll
  have hpos : 0 < n.toNat := UInt8.lt_iff_toNat_lt.mp (pos_of_rxPoll hpoll)
  obtain ⟨b, hb⟩ : ∃ b, p[n.toNat - 1]? = some b :=
    ⟨_, List.getElem?_eq_getElem (by omega)⟩
  have hstatus : b &&& 0x80 ≠ 0 := by
    rw [crcGood_take hpos hb] at hgood
    exact bne_iff_ne.mp hgood
  have htwo : 2 ≤ n.toNat := by
    by_contra hlt
    rw [show n.toNat - 1 = 0 by omega, hzero] at hb
    exact hstatus (Option.some.inj hb ▸ hbit)
  have hspi (i : ℕ) (hi : i < n.toNat) {c : UInt8} (hc : p[i]? = some c) :
      (os.fifoRead fd n d).1.1 i = c :=
    Option.some.inj ((hos.fifoRead fd n d i hi (by omega)).symm.trans hc)
  refine RadioRead.taken_eq_some ⟨htwo, (by change n.toNat ≤ 128; omega), fun _ => ?_⟩ ?_
  · change ((os.fifoRead fd n d).1.1 0).toNat ≤ 127
    rw [hspi 0 hpos hzero, toNat_len_airPacket hfit]
    omega
  · change (os.fifoRead fd n d).1.1 (n.toNat - 1) &&& 0x80 ≠ 0
    rw [hspi _ (by omega) hb]
    exact hstatus

/-- A packet that arrives during the wait is only taken as a whole exactly when, in the poll that
finds it in an idle radio, all its bytes have been counted, or the last one counted has bit 7
clear. -/
theorem takesWhole_iff {os : Os σ} {payload : Bytes} {rssi lqi : UInt8} {count : σ → ℕ}
    (hos : Arrives os (airPacket payload rssi lqi) count) (hfit : payload.length ≤ 125) (fd : Int)
    (deadline : Timeval) {fifo : Bytes} (hfifo : fifo.length = 128) (w : Traced σ) :
    TakesWhole os (airPacket payload rssi lqi) fd deadline fifo w ↔
      ∀ fuel n d, os.rxPoll fd deadline fuel w.dev.1 = .ok (some (n, d)) →
        n.toNat = payload.length + 3 ∨
          crcGood ((airPacket payload rssi lqi).take n.toNat) = false := by
  set p := airPacket payload rssi lqi with hp
  have hlen : p.length = payload.length + 3 := by
    rw [hp, airPacket]
    simp
  constructor
  · intro h fuel n d hpoll
    by_contra hnot
    obtain ⟨hpart, hgood⟩ := not_or.mp hnot
    obtain ⟨hn, hd⟩ := hos.of_rxPoll hpoll
    have htaken := taken_of_counted hos hfit hfifo hpoll (Bool.not_eq_false _ ▸ hgood)
    obtain ⟨w', hrun⟩ := exists_run_of_taken hfifo hpoll htaken
    obtain ⟨⟨failure, hlog⟩, -⟩ := h fuel w' hrun
    obtain ⟨n', d', hpoll', -, failure', hlog'⟩ := exists_poll_of_waitRxPacket hfifo hrun
    cases hpoll.symm.trans hpoll'
    rw [hos.map_spi fd hn hd] at hlog'
    have hsame : p = p.take n.toNat :=
      (Event.fifoRead.inj (Option.some.inj (hlog.symm.trans hlog'))).1
    have hshort := congrArg List.length hsame
    rw [List.length_take, hlen] at hshort
    omega
  · intro h fuel w' hrun
    obtain ⟨n, d, hpoll, ⟨bs, htaken⟩, failure, hlog⟩ := exists_poll_of_waitRxPacket hfifo hrun
    obtain ⟨hn, hd⟩ := hos.of_rxPoll hpoll
    have hend := (RadioRead.mk n (os.fifoRead fd n d).1.1 fifo hfifo).takenEnd
    rw [htaken] at hend
    obtain ⟨htwo, hstatus⟩ :
        2 ≤ n.toNat ∧ (os.fifoRead fd n d).1.1 (n.toNat - 1) &&& 0x80 ≠ 0 := by
      cases hend with
      | good hinside hstatus => exact ⟨hinside.two_le, hstatus⟩
    have hb := hos.fifoRead fd n d (n.toNat - 1) (by omega) (by omega)
    have hgood : crcGood (p.take n.toNat) = true := by
      rw [crcGood_take (by omega) hb]
      exact bne_iff_ne.mpr hstatus
    rw [hos.map_spi fd hn hd] at hlog
    rcases h fuel n d hpoll with hwhole | hbad
    · rw [List.take_of_length_le (by omega)] at hlog hgood
      exact ⟨⟨failure, hlog⟩, hgood⟩
    · cases hgood.symm.trans hbad

/-! ## A radio whose packet arrives in bursts -/

/-- The state of a radio that receives one packet: how many of its bytes have arrived, and how many
arrive with each of the next reads of a register. -/
structure Airing where
  arrived : ℕ
  bursts : List ℕ

/-- The operating system with a radio that receives the packet `p`. -/
def airingOs (p : Bytes) : Os Airing where
  readReg _ addr d := ((if addr = Cc1120.NUM_RXBYTES then UInt8.ofNat (min d.arrived p.length)
    else if addr = Cc1120.MARCSTATE ∧ p.length ≤ d.arrived then Cc1120.idle else 0, .ok ()),
    ⟨d.arrived + d.bursts.headD 0, d.bursts.tail⟩)
  fifoRead _ _ d := ((fun i => p.getD i 0, .ok ()), d)

/-- The radio receives the packet. -/
theorem arrives_airingOs {p : Bytes} (hfit : p.length ≤ 128) :
    Arrives (airingOs p) p (fun d => min d.arrived p.length) where
  count_le d := Nat.min_le_right _ _
  numRx fd d := by
    have hnum : ((airingOs p).readReg fd Cc1120.NUM_RXBYTES d).1.1 =
        UInt8.ofNat (min d.arrived p.length) := rfl
    rw [hnum, UInt8.toNat_ofNat']
    omega
  complete fd d h := by
    by_cases hall : p.length ≤ d.arrived
    · exact Nat.min_eq_right hall
    · change (if Cc1120.MARCSTATE = Cc1120.NUM_RXBYTES then UInt8.ofNat (min d.arrived p.length)
        else if Cc1120.MARCSTATE = Cc1120.MARCSTATE ∧ p.length ≤ d.arrived then Cc1120.idle
        else 0) = Cc1120.idle at h
      rw [if_neg (by decide), if_neg fun h => hall h.2] at h
      exact absurd h (by decide)
  more fd addr d := by
    change min d.arrived p.length ≤ min (d.arrived + d.bursts.headD 0) p.length
    omega
  fifoRead fd n d i _ hi := by
    have hlt : i < p.length := by omega
    change p[i]? = some (p.getD i 0)
    rw [List.getD_eq_getElem _ _ hlt, List.getElem?_eq_getElem hlt]

/-- An RF context whose radio receives a packet. -/
def airingStart (arrived : ℕ) (bursts : List ℕ) : Traced Airing :=
  ⟨ttaNewRf "/dev/spidev1.0" 1 2 3 4, .other 0, List.Vector.replicate 128 0, 0,
    ⟨arrived, bursts⟩, []⟩

/-- A packet of which the last bytes arrive behind a poll that does not find the radio idle is taken
as a whole. -/
theorem takesWhole_iff_burst :
    TakesWhole (airingOs (airPacket [1, 2, 3, 4, 1, 0, 0x10, 0, 0x15, 0x30] 0 0x80))
      (airPacket [1, 2, 3, 4, 1, 0, 0x10, 0, 0x15, 0x30] 0 0x80) 3 ⟨0, 500000⟩
      (List.replicate 128 0) (airingStart 5 [0, 8]) := by
  refine (takesWhole_iff (arrives_airingOs (by decide)) (by decide) 3 _ List.length_replicate
    _).mpr fun fuel n d h => .inl ?_
  match fuel with
  | 0 => cases h
  | 1 => cases h
  | fuel + 2 =>
    cases h
    rfl

/-- When the last bytes of a packet with a bad CRC arrive between the two reads of a poll, a part of
the packet is taken. -/
theorem not_takesWhole :
    ¬TakesWhole (airingOs (airPacket [1, 0x80, 3, 4, 1, 0, 0x10, 0, 0x97, 0x32] 0 0))
      (airPacket [1, 0x80, 3, 4, 1, 0, 0x10, 0, 0x97, 0x32] 0 0) 3 ⟨0, 500000⟩
      (List.replicate 128 0) (airingStart 3 [10]) := by
  intro h
  have hrun : ((waitRxPacket (airingOs (airPacket
      [1, 0x80, 3, 4, 1, 0, 0x10, 0, 0x97, 0x32] 0 0)).traced 3 ⟨0, 500000⟩
      (List.replicate 128 0) 1).run (airingStart 3 [10])).map (fun r => (r.1, r.2.log.head?)) =
        .ok (true, some (.fifoRead [10, 1, 0x80] none)) := by
    decide +kernel
  obtain ⟨⟨got, w'⟩, hrun, hr⟩ := Exec.exists_of_map_eq_ok hrun
  obtain ⟨rfl, -⟩ := Prod.mk.inj hr
  exact absurd (h 1 w' hrun).2 (by decide)

end Libtta
