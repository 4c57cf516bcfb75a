import Libtta.Receive.Checksum
import Libtta.Receive.Rxfifo

/-!
# What the radio shows

`_tta_rf_receive` as a function of what the radio shows it. `Os.rxPoll` is its wait: the polls of
`NUM_RXBYTES` and `MARCSTATE` up to the first that finds bytes in an idle radio. `RadioRead` is what
is read then, `RadioRead.taken` is what is taken from it to the static receive buffer, and
`rfReading` is what is read from there. `returned_ttaRfReceive` puts these together, for any
operating system.
-/

namespace Libtta

variable {σ : Type}

/-! ## The wait -/

/-- The answer of `NUM_RXBYTES` in a poll. -/
def Os.numRx (os : Os σ) (fd : Int) (d : σ) : UInt8 := (os.readReg fd Cc1120.NUM_RXBYTES d).1.1

/-- The device after the read of `NUM_RXBYTES` in a poll. -/
def Os.afterNumRx (os : Os σ) (fd : Int) (d : σ) : σ := (os.readReg fd Cc1120.NUM_RXBYTES d).2

/-- The answer of `MARCSTATE` in a poll. -/
def Os.marcState (os : Os σ) (fd : Int) (d : σ) : UInt8 :=
  (os.readReg fd Cc1120.MARCSTATE (os.afterNumRx fd d)).1.1

/-- The device after a poll. -/
def Os.afterPoll (os : Os σ) (fd : Int) (d : σ) : σ :=
  (os.readReg fd Cc1120.MARCSTATE (os.afterNumRx fd d)).2

/-- The device after a round of the wait. -/
def Os.afterRound (os : Os σ) (fd : Int) (d : σ) : σ :=
  (os.usleep 100000 (os.gettimeofday (os.afterPoll fd d)).2).2

/-- The wait for a radio packet: the number of bytes in the first poll that finds some in an idle
radio, with the device after it, or nothing when the deadline passes before. -/
def Os.rxPoll (os : Os σ) (fd : Int) (deadline : Timeval) : ℕ → σ → Except Stop (Option (UInt8 × σ))
  | 0, _ => .error .fuel
  | fuel + 1, d =>
    if 0 < os.numRx fd d ∧ os.marcState fd d = Cc1120.idle then
      .ok (some (os.numRx fd d, os.afterPoll fd d))
    else if deadline.past (os.gettimeofday (os.afterPoll fd d)).1 then
      .ok none
    else
      os.rxPoll fd deadline fuel (os.afterRound fd d)

/-- The wait only stops when its rounds are used up. -/
theorem eq_fuel_of_rxPoll {os : Os σ} {fd : Int} {deadline : Timeval} {fuel : ℕ} {d : σ} {s : Stop}
    (h : os.rxPoll fd deadline fuel d = .error s) : s = .fuel := by
  induction fuel generalizing d with
  | zero =>
    cases h
    rfl
  | succ fuel ih =>
    unfold Os.rxPoll at h
    split at h
    · cases h
    · split at h
      · cases h
      · exact ih h

/-- The wait ends with at least one byte. -/
theorem pos_of_rxPoll {os : Os σ} {fd : Int} {deadline : Timeval} {fuel : ℕ} {d d' : σ} {n : UInt8}
    (h : os.rxPoll fd deadline fuel d = .ok (some (n, d'))) : 0 < n := by
  induction fuel generalizing d with
  | zero => cases h
  | succ fuel ih =>
    unfold Os.rxPoll at h
    split at h
    · next hready =>
      cases h
      exact hready.1
    · split at h
      · cases h
      · exact ih h

/-- The loop of the receive function polls the radio, and takes the packet that the radio shows. The
induction is on the rounds that are left. -/
theorem run_waitRxPacket_eq (os : Os σ) (fd : Int) (deadline : Timeval) (fifo : Bytes) (fuel : ℕ)
    (w : World σ) :
    ∃ e d, (waitRxPacket os fd deadline fifo fuel).run w =
      match os.rxPoll fd deadline fuel w.dev with
      | .error s => .error s
      | .ok none => .ok (false, { w with dev := d, errno := e })
      | .ok (some (n, d')) => (takePacket os fd fifo n).run { w with dev := d', errno := e } := by
  induction fuel generalizing w with
  | zero => exact ⟨w.errno, w.dev, rfl⟩
  | succ fuel ih =>
    obtain ⟨e₁, h₁⟩ : ∃ e, (cc1120ReadSingle os fd Cc1120.NUM_RXBYTES).run w =
        .ok (os.numRx fd w.dev, { w with dev := os.afterNumRx fd w.dev, errno := e }) :=
      exists_run_sysAnswer _ w
    obtain ⟨e₂, h₂⟩ : ∃ e, (cc1120ReadSingle os fd Cc1120.MARCSTATE).run
        { w with dev := os.afterNumRx fd w.dev, errno := e₁ } =
        .ok (os.marcState fd w.dev, { w with dev := os.afterPoll fd w.dev, errno := e }) :=
      exists_run_sysAnswer _ _
    rw [waitRxPacket_succ, Exec.run_bind_of_ok h₁, Exec.run_bind_of_ok h₂, Os.rxPoll]
    by_cases hready : 0 < os.numRx fd w.dev ∧ os.marcState fd w.dev = Cc1120.idle
    · refine ⟨e₂, w.dev, ?_⟩
      rw [if_pos hready, if_pos hready]
    · rw [if_neg hready, if_neg hready, Exec.run_bind_of_ok (run_ask _ _)]
      by_cases hpast : deadline.past (os.gettimeofday (os.afterPoll fd w.dev)).1 = true
      · refine ⟨e₂, (os.gettimeofday (os.afterPoll fd w.dev)).2, ?_⟩
        rw [if_pos hpast, if_pos hpast]
        rfl
      · obtain ⟨e₃, h₃⟩ := exists_run_sys (os.usleep 100000)
          { w with dev := (os.gettimeofday (os.afterPoll fd w.dev)).2, errno := e₂ }
        obtain ⟨e, d, h⟩ := ih { w with dev := os.afterRound fd w.dev, errno := e₃ }
        refine ⟨e, d, ?_⟩
        rw [if_neg hpast, if_neg hpast]
        exact (Exec.run_bind_of_ok h₃).trans h

/-! ## What is taken from the receive FIFO -/

/-- What the radio shows in one call of the receive function: the number of bytes, the transfer
buffer they come in, and what the local array has held before. -/
structure RadioRead where
  numrx : UInt8
  spi : ℕ → UInt8
  array : Bytes
  length_array : array.length = 128

namespace RadioRead

/-- The local array with the bytes that have been read. -/
def fifo (p : RadioRead) : Bytes :=
  (List.range p.numrx.toNat).map p.spi ++ p.array.drop p.numrx.toNat

/-- The length byte of the radio packet. -/
def len (p : RadioRead) : UInt8 := p.spi 0

/-- The last byte that has been read, in which the CRC flag is looked for. -/
def status (p : RadioRead) : UInt8 := p.spi (p.numrx.toNat - 1)

/-- As many bytes as the length byte says, from behind it. -/
def payload (p : RadioRead) : Bytes := (p.fifo.drop 1).take p.len.toNat

/-- What is taken to the static receive buffer, if the CRC flag is set; the status bytes are looked
for from the end of what has been read. -/
def taken (p : RadioRead) : Except Stop (Option Bytes) :=
  if 128 < p.numrx.toNat then .error (.store .fifo)
  else if p.numrx < 2 then .error (.load .fifo)
  else if p.status &&& 0x80 = 0 then .ok none
  else if 127 < p.len.toNat then .error (.load .fifo)
  else .ok (some p.payload)

variable {p : RadioRead}

/-- As long as the bytes fit it, the local array keeps its size. -/
theorem length_fifo (hfit : p.numrx.toNat ≤ 128) : p.fifo.length = 128 := by
  have harray := p.length_array
  rw [fifo, List.length_append, List.length_map, List.length_range, List.length_drop]
  omega

/-- A byte that has been read stands in the local array. -/
theorem getElem?_fifo {i : ℕ} (hi : i < p.numrx.toNat) : p.fifo[i]? = some (p.spi i) := by
  rw [fifo, List.getElem?_append_left (by rw [List.length_map, List.length_range]; exact hi),
    List.getElem?_map, List.getElem?_range hi]
  rfl

/-- What is taken has the length of the length byte. -/
theorem length_payload (hfit : p.numrx.toNat ≤ 128) (hlen : p.len.toNat ≤ 127) :
    p.payload.length = p.len.toNat := by
  rw [payload, List.length_take, List.length_drop, length_fifo hfit]
  omega

/-- The local array is not left: the bytes fit it, there is one in front of the last, and if the CRC
flag is set, as many bytes as the length byte says lie behind it. -/
structure Inside (p : RadioRead) : Prop where
  two_le : 2 ≤ p.numrx.toNat
  le_array : p.numrx.toNat ≤ 128
  len_le : p.status &&& 0x80 ≠ 0 → p.len.toNat ≤ 127

/-- What becomes of the bytes that have been read. -/
inductive TakenEnd (p : RadioRead) : Except Stop (Option Bytes) → Prop where
  | outside {s : Stop} : s ≠ .fuel → ¬p.Inside → TakenEnd p (.error s)
  | bad : p.Inside → p.status &&& 0x80 = 0 → TakenEnd p (.ok none)
  | good : p.Inside → p.status &&& 0x80 ≠ 0 → TakenEnd p (.ok (some p.payload))

/-- The bytes are taken, or refused because of the CRC flag, as long as the local array is not
left. -/
theorem takenEnd (p : RadioRead) : p.TakenEnd p.taken := by
  unfold taken
  by_cases hfit : 128 < p.numrx.toNat
  · rw [if_pos hfit]
    exact .outside (by simp) fun h => absurd h.le_array (not_le.mpr hfit)
  rw [if_neg hfit]
  by_cases htwo : p.numrx < 2
  · rw [if_pos htwo]
    exact .outside (by simp) fun h => absurd h.two_le (not_le.mpr (UInt8.lt_iff_toNat_lt.mp htwo))
  rw [if_neg htwo]
  have hnumrx : 2 ≤ p.numrx.toNat := UInt8.le_iff_toNat_le.mp (UInt8.not_lt.mp htwo)
  by_cases hstatus : p.status &&& 0x80 = 0
  · rw [if_pos hstatus]
    exact .bad ⟨hnumrx, not_lt.mp hfit, absurd hstatus⟩ hstatus
  rw [if_neg hstatus]
  by_cases hlen : 127 < p.len.toNat
  · rw [if_pos hlen]
    exact .outside (by simp) fun h => absurd (h.len_le hstatus) (not_le.mpr hlen)
  · rw [if_neg hlen]
    exact .good ⟨hnumrx, not_lt.mp hfit, fun _ => not_lt.mp hlen⟩ hstatus

/-- Something is taken when the local array is not left and the CRC flag is set. -/
theorem taken_eq_some {p : RadioRead} (h : p.Inside) (hstatus : p.status &&& 0x80 ≠ 0) :
    p.taken = .ok (some p.payload) := by
  have hend := p.takenEnd
  generalize p.taken = x at hend
  cases hend with
  | outside _ hnot => exact absurd h hnot
  | bad _ hzero => exact absurd hzero hstatus
  | good => rfl

end RadioRead

/-- A read of the receive FIFO fills the local array from its front, when it has room. -/
theorem exists_run_cc1120FifoRead (os : Os σ) (fd : Int) (p : RadioRead) (w : World σ)
    (hspi : (os.fifoRead fd p.numrx w.dev).1.1 = p.spi) :
    ∃ e, (cc1120FifoRead os fd p.array p.numrx).run w =
      if p.numrx.toNat ≤ 128 then
        .ok (p.fifo, { w with dev := (os.fifoRead fd p.numrx w.dev).2, errno := e })
      else .error (.store .fifo) := by
  obtain ⟨e, h⟩ := exists_run_sysAnswer (os.fifoRead fd p.numrx) w
  have hlen : ((List.range p.numrx.toNat).map p.spi).length = p.numrx.toNat := by simp
  refine ⟨e, ?_⟩
  unfold cc1120FifoRead
  rw [Exec.run_bind_of_ok h, hspi]
  by_cases hfit : p.numrx.toNat ≤ 128
  · rw [if_pos hfit]
    refine Exec.run_access_of_some ((Buffer.store_zero ?_).trans ?_)
    · rw [hlen, p.length_array]
      exact hfit
    · rw [hlen]
      rfl
  · rw [if_neg hfit]
    refine Exec.run_access_of_none (Buffer.store_eq_none_iff.mpr ?_)
    rw [hlen, p.length_array]
    omega

/-- A block that fits the static receive buffer is put to its front. -/
theorem run_fillRxfifo_eq (bs : Bytes) (w : World σ) (hfit : bs.length ≤ 128) :
    ∃ v : List.Vector UInt8 128, v.1 = bs ++ w.rxfifo.1.drop bs.length ∧
      (fillRxfifo bs).run w = .ok ((), { w with rxfifo := v, rxfifoPos := 0 }) := by
  have hstore : Buffer.store w.rxfifo.1 0 bs = some (bs ++ w.rxfifo.1.drop bs.length) :=
    Buffer.store_zero (hfit.trans_eq w.rxfifo.2.symm)
  have hget : (get : Machine σ (World σ)).run w = .ok (w, w) := rfl
  refine ⟨⟨_, (Buffer.length_of_store hstore).trans w.rxfifo.2⟩, rfl, ?_⟩
  unfold fillRxfifo
  apply (Exec.run_bind_of_ok hget).trans
  exact (Exec.run_bind_of_ok (Exec.run_access_of_some (Buffer.storeVec_eq_some hstore))).trans rfl

/-- What is taken from the radio goes to the front of the static receive buffer. -/
theorem run_takePacket_eq (os : Os σ) (fd : Int) (p : RadioRead) (w : World σ)
    (hspi : (os.fifoRead fd p.numrx w.dev).1.1 = p.spi) :
    ∃ (e : Errno) (v : List.Vector UInt8 128),
      (∀ bs, p.taken = .ok (some bs) → v.1 = bs ++ w.rxfifo.1.drop bs.length) ∧
      (takePacket os fd p.array p.numrx).run w =
        match p.taken with
        | .error s => .error s
        | .ok none => .ok (false, { w with dev := (os.fifoRead fd p.numrx w.dev).2, errno := e })
        | .ok (some _) => .ok (true, { w with
            dev := (os.fifoRead fd p.numrx w.dev).2, errno := e, rxfifo := v,
            rxfifoPos := 0 }) := by
  obtain ⟨e, hread⟩ := exists_run_cc1120FifoRead os fd p w hspi
  unfold takePacket RadioRead.taken
  by_cases hfit : p.numrx.toNat ≤ 128
  swap
  · rw [if_neg hfit] at hread
    rw [if_pos (by omega)]
    exact ⟨e, w.rxfifo, (by rintro bs ⟨⟩), Exec.run_bind_of_error hread⟩
  rw [if_pos hfit] at hread
  rw [if_neg (by omega), Exec.run_bind_of_ok hread]
  by_cases htwo : p.numrx < 2
  · rw [if_pos htwo, if_pos htwo]
    exact ⟨e, w.rxfifo, (by rintro bs ⟨⟩), Exec.run_bind_of_error rfl⟩
  have hnumrx : 2 ≤ p.numrx.toNat := by
    have h := UInt8.le_iff_toNat_le.mp (UInt8.not_lt.mp htwo)
    exact h
  rw [if_neg htwo, if_neg htwo,
    Exec.run_bind_of_ok (Exec.run_access_of_some (RadioRead.getElem?_fifo (by omega))),
    Exec.run_bind_of_ok (Exec.run_access_of_some (RadioRead.getElem?_fifo (by omega)))]
  by_cases hstatus : p.status &&& 0x80 = 0
  · rw [if_pos hstatus]
    refine ⟨e, w.rxfifo, (by rintro bs ⟨⟩), ?_⟩
    exact congrArg (fun x => StateT.run x _) (if_neg (not_not.mpr hstatus))
  rw [if_neg hstatus]
  refine (?_ : ∃ (e : Errno) (v : List.Vector UInt8 128), _ ∧
    StateT.run (if p.status &&& 0x80 ≠ 0 then _ else _) _ = _)
  rw [if_pos hstatus,
    Exec.run_bind_of_ok (Exec.run_access_of_some (RadioRead.getElem?_fifo (by omega)))]
  by_cases hlen : 127 < p.len.toNat
  · rw [if_pos hlen]
    refine ⟨e, w.rxfifo, (by rintro bs ⟨⟩), Exec.run_bind_of_error ?_⟩
    refine Exec.run_access_of_none (if_neg ?_)
    rw [RadioRead.length_fifo hfit]
    change ¬1 + p.len.toNat ≤ 128
    omega
  rw [if_neg hlen]
  have hload : Buffer.load p.fifo 1 p.len.toNat = some p.payload := by
    refine if_pos ?_
    rw [RadioRead.length_fifo hfit]
    omega
  obtain ⟨v, hv, hfill⟩ := run_fillRxfifo_eq p.payload
    { w with dev := (os.fifoRead fd p.numrx w.dev).2, errno := e }
    (by rw [RadioRead.length_payload hfit (by omega)]; omega)
  refine ⟨e, v, (by rintro bs ⟨⟩; exact hv), ?_⟩
  exact (Exec.run_bind_of_ok (Exec.run_access_of_some hload)).trans
    ((Exec.run_bind_of_ok hfill).trans rfl)

/-! ## What is read from the static receive buffer -/

/-- The packet that a receive function returns, if it returns one. -/
def returned (r : Option ℕ × Bytes) : Option Bytes := r.1.map fun n => r.2.take n

/-- What is read from the front of the static receive buffer `s`. -/
def rfReading (s : Bytes) : Except Stop (Option Bytes) :=
  match BackendType.rf.framing.next s with
  | .short => .error (.load .rxfifo)
  | .long => .ok none
  | .frame f => .ok (if BackendType.rf.intact f then some f else none)

/-- What is behind a block in the static receive buffer is what has been there before. -/
theorem length_behind {bs : Bytes} (v : List.Vector UInt8 128) (hle : bs.length ≤ 128) :
    (bs ++ v.1.drop bs.length).length = 128 := by
  rw [List.length_append, List.length_drop, v.2]
  omega

/-- The length that the front of the static receive buffer announces. -/
theorem total_rf {s : Bytes} {d : UInt8} (hd : s[7]? = some d) :
    BackendType.rf.framing.total s = BackendType.rf.frameLength d.toNat := by
  obtain ⟨hlt, rfl⟩ := List.getElem?_eq_some_iff.mp hd
  obtain ⟨d, hdatalen, htotal⟩ := total_of_header (b := .rf) (List.take_append_drop 8 s)
    (by rw [List.length_take]; exact Nat.min_eq_left hlt)
  obtain rfl : s[7] = d := by
    rw [List.getElem?_take_of_lt (by decide)] at hdatalen
    exact Option.some.inj (hd.symm.trans hdatalen)
  rw [htotal, BackendType.frameLength]
  omega

/-- What is read is decided by the announced length, and by the checksums if the packet lies within
the buffer. -/
theorem rfReading_eq {s : Bytes} {d : UInt8} (hlen : s.length = 128) (hd : s[7]? = some d) :
    rfReading s =
      if 256 < BackendType.rf.frameLength d.toNat then .ok none
      else if 128 < BackendType.rf.frameLength d.toNat then .error (.load .rxfifo)
      else .ok (if BackendType.rf.intact (s.take (BackendType.rf.frameLength d.toNat))
        then some (s.take (BackendType.rf.frameLength d.toNat)) else none) := by
  have htotal := total_rf hd
  unfold rfReading
  by_cases hlong : 256 < BackendType.rf.frameLength d.toNat
  · rw [if_pos hlong, Framing.next_of_limit_lt (by rw [hlen]; decide) (by rw [htotal]; exact hlong)]
  rw [if_neg hlong]
  by_cases hshort : 128 < BackendType.rf.frameLength d.toNat
  · rw [if_pos hshort, Framing.next_of_length_lt_total (by rw [htotal]; exact not_lt.mp hlong)
      (by rw [htotal, hlen]; exact hshort)]
  · rw [if_neg hshort, Framing.next_of_total_le (by rw [htotal]; exact not_lt.mp hlong)
      (by rw [htotal, hlen]; exact not_lt.mp hshort), htotal]

/-- The reader reads the front of the static receive buffer. -/
theorem returned_ttaReceivePkt_rf (os : Os σ) (fuel : ℕ) {pkt : Bytes} (fgtimeout : Bool)
    {w : World σ} (hsize : BackendType.rf.maxAduLength ≤ pkt.length) (htype : w.ctx.type = .rf)
    (hread : w.rxfifoPos = 0) :
    ((ttaReceivePkt os fuel pkt fgtimeout).run w).map (fun r => returned r.1) =
      rfReading w.rxfifo.1 := by
  have hend := rfEnd_of_start os fuel pkt
    (if fgtimeout then some w.ctx.responseTimeout else none) hsize htype hread
  unfold ttaReceivePkt
  rw [Exec.run_bind_of_ok (run_getCtx w), htype]
  generalize hloop : (receiveLoop os fuel BackendType.rf.maxAduLength
    ⟨pkt, 0, BackendType.rf.headerLength, .hd,
      if fgtimeout then some w.ctx.responseTimeout else none⟩).run w = res at hend
  cases hend with
  | short hnext =>
    rw [rfReading, hnext, Exec.run_bind_of_error hloop]
    rfl
  | long hnext =>
    rw [rfReading, hnext, Exec.run_bind_of_ok hloop]
    rfl
  | @complete st f hnext hpre hcount _ =>
    have hlen : 2 ≤ f.length := by
      have hfour := four_le_length_of_isFrame (Framing.next_eq_frame_iff.mp hnext).1
      omega
    obtain ⟨w', hcheck, -⟩ := exists_run_checkIntegrity os fuel
      (w := { w with rxfifoPos := f.length }) (htype.trans_ne (by decide)) hpre hlen
    have hreading : rfReading w.rxfifo.1 =
        .ok (if BackendType.rf.intact f then some f else none) := by
      rw [rfReading, hnext]
    rw [← hcount] at hcheck hloop
    rw [hreading, Exec.run_bind_of_ok hloop]
    refine (congrArg (Except.map _) ((Exec.run_bind_of_ok hcheck).trans rfl)).trans ?_
    change Except.map _ (Except.ok
      ((if BackendType.rf.intact f then some st.pktlen else none, st.pkt),
      w')) = _
    by_cases hintact : BackendType.rf.intact f = true
    · rw [if_pos hintact, if_pos hintact, hcount]
      exact congrArg (fun bs => Except.ok (some bs)) (List.prefix_iff_eq_take.mp hpre).symm
    · rw [if_neg hintact, if_neg hintact]
      rfl

/-! ## The receive function -/

/-- The device when the wait for a radio packet begins. -/
def Os.rxStart (os : Os σ) (fd : Int) (d : σ) : σ :=
  (os.strobe fd Cc1120.SRX (os.strobe fd Cc1120.SFRX (os.strobe fd Cc1120.SIDLE
    (os.gettimeofday (os.garbage d).2).2).2).2).2

/-- The deadline of the wait for a radio packet. -/
def Os.rxDeadline (os : Os σ) (tv : Timeval) (d : σ) : Timeval :=
  ⟨(os.gettimeofday (os.garbage d).2).1.sec + tv.sec,
    (os.gettimeofday (os.garbage d).2).1.usec + tv.usec⟩

/-- What the radio shows in a call of the receive function, if it shows a packet in time. -/
def World.radioRead (os : Os σ) (fuel : ℕ) (w : World σ) : Except Stop (Option RadioRead) :=
  match os.rxPoll w.ctx.s (os.rxDeadline w.ctx.responseTimeout w.dev) fuel
    (os.rxStart w.ctx.s w.dev) with
  | .error s => .error s
  | .ok none => .ok none
  | .ok (some (n, d)) => .ok (some ⟨n, (os.fifoRead w.ctx.s n d).1.1,
      (List.range 128).map (os.garbage w.dev).1, by rw [List.length_map, List.length_range]⟩)

/-- The radio never makes a call stop before it shows something. -/
theorem eq_fuel_of_radioRead {os : Os σ} {fuel : ℕ} {w : World σ} {s : Stop}
    (h : w.radioRead os fuel = .error s) : s = .fuel := by
  unfold World.radioRead at h
  split at h
  · next hpoll =>
    cases h
    exact eq_fuel_of_rxPoll hpoll
  · cases h
  · cases h

/-- What a call returns that is shown `p`, with `rxfifo` in the static receive buffer before. -/
def RadioRead.reading (p : RadioRead) (rxfifo : Bytes) : Except Stop (Option Bytes) :=
  match p.taken with
  | .error s => .error s
  | .ok none => .ok none
  | .ok (some bs) => rfReading (bs ++ rxfifo.drop bs.length)

/-- What a call returns, with or without a packet from the radio. -/
def rfResult (rxfifo : Bytes) : Except Stop (Option RadioRead) → Except Stop (Option Bytes)
  | .error s => .error s
  | .ok none => .ok none
  | .ok (some p) => p.reading rxfifo

/-- The strobes behind a call do not change what it returns. -/
theorem returned_strobes (os : Os σ) (fd : Int) (x : Machine σ (Option ℕ × Bytes)) (w : World σ) :
    ((do
      let res ← x
      cc1120Strobe os fd Cc1120.SIDLE
      cc1120Strobe os fd Cc1120.SFRX
      return res : Machine σ (Option ℕ × Bytes)).run w).map (fun r => returned r.1) =
      (x.run w).map fun r => returned r.1 := by
  cases hx : x.run w with
  | error s => rw [Exec.run_bind_of_error hx]
  | ok r =>
    obtain ⟨res, w₁⟩ := r
    obtain ⟨e₁, h₁⟩ := exists_run_cc1120Strobe os fd Cc1120.SIDLE w₁
    obtain ⟨e₂, h₂⟩ := exists_run_cc1120Strobe os fd Cc1120.SFRX
      { w₁ with dev := (os.strobe fd Cc1120.SIDLE w₁.dev).2, errno := e₁ }
    rw [Exec.run_bind_of_ok hx, Exec.run_bind_of_ok h₁, Exec.run_bind_of_ok h₂]
    rfl

/-- Without a confirmation to ignore, the receive function returns what the reader returns. -/
theorem returned_receiveUnlessIgnored_rf (os : Os σ) (fuel : ℕ) {pkt : Bytes} (fgtimeout : Bool)
    {w : World σ} (hsize : BackendType.rf.maxAduLength ≤ pkt.length) (htype : w.ctx.type = .rf)
    (hflag : w.ctx.backend.confirmationToIgnore = false) (hread : w.rxfifoPos = 0) :
    ((receiveUnlessIgnored os fuel pkt fgtimeout).run w).map (fun r => returned r.1) =
      rfReading w.rxfifo.1 := by
  rw [← returned_ttaReceivePkt_rf os fuel fgtimeout hsize htype hread]
  unfold receiveUnlessIgnored
  rw [Exec.run_bind_of_ok (run_getCtx w), hflag]
  cases hrun : (ttaReceivePkt os fuel pkt fgtimeout).run w with
  | error s => exact congrArg (Except.map _) (Exec.run_bind_of_error hrun)
  | ok r =>
    obtain ⟨⟨rc, pkt'⟩, w'⟩ := r
    refine (congrArg (Except.map _) (Exec.run_bind_of_ok hrun)).trans ?_
    by_cases hrc : rc = some 0
    · refine (congrArg (fun x => Except.map _ (StateT.run x w')) (if_pos hrc)).trans ?_
      rfl
    · refine (congrArg (fun x => Except.map _ (StateT.run x w')) (if_neg hrc)).trans ?_
      rfl

/-- What comes before the wait of the receive function. -/
theorem exists_run_ttaRfReceive (os : Os σ) (fuel : ℕ) (pkt : Bytes) (fgtimeout : Bool)
    (w : World σ) : ∃ e, (ttaRfReceive os fuel pkt fgtimeout).run w = (do
      let res ←
        if ← waitRxPacket os w.ctx.s (os.rxDeadline w.ctx.responseTimeout w.dev)
            ((List.range 128).map (os.garbage w.dev).1) fuel then
          receiveUnlessIgnored os fuel pkt fgtimeout
        else
          pure (none, pkt)
      cc1120Strobe os w.ctx.s Cc1120.SIDLE
      cc1120Strobe os w.ctx.s Cc1120.SFRX
      return res : Machine σ (Option ℕ × Bytes)).run
        { w with dev := os.rxStart w.ctx.s w.dev, errno := e } := by
  obtain ⟨e₁, h₁⟩ := exists_run_cc1120Strobe os w.ctx.s Cc1120.SIDLE
    { w with dev := (os.gettimeofday (os.garbage w.dev).2).2 }
  obtain ⟨e₂, h₂⟩ := exists_run_cc1120Strobe os w.ctx.s Cc1120.SFRX
    { w with dev := (os.strobe w.ctx.s Cc1120.SIDLE (os.gettimeofday (os.garbage w.dev).2).2).2,
             errno := e₁ }
  obtain ⟨e₃, h₃⟩ := exists_run_cc1120Strobe os w.ctx.s Cc1120.SRX
    { w with dev := (os.strobe w.ctx.s Cc1120.SFRX (os.strobe w.ctx.s Cc1120.SIDLE
               (os.gettimeofday (os.garbage w.dev).2).2).2).2,
             errno := e₂ }
  have hgarbage : (uninit os 128).run w = .ok ((List.range 128).map (os.garbage w.dev).1,
      { w with dev := (os.garbage w.dev).2 }) := rfl
  refine ⟨e₃, ?_⟩
  unfold ttaRfReceive
  rw [Exec.run_bind_of_ok (run_getCtx w), Exec.run_bind_of_ok hgarbage,
    Exec.run_bind_of_ok (run_ask _ _), Exec.run_bind_of_ok h₁, Exec.run_bind_of_ok h₂,
    Exec.run_bind_of_ok h₃]
  rfl

/-- The receive function returns what the radio shows it, read through the static receive buffer. -/
theorem returned_ttaRfReceive (os : Os σ) (fuel : ℕ) {pkt : Bytes} (fgtimeout : Bool)
    {w : World σ} (hsize : BackendType.rf.maxAduLength ≤ pkt.length) (htype : w.ctx.type = .rf)
    (hflag : w.ctx.backend.confirmationToIgnore = false) :
    ((ttaRfReceive os fuel pkt fgtimeout).run w).map (fun r => returned r.1) =
      rfResult w.rxfifo.1 (w.radioRead os fuel) := by
  obtain ⟨e₃, hstart⟩ := exists_run_ttaRfReceive os fuel pkt fgtimeout w
  obtain ⟨e, d, hwait⟩ := run_waitRxPacket_eq os w.ctx.s
    (os.rxDeadline w.ctx.responseTimeout w.dev) ((List.range 128).map (os.garbage w.dev).1) fuel
    { w with dev := os.rxStart w.ctx.s w.dev, errno := e₃ }
  rw [hstart]
  unfold World.radioRead
  cases hpoll : os.rxPoll w.ctx.s (os.rxDeadline w.ctx.responseTimeout w.dev) fuel
      (os.rxStart w.ctx.s w.dev) with
  | error s =>
    simp only [hpoll] at hwait
    exact congrArg (Except.map _) (Exec.run_bind_of_error hwait)
  | ok shown =>
    cases shown with
    | none =>
      simp only [hpoll] at hwait
      refine (congrArg (Except.map _) (Exec.run_bind_of_ok hwait)).trans ?_
      exact returned_strobes os w.ctx.s (pure (none, pkt)) _
    | some shown =>
      obtain ⟨n, d'⟩ := shown
      simp only [hpoll] at hwait
      set p : RadioRead := ⟨n, (os.fifoRead w.ctx.s n d').1.1,
        (List.range 128).map (os.garbage w.dev).1, by rw [List.length_map, List.length_range]⟩
      obtain ⟨e', v, hv, htake⟩ :=
        run_takePacket_eq os w.ctx.s p { w with dev := d', errno := e } rfl
      change _ = p.reading w.rxfifo.1
      unfold RadioRead.reading
      cases htaken : p.taken with
      | error s =>
        simp only [htaken] at htake
        exact congrArg (Except.map _) (Exec.run_bind_of_error (hwait.trans htake))
      | ok block =>
        cases block with
        | none =>
          simp only [htaken] at htake
          refine (congrArg (Except.map _) (Exec.run_bind_of_ok (hwait.trans htake))).trans ?_
          exact returned_strobes os w.ctx.s (pure (none, pkt)) _
        | some bs =>
          simp only [htaken] at htake
          refine (congrArg (Except.map _) (Exec.run_bind_of_ok (hwait.trans htake))).trans ?_
          refine (returned_strobes os w.ctx.s
            (receiveUnlessIgnored os fuel pkt fgtimeout) _).trans ?_
          refine (returned_receiveUnlessIgnored_rf os fuel fgtimeout
            (w := { w with
              dev := (os.fifoRead w.ctx.s n d').2, errno := e', rxfifo := v, rxfifoPos := 0 })
            hsize htype hflag rfl).trans ?_
          exact congrArg rfReading (hv bs htaken)

end Libtta
