import Libtta.Receive.Message

/-!
# A radio in range of another

`radioOs` is an operating system with a radio chip on which nothing goes wrong: the channel is
clear, a packet written to the transmit FIFO is sent, and the clock stands still. The chip itself
has limits: its receive FIFO holds 128 bytes, among them the length byte in front of a packet and
the two status bytes behind it, and a packet that does not fit leaves the chip in its error state.
-/

namespace Libtta

/-! ## The chip -/

/-- A radio chip, as far as the library looks at it. -/
structure Radio where
  /-- What has been written to the transmit FIFO. -/
  tx : Bytes
  /-- What has arrived: the length byte, the packet and the two status bytes. -/
  rx : Bytes
  /-- Has the last poll seen the sync pin set? -/
  synced : Bool
  /-- The content of uninitialised memory. -/
  junk : ℕ → UInt8

/-- `MARCSTATE` after the receive FIFO has overflowed. -/
def Cc1120.rxFifoErr : UInt8 := 0x11

/-- The registers of the chip: the channel is clear, the sync pin is seen set and clear by turns,
and a packet that has arrived either fits the 128 bytes of the receive FIFO or makes it overflow. -/
def Radio.readReg (addr : UInt16) (d : Radio) : UInt8 × Radio :=
  if addr = Cc1120.RSSI0 then (1, d)
  else if addr = Cc1120.GPIO_STATUS then
    (if d.synced then 0 else 8, { d with synced := !d.synced })
  else if addr = Cc1120.NUM_RXBYTES then (UInt8.ofNat (min d.rx.length 128), d)
  else if addr = Cc1120.MARCSTATE then
    (if d.rx.length ≤ 128 then Cc1120.idle else Cc1120.rxFifoErr, d)
  else (0, d)

/-- The operating system with the chip. -/
def radioOs : Os Radio where
  garbage d := (d.junk, d)
  readReg _ addr d := (((d.readReg addr).1, .ok ()), (d.readReg addr).2)
  fifoRead _ _ d := ((fun i => d.rx.getD i 0, .ok ()), d)
  fifoWrite _ bs d := (.ok (), { d with tx := bs })

/-- What arrives at a radio when another one sends: two status bytes follow, of which the second
says that the CRC is good. -/
def Radio.onAir (d : Radio) : Bytes := d.tx ++ [0, 0x80]

/-- One end of an RF link, with a fresh context. -/
def rfEnd : World Radio :=
  ⟨ttaNewRf "/dev/spidev1.0" 1 2 3 4, .other 0, List.Vector.replicate 128 0, 0,
    ⟨[], [], false, fun _ => 0⟩⟩

/-- An RF context whose radio has received the bytes `rx`. -/
def rfHears (rx : Bytes) : World Radio := { rfEnd with dev := { rfEnd.dev with rx := rx } }

@[simp] theorem run_strobe_radio (fd : Int) (cmd : UInt8) (w : World Radio) :
    (cc1120Strobe radioOs fd cmd).run w = .ok ((), w) := rfl

@[simp] theorem run_readSingle_radio (fd : Int) (addr : UInt16) (w : World Radio) :
    (cc1120ReadSingle radioOs fd addr).run w =
      .ok ((w.dev.readReg addr).1, { w with dev := (w.dev.readReg addr).2 }) := rfl

/-- A poll of the sync pin turns it over. -/
theorem run_readGpio_radio (fd : Int) (w : World Radio) :
    (cc1120ReadSingle radioOs fd Cc1120.GPIO_STATUS).run w =
      .ok (if w.dev.synced then 0 else 8, { w with dev :=
        { w.dev with synced := !w.dev.synced } }) := by
  rw [run_readSingle_radio]
  simp [Radio.readReg, Cc1120.GPIO_STATUS, Cc1120.RSSI0]

theorem run_readNumrx_radio (fd : Int) (w : World Radio) :
    (cc1120ReadSingle radioOs fd Cc1120.NUM_RXBYTES).run w =
      .ok (UInt8.ofNat (min w.dev.rx.length 128), w) := by
  rw [run_readSingle_radio]
  simp [Radio.readReg, Cc1120.NUM_RXBYTES, Cc1120.RSSI0, Cc1120.GPIO_STATUS]

theorem run_readMarcstate_radio (fd : Int) (w : World Radio) :
    (cc1120ReadSingle radioOs fd Cc1120.MARCSTATE).run w =
      .ok (if w.dev.rx.length ≤ 128 then Cc1120.idle else Cc1120.rxFifoErr, w) := by
  rw [run_readSingle_radio]
  simp [Radio.readReg, Cc1120.NUM_RXBYTES, Cc1120.RSSI0, Cc1120.GPIO_STATUS, Cc1120.MARCSTATE]

/-- All that has arrived is moved to the caller's array. -/
theorem run_fifoRead_radio (fd : Int) (fifo : Bytes) {len : UInt8} (w : World Radio)
    (hlen : len.toNat = w.dev.rx.length) (hroom : w.dev.rx.length ≤ fifo.length) :
    ∃ fifo', (cc1120FifoRead radioOs fd fifo len).run w = .ok (fifo', w) ∧
      w.dev.rx <+: fifo' := by
  have hroom' : ([] : Bytes).length + w.dev.rx.length ≤ fifo.length := by
    rw [List.length_nil, Nat.zero_add]
    exact hroom
  obtain ⟨fifo', hstore, hpre, -⟩ :=
    Buffer.exists_store_of_prefix (List.nil_prefix (l := fifo)) hroom'
  refine ⟨fifo', ?_, hpre⟩
  have hanswer : (sysAnswer (radioOs.fifoRead fd len)).run w =
      .ok ((fun i => w.dev.rx.getD i 0), w) := rfl
  have hmap : (List.range len.toNat).map (fun i => w.dev.rx.getD i 0) = w.dev.rx := by
    rw [hlen]
    exact Buffer.map_getD_range _ _
  unfold cc1120FifoRead
  rw [Exec.run_bind_of_ok hanswer, hmap]
  exact Exec.run_access_of_some hstore

/-! ## Sending -/

/-- A packet of at most 127 bytes fits the array it is collected in, behind its length byte. -/
theorem exists_fifo_of_fits {fifo buf : Bytes} (hlen : fifo.length = 128)
    (hfit : buf.length ≤ 127) :
    ∃ fifo₁ fifo₂, Buffer.store fifo 0 [UInt8.ofNat buf.length] = some fifo₁ ∧
      Buffer.store fifo₁ 1 buf = some fifo₂ ∧
      Buffer.load fifo₂ 0 (buf.length + 1) = some (UInt8.ofNat buf.length :: buf) := by
  have hroom₁ : ([] : Bytes).length + [UInt8.ofNat buf.length].length ≤ fifo.length := by
    rw [hlen]
    simp
  obtain ⟨fifo₁, hstore₁, hpre₁, hlen₁⟩ :=
    Buffer.exists_store_of_prefix (List.nil_prefix (l := fifo)) hroom₁
  have hroom₂ : ([] ++ [UInt8.ofNat buf.length]).length + buf.length ≤ fifo₁.length := by
    rw [hlen₁, hlen, List.nil_append, List.length_singleton]
    omega
  obtain ⟨fifo₂, hstore₂, hpre₂, hlen₂⟩ := Buffer.exists_store_of_prefix hpre₁ hroom₂
  refine ⟨fifo₁, fifo₂, hstore₁, hstore₂, ?_⟩
  rw [Buffer.load_of_prefix hpre₂ (by simp)]
  simp

/-- A packet that fits is written to the transmit FIFO behind its length byte. -/
theorem exists_run_writeRf {σ : Type} (os : Os σ) (fd : Int) {buf : Bytes} (w : World σ)
    (hfit : buf.length ≤ 127) :
    ∃ e, (writeRf os fd buf).run w = .ok (buf.length, { w with
      dev := (os.fifoWrite fd (UInt8.ofNat buf.length :: buf) (os.garbage w.dev).2).2,
      errno := e }) := by
  obtain ⟨fifo, hlen, hfifo⟩ := run_uninit os 128 w
  obtain ⟨fifo₁, fifo₂, hstore₁, hstore₂, hload⟩ := exists_fifo_of_fits hlen hfit
  obtain ⟨e, hsys⟩ := exists_run_sys (os.fifoWrite fd (UInt8.ofNat buf.length :: buf))
    { w with dev := (os.garbage w.dev).2 }
  have hwrite : (cc1120FifoWrite os fd fifo₂ (buf.length + 1)).run
      { w with dev := (os.garbage w.dev).2 } = .ok ((), { w with
        dev := (os.fifoWrite fd (UInt8.ofNat buf.length :: buf) (os.garbage w.dev).2).2,
        errno := e }) := by
    unfold cc1120FifoWrite
    rw [Exec.run_bind_of_ok (Exec.run_access_of_some hload), Exec.run_bind_of_ok hsys]
    rfl
  refine ⟨e, ?_⟩
  unfold writeRf
  rw [Exec.run_bind_of_ok hfifo, Exec.run_bind_of_ok (Exec.run_access_of_some hstore₁),
    Exec.run_bind_of_ok (Exec.run_access_of_some hstore₂), Exec.run_bind_of_ok hwrite]
  rfl

/-- A packet that fits the transmit FIFO behind its length byte is put there. -/
theorem run_writeRf (fd : Int) {buf : Bytes} (w : World Radio) (hfit : buf.length ≤ 127) :
    (writeRf radioOs fd buf).run w = .ok (buf.length,
      { w with dev := { w.dev with tx := UInt8.ofNat buf.length :: buf } }) := by
  obtain ⟨fifo, hlen, hfifo⟩ := run_uninit radioOs 128 w
  obtain ⟨fifo₁, fifo₂, hstore₁, hstore₂, hload⟩ := exists_fifo_of_fits hlen hfit
  have hwrite : (cc1120FifoWrite radioOs fd fifo₂ (buf.length + 1)).run w =
      .ok ((), { w with dev := { w.dev with tx := UInt8.ofNat buf.length :: buf } }) := by
    rw [cc1120FifoWrite, hload]
    rfl
  unfold writeRf
  rw [Exec.run_bind_of_ok hfifo]
  apply (Exec.run_bind_of_ok (Exec.run_access_of_some hstore₁)).trans
  apply (Exec.run_bind_of_ok (Exec.run_access_of_some hstore₂)).trans
  exact (Exec.run_bind_of_ok hwrite).trans rfl

/-- A packet that does not fit overruns the array it is collected in. -/
theorem run_writeRf_overrun {σ : Type} (os : Os σ) (fd : Int) {buf : Bytes} (w : World σ)
    (hlong : 127 < buf.length) : (writeRf os fd buf).run w = .error (.store .fifo) := by
  obtain ⟨fifo, hlen, hfifo⟩ := run_uninit os 128 w
  unfold writeRf
  rw [Exec.run_bind_of_ok hfifo]
  have hroom₁ : ([] : Bytes).length + [UInt8.ofNat buf.length].length ≤ fifo.length := by
    rw [hlen]
    simp
  obtain ⟨fifo₁, hstore₁, hpre₁, hlen₁⟩ :=
    Buffer.exists_store_of_prefix (List.nil_prefix (l := fifo)) hroom₁
  have hnone : Buffer.store fifo₁ 1 buf = none := by
    rw [Buffer.store_eq_none_iff, hlen₁, hlen]
    omega
  apply (Exec.run_bind_of_ok (Exec.run_access_of_some hstore₁)).trans
  exact Exec.run_bind_of_error (Exec.run_access_of_none hnone)

/-- The first poll of the carrier sense finds the channel clear. -/
theorem run_carrierSense_radio (fd : Int) (w : World Radio) :
    (carrierSense radioOs fd 11).run w = .ok (true, w) := by
  rw [carrierSense]
  apply (Exec.run_bind_of_ok (run_sys_of_ok rfl)).trans
  apply (Exec.run_bind_of_ok (run_readSingle_radio fd _ w)).trans
  change StateT.run (if (1 : UInt8) &&& 0x01 ≠ 0 then _ else _) _ = _
  rw [if_pos (by decide)]
  rfl

/-- The transmission is seen to start, and at the next poll to end. -/
theorem run_waitTxDone_radio (fd : Int) (fuel : ℕ) (w : World Radio)
    (hsynced : w.dev.synced = false) :
    (waitTxDone radioOs fd ⟨1, 0⟩ (fuel + 2) false).run w = .ok (true, w) := by
  obtain ⟨ctx, errno, rxfifo, pos, tx, rx, synced, junk⟩ := w
  obtain rfl : synced = false := hsynced
  have hset : (cc1120ReadSingle radioOs fd Cc1120.GPIO_STATUS).run
      ⟨ctx, errno, rxfifo, pos, tx, rx, false, junk⟩ =
        .ok (8, ⟨ctx, errno, rxfifo, pos, tx, rx, true, junk⟩) := run_readGpio_radio fd _
  have hclear : (cc1120ReadSingle radioOs fd Cc1120.GPIO_STATUS).run
      ⟨ctx, errno, rxfifo, pos, tx, rx, true, junk⟩ =
        .ok (0, ⟨ctx, errno, rxfifo, pos, tx, rx, false, junk⟩) := run_readGpio_radio fd _
  unfold waitTxDone
  apply (Exec.run_bind_of_ok hset).trans
  rw [if_neg (by decide)]
  apply (Exec.run_bind_of_ok (run_ask radioOs.gettimeofday _)).trans
  change StateT.run (if Timeval.past ⟨1, 0⟩ ⟨0, 0⟩ = true then _ else _) _ = _
  rw [if_neg (by decide)]
  apply (Exec.run_bind_of_ok (run_sys_of_ok rfl)).trans
  unfold waitTxDone
  apply (Exec.run_bind_of_ok hclear).trans
  rw [if_pos (by decide)]
  rfl

/-- The radio sends every packet that fits its transmit FIFO. -/
theorem run_ttaRfSend (fd : Int) (fuel : ℕ) (pkt : Bytes) (w : World Radio)
    (hsynced : w.dev.synced = false) (hfit : pkt.length ≤ 127) :
    (ttaRfSend radioOs (fuel + 2) fd pkt).run w = .ok (some pkt.length,
      { w with dev := { w.dev with tx := UInt8.ofNat pkt.length :: pkt } }) := by
  rw [ttaRfSend]
  apply (Exec.run_bind_of_ok (run_strobe_radio fd _ w)).trans
  apply (Exec.run_bind_of_ok (run_strobe_radio fd _ w)).trans
  apply (Exec.run_bind_of_ok (run_writeRf fd w hfit)).trans
  apply (Exec.run_bind_of_ok (run_strobe_radio fd _ _)).trans
  apply (Exec.run_bind_of_ok (run_carrierSense_radio fd _)).trans
  apply (Exec.run_bind_of_ok (run_strobe_radio fd _ _)).trans
  apply (Exec.run_bind_of_ok (run_ask radioOs.gettimeofday _)).trans
  exact (Exec.run_bind_of_ok (run_waitTxDone_radio fd fuel
    { w with dev := { w.dev with tx := UInt8.ofNat pkt.length :: pkt } } hsynced)).trans rfl

/-- A packet that does not fit the transmit FIFO overruns an array of the sender. -/
theorem run_ttaRfSend_overrun {σ : Type} (os : Os σ) (fd : Int) (fuel : ℕ) (pkt : Bytes)
    (w : World σ) (hlong : 127 < pkt.length) :
    (ttaRfSend os fuel fd pkt).run w = .error (.store .fifo) := by
  obtain ⟨e₁, h₁⟩ := exists_run_cc1120Strobe os fd Cc1120.SIDLE w
  obtain ⟨e₂, h₂⟩ := exists_run_cc1120Strobe os fd Cc1120.SFTX
    { w with dev := (os.strobe fd Cc1120.SIDLE w.dev).2, errno := e₁ }
  rw [ttaRfSend, Exec.run_bind_of_ok h₁, Exec.run_bind_of_ok h₂]
  exact Exec.run_bind_of_error (run_writeRf_overrun os fd _ hlong)

/-! ## Receiving -/

/-- What arrives when a packet has been sent. -/
def Radio.arrival (pkt : Bytes) : Bytes := UInt8.ofNat pkt.length :: pkt ++ [0, 0x80]

/-- A packet of at most 128 bytes fits the static receive buffer. -/
theorem run_fillRxfifo {σ : Type} (pkt : Bytes) (w : World σ) (hfit : pkt.length ≤ 128) :
    ∃ v, (fillRxfifo pkt).run w = .ok ((), { w with rxfifo := v, rxfifoPos := 0 }) ∧
      pkt <+: v.1 := by
  obtain ⟨v, hfill, hv⟩ := Buffer.exists_storeVec w.rxfifo hfit
  refine ⟨v, ?_, hv⟩
  have hget : (get : Machine σ (World σ)).run w = .ok (w, w) := rfl
  unfold fillRxfifo
  apply (Exec.run_bind_of_ok hget).trans
  exact (Exec.run_bind_of_ok (Exec.run_access_of_some hfill)).trans rfl

/-- A packet that fits the receive FIFO with its length byte and the status bytes is moved to the
static receive buffer. -/
theorem run_waitRxPacket (fd : Int) (deadline : Timeval) (fuel : ℕ) {fifo pkt : Bytes}
    (w : World Radio) (hrx : w.dev.rx = Radio.arrival pkt) (hfifo : fifo.length = 128)
    (hfit : pkt.length ≤ 125) :
    ∃ v, (waitRxPacket radioOs fd deadline fifo (fuel + 1)).run w =
        .ok (true, { w with rxfifo := v, rxfifoPos := 0 }) ∧ pkt <+: v.1 := by
  have hlen : w.dev.rx.length = pkt.length + 3 := by
    rw [hrx, Radio.arrival]
    simp
  set numrx : UInt8 := UInt8.ofNat (pkt.length + 3)
  have hnumrx : numrx.toNat = pkt.length + 3 := by
    rw [UInt8.toNat_ofNat']
    omega
  have hreadNum : (cc1120ReadSingle radioOs fd Cc1120.NUM_RXBYTES).run w = .ok (numrx, w) := by
    rw [run_readNumrx_radio, hlen, Nat.min_eq_left (by omega)]
  have hreadState : (cc1120ReadSingle radioOs fd Cc1120.MARCSTATE).run w =
      .ok (Cc1120.idle, w) := by
    rw [run_readMarcstate_radio, if_pos (by omega)]
  obtain ⟨fifo', hfifoRead, t, ht⟩ :=
    run_fifoRead_radio fd fifo w (hnumrx.trans hlen.symm) (by omega)
  obtain ⟨v, hfill, hv⟩ := run_fillRxfifo pkt w (by omega)
  have hget (i : ℕ) {c : UInt8} (h : (Radio.arrival pkt)[i]? = some c) : fifo'[i]? = some c := by
    rw [← ht, hrx, List.getElem?_append_left (List.getElem?_eq_some_iff.mp h).1, h]
  have hrssi : fifo'[numrx.toNat - 2]? = some 0 := by
    apply hget
    rw [hnumrx, Radio.arrival, List.getElem?_append_right (by simp)]
    simp
  have hstatus : fifo'[numrx.toNat - 1]? = some 0x80 := by
    apply hget
    rw [hnumrx, Radio.arrival, List.getElem?_append_right (by simp)]
    simp
  have hcount : fifo'[0]? = some (UInt8.ofNat pkt.length) := hget 0 rfl
  have hload : Buffer.load fifo' 1 (UInt8.ofNat pkt.length).toNat = some pkt := by
    have hpktlen : (UInt8.ofNat pkt.length).toNat = pkt.length := by
      rw [UInt8.toNat_ofNat']
      omega
    rw [hpktlen, Buffer.load_of_prefix ⟨t, ht⟩ (by omega), hrx, Radio.arrival]
    simp
  have hready : 0 < numrx ∧ Cc1120.idle = Cc1120.idle :=
    ⟨UInt8.lt_iff_toNat_lt.mpr (by rw [hnumrx]; change 0 < _; omega), rfl⟩
  have htwo : ¬numrx < 2 := by
    rw [UInt8.lt_iff_toNat_lt, hnumrx]
    change ¬_ < 2
    omega
  refine ⟨v, ?_, hv⟩
  unfold waitRxPacket
  rw [Exec.run_bind_of_ok hreadNum, Exec.run_bind_of_ok hreadState, if_pos hready,
    Exec.run_bind_of_ok hfifoRead, if_neg htwo,
    Exec.run_bind_of_ok (Exec.run_access_of_some hrssi),
    Exec.run_bind_of_ok (Exec.run_access_of_some hstatus), if_pos (by decide),
    Exec.run_bind_of_ok (Exec.run_access_of_some hcount),
    Exec.run_bind_of_ok (Exec.run_access_of_some hload), Exec.run_bind_of_ok hfill]
  rfl

/-- A packet that overflows the receive FIFO is never received. -/
theorem run_waitRxPacket_ne (fd : Int) (deadline : Timeval) (fuel : ℕ) (fifo : Bytes)
    {w w' : World Radio} (hlong : 128 < w.dev.rx.length) :
    (waitRxPacket radioOs fd deadline fifo fuel).run w ≠ .ok (true, w') := by
  induction fuel with
  | zero =>
    intro h
    cases h
  | succ fuel ih =>
    intro h
    have hreadState : (cc1120ReadSingle radioOs fd Cc1120.MARCSTATE).run w =
        .ok (Cc1120.rxFifoErr, w) := by
      rw [run_readMarcstate_radio, if_neg (by omega)]
    have hidle (n : UInt8) : ¬(0 < n ∧ Cc1120.rxFifoErr = Cc1120.idle) := by
      rintro ⟨-, h⟩
      revert h
      decide
    unfold waitRxPacket at h
    rw [Exec.run_bind_of_ok (run_readNumrx_radio fd w), Exec.run_bind_of_ok hreadState,
      if_neg (hidle _), Exec.run_bind_of_ok (run_ask radioOs.gettimeofday w)] at h
    change StateT.run (if deadline.past ⟨0, 0⟩ = true then _ else _) _ = _ at h
    by_cases hpast : deadline.past ⟨0, 0⟩ = true
    · rw [if_pos hpast] at h
      cases h
    · rw [if_neg hpast] at h
      have hsleep : (sys (radioOs.usleep 100000)).run w = .ok (some (), w) := rfl
      apply ih
      exact (Exec.run_bind_of_ok hsleep).symm.trans h

end Libtta
