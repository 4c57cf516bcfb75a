import Libtta.Model.Api

/-!
# Tuning the radio

The public functions that set the carrier-sense threshold and the gain of the radio and measure the
signal strength, and an operating system with a chip that keeps what is written to its registers.
The registers that a calibration or the radio itself writes are left to the operating system below.
-/

namespace Libtta

variable {σ α : Type}

/-! ## Registers -/

namespace Cc1120

def AGC_CS_THR : UInt16 := 0x0018
def AGC_GAIN_ADJUST : UInt16 := 0x0019
def RSSI1 : UInt16 := 0x2F71
def WOR_TIME1 : UInt16 := 0x2F64
def SERIAL_STATUS : UInt16 := 0x2F91

/-- Does the register keep what is written to it? The others hold the results of a calibration, or
show the state of the radio. -/
def isConfig (addr : UInt16) : Bool :=
  (addr < WOR_TIME1 || addr == SERIAL_STATUS) && addr != FS_VCO2 && addr != FS_VCO4 &&
    addr != FS_CHP

end Cc1120

/-! ## Functions -/

section

variable (os : Os σ)

/-- `tta_rf_set_agc_cs_thr`: the low byte of the threshold is written. -/
def ttaRfSetAgcCsThr (thr : Int) : Machine σ Unit := do
  let ctx ← getCtx
  cc1120WriteSingle os ctx.s Cc1120.AGC_CS_THR (UInt8.ofInt thr)

/-- `tta_rf_set_agc_gain_adjust`. -/
def ttaRfSetAgcGainAdjust (val : Int) : Machine σ Unit := do
  let ctx ← getCtx
  cc1120WriteSingle os ctx.s Cc1120.AGC_GAIN_ADJUST (UInt8.ofInt val)

/-- `cc1120_get_rssi`: the polling loop is the one of `_tta_rf_send`. -/
def cc1120GetRssi (fd : Int) : Machine σ (Option Int) := do
  cc1120Strobe os fd Cc1120.SRX
  if ← carrierSense os fd 11 then
    let val ← cc1120ReadSingle os fd Cc1120.RSSI1
    return some val.toInt8.toInt
  else
    return none

/-- `tta_rf_get_rssi`. -/
def ttaRfGetRssi : Machine σ (Option Int) := do
  let ctx ← getCtx
  cc1120GetRssi os ctx.s

end

/-! ## The chip -/

/-- A radio chip. -/
structure Chip where
  /-- The registers that keep what is written to them. -/
  config : UInt16 → UInt8
  /-- The descriptors that are open on the chip. -/
  fds : List Int
  /-- The number of times the chip has been reset. -/
  resets : ℕ

namespace Chip

/-- `open`. -/
def openDevice (os : Os σ) (device : String) (d : Chip × σ) : Except Errno Int × Chip × σ :=
  let r := os.openDevice device d.2
  (r.1, { d.1 with fds := r.1.toOption.toList ++ d.1.fds }, r.2)

/-- `close`: the descriptor is gone also when it fails. -/
def close (os : Os σ) (fd : Int) (d : Chip × σ) : Except Errno Unit × Chip × σ :=
  let r := os.close fd d.2
  (r.1, { d.1 with fds := d.1.fds.filter (· ≠ fd) }, r.2)

/-- `RT2880_SPI_CC1120_WRITE` of one register. -/
def write (fd : Int) (addr : UInt16) (val : UInt8) (d : Chip × σ) : Except Errno Unit × Chip × σ :=
  if fd ∈ d.1.fds then
    let config := if Cc1120.isConfig addr then Function.update d.1.config addr val else d.1.config
    (.ok (), { d.1 with config := config }, d.2)
  else
    (.error .EBADF, d)

/-- `RT2880_SPI_CC1120_READ` of one register. -/
def read (os : Os σ) (fd : Int) (addr : UInt16) (d : Chip × σ) :
    (UInt8 × Except Errno Unit) × Chip × σ :=
  if fd ∈ d.1.fds ∧ Cc1120.isConfig addr then
    ((d.1.config addr, .ok ()), d)
  else
    beside (os.readReg fd addr) d

/-- `RT2880_SPI_CC1120_STROBE`: a reset brings back the contents that the chip starts with. -/
def strobe (reset : UInt16 → UInt8) (os : Os σ) (fd : Int) (cmd : UInt8) (d : Chip × σ) :
    Except Errno Unit × Chip × σ :=
  if fd ∈ d.1.fds ∧ cmd = Cc1120.SRES then
    beside (os.strobe fd cmd) ({ d.1 with config := reset, resets := d.1.resets + 1 }, d.2)
  else
    beside (os.strobe fd cmd) d

end Chip

/-- The operating system with the chip: whatever `os` does, the chip keeps its registers. -/
def chipOs (reset : UInt16 → UInt8) (os : Os σ) : Os (Chip × σ) :=
  { os.beside Chip with
    openDevice := Chip.openDevice os
    close := Chip.close os
    strobe := Chip.strobe reset os
    readReg := Chip.read os
    writeReg := Chip.write }

end Libtta
