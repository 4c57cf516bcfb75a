import Libtta.Model.Os

/-!
# The radio chip

The functions of `cc1120.c` that the RF backend uses: strobes, single registers, the two FIFOs, the
register settings written at connection time, and the manual calibration. The second polling loop
of the calibration has no bound in the source, so it takes a number of rounds.
-/

namespace Libtta

variable {σ : Type}

/-! ## Registers and strobes -/

namespace Cc1120

def SRES : UInt8 := 0x30
def SCAL : UInt8 := 0x33
def SRX : UInt8 := 0x34
def STX : UInt8 := 0x35
def SIDLE : UInt8 := 0x36
def SFRX : UInt8 := 0x3A
def SFTX : UInt8 := 0x3B
def PA_CFG2 : UInt16 := 0x002B
def PA_CFG1 : UInt16 := 0x002C
def PA_CFG0 : UInt16 := 0x002D
def FREQ2 : UInt16 := 0x2F0C
def FREQ1 : UInt16 := 0x2F0D
def FREQ0 : UInt16 := 0x2F0E
def FS_CAL2 : UInt16 := 0x2F15
def FS_CHP : UInt16 := 0x2F18
def FS_VCO4 : UInt16 := 0x2F23
def FS_VCO2 : UInt16 := 0x2F25
def RSSI0 : UInt16 := 0x2F72
def MARCSTATE : UInt16 := 0x2F73
def GPIO_STATUS : UInt16 := 0x2F8C
def NUM_RXBYTES : UInt16 := 0x2FD7

/-- `MARCSTATE` of an idle radio. -/
def idle : UInt8 := 0x41

end Cc1120

/-- `cc1120_strobe`; the status byte it returns is not used. -/
def cc1120Strobe (os : Os σ) (fd : Int) (cmd : UInt8) : Machine σ Unit := do
  let _ ← sys (os.strobe fd cmd)

/-- A strobe returns. -/
theorem exists_run_cc1120Strobe (os : Os σ) (fd : Int) (cmd : UInt8) (w : World σ) :
    ∃ e, (cc1120Strobe os fd cmd).run w =
      .ok ((), { w with dev := (os.strobe fd cmd w.dev).2, errno := e }) := by
  obtain ⟨e, h⟩ := exists_run_sys (os.strobe fd cmd) w
  exact ⟨e, (Exec.run_bind_of_ok h).trans rfl⟩

/-- `cc1120_read_single`. -/
def cc1120ReadSingle (os : Os σ) (fd : Int) (addr : UInt16) : Machine σ UInt8 :=
  sysAnswer (os.readReg fd addr)

/-- `cc1120_write_single`. -/
def cc1120WriteSingle (os : Os σ) (fd : Int) (addr : UInt16) (val : UInt8) : Machine σ Unit := do
  let _ ← sys (os.writeReg fd addr val)

/-- `cc1120_fifo_read`: `len` bytes of the transfer buffer are copied into the caller's array. -/
def cc1120FifoRead (os : Os σ) (fd : Int) (buf : Bytes) (len : UInt8) : Machine σ Bytes := do
  let spi ← sysAnswer (os.fifoRead fd len)
  Exec.access (.store .fifo) (Buffer.store buf 0 ((List.range len.toNat).map spi))

/-- `cc1120_fifo_write`: the first `len` bytes of the caller's array are transferred. -/
def cc1120FifoWrite (os : Os σ) (fd : Int) (buf : Bytes) (len : ℕ) : Machine σ Unit := do
  let spi ← Exec.access (.load .fifo) (Buffer.load buf 0 len)
  let _ ← sys (os.fifoWrite fd spi)

/-! ## Settings -/

/-- The registers `cc1120_writesetting` writes, in order. -/
def cc1120Settings : List (UInt16 × UInt8) :=
  [(0x0000, 0x06), (0x0001, 0x06), (0x0002, 0xB0), (0x0003, 0x40), (0x0008, 0x0B),
   (0x000A, 0x06), (0x000B, 0x03), (0x000C, 0x1C), (0x000D, 0x18), (0x0010, 0xC6),
   (0x0011, 0x10), (0x0013, 0x05), (0x0017, 0x20), (0x0019, 0x9A), (0x0018, 0x9A),
   (0x0026, 0x10), (0x001C, 0xA9), (0x001E, 0x00), (0x0020, 0x03), (0x0021, 0x14),
   (0x0028, 0x20), (0x002B, 0x69), (0x002D, 0x7E), (0x002E, 0xFF), (0x2F00, 0x00),
   (0x2F01, 0x22), (0x2F0C, 0x6A), (0x2F0D, 0x2C), (0x2F0E, 0xCD), (0x2F12, 0x00),
   (0x2F13, 0x5F), (0x2F16, 0x40), (0x2F17, 0x0E), (0x2F19, 0x03), (0x2F1B, 0x33),
   (0x2F1D, 0x17), (0x2F1F, 0x50), (0x2F20, 0x6E), (0x2F21, 0x14), (0x2F22, 0xAC),
   (0x2F23, 0x0E), (0x2F26, 0x9C), (0x2F27, 0xB4), (0x2F32, 0x0E), (0x2F36, 0x03),
   (0x2F91, 0x08)]

/-- `cc1120_writesetting`. -/
def cc1120Writesetting (os : Os σ) (fd : Int) : Machine σ Unit :=
  cc1120Settings.forM fun r => cc1120WriteSingle os fd r.1 r.2

/-! ## Calibration -/

/-- The first polling loop of the calibration: at most `left + 1` reads of the state, and the
result is not recorded. -/
def pollIdleBounded (os : Os σ) (fd : Int) : ℕ → Machine σ Unit
  | 0 => do
    let _ ← cc1120ReadSingle os fd Cc1120.MARCSTATE
  | left + 1 => do
    let marcstate ← cc1120ReadSingle os fd Cc1120.MARCSTATE
    if marcstate = Cc1120.idle then
      return ()
    else
      pollIdleBounded os fd left

/-- The second polling loop of the calibration, until the radio is idle. -/
def pollIdle (os : Os σ) (fd : Int) : ℕ → Machine σ Unit
  | 0 => Exec.stop .fuel
  | fuel + 1 => do
    let marcstate ← cc1120ReadSingle os fd Cc1120.MARCSTATE
    if marcstate = Cc1120.idle then
      return ()
    else
      pollIdle os fd fuel

/-- The three registers a calibration leaves its result in. -/
structure CalResults where
  fsVco2 : UInt8
  fsVco4 : UInt8
  fsChp : UInt8
  deriving DecidableEq, Repr

/-- Read the result of a calibration. -/
def readCalResults (os : Os σ) (fd : Int) : Machine σ CalResults := do
  let fsVco2 ← cc1120ReadSingle os fd Cc1120.FS_VCO2
  let fsVco4 ← cc1120ReadSingle os fd Cc1120.FS_VCO4
  let fsChp ← cc1120ReadSingle os fd Cc1120.FS_CHP
  return ⟨fsVco2, fsVco4, fsChp⟩

/-- Program the result of a calibration. -/
def writeCalResults (os : Os σ) (fd : Int) (r : CalResults) : Machine σ Unit := do
  cc1120WriteSingle os fd Cc1120.FS_VCO2 r.fsVco2
  cc1120WriteSingle os fd Cc1120.FS_VCO4 r.fsVco4
  cc1120WriteSingle os fd Cc1120.FS_CHP r.fsChp

/-- `cc1120_manualcalibration`. -/
def cc1120Manualcalibration (os : Os σ) (fuel : ℕ) (fd : Int) : Machine σ Unit := do
  cc1120Strobe os fd Cc1120.SIDLE
  cc1120WriteSingle os fd Cc1120.FS_VCO2 0x00
  let originalFsCal2 ← cc1120ReadSingle os fd Cc1120.FS_CAL2
  -- high VCDAC: the original start value plus `VCDAC_START_OFFSET`
  cc1120WriteSingle os fd Cc1120.FS_CAL2 (originalFsCal2 + 2)
  cc1120Strobe os fd Cc1120.SCAL
  pollIdleBounded os fd 50
  let high ← readCalResults os fd
  cc1120WriteSingle os fd Cc1120.FS_VCO2 0x00
  -- mid VCDAC: the original start value
  cc1120WriteSingle os fd Cc1120.FS_CAL2 originalFsCal2
  cc1120Strobe os fd Cc1120.SCAL
  pollIdle os fd fuel
  let mid ← readCalResults os fd
  if high.fsVco2 > mid.fsVco2 then
    writeCalResults os fd high
  else
    writeCalResults os fd mid

/-! ## Channel and power -/

/-- `a_CC112X_FREQ2`. -/
def freq2Table : List UInt8 := List.replicate 21 0x6A

/-- `a_CC112X_FREQ1`. -/
def freq1Table : List UInt8 :=
  [0x2C, 0x2D, 0x2E, 0x2F, 0x30, 0x30, 0x31, 0x32, 0x33, 0x34, 0x34, 0x35, 0x36, 0x37, 0x38, 0x38,
   0x39, 0x3A, 0x3B, 0x3C, 0x3C]

/-- `a_CC112X_FREQ0`. -/
def freq0Table : List UInt8 :=
  [0xCD, 0x99, 0x66, 0x33, 0x00, 0xCD, 0x99, 0x66, 0x33, 0x00, 0xCD, 0x99, 0x66, 0x33, 0x00, 0xCD,
   0x99, 0x66, 0x33, 0x00, 0xCD]

/-- `a_CC112X_PA_CFG2`. -/
def paCfg2Table : List UInt8 :=
  [0x5D, 0x5F, 0x62, 0x64, 0x66, 0x69, 0x6B, 0x6D, 0x6F, 0x72, 0x74, 0x77, 0x79, 0x7B, 0x7D, 0x7F]

/-- `a_CC112X_PA_CFG1`. -/
def paCfg1Table : List UInt8 := List.replicate 16 0x56

/-- `a_CC112X_PA_CFG0`. -/
def paCfg0Table : List UInt8 :=
  [0x3C, 0x3C, 0x44, 0x4C, 0x4C, 0x54, 0x54, 0x5C, 0x5C, 0x64, 0x6C, 0x6C, 0x74, 0x74, 0x7C, 0x7C]

/-- An entry of a table. The index is not checked: what lies at an index outside the tables is
`memory`. -/
def tableAt (memory : Int → UInt8) (table : List UInt8) (i : Int) : UInt8 :=
  if 0 ≤ i then table[i.toNat]?.getD (memory i) else memory i

/-- What `cc1120_set_ch` and `cc1120_set_power` share: three registers are written, and the radio is
calibrated anew. -/
def writeAndCalibrate (os : Os σ) (fuel : ℕ) (fd : Int) (regs : List (UInt16 × UInt8)) :
    Machine σ Unit := do
  regs.forM fun r => cc1120WriteSingle os fd r.1 r.2
  cc1120Manualcalibration os fuel fd
  cc1120Strobe os fd Cc1120.SFRX
  cc1120Strobe os fd Cc1120.SFTX

/-- `cc1120_set_ch`; `memory` is what lies behind the table for a register. -/
def cc1120SetCh (os : Os σ) (fuel : ℕ) (memory : UInt16 → Int → UInt8) (fd : Int) (ch : Int) :
    Machine σ Unit :=
  writeAndCalibrate os fuel fd [(Cc1120.FREQ2, tableAt (memory Cc1120.FREQ2) freq2Table ch),
    (Cc1120.FREQ1, tableAt (memory Cc1120.FREQ1) freq1Table ch),
    (Cc1120.FREQ0, tableAt (memory Cc1120.FREQ0) freq0Table ch)]

/-- `cc1120_set_power`. -/
def cc1120SetPower (os : Os σ) (fuel : ℕ) (memory : UInt16 → Int → UInt8) (fd : Int)
    (power : Int) : Machine σ Unit :=
  writeAndCalibrate os fuel fd [(Cc1120.PA_CFG2, tableAt (memory Cc1120.PA_CFG2) paCfg2Table power),
    (Cc1120.PA_CFG1, tableAt (memory Cc1120.PA_CFG1) paCfg1Table power),
    (Cc1120.PA_CFG0, tableAt (memory Cc1120.PA_CFG0) paCfg0Table power)]

end Libtta
