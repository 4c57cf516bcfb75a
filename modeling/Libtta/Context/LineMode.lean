import Libtta.Model.Serial

/-!
# What the settings of a serial line mean

The flags of a terminal say how the line sends and receives characters. The settings that an RS485
context programs mean what the context asks for (`exists_rs485Tios`), whatever it asks for: unknown
values stand for others.
-/

namespace Libtta

/-! ## What the settings mean -/

/-- How a serial line sends and receives characters. -/
structure LineMode where
  baud : Option Int
  dataBits : ℕ
  stopBits : ℕ
  parity : Parity
  /-- Are bytes received without errors, echoes, signals and lines, and sent as they are? -/
  raw : Bool
  /-- Is the receiver on, and the modem control ignored? -/
  enabled : Bool
  checksParity : Bool
  flowControl : Bool
  deriving DecidableEq, Repr

namespace Termios

/-- The speed with a code. -/
def baudOf (speed : UInt32) : Option Int := (speeds.find? fun s => s.2 == speed).map Prod.fst

/-- The meaning of the settings; there is no speed if those of input and output differ. -/
def mode (t : Termios) : LineMode where
  baud := if t.ispeed = t.ospeed ∧ t.cflag &&& CBAUD = t.ospeed then baudOf t.ospeed else none
  dataBits := 5 + (t.cflag &&& CSIZE).toNat / 16
  stopBits := if t.cflag &&& CSTOPB = 0 then 1 else 2
  parity :=
    if t.cflag &&& PARENB = 0 then .none else if t.cflag &&& PARODD = 0 then .even else .odd
  raw := t.lflag &&& (ICANON ||| ECHO ||| ECHOE ||| ISIG) == 0 && t.oflag &&& OPOST == 0
  enabled := t.cflag &&& (CREAD ||| CLOCAL) == CREAD ||| CLOCAL
  checksParity := t.iflag &&& INPCK != 0
  flowControl := t.iflag &&& (IXON ||| IXOFF ||| IXANY) != 0

end Termios

namespace SerialSettings

/-- What a context asks for: an unknown speed is 9600 baud, an unknown number of data bits is 8, and
any number of stop bits other than 1 is 2. -/
def mode (c : SerialSettings) : LineMode where
  baud := some (if c.baud ∈ Termios.speeds.map Prod.fst then c.baud else 9600)
  dataBits := if 5 ≤ c.dataBit.toNat ∧ c.dataBit.toNat ≤ 8 then c.dataBit.toNat else 8
  stopBits := if c.stopBit = 1 then 1 else 2
  parity := c.parity
  raw := true
  enabled := true
  checksParity := c.parity ≠ .none
  flowControl := false

/-- The settings with the values that stand for the unknown ones. -/
def normal (c : SerialSettings) : SerialSettings where
  baud := if c.baud ∈ Termios.speeds.map Prod.fst then c.baud else 9600
  dataBit := if c.dataBit = 5 ∨ c.dataBit = 6 ∨ c.dataBit = 7 then c.dataBit else 8
  stopBit := if c.stopBit = 1 then 1 else 2
  parity := c.parity

variable (c : SerialSettings)

/-- The values of the normal settings. -/
theorem normal_mem : c.normal.baud ∈ Termios.speeds.map Prod.fst ∧
    c.normal.dataBit ∈ ([5, 6, 7, 8] : List UInt8) ∧
    c.normal.stopBit ∈ ([1, 2] : List UInt8) := by
  refine ⟨?_, ?_, ?_⟩
  · unfold normal
    dsimp only
    split
    · assumption
    · decide
  · unfold normal
    dsimp only
    split
    · simp
      tauto
    · simp
  · unfold normal
    dsimp only
    split <;> simp

/-- Unknown values stand for these. -/
theorem rs485Tios_normal : rs485Tios c.normal = rs485Tios c := by
  have hspeed : (Termios.speeds.lookup c.normal.baud).getD Termios.B9600 =
      (Termios.speeds.lookup c.baud).getD Termios.B9600 := by
    unfold normal
    dsimp only
    split
    · rfl
    · rename_i hnot
      have hnone : Termios.speeds.lookup c.baud = none := by
        rw [List.lookup_eq_none_iff]
        intro s hs
        rw [bne_iff_ne]
        exact fun heq => hnot (heq ▸ List.mem_map_of_mem hs)
      rw [hnone]
      rfl
  have hdata (v : UInt8) (hv : v = 5 ∨ v = 6 ∨ v = 7) : c.normal.dataBit = v ↔ c.dataBit = v := by
    unfold normal
    dsimp only
    split
    · rfl
    · rcases hv with rfl | rfl | rfl <;> simp_all
  have hstop : c.normal.stopBit = 1 ↔ c.stopBit = 1 := by
    unfold normal
    dsimp only
    split <;> simp_all
  unfold rs485Tios
  rw [hspeed]
  have hparity : c.normal.parity = c.parity := rfl
  simp only [hdata 5 (.inl rfl), hdata 6 (.inr (.inl rfl)), hdata 7 (.inr (.inr rfl)), hstop,
    hparity]

/-- They ask for the same. -/
theorem mode_normal : c.normal.mode = c.mode := by
  have hbaud : (if c.normal.baud ∈ Termios.speeds.map Prod.fst then c.normal.baud else 9600) =
      if c.baud ∈ Termios.speeds.map Prod.fst then c.baud else 9600 := by
    rw [if_pos c.normal_mem.1]
    rfl
  have hdata : (if 5 ≤ c.normal.dataBit.toNat ∧ c.normal.dataBit.toNat ≤ 8 then
      c.normal.dataBit.toNat else 8) =
      if 5 ≤ c.dataBit.toNat ∧ c.dataBit.toNat ≤ 8 then c.dataBit.toNat else 8 := by
    unfold normal
    dsimp only
    split
    · rfl
    · rename_i hnot
      have h5 : c.dataBit.toNat ≠ 5 := fun h => hnot (.inl (UInt8.toNat_inj.mp h))
      have h6 : c.dataBit.toNat ≠ 6 := fun h => hnot (.inr (.inl (UInt8.toNat_inj.mp h)))
      have h7 : c.dataBit.toNat ≠ 7 := fun h => hnot (.inr (.inr (UInt8.toNat_inj.mp h)))
      change (if 5 ≤ 8 ∧ 8 ≤ 8 then 8 else 8) = _
      split
      · split <;> omega
      · omega
  have hstop : (if c.normal.stopBit = 1 then 1 else 2) = if c.stopBit = 1 then 1 else 2 := by
    unfold normal
    dsimp only
    split <;> simp_all
  unfold mode
  rw [hbaud, hdata, hstop]
  rfl

end SerialSettings

/-- The settings that are programmed mean what the context asks for. -/
theorem exists_rs485Tios (c : SerialSettings) : ∃ t, rs485Tios c = some t ∧ t.mode = c.mode := by
  have hall : ((Termios.speeds.map Prod.fst).all fun b => [5, 6, 7, 8].all fun d =>
      [1, 2].all fun s => [Parity.none, .even, .odd].all fun p =>
        (rs485Tios ⟨b, d, s, p⟩).map Termios.mode == some (SerialSettings.mode ⟨b, d, s, p⟩)) =
      true := by
    decide +kernel
  simp only [List.all_eq_true, beq_iff_eq] at hall
  obtain ⟨hb, hd, hs⟩ := c.normal_mem
  have hp : c.normal.parity ∈ [Parity.none, .even, .odd] := by cases c.normal.parity <;> decide
  have hnormal := hall _ hb _ hd _ hs _ hp
  change (rs485Tios c.normal).map Termios.mode = some c.normal.mode at hnormal
  rw [c.rs485Tios_normal, c.mode_normal] at hnormal
  exact Option.map_eq_some_iff.mp hnormal

end Libtta
