import Libtta.Model.Chip
import Libtta.Radio.Calibration

/-!
# The tuning of the radio

What an application sets on a radio, and the registers that say so, on top of the settings that the
library programs after a reset. Setting the channel, the power, the threshold or the gain writes the
registers of the new tuning over those of the old one (`program_freqRegs` and its siblings), and the
channels are evenly spaced (`frequencyWord_config`).
-/

namespace Libtta

/-! ## What is set -/

/-- What an application can set. -/
structure Tuning where
  channel : Fin 21
  /-- The power, if one has been set. -/
  power : Option (Fin 16)
  csThr : UInt8
  gainAdjust : UInt8
  deriving DecidableEq, Repr

/-- Registers after some have been written, one after another. -/
def program (regs : List (UInt16 × UInt8)) (config : UInt16 → UInt8) : UInt16 → UInt8 :=
  regs.foldl
    (fun config r => if Cc1120.isConfig r.1 then Function.update config r.1 r.2 else config) config

namespace Tuning

/-- What is set when a context has been connected. -/
def start : Tuning := ⟨0, none, 0x9A, 0x9A⟩

/-- The registers that differ from those after connecting. -/
def registers (t : Tuning) : List (UInt16 × UInt8) :=
  freqRegs (fun _ _ => 0) t.channel.val ++
    t.power.elim [] (fun p => powerRegs (fun _ _ => 0) p.val) ++
    [(Cc1120.AGC_CS_THR, t.csThr), (Cc1120.AGC_GAIN_ADJUST, t.gainAdjust)]

/-- The registers of a radio that is tuned, where a reset brings back `reset`. -/
def config (reset : UInt16 → UInt8) (t : Tuning) (addr : UInt16) : UInt8 :=
  (t.registers.lookup addr).getD (program cc1120Settings reset addr)

end Tuning

/-- The frequency that registers say, in units of the frequency synthesizer. -/
def frequencyWord (config : UInt16 → UInt8) : ℕ :=
  (config Cc1120.FREQ2).toNat * 65536 + (config Cc1120.FREQ1).toNat * 256 +
    (config Cc1120.FREQ0).toNat

section

variable {reset : UInt16 → UInt8} {t : Tuning}

/-- Writing registers, read at an address: the last write counts. -/
theorem program_apply (regs : List (UInt16 × UInt8)) (config : UInt16 → UInt8) (addr : UInt16) :
    program regs config addr =
      if Cc1120.isConfig addr then (regs.reverse.lookup addr).getD (config addr)
      else config addr := by
  induction regs using List.reverseRecOn with
  | nil => simp [program]
  | append_singleton regs r ih =>
    unfold program at ih ⊢
    rw [List.foldl_append, List.reverse_append]
    by_cases haddr : addr = r.1
    · subst haddr
      by_cases hconfig : Cc1120.isConfig r.1 = true
      · simp [hconfig, List.lookup]
      · simp [hconfig, ih]
    · have hne : (addr == r.1) = false := beq_false_of_ne haddr
      by_cases hconfig : Cc1120.isConfig r.1 = true
      · simp [hconfig, List.lookup, hne, Function.update_of_ne haddr, ih]
      · simp [hconfig, List.lookup, hne, ih]

/-- An index inside a table does not reach what lies behind it. -/
theorem tableAt_val {n : ℕ} (memory memory' : Int → UInt8) {table : List UInt8}
    (h : n < table.length) : tableAt memory table n = tableAt memory' table n := by
  unfold tableAt
  rw [if_pos (Int.natCast_nonneg n), if_pos (Int.natCast_nonneg n), Int.toNat_natCast,
    List.getElem?_eq_getElem h]
  rfl

/-- A channel of the tables does not depend on what lies behind them. -/
theorem freqRegs_val (memory memory' : UInt16 → Int → UInt8) (ch : Fin 21) :
    freqRegs memory ch.val = freqRegs memory' ch.val := by
  unfold freqRegs
  rw [tableAt_val (memory _) (memory' _) (show ch.val < freq2Table.length from ch.isLt),
    tableAt_val (memory _) (memory' _) (show ch.val < freq1Table.length from ch.isLt),
    tableAt_val (memory _) (memory' _) (show ch.val < freq0Table.length from ch.isLt)]

/-- A power of the tables does not depend on what lies behind them. -/
theorem powerRegs_val (memory memory' : UInt16 → Int → UInt8) (p : Fin 16) :
    powerRegs memory p.val = powerRegs memory' p.val := by
  unfold powerRegs
  rw [tableAt_val (memory _) (memory' _) (show p.val < paCfg2Table.length from p.isLt),
    tableAt_val (memory _) (memory' _) (show p.val < paCfg1Table.length from p.isLt),
    tableAt_val (memory _) (memory' _) (show p.val < paCfg0Table.length from p.isLt)]

/-- With different addresses, the order does not matter. -/
theorem lookup_reverse {regs : List (UInt16 × UInt8)} (h : (regs.map Prod.fst).Nodup)
    (addr : UInt16) : regs.reverse.lookup addr = regs.lookup addr := by
  induction regs with
  | nil => rfl
  | cons r regs ih =>
    obtain ⟨hnotin, hnodup⟩ := List.nodup_cons.mp h
    rw [List.reverse_cons, List.lookup_append, ih hnodup]
    by_cases haddr : addr = r.1
    · have hnone : regs.lookup r.1 = none := by
        rw [List.lookup_eq_none_iff]
        intro r' hr'
        refine bne_iff_ne.mpr fun heq => hnotin ?_
        exact heq ▸ List.mem_map_of_mem hr'
      subst haddr
      simp [List.lookup, hnone]
    · have hne : (addr == r.1) = false := beq_false_of_ne haddr
      simp [List.lookup, hne]

/-- Registers written anew replace what has been set for them. -/
theorem program_replace (before old : List (UInt16 × UInt8)) {new : List (UInt16 × UInt8)}
    (after : List (UInt16 × UInt8)) {base : UInt16 → UInt8}
    (hconfig : ∀ r ∈ new, Cc1120.isConfig r.1) (hnodup : (new.map Prod.fst).Nodup)
    (hbefore : ∀ r ∈ before, r.1 ∉ new.map Prod.fst) (hold : ∀ r ∈ old, r.1 ∈ new.map Prod.fst) :
    program new (fun addr => ((before ++ old ++ after).lookup addr).getD (base addr)) =
      fun addr => ((before ++ new ++ after).lookup addr).getD (base addr) := by
  funext addr
  rw [program_apply, lookup_reverse hnodup]
  simp only [List.lookup_append]
  by_cases haddr : addr ∈ new.map Prod.fst
  · obtain ⟨r, hr, rfl⟩ := List.mem_map.mp haddr
    have hnone : before.lookup r.1 = none := by
      rw [List.lookup_eq_none_iff]
      intro r' hr'
      exact bne_iff_ne.mpr fun heq => hbefore r' hr' (heq ▸ haddr)
    obtain ⟨v, hv⟩ : ∃ v, new.lookup r.1 = some v := by
      refine Option.ne_none_iff_exists'.mp fun hnone => ?_
      exact bne_iff_ne.mp (List.lookup_eq_none_iff.mp hnone r hr) rfl
    rw [if_pos (hconfig r hr), hnone, hv]
    rfl
  · have hnone {l : List (UInt16 × UInt8)} (hl : ∀ r ∈ l, r.1 ∈ new.map Prod.fst) :
        l.lookup addr = none := by
      rw [List.lookup_eq_none_iff]
      exact fun r hr => bne_iff_ne.mpr fun heq => haddr (heq ▸ hl r hr)
    rw [hnone fun r hr => List.mem_map_of_mem hr, hnone hold, Option.or_none]
    exact ite_self _

/-- What is programmed after a reset is what is set when a context has been connected. -/
theorem config_start : Tuning.start.config reset = program cc1120Settings reset := by
  have hall : (Tuning.start.registers.all fun r =>
      Cc1120.isConfig r.1 && cc1120Settings.reverse.lookup r.1 == some r.2) = true := by
    decide +kernel
  simp only [List.all_eq_true, Bool.and_eq_true, beq_iff_eq] at hall
  funext addr
  unfold Tuning.config
  rcases hlookup : Tuning.start.registers.lookup addr with _ | v
  · rfl
  · obtain ⟨regs, regs', heq, -⟩ := List.lookup_eq_some_iff.mp hlookup
    obtain ⟨hconfig, hsettings⟩ := hall (addr, v) (by rw [heq]; simp)
    rw [program_apply, if_pos hconfig, hsettings]
    rfl

/-- The registers of a radio, with those that are set in some order. -/
theorem config_of_registers {regs : List (UInt16 × UInt8)} (h : t.registers = regs) :
    t.config reset = fun addr => (regs.lookup addr).getD (program cc1120Settings reset addr) := by
  subst h
  rfl

section Setters

variable (memory : UInt16 → Int → UInt8) (ch : Fin 21) (p : Fin 16) (val : UInt8)

@[simp] theorem fst_freqRegs (n : Int) :
    (freqRegs memory n).map Prod.fst = [Cc1120.FREQ2, Cc1120.FREQ1, Cc1120.FREQ0] := rfl

@[simp] theorem fst_powerRegs (n : Int) :
    (powerRegs memory n).map Prod.fst = [Cc1120.PA_CFG2, Cc1120.PA_CFG1, Cc1120.PA_CFG0] := rfl

/-- Setting the channel. -/
theorem program_freqRegs :
    program (freqRegs memory ch.val) (t.config reset) =
      ({ t with channel := ch }).config reset := by
  set after := t.power.elim [] (fun p => powerRegs (fun _ _ => 0) p.val) ++
    [(Cc1120.AGC_CS_THR, t.csThr), (Cc1120.AGC_GAIN_ADJUST, t.gainAdjust)]
  have hregs (t' : Tuning) (hpower : t'.power = t.power) (hcsThr : t'.csThr = t.csThr)
      (hgain : t'.gainAdjust = t.gainAdjust) :
      t'.registers = [] ++ freqRegs (fun _ _ => 0) t'.channel.val ++ after := by
    rw [Tuning.registers, hpower, hcsThr, hgain, List.append_assoc, List.nil_append]
  rw [config_of_registers (hregs t rfl rfl rfl),
    config_of_registers (hregs { t with channel := ch } rfl rfl rfl),
    freqRegs_val memory fun _ _ => 0]
  refine program_replace [] _ _ ?_ ?_ ?_ ?_
  · simp [freqRegs]
    decide
  · rw [fst_freqRegs]
    decide
  · simp
  · intro r hr
    have hmem : r.1 ∈ (freqRegs (fun _ _ => 0) t.channel.val).map Prod.fst := List.mem_map_of_mem hr
    exact hmem

/-- Setting the power. -/
theorem program_powerRegs :
    program (powerRegs memory p.val) (t.config reset) =
      ({ t with power := some p }).config reset := by
  rw [config_of_registers (t := t) rfl, config_of_registers (t := { t with power := some p }) rfl,
    powerRegs_val memory fun _ _ => 0]
  refine program_replace _ _ _ ?_ ?_ ?_ ?_
  · simp [powerRegs]
    decide
  · rw [fst_powerRegs]
    decide
  · rw [fst_powerRegs]
    simp [freqRegs]
    decide
  · intro r hr
    rcases hpower : t.power with _ | p'
    · rw [hpower] at hr
      cases hr
    · rw [hpower] at hr
      have hmem : r.1 ∈ (powerRegs (fun _ _ => 0) p'.val).map Prod.fst := List.mem_map_of_mem hr
      exact hmem

/-- Setting the threshold. -/
theorem program_csThr :
    program [(Cc1120.AGC_CS_THR, val)] (t.config reset) =
      ({ t with csThr := val }).config reset := by
  set before := freqRegs (fun _ _ => 0) t.channel.val ++
    t.power.elim [] (fun p => powerRegs (fun _ _ => 0) p.val) with hbefore
  have hregs (v : UInt8) : ({ t with csThr := v } : Tuning).registers =
      before ++ [(Cc1120.AGC_CS_THR, v)] ++ [(Cc1120.AGC_GAIN_ADJUST, t.gainAdjust)] := by
    rw [List.append_assoc]
    rfl
  rw [config_of_registers (hregs t.csThr), config_of_registers (hregs val)]
  refine program_replace _ _ _ ?_ ?_ ?_ ?_
  · simp
    decide
  · simp
  · rw [hbefore]
    rcases t.power with _ | p
    · simp [freqRegs]
      decide
    · simp [freqRegs, powerRegs]
      decide
  · simp

/-- Setting the gain. -/
theorem program_gainAdjust :
    program [(Cc1120.AGC_GAIN_ADJUST, val)] (t.config reset) =
      ({ t with gainAdjust := val }).config reset := by
  set before := freqRegs (fun _ _ => 0) t.channel.val ++
    t.power.elim [] (fun p => powerRegs (fun _ _ => 0) p.val) ++
    [(Cc1120.AGC_CS_THR, t.csThr)] with hbefore
  have hregs (v : UInt8) : ({ t with gainAdjust := v } : Tuning).registers =
      before ++ [(Cc1120.AGC_GAIN_ADJUST, v)] ++ [] := by
    rw [hbefore, List.append_nil, List.append_assoc _ [_] [_]]
    rfl
  rw [config_of_registers (hregs t.gainAdjust), config_of_registers (hregs val)]
  refine program_replace _ _ _ ?_ ?_ ?_ ?_
  · simp
    decide
  · simp
  · rw [hbefore]
    rcases t.power with _ | p
    · simp [freqRegs]
      decide
    · simp [freqRegs, powerRegs]
      decide
  · simp

end Setters

/-- The registers of the channel are those of the tables. -/
theorem config_freq : t.config reset Cc1120.FREQ2 = tableAt (fun _ => 0) freq2Table t.channel.val ∧
    t.config reset Cc1120.FREQ1 = tableAt (fun _ => 0) freq1Table t.channel.val ∧
    t.config reset Cc1120.FREQ0 = tableAt (fun _ => 0) freq0Table t.channel.val := by
  have hlookup {addr : UInt16} {v : UInt8}
      (h : (freqRegs (fun _ _ => 0) t.channel.val).lookup addr = some v) :
      t.config reset addr = v := by
    rw [Tuning.config, Tuning.registers, List.append_assoc, List.lookup_append, h]
    rfl
  exact ⟨hlookup rfl, hlookup rfl, hlookup rfl⟩

/-- The channels are evenly spaced: five of them are 1024 units of the synthesizer apart. -/
theorem frequencyWord_config :
    frequencyWord (t.config reset) = 0x6A2CCD + 1024 * t.channel.val / 5 := by
  have htables : ∀ ch : Fin 21, (tableAt (fun _ => 0) freq2Table ch.val).toNat * 65536 +
      (tableAt (fun _ => 0) freq1Table ch.val).toNat * 256 +
      (tableAt (fun _ => 0) freq0Table ch.val).toNat = 0x6A2CCD + 1024 * ch.val / 5 := by
    decide +kernel
  obtain ⟨h2, h1, h0⟩ := config_freq (t := t)
  rw [frequencyWord, h2, h1, h0]
  exact htables t.channel

end

end Libtta
