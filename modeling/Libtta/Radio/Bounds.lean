import Libtta.Radio.Poll
import Libtta.Radio.Radio
import Libtta.Trace.Device
import Libtta.Context.Reachable

/-!
# The FIFO arrays of the RF backend

Neither `write_rf` nor `_tta_rf_receive` compares a length with the size of an array. A frame is
collected in bounds when it has at most 127 bytes; what the radio shows is handled in bounds when
the two status bytes are there, the length byte stays inside the local array, and the count of the
payload, which may be left from an earlier packet, does not announce a packet that leaves the static
receive buffer.
-/

namespace Libtta

variable {σ α β : Type}

/-- The number of bytes of the transfer buffer of the radio driver. -/
def spiBufferSize : ℕ := 256

/-! ## Computations that stay in bounds -/

/-- The computation leaves no array: it stops only when its rounds are used up. -/
def StaysInBounds (x : Machine σ α) : Prop := ∀ w s, x.run w = .error s → s = .fuel

namespace StaysInBounds

/-- Returning a value. -/
protected theorem pure (a : α) : StaysInBounds (pure a : Machine σ α) := by
  intro w s h
  cases h

/-- Sequential composition. -/
protected theorem bind {x : Machine σ α} {f : α → Machine σ β} (hx : StaysInBounds x)
    (hf : ∀ a, StaysInBounds (f a)) : StaysInBounds (x >>= f) := by
  intro w s h
  rcases Exec.run_bind_eq_error.mp h with h₁ | ⟨a, w₁, -, h₂⟩
  · exact hx w s h₁
  · exact hf a w₁ s h₂

/-- A case distinction. -/
protected theorem ite {c : Prop} [Decidable c] {x y : Machine σ α} (hx : StaysInBounds x)
    (hy : StaysInBounds y) : StaysInBounds (if c then x else y) := by
  split
  · exact hx
  · exact hy

/-- A call that has no way to fail. -/
protected theorem ask (call : σ → α × σ) : StaysInBounds (ask call) := by
  intro w s h
  cases h

/-- A call. -/
protected theorem sys (call : σ → Except Errno α × σ) : StaysInBounds (sys call) := by
  intro w s h
  obtain ⟨e, hrun⟩ := exists_run_sys call w
  cases hrun.symm.trans h

/-- A call that leaves an answer. -/
protected theorem sysAnswer (call : σ → (α × Except Errno Unit) × σ) :
    StaysInBounds (sysAnswer call) := by
  intro w s h
  obtain ⟨e, hrun⟩ := exists_run_sysAnswer call w
  cases hrun.symm.trans h

end StaysInBounds

section Calls

variable (os : Os σ) (fuel : ℕ) (fd : Int)

theorem staysInBounds_cc1120Strobe (cmd : UInt8) : StaysInBounds (cc1120Strobe os fd cmd) :=
  (StaysInBounds.sys _).bind fun _ => .pure _

theorem staysInBounds_carrierSense (left : ℕ) : StaysInBounds (carrierSense os fd left) := by
  induction left with
  | zero => exact (StaysInBounds.sys _).bind fun _ => .pure _
  | succ left ih =>
    exact (StaysInBounds.sys _).bind fun _ => (StaysInBounds.sysAnswer _).bind fun _ =>
      .ite (.pure _) ih

theorem staysInBounds_waitTxDone (deadline : Timeval) (fgstart : Bool) :
    StaysInBounds (waitTxDone os fd deadline fuel fgstart) := by
  induction fuel generalizing fgstart with
  | zero =>
    intro w s h
    cases h
    rfl
  | succ fuel ih =>
    exact (StaysInBounds.sysAnswer _).bind fun _ => .ite (.pure _)
      ((StaysInBounds.ask _).bind fun _ => .ite (.pure _)
        ((StaysInBounds.sys _).bind fun _ => ih _))

/-- A packet that fits is collected in bounds. -/
theorem staysInBounds_writeRf {buf : Bytes} (hfit : buf.length ≤ 127) :
    StaysInBounds (writeRf os fd buf) := by
  intro w s h
  obtain ⟨e, hrun⟩ := exists_run_writeRf os fd w hfit
  cases hrun.symm.trans h

/-- A packet is sent in bounds exactly when it fits the array behind its length byte. -/
theorem staysInBounds_ttaRfSend {pkt : Bytes} (hfit : pkt.length ≤ 127) :
    StaysInBounds (ttaRfSend os fuel fd pkt) := by
  have hend (rc : ℕ) (sent : Bool) : StaysInBounds (do
      cc1120Strobe os fd Cc1120.SIDLE
      cc1120Strobe os fd Cc1120.SFTX
      return if sent then some rc else none : Machine σ (Option ℕ)) :=
    (staysInBounds_cc1120Strobe os fd _).bind fun _ =>
      (staysInBounds_cc1120Strobe os fd _).bind fun _ => .pure _
  refine (staysInBounds_cc1120Strobe os fd _).bind fun _ =>
    (staysInBounds_cc1120Strobe os fd _).bind fun _ =>
    (staysInBounds_writeRf os fd hfit).bind fun rc =>
    (staysInBounds_cc1120Strobe os fd _).bind fun _ =>
    (staysInBounds_carrierSense os fd _).bind fun _ => StaysInBounds.ite ?_ ?_
  · exact (staysInBounds_cc1120Strobe os fd _).bind fun _ => (StaysInBounds.ask _).bind fun _ =>
      (staysInBounds_waitTxDone os fuel fd _ _).bind fun sent => hend rc sent
  · exact (StaysInBounds.pure _).bind fun sent => hend rc sent

end Calls

/-! ## Sending -/

/-- The packet `f` is sent in bounds: no array is left; what is written to the transmit FIFO is the
packet behind its length byte, and fits the transfer buffer; and a packet that does not fit is
refused.
-/
structure SendsInBounds (os : Os σ) (fuel : ℕ) (fd : Int) (f : Bytes) : Prop where
  inside : StaysInBounds (ttaRfSend os.traced fuel fd f)
  written : ∀ w w' r, (ttaRfSend os.traced fuel fd f).run w = .ok (r, w') →
    ∃ evs, w'.log = evs ++ w.log ∧ ∀ bs failure, Event.fifoWrite bs failure ∈ evs →
      ∃ len, bs = len :: f ∧ len.toNat = f.length ∧ bs.length ≤ spiBufferSize
  refused : ∀ w w' r, (ttaRfSend os.traced fuel fd f).run w = .ok (r, w') → 127 < f.length →
    r = none

/-- The only packet that is written to the transmit FIFO is the one that is sent, behind its length
byte. -/
theorem written_of_ttaRfSend {os : Os σ} {fuel : ℕ} {fd : Int} {f : Bytes} (hfit : f.length ≤ 127)
    {w w' : Traced σ} {r : Option ℕ} (h : (ttaRfSend os.traced fuel fd f).run w = .ok (r, w')) :
    ∃ evs, w'.log = evs ++ w.log ∧ ∀ bs failure, Event.fifoWrite bs failure ∈ evs →
      bs = UInt8.ofNat f.length :: f := by
  have hstrobe (cmd : UInt8) := along_quiet (L := [.strobe, .other])
    (quiet_cc1120Strobe os fd cmd) (by decide)
  have hend (rc : ℕ) (sent : Bool) : Exec.Along (Quiet [.strobe, .other]) (do
      cc1120Strobe os.traced fd Cc1120.SIDLE
      cc1120Strobe os.traced fd Cc1120.SFTX
      return if sent then some rc else none) :=
    (hstrobe _).bind fun _ => (hstrobe _).bind fun _ => .pure _
  unfold ttaRfSend at h
  obtain ⟨u₁, w₁, h₁, h⟩ := Exec.run_bind_eq_ok.mp h
  obtain ⟨u₂, w₂, h₂, h⟩ := Exec.run_bind_eq_ok.mp h
  obtain ⟨before, hadds, hbefore⟩ : Quiet [.strobe, .other] w w₂ :=
    trans_of _ (hstrobe _ _ _ _ h₁) (hstrobe _ _ _ _ h₂)
  obtain ⟨rc, w₃, h₃, h⟩ := Exec.run_bind_eq_ok.mp h
  obtain ⟨e, hwrite⟩ := exists_run_writeRf os.traced fd w₂ hfit
  obtain ⟨rfl, rfl⟩ := Prod.mk.inj (Except.ok.inj (hwrite.symm.trans h₃))
  obtain ⟨after, hafter, hkinds⟩ : Quiet [.strobe, .other] _ w' := by
    refine Exec.Along.bind (hstrobe _) (fun _ => ?_) _ _ _ h
    refine (along_quiet (quiet_carrierSense os fd _) (by decide)).bind fun _ =>
      Exec.Along.ite ?_ ?_
    · exact (hstrobe _).bind fun _ => Exec.Along.bind quiet_ask fun _ =>
        (along_quiet (quiet_waitTxDone os fuel fd _ _) (by decide)).bind fun sent => hend _ sent
    · exact (Exec.Along.pure _).bind fun sent => hend _ sent
  set failure := failureOf (os.fifoWrite fd (UInt8.ofNat f.length :: f) (os.garbage w₂.dev.1).2).1
  have hlog : w'.log =
      after ++ (.fifoWrite (UInt8.ofNat f.length :: f) failure :: before) ++ w.log := by
    rw [hafter.log, List.append_assoc, List.cons_append, ← hadds.log]
    rfl
  have hquiet {evs : List Event} (hevs : ∀ e ∈ evs, e.kind ∈ [Kind.strobe, .other]) (bs : Bytes)
      (failure : Option Errno) : Event.fifoWrite bs failure ∉ evs := by
    intro hmem
    have hkind : Kind.fifoWrite ∈ [Kind.strobe, .other] := hevs _ hmem
    exact absurd hkind (by decide)
  refine ⟨_, hlog, fun bs failure' hmem => ?_⟩
  rcases List.mem_append.mp hmem with hmem | hmem
  · exact absurd hmem (hquiet hkinds _ _)
  rcases List.mem_cons.mp hmem with heq | hmem
  · exact (Event.fifoWrite.inj heq).1
  · exact absurd hmem (hquiet hbefore _ _)

/-- A packet is sent in bounds exactly when it fits the array it is collected in, behind its length
byte. -/
theorem sendsInBounds_iff_length (os : Os σ) (fuel : ℕ) (fd : Int) (f : Bytes) (w : World σ) :
    SendsInBounds os fuel fd f ↔ f.length ≤ 127 := by
  constructor
  · intro h
    by_contra hlong
    cases h.inside w.traced (.store .fifo)
      (run_ttaRfSend_overrun os.traced fd fuel f w.traced (not_le.mp hlong))
  · intro hfit
    refine ⟨staysInBounds_ttaRfSend os.traced fuel fd hfit, fun w w' r hrun => ?_,
      fun w w' r hrun hlong => absurd hfit (not_le.mpr hlong)⟩
    obtain ⟨evs, hlog, hwritten⟩ := written_of_ttaRfSend hfit hrun
    refine ⟨evs, hlog, fun bs failure hmem => ?_⟩
    obtain rfl := hwritten bs failure hmem
    have hlen : (UInt8.ofNat f.length).toNat = f.length := by
      rw [UInt8.toNat_ofNat']
      omega
    exact ⟨_, rfl, hlen, by rw [List.length_cons, spiBufferSize]; omega⟩

/-! ## Receiving -/

/-- The count of the payload in the header that is read, which comes from the radio packet or, when
that is short, from what has been in the static receive buffer. -/
def RadioRead.announced (p : RadioRead) (rxfifo : Bytes) : Option UInt8 :=
  (p.payload ++ rxfifo.drop p.payload.length)[7]?

/-- What the radio shows fits: as many bytes as the length byte says lie in the local array, and the
packet that the header announces lies in the static receive buffer. -/
def RadioRead.Fits (p : RadioRead) (rxfifo : Bytes) : Prop :=
  p.len.toNat ≤ 127 ∧
    ∀ d, p.announced rxfifo = some d → BackendType.rf.frameLength d.toNat ≤ 128

/-- A call of the receive function stays in bounds: no array is left, no more is transferred than
the transfer buffer holds, and a packet that does not fit is refused. -/
structure ReceivesInBounds (os : Os σ) (fuel : ℕ) (w : World σ) : Prop where
  inside : ∀ pkt fgtimeout s, pkt.length = maxMessageLength →
    (ttaRfReceive os fuel pkt fgtimeout).run w = .error s → s = .fuel
  transferred : ∀ p, w.radioRead os fuel = .ok (some p) → p.numrx.toNat ≤ spiBufferSize
  refused : ∀ pkt fgtimeout r w' p, pkt.length = maxMessageLength →
    (ttaRfReceive os fuel pkt fgtimeout).run w = .ok (r, w') →
    w.radioRead os fuel = .ok (some p) → ¬p.Fits w.rxfifo.1 → r.1 = none

/-- What the radio shows is handled in bounds: two status bytes are there and all fit the local
array, and if the CRC flag is set, the length byte stays inside it, and the header announces a
packet that lies in the static receive buffer or is refused. -/
structure RadioRead.InBounds (p : RadioRead) (rxfifo : Bytes) : Prop extends p.Inside where
  announced : p.status &&& 0x80 ≠ 0 → ∀ d, p.announced rxfifo = some d →
    d.toNat ≤ 118 ∨ 247 ≤ d.toNat

/-- What the radio shows is handled in bounds exactly when it is read without leaving an array. -/
theorem inBounds_iff (p : RadioRead) (v : List.Vector UInt8 128) :
    p.InBounds v.1 ↔ ∀ s, p.reading v.1 = .error s → s = .fuel := by
  have hend := p.takenEnd
  unfold RadioRead.reading
  generalize p.taken = x at hend
  cases hend with
  | outside hs hnot => exact ⟨fun h => absurd h.toInside hnot, fun h => absurd (h _ rfl) hs⟩
  | bad hinside hstatus =>
    exact ⟨by rintro - s ⟨⟩, fun _ => ⟨hinside, absurd hstatus⟩⟩
  | good hinside hstatus =>
    have hlen := hinside.len_le hstatus
    have hbehind : (p.payload ++ v.1.drop p.payload.length).length = 128 :=
      length_behind v (by rw [RadioRead.length_payload hinside.le_array hlen]; omega)
    have hann : p.announced v.1 = some (p.payload ++ v.1.drop p.payload.length)[7] :=
      List.getElem?_eq_getElem (by omega)
    set d := (p.payload ++ v.1.drop p.payload.length)[7] with hd
    have hframe : BackendType.rf.frameLength d.toNat = d.toNat + 10 := by
      rw [BackendType.frameLength, BackendType.headerLength, BackendType.checksumLength]
      omega
    change p.InBounds v.1 ↔ ∀ s, rfReading _ = .error s → _
    rw [rfReading_eq hbehind hann, hframe]
    constructor
    · intro h s hs
      have hcases := h.announced hstatus d hann
      by_cases hlong : 256 < d.toNat + 10
      · rw [if_pos hlong] at hs
        cases hs
      · rw [if_neg hlong, if_neg (by omega)] at hs
        cases hs
    · intro h
      refine ⟨hinside, fun _ d' hd' => ?_⟩
      obtain rfl : d = d' := Option.some.inj (hann.symm.trans hd')
      by_contra hnot
      cases h (.load .rxfifo) (by rw [if_neg (by omega), if_pos (by omega)])

/-- What does not fit and is handled in bounds is refused. -/
theorem RadioRead.InBounds.reading_eq_none {p : RadioRead} {v : List.Vector UInt8 128}
    (h : p.InBounds v.1) (hnot : ¬p.Fits v.1) : p.reading v.1 = .ok none := by
  have hend := p.takenEnd
  unfold RadioRead.reading
  generalize p.taken = x at hend
  cases hend with
  | outside hs hout => exact absurd h.toInside hout
  | bad => rfl
  | good hinside hstatus =>
    have hlen := hinside.len_le hstatus
    obtain ⟨d, hann, hframe⟩ : ∃ d, p.announced v.1 = some d ∧
        ¬BackendType.rf.frameLength d.toNat ≤ 128 := by
      by_contra hall
      refine hnot ⟨hlen, fun d hd => ?_⟩
      by_contra hlong
      exact hall ⟨d, hd, hlong⟩
    have hcases := h.announced hstatus d hann
    have hbehind : (p.payload ++ v.1.drop p.payload.length).length = 128 :=
      length_behind v (by rw [RadioRead.length_payload hinside.le_array hlen]; omega)
    change rfReading _ = _
    rw [rfReading_eq hbehind hann, if_pos]
    rw [BackendType.frameLength, BackendType.headerLength, BackendType.checksumLength] at hframe ⊢
    omega

/-- A call of the receive function on a context that an application may hold stays in bounds exactly
when what the radio shows is handled in bounds. -/
theorem receivesInBounds_iff (os : Os σ) (fuel : ℕ) {w : World σ} {n : ℕ} (hw : Reachable w.ctx n)
    (htype : w.ctx.type = .rf) :
    ReceivesInBounds os fuel w ↔
      ∀ p, w.radioRead os fuel = .ok (some p) → p.InBounds w.rxfifo.1 := by
  have hreturned {pkt : Bytes} (fgtimeout : Bool) (hpkt : pkt.length = maxMessageLength) :
      ((ttaRfReceive os fuel pkt fgtimeout).run w).map (fun r => returned r.1) =
        rfResult w.rxfifo.1 (w.radioRead os fuel) :=
    returned_ttaRfReceive os fuel fgtimeout (by rw [hpkt]; exact BackendType.maxAduLength_le _)
      htype hw.counts.flag
  constructor
  · intro h p hp
    refine (inBounds_iff p w.rxfifo).mpr fun s hs => ?_
    have hpkt : (List.replicate maxMessageLength (0 : UInt8)).length = maxMessageLength :=
      List.length_replicate
    have hrun := hreturned false hpkt
    rw [hp, rfResult, hs] at hrun
    cases hres : (ttaRfReceive os fuel (List.replicate maxMessageLength 0) false).run w with
    | ok r =>
      rw [hres] at hrun
      cases hrun
    | error s' =>
      rw [hres] at hrun
      cases hrun
      exact h.inside _ false s hpkt hres
  · intro h
    refine ⟨fun pkt fgtimeout s hpkt hrun => ?_, fun p _ => p.numrx.toNat_lt.le, ?_⟩
    · have hres := hreturned fgtimeout hpkt
      rw [hrun] at hres
      cases hread : w.radioRead os fuel with
      | error s' =>
        rw [hread] at hres
        cases hres
        exact eq_fuel_of_radioRead hread
      | ok shown =>
        cases shown with
        | none =>
          rw [hread] at hres
          cases hres
        | some p =>
          rw [hread] at hres
          exact (inBounds_iff p w.rxfifo).mp (h p hread) s hres.symm
    · intro pkt fgtimeout r w' p hpkt hrun hread hnot
      have hres := hreturned fgtimeout hpkt
      rw [hrun, hread, rfResult, (h p hread).reading_eq_none hnot] at hres
      exact Option.map_eq_none_iff.mp (Except.ok.inj hres)

/-- The FIFO arrays of the RF backend are never left, and what does not fit them is refused, exactly
for the messages with a payload of at most 117 bytes, and when what the radio shows is handled in
bounds. -/
theorem fifo_in_bounds_iff (os : Os σ) (fuel : ℕ) {w : World σ} {n : ℕ} {d : TtaRf} (m : Ttamsg)
    (hw : Reachable w.ctx n) (hbe : w.ctx.backend = .rf d) :
    (SendsInBounds os fuel w.ctx.s ((Backend.rf d).frame m) ↔ m.hd.datalen.toNat ≤ 117) ∧
      (ReceivesInBounds os fuel w ↔
        ∀ p, w.radioRead os fuel = .ok (some p) → p.InBounds w.rxfifo.1) := by
  refine ⟨?_, receivesInBounds_iff os fuel hw (by rw [Tta.type, hbe]; rfl)⟩
  rw [sendsInBounds_iff_length os fuel w.ctx.s _ w, Backend.length_frame, Ttamsg.frameLength,
    Backend.type, BackendType.frameLength, BackendType.headerLength, BackendType.checksumLength]
  omega

/-- The frame of a message without payload is sent in bounds, and received in bounds. -/
theorem fifo_in_bounds_iff_frame :
    (SendsInBounds radioOs 2 (-1) ((Backend.rf ⟨"/dev/spidev1.0", 1, 2, 3, 4, false⟩).frame
      (ttamsgMake 1 0 0x10 [] 0 (by decide)))) ∧
      ReceivesInBounds radioOs 1
        (rfHears [10, 1, 2, 3, 4, 1, 0, 0x10, 0, 0x15, 0x30, 0, 0x80]) := by
  obtain ⟨hsend, -⟩ := fifo_in_bounds_iff radioOs 2 (w := rfEnd)
    (ttamsgMake 1 0 0x10 [] 0 (by decide)) (.newRf "/dev/spidev1.0" 1 2 3 4) rfl
  obtain ⟨-, hreceive⟩ := fifo_in_bounds_iff radioOs 1
    (w := rfHears [10, 1, 2, 3, 4, 1, 0, 0x10, 0, 0x15, 0x30, 0, 0x80])
    (ttamsgMake 1 0 0x10 [] 0 (by decide)) (.newRf "/dev/spidev1.0" 1 2 3 4) rfl
  refine ⟨hsend.mpr (by decide), hreceive.mpr fun p hp => ?_⟩
  cases hp
  refine ⟨⟨by decide, by decide, fun _ => by decide⟩, fun _ d hd => ?_⟩
  cases hd
  decide

/-- A frame with a payload of 118 bytes leaves the array it is collected in, and a radio packet
whose header announces 119 bytes makes the reader leave the static receive buffer. -/
theorem not_fifo_in_bounds :
    ¬SendsInBounds radioOs 2 (-1) ((Backend.rf ⟨"/dev/spidev1.0", 1, 2, 3, 4, false⟩).frame
      (ttamsgMake 1 0 0x10 (List.replicate 118 0) 118 (by decide))) ∧
      ¬ReceivesInBounds radioOs 1 (rfHears [8, 1, 2, 3, 4, 1, 0, 0x10, 119, 0, 0x80]) := by
  constructor
  · intro h
    have hlong : 127 < ((Backend.rf ⟨"/dev/spidev1.0", 1, 2, 3, 4, false⟩).frame
        (ttamsgMake 1 0 0x10 (List.replicate 118 0) 118 (by decide))).length := by
      rw [Backend.length_frame]
      decide
    cases h.inside rfEnd.traced (.store .fifo)
      (run_ttaRfSend_overrun radioOs.traced (-1) 2 _ rfEnd.traced hlong)
  · intro h
    have hrun : ((ttaRfReceive radioOs 1 (List.replicate maxMessageLength 0) false).run
        (rfHears [8, 1, 2, 3, 4, 1, 0, 0x10, 119, 0, 0x80])).map (fun r => r.1.1) =
          .error (.load .rxfifo) := by
      decide +kernel
    cases hres : (ttaRfReceive radioOs 1 (List.replicate maxMessageLength 0) false).run
        (rfHears [8, 1, 2, 3, 4, 1, 0, 0x10, 119, 0, 0x80]) with
    | ok r =>
      rw [hres] at hrun
      cases hrun
    | error s =>
      rw [hres] at hrun
      cases hrun
      cases h.inside _ false _ List.length_replicate hres

end Libtta
