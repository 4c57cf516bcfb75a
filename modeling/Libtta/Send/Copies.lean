import Libtta.Send.Attempts
import Libtta.Model.Api

/-!
# How many copies of a frame are sent

A call of `tta_send` should report success exactly when one copy of the frame has been accepted by
the device. The attempts of the call decide about that (`sent_once_iff`): a write of the RS485
backend that fails is reported as 0, as is a write that accepts nothing, and an attempt whose bytes
have all been accepted is repeated by the link recovery when the transmitter stays busy.
-/

namespace Libtta

variable {σ : Type}

/-! ## Copies -/

/-- Has the device accepted the whole frame? -/
def Attempt.complete (frame : Bytes) (a : Attempt) : Bool :=
  match a.res with
  | .ok n => a.bs == frame && frame.length ≤ n
  | .error _ => false

/-- The number of complete copies of the frame that the device has accepted. -/
def copies (frame : Bytes) (as : List Attempt) : ℕ := as.countP (Attempt.complete frame)

/-- A call that reports success has sent one copy, and a call that has sent no copy reports a
failure. -/
def SentOnce (frame : Bytes) (as : List Attempt) (r : Option ℕ) : Prop :=
  (r.isSome → copies frame as = 1) ∧ (copies frame as = 0 → r = none)

/-- The outcomes of the writes and polls of a call with which one copy is sent: the last attempt
decides. A TCP connection has not accepted 0 bytes. On an RS485 line, a last write that fails, or
that accepts nothing before the transmitter is empty, follows a single copy whose attempt was
repeated; and a last write that is accepted as a whole, before the transmitter is empty, follows
none. The radio makes no such attempts. -/
def SendsOnce (frame : Bytes) : BackendType → List Attempt → Prop
  | _, [] => True
  | .rf, _ :: _ => True
  | .tcp, a :: _ => a.res ≠ .ok 0
  | .rs485, a :: as =>
    match a.res with
    | .error _ => copies frame as = 1
    | .ok n => a.drained = true →
      (n = 0 → copies frame as = 1) ∧ (frame.length ≤ n → copies frame as = 0)

/-- A write that fails has sent no copy. -/
theorem complete_of_error {frame : Bytes} {a : Attempt} {e : Errno} (h : a.res = .error e) :
    a.complete frame = false := by
  rw [Attempt.complete, h]

/-- A write that succeeds has sent a copy if it was accepted as a whole. -/
theorem complete_of_ok {frame : Bytes} {a : Attempt} {n : ℕ} (h : a.res = .ok n)
    (hbs : a.bs = frame) : a.complete frame = decide (frame.length ≤ n) := by
  rw [Attempt.complete, h, hbs]
  simp

/-- The copies of one attempt more. -/
theorem copies_cons (frame : Bytes) (a : Attempt) (as : List Attempt) :
    copies frame (a :: as) = copies frame as + if a.complete frame then 1 else 0 :=
  List.countP_cons

/-- The attempts that a TCP connection repeats have sent nothing. -/
theorem copies_of_tcp {d : TtaTcp} {frame : Bytes} {as : List Attempt}
    (h : ∀ a ∈ as, (Backend.tcp d).sendResult a = none) : copies frame as = 0 := by
  rw [copies, List.countP_eq_zero]
  intro a ha
  have hnone := h a ha
  cases hres : a.res with
  | error e => simp [complete_of_error hres]
  | ok n =>
    rw [sendResult_tcp, writeResult, hres] at hnone
    cases hnone

/-! ## One call -/

/-- A call that does not report success cannot violate the rule. -/
theorem sentOnce_iff_of_isSome {frame : Bytes} {as : List Attempt} {r : Option ℕ} :
    SentOnce frame as r ↔ (r.isSome → copies frame as = 1) := by
  refine ⟨And.left, fun h => ⟨h, fun hzero => ?_⟩⟩
  cases r with
  | none => rfl
  | some n =>
    have hone := h rfl
    omega

/-- The result of a call on a TCP connection. -/
theorem sentOnce_tcp {d : TtaTcp} {frame : Bytes} {a : Attempt} {as : List Attempt}
    (hne : frame ≠ []) (hbs : a.bs = frame)
    (hearlier : ∀ a' ∈ as, (Backend.tcp d).sendResult a' = none) :
    SentOnce frame (a :: as) (sendPktResult frame.length ((Backend.tcp d).sendResult a)) ↔
      SendsOnce frame .tcp (a :: as) := by
  have hpos : 0 < frame.length := List.length_pos_iff.mpr hne
  rw [sentOnce_iff_of_isSome, copies_cons, copies_of_tcp hearlier, Nat.zero_add, SendsOnce]
  cases hres : a.res with
  | error e =>
    have hnone : (Backend.tcp d).sendResult a = none := by
      rw [sendResult_tcp, writeResult, hres]
      rfl
    rw [hnone]
    exact iff_of_true (by simp [sendPktResult]) (by simp)
  | ok n =>
    have hsome : (Backend.tcp d).sendResult a = some (min n frame.length) := by
      rw [sendResult_tcp, writeResult, hres, hbs]
      rfl
    rw [hsome, isSome_sendPktResult, complete_of_ok hres hbs]
    simp only [decide_eq_true_eq, ne_eq, Except.ok.injEq]
    constructor
    · intro h hzero
      have hone := h (by omega)
      rw [if_neg (by omega)] at hone
      cases hone
    · intro hn hcount
      rw [if_pos (by omega)]

/-- The result of a call on an RS485 line. -/
theorem sentOnce_rs485 {device : String} {serial : SerialSettings} {flag : Bool} {frame : Bytes}
    {a : Attempt} {as : List Attempt} (hne : frame ≠ []) (hbs : a.bs = frame) :
    SentOnce frame (a :: as)
        (sendPktResult frame.length ((Backend.rs485 ⟨device, serial, .none, flag⟩).sendResult a)) ↔
      SendsOnce frame .rs485 (a :: as) := by
  have hpos : 0 < frame.length := List.length_pos_iff.mpr hne
  rw [sentOnce_iff_of_isSome, copies_cons, SendsOnce]
  cases hres : a.res with
  | error e =>
    have hzero : (Backend.rs485 ⟨device, serial, .none, flag⟩).sendResult a = some 0 := by
      rw [sendResult_rs485_none, hres]
    rw [hzero, isSome_sendPktResult, complete_of_error hres]
    simp
  | ok n =>
    have hsome : (Backend.rs485 ⟨device, serial, .none, flag⟩).sendResult a =
        if a.drained then some (min n frame.length) else none := by
      rw [sendResult_rs485_none, hres, hbs]
    rw [hsome, complete_of_ok hres hbs]
    cases hdrained : a.drained with
    | false => exact iff_of_true (by simp [sendPktResult]) (by simp)
    | true =>
      rw [if_pos rfl, isSome_sendPktResult]
      simp only [decide_eq_true_eq, forall_const]
      constructor
      · intro h
        constructor
        · intro hzero
          have hone := h (by omega)
          rwa [if_neg (by omega)] at hone
        · intro hall
          have hone := h (by omega)
          rw [if_pos hall] at hone
          exact Nat.succ.inj hone
      · rintro ⟨hzero, hall⟩ hcount
        by_cases hfull : frame.length ≤ n
        · rw [if_pos hfull, hall hfull]
        · rw [if_neg hfull, hzero (by omega)]

/-- A call of `tta_send` on a TCP context, or on an RS485 context in the default mode of the RTS
line, that returns: it reports success exactly for one copy of the frame, and no success without a
copy, if and only if the outcomes of its writes and polls are such that one copy is sent. The
outcomes and the mode of error recovery are arbitrary. -/
theorem sent_once_iff {os : Os σ} {fuel : ℕ} {m : Ttamsg} {w w' : Traced σ} {r : Option ℕ}
    (hbe : (∃ d, w.ctx.backend = .tcp d) ∨
      ∃ device serial flag, w.ctx.backend = .rs485 ⟨device, serial, .none, flag⟩)
    (hrun : (ttaSend os.traced fuel m).run w = .ok (r, w')) :
    ∃ evs, w'.log = evs ++ w.log ∧
      (SentOnce (w.ctx.backend.frame m) (attempts evs) r ↔
        SendsOnce (w.ctx.backend.frame m) w.ctx.type (attempts evs)) := by
  have hrf : w.ctx.type ≠ .rf := by
    rw [Tta.type]
    rcases hbe with ⟨d, h⟩ | ⟨device, serial, flag, h⟩
    · rw [h]
      intro htype
      cases htype
    · rw [h]
      intro htype
      cases htype
  have hne : w.ctx.backend.frame m ≠ [] := by
    have hfour := w.ctx.backend.four_le_length_frame (m := m)
    rintro h
    rw [h, List.length_nil] at hfour
    omega
  obtain ⟨w₁, hw₁, hlog₁, hsend⟩ := exists_sendPkt_of_ttaSend hrun
  have hbe₁ : w₁.ctx.backend = w.ctx.backend.stepped := by rw [hw₁]; rfl
  obtain ⟨evs, a, as, hend⟩ := exists_sendEnd
    (by rw [hw₁]; exact w.ctx.type_stepped ▸ hrf) hsend
  have hloop := hend.loop
  have hresult := hend.result
  rw [hbe₁, Backend.sendResult_stepped] at hloop hresult
  refine ⟨evs, by rw [hend.log, hlog₁], ?_⟩
  rw [hend.attempts.eq, hresult]
  have hbs := hloop.bytes a List.mem_cons_self
  have hearlier : ∀ a' ∈ as, w.ctx.backend.sendResult a' = none := fun a' ha' =>
    (Backend.sendResult_stepped _ _).symm.trans (hloop.earlier a' ha')
  rcases hbe with ⟨d, h⟩ | ⟨device, serial, flag, h⟩
  · rw [Tta.type]
    rw [h] at hne hbs hearlier ⊢
    exact sentOnce_tcp hne hbs hearlier
  · rw [Tta.type]
    rw [h] at hne hbs ⊢
    exact sentOnce_rs485 hne hbs

/-- A device that accepts everything but fails its first `failures` writes, and whose transmitter is
busy until it has been written to `busy` times. -/
structure Uart where
  failures : ℕ
  busy : ℕ
  writes : ℕ

/-- The operating system with such a device. -/
def uartOs : Os Uart where
  write _ bs d :=
    (if d.writes < d.failures then .error .EAGAIN else .ok bs.length,
      { d with writes := d.writes + 1 })
  txEmpty _ d := ((decide (d.busy ≤ d.writes), .ok ()), d)

/-- A connected context, with an empty log. -/
def uartStart (ctx : Tta) (failures busy : ℕ) : Traced Uart :=
  ⟨{ ctx with s := 3 }, .other 0, List.Vector.replicate 128 0, 0, ⟨failures, busy, 0⟩, []⟩

/-- A message without payload. -/
def poke : Ttamsg := ttamsgMake 1 0 0x10 [] 0 (Nat.zero_le 0)

/-- One copy is sent by a device that accepts it at once. -/
theorem sent_once_iff_poke :
    ∃ w', (ttaSend uartOs.traced 1 poke).run (uartStart (ttaNewRs485 "/dev/ttyS0") 0 0) =
        .ok (some 7, w') ∧
      ∃ evs, w'.log = evs ++ [] ∧
        (SentOnce ((ttaNewRs485 "/dev/ttyS0").backend.frame poke) (attempts evs) (some 7) ↔
          SendsOnce ((ttaNewRs485 "/dev/ttyS0").backend.frame poke) .rs485 (attempts evs)) := by
  have hrun : ((ttaSend uartOs.traced 1 poke).run
      (uartStart (ttaNewRs485 "/dev/ttyS0") 0 0)).map Prod.fst = .ok (some 7) := by decide +kernel
  obtain ⟨⟨r, w'⟩, hrun, hr⟩ := Exec.exists_of_map_eq_ok hrun
  obtain rfl : r = some 7 := hr
  exact ⟨w', hrun, sent_once_iff (.inr ⟨_, _, _, rfl⟩) hrun⟩

/-- The write fails, no copy is sent, and `tta_send` returns 0. With link recovery, a transmitter
that is still busy after the first write makes `tta_send` send a second copy, and it returns 7. -/
theorem not_sent_once :
    ((ttaSend uartOs.traced 1 poke).run (uartStart (ttaNewRs485 "/dev/ttyS0") 1 0)).map
        (fun p => (p.1, copies ((ttaNewRs485 "/dev/ttyS0").backend.frame poke)
          (attempts p.2.log))) = .ok (some 0, 0) ∧
      ((ttaSend uartOs.traced 1 poke).run
        (uartStart (ttaSetErrorRecovery 2 (ttaNewRs485 "/dev/ttyS0")) 0 2)).map
          (fun p => (p.1, copies ((ttaNewRs485 "/dev/ttyS0").backend.frame poke)
            (attempts p.2.log))) = .ok (some 7, 2) :=
  ⟨by decide +kernel, by decide +kernel⟩

end Libtta
