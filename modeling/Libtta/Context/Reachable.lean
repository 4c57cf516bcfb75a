import Libtta.Context.Bounds
import Libtta.Model.Api

/-!
# Reachable contexts

What the public functions do to the backend of a context, whatever the operating system does: the
functions that send step the transaction counter once, the functions that receive change nothing,
and the flag stays clear. It follows that in every reachable context no confirmation is to be
ignored, and that the transaction counter of a TCP context counts its packets modulo 65536.
-/

namespace Libtta

variable {σ : Type} {os : Os σ} {fuel : ℕ} {w w' : World σ}

/-! ## One call -/

/-- The step of the transaction counter. -/
theorem toNat_nextTid (tid : UInt16) : (nextTid tid).toNat = (tid.toNat + 1) % 65536 := by
  have htid := tid.toNat_lt
  unfold nextTid
  by_cases h : tid < 65535
  · rw [if_pos h, UInt16.toNat_add]
    rfl
  · have hmax : ¬tid.toNat < 65535 := fun h' => h (UInt16.lt_iff_toNat_lt.mpr h')
    rw [if_neg h, show tid.toNat = 65535 by omega]
    rfl

/-- Building a packet steps the counter. -/
theorem ctx_of_convTtamsg2pkt {m : Ttamsg} {pkt : Bytes} {r : Bytes × ℕ}
    (h : (convTtamsg2pkt m pkt).run w = .ok (r, w')) : w'.ctx = w.ctx.stepped := by
  rw [(run_convTtamsg2pkt_eq_ok h).2.1]

/-- Sending a message steps the counter and changes nothing else of the backend. -/
theorem backend_of_ttaSend {m : Ttamsg} {r : Option ℕ}
    (h : (ttaSend os fuel m).run w = .ok (r, w')) :
    w'.ctx.backend = w.ctx.backend.stepped := by
  obtain ⟨buf, w₁, h₁, h⟩ := Exec.run_bind_eq_ok.mp h
  obtain ⟨⟨pkt, len⟩, w₂, h₂, h⟩ := Exec.run_bind_eq_ok.mp h
  have hb₁ : w₁.ctx.backend = w.ctx.backend :=
    (Keeps.uninit (P := (· = w.ctx.backend)) os _).of_ok rfl h₁
  have hb₂ : w₂.ctx.backend = w.ctx.backend.stepped := by
    rw [ctx_of_convTtamsg2pkt h₂, Tta.stepped, hb₁]
  exact (keeps_sendPkt (P := (· = w.ctx.backend.stepped)) os fuel _).of_ok hb₂ h

/-- The first half of a request builds the frame of the request, steps the counter and changes
nothing else of the backend. -/
theorem backend_of_ttaRequestSend {req : Ttamsg} {r : Bytes × Option ℕ}
    (h : (ttaRequestSend os fuel req).run w = .ok (r, w')) :
    w'.ctx.backend = w.ctx.backend.stepped ∧ w.ctx.backend.frame req <+: r.1 := by
  obtain ⟨buf, w₁, h₁, h⟩ := Exec.run_bind_eq_ok.mp h
  obtain ⟨⟨pkt, len⟩, w₂, h₂, h⟩ := Exec.run_bind_eq_ok.mp h
  obtain ⟨rc, w₃, h₃, h⟩ := Exec.run_bind_eq_ok.mp h
  cases h
  have hb₁ : w₁.ctx.backend = w.ctx.backend :=
    (Keeps.uninit (P := (· = w.ctx.backend)) os _).of_ok rfl h₁
  have hb₂ : w₂.ctx.backend = w.ctx.backend.stepped := by
    rw [ctx_of_convTtamsg2pkt h₂, Tta.stepped, hb₁]
  exact ⟨(keeps_sendPkt (P := (· = w.ctx.backend.stepped)) os fuel _).of_ok hb₂ h₃,
    hb₁ ▸ (run_convTtamsg2pkt_eq_ok h₂).2.2.1⟩

@[simp] theorem Backend.confirmationToIgnore_stepped (be : Backend) :
    be.stepped.confirmationToIgnore = be.confirmationToIgnore := by
  cases be <;> rfl

section Flag

variable (hflag : w.ctx.backend.confirmationToIgnore = false)
include hflag

/-- Receiving a message leaves the backend alone. -/
theorem backend_of_ttaReceive {fgtm : Bool} {r : Option (ℕ × Ttamsg)}
    (h : (ttaReceive os fuel fgtm).run w = .ok (r, w')) : w'.ctx.backend = w.ctx.backend :=
  (keeps_ttaReceive (P := (· = w.ctx.backend)) os fuel (b := w.ctx.type)
    (fun _ h => congrArg Backend.type h)
    (fun _ h => by rw [h, Backend.setConfirmationToIgnore_false hflag]) fgtm).of_ok rfl h

/-- The second half of a request leaves the backend alone. -/
theorem backend_of_ttaRequestReceive {reqbuf : Bytes} {r : Option Ttamsg}
    (h : (ttaRequestReceive os fuel reqbuf).run w = .ok (r, w')) :
    w'.ctx.backend = w.ctx.backend :=
  (keeps_ttaRequestReceive (P := (· = w.ctx.backend)) os fuel (b := w.ctx.type)
    (fun _ h => congrArg Backend.type h)
    (fun _ h => by rw [h, Backend.setConfirmationToIgnore_false hflag]) reqbuf).of_ok rfl h

/-- A request steps the counter and changes nothing else of the backend. -/
theorem backend_of_ttaRequest {req : Ttamsg} {r : Option Ttamsg}
    (h : (ttaRequest os fuel req).run w = .ok (r, w')) :
    w'.ctx.backend = w.ctx.backend.stepped := by
  obtain ⟨⟨reqbuf, rc⟩, w₁, h₁, h⟩ := Exec.run_bind_eq_ok.mp h
  have hb₁ := (backend_of_ttaRequestSend h₁).1
  cases rc with
  | none =>
    cases h
    exact hb₁
  | some n =>
    have hflag₁ : w₁.ctx.backend.confirmationToIgnore = false := by
      rw [hb₁, Backend.confirmationToIgnore_stepped, hflag]
    exact (backend_of_ttaRequestReceive hflag₁ h).trans hb₁

end Flag

/-! ## All calls -/

/-- What a reachable context that has built `n` packets may have as its backend: the flag is clear,
and the counter of a TCP backend counts the packets. -/
structure Backend.Counts (be : Backend) (n : ℕ) : Prop where
  flag : be.confirmationToIgnore = false
  tid : ∀ d, be = .tcp d → d.tid.toNat = n % 65536

/-- Building a packet counts. -/
theorem Backend.Counts.stepped {be : Backend} {n : ℕ} (h : be.Counts n) :
    be.stepped.Counts (n + 1) where
  flag := by rw [confirmationToIgnore_stepped, h.flag]
  tid := by
    cases be with
    | tcp d =>
      rintro _ ⟨⟩
      change (Libtta.nextTid d.tid).toNat = _
      rw [toNat_nextTid, h.tid d rfl]
      omega
    | rs485 d => rintro _ ⟨⟩
    | rf d => rintro _ ⟨⟩

/-- Every call counts the packets it builds. -/
theorem counts_of_call {c : Call} {n : ℕ} (h : w.ctx.backend.Counts n)
    (hrun : (c.run os fuel).run w = .ok ((), w')) : w'.ctx.backend.Counts (n + c.packets) := by
  have hkeep {x : Machine σ Unit} (hx : Keeps (·.Counts n) x) (hr : x.run w = .ok ((), w')) :
      w'.ctx.backend.Counts n := hx.of_ok h hr
  have hset {f : Tta → Tta} (hr : (modifyCtx f).run w = .ok ((), w'))
      (hf : (f w.ctx).backend = w.ctx.backend) : w'.ctx.backend.Counts n := by
    cases hr
    rw [hf]
    exact h
  cases c with
  | send m =>
    obtain ⟨r, w₁, h₁, ⟨⟩⟩ := Exec.run_bind_eq_ok.mp hrun
    rw [backend_of_ttaSend h₁]
    exact h.stepped
  | reply req data =>
    obtain ⟨r, w₁, h₁, ⟨⟩⟩ := Exec.run_bind_eq_ok.mp hrun
    rw [backend_of_ttaSend h₁]
    exact h.stepped
  | request req =>
    obtain ⟨r, w₁, h₁, ⟨⟩⟩ := Exec.run_bind_eq_ok.mp hrun
    rw [backend_of_ttaRequest h.flag h₁]
    exact h.stepped
  | convTtamsg2pkt m pkt =>
    obtain ⟨r, w₁, h₁, ⟨⟩⟩ := Exec.run_bind_eq_ok.mp hrun
    rw [ctx_of_convTtamsg2pkt h₁]
    exact h.stepped
  | receive fgtm =>
    obtain ⟨r, w₁, h₁, ⟨⟩⟩ := Exec.run_bind_eq_ok.mp hrun
    rw [backend_of_ttaReceive h.flag h₁]
    exact h
  | connect => exact hkeep ((keeps_ttaConnect os fuel).bind fun _ => .pure _) hrun
  | close => exact hkeep (keeps_ttaClose os) hrun
  | flush => exact hkeep ((keeps_ttaFlush os fuel).bind fun _ => .pure _) hrun
  | setErrorRecovery v => exact hset hrun rfl
  | setSocket s => exact hset hrun rfl
  | setResponseTimeout tv => exact hset hrun rfl
  | setByteTimeout tv => exact hset hrun rfl
  | setIp ip port =>
    cases hrun
    change (ttaTcpSetIp ip port w.ctx).backend.Counts n
    rw [ttaTcpSetIp]
    cases hbe : w.ctx.backend with
    | tcp d => exact ⟨rfl, by rintro _ ⟨⟩; exact h.tid d hbe⟩
    | rs485 d => exact h
    | rf d => exact h
  | setId id0 id1 id2 id3 =>
    cases hrun
    change (ttaRfSetId id0 id1 id2 id3 w.ctx).backend.Counts n
    rw [ttaRfSetId]
    cases hbe : w.ctx.backend with
    | tcp d => exact h
    | rs485 d => exact h
    | rf d => exact ⟨(congrArg Backend.confirmationToIgnore hbe).symm.trans h.flag, by rintro _ ⟨⟩⟩
  | setRts mode =>
    refine hkeep (Keeps.bind (Keeps.getCtx fun ctx hctx => ?_) fun _ => .pure _) hrun
    cases hbe : ctx.backend with
    | tcp d => exact (Keeps.setErrno _).bind fun _ => .pure _
    | rf d => exact (Keeps.setErrno _).bind fun _ => .pure _
    | rs485 d =>
      rw [hbe] at hctx
      have hmodify : Keeps (·.Counts n) (modifyCtx fun ctx =>
          { ctx with backend := .rs485 { d with rts := mode } } : Machine σ Unit) :=
        Exec.Triple.modify fun _ _ => ⟨hctx.flag, by rintro _ ⟨⟩⟩
      exact hmodify.bind fun _ => (keeps_ttaRs485IoctlRts os _ _).bind fun _ => .pure _

/-- In every reachable context the flag is clear and the counter counts the packets. -/
theorem Reachable.counts {ctx : Tta} {n : ℕ} (h : Reachable ctx n) : ctx.backend.Counts n := by
  induction h with
  | newTcp ip port => exact ⟨rfl, by rintro _ ⟨⟩; rfl⟩
  | newRs485 device => exact ⟨rfl, by rintro _ ⟨⟩⟩
  | newRf device id0 id1 id2 id3 => exact ⟨rfl, by rintro _ ⟨⟩⟩
  | call os fuel c hctx hrun ih => exact counts_of_call ih hrun

end Libtta
