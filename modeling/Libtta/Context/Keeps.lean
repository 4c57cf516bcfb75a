import Libtta.Context.Walk

/-!
# What the device side leaves alone

The functions of the library change a context in few places: connecting replaces the descriptor and
keeps the old settings of the line, an encoder steps the transaction counter, and the receive
functions keep a flag. The functions of the device side leave the backend alone, and none of them
writes outside a packet buffer. `Keeps` says both at once, for an arbitrary operating system. It has
one rule for each way of building a computation; for the functions of the device side it follows
from what they are made of, with `keeps_of_uses`.
-/

namespace Libtta

variable {σ α β : Type} {P : Backend → Prop}

/-- The computation keeps the property `P` of the backend, and it does not stop by writing outside
a packet buffer. -/
def Keeps (P : Backend → Prop) (x : Machine σ α) : Prop :=
  Exec.Triple (fun w => P w.ctx.backend) x (fun _ w => P w.ctx.backend) (· ≠ .store .pkt)

namespace Keeps

/-! ## Rules -/

/-- What `Keeps` says about a run that returns. -/
theorem of_ok {x : Machine σ α} (h : Keeps P x) {w w' : World σ} {a : α} (hw : P w.ctx.backend)
    (hr : x.run w = .ok (a, w')) : P w'.ctx.backend :=
  Exec.Triple.of_ok h hw hr

/-- What `Keeps` says about a run that stops. -/
theorem run_ne {x : Machine σ α} (h : Keeps P x) {w : World σ} (hw : P w.ctx.backend) :
    x.run w ≠ .error (.store .pkt) :=
  fun hr => Exec.Triple.of_error h hw hr rfl

/-- Returning a value. -/
protected theorem pure (a : α) : Keeps P (pure a : Machine σ α) :=
  Exec.Triple.pure fun _ h => h

/-- Sequential composition. -/
protected theorem bind {x : Machine σ α} {f : α → Machine σ β} (hx : Keeps P x)
    (hf : ∀ a, Keeps P (f a)) : Keeps P (x >>= f) :=
  Exec.Triple.bind hx hf

/-- A case distinction. -/
protected theorem ite {c : Prop} [Decidable c] {x y : Machine σ α} (hx : Keeps P x)
    (hy : Keeps P y) : Keeps P (if c then x else y) := by
  split
  · exact hx
  · exact hy

/-- Stopping, but not because of a packet buffer that is overrun. -/
protected theorem stop {e : Stop} (he : e ≠ .store .pkt) :
    Keeps P (Exec.stop e : Machine σ α) :=
  Exec.Triple.stop he

/-- An access to anything but a packet buffer, or a read. -/
protected theorem access {e : Stop} (he : e ≠ .store .pkt) (o : Option α) :
    Keeps P (Exec.access e o : Machine σ α) :=
  Exec.Triple.access (fun _ _ _ h => h) fun _ => he

/-- Updating anything but the backend. -/
protected theorem modify {g : World σ → World σ}
    (hg : ∀ w, (g w).ctx.backend = w.ctx.backend) : Keeps P (modify g : Machine σ PUnit) :=
  Exec.Triple.modify fun w h => by rw [hg w]; exact h

/-- Replacing the state. -/
protected theorem set {w : World σ} (hw : P w.ctx.backend) :
    Keeps P (set w : Machine σ PUnit) :=
  Exec.Triple.modify (g := fun _ => w) fun _ _ => hw

/-- Reading the context, with what is known of its backend. -/
protected theorem getCtx {f : Tta → Machine σ β} (hf : ∀ ctx, P ctx.backend → Keeps P (f ctx)) :
    Keeps P (getCtx >>= f) := by
  intro w hw
  rw [Exec.run_bind_of_ok (run_getCtx w)]
  exact hf w.ctx hw w hw

/-- Reading the state, with what is known of its backend. -/
protected theorem getWorld {f : World σ → Machine σ β}
    (hf : ∀ w, P w.ctx.backend → Keeps P (f w)) : Keeps P (get >>= f) :=
  fun w hw => hf w hw w hw

/-- Setting `errno`. -/
protected theorem setErrno (e : Errno) : Keeps P (setErrno e : Machine σ Unit) :=
  Keeps.modify fun _ => rfl

/-- A call that has no way to fail. -/
protected theorem ask (call : σ → α × σ) : Keeps P (ask call) := by
  intro w hw
  constructor
  · rintro a w' ⟨⟩
    exact hw
  · rintro e ⟨⟩

/-- A call. -/
protected theorem sys (call : σ → Except Errno α × σ) : Keeps P (sys call) := by
  refine (Keeps.ask call).bind fun r => ?_
  cases r with
  | ok a => exact .pure _
  | error e => exact (Keeps.setErrno e).bind fun _ => .pure _

/-- A call that leaves an answer. -/
protected theorem sysAnswer (call : σ → (α × Except Errno Unit) × σ) :
    Keeps P (sysAnswer call) := by
  refine (Keeps.ask call).bind fun ⟨a, r⟩ => ?_
  cases r with
  | ok u => exact .pure _
  | error e => exact (Keeps.setErrno e).bind fun _ => .pure _

/-- A local array. -/
protected theorem uninit (os : Os σ) (n : ℕ) : Keeps P (uninit os n) :=
  (Keeps.ask _).bind fun _ => .pure _

/-- A read of a packet buffer. -/
protected theorem loadByte (pkt : Bytes) (i : ℕ) : Keeps P (loadByte pkt i : Machine σ UInt8) :=
  .access (by simp) _

/-- A read of a block of a packet buffer. -/
protected theorem loadPkt (pkt : Bytes) (i n : ℕ) :
    Keeps P (loadPkt pkt i n : Machine σ Bytes) :=
  .access (by simp) _

end Keeps

/-! ## The device side -/

/-- The effects of the device side: neither the transaction counter nor the flag changes. -/
def deviceEffects : List Effect :=
  closeEffects ++ connectEffects ++ backendSendEffects ++ recoveryEffects ++
    [.select, .read, .fifoRead, .rxfifo]

/-- The steps of the device side leave the backend alone. -/
theorem keeps_of_does {os : Os σ} {k : Effect} {x : Machine σ α} (h : os.Does k x)
    (hk : k ∈ deviceEffects) : Keeps P x := by
  cases h with
  | garbage | select | selectWrite | gettimeofday => exact .ask _
  | setErrno e => exact .setErrno e
  | setSocket | setTimeout | save => exact .modify fun _ => rfl
  | txEmpty | modemGet | readReg | fifoRead => exact .sysAnswer _
  | fillRxfifo bs =>
    exact Keeps.getWorld fun w hw => (Keeps.access (by simp) _).bind fun v =>
      Keeps.set (w := { w with rxfifo := v, rxfifoPos := 0 }) hw
  | readRf n =>
    exact Keeps.getWorld fun w hw => (Keeps.access (by simp) _).bind fun _ =>
      (Keeps.set (w := { w with rxfifoPos := w.rxfifoPos + n }) hw).bind fun _ => .pure _
  | setConfirmationToIgnore | encode => exact absurd hk (by decide)
  | _ => exact .sys _

/-- A function made of steps of the device side leaves the backend alone. -/
theorem keeps_of_uses {os : Os σ} {x : Machine σ α}
    (h : os.Uses deviceEffects (· ≠ .store .pkt) (fun _ => True) x) : Keeps P x := by
  have hpart : ∀ {Q : World σ → Prop} {β : Type} {y : Machine σ β}, os.Part deviceEffects Q y →
      Exec.Triple (fun w => Q w ∧ P w.ctx.backend) y (fun _ w => P w.ctx.backend)
        (· ≠ .store .pkt) := by
    rintro Q β y (⟨hk, hdoes⟩ | ⟨fuel, hk⟩)
    · exact Exec.Triple.conseq (keeps_of_does (P := P) hdoes hk) (fun _ hw => hw.2) fun _ _ hw => hw
    · exact absurd hk (by decide)
  exact Exec.Triple.conseq (h.triple hpart fun _ he => he) (fun _ hw => ⟨trivial, hw⟩)
    fun _ _ hw => hw

section Functions

variable (os : Os σ) (fuel : ℕ) (fd : Int)

/-- Connecting leaves the backend alone. -/
theorem keeps_ttaConnect : Keeps P (ttaConnect os fuel) :=
  keeps_of_uses (uses_ttaConnect fuel (by decide) (by decide))

/-- Closing leaves the backend alone. -/
theorem keeps_ttaClose : Keeps P (ttaClose os) :=
  keeps_of_uses (uses_ttaClose (by decide))

/-- Flushing leaves the backend alone. -/
theorem keeps_ttaFlush : Keeps P (ttaFlush os fuel) :=
  keeps_of_uses (uses_ttaFlush fuel (by decide) fun _ he => he)

/-- Driving the RTS line leaves the backend alone. -/
theorem keeps_ttaRs485IoctlRts (on : Bool) : Keeps P (ttaRs485IoctlRts os fd on) :=
  keeps_of_uses (uses_ttaRs485IoctlRts fd on (by decide))

/-- A strobe leaves the backend alone. -/
theorem keeps_cc1120Strobe (cmd : UInt8) : Keeps P (cc1120Strobe os fd cmd) :=
  keeps_of_uses (uses_cc1120Strobe fd (.inl (by decide)))

/-- The effects of the device side include closing and connecting. -/
theorem reconnects_deviceEffects : Reconnects deviceEffects := .inr (by decide)

/-- Sending a packet leaves the backend alone. -/
theorem keeps_sendPkt (pkt : Bytes) : Keeps P (sendPkt os fuel pkt) :=
  keeps_of_uses (uses_sendPkt fuel pkt (by decide) reconnects_deviceEffects fun _ he => he)

end Functions

end Libtta
