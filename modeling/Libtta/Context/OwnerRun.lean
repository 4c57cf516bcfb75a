import Libtta.Context.Device
import Libtta.Context.Owner

/-!
# Runs that keep the owner of a descriptor

The runs of a context in which connecting and closing do no harm (`OwnerRun`), with other code in
between, and that the context owns its descriptor in every state of them.
-/

namespace Libtta

variable {σ : Type} {os : Os σ} {fuel : ℕ} {w w' : Traced σ}

/-! ## Runs -/

/-- A context as the `tta_new` functions make it. -/
inductive Tta.New : Tta → Prop
  | tcp (ip : String) (port : Int) : New (ttaNewTcp ip port)
  | rs485 (device : String) (serial : SerialSettings) (oldTios : Termios) :
      New (ttaNewRs485 device serial oldTios)
  | rf (device : String) (id0 id1 id2 id3 : UInt8) : New (ttaNewRf device id0 id1 id2 id3)

/-- A call that may be made on a context that owns its descriptor: it is connected only without one,
and closed only where closing does nothing. The application does not set the descriptor. -/
def Call.MindsOwner (ctx : Tta) : Call → Prop
  | connect => ctx.s = -1
  | close => ctx.type = .rf
  | setSocket _ => False
  | _ => True

/-- The runs on a new context, in which the branches that are left out are not taken. Other code
does anything in between. -/
inductive OwnerRun (os : Os σ) : Traced σ → Prop
  | start {w : Traced σ} : w.ctx.New → w.log = [] → OwnerRun os w
  | call {c : Call} {fuel : ℕ} {w w' : Traced σ} : OwnerRun os w → c.MindsOwner w.ctx →
      (c.run os.traced fuel).run w = .ok ((), w') → Careful w.ctx.type w'.log → OwnerRun os w'
  | accept {s fd : Int} {w w' : Traced σ} {r : Option Int × Int} : OwnerRun os w → w.ctx.s = -1 →
      (os.accept s w.dev.1).1 = .ok fd → (ttaTcpAccept os.traced s).run w = .ok (r, w') →
      Careful w.ctx.type w'.log → OwnerRun os w'
  | other {w w' : Traced σ} : OwnerRun os w → w'.ctx = w.ctx → w'.log = w.log → OwnerRun os w'

/-- Calls have been made, and a context of type `b` that owns its descriptor still does if the
branches that are left out have not been taken. -/
structure KeepsOwner (b : BackendType) (p p' : Port (σ × List Event)) : Prop where
  log : ∃ evs, p'.dev.2 = evs ++ p.dev.2
  owns : Careful b p'.dev.2 → Owns p.s p.dev.2 → Owns p'.s p'.dev.2

instance {b : BackendType} :
    Std.Refl (KeepsOwner b : Port (σ × List Event) → Port (σ × List Event) → Prop) :=
  ⟨fun _ => ⟨⟨[], rfl⟩, fun _ h => h⟩⟩

instance {b : BackendType} : IsTrans (Port (σ × List Event)) (KeepsOwner b) where
  trans := by
    intro p p' p'' h h'
    obtain ⟨evs, hlog⟩ := h.log
    obtain ⟨evs', hlog'⟩ := h'.log
    refine ⟨⟨evs' ++ evs, by rw [hlog', hlog, List.append_assoc]⟩, fun hcareful howns => ?_⟩
    exact h'.owns hcareful (h.owns (hlog' ▸ hcareful).of_append howns)

/-- Single calls of sending, receiving and flushing neither open nor close a descriptor. -/
theorem exists_log_of_step {d d' : σ × List Event} (h : os.traced.Step d d') :
    ∃ evs, d'.2 = evs ++ d.2 ∧ ledger evs = [] := by
  cases h with
  | garbage | gettimeofday => exact ⟨[], rfl, rfl⟩
  | _ => exact ⟨[_], rfl, rfl⟩

/-- A context keeps the owner of its descriptor in single calls, and where it is closed and
connected again. -/
theorem covers_keepsOwner (os : Os σ) (b : BackendType) : Covers os.traced b (KeepsOwner b) where
  step := by
    intro p d hstep
    obtain ⟨evs, hlog, hledger⟩ := exists_log_of_step hstep
    refine ⟨⟨evs, hlog⟩, fun _ howns => howns.of_ledger ?_⟩
    change ledger d.2 = _
    rw [hlog, ledger, List.filterMap_append, ← ledger, ← ledger, hledger, List.nil_append]
  reconnect := by
    rintro fuel r w w' rfl - hrun
    obtain ⟨evs, hlog, -⟩ := log_of_reconnect hrun
    exact ⟨⟨evs, hlog⟩, fun hcareful howns => owns_of_reconnect howns hcareful hrun⟩

/-- The calls that do not replace the descriptor from outside. -/
theorem keepsOwner_call {c : Call} (hconnect : c ≠ .connect) (hminds : c.MindsOwner w.ctx)
    (h : (c.run os.traced fuel).run w = .ok ((), w')) :
    Moves w.ctx.type (KeepsOwner w.ctx.type) w w' := by
  have hcall := moves_call (c := c) (covers_keepsOwner os w.ctx.type) fuel
  cases c with
  | connect => exact absurd rfl hconnect
  | setSocket s => exact hminds.elim
  | close =>
    obtain rfl := eq_of_ttaClose hminds h
    exact refl_of _ _
  | setErrorRecovery v =>
    cases h
    exact ⟨rfl, fun _ => ⟨⟨[], rfl⟩, fun _ howns => howns⟩⟩
  | _ => exact hcall trivial w _ w' h

/-- Accepting a connection. -/
theorem owns_of_ttaTcpAccept {s fd : Int} {r : Option Int × Int} (hfree : Free w.log)
    (haccept : (os.accept s w.dev.1).1 = .ok fd)
    (h : (ttaTcpAccept os.traced s).run w = .ok (r, w')) (hcareful : Careful w.ctx.type w'.log) :
    Owns w'.ctx.s w'.log := by
  have hcall : os.traced.accept s w.dev =
      (.ok fd, (os.accept s w.dev.1).2, .opened (.ok fd) :: w.dev.2) := by
    simp only [Os.traced, logged, haccept]
  unfold ttaTcpAccept at h
  rw [Exec.run_bind_of_ok (run_sys_of_ok hcall)] at h
  cases h
  have hvalid : ∀ fd', (.ok fd : Except Errno Int) = .ok fd' → fd' ≠ -1 :=
    fun fd' hfd => hcareful.valid fd' (hfd ▸ List.mem_cons_self)
  exact owns_of_open hfree hvalid

/-- A new context has no descriptor. -/
theorem Tta.New.s_eq {ctx : Tta} (h : ctx.New) : ctx.s = -1 := by
  rcases h with ⟨ip, port⟩ | ⟨device, serial, oldTios⟩ | ⟨device, id0, id1, id2, id3⟩
  · rfl
  · rfl
  · rfl

/-- In every run in which the branches that are left out are not taken, the context owns its
descriptor. -/
theorem ownsDescriptor_of_ownerRun (h : OwnerRun os w) : OwnsDescriptor w := by
  refine Owns.ownsDescriptor ?_
  induction h with
  | @start w hnew hlog =>
    have hfree : Free w.log := ⟨by rw [hlog]; rfl, by rw [hlog]; trivial⟩
    exact hfree.owns hnew.s_eq
  | @call c fuel w w' _ hminds hrun hcareful ih =>
    by_cases hconnect : c = .connect
    · subst hconnect
      obtain ⟨r, w₁, hrun, ⟨⟩⟩ := Exec.run_bind_eq_ok.mp hrun
      exact owns_of_ttaConnect (ih.free hminds) hcareful hrun
    · exact ((keepsOwner_call hconnect hminds hrun).port rfl).owns hcareful ih
  | accept _ hs haccept hrun hcareful ih =>
    exact owns_of_ttaTcpAccept (ih.free hs) haccept hrun hcareful
  | other _ hctx hlog ih => rwa [hctx, hlog]

/-! ## Examples of runs -/

/-- A serial line on which the first write finds the connection broken, and a radio chip that is
idle. -/
def brokenOs (nodelay : Except Errno Unit) : Os ℕ where
  write _ bs d := (if d = 0 then .error .EPIPE else .ok bs.length, d + 1)
  setNodelay _ d := (nodelay, d)
  readReg _ _ d := ((Cc1120.idle, .ok ()), d)

/-- A new context, with an empty log. -/
def ownerStart (ctx : Tta) : Traced ℕ := ⟨ctx, .other 0, List.Vector.replicate 128 0, 0, 0, []⟩

/-- Neither a descriptor `-1` is opened nor one is closed. -/
def Event.descriptorFine : Event → Bool
  | opened (.ok fd) => fd != -1
  | close fd _ => fd != -1
  | _ => true

/-- The branches that are left out for an RS485 context close `-1`. -/
theorem careful_of_all {log : List Event} (h : log.all Event.descriptorFine = true) :
    Careful .rs485 log where
  valid := by
    rintro fd hmem rfl
    exact absurd (List.all_eq_true.mp h _ hmem) (by decide)
  setup := by rintro ⟨⟩
  reconnect := by
    rintro - failure hmem
    exact absurd (List.all_eq_true.mp h _ hmem) (by simp [Event.descriptorFine])
  reopen := by rintro ⟨⟩

/-- Behind a call that keeps the owner, the run goes on. -/
theorem OwnerRun.next {c : Call} (h : OwnerRun os w) (hconnect : c ≠ .connect)
    (hminds : c.MindsOwner w.ctx) (hrun : (c.run os.traced fuel).run w = .ok ((), w'))
    (htype : w.ctx.type = .rs485) (hcareful : Careful .rs485 w'.log) :
    OwnerRun os w' ∧ w'.ctx.type = .rs485 :=
  ⟨.call h hminds hrun (htype ▸ hcareful), (keepsOwner_call hconnect hminds hrun).type.trans htype⟩

/-- An RS485 context is connected and sends with link recovery: it closes its descriptor and opens
it again. -/
theorem ownsDescriptor_of_ownerRun_send : ∃ w', (do
      Call.connect.run (brokenOs (.ok ())).traced 1
      (Call.setRts .up).run (brokenOs (.ok ())).traced 1
      (Call.setErrorRecovery errorRecoveryLink).run (brokenOs (.ok ())).traced 1
      (Call.send (ttamsgMake 1 0 0x10 [] 0 (by decide))).run (brokenOs (.ok ())).traced 1).run
        (ownerStart (ttaNewRs485 "/dev/ttyS0")) = .ok ((), w') ∧
    .close 3 none ∈ w'.log ∧ OwnsDescriptor w' := by
  have hconnect : ((Call.connect.run (brokenOs (.ok ())).traced 1).run
      (ownerStart (ttaNewRs485 "/dev/ttyS0"))).map (fun p => p.2.ctx.type) = .ok .rs485 := by
    decide +kernel
  have hrun : ((do
      Call.connect.run (brokenOs (.ok ())).traced 1
      (Call.setRts .up).run (brokenOs (.ok ())).traced 1
      (Call.setErrorRecovery errorRecoveryLink).run (brokenOs (.ok ())).traced 1
      (Call.send (ttamsgMake 1 0 0x10 [] 0 (by decide))).run (brokenOs (.ok ())).traced 1 :
        Machine (ℕ × List Event) Unit).run (ownerStart (ttaNewRs485 "/dev/ttyS0"))).map
      (fun p => (p.2.log.all Event.descriptorFine, decide (.close 3 none ∈ p.2.log))) =
        .ok (true, true) := by
    decide +kernel
  obtain ⟨⟨u₁, w₁⟩, h₁, htype₁⟩ := Exec.exists_of_map_eq_ok hconnect
  obtain ⟨⟨u₄, w₄⟩, hrun, hres⟩ := Exec.exists_of_map_eq_ok hrun
  obtain ⟨hfine, hclosed⟩ := Prod.mk.inj hres
  obtain ⟨u₂, w₂, h₂, hrest⟩ := Exec.run_bind_eq_ok.mp ((Exec.run_bind_of_ok h₁).symm.trans hrun)
  obtain ⟨u₃, w₃, h₃, h₄⟩ := Exec.run_bind_eq_ok.mp hrest
  have hcareful₄ := careful_of_all hfine
  have holder {c : Call} {w w' : Traced ℕ} (hconnect : c ≠ .connect) (hminds : c.MindsOwner w.ctx)
      (h : (c.run (brokenOs (.ok ())).traced 1).run w = .ok ((), w'))
      (hcareful : Careful .rs485 w'.log) : Careful .rs485 w.log := by
    obtain ⟨evs, hlog⟩ := ((keepsOwner_call hconnect hminds h).port rfl).log
    change Careful .rs485 w'.port.dev.2 at hcareful
    exact (hlog ▸ hcareful).of_append
  have hcareful₃ := holder (c := .send _) (by simp) trivial h₄ hcareful₄
  have hcareful₂ := holder (c := .setErrorRecovery _) (by simp) trivial h₃ hcareful₃
  have hcareful₁ := holder (c := .setRts .up) (by simp) trivial h₂ hcareful₂
  have hstart : OwnerRun (brokenOs (.ok ())) (ownerStart (ttaNewRs485 "/dev/ttyS0")) :=
    .start (.rs485 _ _ _) rfl
  have hrun₁ : OwnerRun (brokenOs (.ok ())) w₁ := .call (c := .connect) hstart rfl h₁ hcareful₁
  obtain ⟨hrun₂, htype₂⟩ :=
    hrun₁.next (c := .setRts .up) (by simp) trivial h₂ htype₁ hcareful₂
  obtain ⟨hrun₃, htype₃⟩ :=
    hrun₂.next (c := .setErrorRecovery _) (by simp) trivial h₃ htype₂ hcareful₃
  obtain ⟨hrun₄, -⟩ := hrun₃.next (c := .send _) (by simp) trivial h₄ htype₃ hcareful₄
  exact ⟨w₄, hrun, of_decide_eq_true hclosed, ownsDescriptor_of_ownerRun hrun₄⟩

/-- The descriptor of a context is not the one that is open. -/
theorem not_ownsDescriptor {w : Traced σ} (hs : w.ctx.s ≠ -1) (howned : owned w.log = none) :
    ¬OwnsDescriptor w := by
  intro h
  have hsome := h.socket.resolve_left hs
  rw [howned] at hsome
  cases hsome

/-- Is a descriptor opened while another one is open? -/
def opensTwice (log : List Event) : Bool :=
  log.tails.any fun
    | .opened (.ok _) :: log => (owned log).isSome
    | _ => false

/-- A context that opens a descriptor while another one is open. -/
theorem not_ownsDescriptor_of_opensTwice {w : Traced σ} (h : opensTwice w.log = true) :
    ¬OwnsDescriptor w := by
  intro howns
  obtain ⟨log, hlog, htwice⟩ := List.any_eq_true.mp h
  have hsuffix := (List.mem_tails _ _).mp hlog
  split at htwice
  · next fd log =>
    rw [howns.opens fd log hsuffix] at htwice
    cases htwice
  · cases htwice

/-- The descriptor is closed and kept when an RS485 context is closed, and when a TCP connection
fails behind `socket`; closing an RF context leaves its descriptor open, and connecting opens
another one. -/
theorem not_ownsDescriptor_of_close :
    (∃ w', (do
        Call.connect.run (brokenOs (.ok ())).traced 1
        Call.close.run (brokenOs (.ok ())).traced 1).run (ownerStart (ttaNewRs485 "/dev/ttyS0")) =
        .ok ((), w') ∧ ¬OwnsDescriptor w') ∧
    (∃ w', (Call.connect.run (brokenOs (.error .EINVAL)).traced 1).run
        (ownerStart (ttaNewTcp "192.168.0.1" 502)) = .ok ((), w') ∧ ¬OwnsDescriptor w') ∧
    ∃ w', (do
        Call.connect.run (brokenOs (.ok ())).traced 1
        Call.close.run (brokenOs (.ok ())).traced 1
        Call.connect.run (brokenOs (.ok ())).traced 1).run
          (ownerStart (ttaNewRf "/dev/spidev" 0 0 0 0)) = .ok ((), w') ∧ ¬OwnsDescriptor w' := by
  have hends {x : Machine (ℕ × List Event) Unit} {ctx : Tta}
      (h : (x.run (ownerStart ctx)).map (fun p => (p.2.ctx.s, owned p.2.log)) = .ok (3, none)) :
      ∃ w', x.run (ownerStart ctx) = .ok ((), w') ∧ ¬OwnsDescriptor w' := by
    obtain ⟨⟨u, w'⟩, hrun, hres⟩ := Exec.exists_of_map_eq_ok h
    obtain ⟨hs, howned⟩ := Prod.mk.inj hres
    exact ⟨w', hrun, not_ownsDescriptor (by rw [hs]; decide) howned⟩
  have hradio : ((do
      Call.connect.run (brokenOs (.ok ())).traced 1
      Call.close.run (brokenOs (.ok ())).traced 1
      Call.connect.run (brokenOs (.ok ())).traced 1 : Machine (ℕ × List Event) Unit).run
        (ownerStart (ttaNewRf "/dev/spidev" 0 0 0 0))).map (fun p => opensTwice p.2.log) =
      .ok true := by
    decide +kernel
  obtain ⟨⟨u, w'⟩, hrun, htwice⟩ := Exec.exists_of_map_eq_ok hradio
  exact ⟨hends (by decide +kernel), hends (by decide +kernel), w', hrun,
    not_ownsDescriptor_of_opensTwice htwice⟩

end Libtta
