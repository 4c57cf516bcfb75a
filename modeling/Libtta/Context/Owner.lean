import Libtta.Library.Ledger
import Libtta.Context.Reachable
import Libtta.Trace.Device

/-!
# Who owns the descriptor

A log says which descriptors a context has opened and closed; they are entered in a ledger, and
`owned` is the one that is open. `OwnsDescriptor` says that the descriptor in the context is `-1` or
the one that is open, and that the descriptors have been opened and closed in turn.

Closing a TCP or an RS485 context leaves the descriptor in the context, and so does a TCP connection
that fails behind `socket`; closing an RF context closes nothing. Where the library connects again
at once, this does no harm. `Careful` leaves out the branches that do; without them, connecting a
context that has nothing open makes it own its descriptor (`owns_of_ttaConnect`), and so does
closing a context and connecting it again (`owns_of_reconnect`).
-/

namespace Libtta

variable {σ α : Type}

/-! ## The ledger of a log -/

/-- What an event says about a descriptor. -/
def Event.entry : Event → Option (Ledger.Entry Int)
  | opened (.ok fd) => some (.acquired fd)
  | close fd _ => some (.released fd)
  | _ => none

/-- The descriptors that have been opened and closed. -/
def ledger (log : List Event) : List (Ledger.Entry Int) := log.filterMap Event.entry

/-- The descriptor that is open. -/
def owned (log : List Event) : Option Int := Ledger.held (ledger log)

/-- Calls that neither open nor close a descriptor. -/
theorem ledger_append_of_kinds {evs : List Event} {K : List Kind} (h : ∀ ev ∈ evs, ev.kind ∈ K)
    (hopened : .opened ∉ K) (hclose : .close ∉ K) (log : List Event) :
    ledger (evs ++ log) = ledger log := by
  have hnone : ledger evs = [] := by
    refine List.filterMap_eq_nil_iff.mpr fun ev hev => ?_
    have hkind := h ev hev
    cases ev with
    | opened res => exact absurd hkind hopened
    | close fd failure => exact absurd hkind hclose
    | _ => rfl
  rw [ledger, List.filterMap_append, ← ledger, ← ledger, hnone, List.nil_append]

/-- A descriptor that the ledger says to be acquired has been opened. -/
theorem opened_of_acquired {fd : Int} {log : List Event} (h : .acquired fd ∈ ledger log) :
    .opened (.ok fd) ∈ log := by
  obtain ⟨ev, hev, hentry⟩ := List.mem_filterMap.mp h
  cases ev with
  | opened res =>
    cases res with
    | error e => cases hentry
    | ok fd' =>
      cases hentry
      exact hev
  | _ => cases hentry

/-- A descriptor that is open has been opened. -/
theorem opened_of_owned {fd : Int} {log : List Event} (h : owned log = some fd) :
    .opened (.ok fd) ∈ log :=
  opened_of_acquired (Ledger.acquired_of_held h)

/-! ## Owning a descriptor -/

/-- The descriptor in the context is `-1` or the one that is open. Only the descriptor that is open
has been closed, none has been closed twice, and none has been opened while another one was open. -/
structure OwnsDescriptor (w : Traced σ) : Prop where
  socket : w.ctx.s = -1 ∨ owned w.log = some w.ctx.s
  closes : ∀ fd failure log, .close fd failure :: log <:+ w.log → owned log = some fd
  closesOnce : ∀ fd failure failure' evs log,
    .close fd failure' :: (evs ++ .close fd failure :: log) <:+ w.log → .opened (.ok fd) ∈ evs
  opens : ∀ fd log, .opened (.ok fd) :: log <:+ w.log → owned log = none

/-- The descriptor is the one that is open, and the ledger is disciplined. -/
structure Owns (fd : Int) (log : List Event) : Prop where
  owned : owned log = if fd = -1 then none else some fd
  disciplined : Ledger.Disciplined (ledger log)

/-- The older entries of a ledger. -/
theorem disciplined_of_suffix {log log' : List Event} (h : Ledger.Disciplined (ledger log))
    (hsuffix : log' <:+ log) : Ledger.Disciplined (ledger log') := by
  obtain ⟨evs, rfl⟩ := hsuffix
  rw [ledger, List.filterMap_append] at h
  exact h.of_append

/-- A context with the descriptor that is open, and a disciplined ledger, owns its descriptor. -/
theorem Owns.ownsDescriptor {w : Traced σ} (h : Owns w.ctx.s w.log) : OwnsDescriptor w where
  socket := by
    have howned := h.owned
    split at howned
    · exact .inl ‹_›
    · exact .inr howned
  closes := fun _ _ _ hsuffix => (disciplined_of_suffix h.disciplined hsuffix).1
  closesOnce := by
    intro fd failure failure' evs log hsuffix
    have hledger := disciplined_of_suffix h.disciplined hsuffix
    rw [show ledger (.close fd failure' :: (evs ++ .close fd failure :: log)) =
      .released fd :: (ledger evs ++ .released fd :: ledger log) by
        simp [ledger, Event.entry]] at hledger
    exact opened_of_acquired hledger.acquired_between
  opens := fun _ _ hsuffix => (disciplined_of_suffix h.disciplined hsuffix).1

/-- The branches that are left out: a TCP connection that fails behind `socket`, where the context
keeps the descriptor that is closed; a TCP or RS485 context without a descriptor that is connected
again, which closes `-1`; and an RF context with a descriptor that is connected again, where nothing
is closed. A call that opens a descriptor does not succeed with `-1`. -/
structure Careful (b : BackendType) (log : List Event) : Prop where
  valid : ∀ fd, .opened (.ok fd) ∈ log → fd ≠ -1
  setup : b = .tcp → ∀ fd failure res, ¬[.close fd failure, .setup res] <:+: log
  reconnect : b ≠ .rf → ∀ failure, .close (-1) failure ∉ log
  reopen : b = .rf → ∀ fd res, ¬List.Sublist [.opened res, .opened (.ok fd)] log

/-- The older calls. -/
theorem Careful.of_append {b : BackendType} {evs log : List Event} (h : Careful b (evs ++ log)) :
    Careful b log where
  valid := fun fd hmem => h.valid fd (List.mem_append_right _ hmem)
  setup := fun hb fd failure res hpart =>
    h.setup hb fd failure res (hpart.trans (List.suffix_append evs log).isInfix)
  reconnect := fun hb failure hmem => h.reconnect hb failure (List.mem_append_right _ hmem)
  reopen := fun hb fd res hsub =>
    h.reopen hb fd res (hsub.trans (List.sublist_append_right evs log))

/-! ## Steps that open and close nothing -/

/-- What the context and the ledger have is all that matters. -/
theorem Owns.of_ledger {fd : Int} {log log' : List Event} (h : Owns fd log)
    (hledger : ledger log' = ledger log) : Owns fd log' :=
  ⟨by rw [Libtta.owned, hledger]; exact h.owned, by rw [hledger]; exact h.disciplined⟩

/-- Calls have been made that neither open nor close a descriptor, and the context keeps the one it
has. -/
structure SameOwner (w w' : Traced σ) : Prop where
  log : ∃ evs, w'.log = evs ++ w.log
  ledger : ledger w'.log = ledger w.log
  socket : w'.ctx.s = w.ctx.s

instance : Std.Refl (SameOwner : Traced σ → Traced σ → Prop) := ⟨fun _ => ⟨⟨[], rfl⟩, rfl, rfl⟩⟩

instance : IsTrans (Traced σ) SameOwner where
  trans := by
    intro w w' w'' h h'
    obtain ⟨evs, hlog⟩ := h.log
    obtain ⟨evs', hlog'⟩ := h'.log
    exact ⟨⟨evs' ++ evs, by rw [hlog', hlog, List.append_assoc]⟩, h'.ledger.trans h.ledger,
      h'.socket.trans h.socket⟩

/-- A context that owns its descriptor still does. -/
theorem SameOwner.owns {w w' : Traced σ} (h : SameOwner w w') (howns : Owns w.ctx.s w.log) :
    Owns w'.ctx.s w'.log :=
  h.socket.symm ▸ howns.of_ledger h.ledger

/-- The effects of the setup of a descriptor. -/
def setupEffects : List Effect :=
  [.setNodelay, .setTos, .connect, .selectWrite, .noError, .tcgetattr, .tcsetattr, .rtsClear,
   .usleep, .setupStrobe, .readReg, .writeReg, .errno, .setErrno, .setTimeout, .save]

/-- The steps of the setup. -/
theorem sameOwner_of_does (os : Os σ) {k : Effect} {x : Machine (σ × List Event) α}
    (h : os.traced.Does k x) (hk : k ∈ setupEffects) : Exec.Along SameOwner x := by
  have hkinds : ∀ k ∈ setupEffects,
      k.Allowed (extendingEffects ++ quietEffects) [.setup, .rts, .strobe, .other] := by
    decide
  intro w a w' hrun
  obtain ⟨evs, hlog, hevs⟩ := (extends_of_does h (hkinds k hk) w a w' hrun).log
  refine ⟨⟨evs, hlog⟩, ?_, ?_⟩
  · rw [hlog, ledger_append_of_kinds hevs (by decide) (by decide)]
  · by_cases hquiet : k ∈ quietEffects
    · obtain ⟨_, hadds, -⟩ := quiet_of_does h ⟨hquiet, (hkinds k hk).2⟩ w a w' hrun
      exact congrArg Tta.s hadds.ctx
    · cases h with
      | setErrno | setTimeout | save | selectWrite =>
        cases hrun
        rfl
      | setSocket => exact absurd hk (by decide)
      | _ => exact absurd (hkinds _ hk).1 (by simpa [extendingEffects] using hquiet)

/-- What is made of such steps. -/
theorem sameOwner_of_uses (os : Os σ) {x : Machine (σ × List Event) α}
    (h : os.traced.Uses setupEffects (fun _ => True) (fun _ => True) x) :
    Exec.Along SameOwner x := by
  intro w a w' hrun
  refine h.along (R := SameOwner) (fun hy s r s' _ hrun => ?_) w a w' trivial hrun
  rcases hy with ⟨hk, hdoes⟩ | ⟨fuel, hk, -⟩
  · exact sameOwner_of_does os hdoes hk s r s' hrun
  · exact absurd hk (by decide)

/-! ## Connecting -/

/-- Nothing is open. -/
structure Free (log : List Event) : Prop where
  owned : owned log = none
  disciplined : Ledger.Disciplined (ledger log)

variable {os : Os σ} {fuel : ℕ} {w w' : Traced σ} {s : Int} {log : List Event}

/-- A context that owns its descriptor has nothing open when it is `-1`. -/
theorem Owns.free (h : Owns s log) (hs : s = -1) : Free log :=
  ⟨by rw [h.owned, if_pos hs], h.disciplined⟩

/-- A context that owns its descriptor has it open when it is not `-1`. -/
theorem Owns.owned_eq (h : Owns s log) (hs : s ≠ -1) : Libtta.owned log = some s := by
  rw [h.owned, if_neg hs]

/-- A context with nothing open owns its descriptor when it is `-1`. -/
theorem Free.owns (h : Free log) (hs : s = -1) : Owns s log :=
  ⟨by rw [h.owned, if_pos hs], h.disciplined⟩

/-- A call that closes the descriptor of a context that owns it. -/
theorem Owns.close {failure : Option Errno} (h : Owns s log) (hs : s ≠ -1) :
    Free (.close s failure :: log) := by
  have howned := h.owned_eq hs
  exact ⟨Ledger.held_released howned, howned, h.disciplined⟩

/-- A call that opens a descriptor, which the context keeps. -/
theorem owns_of_open {res : Except Errno Int} (h : Free log)
    (hvalid : ∀ fd, res = .ok fd → fd ≠ -1) :
    Owns (res.toOption.getD (-1)) (.opened res :: log) := by
  rcases res with e | fd
  · exact Free.owns ⟨h.owned, h.disciplined⟩ rfl
  · exact ⟨(if_neg (hvalid fd rfl)).symm, h.owned, h.disciplined⟩

/-- What all the backends do first: a call opens a descriptor, and the context keeps it. -/
theorem exists_of_open {f : Option Int → Machine (σ × List Event) α} {r : α}
    {call : σ → Except Errno Int × σ} (h : (do
      let fd ← sys fun d : σ × List Event => logged .opened (call d.1) d.2
      modifyCtx fun ctx => { ctx with s := fd.getD (-1) }
      f fd).run w = .ok (r, w')) :
    ∃ res w₁, (f res.toOption).run w₁ = .ok (r, w') ∧ w₁.log = .opened res :: w.log ∧
      w₁.ctx = { w.ctx with s := res.toOption.getD (-1) } ∧
      (Free w.log → ∀ b, Careful b w₁.log → Owns w₁.ctx.s w₁.log) := by
  obtain ⟨r₁, w₁, h₁, h⟩ := Exec.run_bind_eq_ok.mp h
  obtain ⟨res, rfl, hadds⟩ := adds_sys (fun _ => by rfl) h₁
  obtain ⟨u, w₂, h₂, h⟩ := Exec.run_bind_eq_ok.mp h
  have hlog₂ : w₂.log = .opened res :: w.log := by
    cases h₂
    exact hadds.log
  have hctx₂ : w₂.ctx = { w.ctx with s := res.toOption.getD (-1) } := by
    cases h₂
    rw [← hadds.ctx]
  refine ⟨res, w₂, h, hlog₂, hctx₂, fun hfree b hcareful => ?_⟩
  rw [hlog₂] at hcareful
  rw [hctx₂, hlog₂]
  exact owns_of_open hfree fun fd hfd => hcareful.valid fd (hfd ▸ List.mem_cons_self)

/-- Connecting an RS485 context, which gives the descriptor up when the line cannot be set up. -/
theorem owns_of_ttaRs485Connect {d : TtaRs485} {r : Option Unit} (hfree : Free w.log)
    (hcareful : Careful .rs485 w'.log)
    (h : (ttaRs485Connect os.traced d).run w = .ok (r, w')) : Owns w'.ctx.s w'.log := by
  obtain ⟨res, w₁, h, hlog₁, hctx₁, howns₁⟩ := exists_of_open h
  rcases res with e | fd
  · cases h
    exact howns₁ hfree _ hcareful
  · have hs₁ : w₁.ctx.s = fd := by rw [hctx₁]; rfl
    obtain ⟨old, w₂, h₂, h⟩ := Exec.run_bind_eq_ok.mp h
    obtain ⟨u, w₃, h₃, h⟩ := Exec.run_bind_eq_ok.mp h
    obtain ⟨r₄, w₄, h₄, h⟩ := Exec.run_bind_eq_ok.mp h
    have hsame : SameOwner w₁ w₄ :=
      trans_of SameOwner (sameOwner_of_does os (.tcgetattr fd) (by decide) w₁ old w₂ h₂)
        (trans_of SameOwner (sameOwner_of_does os (.save old) (by decide) w₂ u w₃ h₃)
          (sameOwner_of_uses os (uses_programLine fd d.serial (by decide)) w₃ r₄ w₄ h₄))
    obtain ⟨evs, hlog₄⟩ := hsame.log
    have howns₄ {evs' : List Event} (hlog : w'.log = evs' ++ w₄.log) :
        Owns w₄.ctx.s w₄.log ∧ fd ≠ -1 := by
      rw [hlog, hlog₄] at hcareful
      have hcareful₁ := hcareful.of_append.of_append
      refine ⟨hsame.owns (howns₁ hfree _ hcareful₁), hcareful₁.valid fd ?_⟩
      rw [hlog₁]
      exact List.mem_cons_self
    rcases r₄ with _ | u
    · obtain ⟨r₅, w₅, h₅, h⟩ := Exec.run_bind_eq_ok.mp h
      obtain ⟨res₅, -, hadds₅⟩ := adds_sys (fun _ => by rfl) h₅
      cases h
      obtain ⟨howns, hfd⟩ := howns₄ hadds₅.log
      rw [hsame.socket, hs₁] at howns
      have hfree₅ : Free w₅.log := hadds₅.log ▸ howns.close hfd
      exact hfree₅.owns rfl
    · obtain ⟨r₅, w₅, h₅, h⟩ := Exec.run_bind_eq_ok.mp h
      have hsame₅ := sameOwner_of_does os (.rtsClear fd) (by decide) w₄ r₅ w₅ h₅
      cases h
      obtain ⟨evs', hlog₅⟩ := hsame₅.log
      exact hsame₅.owns (howns₄ hlog₅).1

/-- Steps of the setup behind a step of the setup: the last one is a step of the setup. -/
theorem exists_setup {evs log : List Event} (h : ∀ ev ∈ evs, ev.kind ∈ [Kind.setup])
    (res : Except Errno Bool) : ∃ res' log', evs ++ .setup res :: log = .setup res' :: log' := by
  rcases evs with _ | ⟨ev, evs⟩
  · exact ⟨res, log, rfl⟩
  · have hkind := h ev List.mem_cons_self
    cases ev with
    | setup res' => exact ⟨res', _, rfl⟩
    | _ => exact absurd (List.mem_singleton.mp hkind) (by simp [Event.kind])

/-- The last call of `_tta_tcp_set_ipv4_options` is a step of the setup. -/
theorem exists_setup_of_ttaTcpSetIpv4Options {fd : Int} {r : Option Unit}
    (h : (ttaTcpSetIpv4Options os.traced fd).run w = .ok (r, w')) :
    ∃ res log, w'.log = .setup res :: log := by
  obtain ⟨r₁, w₁, h₁, h⟩ := Exec.run_bind_eq_ok.mp h
  obtain ⟨res₁, -, hadds₁⟩ := adds_sys (fun _ => by exact failureOf_map _ _) h₁
  rcases r₁ with _ | u
  · cases h
    exact ⟨_, _, hadds₁.log⟩
  · obtain ⟨res₂, -, hadds₂⟩ := adds_sys (fun _ => by exact failureOf_map _ _) h
    exact ⟨_, _, hadds₂.log⟩

/-- Connecting a TCP context. -/
theorem owns_of_ttaTcpConnect {d : TtaTcp} {r : Option Unit} (hfree : Free w.log)
    (hcareful : Careful .tcp w'.log)
    (h : (ttaTcpConnect os.traced d).run w = .ok (r, w')) : Owns w'.ctx.s w'.log := by
  obtain ⟨res, w₁, h, hlog₁, hctx₁, howns₁⟩ := exists_of_open h
  -- a socket that is closed behind a step of the setup belongs to an attempt that fails
  have hclosed {w₂ : Traced σ} {fd : Int} {res : Except Errno Bool} {log : List Event}
      (hlog₂ : w₂.log = .setup res :: log) (hrun : (do
        let _ ← sys (os.traced.close fd)
        return none : Machine (σ × List Event) (Option Unit)).run w₂ = .ok (r, w')) : False := by
    obtain ⟨r₃, w₃, h₃, hrun⟩ := Exec.run_bind_eq_ok.mp hrun
    obtain ⟨res₃, -, hadds₃⟩ := adds_sys (fun _ => by rfl) h₃
    cases hrun
    refine hcareful.setup rfl fd (failureOf res₃) res ⟨[], log, ?_⟩
    rw [hadds₃.log, hlog₂]
    rfl
  rcases res with e | fd
  · cases h
    exact howns₁ hfree _ hcareful
  · obtain ⟨r₂, w₂, h₂, h⟩ := Exec.run_bind_eq_ok.mp h
    obtain ⟨res₂, log₂, hlog₂⟩ := exists_setup_of_ttaTcpSetIpv4Options h₂
    rcases r₂ with _ | u
    · exact (hclosed hlog₂ h).elim
    · obtain ⟨r₃, w₃, h₃, h⟩ := Exec.run_bind_eq_ok.mp h
      obtain ⟨evs₃, hlog₃, hevs₃⟩ := (extends_connectSocket os fd d w₂ r₃ w₃ h₃).log
      rcases r₃ with _ | u
      · obtain ⟨res₃, log₃, hlog⟩ := exists_setup hevs₃ res₂
        rw [← hlog₂, ← hlog₃] at hlog
        exact (hclosed hlog h).elim
      · cases h
        have hsame : SameOwner w₁ w' := trans_of SameOwner
          (sameOwner_of_uses os (uses_ttaTcpSetIpv4Options fd (by decide)) w₁ _ w₂ h₂)
          (sameOwner_of_uses os (uses_connectSocket fd d (by decide)) w₂ _ w' h₃)
        obtain ⟨evs, hlog⟩ := hsame.log
        exact hsame.owns (howns₁ hfree _ (hlog ▸ hcareful).of_append)

/-- Connecting an RF context, and that it opens a descriptor first. -/
theorem opened_of_ttaRfConnect {d : TtaRf} {r : Option Unit}
    (h : (ttaRfConnect os.traced fuel d).run w = .ok (r, w')) :
    (∃ evs res, w'.log = evs ++ .opened res :: w.log) ∧
      (Free w.log → Careful .rf w'.log → Owns w'.ctx.s w'.log) := by
  obtain ⟨res, w₁, h, hlog₁, hctx₁, howns₁⟩ := exists_of_open h
  have hsame : SameOwner w₁ w' := by
    rcases res with e | fd
    · cases h
      exact refl_of _ _
    · exact sameOwner_of_uses os (uses_rfSetup fuel fd (by decide) trivial) w₁ r w' h
  obtain ⟨evs, hlog⟩ := hsame.log
  refine ⟨⟨evs, res, by rw [hlog, hlog₁]⟩, fun hfree hcareful => ?_⟩
  exact hsame.owns (howns₁ hfree _ (hlog ▸ hcareful).of_append)

/-- Connecting a context that has nothing open. -/
theorem owns_of_ttaConnect {r : Option Unit} (hfree : Free w.log)
    (hcareful : Careful w.ctx.type w'.log)
    (h : (ttaConnect os.traced fuel).run w = .ok (r, w')) : Owns w'.ctx.s w'.log := by
  unfold ttaConnect at h
  rw [Exec.run_bind_of_ok (run_getCtx w)] at h
  rcases hbe : w.ctx.backend with d | d | d
  · have htype : w.ctx.type = .tcp := congrArg Backend.type hbe
    rw [hbe] at h
    exact owns_of_ttaTcpConnect hfree (htype ▸ hcareful) h
  · have htype : w.ctx.type = .rs485 := congrArg Backend.type hbe
    rw [hbe] at h
    exact owns_of_ttaRs485Connect hfree (htype ▸ hcareful) h
  · have htype : w.ctx.type = .rf := congrArg Backend.type hbe
    rw [hbe] at h
    exact (opened_of_ttaRfConnect h).2 hfree (htype ▸ hcareful)

/-! ## Recovering -/

/-- `tta_close` on a TCP or an RS485 context closes the descriptor behind some other call. -/
theorem adds_ttaClose (hrf : w.ctx.type ≠ .rf) {u : Unit}
    (h : (ttaClose os.traced).run w = .ok (u, w')) :
    ∃ failure w₁ evs, Adds evs w w₁ ∧ (∀ ev ∈ evs, ev.kind ∈ [Kind.other, Kind.setup]) ∧
      Adds [.close w.ctx.s failure] w₁ w' := by
  unfold ttaClose at h
  rw [Exec.run_bind_of_ok (run_getCtx w)] at h
  rcases hbe : w.ctx.backend with d | d | d
  · rw [hbe] at h
    obtain ⟨r₁, w₁, h₁, h⟩ := Exec.run_bind_eq_ok.mp h
    obtain ⟨res₁, -, hadds₁⟩ := adds_sys (fun _ => by rfl) h₁
    obtain ⟨r₂, w₂, h₂, h⟩ := Exec.run_bind_eq_ok.mp h
    obtain ⟨res₂, -, hadds₂⟩ := adds_sys (fun _ => by rfl) h₂
    cases h
    exact ⟨_, w₁, _, hadds₁, by simp [Event.kind], hadds₂⟩
  · rw [hbe] at h
    obtain ⟨r₁, w₁, h₁, h⟩ := Exec.run_bind_eq_ok.mp h
    obtain ⟨res₁, -, hadds₁⟩ := adds_sys (fun _ => by exact failureOf_map _ _) h₁
    obtain ⟨r₂, w₂, h₂, h⟩ := Exec.run_bind_eq_ok.mp h
    obtain ⟨res₂, -, hadds₂⟩ := adds_sys (fun _ => by rfl) h₂
    cases h
    exact ⟨_, w₁, _, hadds₁, by simp [Event.kind], hadds₂⟩
  · exact absurd (congrArg Backend.type hbe) hrf

/-- Closing a context and connecting it again makes calls. -/
theorem log_of_reconnect {r : Option Unit}
    (h : (ttaClose os.traced >>= fun _ => ttaConnect os.traced fuel).run w = .ok (r, w')) :
    ∃ evs, w'.log = evs ++ w.log ∧ ∀ e ∈ evs, e.kind ∈ connectKinds := by
  have huses : os.traced.Uses (closeEffects ++ connectEffects) (fun _ => True) (fun _ => True)
      (ttaClose os.traced >>= fun _ => ttaConnect os.traced fuel) :=
    (uses_ttaClose (by decide)).bind fun _ => uses_ttaConnect fuel (by decide) trivial
  exact (extends_of_uses (by decide) huses w r w' h).log

/-- A context that closes its descriptor and connects again owns the new one. -/
theorem owns_of_reconnect {r : Option Unit} (howns : Owns w.ctx.s w.log)
    (hcareful : Careful w.ctx.type w'.log)
    (h : (ttaClose os.traced >>= fun _ => ttaConnect os.traced fuel).run w = .ok (r, w')) :
    Owns w'.ctx.s w'.log := by
  obtain ⟨u, w₁, h₁, h₂⟩ := Exec.run_bind_eq_ok.mp h
  by_cases hrf : w.ctx.type = .rf
  · obtain rfl := eq_of_ttaClose hrf h₁
    by_cases hs : w₁.ctx.s = -1
    · exact owns_of_ttaConnect (howns.free hs) hcareful h₂
    · obtain ⟨d, hbe⟩ := Tta.exists_rf hrf
      unfold ttaConnect at h₂
      rw [Exec.run_bind_of_ok (run_getCtx w₁), hbe] at h₂
      obtain ⟨evs, res, hopened⟩ := (opened_of_ttaRfConnect h₂).1
      refine absurd ?_ (hcareful.reopen hrf w₁.ctx.s res)
      rw [hopened]
      exact ((List.singleton_sublist.mpr (opened_of_owned (howns.owned_eq hs))).cons_cons _).trans
        (List.sublist_append_right _ _)
  · obtain ⟨failure, v, evs, hadds, hevs, hclose⟩ := adds_ttaClose hrf h₁
    obtain ⟨evs', hlog, -⟩ := (extends_ttaConnect os fuel w₁ r w' h₂).log
    have hs : w.ctx.s ≠ -1 := by
      intro hs
      refine hcareful.reconnect hrf failure ?_
      rw [hlog, hclose.log, hs]
      exact List.mem_append_right _ List.mem_cons_self
    have howns_v : Owns w.ctx.s v.log := by
      refine howns.of_ledger ?_
      rw [hadds.log, ledger_append_of_kinds hevs (by decide) (by decide)]
    have hfree : Free w₁.log := hclose.log ▸ howns_v.close hs
    have htype : w₁.ctx.type = w.ctx.type := by rw [hclose.ctx, hadds.ctx]
    exact owns_of_ttaConnect hfree (htype.symm ▸ hcareful) h₂

end Libtta
