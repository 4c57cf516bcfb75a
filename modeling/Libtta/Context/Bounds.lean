import Libtta.Context.Keeps
import Libtta.Packet.Frame

/-!
# The reader under any operating system

Whatever the operating system does, the incremental reader stays inside the packet buffer, returns
a positive length, and leaves the backend alone. The receive functions clear the flag of the
backend at most, and never set it.

`Yields P x R` extends `Keeps P x` by a property `R` of the value that `x` returns. The invariant of
the loop is `Filling`: the bytes stored and the bytes still to be read fit the longest packet.
-/

namespace Libtta

variable {σ α β : Type} {P : Backend → Prop}

/-- The computation keeps the property `P` of the backend, does not stop by writing outside a packet
buffer, and returns values with the property `R` only. -/
def Yields (P : Backend → Prop) (x : Machine σ α) (R : α → Prop) : Prop :=
  Exec.Triple (fun w => P w.ctx.backend) x (fun a w => P w.ctx.backend ∧ R a) (· ≠ .store .pkt)

namespace Yields

variable {R R' : α → Prop} {S : β → Prop}

/-- The value may be forgotten. -/
theorem keeps {x : Machine σ α} (h : Yields P x R) : Keeps P x :=
  Exec.Triple.conseq h (fun _ h => h) fun _ _ h => h.1

/-- Nothing need be known of the value. -/
theorem of_keeps {x : Machine σ α} (h : Keeps P x) (hR : ∀ a, R a) : Yields P x R :=
  Exec.Triple.conseq h (fun _ h => h) fun a _ h => ⟨h, hR a⟩

/-- What `Yields` says about a run that returns. -/
theorem of_ok {x : Machine σ α} (h : Yields P x R) {w w' : World σ} {a : α}
    (hw : P w.ctx.backend) (hr : x.run w = .ok (a, w')) : P w'.ctx.backend ∧ R a :=
  Exec.Triple.of_ok h hw hr

/-- Returning a value with the property. -/
protected theorem pure {a : α} (h : R a) : Yields P (pure a : Machine σ α) R :=
  Exec.Triple.pure fun _ hw => ⟨hw, h⟩

/-- Stopping, but not because of a packet buffer that is overrun. -/
protected theorem stop {e : Stop} (he : e ≠ .store .pkt) :
    Yields P (Exec.stop e : Machine σ α) R :=
  Exec.Triple.stop he

/-- Sequential composition, with what is known of the first value. -/
protected theorem bind {x : Machine σ α} {f : α → Machine σ β} (hx : Yields P x R)
    (hf : ∀ a, R a → Yields P (f a) S) : Yields P (x >>= f) S := by
  refine Exec.Triple.bind hx fun a => ?_
  intro w hw
  exact hf a hw.2 w hw.1

/-- Sequential composition, when nothing need be known of the second value. -/
protected theorem bind_keeps {x : Machine σ α} {f : α → Machine σ β} (hx : Yields P x R)
    (hf : ∀ a, R a → Keeps P (f a)) : Keeps P (x >>= f) :=
  (hx.bind (S := fun _ => True) fun a ha => of_keeps (hf a ha) fun _ => trivial).keeps

/-- A case distinction. -/
protected theorem ite {c : Prop} [Decidable c] {x y : Machine σ α} (hx : c → Yields P x R)
    (hy : ¬c → Yields P y R) : Yields P (if c then x else y) R := by
  split
  · exact hx ‹_›
  · exact hy ‹_›

end Yields

/-- Sequential composition, when nothing need be known of the first value. -/
theorem Keeps.bind_yields {x : Machine σ α} {f : α → Machine σ β} {S : β → Prop} (hx : Keeps P x)
    (hf : ∀ a, Yields P (f a) S) : Yields P (x >>= f) S :=
  (Yields.of_keeps (R := fun _ => True) hx fun _ => trivial).bind fun a _ => hf a

/-- Reading the context, with what is known of its backend. -/
theorem Keeps.getCtx_yields {f : Tta → Machine σ β} {S : β → Prop}
    (hf : ∀ ctx, P ctx.backend → Yields P (f ctx) S) : Yields P (Libtta.getCtx >>= f) S := by
  intro w hw
  rw [Exec.run_bind_of_ok (run_getCtx w)]
  exact hf w.ctx hw w hw

/-- Reading the state, with what is known of its backend. -/
theorem Keeps.get_yields {f : World σ → Machine σ β} {S : β → Prop}
    (hf : ∀ w, P w.ctx.backend → Yields P (f w) S) : Yields P (get >>= f) S := by
  intro w hw
  exact hf w hw w hw

/-- An access that returns, returns what was accessed. -/
theorem yields_access {e : Stop} (he : e ≠ .store .pkt) (o : Option α) :
    Yields P (Exec.access e o : Machine σ α) fun a => o = some a :=
  Exec.Triple.access (fun _ _ ho hw => ⟨hw, ho⟩) fun _ => he

/-- A local array has the size it is declared with. -/
theorem yields_uninit (os : Os σ) (n : ℕ) : Yields P (uninit os n) fun buf => buf.length = n :=
  (Keeps.ask _).bind_yields fun _ => .pure (by simp)

/-- A store inside a packet buffer does not change its size. -/
theorem yields_storePkt {pkt vs : Bytes} {i : ℕ} (hroom : i + vs.length ≤ pkt.length) :
    Yields P (storePkt pkt i vs : Machine σ Bytes) fun pkt' => pkt'.length = pkt.length := by
  cases hstore : Buffer.store pkt i vs with
  | none =>
    rw [Buffer.store_eq_none_iff] at hstore
    omega
  | some pkt' =>
    rw [storePkt, hstore]
    exact .pure (Buffer.length_of_store hstore)

/-! ## Reading -/

variable (os : Os σ) (fuel : ℕ)

/-- Waiting for input leaves the backend alone. -/
theorem keeps_backendSelect (tv : Option Timeval) : Keeps P (backendSelect os tv) :=
  keeps_of_uses (uses_backendSelect tv (by decide))

/-- The static receive buffer gives as many bytes as asked for. -/
theorem yields_readRf (n : ℕ) : Yields P (readRf n : Machine σ Bytes) fun bs => bs.length = n := by
  refine Keeps.get_yields fun w hw => (yields_access (by simp) _).bind fun bs hbs => ?_
  have hlen : bs.length = n := Buffer.length_of_load hbs
  exact (Keeps.set (w := { w with rxfifoPos := w.rxfifoPos + n }) hw).bind_yields fun _ =>
    .pure (R := fun bs : Bytes => bs.length = n) hlen

/-- No backend reads more bytes than asked for. -/
theorem yields_backendRecv (n : ℕ) :
    Yields P (backendRecv os n) fun r => ∀ bs, r = some bs → bs.length ≤ n := by
  have hread (fd : Int) : Yields P
      (do return (← sys (os.read fd n)).map (List.take n) : Machine σ (Option Bytes))
      fun r => ∀ bs, r = some bs → bs.length ≤ n := by
    refine (Keeps.sys _).bind_yields fun r => .pure fun bs hbs => ?_
    obtain ⟨_, -, rfl⟩ := Option.map_eq_some_iff.mp hbs
    exact List.length_take_le _ _
  refine Keeps.getCtx_yields fun ctx _ => ?_
  cases ctx.backend with
  | tcp d => exact hread _
  | rs485 d => exact hread _
  | rf d =>
    refine (yields_readRf n).bind fun bs hlen => .pure ?_
    rintro _ ⟨⟩
    exact hlen.le

/-- The recovery step after a failing `select` leaves the backend alone. -/
theorem keeps_selectRecovery : Keeps P (selectRecovery os fuel) :=
  keeps_of_uses (uses_selectRecovery fuel (by decide) reconnects_deviceEffects fun _ he => he)

/-- The recovery step after a failing read leaves the backend alone. -/
theorem keeps_readRecovery : Keeps P (readRecovery os fuel) :=
  keeps_of_uses (uses_readRecovery fuel (by decide) reconnects_deviceEffects fun _ he => he)

/-! ## The loop -/

/-- The invariant of the loop of `_tta_receive_pkt`, whatever is read. -/
structure Filling (b : BackendType) (size : ℕ) (st : ReadState) : Prop where
  size_eq : st.pkt.length = size
  room : st.pktlen + st.lengthToRead ≤ b.maxAduLength
  phase : st.step = .hd ∧ 0 < st.lengthToRead ∨ 0 < st.pktlen

/-- What one round leaves: a buffer of the same size, and the invariant if the loop goes on. -/
def Filled (b : BackendType) (size : ℕ) : Except Bytes ReadState → Prop
  | .error pkt => pkt.length = size
  | .ok st => Filling b size st

variable {b : BackendType} {size : ℕ} {st : ReadState}

/-- What a read returns fits the buffer, and a header that announces too much is refused. -/
theorem yields_receiveBytes (hP : ∀ be, P be → be.type = b) (hsize : b.maxAduLength ≤ size)
    (h : Filling b size st) {bs : Bytes} (hne : bs ≠ []) (hle : bs.length ≤ st.lengthToRead) :
    Yields P (receiveBytes st bs : Machine σ _) (Filled b size) := by
  have hroom := h.room
  have hsz := h.size_eq
  have hpos : 0 < bs.length := List.length_pos_iff.mpr hne
  refine Keeps.getCtx_yields fun ctx hctx =>
    (yields_storePkt (by omega)).bind fun pkt hlen => .ite (fun hdone => ?_) fun hmore => ?_
  · refine (Keeps.loadByte _ _).bind_yields fun datalen => .ite (fun hlong => ?_) fun hfits => ?_
    · exact (Keeps.setErrno _).bind_yields fun _ => .pure (hlen.trans hsz)
    · obtain rfl : ctx.type = b := hP _ hctx
      exact .pure ⟨hlen.trans hsz, not_lt.mp hfits,
        .inr (by change 0 < st.pktlen + bs.length; omega)⟩
  · exact .pure ⟨hlen.trans hsz,
      by change st.pktlen + bs.length + (st.lengthToRead - bs.length) ≤ _; omega,
      .inr (by change 0 < st.pktlen + bs.length; omega)⟩

/-- One round keeps the invariant. -/
theorem yields_receiveStep (hP : ∀ be, P be → be.type = b) (hsize : b.maxAduLength ≤ size)
    (h : Filling b size st) : Yields P (receiveStep os fuel st) (Filled b size) := by
  refine (keeps_backendSelect os _).bind_yields fun r => ?_
  cases r with
  | none => exact (keeps_selectRecovery os fuel).bind_yields fun _ => .pure h.size_eq
  | some _ =>
    refine (yields_backendRecv os _).bind fun r hr => ?_
    match r, hr with
    | none, _ => exact (keeps_readRecovery os fuel).bind_yields fun _ => .pure h.size_eq
    | some [], _ =>
      exact (Keeps.setErrno _).bind_yields fun _ =>
        (keeps_readRecovery os fuel).bind_yields fun _ => .pure h.size_eq
    | some (byte :: bytes), hr =>
      exact yields_receiveBytes hP hsize h (by simp) (hr _ rfl)

/-- The loop keeps the invariant to its end; the induction is on the rounds that are left. -/
theorem yields_receiveLoop (hP : ∀ be, P be → be.type = b) (hsize : b.maxAduLength ≤ size)
    (h : Filling b size st) (rounds : ℕ) :
    Yields P (receiveLoop os fuel rounds st) fun r =>
      Filled b size r ∧ ∀ st', r = .ok st' → 0 < st'.pktlen := by
  have hdone (st' : ReadState) (h : Filling b size st') (hzero : st'.lengthToRead = 0) :
      Yields P (pure (.ok st') : Machine σ (Except Bytes ReadState)) fun r =>
        Filled b size r ∧ ∀ st', r = .ok st' → 0 < st'.pktlen := by
    refine .pure ⟨h, ?_⟩
    rintro _ ⟨⟩
    rcases h.phase with ⟨-, hpos⟩ | hpos
    · omega
    · exact hpos
  induction rounds generalizing st with
  | zero =>
    rw [receiveLoop]
    exact .ite (hdone st h) fun _ => .stop (by simp)
  | succ rounds ih =>
    rw [receiveLoop]
    refine .ite (hdone st h) fun _ => (yields_receiveStep os fuel hP hsize h).bind fun r hr => ?_
    cases r with
    | error pkt => exact .pure ⟨hr, by rintro _ ⟨⟩⟩
    | ok st' => exact ih hr

/-! ## Receiving a packet -/

/-- The integrity check returns the length of the packet. -/
theorem yields_checkIntegrity (pkt : Bytes) (pktlen : ℕ) :
    Yields P (checkIntegrity os fuel pkt pktlen) fun rc => ∀ n, rc = some n → n = pktlen := by
  have hok : ∀ n, some pktlen = some n → n = pktlen := by
    rintro _ ⟨⟩
    rfl
  have hsums : Yields P (checkSums os fuel pkt pktlen) fun rc => ∀ n, rc = some n → n = pktlen := by
    have hload : Keeps P (loadSumsMatch pkt pktlen : Machine σ Bool) :=
      .ite (.stop (by simp)) ((Keeps.loadPkt _ _ _).bind fun _ => .pure _)
    refine hload.bind_yields fun good => .ite (fun _ => .pure hok) fun _ => ?_
    have hbad : Yields P (do setErrno .EMBBADCRC; return none : Machine σ (Option ℕ))
        fun rc => ∀ n, rc = some n → n = pktlen :=
      (Keeps.setErrno _).bind_yields fun _ => .pure (by rintro _ ⟨⟩)
    exact Keeps.getCtx_yields fun ctx _ => .ite
      (fun _ => (keeps_ttaFlush os fuel).bind_yields fun _ => hbad) fun _ => hbad
  refine Keeps.getCtx_yields fun ctx _ => ?_
  cases ctx.backend with
  | tcp d => exact .pure hok
  | rs485 d => exact hsums
  | rf d => exact hsums

/-- The reader keeps the size of the buffer and does not return 0. -/
theorem yields_ttaReceivePkt (hP : ∀ be, P be → be.type = b) {pkt : Bytes}
    (hsize : b.maxAduLength ≤ pkt.length) (fgtimeout : Bool) :
    Yields P (ttaReceivePkt os fuel pkt fgtimeout) fun r =>
      r.2.length = pkt.length ∧ r.1 ≠ some 0 := by
  refine Keeps.getCtx_yields fun ctx hctx => ?_
  obtain rfl : ctx.type = b := hP _ hctx
  have hstart : Filling ctx.type pkt.length
      ⟨pkt, 0, ctx.type.headerLength, .hd, if fgtimeout then some ctx.responseTimeout else none⟩ :=
    ⟨rfl, by change 0 + ctx.type.framing.hdlen ≤ _; have := ctx.type.framing.hdlen_le; simpa,
      .inl ⟨rfl, ctx.type.framing.hdlen_pos⟩⟩
  refine (yields_receiveLoop os fuel hP hsize hstart _).bind fun r hr => ?_
  cases r with
  | error pkt' => exact .pure ⟨hr.1, by simp⟩
  | ok st =>
    refine (yields_checkIntegrity os fuel _ _).bind fun rc hrc => .pure ⟨hr.1.size_eq, fun h => ?_⟩
    have hpos := hr.2 st rfl
    have hzero := hrc 0 h
    omega

/-- A backend whose flag is clear does not change when it is cleared. -/
theorem Backend.setConfirmationToIgnore_false {be : Backend} (h : be.confirmationToIgnore = false) :
    be.setConfirmationToIgnore false = be := by
  cases be with
  | tcp d => rfl
  | rs485 d =>
    change Backend.rs485 { d with confirmationToIgnore := false } = _
    rw [← show d.confirmationToIgnore = false from h]
  | rf d =>
    change Backend.rf { d with confirmationToIgnore := false } = _
    rw [← show d.confirmationToIgnore = false from h]

/-- The flag is cleared at most. -/
theorem yields_receiveUnlessIgnored (hP : ∀ be, P be → be.type = b)
    (hclear : ∀ be, P be → P (be.setConfirmationToIgnore false)) {pkt : Bytes}
    (hsize : b.maxAduLength ≤ pkt.length) (fgtimeout : Bool) :
    Yields P (receiveUnlessIgnored os fuel pkt fgtimeout) fun r => r.2.length = pkt.length := by
  refine Keeps.getCtx_yields fun ctx _ => .ite (fun _ => ?_) fun _ => ?_
  · refine (yields_ttaReceivePkt os fuel hP hsize fgtimeout).bind fun r hr => ?_
    have hset : Keeps P (setConfirmationToIgnore false : Machine σ Unit) :=
      Exec.Triple.modify fun w hw => hclear _ hw
    exact hset.bind_yields fun _ => .pure hr.1
  · refine (yields_ttaReceivePkt os fuel hP hsize fgtimeout).bind fun r hr => ?_
    exact .ite (fun h => absurd h hr.2) fun _ => .pure hr.1

/-- The wait for a radio packet leaves the backend alone. -/
theorem keeps_waitRxPacket (fd : Int) (deadline : Timeval) (fifo : Bytes) :
    Keeps P (waitRxPacket os fd deadline fifo fuel) :=
  keeps_of_uses (uses_waitRxPacket fuel fd deadline fifo (by decide) fun _ he => he)

theorem yields_ttaRfReceive (hP : ∀ be, P be → be.type = b)
    (hclear : ∀ be, P be → P (be.setConfirmationToIgnore false)) {pkt : Bytes}
    (hsize : b.maxAduLength ≤ pkt.length) (fgtimeout : Bool) :
    Yields P (ttaRfReceive os fuel pkt fgtimeout) fun r => r.2.length = pkt.length := by
  have hend (fd : Int) (res : Option ℕ × Bytes) (hres : res.2.length = pkt.length) :
      Yields P (do
        cc1120Strobe os fd Cc1120.SIDLE
        cc1120Strobe os fd Cc1120.SFRX
        return res) fun r => r.2.length = pkt.length :=
    (keeps_cc1120Strobe os fd _).bind_yields fun _ =>
      (keeps_cc1120Strobe os fd _).bind_yields fun _ => .pure hres
  refine Keeps.getCtx_yields fun ctx _ => (Keeps.uninit os _).bind_yields fun fifo =>
    (Keeps.ask _).bind_yields fun start => (keeps_cc1120Strobe os _ _).bind_yields fun _ =>
    (keeps_cc1120Strobe os _ _).bind_yields fun _ =>
    (keeps_cc1120Strobe os _ _).bind_yields fun _ =>
    (keeps_waitRxPacket os fuel _ _ _).bind_yields fun got => .ite (fun _ => ?_) fun _ => ?_
  · exact (yields_receiveUnlessIgnored os fuel hP hclear hsize fgtimeout).bind fun res hres =>
      hend _ res hres
  · exact (Yields.pure (R := fun r => r = (none, pkt)) rfl).bind fun res hres =>
      hend _ res (congrArg (fun r => r.2.length) hres)

theorem yields_backendReceive (hP : ∀ be, P be → be.type = b)
    (hclear : ∀ be, P be → P (be.setConfirmationToIgnore false)) {pkt : Bytes}
    (hsize : b.maxAduLength ≤ pkt.length) (fgtimeout : Bool) :
    Yields P (backendReceive os fuel pkt fgtimeout) fun r => r.2.length = pkt.length := by
  refine Keeps.getCtx_yields fun ctx _ => ?_
  cases ctx.backend with
  | tcp d =>
    exact Exec.Triple.conseq (yields_ttaReceivePkt os fuel hP hsize fgtimeout) (fun _ h => h)
      fun _ _ h => ⟨h.1, h.2.1⟩
  | rs485 d => exact yields_receiveUnlessIgnored os fuel hP hclear hsize fgtimeout
  | rf d => exact yields_ttaRfReceive os fuel hP hclear hsize fgtimeout

/-! ## Decoding and checking -/

/-- `check_confirmation` leaves the backend alone. -/
theorem keeps_checkConfirmation (req rsp : Bytes) :
    Keeps P (checkConfirmation os fuel req rsp) :=
  keeps_of_uses (uses_checkConfirmation fuel req rsp (by decide) fun _ he => he)

/-! ## Receiving a message -/

/-- Receiving a message clears the flag at most. -/
theorem keeps_ttaReceive (hP : ∀ be, P be → be.type = b)
    (hclear : ∀ be, P be → P (be.setConfirmationToIgnore false)) (fgtm : Bool) :
    Keeps P (ttaReceive os fuel fgtm) := by
  refine (yields_uninit os _).bind_keeps fun buf hlen => ?_
  have hsize : b.maxAduLength ≤ buf.length := hlen ▸ b.maxAduLength_le
  refine (yields_backendReceive os fuel hP hclear hsize fgtm).bind_keeps fun r _ => ?_
  match r with
  | (none, _) => exact .pure _
  | (some rc, buf) =>
    have hdecode : os.Uses deviceEffects (· ≠ .store .pkt) (fun _ => True) (convPkt2ttamsg buf) :=
      uses_convPkt2ttamsg buf (by decide)
    exact (keeps_of_uses hdecode).bind fun _ => .pure _

/-- The second half of a request clears the flag at most. -/
theorem keeps_ttaRequestReceive (hP : ∀ be, P be → be.type = b)
    (hclear : ∀ be, P be → P (be.setConfirmationToIgnore false)) (reqbuf : Bytes) :
    Keeps P (ttaRequestReceive os fuel reqbuf) := by
  refine (yields_uninit os _).bind_keeps fun buf hlen => ?_
  have hsize : b.maxAduLength ≤ buf.length := hlen ▸ b.maxAduLength_le
  refine (yields_backendReceive os fuel hP hclear hsize true).bind_keeps fun r _ => ?_
  match r with
  | (none, _) => exact .pure _
  | (some rc, buf) =>
    have hdecode : os.Uses deviceEffects (· ≠ .store .pkt) (fun _ => True) (convPkt2ttamsg buf) :=
      uses_convPkt2ttamsg buf (by decide)
    exact (keeps_checkConfirmation os fuel reqbuf buf).bind fun _ => .ite
      ((keeps_of_uses hdecode).bind fun _ => .pure _) (.pure _)

end Libtta
