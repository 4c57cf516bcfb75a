import Libtta.Receive.Exits
import Libtta.Receive.Message

/-!
# How a backend receives a packet

The exits of `backend->receive`, for arbitrary outcomes of all calls (`RecvExit`). For the RF
backend the packet comes from a radio packet whose CRC is good, which has been moved to the static
receive buffer in the same call; without such a packet the function returns `-1`, and sets no
`errno`.
-/

namespace Libtta

variable {σ : Type}

/-! ## A radio packet -/

/-- Does the last status byte behind a radio packet say that the CRC is good? -/
def crcGood (bs : Bytes) : Bool := bs.getLast?.any fun status => status &&& 0x80 != 0

/-- Has a radio packet with a good CRC been read from the receive FIFO? -/
def radioAccepted (log : List Event) : Bool :=
  log.any fun e => match e with
    | .fifoRead bs _ => crcGood bs
    | _ => false

/-- Calls that do not read the receive FIFO accept no packet. -/
theorem radioAccepted_of_kinds {evs : List Event} {K : List Kind} (h : ∀ e ∈ evs, e.kind ∈ K)
    (hfifo : .fifoRead ∉ K) : radioAccepted evs = false := by
  rw [radioAccepted, List.any_eq_false]
  intro e he
  cases e with
  | fifoRead bs f => exact absurd (h _ he) hfifo
  | _ => simp

/-- A packet is accepted with some calls or with some that came before. -/
theorem radioAccepted_append (evs log : List Event) :
    radioAccepted (evs ++ log) = (radioAccepted evs || radioAccepted log) := by
  rw [radioAccepted, List.any_append, ← radioAccepted, ← radioAccepted]

/-- How the wait for a radio packet ends: with a packet whose CRC is good, which has been moved to
the front of the static receive buffer, or without one. -/
inductive WaitExit (evs : List Event) (w' : Traced σ) : Bool → Prop where
  | accepted {bs : Bytes} {failure : Option Errno} {before : List Event} :
      evs = .fifoRead bs failure :: before → (∀ e ∈ before, e.kind = .other) →
      crcGood bs = true → w'.rxfifoPos = 0 → WaitExit evs w' true
  | nothing : radioAccepted evs = false → WaitExit evs w' false

/-- A read of the receive FIFO puts what it gives to the front of the array. -/
theorem adds_cc1120FifoRead {os : Os σ} {fd : Int} {buf buf' : Bytes} {len : UInt8}
    {w w' : Traced σ} (h : (cc1120FifoRead os.traced fd buf len).run w = .ok (buf', w')) :
    ∃ bs failure, Adds [.fifoRead bs failure] w w' ∧ bs.length = len.toNat ∧ bs <+: buf' := by
  obtain ⟨spi, w₁, h₁, h⟩ := Exec.run_bind_eq_ok.mp h
  obtain ⟨res, hadds⟩ := adds_sysAnswer (fun _ => by rfl) h₁
  obtain ⟨hstore, rfl⟩ := Exec.run_access_eq_ok.mp h
  exact ⟨_, _, hadds, by simp, Buffer.prefix_of_store hstore⟩

/-- The status byte that the wait looks at is the last byte that was read. -/
theorem crcGood_of_prefix {bs fifo : Bytes} {status : UInt8} (hpre : bs <+: fifo)
    (hne : 0 < bs.length) (hstatus : fifo[bs.length - 1]? = some status) :
    crcGood bs = (status &&& 0x80 != 0) := by
  obtain ⟨rest, rfl⟩ := hpre
  rw [List.getElem?_append_left (by omega)] at hstatus
  rw [crcGood, List.getLast?_eq_getElem?, hstatus]
  rfl

/-- What the wait does with the bytes of the receive FIFO. -/
theorem waitExit_of_takePacket {os : Os σ} {fd : Int} {fifo : Bytes} {numrx : UInt8}
    {before : List Event} {w w₁ w' : Traced σ} {got : Bool} (hadds : Adds before w w₁)
    (hother : ∀ e ∈ before, e.kind = .other)
    (h : (takePacket os.traced fd fifo numrx).run w₁ = .ok (got, w')) :
    ∃ evs, w'.log = evs ++ w.log ∧ w'.ctx = w.ctx ∧
      (∀ e ∈ evs, e.kind ∈ [Kind.other, .fifoRead]) ∧ WaitExit evs w' got := by
  obtain ⟨fifo', w₂, h₂, hrun₂⟩ := Exec.run_bind_eq_ok.mp h
  obtain ⟨bs, failure, hadds₂, hlen, hpre⟩ := adds_cc1120FifoRead h₂
  obtain ⟨rssi, w₃, h₃, hrun₃⟩ := Exec.run_bind_eq_ok.mp hrun₂
  obtain ⟨hrssi, hw₃⟩ := Exec.run_access_eq_ok.mp h₃
  obtain ⟨status, w₄, h₄, hrun₄⟩ := Exec.run_bind_eq_ok.mp hrun₃
  obtain ⟨hstatus, hw₄⟩ := Exec.run_access_eq_ok.mp h₄
  dsimp only at hrssi hw₃ hstatus hw₄
  subst hw₃ hw₄
  have htwo : 2 ≤ numrx.toNat := by
    by_contra hlt
    rw [if_pos (UInt8.lt_iff_toNat_lt.mpr (by change _ < 2; omega))] at hrssi
    cases hrssi
  have hcrc : crcGood bs = (status &&& 0x80 != 0) :=
    crcGood_of_prefix hpre (by omega) (by rw [hlen]; exact hstatus)
  have hadds' := hadds.trans hadds₂
  have hkinds : ∀ e ∈ Event.fifoRead bs failure :: before,
      e.kind ∈ [Kind.other, .fifoRead] := by
    intro e he
    rcases List.mem_cons.mp he with rfl | he
    · simp [Event.kind]
    · rw [hother e he]
      decide
  by_cases hgood : status &&& 0x80 ≠ 0
  · rw [if_pos hgood] at hrun₄
    obtain ⟨len, w₅, h₅, hrun₅⟩ := Exec.run_bind_eq_ok.mp hrun₄
    obtain ⟨-, hw₅⟩ := Exec.run_access_eq_ok.mp h₅
    obtain ⟨block, w₆, h₆, hrun₆⟩ := Exec.run_bind_eq_ok.mp hrun₅
    obtain ⟨-, hw₆⟩ := Exec.run_access_eq_ok.mp h₆
    obtain ⟨u, w₇, h₇, hrun₇⟩ := Exec.run_bind_eq_ok.mp hrun₆
    dsimp only at hw₅ hw₆
    subst hw₅ hw₆
    obtain ⟨v, -, rfl⟩ := eq_of_fillRxfifo h₇
    cases hrun₇
    exact ⟨_, hadds'.log, hadds'.ctx, hkinds,
      .accepted rfl hother (by rw [hcrc]; simpa using hgood) rfl⟩
  · rw [if_neg hgood] at hrun₄
    cases hrun₄
    refine ⟨_, hadds'.log, hadds'.ctx, hkinds, .nothing ?_⟩
    have hbad : crcGood bs = false := by
      rw [hcrc]
      simpa using hgood
    have hnone : radioAccepted before = false :=
      radioAccepted_of_kinds (fun e he => List.mem_singleton.mpr (hother e he)) (by decide)
    rw [radioAccepted_append, hnone, Bool.or_false, radioAccepted, List.any_cons, List.any_nil,
      Bool.or_false]
    exact hbad

/-- How the wait for a radio packet ends. The induction is on the rounds that are left. -/
theorem waitExit_of_waitRxPacket {os : Os σ} {fd : Int} {deadline : Timeval} {fifo : Bytes}
    {fuel : ℕ} {w w' : Traced σ} {got : Bool}
    (h : (waitRxPacket os.traced fd deadline fifo fuel).run w = .ok (got, w')) :
    ∃ evs, w'.log = evs ++ w.log ∧ w'.ctx = w.ctx ∧
      (∀ e ∈ evs, e.kind ∈ [Kind.other, .fifoRead]) ∧ WaitExit evs w' got := by
  induction fuel generalizing w with
  | zero => cases h
  | succ fuel ih =>
    rw [waitRxPacket_succ] at h
    obtain ⟨numrx, w₁, h₁, h⟩ := Exec.run_bind_eq_ok.mp h
    obtain ⟨evs₁, hadds₁, hevs₁⟩ := quiet_cc1120ReadSingle os fd _ _ _ _ h₁
    obtain ⟨marcstate, w₂, h₂, h⟩ := Exec.run_bind_eq_ok.mp h
    obtain ⟨evs₂, hadds₂, hevs₂⟩ := quiet_cc1120ReadSingle os fd _ _ _ _ h₂
    have hadds := hadds₁.trans hadds₂
    have hother : ∀ e ∈ evs₂ ++ evs₁, e.kind = .other := by
      intro e he
      rcases List.mem_append.mp he with hmem | hmem
      · exact List.mem_singleton.mp (hevs₂ e hmem)
      · exact List.mem_singleton.mp (hevs₁ e hmem)
    split at h
    · exact waitExit_of_takePacket hadds hother h
    · obtain ⟨now, w₃, h₃, h⟩ := Exec.run_bind_eq_ok.mp h
      have hadds₃ := adds_ask h₃
      split at h
      · cases h
        refine ⟨evs₂ ++ evs₁, (hadds.trans hadds₃).log, (hadds.trans hadds₃).ctx,
          fun e he => by rw [hother e he]; decide, .nothing ?_⟩
        exact radioAccepted_of_kinds (fun e he => List.mem_singleton.mpr (hother e he)) (by decide)
      · obtain ⟨r₄, w₄, h₄, h⟩ := Exec.run_bind_eq_ok.mp h
        obtain ⟨res₄, -, hadds₄⟩ := adds_sys (fun _ => by rfl) h₄
        obtain ⟨evs, hlog, hctx, hkinds, hexit⟩ := ih h
        have hadds' := (hadds.trans hadds₃).trans hadds₄
        have hother' : ∀ e ∈ [Event.other (failureOf res₄)] ++ ([] ++ (evs₂ ++ evs₁)),
            e.kind = .other := by
          intro e he
          rcases List.mem_append.mp he with hmem | hmem
          · rw [List.mem_singleton.mp hmem]
            rfl
          · exact hother e hmem
        refine ⟨evs ++ ([Event.other (failureOf res₄)] ++ ([] ++ (evs₂ ++ evs₁))), ?_,
          hctx.trans hadds'.ctx, ?_, ?_⟩
        · rw [hlog, hadds'.log]
          simp only [List.append_assoc]
        · intro e he
          rcases List.mem_append.mp he with hmem | hmem
          · exact hkinds e hmem
          · rw [hother' e hmem]
            decide
        · cases hexit with
          | accepted hevs hbefore hcrc hpos =>
            rw [hevs]
            refine .accepted rfl ?_ hcrc hpos
            intro e he
            rcases List.mem_append.mp he with hmem | hmem
            · exact hbefore e hmem
            · exact hother' e hmem
          | nothing hnone =>
            refine .nothing ?_
            rw [radioAccepted_append, hnone, radioAccepted_of_kinds
              (fun e he => List.mem_singleton.mpr (hother' e he)) (by decide)]
            rfl

/-! ## The receive functions of the backends -/

/-- The bytes that a call has read from the line, or that have been taken from a radio packet with a
good CRC. -/
def received (b : BackendType) (evs : List Event) (w : Traced σ) : Bytes :=
  if b = .rf ∧ radioAccepted evs = false then [] else bytesRead b evs w

/-- How `backend->receive` returns that has made the calls `evs`: after reading from the line,
without a radio packet, or after reading from a radio packet. -/
inductive RecvExit (b : BackendType) (protocol : Bool) (evs : List Event) (w' : Traced σ)
    (r : Option ℕ × Bytes) : Prop where
  | line : b ≠ .rf → PktExit b protocol (inputOf evs) evs w' r → RecvExit b protocol evs w' r
  | silent : b = .rf → radioAccepted evs = false →
      (∀ e ∈ evs, e.kind ∈ [Kind.strobe, .other, .fifoRead]) → r.1 = none →
      RecvExit b protocol evs w' r
  | radio {bs : Bytes} {failure f f' : Option Errno} {inner before : List Event} {w : Traced σ} :
      b = .rf →
      evs = [.strobe Cc1120.SFRX f', .strobe Cc1120.SIDLE f] ++
        (inner ++ .fifoRead bs failure :: before) →
      crcGood bs = true → (∀ e ∈ before, e.kind ∈ [Kind.strobe, .other]) →
      PktExit b protocol (w'.rxfifo.1.take w'.rxfifoPos) inner w r →
      Adds [.strobe Cc1120.SFRX f', .strobe Cc1120.SIDLE f] w w' → RecvExit b protocol evs w' r

/-- No packet is empty. -/
theorem PktExit.fst_ne_zero {b : BackendType} {protocol : Bool} {s : Bytes} {evs : List Event}
    {w' : Traced σ} {r : Option ℕ × Bytes} (h : PktExit b protocol s evs w' r) :
    r.1 ≠ some 0 := by
  cases h with
  | failed => simp
  | long => simp
  | bad => simp
  | read hnext =>
    have hpos := (Framing.next_eq_frame_iff.mp hnext).1.length_pos
    simp only [ne_eq, Option.some.injEq]
    omega

/-- Without a confirmation to ignore, what is received is what has been read. -/
theorem pktExit_of_receiveUnlessIgnored {os : Os σ} {fuel : ℕ} {pkt : Bytes} {fgtimeout : Bool}
    {w w' : Traced σ} {r : Option ℕ × Bytes} (hsize : w.ctx.type.maxAduLength ≤ pkt.length)
    (hflag : w.ctx.backend.confirmationToIgnore = false) (hpos : w.ctx.type = .rf → w.rxfifoPos = 0)
    (h : (receiveUnlessIgnored os.traced fuel pkt fgtimeout).run w = .ok (r, w')) :
    ∃ evs, w'.log = evs ++ w.log ∧ w.ctx.Relinked w'.ctx ∧
      PktExit w.ctx.type w.ctx.recoversProtocol (bytesRead w.ctx.type evs w') evs w' r := by
  unfold receiveUnlessIgnored at h
  rw [Exec.run_bind_of_ok (run_getCtx w), hflag] at h
  obtain ⟨⟨rc, pkt'⟩, w₁, h₁, h⟩ := Exec.run_bind_eq_ok.mp h
  obtain ⟨evs, hlog, hctx, hexit⟩ := pktExit_of_ttaReceivePkt hsize hpos h₁
  change StateT.run (if rc = some 0 then _ else _) w₁ = _ at h
  rw [if_neg hexit.fst_ne_zero] at h
  cases h
  exact ⟨evs, hlog, hctx, hexit⟩

/-- The two strobes at the end of `_tta_rf_receive`. -/
theorem adds_radioEnd {os : Os σ} {fd : Int} {res r : Option ℕ × Bytes} {w w' : Traced σ}
    (h : (do
      cc1120Strobe os.traced fd Cc1120.SIDLE
      cc1120Strobe os.traced fd Cc1120.SFRX
      return res : Machine (σ × List Event) _).run w = .ok (r, w')) :
    r = res ∧ ∃ f f', Adds [.strobe Cc1120.SFRX f', .strobe Cc1120.SIDLE f] w w' := by
  obtain ⟨u₁, w₁, h₁, h⟩ := Exec.run_bind_eq_ok.mp h
  obtain ⟨f, hadds₁⟩ := adds_cc1120Strobe h₁
  obtain ⟨u₂, w₂, h₂, h⟩ := Exec.run_bind_eq_ok.mp h
  obtain ⟨f', hadds₂⟩ := adds_cc1120Strobe h₂
  cases h
  exact ⟨rfl, f, f', hadds₁.trans hadds₂⟩

/-- A receive without a radio packet. -/
theorem recvExit_of_silent {b : BackendType} {protocol : Bool} {evs before : List Event}
    {f f' : Option Errno} {w' : Traced σ} {r : Option ℕ × Bytes} (hrf : b = .rf) (hr : r.1 = none)
    (hnone : radioAccepted evs = false) (hevs : ∀ e ∈ evs, e.kind ∈ [Kind.other, .fifoRead])
    (hbefore : ∀ e ∈ before, e.kind ∈ [Kind.strobe, .other]) :
    RecvExit b protocol
      ([.strobe Cc1120.SFRX f', .strobe Cc1120.SIDLE f] ++ (evs ++ before)) w' r := by
  refine .silent hrf ?_ ?_ hr
  · rw [radioAccepted_append, radioAccepted_append, hnone,
      radioAccepted_of_kinds hbefore (by decide)]
    rfl
  · intro e he
    rcases List.mem_append.mp he with hmem | hmem
    · rcases List.mem_pair.mp hmem with rfl | rfl
      · simp [Event.kind]
      · simp [Event.kind]
    · rcases List.mem_append.mp hmem with hmem | hmem
      · exact (by decide : [Kind.other, .fifoRead] ⊆ [.strobe, .other, .fifoRead]) (hevs e hmem)
      · exact (by decide : [Kind.strobe, .other] ⊆ [.strobe, .other, .fifoRead]) (hbefore e hmem)

/-- How `_tta_rf_receive` returns. -/
theorem recvExit_of_ttaRfReceive {os : Os σ} {fuel : ℕ} {pkt : Bytes} {fgtimeout : Bool}
    {w w' : Traced σ} {r : Option ℕ × Bytes} (hrf : w.ctx.type = .rf)
    (hsize : w.ctx.type.maxAduLength ≤ pkt.length)
    (hflag : w.ctx.backend.confirmationToIgnore = false)
    (h : (ttaRfReceive os.traced fuel pkt fgtimeout).run w = .ok (r, w')) :
    ∃ evs, w'.log = evs ++ w.log ∧ w.ctx.Relinked w'.ctx ∧
      RecvExit w.ctx.type w.ctx.recoversProtocol evs w' r := by
  unfold ttaRfReceive at h
  rw [Exec.run_bind_of_ok (run_getCtx w)] at h
  obtain ⟨fifo, w₁, h₁, h⟩ := Exec.run_bind_eq_ok.mp h
  obtain ⟨hadds₁, -⟩ := adds_uninit h₁
  obtain ⟨start, w₂, h₂, h⟩ := Exec.run_bind_eq_ok.mp h
  have hadds₂ := adds_ask h₂
  obtain ⟨u₃, w₃, h₃, h⟩ := Exec.run_bind_eq_ok.mp h
  obtain ⟨f₃, hadds₃⟩ := adds_cc1120Strobe h₃
  obtain ⟨u₄, w₄, h₄, h⟩ := Exec.run_bind_eq_ok.mp h
  obtain ⟨f₄, hadds₄⟩ := adds_cc1120Strobe h₄
  obtain ⟨u₅, w₅, h₅, h⟩ := Exec.run_bind_eq_ok.mp h
  obtain ⟨f₅, hadds₅⟩ := adds_cc1120Strobe h₅
  obtain ⟨evs₅, hstart, hevs₅⟩ : Quiet [.strobe, .other] w w₅ := by
    refine ⟨_, (((hadds₁.trans hadds₂).trans hadds₃).trans hadds₄).trans hadds₅, ?_⟩
    simp only [List.mem_append, List.mem_singleton, List.not_mem_nil, false_or]
    rintro e (rfl | rfl | rfl | he)
    · simp [Event.kind]
    · simp [Event.kind]
    · simp [Event.kind]
    · cases he
  obtain ⟨got, w₆, h₆, h⟩ := Exec.run_bind_eq_ok.mp h
  obtain ⟨evs₆, hlog₆, hctx₆, hkinds₆, hwait⟩ := waitExit_of_waitRxPacket h₆
  have hlog := hlog₆.trans (congrArg (evs₆ ++ ·) hstart.log)
  have hctx := hctx₆.trans hstart.ctx
  cases hwait with
  | nothing hnone =>
    obtain ⟨rfl, f, f', hadds⟩ := adds_radioEnd h
    refine ⟨[.strobe Cc1120.SFRX f', .strobe Cc1120.SIDLE f] ++ (evs₆ ++ evs₅), ?_, ?_,
      recvExit_of_silent hrf rfl hnone hkinds₆ hevs₅⟩
    · rw [hadds.log, hlog, List.append_assoc, List.append_assoc]
    · exact .of_eq (hadds.ctx.trans hctx)
  | @accepted bs failure before hevs hother hcrc hpos =>
    obtain ⟨res, w₇, h₇, h⟩ := Exec.run_bind_eq_ok.mp h
    obtain ⟨inner, hlog₇, hctx₇, hexit⟩ := pktExit_of_receiveUnlessIgnored
      (by rw [hctx]; exact hsize) (by rw [hctx]; exact hflag) (fun _ => hpos) h₇
    obtain ⟨rfl, f, f', hadds⟩ := adds_radioEnd h
    rw [hctx] at hexit hctx₇
    have hbytes : bytesRead w.ctx.type inner w₇ = w'.rxfifo.1.take w'.rxfifoPos := by
      rw [hrf, hadds.rxfifo, hadds.rxfifoPos]
      rfl
    rw [hbytes] at hexit
    refine ⟨[.strobe Cc1120.SFRX f', .strobe Cc1120.SIDLE f] ++
      (inner ++ .fifoRead bs failure :: (before ++ evs₅)), ?_, ?_,
      .radio hrf rfl hcrc ?_ hexit hadds⟩
    · rw [hadds.log, hlog₇, hlog, hevs]
      simp only [List.append_assoc, List.cons_append]
    · rw [hadds.ctx]
      exact hctx₇
    · intro e he
      rcases List.mem_append.mp he with hmem | hmem
      · rw [hother e hmem]
        decide
      · exact hevs₅ e hmem

/-- How `backend->receive` returns, for arbitrary outcomes of all calls. -/
theorem recvExit_of_backendReceive {os : Os σ} {fuel : ℕ} {pkt : Bytes} {fgtimeout : Bool}
    {w w' : Traced σ} {r : Option ℕ × Bytes} (hsize : w.ctx.type.maxAduLength ≤ pkt.length)
    (hflag : w.ctx.backend.confirmationToIgnore = false)
    (h : (backendReceive os.traced fuel pkt fgtimeout).run w = .ok (r, w')) :
    ∃ evs, w'.log = evs ++ w.log ∧ w.ctx.Relinked w'.ctx ∧
      RecvExit w.ctx.type w.ctx.recoversProtocol evs w' r := by
  unfold backendReceive at h
  rw [Exec.run_bind_of_ok (run_getCtx w)] at h
  cases hbe : w.ctx.backend with
  | tcp d =>
    have hrf : w.ctx.type ≠ .rf := by
      rw [Tta.type, hbe]
      intro htype
      cases htype
    rw [hbe] at h
    obtain ⟨evs, hlog, hctx, hexit⟩ := pktExit_of_ttaReceivePkt hsize (absurd · hrf) h
    rw [bytesRead_of_ne_rf hrf] at hexit
    exact ⟨evs, hlog, hctx, .line hrf hexit⟩
  | rs485 d =>
    have hrf : w.ctx.type ≠ .rf := by
      rw [Tta.type, hbe]
      intro htype
      cases htype
    rw [hbe] at h
    obtain ⟨evs, hlog, hctx, hexit⟩ :=
      pktExit_of_receiveUnlessIgnored hsize hflag (absurd · hrf) h
    rw [bytesRead_of_ne_rf hrf] at hexit
    exact ⟨evs, hlog, hctx, .line hrf hexit⟩
  | rf d =>
    rw [hbe] at h
    exact recvExit_of_ttaRfReceive (by rw [Tta.type, hbe]; rfl) hsize hflag h

/-! ## What has been received -/

/-- On a socket or a serial line, what has been received is what has been read. -/
theorem received_of_ne_rf {b : BackendType} (hrf : b ≠ .rf) (evs : List Event) (w : Traced σ) :
    received b evs w = inputOf evs := by
  rw [received, if_neg fun h => hrf h.1, bytesRead_of_ne_rf hrf]

/-- A radio packet that is read with a good CRC is accepted. -/
theorem radioAccepted_of_crcGood {bs : Bytes} {failure : Option Errno} {later before : List Event}
    (h : crcGood bs = true) : radioAccepted (later ++ .fifoRead bs failure :: before) = true := by
  rw [radioAccepted_append]
  have hhead : radioAccepted (.fifoRead bs failure :: before) = true := by
    rw [radioAccepted, List.any_cons]
    exact Bool.or_eq_true_iff.mpr (.inl h)
  rw [hhead, Bool.or_true]

/-- What has been received over the radio has been read from the static receive buffer. -/
theorem received_rf {evs : List Event} (h : radioAccepted evs = true) (w : Traced σ) :
    received .rf evs w = w.rxfifo.1.take w.rxfifoPos := by
  rw [received, if_neg fun hnone => Bool.noConfusion (h.symm.trans hnone.2)]
  rfl

/-- A backend that receives a packet has read it, all of it and nothing else, in the same call. -/
theorem RecvExit.of_some {b : BackendType} {protocol : Bool} {evs : List Event} {w' : Traced σ}
    {n : ℕ} {pkt : Bytes} (h : RecvExit b protocol evs w' (some n, pkt)) :
    b.framing.IsFrame (received b evs w') ∧ b.intact (received b evs w') = true ∧
      n = (received b evs w').length ∧ received b evs w' <+: pkt := by
  cases h with
  | line hrf hexit =>
    rw [received_of_ne_rf hrf]
    cases hexit with
    | read hnext hintact hkinds hpre =>
      exact ⟨(Framing.next_eq_frame_iff.mp hnext).1, hintact, rfl, hpre⟩
  | silent hrf hnone hkinds hr => cases hr
  | @radio bs failure f f' inner before w hrf hevs hcrc hbefore hexit hadds =>
    have haccepted : radioAccepted evs = true := by
      rw [hevs, ← List.append_assoc]
      exact radioAccepted_of_crcGood hcrc
    cases hexit with
    | read hnext hintact hkinds hpre =>
      rw [hrf] at hnext hintact ⊢
      rw [received_rf haccepted]
      exact ⟨(Framing.next_eq_frame_iff.mp hnext).1, hintact, rfl, hpre⟩

end Libtta
