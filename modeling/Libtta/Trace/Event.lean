import Libtta.Model.Core

/-!
# What the library asks of the operating system

`Os.traced os` is the operating system `os` with a record of the calls that are made to it: every
call behaves as it does on `os`, and adds one `Event` with its outcome to a log, the most recent
first. A statement about the traced runs of every `Os` is a statement about every sequence of
outcomes.

`Adds evs w w'` says that the log has grown by `evs` between two states, that the context and the
static receive buffer are as they were, and that `errno` has been set by the last of the calls that
failed. `Quiet K` says that this is all that has happened and that every event is of one of the
kinds `K`; `Extends K` allows for any `errno` and for what connecting replaces in the context.
-/

namespace Libtta

variable {σ α β : Type}

/-! ## Events -/

/-- The calls, as far as they differ for the library, with their outcomes. A failure is a code in
`errno`. -/
inductive Event where
  /-- A wait for input, where `ETIMEDOUT` stands for a wait that times out. -/
  | select (failure : Option Errno)
  | read (res : Except Errno Bytes)
  | write (fd : Int) (bs : Bytes) (res : Except Errno ℕ)
  /-- A read of `tta_flush`, or `tcflush`. -/
  | discard (failure : Option Errno)
  /-- `open`, `socket` or `accept`. -/
  | opened (res : Except Errno Int)
  | close (fd : Int) (failure : Option Errno)
  /-- A step of the setup of a new descriptor, or of a TCP connection: is it done? -/
  | setup (res : Except Errno Bool)
  /-- The RTS line is set or cleared. -/
  | rts (fd : Int) (level : Bool) (failure : Option Errno)
  | txEmpty (answer : Bool) (failure : Option Errno)
  | strobe (cmd : UInt8) (failure : Option Errno)
  /-- The bytes that a read of the receive FIFO gives. -/
  | fifoRead (bs : Bytes) (failure : Option Errno)
  | fifoWrite (bs : Bytes) (failure : Option Errno)
  /-- Any other call that may fail. -/
  | other (failure : Option Errno)
  deriving DecidableEq

/-- The code of a call that fails. -/
def failureOf : Except Errno α → Option Errno
  | .ok _ => none
  | .error e => some e

/-- What is computed from the answer of a call does not matter for its failure. -/
@[simp] theorem failureOf_map (f : α → β) (r : Except Errno α) :
    failureOf (r.map f) = failureOf r := by
  cases r <;> rfl

/-- The code that a wait for input fails with. -/
def SelectResult.failure : SelectResult → Option Errno
  | ready => none
  | timeout => some .ETIMEDOUT
  | fail e _ => some e

/-- The kinds of events. -/
inductive Kind where
  | select
  | read
  | write
  | discard
  | opened
  | close
  | setup
  | rts
  | txEmpty
  | strobe
  | fifoRead
  | fifoWrite
  | other
  deriving DecidableEq

namespace Event

/-- The kind of an event. -/
def kind : Event → Kind
  | select _ => .select
  | read _ => .read
  | write _ _ _ => .write
  | discard _ => .discard
  | opened _ => .opened
  | close _ _ => .close
  | setup _ => .setup
  | rts _ _ _ => .rts
  | txEmpty _ _ => .txEmpty
  | strobe _ _ => .strobe
  | fifoRead _ _ => .fifoRead
  | fifoWrite _ _ => .fifoWrite
  | other _ => .other

/-- The code in `errno` of a call that has failed. -/
def failure : Event → Option Errno
  | select f => f
  | read r => failureOf r
  | write _ _ r => failureOf r
  | discard f => f
  | opened r => failureOf r
  | close _ f => f
  | setup r => failureOf r
  | rts _ _ f => f
  | txEmpty _ f => f
  | strobe _ f => f
  | fifoRead _ f => f
  | fifoWrite _ f => f
  | other f => f

end Event

/-- The code of the most recent failure. -/
def lastFailure (evs : List Event) : Option Errno := evs.findSome? Event.failure

/-- What a failure further back, with the code `e` before it, leaves in `errno`. -/
theorem lastFailure_append (evs evs' : List Event) (e : Errno) :
    (lastFailure (evs ++ evs')).getD e = (lastFailure evs).getD ((lastFailure evs').getD e) := by
  rw [lastFailure, List.findSome?_append, ← lastFailure, ← lastFailure]
  cases lastFailure evs with
  | none => rfl
  | some e' => rfl

/-! ## The traced operating system -/

/-- A call that is recorded. -/
def logged (ev : α → Event) (r : α × σ) (log : List Event) : α × σ × List Event :=
  (r.1, r.2, ev r.1 :: log)

/-- A call that is not recorded. -/
def unlogged (r : α × σ) (log : List Event) : α × σ × List Event := (r.1, r.2, log)

/-- The level that `TIOCMSET` puts the RTS line to. -/
def rtsLevel (flags : UInt32) : Bool := flags &&& tiocmRts != 0

/-- The operating system with a record of the calls. -/
def Os.traced (os : Os σ) : Os (σ × List Event) where
  garbage d := unlogged (os.garbage d.1) d.2
  select fd tv d := logged (fun r => .select r.failure) (os.select fd tv d.1) d.2
  read fd n d := logged (fun r => .read (r.map (List.take n))) (os.read fd n d.1) d.2
  write fd bs d := logged (.write fd bs) (os.write fd bs d.1) d.2
  readNow fd n d := logged (fun r => .discard (failureOf r)) (os.readNow fd n d.1) d.2
  openDevice dev d := logged .opened (os.openDevice dev d.1) d.2
  close fd d := logged (fun r => .close fd (failureOf r)) (os.close fd d.1) d.2
  shutdown fd d := logged (fun r => .other (failureOf r)) (os.shutdown fd d.1) d.2
  socket d := logged .opened (os.socket d.1) d.2
  accept fd d := logged .opened (os.accept fd d.1) d.2
  setNodelay fd d := logged (fun r => .setup (r.map fun _ => true)) (os.setNodelay fd d.1) d.2
  setTos fd d := logged (fun r => .setup (r.map fun _ => true)) (os.setTos fd d.1) d.2
  connect fd ip port d :=
    logged (fun r => .setup (r.map fun _ => true)) (os.connect fd ip port d.1) d.2
  selectWrite fd tv d := logged (fun r => .setup r.2) (os.selectWrite fd tv d.1) d.2
  noError fd d := logged .setup (os.noError fd d.1) d.2
  tcgetattr fd d := logged (fun r => .other (failureOf r)) (os.tcgetattr fd d.1) d.2
  tcsetattr fd tios d :=
    logged (fun r => .setup (r.map fun _ => true)) (os.tcsetattr fd tios d.1) d.2
  tcflush fd d := logged (fun r => .discard (failureOf r)) (os.tcflush fd d.1) d.2
  rtsSet fd d := logged (fun r => .rts fd true (failureOf r)) (os.rtsSet fd d.1) d.2
  rtsClear fd d := logged (fun r => .rts fd false (failureOf r)) (os.rtsClear fd d.1) d.2
  txEmpty fd d := logged (fun r => .txEmpty r.1 (failureOf r.2)) (os.txEmpty fd d.1) d.2
  modemGet fd d := logged (fun r => .other (failureOf r.2)) (os.modemGet fd d.1) d.2
  modemSet fd flags d :=
    logged (fun r => .rts fd (rtsLevel flags) (failureOf r)) (os.modemSet fd flags d.1) d.2
  nanosleep tv d := logged (fun r => .other (failureOf r)) (os.nanosleep tv d.1) d.2
  usleep n d := logged (fun r => .other (failureOf r)) (os.usleep n d.1) d.2
  gettimeofday d := unlogged (os.gettimeofday d.1) d.2
  strobe fd cmd d := logged (fun r => .strobe cmd (failureOf r)) (os.strobe fd cmd d.1) d.2
  readReg fd addr d := logged (fun r => .other (failureOf r.2)) (os.readReg fd addr d.1) d.2
  writeReg fd addr val d := logged (fun r => .other (failureOf r)) (os.writeReg fd addr val d.1) d.2
  fifoRead fd len d :=
    logged (fun r => .fifoRead ((List.range len.toNat).map r.1) (failureOf r.2))
      (os.fifoRead fd len d.1) d.2
  fifoWrite fd bs d := logged (fun r => .fifoWrite bs (failureOf r)) (os.fifoWrite fd bs d.1) d.2

/-- The state of a program whose calls are recorded. -/
abbrev Traced (σ : Type) := World (σ × List Event)

/-- The program with an empty record. -/
def World.traced (w : World σ) : Traced σ := ⟨w.ctx, w.errno, w.rxfifo, w.rxfifoPos, w.dev, []⟩

/-- The events so far, the most recent first. -/
def World.log (w : Traced σ) : List Event := w.dev.2

/-! ## What has been added to the log -/

/-- Between two states the calls `evs` have been made, and nothing else has happened but that a call
which fails sets `errno`. -/
structure Adds (evs : List Event) (w w' : Traced σ) : Prop where
  log : w'.log = evs ++ w.log
  ctx : w'.ctx = w.ctx
  errno : w'.errno = (lastFailure evs).getD w.errno
  rxfifo : w'.rxfifo = w.rxfifo
  rxfifoPos : w'.rxfifoPos = w.rxfifoPos

namespace Adds

variable {evs evs' : List Event} {w w' w'' : Traced σ}

/-- Nothing has happened. -/
protected theorem refl (w : Traced σ) : Adds [] w w := ⟨rfl, rfl, rfl, rfl, rfl⟩

/-- More calls have been made. -/
protected theorem trans (h : Adds evs w w') (h' : Adds evs' w' w'') :
    Adds (evs' ++ evs) w w'' where
  log := by rw [h'.log, h.log, List.append_assoc]
  ctx := h'.ctx.trans h.ctx
  errno := by rw [h'.errno, h.errno, lastFailure_append]
  rxfifo := h'.rxfifo.trans h.rxfifo
  rxfifoPos := h'.rxfifoPos.trans h.rxfifoPos

end Adds

/-- Calls of the given kinds have been made, and nothing else has happened. -/
def Quiet (K : List Kind) (w w' : Traced σ) : Prop :=
  ∃ evs, Adds evs w w' ∧ ∀ e ∈ evs, e.kind ∈ K

/-- Of a context at most what connecting replaces has changed: the descriptor, the response timeout
by the time that is left of it, and the old settings of the line. -/
structure Tta.Relinked (ctx ctx' : Tta) : Prop where
  errorRecovery : ctx'.errorRecovery = ctx.errorRecovery
  byteTimeout : ctx'.byteTimeout = ctx.byteTimeout
  backend : ctx'.backend = ctx.backend

namespace Tta.Relinked

variable {ctx ctx' ctx'' : Tta}

/-- Nothing has changed. -/
theorem of_eq (h : ctx' = ctx) : ctx.Relinked ctx' := by rw [h]; exact ⟨rfl, rfl, rfl⟩

/-- Connecting more than once. -/
protected theorem trans (h : ctx.Relinked ctx') (h' : ctx'.Relinked ctx'') : ctx.Relinked ctx'' :=
  ⟨h'.errorRecovery.trans h.errorRecovery, h'.byteTimeout.trans h.byteTimeout,
    h'.backend.trans h.backend⟩

/-- The type of the context stays. -/
theorem type (h : ctx.Relinked ctx') : ctx'.type = ctx.type := congrArg Backend.type h.backend

/-- The recovery of the link stays. -/
theorem recoversLink (h : ctx.Relinked ctx') : ctx'.recoversLink = ctx.recoversLink := by
  rw [Tta.recoversLink, h.errorRecovery, ← Tta.recoversLink]

/-- The recovery of the protocol stays. -/
theorem recoversProtocol (h : ctx.Relinked ctx') :
    ctx'.recoversProtocol = ctx.recoversProtocol := by
  rw [Tta.recoversProtocol, h.errorRecovery, ← Tta.recoversProtocol]

end Tta.Relinked

/-- Calls of the given kinds have been made, and of the context at most what connecting replaces has
changed. -/
structure Extends (K : List Kind) (w w' : Traced σ) : Prop where
  log : ∃ evs, w'.log = evs ++ w.log ∧ ∀ e ∈ evs, e.kind ∈ K
  ctx : w.ctx.Relinked w'.ctx
  rxfifo : w'.rxfifo = w.rxfifo
  rxfifoPos : w'.rxfifoPos = w.rxfifoPos

variable {K L : List Kind}

instance : Std.Refl (Quiet K : Traced σ → Traced σ → Prop) := ⟨fun w => ⟨[], .refl w, by simp⟩⟩

instance : IsTrans (Traced σ) (Quiet K) where
  trans := by
    rintro w w' w'' ⟨evs, hadds, hevs⟩ ⟨evs', hadds', hevs'⟩
    refine ⟨evs' ++ evs, hadds.trans hadds', ?_⟩
    intro e he
    rcases List.mem_append.mp he with h | h
    · exact hevs' e h
    · exact hevs e h

instance : Std.Refl (Extends K : Traced σ → Traced σ → Prop) :=
  ⟨fun _ => ⟨⟨[], rfl, by simp⟩, .of_eq rfl, rfl, rfl⟩⟩

instance : IsTrans (Traced σ) (Extends K) where
  trans := by
    intro w w' w'' h h'
    obtain ⟨evs, hlog, hevs⟩ := h.log
    obtain ⟨evs', hlog', hevs'⟩ := h'.log
    refine ⟨⟨evs' ++ evs, by rw [hlog', hlog, List.append_assoc], ?_⟩, h.ctx.trans h'.ctx,
      h'.rxfifo.trans h.rxfifo, h'.rxfifoPos.trans h.rxfifoPos⟩
    intro e he
    rcases List.mem_append.mp he with hmem | hmem
    · exact hevs' e hmem
    · exact hevs e hmem

/-- More kinds may be allowed for. -/
theorem Quiet.mono (hkinds : K ⊆ L) {w w' : Traced σ} (h : Quiet K w w') : Quiet L w w' := by
  obtain ⟨evs, hadds, hevs⟩ := h
  exact ⟨evs, hadds, fun e he => hkinds (hevs e he)⟩

/-- Making calls extends the log. -/
theorem Quiet.extends {w w' : Traced σ} (h : Quiet K w w') : Extends K w w' := by
  obtain ⟨evs, hadds, hevs⟩ := h
  exact ⟨⟨evs, hadds.log, hevs⟩, .of_eq hadds.ctx, hadds.rxfifo, hadds.rxfifoPos⟩

/-- An update of `errno`, and of what connecting replaces in the context, extends the log by
nothing. -/
theorem Extends.modify {g : Traced σ → Traced σ} (hlog : ∀ w, (g w).log = w.log)
    (hctx : ∀ w : Traced σ, w.ctx.Relinked (g w).ctx) (hrxfifo : ∀ w, (g w).rxfifo = w.rxfifo)
    (hpos : ∀ w, (g w).rxfifoPos = w.rxfifoPos) :
    Exec.Along (Extends K) (modify g : Machine (σ × List Event) PUnit) :=
  Exec.Along.modify fun w => ⟨⟨[], hlog w, by simp⟩, hctx w, hrxfifo w, hpos w⟩

/-- A computation that makes calls of some kinds makes calls of more kinds. -/
theorem along_quiet {x : Machine (σ × List Event) α} (h : Exec.Along (Quiet K) x)
    (hkinds : K ⊆ L) : Exec.Along (Quiet L) x :=
  h.mono fun _ _ => Quiet.mono hkinds

/-! ## Single calls -/

/-- A call that is recorded adds its event. -/
theorem adds_sys {f : σ → Except Errno α × σ} {ev : Except Errno α → Event}
    (hev : ∀ r, (ev r).failure = failureOf r) {w w' : Traced σ} {r : Option α}
    (h : (sys fun d : σ × List Event => logged ev (f d.1) d.2).run w = .ok (r, w')) :
    ∃ res, r = res.toOption ∧ Adds [ev res] w w' := by
  rcases hres : f w.dev.1 with ⟨a | a, d⟩
  · have hcall : (fun d : σ × List Event => logged ev (f d.1) d.2) w.dev =
        (.error a, d, ev (.error a) :: w.dev.2) := by
      simp only [logged, hres]
    rw [run_sys_of_error hcall] at h
    cases h
    refine ⟨.error a, rfl, rfl, rfl, ?_, rfl, rfl⟩
    simp [lastFailure, hev, failureOf]
  · have hcall : (fun d : σ × List Event => logged ev (f d.1) d.2) w.dev =
        (.ok a, d, ev (.ok a) :: w.dev.2) := by
      simp only [logged, hres]
    rw [run_sys_of_ok hcall] at h
    cases h
    refine ⟨.ok a, rfl, rfl, rfl, ?_, rfl, rfl⟩
    simp [lastFailure, hev, failureOf]

/-- A call that leaves an answer and is recorded adds its event. -/
theorem adds_sysAnswer {f : σ → (α × Except Errno Unit) × σ} {ev : α × Except Errno Unit → Event}
    (hev : ∀ r, (ev r).failure = failureOf r.2) {w w' : Traced σ} {a : α}
    (h : (sysAnswer fun d : σ × List Event => logged ev (f d.1) d.2).run w = .ok (a, w')) :
    ∃ res, Adds [ev (a, res)] w w' := by
  unfold sysAnswer at h
  rw [Exec.run_bind_of_ok (run_ask _ w)] at h
  rcases hres : f w.dev.1 with ⟨⟨b, e | u⟩, d⟩
  · simp only [logged, hres] at h
    cases h
    refine ⟨.error e, rfl, rfl, ?_, rfl, rfl⟩
    simp [lastFailure, hev, failureOf]
  · simp only [logged, hres] at h
    cases h
    refine ⟨.ok u, rfl, rfl, ?_, rfl, rfl⟩
    simp [lastFailure, hev, failureOf]

/-- A call that is not recorded adds nothing. -/
theorem adds_ask {f : σ → α × σ} {w w' : Traced σ} {a : α}
    (h : (ask fun d : σ × List Event => unlogged (f d.1) d.2).run w = .ok (a, w')) :
    Adds [] w w' := by
  rw [run_ask] at h
  cases h
  exact ⟨rfl, rfl, rfl, rfl, rfl⟩

/-- A call of one kind. -/
theorem quiet_sys {f : σ → Except Errno α × σ} {ev : Except Errno α → Event} {k : Kind}
    (hev : ∀ r, (ev r).failure = failureOf r) (hkind : ∀ r, (ev r).kind = k) (hk : k ∈ K) :
    Exec.Along (Quiet K) (sys fun d : σ × List Event => logged ev (f d.1) d.2) := by
  intro w r w' h
  obtain ⟨res, -, hadds⟩ := adds_sys hev h
  exact ⟨_, hadds, by simpa [hkind] using hk⟩

/-- A call of one kind that leaves an answer. -/
theorem quiet_sysAnswer {f : σ → (α × Except Errno Unit) × σ} {ev : α × Except Errno Unit → Event}
    {k : Kind} (hev : ∀ r, (ev r).failure = failureOf r.2) (hkind : ∀ r, (ev r).kind = k)
    (hk : k ∈ K) :
    Exec.Along (Quiet K) (sysAnswer fun d : σ × List Event => logged ev (f d.1) d.2) := by
  intro w a w' h
  obtain ⟨res, hadds⟩ := adds_sysAnswer hev h
  exact ⟨_, hadds, by simpa [hkind] using hk⟩

/-- A call that is not recorded. -/
theorem quiet_ask {f : σ → α × σ} :
    Exec.Along (Quiet K) (ask fun d : σ × List Event => unlogged (f d.1) d.2) :=
  fun _ _ _ h => ⟨[], adds_ask h, by simp⟩

end Libtta
