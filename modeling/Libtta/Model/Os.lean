import Libtta.Model.Types

/-!
# The operating system and the state of the program

The library runs against an operating system: `Os σ` has one field for each call the library makes,
and keeps its own state `σ`. Nothing is assumed about the outcomes, so a statement about every `Os`
is a statement about every sequence of outcomes the calls may have, as long as they return: a call
that never returns, such as a `select` without a timeout on a line that stays silent, is not an
outcome. What `select` writes back into a timeout matters only where a context keeps it, in
`_tta_tcp_connect`.

The state of the program, `World`, holds the context, `errno`, the static receive buffer of the RF
backend and the state of the operating system. `Machine` computations run on it; they stop with a
`Stop` at an access outside an object, at a sum that is out of range, or when the bound on a polling
loop is used up.
-/

namespace Libtta

/-- The arrays of bytes that are indexed with lengths from outside. -/
inductive Object where
  /-- A packet buffer of `tta_send`, `tta_receive` or `tta_request`. -/
  | pkt
  /-- The FIFO array of `write_rf` or `_tta_rf_receive`. -/
  | fifo
  /-- The static receive buffer of the RF backend. -/
  | rxfifo
  deriving DecidableEq, Repr

/-- Why a run of the model does not return. -/
inductive Stop where
  /-- A write outside the object, where the C program has no defined behaviour. -/
  | store (o : Object)
  /-- A read outside the object, where the C program has no defined behaviour. -/
  | load (o : Object)
  /-- A sum of type `int` out of range, where the C program has no defined behaviour. -/
  | overflow
  /-- A loop that the source does not bound was followed for as many rounds as asked. -/
  | fuel
  deriving DecidableEq, Repr

/-- The outcome of `select`, called again for as long as a signal interrupts it. -/
inductive SelectResult where
  | ready
  | timeout
  | fail (e : Errno) (h : e ≠ .EINTR)

/-- The calls the library makes to the operating system, with what they return or the `errno` they
fail with. `read` and `write` are also `recv` and `send` without `MSG_DONTWAIT`. -/
structure Os (σ : Type) where
  /-- The bytes of a fresh local array, which C leaves uninitialised. -/
  garbage : σ → (ℕ → UInt8) × σ := fun d => (fun _ => 0, d)
  select : Int → Option Timeval → σ → SelectResult × σ := fun _ _ d => (.ready, d)
  /-- At most as many bytes as asked for; none at the end of the stream. -/
  read : Int → ℕ → σ → Except Errno Bytes × σ := fun _ _ d => (.ok [], d)
  /-- The number of bytes that were accepted. -/
  write : Int → Bytes → σ → Except Errno ℕ × σ := fun _ bs d => (.ok bs.length, d)
  /-- `recv` with `MSG_DONTWAIT`. -/
  readNow : Int → ℕ → σ → Except Errno Bytes × σ := fun _ _ d => (.error .EAGAIN, d)
  openDevice : String → σ → Except Errno Int × σ := fun _ d => (.ok 3, d)
  close : Int → σ → Except Errno Unit × σ := fun _ d => (.ok (), d)
  shutdown : Int → σ → Except Errno Unit × σ := fun _ d => (.ok (), d)
  socket : σ → Except Errno Int × σ := fun d => (.ok 3, d)
  /-- A connection to a listening socket. -/
  accept : Int → σ → Except Errno Int × σ := fun _ d => (.ok 4, d)
  /-- `TCP_NODELAY`. -/
  setNodelay : Int → σ → Except Errno Unit × σ := fun _ d => (.ok (), d)
  /-- `IP_TOS`. -/
  setTos : Int → σ → Except Errno Unit × σ := fun _ d => (.ok (), d)
  connect : Int → String → Int → σ → Except Errno Unit × σ := fun _ _ _ d => (.ok (), d)
  /-- The wait for a pending connection: is the socket writable in time? `select` replaces the
  timeout by the time that is left. -/
  selectWrite : Int → Timeval → σ → (Timeval × Except Errno Bool) × σ :=
    fun _ tv d => ((tv, .ok true), d)
  /-- `SO_ERROR`: is there no pending error? -/
  noError : Int → σ → Except Errno Bool × σ := fun _ d => (.ok true, d)
  tcgetattr : Int → σ → Except Errno Termios × σ := fun _ d => (.ok .zero, d)
  tcsetattr : Int → Termios → σ → Except Errno Unit × σ := fun _ _ d => (.ok (), d)
  tcflush : Int → σ → Except Errno Unit × σ := fun _ d => (.ok (), d)
  /-- `TIOCMBIS` with `TIOCM_RTS`. -/
  rtsSet : Int → σ → Except Errno Unit × σ := fun _ d => (.ok (), d)
  /-- `TIOCMBIC` with `TIOCM_RTS`. -/
  rtsClear : Int → σ → Except Errno Unit × σ := fun _ d => (.ok (), d)
  /-- `TIOCSERGETLSR`: is the transmitter empty? A call that fails leaves the answer of an earlier
  call, or an uninitialised one. -/
  txEmpty : Int → σ → (Bool × Except Errno Unit) × σ := fun _ d => ((true, .ok ()), d)
  /-- `TIOCMGET`; a call that fails leaves the flags uninitialised. -/
  modemGet : Int → σ → (UInt32 × Except Errno Unit) × σ := fun _ d => ((0, .ok ()), d)
  /-- `TIOCMSET`. -/
  modemSet : Int → UInt32 → σ → Except Errno Unit × σ := fun _ _ d => (.ok (), d)
  /-- `nanosleep`, called again with the rest for as long as a signal interrupts it. -/
  nanosleep : Timeval → σ → Except Errno Unit × σ := fun _ d => (.ok (), d)
  usleep : ℕ → σ → Except Errno Unit × σ := fun _ d => (.ok (), d)
  gettimeofday : σ → Timeval × σ := fun d => (⟨0, 0⟩, d)
  /-- A command strobe of the radio chip. -/
  strobe : Int → UInt8 → σ → Except Errno Unit × σ := fun _ _ d => (.ok (), d)
  /-- A register of the radio chip; a call that fails leaves the value uninitialised. -/
  readReg : Int → UInt16 → σ → (UInt8 × Except Errno Unit) × σ := fun _ _ d => ((0, .ok ()), d)
  writeReg : Int → UInt16 → UInt8 → σ → Except Errno Unit × σ := fun _ _ _ d => (.ok (), d)
  /-- The 256-byte transfer buffer after a read of the receive FIFO. -/
  fifoRead : Int → UInt8 → σ → ((ℕ → UInt8) × Except Errno Unit) × σ :=
    fun _ _ d => ((fun _ => 0, .ok ()), d)
  fifoWrite : Int → Bytes → σ → Except Errno Unit × σ := fun _ _ d => (.ok (), d)

/-- The state of the program. -/
structure World (σ : Type) where
  ctx : Tta
  errno : Errno
  /-- The static receive buffer of the RF backend. -/
  rxfifo : List.Vector UInt8 128
  rxfifoPos : ℕ
  dev : σ

/-- Computations of the program. -/
abbrev Machine (σ : Type) := Exec (World σ) Stop

variable {σ α : Type}

/-- Leave a value in `errno`. -/
def setErrno (e : Errno) : Machine σ Unit := modify fun w => { w with errno := e }

/-- Update the context. -/
def modifyCtx (f : Tta → Tta) : Machine σ Unit := modify fun w => { w with ctx := f w.ctx }

/-- The context. -/
def getCtx : Machine σ Tta := do return (← get).ctx

/-- Make a call that has no way to fail. -/
def ask (call : σ → α × σ) : Machine σ α := do
  let w ← get
  set { w with dev := (call w.dev).2 }
  return (call w.dev).1

/-- Make a call: `none` stands for the result `-1`, with `errno` set. -/
def sys (call : σ → Except Errno α × σ) : Machine σ (Option α) := do
  match ← ask call with
  | .ok a => return some a
  | .error e =>
    setErrno e
    return none

/-- Make a call that leaves an answer even when it fails. -/
def sysAnswer (call : σ → (α × Except Errno Unit) × σ) : Machine σ α := do
  match ← ask call with
  | (a, .ok _) => return a
  | (a, .error e) =>
    setErrno e
    return a

/-- An uninitialised local array of `n` bytes. -/
def uninit (os : Os σ) (n : ℕ) : Machine σ Bytes := do
  let g ← ask os.garbage
  return (List.range n).map g

@[simp] theorem run_setErrno (e : Errno) (w : World σ) :
    (setErrno e).run w = .ok ((), { w with errno := e }) := rfl

@[simp] theorem run_modifyCtx (f : Tta → Tta) (w : World σ) :
    (modifyCtx f).run w = .ok ((), { w with ctx := f w.ctx }) := rfl

@[simp] theorem run_getCtx (w : World σ) : getCtx.run w = .ok (w.ctx, w) := rfl

@[simp] theorem run_ask (call : σ → α × σ) (w : World σ) :
    (ask call).run w = .ok ((call w.dev).1, { w with dev := (call w.dev).2 }) := rfl

/-- A call that succeeds. -/
theorem run_sys_of_ok {call : σ → Except Errno α × σ} {w : World σ} {a : α} {d : σ}
    (h : call w.dev = (.ok a, d)) : (sys call).run w = .ok (some a, { w with dev := d }) := by
  unfold sys
  rw [Exec.run_bind_of_ok (run_ask call w), h]
  rfl

/-- A call that fails sets `errno`. -/
theorem run_sys_of_error {call : σ → Except Errno α × σ} {w : World σ} {e : Errno} {d : σ}
    (h : call w.dev = (.error e, d)) :
    (sys call).run w = .ok (none, { w with dev := d, errno := e }) := by
  unfold sys
  rw [Exec.run_bind_of_ok (run_ask call w), h]
  rfl

/-- A call returns its result or `-1`, whatever its outcome is. -/
theorem exists_run_sys (call : σ → Except Errno α × σ) (w : World σ) :
    ∃ e, (sys call).run w =
      .ok ((call w.dev).1.toOption, { w with dev := (call w.dev).2, errno := e }) := by
  rcases hcall : call w.dev with ⟨e | a, d⟩
  · exact ⟨e, run_sys_of_error hcall⟩
  · exact ⟨w.errno, run_sys_of_ok hcall⟩

/-- A call that leaves an answer returns it, whatever its outcome is. -/
theorem exists_run_sysAnswer (call : σ → (α × Except Errno Unit) × σ) (w : World σ) :
    ∃ e, (sysAnswer call).run w =
      .ok ((call w.dev).1.1, { w with dev := (call w.dev).2, errno := e }) := by
  unfold sysAnswer
  rw [Exec.run_bind_of_ok (run_ask call w)]
  rcases hcall : call w.dev with ⟨⟨a, e | u⟩, d⟩
  · exact ⟨e, rfl⟩
  · exact ⟨w.errno, rfl⟩

/-- A local array has the size it is declared with. -/
theorem run_uninit (os : Os σ) (n : ℕ) (w : World σ) :
    ∃ pkt : Bytes, pkt.length = n ∧
      (uninit os n).run w = .ok (pkt, { w with dev := (os.garbage w.dev).2 }) :=
  ⟨(List.range n).map (os.garbage w.dev).1, by simp, rfl⟩

/-! ## A device with a state of its own -/

/-- A call that has nothing to do with the device. -/
def beside {κ : Type} (call : σ → α × σ) (d : κ × σ) : α × κ × σ :=
  ((call d.2).1, d.1, (call d.2).2)

/-- The operating system beside a device that no call touches; a device that answers some of the
calls replaces them. -/
def Os.beside (κ : Type) (os : Os σ) : Os (κ × σ) where
  garbage := Libtta.beside os.garbage
  select fd tv := Libtta.beside (os.select fd tv)
  read fd n := Libtta.beside (os.read fd n)
  write fd bs := Libtta.beside (os.write fd bs)
  readNow fd n := Libtta.beside (os.readNow fd n)
  openDevice device := Libtta.beside (os.openDevice device)
  close fd := Libtta.beside (os.close fd)
  shutdown fd := Libtta.beside (os.shutdown fd)
  socket := Libtta.beside os.socket
  accept fd := Libtta.beside (os.accept fd)
  setNodelay fd := Libtta.beside (os.setNodelay fd)
  setTos fd := Libtta.beside (os.setTos fd)
  connect fd ip port := Libtta.beside (os.connect fd ip port)
  selectWrite fd tv := Libtta.beside (os.selectWrite fd tv)
  noError fd := Libtta.beside (os.noError fd)
  tcgetattr fd := Libtta.beside (os.tcgetattr fd)
  tcsetattr fd tios := Libtta.beside (os.tcsetattr fd tios)
  tcflush fd := Libtta.beside (os.tcflush fd)
  rtsSet fd := Libtta.beside (os.rtsSet fd)
  rtsClear fd := Libtta.beside (os.rtsClear fd)
  txEmpty fd := Libtta.beside (os.txEmpty fd)
  modemGet fd := Libtta.beside (os.modemGet fd)
  modemSet fd flags := Libtta.beside (os.modemSet fd flags)
  nanosleep tv := Libtta.beside (os.nanosleep tv)
  usleep n := Libtta.beside (os.usleep n)
  gettimeofday := Libtta.beside os.gettimeofday
  strobe fd cmd := Libtta.beside (os.strobe fd cmd)
  readReg fd addr := Libtta.beside (os.readReg fd addr)
  writeReg fd addr val := Libtta.beside (os.writeReg fd addr val)
  fifoRead fd len := Libtta.beside (os.fifoRead fd len)
  fifoWrite fd bs := Libtta.beside (os.fifoWrite fd bs)

end Libtta
