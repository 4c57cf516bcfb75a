import Libtta.Model.Cc1120
import Libtta.Model.Codec

/-!
# The device side of the backends

Connecting, closing, flushing, waiting, reading and writing, for each backend, and the dispatch on
the backend of the context. A result `none` stands for `-1`.
-/

namespace Libtta

variable {σ : Type}

/-! ## Modem lines -/

/-- `TIOCM_RTS`. -/
def tiocmRts : UInt32 := 0x004

/-- `_tta_rs485_ioctl_rts`. -/
def ttaRs485IoctlRts (os : Os σ) (fd : Int) (on : Bool) : Machine σ Unit := do
  let flags ← sysAnswer (os.modemGet fd)
  let _ ← sys (os.modemSet fd (if on then flags ||| tiocmRts else flags &&& ~~~tiocmRts))

/-! ## Connecting -/

/-- Keep the settings that `tcgetattr` has given; a call that fails leaves those kept before. -/
def Tta.save (old : Option Termios) (ctx : Tta) : Tta :=
  { ctx with oldTios := old.getD ctx.oldTios }

/-- The part of `_tta_rs485_connect` that sets up the line. -/
def programLine (os : Os σ) (fd : Int) (c : SerialSettings) : Machine σ (Option Unit) := do
  match rs485Tios c with
  | none => return none
  | some tios => sys (os.tcsetattr fd tios)

/-- `_tta_rs485_connect`: a `tcgetattr` that fails is not noticed. -/
def ttaRs485Connect (os : Os σ) (d : TtaRs485) : Machine σ (Option Unit) := do
  let fd ← sys (os.openDevice d.device)
  modifyCtx fun ctx => { ctx with s := fd.getD (-1) }
  match fd with
  | none => return none
  | some fd =>
    let old ← sys (os.tcgetattr fd)
    modifyCtx (Tta.save old)
    match ← programLine os fd d.serial with
    | none =>
      let _ ← sys (os.close fd)
      modifyCtx fun ctx => { ctx with s := -1 }
      return none
    | some _ =>
      let _ ← sys (os.rtsClear fd)
      return some ()

/-- `_tta_tcp_set_ipv4_options`. -/
def ttaTcpSetIpv4Options (os : Os σ) (fd : Int) : Machine σ (Option Unit) := do
  match ← sys (os.setNodelay fd) with
  | none => return none
  | some _ => sys (os.setTos fd)

/-- The wait of `_connect`, with the response timeout of the context, which `select` replaces by the
time that is left. -/
def waitWritable (os : Os σ) (fd : Int) : Machine σ (Option Bool) := do
  let ctx ← getCtx
  let (left, res) ← ask (os.selectWrite fd ctx.responseTimeout)
  modifyCtx fun ctx => { ctx with responseTimeout := left }
  match res with
  | .ok writable => return some writable
  | .error e =>
    setErrno e
    return none

/-- The part of `_connect` that waits for a connection in progress, and asks for its outcome. -/
def finishConnect (os : Os σ) (fd : Int) : Machine σ (Option Unit) := do
  match ← waitWritable os fd with
  | some true =>
    match ← sys (os.noError fd) with
    | some true => return some ()
    | _ =>
      setErrno .ECONNREFUSED
      return none
  | _ => return none

/-- `_connect`. -/
def connectSocket (os : Os σ) (fd : Int) (d : TtaTcp) : Machine σ (Option Unit) := do
  match ← sys (os.connect fd d.ip d.port) with
  | some _ => return some ()
  | none =>
    if (← get).errno = .EINPROGRESS then
      finishConnect os fd
    else
      return none

/-- `_tta_tcp_connect`. -/
def ttaTcpConnect (os : Os σ) (d : TtaTcp) : Machine σ (Option Unit) := do
  let fd ← sys os.socket
  modifyCtx fun ctx => { ctx with s := fd.getD (-1) }
  match fd with
  | none => return none
  | some fd =>
    match ← ttaTcpSetIpv4Options os fd with
    | none =>
      let _ ← sys (os.close fd)
      return none
    | some _ =>
      match ← connectSocket os fd d with
      | none =>
        let _ ← sys (os.close fd)
        return none
      | some _ => return some ()

/-- `_tta_rf_connect`. -/
def ttaRfConnect (os : Os σ) (fuel : ℕ) (d : TtaRf) : Machine σ (Option Unit) := do
  let fd ← sys (os.openDevice d.device)
  modifyCtx fun ctx => { ctx with s := fd.getD (-1) }
  match fd with
  | none => return none
  | some fd =>
    cc1120Strobe os fd Cc1120.SRES
    let _ ← sys (os.usleep 500000)
    cc1120Writesetting os fd
    cc1120Manualcalibration os fuel fd
    cc1120Strobe os fd Cc1120.SIDLE
    return some ()

/-- `tta_connect`. -/
def ttaConnect (os : Os σ) (fuel : ℕ) : Machine σ (Option Unit) := do
  match (← getCtx).backend with
  | .tcp d => ttaTcpConnect os d
  | .rs485 d => ttaRs485Connect os d
  | .rf d => ttaRfConnect os fuel d

/-- `tta_close`: the descriptor stays in the context. -/
def ttaClose (os : Os σ) : Machine σ Unit := do
  let ctx ← getCtx
  match ctx.backend with
  | .tcp _ =>
    let _ ← sys (os.shutdown ctx.s)
    let _ ← sys (os.close ctx.s)
  | .rs485 _ =>
    let _ ← sys (os.tcsetattr ctx.s ctx.oldTios)
    let _ ← sys (os.close ctx.s)
  | .rf _ => return ()

/-- `tta_close` does nothing on an RF context. -/
theorem eq_of_ttaClose {os : Os σ} {w w' : World σ} {u : Unit} (hrf : w.ctx.type = .rf)
    (h : (ttaClose os).run w = .ok (u, w')) : w' = w := by
  obtain ⟨d, hbe⟩ := Tta.exists_rf hrf
  unfold ttaClose at h
  rw [Exec.run_bind_of_ok (run_getCtx w), hbe] at h
  cases h
  rfl

/-! ## Flushing -/

/-- The loop of `_tta_tcp_flush`, with the bytes flushed so far. -/
def ttaTcpFlushLoop (os : Os σ) (fd : Int) : ℕ → Int → Machine σ Int
  | 0, _ => Exec.stop .fuel
  | fuel + 1, sum => do
    match ← sys (os.readNow fd BackendType.tcp.maxAduLength) with
    | none => return sum
    | some bs =>
      let n := (bs.take BackendType.tcp.maxAduLength).length
      let sum ← Exec.access .overflow (addInt sum n)
      if n = BackendType.tcp.maxAduLength then
        ttaTcpFlushLoop os fd fuel sum
      else
        return sum

/-- `tta_flush`. -/
def ttaFlush (os : Os σ) (fuel : ℕ) : Machine σ (Option Int) := do
  let ctx ← getCtx
  match ctx.backend with
  | .tcp _ => return some (← ttaTcpFlushLoop os ctx.s fuel 0)
  | .rs485 _ => return (← sys (os.tcflush ctx.s)).map fun _ => 0
  | .rf _ =>
    cc1120Strobe os ctx.s Cc1120.SFTX
    cc1120Strobe os ctx.s Cc1120.SFRX
    return some 0

/-- What `_sleep_and_flush` makes of the response timeout: whole seconds in the microseconds are
dropped. -/
def Timeval.request (tv : Timeval) : Timeval := ⟨tv.sec, tv.usec % 1000000⟩

/-- `_sleep_and_flush`. -/
def sleepAndFlush (os : Os σ) (fuel : ℕ) : Machine σ Unit := do
  let ctx ← getCtx
  let _ ← sys (os.nanosleep ctx.responseTimeout.request)
  let _ ← ttaFlush os fuel

/-! ## Waiting and reading -/

/-- `backend->select`: `none` when the wait fails or times out. The radio never waits here. -/
def backendSelect (os : Os σ) (tv : Option Timeval) : Machine σ (Option Unit) := do
  let ctx ← getCtx
  match ctx.backend with
  | .rf _ => return some ()
  | _ =>
    match ← ask (os.select ctx.s tv) with
    | .ready => return some ()
    | .timeout =>
      setErrno .ETIMEDOUT
      return none
    | .fail e _ =>
      setErrno e
      return none

/-- What `backendSelect` makes of the outcome of `select`. -/
def SelectResult.answer : SelectResult → Machine σ (Option Unit)
  | ready => return some ()
  | timeout => do
    setErrno .ETIMEDOUT
    return none
  | fail e _ => do
    setErrno e
    return none

/-- Without a radio, `backendSelect` is one call of `select`. -/
theorem run_backendSelect_of_ne_rf (os : Os σ) (tv : Option Timeval) {w : World σ}
    (hrf : w.ctx.type ≠ .rf) : (backendSelect os tv).run w =
      (ask (os.select w.ctx.s tv) >>= SelectResult.answer).run w := by
  unfold backendSelect
  rw [Exec.run_bind_of_ok (run_getCtx w)]
  cases hbe : w.ctx.backend with
  | tcp d => rfl
  | rs485 d => rfl
  | rf d => exact absurd (congrArg Backend.type hbe) hrf

/-- `read_rf`: the next bytes of the static receive buffer, however many it holds. -/
def readRf (sz : ℕ) : Machine σ Bytes := do
  let w ← get
  let bs ← Exec.access (.load .rxfifo) (Buffer.load w.rxfifo.1 w.rxfifoPos sz)
  set { w with rxfifoPos := w.rxfifoPos + sz }
  return bs

/-- `backend->recv`: at most `n` bytes. -/
def backendRecv (os : Os σ) (n : ℕ) : Machine σ (Option Bytes) := do
  let ctx ← getCtx
  match ctx.backend with
  | .rf _ => return some (← readRf n)
  | _ => return (← sys (os.read ctx.s n)).map (List.take n)

/-- Without a radio, `backendRecv` is one call of `read` or `recv`. -/
theorem run_backendRecv_of_ne_rf (os : Os σ) (n : ℕ) {w : World σ} (hrf : w.ctx.type ≠ .rf) :
    (backendRecv os n).run w =
      (do return (← sys (os.read w.ctx.s n)).map (List.take n) : Machine σ (Option Bytes)).run
        w := by
  unfold backendRecv
  rw [Exec.run_bind_of_ok (run_getCtx w)]
  cases hbe : w.ctx.backend with
  | tcp d => rfl
  | rs485 d => rfl
  | rf d => exact absurd (congrArg Backend.type hbe) hrf

/-! ## Writing -/

/-- The wait of `write_uart` for an empty transmitter: at most `left + 1` polls. -/
def waitTxEmpty (os : Os σ) (fd : Int) : ℕ → Machine σ Bool
  | 0 => sysAnswer (os.txEmpty fd)
  | left + 1 => do
    if ← sysAnswer (os.txEmpty fd) then
      return true
    else
      let _ ← sys (os.usleep 100)
      waitTxEmpty os fd left

/-- `write_uart`: a failing write gives 0 and leaves the line set, a transmitter that stays busy
gives `-1`. -/
def writeUart (os : Os σ) (fd : Int) (buf : Bytes) : Machine σ (Option ℕ) := do
  let _ ← sys (os.rtsSet fd)
  match ← sys (os.write fd buf) with
  | none => return some 0
  | some n =>
    -- the counter is tested against 1000 before it is stepped, so the poll with 1001 fails
    let drained ← waitTxEmpty os fd 1001
    let _ ← sys (os.rtsClear fd)
    return if drained then some (min n buf.length) else none

/-- `_tta_rs485_send`. -/
def ttaRs485Send (os : Os σ) (d : TtaRs485) (fd : Int) (pkt : Bytes) : Machine σ (Option ℕ) := do
  match d.rts with
  | .none => writeUart os fd pkt
  | rts =>
    ttaRs485IoctlRts os fd (rts = .up)
    let _ ← sys (os.usleep 10000)
    let size ← sys (os.write fd pkt)
    let _ ← sys (os.usleep 10000)
    ttaRs485IoctlRts os fd (rts ≠ .up)
    return size.map (min · pkt.length)

/-- `_tta_tcp_send`. -/
def ttaTcpSend (os : Os σ) (fd : Int) (pkt : Bytes) : Machine σ (Option ℕ) :=
  return (← sys (os.write fd pkt)).map (min · pkt.length)

/-- `write_rf`: the frame is copied behind its length byte into a 128-byte array. -/
def writeRf (os : Os σ) (fd : Int) (buf : Bytes) : Machine σ ℕ := do
  let fifo ← uninit os 128
  let fifo ← Exec.access (.store .fifo) (Buffer.store fifo 0 [UInt8.ofNat buf.length])
  let fifo ← Exec.access (.store .fifo) (Buffer.store fifo 1 buf)
  cc1120FifoWrite os fd fifo (buf.length + 1)
  return buf.length

/-- The carrier-sense loop of `_tta_rf_send`: at most `left` polls. -/
def carrierSense (os : Os σ) (fd : Int) : ℕ → Machine σ Bool
  | 0 => do
    let _ ← sys (os.usleep 1000)
    return false
  | left + 1 => do
    let _ ← sys (os.usleep 1000)
    let rssi0 ← cc1120ReadSingle os fd Cc1120.RSSI0
    if rssi0 &&& 0x01 ≠ 0 then
      return true
    else
      carrierSense os fd left

/-- Is the clock past the deadline? The fields are compared as they are. -/
def Timeval.past (deadline now : Timeval) : Bool :=
  deadline.sec < now.sec || (now.sec == deadline.sec && deadline.usec < now.usec)

/-- The wait of `_tta_rf_send` for the end of the transmission: the sync pin is seen set, and
later clear. -/
def waitTxDone (os : Os σ) (fd : Int) (deadline : Timeval) : ℕ → Bool → Machine σ Bool
  | 0, _ => Exec.stop .fuel
  | fuel + 1, fgstart => do
    let status ← cc1120ReadSingle os fd Cc1120.GPIO_STATUS
    if status &&& 0x08 = 0 ∧ fgstart = true then
      return true
    else
      let now ← ask os.gettimeofday
      if deadline.past now then
        return false
      else
        let _ ← sys (os.usleep 1000)
        waitTxDone os fd deadline fuel (fgstart || status &&& 0x08 != 0)

/-- `_tta_rf_send`. -/
def ttaRfSend (os : Os σ) (fuel : ℕ) (fd : Int) (pkt : Bytes) : Machine σ (Option ℕ) := do
  cc1120Strobe os fd Cc1120.SIDLE
  cc1120Strobe os fd Cc1120.SFTX
  let rc ← writeRf os fd pkt
  cc1120Strobe os fd Cc1120.SRX
  -- `retry++ > 10` lets eleven polls through
  let sent ←
    if ← carrierSense os fd 11 then do
      cc1120Strobe os fd Cc1120.STX
      let start ← ask os.gettimeofday
      waitTxDone os fd ⟨start.sec + 1, start.usec⟩ fuel false
    else
      pure false
  cc1120Strobe os fd Cc1120.SIDLE
  cc1120Strobe os fd Cc1120.SFTX
  return if sent then some rc else none

/-- `backend->send`. -/
def backendSend (os : Os σ) (fuel : ℕ) (pkt : Bytes) : Machine σ (Option ℕ) := do
  let ctx ← getCtx
  match ctx.backend with
  | .tcp _ => ttaTcpSend os ctx.s pkt
  | .rs485 d => ttaRs485Send os d ctx.s pkt
  | .rf _ => ttaRfSend os fuel ctx.s pkt

end Libtta
