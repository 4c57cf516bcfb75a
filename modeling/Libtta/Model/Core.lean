import Libtta.Model.Link

/-!
# Sending and receiving

The functions of `tta.c` that move messages: `_send_pkt` with its retry loop, the incremental reader
`_tta_receive_pkt`, the receive functions of the backends, the confirmation check, and the public
functions `tta_send`, `tta_receive`, `tta_reply` and `tta_request`.
-/

namespace Libtta

variable {σ : Type}

/-! ## Sending a packet -/

/-- The recovery step of `_send_pkt`, which keeps `errno`. -/
def sendRecovery (os : Os σ) (fuel : ℕ) : Machine σ Unit := do
  let saved := (← get).errno
  if saved = .EBADF ∨ saved = .ECONNRESET ∨ saved = .EPIPE then
    ttaClose os
    let _ ← ttaConnect os fuel
  else
    sleepAndFlush os fuel
  setErrno saved

/-- The loop of `_send_pkt`: with link recovery, a send that fails is repeated. -/
def sendLoop (os : Os σ) (fuel : ℕ) (pkt : Bytes) : ℕ → Machine σ (Option ℕ)
  | 0 => Exec.stop .fuel
  | rounds + 1 => do
    match ← backendSend os fuel pkt with
    | some n => return some n
    | none =>
      if (← getCtx).recoversLink then
        sendRecovery os fuel
        sendLoop os fuel pkt rounds
      else
        return none

/-- `_send_pkt`: a short count is an error, too. -/
def sendPkt (os : Os σ) (fuel : ℕ) (pkt : Bytes) : Machine σ (Option ℕ) := do
  match ← sendLoop os fuel pkt (fuel + 1) with
  | some n =>
    if 0 < n ∧ n ≠ pkt.length then
      setErrno .EMBBADDATA
      return none
    else
      return some n
  | none => return none

/-! ## Receiving a packet -/

/-- `check_integrity` of the RS485 and the RF backend. -/
def checkSums (os : Os σ) (fuel : ℕ) (pkt : Bytes) (pktlen : ℕ) : Machine σ (Option ℕ) := do
  if ← loadSumsMatch pkt pktlen then
    return some pktlen
  else
    if (← getCtx).recoversProtocol then
      let _ ← ttaFlush os fuel
    setErrno .EMBBADCRC
    return none

/-- `backend->check_integrity`. -/
def checkIntegrity (os : Os σ) (fuel : ℕ) (pkt : Bytes) (pktlen : ℕ) : Machine σ (Option ℕ) := do
  match (← getCtx).backend with
  | .tcp _ => return some pktlen
  | _ => checkSums os fuel pkt pktlen

/-- The parts of a packet the reader waits for. -/
inductive Step where
  | hd
  | data
  deriving DecidableEq, Repr

/-- The variables of the loop of `_tta_receive_pkt`. -/
structure ReadState where
  pkt : Bytes
  pktlen : ℕ
  lengthToRead : ℕ
  step : Step
  tv : Option Timeval

/-- The recovery step after a failing `select`, which keeps `errno`. -/
def selectRecovery (os : Os σ) (fuel : ℕ) : Machine σ Unit := do
  if (← getCtx).recoversLink then
    let saved := (← get).errno
    if saved = .ETIMEDOUT then
      sleepAndFlush os fuel
    else if saved = .EBADF then
      ttaClose os
      let _ ← ttaConnect os fuel
    setErrno saved

/-- The recovery step after a failing read, which keeps `errno`. -/
def readRecovery (os : Os σ) (fuel : ℕ) : Machine σ Unit := do
  let saved := (← get).errno
  if (← getCtx).recoversLink ∧
      (saved = .ECONNRESET ∨ saved = .ECONNREFUSED ∨ saved = .EBADF) then
    ttaClose os
    let _ ← ttaConnect os fuel
    setErrno saved

/-- What one round does with the bytes `bs` it has read: they are stored and counted, and when the
header is complete, `compute_data_length_after_hd` says how much is still to come. -/
def receiveBytes (st : ReadState) (bs : Bytes) : Machine σ (Except Bytes ReadState) := do
  let ctx ← getCtx
  let pkt ← storePkt st.pkt st.pktlen bs
  let pktlen := st.pktlen + bs.length
  let lengthToRead := st.lengthToRead - bs.length
  if lengthToRead = 0 ∧ st.step = .hd then
    let datalen ← loadByte pkt (ctx.type.headerLength - 1)
    let lengthToRead := datalen.toNat + ctx.type.checksumLength
    if pktlen + lengthToRead > ctx.type.maxAduLength then
      setErrno .EMBBADDATA
      return .error pkt
    else
      return .ok ⟨pkt, pktlen, lengthToRead, .data, some ctx.byteTimeout⟩
  else
    return .ok ⟨pkt, pktlen, lengthToRead, st.step, some ctx.byteTimeout⟩

/-- One round of the loop of `_tta_receive_pkt`: `.error` when the function returns `-1`, with the
packet buffer as it is then. -/
def receiveStep (os : Os σ) (fuel : ℕ) (st : ReadState) : Machine σ (Except Bytes ReadState) := do
  match ← backendSelect os st.tv with
  | none =>
    selectRecovery os fuel
    return .error st.pkt
  | some _ =>
    match ← backendRecv os st.lengthToRead with
    | none =>
      readRecovery os fuel
      return .error st.pkt
    | some [] =>
      setErrno .ECONNRESET
      readRecovery os fuel
      return .error st.pkt
    | some (b :: bs) => receiveBytes st (b :: bs)

/-- The loop of `_tta_receive_pkt`. -/
def receiveLoop (os : Os σ) (fuel : ℕ) : ℕ → ReadState → Machine σ (Except Bytes ReadState)
  | rounds, st =>
    if st.lengthToRead = 0 then
      return .ok st
    else
      match rounds with
      | 0 => Exec.stop .fuel
      | rounds + 1 => do
        match ← receiveStep os fuel st with
        | .error pkt => return .error pkt
        | .ok st => receiveLoop os fuel rounds st

/-- `_tta_receive_pkt`: the result and the packet buffer. The loop reads at least one byte a round,
so the longest packet bounds the number of rounds. -/
def ttaReceivePkt (os : Os σ) (fuel : ℕ) (pkt : Bytes) (fgtimeout : Bool) :
    Machine σ (Option ℕ × Bytes) := do
  let ctx ← getCtx
  let tv := if fgtimeout then some ctx.responseTimeout else none
  match ← receiveLoop os fuel ctx.type.maxAduLength ⟨pkt, 0, ctx.type.headerLength, .hd, tv⟩ with
  | .error pkt => return (none, pkt)
  | .ok st =>
    let rc ← checkIntegrity os fuel st.pkt st.pktlen
    return (rc, st.pkt)

/-! ## The receive functions of the backends -/

/-- Set or clear the flag of an RS485 or RF backend. -/
def Backend.setConfirmationToIgnore (v : Bool) : Backend → Backend
  | tcp d => .tcp d
  | rs485 d => .rs485 { d with confirmationToIgnore := v }
  | rf d => .rf { d with confirmationToIgnore := v }

/-- Set or clear the flag in the context. -/
def setConfirmationToIgnore (v : Bool) : Machine σ Unit :=
  modifyCtx fun ctx => { ctx with backend := ctx.backend.setConfirmationToIgnore v }

/-- The part of `_tta_rs485_receive` and `_tta_rf_receive` that handles a confirmation to ignore:
the packet is dropped, and the caller is told that 0 bytes were received. -/
def receiveUnlessIgnored (os : Os σ) (fuel : ℕ) (pkt : Bytes) (fgtimeout : Bool) :
    Machine σ (Option ℕ × Bytes) := do
  if (← getCtx).backend.confirmationToIgnore then
    let (_, pkt) ← ttaReceivePkt os fuel pkt fgtimeout
    setConfirmationToIgnore false
    return (some 0, pkt)
  else
    let (rc, pkt) ← ttaReceivePkt os fuel pkt fgtimeout
    if rc = some 0 then
      setConfirmationToIgnore true
    return (rc, pkt)

/-- The `memcpy` into the static receive buffer. -/
def fillRxfifo (bs : Bytes) : Machine σ Unit := do
  let w ← get
  let rxfifo ← Exec.access (.store .rxfifo) (Buffer.storeVec w.rxfifo 0 bs)
  set { w with rxfifo := rxfifo, rxfifoPos := 0 }

/-- The wait of `_tta_rf_receive` for a radio packet with a good CRC, which is moved to the static
receive buffer. `fifo` is the local FIFO array. -/
def waitRxPacket (os : Os σ) (fd : Int) (deadline : Timeval) (fifo : Bytes) : ℕ → Machine σ Bool
  | 0 => Exec.stop .fuel
  | fuel + 1 => do
    let numrx ← cc1120ReadSingle os fd Cc1120.NUM_RXBYTES
    let marcstate ← cc1120ReadSingle os fd Cc1120.MARCSTATE
    if 0 < numrx ∧ marcstate = Cc1120.idle then
      let fifo ← cc1120FifoRead os fd fifo numrx
      -- the RSSI byte is read to be printed, also when there is only one byte
      let _ ← Exec.access (.load .fifo) (if numrx < 2 then none else fifo[numrx.toNat - 2]?)
      let status ← Exec.access (.load .fifo) fifo[numrx.toNat - 1]?
      if status &&& 0x80 ≠ 0 then
        let len ← Exec.access (.load .fifo) fifo[0]?
        let bs ← Exec.access (.load .fifo) (Buffer.load fifo 1 len.toNat)
        fillRxfifo bs
        return true
      else
        return false
    else
      let now ← ask os.gettimeofday
      if deadline.past now then
        return false
      else
        let _ ← sys (os.usleep 100000)
        waitRxPacket os fd deadline fifo fuel

/-- `_tta_rf_receive`: the deadline is the sum of the fields, and it does not depend on
`fgtimeout`. -/
def ttaRfReceive (os : Os σ) (fuel : ℕ) (pkt : Bytes) (fgtimeout : Bool) :
    Machine σ (Option ℕ × Bytes) := do
  let ctx ← getCtx
  let fifo ← uninit os 128
  let start ← ask os.gettimeofday
  cc1120Strobe os ctx.s Cc1120.SIDLE
  cc1120Strobe os ctx.s Cc1120.SFRX
  cc1120Strobe os ctx.s Cc1120.SRX
  let deadline : Timeval :=
    ⟨start.sec + ctx.responseTimeout.sec, start.usec + ctx.responseTimeout.usec⟩
  let res ←
    if ← waitRxPacket os ctx.s deadline fifo fuel then
      receiveUnlessIgnored os fuel pkt fgtimeout
    else
      pure (none, pkt)
  cc1120Strobe os ctx.s Cc1120.SIDLE
  cc1120Strobe os ctx.s Cc1120.SFRX
  return res

/-- `backend->receive`. -/
def backendReceive (os : Os σ) (fuel : ℕ) (pkt : Bytes) (fgtimeout : Bool) :
    Machine σ (Option ℕ × Bytes) := do
  match (← getCtx).backend with
  | .tcp _ => ttaReceivePkt os fuel pkt fgtimeout
  | .rs485 _ => receiveUnlessIgnored os fuel pkt fgtimeout
  | .rf _ => ttaRfReceive os fuel pkt fgtimeout

/-! ## The confirmation check -/

/-- `_tta_rs485_pre_check_confirmation`. -/
def ttaRs485PreCheckConfirmation (req rsp : Bytes) : Machine σ Bool := do
  let req1 ← loadByte req 1
  let rsp1 ← loadByte rsp 1
  let req3 ← loadByte req 3
  let rsp3 ← loadByte rsp 3
  if req1 ≠ rsp1 ∨ req3 ≠ rsp3 &&& 0x7F then
    setErrno .EMBBADSLAVE
    return false
  else
    return true

/-- `_tta_tcp_pre_check_confirmation`. -/
def ttaTcpPreCheckConfirmation (req rsp : Bytes) : Machine σ Bool := do
  let req0 ← loadByte req 0
  let rsp0 ← loadByte rsp 0
  let req1 ← loadByte req 1
  let rsp1 ← loadByte rsp 1
  if req0 ≠ rsp0 ∨ req1 ≠ rsp1 then
    setErrno .EMBBADDATA
    return false
  else
    return true

/-- `_tta_rf_pre_check_confirmation`: the code behind the comparison of the id is not reached. -/
def ttaRfPreCheckConfirmation (d : TtaRf) (rsp : Bytes) : Machine σ Bool := do
  let id ← loadPkt rsp 0 4
  if id ≠ d.id then
    setErrno .EMBBADRFID
    return false
  else
    return true

/-- `backend->pre_check_confirmation`: `false` stands for `-1`. -/
def preCheckConfirmation (req rsp : Bytes) : Machine σ Bool := do
  match (← getCtx).backend with
  | .tcp _ => ttaTcpPreCheckConfirmation req rsp
  | .rs485 _ => ttaRs485PreCheckConfirmation req rsp
  | .rf d => ttaRfPreCheckConfirmation d rsp

/-- `check_confirmation`. -/
def checkConfirmation (os : Os σ) (fuel : ℕ) (req rsp : Bytes) : Machine σ Bool := do
  if ← preCheckConfirmation req rsp then
    return true
  else
    if (← getCtx).recoversProtocol then
      sleepAndFlush os fuel
    return false

/-! ## The public functions -/

/-- `tta_send`. -/
def ttaSend (os : Os σ) (fuel : ℕ) (m : Ttamsg) : Machine σ (Option ℕ) := do
  let buf ← uninit os maxMessageLength
  let (buf, buflen) ← convTtamsg2pkt m buf
  sendPkt os fuel (buf.take buflen)

/-- `tta_receive`: the number of bytes and the message. -/
def ttaReceive (os : Os σ) (fuel : ℕ) (fgtm : Bool) : Machine σ (Option (ℕ × Ttamsg)) := do
  let buf ← uninit os maxMessageLength
  match ← backendReceive os fuel buf fgtm with
  | (none, _) => return none
  | (some rc, buf) => return some (rc, ← convPkt2ttamsg buf)

/-- The message `tta_reply` builds: the length of the payload becomes a byte on the way into
`ttamsg_make`. -/
def replyMsg (req : Ttamsg) (data : Bytes) : Ttamsg :=
  ttamsgMake req.hd.devid req.hd.subid (req.hd.cmd ||| 0x80) data (UInt8.ofNat data.length)
    (by rw [UInt8.toNat_ofNat']; exact Nat.mod_le _ _)

/-- `tta_reply`, with a payload of the length that is passed. -/
def ttaReply (os : Os σ) (fuel : ℕ) (req : Ttamsg) (data : Bytes) : Machine σ (Option ℕ) :=
  ttaSend os fuel (replyMsg req data)

/-- The first half of `tta_request`: the request is built and sent. -/
def ttaRequestSend (os : Os σ) (fuel : ℕ) (req : Ttamsg) : Machine σ (Bytes × Option ℕ) := do
  let reqbuf ← uninit os maxMessageLength
  let (reqbuf, reqlen) ← convTtamsg2pkt req reqbuf
  let rc ← sendPkt os fuel (reqbuf.take reqlen)
  return (reqbuf, rc)

/-- The second half of `tta_request`: the response is received, checked and decoded. -/
def ttaRequestReceive (os : Os σ) (fuel : ℕ) (reqbuf : Bytes) : Machine σ (Option Ttamsg) := do
  let rspbuf ← uninit os maxMessageLength
  match ← backendReceive os fuel rspbuf true with
  | (none, _) => return none
  | (some _, rspbuf) =>
    if ← checkConfirmation os fuel reqbuf rspbuf then
      return some (← convPkt2ttamsg rspbuf)
    else
      return none

/-- `tta_request`: a message stands for the result 0. -/
def ttaRequest (os : Os σ) (fuel : ℕ) (req : Ttamsg) : Machine σ (Option Ttamsg) := do
  match ← ttaRequestSend os fuel req with
  | (_, none) => return none
  | (reqbuf, some _) => ttaRequestReceive os fuel reqbuf

end Libtta
