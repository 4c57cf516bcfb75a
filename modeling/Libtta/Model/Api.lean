import Libtta.Model.Core

/-!
# Contexts and the calls made on them

The public functions that work on a context, as the calls an application may make, and the contexts
that an application may hold: `Reachable ctx n` says that `ctx` was made by one of the `tta_new`
functions, followed by calls that have built `n` packets, against operating systems that may have
done anything. `tta_tcp_accept` changes the descriptor of a context only, as `tta_set_socket` does.
-/

namespace Libtta

variable {σ : Type}

/-! ## Settings -/

/-- `tta_set_error_recovery`. -/
def ttaSetErrorRecovery (errorRecovery : UInt32) (ctx : Tta) : Tta :=
  { ctx with errorRecovery := errorRecovery }

/-- `tta_set_socket`. -/
def ttaSetSocket (socket : Int) (ctx : Tta) : Tta := { ctx with s := socket }

/-- `tta_set_response_timeout`. -/
def ttaSetResponseTimeout (timeout : Timeval) (ctx : Tta) : Tta :=
  { ctx with responseTimeout := timeout }

/-- `tta_set_byte_timeout`. -/
def ttaSetByteTimeout (timeout : Timeval) (ctx : Tta) : Tta := { ctx with byteTimeout := timeout }

/-- `tta_tcp_set_ip` on a TCP context, for an address string of 1 to 15 characters. -/
def ttaTcpSetIp (ip : String) (port : Int) (ctx : Tta) : Tta :=
  match ctx.backend with
  | .tcp d => { ctx with backend := .tcp { d with ip := ip, port := port } }
  | _ => ctx

/-- The character that ends a C string. -/
def nul : Char := Char.ofNat 0

/-- A C string: the characters before the one that ends it. -/
structure CString where
  chars : List Char
  nul_notMem : nul ∉ chars

/-- The loop of `strlcpy` with room for `n` characters and the one that ends the string: what it
writes. -/
def strlcpyLoop : ℕ → List Char → List Char
  | 0, _ => [nul]
  | _ + 1, [] => [nul]
  | n + 1, c :: src => c :: strlcpyLoop n src

/-- `strlcpy`: what is written to the front of an array of `destSize` characters, and the length of
the source. -/
def strlcpy (src : CString) (destSize : ℕ) : List Char × ℕ :=
  (if destSize = 0 then [] else strlcpyLoop (destSize - 1) src.chars, src.chars.length)

/-- The string in an array of characters. -/
def stringOf (arr : List Char) : String := String.ofList (arr.takeWhile (· ≠ nul))

/-- `tta_tcp_set_ip` with any address: the address is copied into the context before its length is
looked at. -/
def ttaTcpSetIpChecked (d : TtaTcp) (ip : CString) (port : Int) : Machine σ (Option Unit) := do
  let (written, retSize) := strlcpy ip 16
  let d := { d with ip := stringOf written }
  modifyCtx fun ctx => { ctx with backend := .tcp d }
  if retSize = 0 then
    setErrno .EINVAL
    return none
  else if retSize ≥ 16 then
    setErrno .EINVAL
    return none
  else
    modifyCtx fun ctx => { ctx with backend := .tcp { d with port := port } }
    return some ()

/-- `tta_tcp_accept`: what it returns, and what it leaves in `*s`. A listening socket on which it
fails is closed. -/
def ttaTcpAccept (os : Os σ) (s : Int) : Machine σ (Option Int × Int) := do
  let fd ← sys (os.accept s)
  modifyCtx fun ctx => { ctx with s := fd.getD (-1) }
  match fd with
  | none =>
    let _ ← sys (os.close s)
    return (none, 0)
  | some fd => return (some fd, s)

/-- `tta_rf_set_id` on an RF context. -/
def ttaRfSetId (id0 id1 id2 id3 : UInt8) (ctx : Tta) : Tta :=
  match ctx.backend with
  | .rf d => { ctx with backend := .rf { d with id0 := id0, id1 := id1, id2 := id2, id3 := id3 } }
  | _ => ctx

/-- `tta_rf_set_ch`; the channel is also kept in the context, where nothing reads it. -/
def ttaRfSetCh (os : Os σ) (fuel : ℕ) (memory : UInt16 → Int → UInt8) (ch : Int) :
    Machine σ Unit := do
  let ctx ← getCtx
  cc1120SetCh os fuel memory ctx.s ch

/-- `tta_rf_set_power`; the power is also kept in the context, where nothing reads it. -/
def ttaRfSetPower (os : Os σ) (fuel : ℕ) (memory : UInt16 → Int → UInt8) (power : Int) :
    Machine σ Unit := do
  let ctx ← getCtx
  cc1120SetPower os fuel memory ctx.s power

/-- `tta_rs485_set_rts`: only an RS485 context accepts a mode. -/
def ttaRs485SetRts (os : Os σ) (mode : Rts) : Machine σ (Option Unit) := do
  let ctx ← getCtx
  match ctx.backend with
  | .rs485 d =>
    modifyCtx fun ctx => { ctx with backend := .rs485 { d with rts := mode } }
    ttaRs485IoctlRts os ctx.s (mode ≠ .up)
    return some ()
  | _ =>
    setErrno .EINVAL
    return none

/-! ## Calls -/

/-- The calls an application makes on a context. -/
inductive Call where
  | send (m : Ttamsg)
  | receive (fgtm : Bool)
  | reply (req : Ttamsg) (data : Bytes)
  | request (req : Ttamsg)
  | convTtamsg2pkt (m : Ttamsg) (pkt : Bytes)
  | connect
  | close
  | flush
  | setErrorRecovery (errorRecovery : UInt32)
  | setSocket (socket : Int)
  | setResponseTimeout (timeout : Timeval)
  | setByteTimeout (timeout : Timeval)
  | setIp (ip : String) (port : Int)
  | setId (id0 id1 id2 id3 : UInt8)
  | setRts (mode : Rts)

/-- Make a call; what it returns is not kept. -/
def Call.run (os : Os σ) (fuel : ℕ) : Call → Machine σ Unit
  | send m => do let _ ← ttaSend os fuel m
  | receive fgtm => do let _ ← ttaReceive os fuel fgtm
  | reply req data => do let _ ← ttaReply os fuel req data
  | request req => do let _ ← ttaRequest os fuel req
  | convTtamsg2pkt m pkt => do let _ ← Libtta.convTtamsg2pkt m pkt
  | connect => do let _ ← ttaConnect os fuel
  | close => ttaClose os
  | flush => do let _ ← ttaFlush os fuel
  | setErrorRecovery v => modifyCtx (ttaSetErrorRecovery v)
  | setSocket s => modifyCtx (ttaSetSocket s)
  | setResponseTimeout tv => modifyCtx (ttaSetResponseTimeout tv)
  | setByteTimeout tv => modifyCtx (ttaSetByteTimeout tv)
  | setIp ip port => modifyCtx (ttaTcpSetIp ip port)
  | setId id0 id1 id2 id3 => modifyCtx (ttaRfSetId id0 id1 id2 id3)
  | setRts mode => do let _ ← ttaRs485SetRts os mode

/-- The number of packets a call builds. -/
def Call.packets : Call → ℕ
  | send _ | reply _ _ | request _ | convTtamsg2pkt _ _ => 1
  | _ => 0

/-- The contexts an application may hold, with the number of packets they have built. -/
inductive Reachable : Tta → ℕ → Prop where
  | newTcp (ip : String) (port : Int) : Reachable (ttaNewTcp ip port) 0
  | newRs485 (device : String) (serial : SerialSettings) (oldTios : Termios) :
      Reachable (ttaNewRs485 device serial oldTios) 0
  | newRf (device : String) (id0 id1 id2 id3 : UInt8) :
      Reachable (ttaNewRf device id0 id1 id2 id3) 0
  | call {n : ℕ} {σ : Type} (os : Os σ) (fuel : ℕ) (c : Call) {w w' : World σ}
      (hctx : Reachable w.ctx n) (hrun : (c.run os fuel).run w = .ok ((), w')) :
      Reachable w'.ctx (n + c.packets)

end Libtta
