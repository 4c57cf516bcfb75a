import Libtta.Model.Os

/-!
# Packets: encoders, decoders and checksums

`conv_ttamsg2pkt` lays a message out in a packet buffer, `conv_pkt2ttamsg` reads it back, for each
of the three backends, and `sum_xor` and `sum_add` are the two checksums of RS485 and RF packets.
All accesses to a packet buffer are checked.
-/

namespace Libtta

variable {σ : Type}

/-- `STX`: the first byte of an RS485 packet. -/
def stx : UInt8 := 0xF7

/-- `sum_xor`: the exclusive or of the bytes. -/
def sumXor (bs : Bytes) : UInt8 := bs.foldl (· ^^^ ·) 0

/-- `sum_add`: the sum of the bytes modulo 256. -/
def sumAdd (bs : Bytes) : UInt8 := bs.foldl (· + ·) 0

/-- Write a block into a packet buffer. -/
def storePkt (pkt : Bytes) (i : ℕ) (vs : Bytes) : Machine σ Bytes :=
  Exec.access (.store .pkt) (Buffer.store pkt i vs)

/-- Read a block from a packet buffer. -/
def loadPkt (pkt : Bytes) (i n : ℕ) : Machine σ Bytes :=
  Exec.access (.load .pkt) (Buffer.load pkt i n)

/-- Read one byte of a packet buffer. -/
def loadByte (pkt : Bytes) (i : ℕ) : Machine σ UInt8 :=
  Exec.access (.load .pkt) pkt[i]?

/-! ## Encoders -/

/-- The payload loop and the two checksums that RS485 and RF encoders write behind the header, in
this order: each checksum is computed from the buffer as it stands. -/
def storePayloadSums (pkt : Bytes) (hdlen : ℕ) (data : Bytes) : Machine σ Bytes := do
  let datalen := data.length
  let pkt ← storePkt pkt hdlen data
  let pkt ← storePkt pkt (hdlen + datalen) [sumXor (pkt.take (hdlen + datalen))]
  storePkt pkt (hdlen + datalen + 1) [sumAdd (pkt.take (hdlen + datalen + 1))]

/-- `_tta_rs485_conv_ttamsg2pkt`. -/
def ttaRs485ConvTtamsg2pkt (m : Ttamsg) (pkt : Bytes) : Machine σ (Bytes × ℕ) := do
  let pkt ← storePkt pkt 0 [stx, m.hd.devid, m.hd.subid, m.hd.cmd, m.hd.datalen]
  let pkt ← storePayloadSums pkt BackendType.rs485.headerLength m.data
  return (pkt, m.frameLength .rs485)

/-- The step of the transaction counter of a TCP context. -/
def nextTid (tid : UInt16) : UInt16 := if tid < 65535 then tid + 1 else 0

/-- `_tta_tcp_conv_ttamsg2pkt`: the counter is stepped first, and its new value is sent. -/
def ttaTcpConvTtamsg2pkt (d : TtaTcp) (m : Ttamsg) (pkt : Bytes) : Machine σ (Bytes × ℕ) := do
  let tid := nextTid d.tid
  modifyCtx fun ctx => { ctx with backend := .tcp { d with tid := tid } }
  let pkt ← storePkt pkt 0 [(tid >>> 8).toUInt8, (tid &&& 0x00ff).toUInt8, 0, 0,
    m.hd.devid, m.hd.subid, m.hd.cmd, m.hd.datalen]
  let pkt ← storePkt pkt BackendType.tcp.headerLength m.data
  return (pkt, m.frameLength .tcp)

/-- `_tta_rf_conv_ttamsg2pkt`. -/
def ttaRfConvTtamsg2pkt (d : TtaRf) (m : Ttamsg) (pkt : Bytes) : Machine σ (Bytes × ℕ) := do
  let pkt ← storePkt pkt 0 [d.id0, d.id1, d.id2, d.id3,
    m.hd.devid, m.hd.subid, m.hd.cmd, m.hd.datalen]
  let pkt ← storePayloadSums pkt BackendType.rf.headerLength m.data
  return (pkt, m.frameLength .rf)

/-- `backend->conv_ttamsg2pkt`: the filled buffer and the length of the frame. -/
def convTtamsg2pkt (m : Ttamsg) (pkt : Bytes) : Machine σ (Bytes × ℕ) := do
  match (← getCtx).backend with
  | .tcp d => ttaTcpConvTtamsg2pkt d m pkt
  | .rs485 _ => ttaRs485ConvTtamsg2pkt m pkt
  | .rf d => ttaRfConvTtamsg2pkt d m pkt

/-! ## Decoders -/

/-- The message that a copied block holds: the packed header, and behind it the payload. -/
def Ttamsg.overlay (tid : ℕ) : Bytes → Option Ttamsg
  | devid :: subid :: cmd :: datalen :: data =>
    if h : data.length = datalen.toNat then some ⟨tid, ⟨devid, subid, cmd, datalen⟩, data, h⟩
    else none
  | _ => none

/-- What the three decoders share: `datalen` is the last byte of the packet header, and the message
header with `datalen` bytes behind it are copied out of the packet. -/
def copyTtamsg (preheader tid : ℕ) (pkt : Bytes) : Machine σ Ttamsg := do
  let datalen ← loadByte pkt (preheader + 3)
  let buf ← loadPkt pkt preheader (4 + datalen.toNat)
  Exec.access (.load .pkt) (Ttamsg.overlay tid buf)

/-- `_tta_rs485_conv_pkt2ttamsg`. -/
def ttaRs485ConvPkt2ttamsg (pkt : Bytes) : Machine σ Ttamsg :=
  copyTtamsg BackendType.rs485.preheaderLength 0 pkt

/-- `_tta_tcp_conv_pkt2ttamsg`: the first two bytes are the transaction id in network order. -/
def ttaTcpConvPkt2ttamsg (pkt : Bytes) : Machine σ Ttamsg := do
  let hi ← loadByte pkt 0
  let lo ← loadByte pkt 1
  copyTtamsg BackendType.tcp.preheaderLength (hi.toNat * 256 + lo.toNat) pkt

/-- `_tta_rf_conv_pkt2ttamsg`. -/
def ttaRfConvPkt2ttamsg (pkt : Bytes) : Machine σ Ttamsg :=
  copyTtamsg BackendType.rf.preheaderLength 0 pkt

/-- `backend->conv_pkt2ttamsg`; no backend looks at the length of the packet. -/
def convPkt2ttamsg (pkt : Bytes) : Machine σ Ttamsg := do
  match (← getCtx).backend with
  | .tcp _ => ttaTcpConvPkt2ttamsg pkt
  | .rs485 _ => ttaRs485ConvPkt2ttamsg pkt
  | .rf _ => ttaRfConvPkt2ttamsg pkt

/-- `tta_conv_pkt2ttamsg`: the length goes to the backend, which does not look at it. The result is
never `NULL`, for which `none` would stand. -/
def ttaConvPkt2ttamsg (pkt : Bytes) (_pktlen : Int) : Machine σ (Option Ttamsg) := do
  return some (← convPkt2ttamsg pkt)

/-! ## Checksums of a received packet -/

/-- Do the last two bytes of a packet hold the two sums of the bytes before them? -/
def sumsMatch (p : Bytes) : Bool :=
  p[p.length - 2]? == some (sumXor (p.take (p.length - 2))) &&
    p[p.length - 1]? == some (sumAdd (p.take (p.length - 1)))

/-- The comparison of `_tta_rs485_check_integrity` and `_tta_rf_check_integrity`. With fewer than
two bytes the count-down loops of the sums would run past the packet. -/
def loadSumsMatch (pkt : Bytes) (pktlen : ℕ) : Machine σ Bool := do
  if pktlen < 2 then
    Exec.stop (.load .pkt)
  else
    let p ← loadPkt pkt 0 pktlen
    return sumsMatch p

end Libtta
