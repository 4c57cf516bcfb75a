import Libtta.Library.Heap
import Libtta.Model.Api

/-!
# Messages and contexts in memory

The functions that allocate, read and free messages and contexts, on a heap. A message is a
structure with a buffer of its own, which holds the header and the payload; a context is a structure
with the data of its backend. The encoders free the message they have encoded, so `tta_send` and
`tta_request` take their message away from the caller, whatever they return, and the decoders
allocate the message they find.

What happens beside the heap is what the functions of the same names do in `Libtta`. The library
does not look at what `malloc` returns: when there is no memory left, it has no defined behaviour.
-/

namespace Libtta.Memory

/-- An address. -/
abbrev Addr := ℕ

/-- `NULL`. -/
def null : Addr := 0

/-- The blocks that the library allocates. -/
inductive Block where
  /-- A `ttamsg_t`: `hd` points to the front of `buf`, and `data` behind the header there. -/
  | ttamsg (tid : ℕ) (len : ℕ) (buf : Addr)
  /-- The buffer of a message. -/
  | bytes (bs : Bytes)
  /-- A `tta_t`, with its `backend_data`. -/
  | tta (backendData : Addr)
  /-- The data of a backend. -/
  | backendData
  deriving DecidableEq, Repr

/-- `malloc`, which never gives out the address of another block, nor `NULL`; a new block has
whatever content is there. -/
structure Malloc extends Heap.Allocator Addr Block where
  ne_null : ∀ h, pick h ≠ some null
  content : Heap Addr Block → ℕ → UInt8

/-- Programs that use the library, with the heap. -/
abbrev Program (σ : Type) := Heap.Program (World σ) Addr Block Stop

variable {σ : Type}

/-! ## Accesses -/

/-- Read the structure of a message: `tid`, `len` and `buf`. -/
def loadTtamsg (p : Addr) : Program σ (ℕ × ℕ × Addr) := do
  match ← Heap.load p with
  | .ttamsg tid len buf => return (tid, len, buf)
  | _ => Exec.stop (.access p)

/-- Read a buffer. -/
def loadBytes (p : Addr) : Program σ Bytes := do
  match ← Heap.load p with
  | .bytes bs => return bs
  | _ => Exec.stop (.access p)

/-- Write a block into a buffer. -/
def storeBytes (p : Addr) (i : ℕ) (vs : Bytes) : Program σ Unit := do
  let bs ← loadBytes p
  let bs ← Exec.access (.access p) (Buffer.store bs i vs)
  Heap.store p (.bytes bs)

/-- Read what a message says: its header, and as many bytes behind it as the header announces. -/
def loadMessage (p : Addr) : Program σ Ttamsg := do
  let (tid, _, buf) ← loadTtamsg p
  let bs ← loadBytes buf
  let datalen ← Exec.access (.access buf) bs[3]?
  let block ← Exec.access (.access buf) (Buffer.load bs 0 (4 + datalen.toNat))
  Exec.access (.access buf) (Ttamsg.overlay tid block)

/-! ## Messages -/

/-- `ttamsg_new`: the buffer is not initialised. -/
def ttamsgNew (a : Malloc) (len : ℕ) : Program σ Addr := do
  let ttamsg ← Heap.malloc a.toAllocator (.ttamsg 0 len null)
  let content ← Heap.inspect a.content
  let buf ← Heap.malloc a.toAllocator (.bytes ((List.range len).map content))
  Heap.store ttamsg (.ttamsg 0 len buf)
  return ttamsg

/-- `ttamsg_free`. -/
def ttamsgFree (ttamsg : Addr) : Program σ Unit := do
  let (_, _, buf) ← loadTtamsg ttamsg
  if buf ≠ null then
    Heap.free buf
  Heap.free ttamsg

/-- `ttamsg_make`. -/
def ttamsgMake (a : Malloc) (devid subid cmd : UInt8) (data : Bytes) (datalen : UInt8) :
    Program σ Addr := do
  let ttamsg ← ttamsgNew a (4 + datalen.toNat)
  let (_, _, buf) ← loadTtamsg ttamsg
  storeBytes buf 0 [devid, subid, cmd, datalen]
  if datalen ≠ 0 then
    storeBytes buf 4 (data.take datalen.toNat)
  return ttamsg

/-- `ttamsg_duplicate`: `tid` is not copied. -/
def ttamsgDuplicate (a : Malloc) (org : Addr) : Program σ Addr := do
  let (_, len, orgBuf) ← loadTtamsg org
  let ttamsg ← ttamsgNew a len
  let (_, _, buf) ← loadTtamsg ttamsg
  let bs ← loadBytes orgBuf
  let block ← Exec.access (.access orgBuf) (Buffer.load bs 0 len)
  storeBytes buf 0 block
  return ttamsg

/-- `tta_conv_ttamsg2pkt`: the message is freed. -/
def convTtamsg2pkt (ttamsg : Addr) (pkt : Bytes) : Program σ (Bytes × ℕ) := do
  let m ← loadMessage ttamsg
  let r ← Heap.lift (Libtta.convTtamsg2pkt m pkt)
  ttamsgFree ttamsg
  return r

/-- `tta_conv_pkt2ttamsg`: the message that is found is a new one. -/
def convPkt2ttamsg (a : Malloc) (pkt : Bytes) : Program σ Addr := do
  let m ← Heap.lift (Libtta.convPkt2ttamsg pkt)
  let len := 4 + m.hd.datalen.toNat
  let ttamsg ← Heap.malloc a.toAllocator (.ttamsg m.tid len null)
  let buf ← Heap.malloc a.toAllocator
    (.bytes ([m.hd.devid, m.hd.subid, m.hd.cmd, m.hd.datalen] ++ m.data))
  Heap.store ttamsg (.ttamsg m.tid len buf)
  return ttamsg

/-! ## Sending and receiving -/

/-- `tta_send`. -/
def ttaSend (os : Os σ) (fuel : ℕ) (ttamsg : Addr) : Program σ (Option ℕ) := do
  let buf ← Heap.lift (uninit os maxMessageLength)
  let (buf, buflen) ← convTtamsg2pkt ttamsg buf
  Heap.lift (sendPkt os fuel (buf.take buflen))

/-- `tta_receive`: the number of bytes, and what it leaves in `*ttamsg`. -/
def ttaReceive (a : Malloc) (os : Os σ) (fuel : ℕ) (fgtm : Bool) :
    Program σ (Option (ℕ × Addr)) := do
  let buf ← Heap.lift (uninit os maxMessageLength)
  match ← Heap.lift (backendReceive os fuel buf fgtm) with
  | (none, _) => return none
  | (some rc, buf) => return some (rc, ← convPkt2ttamsg a buf)

/-- `tta_reply`: the request stays with the caller. -/
def ttaReply (a : Malloc) (os : Os σ) (fuel : ℕ) (ttareq : Addr) (data : Bytes) :
    Program σ (Option ℕ) := do
  let req ← loadMessage ttareq
  let ttarsp ← ttamsgMake a req.hd.devid req.hd.subid (req.hd.cmd ||| 0x80) data
    (UInt8.ofNat data.length)
  ttaSend os fuel ttarsp

/-- The first half of `tta_request`. -/
def ttaRequestSend (os : Os σ) (fuel : ℕ) (ttareq : Addr) : Program σ (Bytes × Option ℕ) := do
  let reqbuf ← Heap.lift (uninit os maxMessageLength)
  let (reqbuf, reqlen) ← convTtamsg2pkt ttareq reqbuf
  let rc ← Heap.lift (sendPkt os fuel (reqbuf.take reqlen))
  return (reqbuf, rc)

/-- The second half of `tta_request`. -/
def ttaRequestReceive (a : Malloc) (os : Os σ) (fuel : ℕ) (reqbuf : Bytes) :
    Program σ (Option Addr) := do
  let rspbuf ← Heap.lift (uninit os maxMessageLength)
  match ← Heap.lift (backendReceive os fuel rspbuf true) with
  | (none, _) => return none
  | (some _, rspbuf) =>
    if ← Heap.lift (checkConfirmation os fuel reqbuf rspbuf) then
      return some (← convPkt2ttamsg a rspbuf)
    else
      return none

/-- `tta_request`: what it leaves in `*ttarsp`. -/
def ttaRequest (a : Malloc) (os : Os σ) (fuel : ℕ) (ttareq : Addr) :
    Program σ (Option Addr) := do
  match ← ttaRequestSend os fuel ttareq with
  | (_, none) => return none
  | (reqbuf, some _) => ttaRequestReceive a os fuel reqbuf

/-! ## Contexts -/

/-- `tta_free`. -/
def ttaFree (ctx : Addr) : Program σ Unit := do
  match ← Heap.load ctx with
  | .tta backendData => do
    Heap.free backendData
    Heap.free ctx
  | _ => Exec.stop (.access ctx)

/-- What the `tta_new` functions do when they refuse their arguments. -/
def refuse (ctx : Addr) : Program σ (Option Addr) := do
  ttaFree ctx
  Heap.lift (setErrno .EINVAL)
  return none

/-- What the `tta_new` functions share: a context with its backend data, both without content. -/
def ttaNew (a : Malloc) : Program σ Addr := do
  let ctx ← Heap.malloc a.toAllocator (.tta null)
  let backendData ← Heap.malloc a.toAllocator .backendData
  Heap.store ctx (.tta backendData)
  return ctx

/-- Put the content of a new context in place. -/
def setCtx (ctx : Tta) : Machine σ Unit := modifyCtx fun _ => ctx

/-- How the `tta_new` functions copy a name into a field of 16 characters: a name that is empty or
does not fit is refused. -/
def checkName (ctx : Addr) (name : CString) (x : String → Program σ (Option Addr)) :
    Program σ (Option Addr) :=
  let copied := strlcpy name 16
  if copied.2 = 0 then
    refuse ctx
  else if copied.2 ≥ 16 then
    refuse ctx
  else
    x (stringOf copied.1)

/-- `tta_new_tcp`: without an address, the address and the port are whatever the allocated memory
holds. -/
def ttaNewTcp (a : Malloc) (memory : TtaTcp) (ip : Option CString) (port : Int) :
    Program σ (Option Addr) := do
  let ctx ← ttaNew a
  match ip with
  | none =>
    Heap.lift (setCtx (ttaInitCommon (.tcp { memory with tid := 0 })))
    return some ctx
  | some ip => checkName ctx ip fun ip => do
    Heap.lift (setCtx (Libtta.ttaNewTcp ip port))
    return some ctx

/-- `tta_new_rs485`: the numbers of bits are cut to eight bits; the settings that the line had
before are whatever the allocated memory holds. -/
def ttaNewRs485 (a : Malloc) (memory : Termios) (device : CString) (baud : Int) (parity : Char)
    (dataBit stopBit : Int) : Program σ (Option Addr) := do
  let ctx ← ttaNew a
  checkName ctx device fun device =>
    match Parity.ofLetter parity with
    | some parity => do
      let serial : SerialSettings := ⟨baud, .ofInt dataBit, .ofInt stopBit, parity⟩
      Heap.lift (setCtx (Libtta.ttaNewRs485 device serial memory))
      return some ctx
    | none => refuse ctx

/-- `tta_new_rf`; the RF id is whatever the allocated memory holds. -/
def ttaNewRf (a : Malloc) (device : CString) (id0 id1 id2 id3 : UInt8) :
    Program σ (Option Addr) := do
  let ctx ← ttaNew a
  checkName ctx device fun device => do
    Heap.lift (setCtx (Libtta.ttaNewRf device id0 id1 id2 id3))
    return some ctx

/-! ## Uses -/

/-- Write a header and a payload into the buffer of a message, as an application does with a message
from `ttamsg_new`. -/
def fill (ttamsg : Addr) (hd : TtamsgHd) (data : Bytes) : Program σ Unit := do
  let (_, _, buf) ← loadTtamsg ttamsg
  storeBytes buf 0 ([hd.devid, hd.subid, hd.cmd, hd.datalen] ++ data)

/-- What an application does that holds messages. -/
inductive Use (σ : Type) where
  | new (len : ℕ)
  | fill (ttamsg : Addr) (hd : TtamsgHd) (data : Bytes) (h : data.length = hd.datalen.toNat)
  | make (devid subid cmd : UInt8) (data : Bytes) (datalen : UInt8)
    (h : datalen.toNat ≤ data.length)
  | duplicate (org : Addr)
  | free (ttamsg : Addr)
  /-- `ttamsg_print`, or any other look at a message. -/
  | print (ttamsg : Addr)
  | send (ttamsg : Addr)
  | receive (fgtm : Bool)
  | reply (ttareq : Addr) (data : Bytes)
  | request (ttareq : Addr)
  | convTtamsg2pkt (ttamsg : Addr) (pkt : Bytes)
  | convPkt2ttamsg (pkt : Bytes)
  /-- Anything that does not look at the heap, such as the other functions of the library. -/
  | other (x : Machine σ Unit)

/-- What an application holds. -/
inductive Holding where
  /-- A message with its header and its payload. -/
  | message (p : Addr)
  /-- A message from `ttamsg_new` whose buffer of `len` bytes has not been filled yet. -/
  | blank (p : Addr) (len : ℕ)
  deriving DecidableEq, Repr

/-- Where it is. -/
def Holding.addr : Holding → Addr
  | message p | blank p _ => p

/-- What an application owes: it uses the messages that it holds and no others; and with a message
from `ttamsg_new` it does nothing but to free it before it has filled it, with no more than the
buffer has room for. -/
def Use.Allowed (held : List Holding) : Use σ → Prop
  | fill p _ data _ => ∃ len, .blank p len ∈ held ∧ 4 + data.length ≤ len
  | free p => p ∈ held.map Holding.addr
  | duplicate p | print p | send p | reply p _ | request p | convTtamsg2pkt p _ =>
    .message p ∈ held
  | _ => True

/-- The message that is not what it was any more: it belongs to somebody else, or it has been
filled. -/
def Use.consumed : Use σ → Option Addr
  | fill p _ _ _ | free p | send p | request p | convTtamsg2pkt p _ => some p
  | _ => none

/-- Do it: what the application holds from then on besides. -/
def Use.run (a : Malloc) (os : Os σ) (fuel : ℕ) : Use σ → Program σ (List Holding)
  | new len => return [.blank (← ttamsgNew a len) len]
  | fill ttamsg hd data _ => do
    Memory.fill ttamsg hd data
    return [.message ttamsg]
  | make devid subid cmd data datalen _ =>
    return [.message (← ttamsgMake a devid subid cmd data datalen)]
  | duplicate org => return [.message (← ttamsgDuplicate a org)]
  | free ttamsg => do
    ttamsgFree ttamsg
    return []
  | print ttamsg => do
    let _ ← loadMessage ttamsg
    return []
  | send ttamsg => do
    let _ ← ttaSend os fuel ttamsg
    return []
  | receive fgtm => return ((← ttaReceive a os fuel fgtm).map fun r => .message r.2).toList
  | reply ttareq data => do
    let _ ← ttaReply a os fuel ttareq data
    return []
  | request ttareq => return ((← ttaRequest a os fuel ttareq).map .message).toList
  | convTtamsg2pkt ttamsg pkt => do
    let _ ← Memory.convTtamsg2pkt ttamsg pkt
    return []
  | convPkt2ttamsg pkt => return [.message (← Memory.convPkt2ttamsg a pkt)]
  | other x => do
    Heap.lift x
    return []

/-- The states that an application which does what it owes may reach, with what it holds there. -/
inductive Reaches (a : Malloc) (os : Os σ) (fuel : ℕ) (s : World σ × Heap Addr Block) :
    World σ × Heap Addr Block → List Holding → Prop where
  | start : Reaches a os fuel s s []
  | use {s' s'' : World σ × Heap Addr Block} {held new : List Holding} (u : Use σ) :
      Reaches a os fuel s s' held → u.Allowed held → (u.run a os fuel).run s' = .ok (new, s'') →
      Reaches a os fuel s s'' (new ++ held.filter fun x => u.consumed ≠ some x.addr)

end Libtta.Memory
