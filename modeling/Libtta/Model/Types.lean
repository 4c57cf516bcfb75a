import Libtta.Library.Exec
import Libtta.Library.Buffer
import Libtta.Model.Serial

/-!
# Messages, backends and contexts

The data types of the library: error codes, time values, the three backends with their constants,
the messages an application sends and receives, and the context `Tta` an application holds.

A `Ttamsg` carries the proof that its `datalen` field counts its payload, as `ttamsg_make` and the
decoders establish it. The backend of a context comes together with the backend's own data, so a
context never holds the data of another backend.
-/

namespace Libtta

/-- A sequence of bytes. -/
abbrev Bytes := List UInt8

/-- The values of `errno` that the library sets or tests; `other` stands for any further code a
system call may report. -/
inductive Errno where
  | EBADF
  | ECONNRESET
  | ECONNREFUSED
  | EPIPE
  | EINTR
  | EAGAIN
  | EINPROGRESS
  | EINVAL
  | ETIMEDOUT
  | EMBBADCRC
  | EMBBADDATA
  | EMBBADSLAVE
  | EMBBADRFID
  | other (code : ℕ)
  deriving DecidableEq, Repr

/-- The sum of two values of type `int`: `none` when it is out of range, where the C program has no
defined behaviour. -/
def addInt (a b : Int) : Option Int :=
  if -2 ^ 31 ≤ a + b ∧ a + b < 2 ^ 31 then some (a + b) else none

/-- `struct timeval`, with fields of 64 bits. Sums of them are those of the machine, modulo
`2 ^ 64`; C leaves a sum that is out of range undefined. -/
structure Timeval where
  sec : Int64
  usec : Int64
  deriving DecidableEq, Repr

/-! ## Backends -/

/-- The backend types. -/
inductive BackendType where
  | tcp
  | rs485
  | rf
  deriving DecidableEq, Repr

namespace BackendType

/-- The length of the header of a packet. -/
def headerLength : BackendType → ℕ
  | tcp => 8
  | rs485 => 5
  | rf => 8

/-- The length of what stands before the message header in a packet. -/
def preheaderLength : BackendType → ℕ
  | tcp => 4
  | rs485 => 1
  | rf => 4

/-- The length of the checksums behind the payload. -/
def checksumLength : BackendType → ℕ
  | tcp => 0
  | rs485 => 2
  | rf => 2

/-- The longest packet the backend receives. -/
def maxAduLength : BackendType → ℕ
  | tcp => 260
  | rs485 => 256
  | rf => 256

/-- The length of the whole frame that carries a payload of `datalen` bytes. -/
def frameLength (b : BackendType) (datalen : ℕ) : ℕ :=
  b.headerLength + datalen + b.checksumLength

/-- The message header is the last part of the packet header. -/
theorem preheaderLength_add (b : BackendType) : b.preheaderLength + 4 = b.headerLength := by
  cases b <;> rfl

end BackendType

/-- `MAX_MESSAGE_LENGTH`: the size of the packet buffers of `tta_send`, `tta_receive` and
`tta_request`. -/
def maxMessageLength : ℕ := 260

/-- No packet that a backend receives is longer than the packet buffers. -/
theorem BackendType.maxAduLength_le (b : BackendType) : b.maxAduLength ≤ maxMessageLength := by
  cases b <;> decide

/-- The backend data of a TCP context. -/
structure TtaTcp where
  /-- The transaction id of the last packet that was built. -/
  tid : UInt16
  port : Int
  ip : String
  deriving DecidableEq, Repr

/-- How an RS485 context drives the RTS line while it transmits. -/
inductive Rts where
  | none
  | up
  | down
  deriving DecidableEq, Repr

/-- The backend data of an RS485 context. -/
structure TtaRs485 where
  device : String
  serial : SerialSettings
  rts : Rts
  confirmationToIgnore : Bool
  deriving DecidableEq, Repr

/-- The backend data of an RF context. -/
structure TtaRf where
  device : String
  id0 : UInt8
  id1 : UInt8
  id2 : UInt8
  id3 : UInt8
  confirmationToIgnore : Bool
  deriving DecidableEq, Repr

/-- The RF id, as the four bytes it is compared and sent as. -/
def TtaRf.id (d : TtaRf) : Bytes := [d.id0, d.id1, d.id2, d.id3]

/-- A backend with its data. -/
inductive Backend where
  | tcp (data : TtaTcp)
  | rs485 (data : TtaRs485)
  | rf (data : TtaRf)
  deriving DecidableEq, Repr

/-- The type of a backend. -/
def Backend.type : Backend → BackendType
  | tcp _ => .tcp
  | rs485 _ => .rs485
  | rf _ => .rf

/-- The flag that makes a backend drop the next packet; TCP has none. -/
def Backend.confirmationToIgnore : Backend → Bool
  | tcp _ => false
  | rs485 d => d.confirmationToIgnore
  | rf d => d.confirmationToIgnore

/-! ## Contexts -/

/-- `TTA_ERROR_RECOVERY_LINK`. -/
def errorRecoveryLink : UInt32 := 2

/-- `TTA_ERROR_RECOVERY_PROTOCOL`. -/
def errorRecoveryProtocol : UInt32 := 4

/-- `tta_t`: a context. -/
structure Tta where
  /-- The socket or file descriptor, `-1` before a connection is made. -/
  s : Int
  errorRecovery : UInt32
  responseTimeout : Timeval
  byteTimeout : Timeval
  backend : Backend
  /-- `old_tios` of the backend data of an RS485 context: the settings that the line had before it
  was connected. -/
  oldTios : Termios
  deriving DecidableEq, Repr

namespace Tta

/-- Is the link recovery mode on? -/
def recoversLink (ctx : Tta) : Bool := ctx.errorRecovery &&& errorRecoveryLink != 0

/-- Is the protocol recovery mode on? -/
def recoversProtocol (ctx : Tta) : Bool := ctx.errorRecovery &&& errorRecoveryProtocol != 0

/-- The type of the context's backend. -/
def type (ctx : Tta) : BackendType := ctx.backend.type

/-- A TCP context has the data of a TCP backend. -/
theorem exists_tcp {ctx : Tta} (h : ctx.type = .tcp) : ∃ d, ctx.backend = .tcp d := by
  rw [type] at h
  cases hbe : ctx.backend with
  | tcp d => exact ⟨d, rfl⟩
  | rs485 d => simp [hbe, Backend.type] at h
  | rf d => simp [hbe, Backend.type] at h

/-- An RS485 context has the data of an RS485 backend. -/
theorem exists_rs485 {ctx : Tta} (h : ctx.type = .rs485) : ∃ d, ctx.backend = .rs485 d := by
  rw [type] at h
  cases hbe : ctx.backend with
  | tcp d => simp [hbe, Backend.type] at h
  | rs485 d => exact ⟨d, rfl⟩
  | rf d => simp [hbe, Backend.type] at h

/-- An RF context has the data of an RF backend. -/
theorem exists_rf {ctx : Tta} (h : ctx.type = .rf) : ∃ d, ctx.backend = .rf d := by
  rw [type] at h
  cases hbe : ctx.backend with
  | tcp d => simp [hbe, Backend.type] at h
  | rs485 d => simp [hbe, Backend.type] at h
  | rf d => exact ⟨d, rfl⟩

/-- Without error recovery the link is not recovered. -/
theorem recoversLink_of_none {ctx : Tta} (h : ctx.errorRecovery = 0) :
    ctx.recoversLink = false := by
  rw [recoversLink, h]
  decide

/-- Without error recovery the protocol is not recovered. -/
theorem recoversProtocol_of_none {ctx : Tta} (h : ctx.errorRecovery = 0) :
    ctx.recoversProtocol = false := by
  rw [recoversProtocol, h]
  decide

end Tta

/-- `_tta_init_common`: the part of a context that all backends share. -/
def ttaInitCommon (backend : Backend) : Tta where
  s := -1
  errorRecovery := 0
  responseTimeout := ⟨0, 500000⟩
  byteTimeout := ⟨0, 50000⟩
  backend := backend
  oldTios := .zero

/-- `tta_new_tcp`, for an address string of 1 to 15 characters. -/
def ttaNewTcp (ip : String) (port : Int) : Tta := ttaInitCommon (.tcp ⟨0, port, ip⟩)

/-- `tta_new_rs485`, for a device name of 1 to 15 characters; `oldTios` is whatever the allocated
memory holds until the context is connected. -/
def ttaNewRs485 (device : String) (serial : SerialSettings := ⟨115200, 8, 1, .none⟩)
    (oldTios : Termios := .zero) : Tta :=
  { ttaInitCommon (.rs485 ⟨device, serial, .none, false⟩) with oldTios := oldTios }

/-- `tta_new_rf`, for a device name of 1 to 15 characters; the RF id is whatever the allocated
memory holds until `tta_rf_set_id` is called. -/
def ttaNewRf (device : String) (id0 id1 id2 id3 : UInt8) : Tta :=
  ttaInitCommon (.rf ⟨device, id0, id1, id2, id3, false⟩)

/-! ## Messages -/

/-- `ttamsg_hd_t`: the header of a message. -/
structure TtamsgHd where
  devid : UInt8
  subid : UInt8
  cmd : UInt8
  datalen : UInt8
  deriving DecidableEq, Repr

/-- `ttamsg_t`: a message, whose header counts its payload. -/
structure Ttamsg where
  tid : ℕ
  hd : TtamsgHd
  data : Bytes
  length_data : data.length = hd.datalen.toNat
  deriving DecidableEq

/-- `ttamsg_make`: the first `datalen` bytes behind `data` become the payload. -/
def ttamsgMake (devid subid cmd : UInt8) (data : Bytes) (datalen : UInt8)
    (h : datalen.toNat ≤ data.length) : Ttamsg where
  tid := 0
  hd := ⟨devid, subid, cmd, datalen⟩
  data := data.take datalen.toNat
  length_data := by rw [List.length_take, Nat.min_eq_left h]

/-- The frame that carries the message with the given backend. -/
def Ttamsg.frameLength (m : Ttamsg) (b : BackendType) : ℕ := b.frameLength m.hd.datalen.toNat

end Libtta
