import Libtta.Model.Types

/-!
# The serial buffer on Windows

Windows has no `select` for serial ports. `win32_ser_select` reads what has arrived into a buffer,
and `win32_ser_read` takes the bytes out of it.

The state is the buffer with the bytes of the line that `ReadFile` has not delivered yet. How many
of them a call of `ReadFile` delivers is the driver's choice, with the timeouts and the number of
bytes it is asked for.
-/

namespace Libtta

/-- `PY_BUF_SIZE`. -/
def pyBufSize : ℕ := 512

/-- `struct win32_ser`. -/
structure Win32Ser where
  fd : Int
  buf : List.Vector UInt8 pyBufSize
  nBytes : ℕ
  /-- `ReadFile` is never asked for more than the buffer holds. -/
  nBytes_le : nBytes ≤ pyBufSize

/-- `win32_ser_init`, with the handle that `_tta_rs485_connect` then opens. -/
def win32SerInit (fd : Int) : Win32Ser := ⟨fd, List.Vector.replicate pyBufSize 0, 0, Nat.zero_le _⟩

/-- `COMMTIMEOUTS`, in milliseconds. -/
structure CommTimeouts where
  readInterval : ℕ
  readTotalMultiplier : ℕ
  readTotalConstant : ℕ
  writeTotalMultiplier : ℕ
  writeTotalConstant : ℕ
  deriving DecidableEq, Repr

/-- The timeouts that `win32_ser_select` sets up: at least a millisecond, and `MAXDWORD` without a
time. -/
def commTimeouts (tv : Option Timeval) : CommTimeouts :=
  let msec := match tv with
    | none => 2 ^ 32 - 1
    | some tv => max (tv.sec * 1000 + tv.usec / 1000).toUInt64.toUInt32.toNat 1
  ⟨msec, 0, msec, 0, 1000⟩

/-- The number of bytes that a call of `ReadFile` delivers, cut to what it is asked for and to what
has arrived; `none` for a call that fails. -/
abbrev ReadFile := Int → CommTimeouts → ℕ → Option ℕ

/-- The buffer, and the bytes of the line behind those that it has held. -/
structure SerialState where
  ws : Win32Ser
  line : List UInt8

/-- `ReadFile` puts bytes at the front of the buffer. -/
def Win32Ser.fill (ws : Win32Ser) (bs : List UInt8) (h : bs.length ≤ pyBufSize) : Win32Ser where
  fd := ws.fd
  buf := ⟨bs ++ ws.buf.1.drop bs.length, by
    rw [List.length_append, List.length_drop, ws.buf.2]
    omega⟩
  nBytes := bs.length
  nBytes_le := h

/-- The number of bytes that `win32_ser_select` asks `ReadFile` for. -/
def readFileLength (maxLen : Int) : ℕ :=
  if maxLen > pyBufSize ∨ maxLen < 0 then pyBufSize else maxLen.toNat

/-- It is never more than the buffer holds. -/
theorem readFileLength_le (maxLen : Int) : readFileLength maxLen ≤ pyBufSize := by
  unfold readFileLength
  split <;> omega

/-- `win32_ser_select`. -/
def win32SerSelect (readFile : ReadFile) (maxLen : Int) (tv : Option Timeval) (s : SerialState) :
    Option ℕ × SerialState :=
  if s.ws.nBytes > 0 then
    (some 1, s)
  else
    let len := readFileLength maxLen
    match readFile s.ws.fd (commTimeouts tv) len with
    | none => (none, s)
    | some k =>
      let bs := s.line.take (min k len)
      have h : bs.length ≤ pyBufSize :=
        (List.length_take_le _ _).trans ((Nat.min_le_right k len).trans (readFileLength_le maxLen))
      (some (if bs.length > 0 then 1 else 0), ⟨s.ws.fill bs h, s.line.drop bs.length⟩)

/-- `win32_ser_read`: the bytes that it copies, as many as it returns. What is left stays where it
is in the buffer, and the next call copies from the front again. -/
def win32SerRead (maxLen : ℕ) (ws : Win32Ser) : List UInt8 × Win32Ser :=
  let n := if maxLen < ws.nBytes then maxLen else ws.nBytes
  (ws.buf.1.take n,
    { ws with nBytes := ws.nBytes - n, nBytes_le := (Nat.sub_le _ _).trans ws.nBytes_le })

/-! ## Calls -/

/-- The calls on the buffer, a `select` with what `ReadFile` does in it. -/
inductive SerialCall where
  | select (readFile : ReadFile) (maxLen : Int) (tv : Option Timeval)
  | read (maxLen : ℕ)

/-- A call, with the bytes that it returns. -/
def SerialCall.step : SerialCall → SerialState → List UInt8 × SerialState
  | select readFile maxLen tv, s => ([], (win32SerSelect readFile maxLen tv s).2)
  | read maxLen, s =>
    let r := win32SerRead maxLen s.ws
    (r.1, { s with ws := r.2 })

end Libtta
