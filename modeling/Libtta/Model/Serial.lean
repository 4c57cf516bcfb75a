import Libtta.Library.Exec

/-!
# The settings of a serial line

An RS485 context holds the speed and the format of the characters that it is made with.
`_tta_rs485_connect` turns them into the settings of a terminal, `struct termios`. The flags and
speeds are those of Linux.
-/

namespace Libtta

/-! ## Terminals -/

/-- `struct termios`. -/
structure Termios where
  iflag : UInt32
  oflag : UInt32
  cflag : UInt32
  lflag : UInt32
  cc : List UInt8
  ispeed : UInt32
  ospeed : UInt32
  deriving DecidableEq, Repr

namespace Termios

def INPCK : UInt32 := 0x10
def IXON : UInt32 := 0x400
def IXANY : UInt32 := 0x800
def IXOFF : UInt32 := 0x1000
def OPOST : UInt32 := 0x1
def CBAUD : UInt32 := 0x100F
def CSIZE : UInt32 := 0x30
def CS5 : UInt32 := 0x0
def CS6 : UInt32 := 0x10
def CS7 : UInt32 := 0x20
def CS8 : UInt32 := 0x30
def CSTOPB : UInt32 := 0x40
def CREAD : UInt32 := 0x80
def PARENB : UInt32 := 0x100
def PARODD : UInt32 := 0x200
def CLOCAL : UInt32 := 0x800
def ISIG : UInt32 := 0x1
def ICANON : UInt32 := 0x2
def ECHO : UInt32 := 0x8
def ECHOE : UInt32 := 0x10
def VTIME : ℕ := 5
def VMIN : ℕ := 6

/-- The settings behind `memset`. -/
def zero : Termios := ⟨0, 0, 0, 0, List.replicate 32 0, 0, 0⟩

/-- The speeds that the library knows, with their codes. -/
def speeds : List (Int × UInt32) :=
  [(110, 0x3), (300, 0x7), (600, 0x8), (1200, 0x9), (2400, 0xB), (4800, 0xC), (9600, 0xD),
   (19200, 0xE), (38400, 0xF), (57600, 0x1001), (115200, 0x1002)]

/-- `B9600`. -/
def B9600 : UInt32 := 0xD

/-- Is it the code of a speed? -/
def speedValid (speed : UInt32) : Bool :=
  speed &&& ~~~CBAUD == 0 || (0x1001 ≤ speed && speed ≤ 0x100F)

/-- `cfsetispeed`, for a speed other than 0. -/
def cfsetispeed (t : Termios) (speed : UInt32) : Option Termios :=
  if speedValid speed then
    some { t with ispeed := speed, cflag := t.cflag &&& ~~~CBAUD ||| speed }
  else
    none

/-- `cfsetospeed`. -/
def cfsetospeed (t : Termios) (speed : UInt32) : Option Termios :=
  if speedValid speed then
    some { t with ospeed := speed, cflag := t.cflag &&& ~~~CBAUD ||| speed }
  else
    none

end Termios

/-! ## Contexts -/

/-- The parity bit of a character: `'N'`, `'E'` or `'O'`. -/
inductive Parity where
  | none
  | even
  | odd
  deriving DecidableEq, Repr

/-- The parity that a letter stands for; `tta_new_rs485` refuses all other letters. -/
def Parity.ofLetter (letter : Char) : Option Parity :=
  if letter = 'N' then some .none
  else if letter = 'E' then some .even
  else if letter = 'O' then some .odd
  else Option.none

/-- The part of `tta_rs485_t` that says how the line is to be set up. -/
structure SerialSettings where
  baud : Int
  dataBit : UInt8
  stopBit : UInt8
  parity : Parity
  deriving DecidableEq, Repr

open Termios in
/-- The settings that `_tta_rs485_connect` makes from those of the context; there are none if the
speed is refused. -/
def rs485Tios (c : SerialSettings) : Option Termios := do
  let speed := (speeds.lookup c.baud).getD B9600
  let tios ← cfsetispeed zero speed
  let tios ← cfsetospeed tios speed
  let tios := { tios with cflag := tios.cflag ||| (CREAD ||| CLOCAL) }
  let tios := { tios with cflag := tios.cflag &&& ~~~CSIZE }
  let size :=
    if c.dataBit = 5 then CS5
    else if c.dataBit = 6 then CS6
    else if c.dataBit = 7 then CS7
    else CS8
  let tios := { tios with cflag := tios.cflag ||| size }
  let tios :=
    if c.stopBit = 1 then { tios with cflag := tios.cflag &&& ~~~CSTOPB }
    else { tios with cflag := tios.cflag ||| CSTOPB }
  let tios :=
    if c.parity = .none then { tios with cflag := tios.cflag &&& ~~~PARENB }
    else if c.parity = .even then { tios with cflag := (tios.cflag ||| PARENB) &&& ~~~PARODD }
    else { tios with cflag := tios.cflag ||| PARENB ||| PARODD }
  let tios := { tios with lflag := tios.lflag &&& ~~~(ICANON ||| ECHO ||| ECHOE ||| ISIG) }
  let tios :=
    if c.parity = .none then { tios with iflag := tios.iflag &&& ~~~INPCK }
    else { tios with iflag := tios.iflag ||| INPCK }
  let tios := { tios with iflag := tios.iflag &&& ~~~(IXON ||| IXOFF ||| IXANY) }
  let tios := { tios with oflag := tios.oflag &&& ~~~OPOST }
  return { tios with cc := (tios.cc.set VMIN 0).set VTIME 0 }

end Libtta
