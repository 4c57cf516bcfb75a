import Libtta.Model.Os

/-!
# A serial line

An operating system with a serial line that keeps its settings. Whether `tcgetattr` and `tcsetattr`
succeed on an open descriptor is up to the operating system below; on any other descriptor they
fail.
-/

namespace Libtta

variable {σ : Type}

/-- A serial line. -/
structure Tty where
  settings : Termios
  /-- The descriptors that are open on the line. -/
  fds : List Int

namespace Tty

/-- `open`. -/
def openDevice (os : Os σ) (device : String) (d : Tty × σ) : Except Errno Int × Tty × σ :=
  let r := os.openDevice device d.2
  (r.1, { d.1 with fds := r.1.toOption.toList ++ d.1.fds }, r.2)

/-- `close`: the descriptor is gone also when it fails. -/
def close (os : Os σ) (fd : Int) (d : Tty × σ) : Except Errno Unit × Tty × σ :=
  let r := os.close fd d.2
  (r.1, { d.1 with fds := d.1.fds.filter (· ≠ fd) }, r.2)

/-- `tcgetattr`: if it succeeds, with the settings of the line. -/
def tcgetattr (os : Os σ) (fd : Int) (d : Tty × σ) : Except Errno Termios × Tty × σ :=
  if fd ∈ d.1.fds then
    let r := os.tcgetattr fd d.2
    (r.1.map fun _ => d.1.settings, d.1, r.2)
  else
    (.error .EBADF, d)

/-- `tcsetattr`: if it succeeds, the line has these settings, and otherwise those it had. -/
def tcsetattr (os : Os σ) (fd : Int) (tios : Termios) (d : Tty × σ) :
    Except Errno Unit × Tty × σ :=
  if fd ∈ d.1.fds then
    let r := os.tcsetattr fd tios d.2
    (r.1, { d.1 with settings := if r.1.isOk then tios else d.1.settings }, r.2)
  else
    (.error .EBADF, d)

end Tty

/-- The operating system with the line: whatever `os` does, the line keeps its settings. -/
def ttyOs (os : Os σ) : Os (Tty × σ) :=
  { os.beside Tty with
    openDevice := Tty.openDevice os
    close := Tty.close os
    tcgetattr := Tty.tcgetattr os
    tcsetattr := Tty.tcsetattr os }

end Libtta
