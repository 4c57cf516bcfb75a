import Libtta.Radio.Poll
import Libtta.Radio.Radio
import Libtta.Context.Reachable

/-!
# What earlier radio packets leave behind

The static receive buffer keeps the bytes of earlier packets behind a shorter one, and the reader
looks at it as far as the header of the packet says, not as far as the radio packet goes. So what a
call returns is independent of earlier packets exactly when the radio packet settles it by its own
bytes (`RadioRead.Settles`): the announced length lies within them, or is refused, or the first
checksum, which lies within them, does not match.
-/

namespace Libtta

variable {σ : Type}

/-- What is returned is settled by the bytes `bs` at the front of the static receive buffer: they
hold the count of the payload, and it announces more than is accepted, or a packet that ends with
`bs` or before, or a packet whose first checksum is the last byte of `bs` and does not match. -/
def Settled (bs : Bytes) : Prop :=
  ∃ d, bs[7]? = some d ∧
    (256 < BackendType.rf.frameLength d.toNat ∨ BackendType.rf.frameLength d.toNat ≤ bs.length ∨
      BackendType.rf.frameLength d.toNat = bs.length + 1 ∧
        bs[bs.length - 1]? ≠ some (sumXor (bs.take (bs.length - 1))))

end Libtta
