import Libtta.Receive.Message

/-!
# One end of a lossless line

`lineOs` is an operating system on which nothing goes wrong: what has been sent by the other end is
delivered in fragments that a function `cuts` chooses, every write is accepted in full, and no wait
times out. At the end of the stream a read returns nothing.
-/

namespace Libtta

/-- One end of a line. -/
structure Line where
  /-- What is still to be read. -/
  input : Bytes
  /-- What has been written. -/
  output : Bytes
  /-- The read with number `k` returns at most `cuts k + 1` bytes. -/
  cuts : ℕ → ℕ
  /-- The number of reads that have been made. -/
  reads : ℕ
  /-- The content of uninitialised memory. -/
  junk : ℕ → UInt8

/-- The operating system at one end of a line. -/
def lineOs : Os Line where
  garbage d := (d.junk, d)
  read _ n d :=
    (.ok (d.input.take (min n (d.cuts d.reads + 1))),
      { d with input := d.input.drop (min n (d.cuts d.reads + 1)), reads := d.reads + 1 })
  write _ bs d := (.ok bs.length, { d with output := d.output ++ bs })

/-- A line delivers its input, and reading leaves its output alone. -/
theorem feeds_lineOs : Feeds lineOs Line.input Line.output never where
  garbage _ := ⟨rfl, rfl⟩
  select _ _ _ := ⟨.inl rfl, rfl, rfl⟩
  read _ n d hn := ⟨rfl, .inl ⟨min n (d.cuts d.reads + 1), min_le_left _ _, fun h => by omega,
    rfl, rfl⟩⟩

end Libtta
