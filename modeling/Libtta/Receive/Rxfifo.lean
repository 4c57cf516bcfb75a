import Libtta.Receive.Message

/-!
# The static receive buffer as a stream

The RF backend reads a packet from the static receive buffer in the same loop as the other backends
read theirs from a stream, but each read is filled in full, with whatever the buffer holds. So what
happens depends on the 128 bytes of the buffer only (`run_receiveLoop_rf`): a packet that the header
announces beyond the limit is refused, one that is announced beyond the buffer makes the reads leave
the buffer, and any other is stored.
-/

namespace Libtta

variable {σ : Type}

/-- A packet that is moved to the static receive buffer fits it. -/
theorem eq_of_fillRxfifo {bs : Bytes} {w w' : World σ} {u : Unit}
    (h : (fillRxfifo bs).run w = .ok (u, w')) :
    ∃ v, Buffer.storeVec w.rxfifo 0 bs = some v ∧ w' = { w with rxfifo := v, rxfifoPos := 0 } := by
  obtain ⟨w₁, w₂, h₁, h⟩ := Exec.run_bind_eq_ok.mp h
  cases h₁
  obtain ⟨v, w₃, h₃, h⟩ := Exec.run_bind_eq_ok.mp h
  obtain ⟨hv, rfl⟩ := Exec.run_access_eq_ok.mp h₃
  cases h
  exact ⟨v, hv, rfl⟩

/-- What the wait for a radio packet does when the radio is idle and there are `numrx` bytes: they
are read, and behind a good CRC the packet is moved to the static receive buffer. -/
def takePacket (os : Os σ) (fd : Int) (fifo : Bytes) (numrx : UInt8) : Machine σ Bool := do
  let fifo ← cc1120FifoRead os fd fifo numrx
  let _ ← Exec.access (.load .fifo) (if numrx < 2 then none else fifo[numrx.toNat - 2]?)
  let status ← Exec.access (.load .fifo) fifo[numrx.toNat - 1]?
  if status &&& 0x80 ≠ 0 then
    let len ← Exec.access (.load .fifo) fifo[0]?
    let bs ← Exec.access (.load .fifo) (Buffer.load fifo 1 len.toNat)
    fillRxfifo bs
    return true
  else
    return false

/-- One round of the wait. -/
theorem waitRxPacket_succ (os : Os σ) (fd : Int) (deadline : Timeval) (fifo : Bytes) (fuel : ℕ) :
    waitRxPacket os fd deadline fifo (fuel + 1) = (do
      let numrx ← cc1120ReadSingle os fd Cc1120.NUM_RXBYTES
      let marcstate ← cc1120ReadSingle os fd Cc1120.MARCSTATE
      if 0 < numrx ∧ marcstate = Cc1120.idle then
        takePacket os fd fifo numrx
      else
        let now ← ask os.gettimeofday
        if deadline.past now then
          return false
        else
          let _ ← sys (os.usleep 100000)
          waitRxPacket os fd deadline fifo fuel) := rfl

/-- A read from the static receive buffer, of which `got` has been read. -/
theorem run_backendRecv_rf (os : Os σ) {n : ℕ} {got todo : Bytes} {w : World σ}
    (htype : w.ctx.type = .rf) (hfifo : got ++ todo = w.rxfifo.1)
    (hread : w.rxfifoPos = got.length) :
    (backendRecv os n).run w =
      if n ≤ todo.length then .ok (some (todo.take n), { w with rxfifoPos := got.length + n })
      else .error (.load .rxfifo) := by
  obtain ⟨d, hbe⟩ := Tta.exists_rf htype
  have hget : (get : Machine σ (World σ)).run w = .ok (w, w) := rfl
  unfold backendRecv
  rw [Exec.run_bind_of_ok (run_getCtx w), hbe]
  change ((readRf n >>= fun bs => pure (some bs) : Machine σ (Option Bytes))).run w = _
  by_cases hn : n ≤ todo.length
  · have hload : Buffer.load w.rxfifo.1 w.rxfifoPos n = some (todo.take n) := by
      rw [hread, ← hfifo, Buffer.load_of_prefix List.prefix_rfl
        (by rw [List.length_append]; omega), List.drop_left]
    have hreadRf : (readRf n).run w =
        .ok (todo.take n, { w with rxfifoPos := got.length + n }) := by
      unfold readRf
      rw [Exec.run_bind_of_ok hget, Exec.run_bind_of_ok (Exec.run_access_of_some hload), hread]
      rfl
    rw [if_pos hn, Exec.run_bind_of_ok hreadRf]
    rfl
  · have hload : Buffer.load w.rxfifo.1 w.rxfifoPos n = none := by
      refine if_neg ?_
      rw [hread, ← hfifo, List.length_append]
      omega
    have hreadRf : (readRf n).run w = .error (.load .rxfifo) := by
      unfold readRf
      rw [Exec.run_bind_of_ok hget]
      exact Exec.run_bind_of_error (Exec.run_access_of_none hload)
    rw [if_neg hn]
    exact Exec.run_bind_of_error hreadRf

/-- What one round of the loop does with the static receive buffer `s`, of which `got` has been
read. -/
theorem run_receiveStep_rf (os : Os σ) (fuel : ℕ) {s got todo : Bytes} {size : ℕ} {st : ReadState}
    {w : World σ} (h : Reading .rf s size got todo st) (hpos : 0 < st.lengthToRead)
    (hsize : BackendType.rf.maxAduLength ≤ size) (htype : w.ctx.type = .rf)
    (hfifo : s = w.rxfifo.1) (hread : w.rxfifoPos = got.length) :
    (todo.length < st.lengthToRead ∧
        (receiveStep os fuel st).run w = .error (.load .rxfifo)) ∨
      (∃ st', (receiveStep os fuel st).run w =
          .ok (.ok st', { w with rxfifoPos := got.length + st.lengthToRead }) ∧
        Reading .rf s size (got ++ todo.take st.lengthToRead) (todo.drop st.lengthToRead) st' ∧
        st.lengthToRead ≤ todo.length) ∨
      ∃ pkt, (receiveStep os fuel st).run w = .ok (.error pkt,
          { w with rxfifoPos := BackendType.rf.headerLength, errno := .EMBBADDATA }) ∧
        BackendType.rf.framing.next s = .long := by
  have hselect : (backendSelect os st.tv).run w = .ok (some (), w) := by
    obtain ⟨d, hbe⟩ := Tta.exists_rf htype
    rw [backendSelect, Exec.run_bind_of_ok (run_getCtx w), hbe]
    rfl
  have hrecv := run_backendRecv_rf os (n := st.lengthToRead) htype (h.split.trans hfifo) hread
  by_cases hle : st.lengthToRead ≤ todo.length
  swap
  · left
    rw [if_neg hle] at hrecv
    refine ⟨by omega, ?_⟩
    unfold receiveStep
    rw [Exec.run_bind_of_ok hselect]
    exact Exec.run_bind_of_error hrecv
  right
  rw [if_pos hle] at hrecv
  have hlen : (todo.take st.lengthToRead).length = st.lengthToRead := List.length_take_of_le hle
  obtain ⟨byte, bytes, htake⟩ : ∃ byte bytes, todo.take st.lengthToRead = byte :: bytes := by
    refine List.exists_cons_of_ne_nil fun hnil => ?_
    rw [hnil, List.length_nil] at hlen
    omega
  have hstep : (receiveStep os fuel st).run w =
      (receiveBytes st (todo.take st.lengthToRead)).run
        { w with rxfifoPos := got.length + st.lengthToRead } := by
    unfold receiveStep
    rw [Exec.run_bind_of_ok hselect, Exec.run_bind_of_ok hrecv, htake]
  have hreading : Reading .rf s size got
      (todo.take st.lengthToRead ++ todo.drop st.lengthToRead) st := by
    rw [List.take_append_drop]
    exact h
  rcases run_receiveBytes hreading hsize hlen.le
    { w with rxfifoPos := got.length + st.lengthToRead } htype with
    ⟨st', hrun, hnext⟩ | ⟨pkt, hrun, hlong, htodo⟩
  · exact .inl ⟨st', hstep.trans hrun, hnext, hle⟩
  · right
    have hpos' : got.length + st.lengthToRead = BackendType.rf.headerLength := by
      have hs : s.length = got.length + todo.length := by rw [← h.split, List.length_append]
      have hrest := congrArg List.length htodo
      have h128 : s.length = 128 := hfifo ▸ w.rxfifo.2
      have hhd : BackendType.rf.headerLength = 8 := rfl
      rw [List.length_drop, List.length_drop] at hrest
      omega
    rw [hpos'] at hrun hstep
    exact ⟨pkt, hstep.trans hrun, hlong⟩

/-- How the loop ends that reads from the static receive buffer. -/
inductive RfEnd (size : ℕ) (w : World σ) :
    Except Stop (Except Bytes ReadState × World σ) → Prop where
  | short : BackendType.rf.framing.next w.rxfifo.1 = .short → RfEnd size w (.error (.load .rxfifo))
  | long {pkt : Bytes} : BackendType.rf.framing.next w.rxfifo.1 = .long →
      RfEnd size w (.ok (.error pkt,
        { w with rxfifoPos := BackendType.rf.headerLength, errno := .EMBBADDATA }))
  | complete {st : ReadState} {f : Bytes} : BackendType.rf.framing.next w.rxfifo.1 = .frame f →
      f <+: st.pkt → st.pktlen = f.length → st.pkt.length = size →
      RfEnd size w (.ok (.ok st, { w with rxfifoPos := f.length }))

/-- A packet of which less is in the buffer than is announced is too short. -/
theorem Reading.next_short_of_lt {b : BackendType} {s got todo : Bytes} {size : ℕ}
    {st : ReadState} (h : Reading b s size got todo st) (hlt : todo.length < st.lengthToRead) :
    b.framing.next s = .short := by
  have hs : s.length = st.pktlen + todo.length := by
    rw [← h.split, List.length_append, h.count]
  rcases h.phase with ⟨-, -, hsum⟩ | ⟨-, -, hsum, hle⟩
  · exact Framing.next_of_length_lt_hdlen (by rw [BackendType.hdlen_framing]; omega)
  · exact Framing.next_of_length_lt_total hle (by omega)

/-- The end of the loop does not depend on how much has been read. -/
theorem RfEnd.of_pos {size k : ℕ} {w : World σ} {x : Except Stop (Except Bytes ReadState × World σ)}
    (h : RfEnd size { w with rxfifoPos := k } x) : RfEnd size w x := by
  cases h with
  | short hnext => exact .short hnext
  | long hnext => exact .long hnext
  | complete hnext hpre hcount hsize => exact .complete hnext hpre hcount hsize

/-- When nothing is left to read, the loop is done. -/
theorem Reading.rfEnd {got todo : Bytes} {size : ℕ} {st : ReadState} {w : World σ}
    (h : Reading .rf w.rxfifo.1 size got todo st) (hzero : st.lengthToRead = 0)
    (hread : w.rxfifoPos = got.length) : RfEnd size w (.ok (.ok st, w)) := by
  have hend := RfEnd.complete (w := w) (h.next_frame hzero) h.filled h.count h.size_eq
  rwa [← hread] at hend

/-- The loop reads the packet in the static receive buffer to its end. The induction is on the
rounds that are left, as for a stream. -/
theorem run_receiveLoop_rf (os : Os σ) (fuel rounds : ℕ) {got todo : Bytes} {size : ℕ}
    {st : ReadState} {w : World σ} (h : Reading .rf w.rxfifo.1 size got todo st)
    (hrounds : BackendType.rf.maxAduLength ≤ got.length + rounds)
    (hsize : BackendType.rf.maxAduLength ≤ size) (htype : w.ctx.type = .rf)
    (hread : w.rxfifoPos = got.length) :
    RfEnd size w ((receiveLoop os fuel rounds st).run w) := by
  induction rounds generalizing got todo st w with
  | zero =>
    have hadu := h.pktlen_add_le
    have hcount := h.count
    have hzero : st.lengthToRead = 0 := by omega
    rw [receiveLoop, if_pos hzero]
    exact h.rfEnd hzero hread
  | succ rounds ih =>
    by_cases hzero : st.lengthToRead = 0
    · rw [receiveLoop, if_pos hzero]
      exact h.rfEnd hzero hread
    rw [receiveLoop, if_neg hzero]
    rcases run_receiveStep_rf os fuel h (by omega) hsize htype rfl hread with
      ⟨hlt, hstep⟩ | ⟨st', hstep, hreading, hle⟩ | ⟨pkt, hstep, hlong⟩
    · rw [Exec.run_bind_of_error hstep]
      exact .short (h.next_short_of_lt hlt)
    · rw [Exec.run_bind_of_ok hstep]
      have hlen : (got ++ todo.take st.lengthToRead).length = got.length + st.lengthToRead := by
        rw [List.length_append, List.length_take_of_le hle]
      exact (ih (w := { w with rxfifoPos := got.length + st.lengthToRead }) hreading
        (by rw [hlen]; omega) htype hlen.symm).of_pos
    · rw [Exec.run_bind_of_ok hstep]
      exact .long hlong

/-- The end of the loop that reads a packet from the front of the static receive buffer. -/
theorem rfEnd_of_start (os : Os σ) (fuel : ℕ) (pkt : Bytes) (tv : Option Timeval) {w : World σ}
    (hsize : BackendType.rf.maxAduLength ≤ pkt.length) (htype : w.ctx.type = .rf)
    (hread : w.rxfifoPos = 0) :
    RfEnd pkt.length w ((receiveLoop os fuel BackendType.rf.maxAduLength
      ⟨pkt, 0, BackendType.rf.headerLength, .hd, tv⟩).run w) :=
  have hstart : Reading .rf w.rxfifo.1 pkt.length [] w.rxfifo.1
      ⟨pkt, 0, BackendType.rf.headerLength, .hd, tv⟩ :=
    ⟨rfl, List.nil_prefix, rfl, rfl, .inl ⟨rfl, BackendType.rf.framing.hdlen_pos, Nat.zero_add _⟩⟩
  run_receiveLoop_rf os fuel _ hstart (Nat.le_add_left _ _) hsize htype hread

end Libtta
