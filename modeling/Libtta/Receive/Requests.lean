import Libtta.Context.Bounds
import Libtta.Receive.Line
import Libtta.Receive.Traced
import Libtta.Receive.Checksum

/-!
# What the reader asks for

`_tta_receive_pkt` has `recv` write behind the bytes that it has received, as many as it still waits
for. `Visits` tells the states in which it does so, for an arbitrary operating system, `LoopEnds`
how its loop ends behind them, and `ReaderEnds` how the reader returns. From the invariant of the
loop it follows that the reader never asks for bytes outside the packet buffer, that it asks a
bounded number of times, and that the checksums and the decoder look at the bytes it has received.
-/

namespace Libtta

variable {σ : Type}

/-! ## The states of the loop -/

/-- The loop of `_tta_receive_pkt` that begins with `st₀` and `w₀` has asked `recv` a number of
times, has received bytes every time, and goes on in the state `st`. -/
inductive Visits (os : Os σ) (st₀ : ReadState) (w₀ : World σ) :
    ℕ → Bytes → ReadState → World σ → Prop
  | start : Visits os st₀ w₀ 0 [] st₀ w₀
  | round {n : ℕ} {got bs : Bytes} {st st' : ReadState} {w w₁ w₂ w' : World σ} :
      Visits os st₀ w₀ n got st w → st.lengthToRead ≠ 0 →
      (backendSelect os st.tv).run w = .ok (some (), w₁) →
      (backendRecv os st.lengthToRead).run w₁ = .ok (some bs, w₂) → bs ≠ [] →
      (receiveBytes st bs).run w₂ = .ok (.ok st', w') →
      Visits os st₀ w₀ (n + 1) (got ++ bs) st' w'

variable {os : Os σ} {fuel : ℕ}

/-- A round behind which the loop goes on has waited for bytes, received some and stored them. -/
theorem exists_of_receiveStep {st st' : ReadState} {w w' : World σ}
    (h : (receiveStep os fuel st).run w = .ok (.ok st', w')) :
    ∃ (bs : Bytes) (w₁ w₂ : World σ), (backendSelect os st.tv).run w = .ok (some (), w₁) ∧
      (backendRecv os st.lengthToRead).run w₁ = .ok (some bs, w₂) ∧ bs ≠ [] ∧
      (receiveBytes st bs).run w₂ = .ok (.ok st', w') := by
  obtain ⟨r₁, w₁, h₁, h⟩ := Exec.run_bind_eq_ok.mp h
  rcases r₁ with _ | ⟨⟨⟩⟩
  · obtain ⟨-, v, -, h⟩ := Exec.run_bind_eq_ok.mp h
    cases h
  · obtain ⟨r₂, w₂, h₂, h⟩ := Exec.run_bind_eq_ok.mp h
    rcases r₂ with _ | ⟨_ | ⟨b, bs⟩⟩
    · obtain ⟨-, v, -, h⟩ := Exec.run_bind_eq_ok.mp h
      cases h
    · obtain ⟨-, v, -, h⟩ := Exec.run_bind_eq_ok.mp h
      obtain ⟨-, v', -, h⟩ := Exec.run_bind_eq_ok.mp h
      cases h
    · exact ⟨b :: bs, w₁, w₂, h₁, h₂, List.cons_ne_nil b bs, h⟩

/-- The reader waits for the header of a packet. -/
def ReadState.start (b : BackendType) (pkt : Bytes) (tv : Option Timeval) : ReadState :=
  ⟨pkt, 0, b.headerLength, .hd, tv⟩

/-- In every state the invariant of the loop holds for the bytes received, the backend is the same,
and there are at least as many bytes as there were requests. -/
theorem Visits.reading {pkt got : Bytes} {tv : Option Timeval} {n : ℕ} {st : ReadState}
    {w₀ w : World σ} (h : Visits os (.start w₀.ctx.type pkt tv) w₀ n got st w)
    (hsize : w₀.ctx.type.maxAduLength ≤ pkt.length) :
    Reading w₀.ctx.type got pkt.length got [] st ∧ w.ctx.type = w₀.ctx.type ∧ n ≤ got.length := by
  induction h with
  | start =>
    refine ⟨⟨rfl, List.nil_prefix, rfl, rfl, .inl ⟨rfl, ?_, Nat.zero_add _⟩⟩, rfl, le_refl 0⟩
    exact w₀.ctx.type.framing.hdlen_pos
  | @round n got bs st st' w w₁ w₂ w' _ hpos hselect hrecv hne hstore ih =>
    obtain ⟨hread, htype, hcount⟩ := ih
    set P : Backend → Prop := fun be => be.type = w₀.ctx.type
    have htype₁ : P w₁.ctx.backend := (keeps_backendSelect os st.tv).of_ok htype hselect
    obtain ⟨htype₂, hle⟩ := (yields_backendRecv os st.lengthToRead).of_ok htype₁ hrecv
    rcases run_receiveBytes (hread.extend bs) hsize (hle bs rfl) w₂ htype₂ with
      ⟨st₁, hrun, hread₁⟩ | ⟨pkt', hrun, -⟩
    · obtain ⟨hst, hw⟩ := Prod.mk.inj (Except.ok.inj (hrun.symm.trans hstore))
      obtain rfl := Except.ok.inj hst
      refine ⟨hread₁, hw ▸ htype₂, ?_⟩
      rw [List.length_append]
      exact Nat.add_le_add hcount (List.length_pos_of_ne_nil hne)
    · cases hrun.symm.trans hstore

/-! ## The end of the loop -/

/-- How the loop ends in the state `st`: nothing is left to read, or the round that begins there
ends the reader or the run. -/
inductive LoopEnds (os : Os σ) (fuel : ℕ) (st : ReadState) (w : World σ) :
    Except Stop (Except Bytes ReadState × World σ) → Prop
  | complete : st.lengthToRead = 0 → LoopEnds os fuel st w (.ok (.ok st, w))
  | failed {pkt : Bytes} {w' : World σ} : st.lengthToRead ≠ 0 →
      (receiveStep os fuel st).run w = .ok (.error pkt, w') →
      LoopEnds os fuel st w (.ok (.error pkt, w'))
  | stopped {e : Stop} : st.lengthToRead ≠ 0 → (receiveStep os fuel st).run w = .error e →
      LoopEnds os fuel st w (.error e)

/-- The loop ends in one of its states: the rounds that are left are enough, because each of them
receives a byte. The induction is on these rounds. -/
theorem exists_loopEnds (fuel rounds : ℕ) {pkt got : Bytes} {tv : Option Timeval} {n : ℕ}
    {st : ReadState} {w₀ w : World σ} (h : Visits os (.start w₀.ctx.type pkt tv) w₀ n got st w)
    (hsize : w₀.ctx.type.maxAduLength ≤ pkt.length)
    (hrounds : w₀.ctx.type.maxAduLength ≤ got.length + rounds) :
    ∃ n' got' st' w', Visits os (.start w₀.ctx.type pkt tv) w₀ n' got' st' w' ∧
      LoopEnds os fuel st' w' ((receiveLoop os fuel rounds st).run w) := by
  induction rounds generalizing n got st w with
  | zero =>
    obtain ⟨hread, -, -⟩ := h.reading hsize
    have hzero : st.lengthToRead = 0 := by
      have hadu := hread.pktlen_add_le
      rw [hread.count] at hadu
      omega
    refine ⟨n, got, st, w, h, ?_⟩
    rw [receiveLoop, if_pos hzero]
    exact .complete hzero
  | succ rounds ih =>
    by_cases hzero : st.lengthToRead = 0
    · refine ⟨n, got, st, w, h, ?_⟩
      rw [receiveLoop, if_pos hzero]
      exact .complete hzero
    · rw [receiveLoop, if_neg hzero]
      rcases hstep : (receiveStep os fuel st).run w with e | ⟨_ | st', w'⟩
      · exact ⟨n, got, st, w, h, (Exec.run_bind_of_error hstep).symm ▸ .stopped hzero hstep⟩
      · exact ⟨n, got, st, w, h, (Exec.run_bind_of_ok hstep).symm ▸ .failed hzero hstep⟩
      · obtain ⟨bs, w₁, w₂, h₁, h₂, hne, h₃⟩ := exists_of_receiveStep hstep
        rw [Exec.run_bind_of_ok hstep]
        refine ih (.round h hzero h₁ h₂ hne h₃) ?_
        have hlen := List.length_pos_of_ne_nil hne
        rw [List.length_append]
        omega

/-! ## The end of the reader -/

/-- The integrity check of a packet that has been received returns, and the decoder reads a message
out of the received bytes then, whatever follows them. -/
theorem exists_run_checkIntegrity_of_isFrame (os : Os σ) (fuel : ℕ) {f pkt : Bytes} {w : World σ}
    (hf : w.ctx.type.framing.IsFrame f) (hpre : f <+: pkt) :
    ∃ rc w', (checkIntegrity os fuel pkt f.length).run w = .ok (rc, w') ∧
      (∀ n, rc = some n → n = f.length) ∧
      ∃ m, ∀ buf, f <+: buf → (convPkt2ttamsg buf).run w' = .ok (m, w') := by
  obtain ⟨rc, w', hrun⟩ : ∃ rc w', (checkIntegrity os fuel pkt f.length).run w = .ok (rc, w') := by
    by_cases htcp : w.ctx.type = .tcp
    · refine ⟨some f.length, w, ?_⟩
      rw [checkIntegrity, Exec.run_bind_of_ok (run_getCtx w)]
      rcases hbe : w.ctx.backend with d | d | d
      · rfl
      · rw [Tta.type, hbe] at htcp
        cases htcp
      · rw [Tta.type, hbe] at htcp
        cases htcp
    · have hlen : 2 ≤ f.length := le_trans (by decide) (four_le_length_of_isFrame hf)
      obtain ⟨w', hrun, -⟩ := exists_run_checkIntegrity os fuel htcp hpre hlen
      exact ⟨_, w', hrun⟩
  set P : Backend → Prop := fun be => be.type = w.ctx.type
  obtain ⟨htype, hrc⟩ := (yields_checkIntegrity (P := P) os fuel pkt f.length).of_ok rfl hrun
  refine ⟨rc, w', hrun, hrc, ?_⟩
  have hf' : w'.ctx.type.framing.IsFrame f := by
    rw [show w'.ctx.type = w.ctx.type from htype]
    exact hf
  obtain ⟨m, hm, -⟩ := run_convPkt2ttamsg_of_isFrame hf' List.prefix_rfl
  refine ⟨m, fun buf hbuf => ?_⟩
  obtain ⟨m', hm', hrun'⟩ := run_convPkt2ttamsg_of_isFrame hf' hbuf
  rwa [Option.some.inj (hm.symm.trans hm')]

/-- In a state of the loop the bytes that are still waited for fit the buffer. -/
theorem Reading.filling {b : BackendType} {s got todo : Bytes} {size : ℕ} {st : ReadState}
    (h : Reading b s size got todo st) : Filling b size st where
  size_eq := h.size_eq
  room := h.pktlen_add_le
  phase := by
    rcases h.phase with ⟨hstep, hpos, -⟩ | ⟨-, hhd, -, -⟩
    · exact .inl ⟨hstep, hpos⟩
    · exact .inr (Nat.lt_of_lt_of_le b.framing.hdlen_pos hhd)

/-- A packet that has been received has the length that its header announces. -/
theorem length_of_isFrame_of_prefix {b : BackendType} {f pkt : Bytes} (hf : b.framing.IsFrame f)
    (hpre : f <+: pkt) :
    f.length = b.headerLength + (pkt.getD (b.headerLength - 1) 0).toNat + b.checksumLength := by
  have hhd : b.headerLength ≤ f.length := hf.hdlen_le
  have hpos : 0 < b.headerLength := b.framing.hdlen_pos
  have hlen := hf.length_eq
  obtain ⟨datalen, hdatalen, htotal⟩ := total_of_header (b := b) (List.take_append_drop _ f)
    (List.length_take_of_le hhd)
  rw [List.getElem?_take_of_lt (by omega)] at hdatalen
  obtain ⟨rest, rfl⟩ := hpre
  rw [List.getD_eq_getElem?_getD, List.getElem?_append_left (by omega), hdatalen, Option.getD_some]
  omega

/-- How the reader returns from a state in which it has received the bytes `got` with `n`
requests. -/
inductive ReaderEnds (os : Os σ) (fuel : ℕ) (b : BackendType) (n : ℕ) (got : Bytes) (st : ReadState)
    (w : World σ) : Except Stop ((Option ℕ × Bytes) × World σ) → Prop
  /-- The packet is checked: it has the length that its header announces, and the checksums are in
  it. If it is delivered, the message is decoded from the received bytes, whatever follows them. -/
  | checked {rc : Option ℕ} {w' : World σ} : n ≤ b.maxAduLength → got <+: st.pkt →
      st.pktlen = got.length →
      st.pktlen = b.headerLength + (st.pkt.getD (b.headerLength - 1) 0).toNat + b.checksumLength →
      (checkIntegrity os fuel st.pkt st.pktlen).run w = .ok (rc, w') →
      (∀ k, rc = some k → k = got.length) →
      (∃ m, ∀ buf, got <+: buf → (convPkt2ttamsg buf).run w' = .ok (m, w')) →
      ReaderEnds os fuel b n got st w (.ok ((rc, st.pkt), w'))
  /-- The round that begins here fails, after one more request at most. -/
  | failed {pkt : Bytes} {w' : World σ} : n + 1 ≤ b.maxAduLength →
      (receiveStep os fuel st).run w = .ok (.error pkt, w') →
      ReaderEnds os fuel b n got st w (.ok ((none, pkt), w'))
  /-- The run stops in the round that begins here, but not by a write outside the packet buffer. -/
  | stopped {e : Stop} : n + 1 ≤ b.maxAduLength → e ≠ .store .pkt →
      (receiveStep os fuel st).run w = .error e →
      ReaderEnds os fuel b n got st w (.error e)

/-- The reader stays in its buffer, and ends: in every state in which it asks for bytes, these are
the ones behind the received bytes, they lie within the longest packet, and the requests are not
more than its bytes; and its run is the end of one of these states. -/
theorem ttaReceivePkt_stays_and_ends (os : Os σ) (fuel : ℕ) {pkt : Bytes} (fgtimeout : Bool)
    {w : World σ} (hsize : w.ctx.type.maxAduLength ≤ pkt.length) :
    (∀ n got st w', Visits os (.start w.ctx.type pkt
        (if fgtimeout then some w.ctx.responseTimeout else none)) w n got st w' →
      st.lengthToRead ≠ 0 →
      got <+: st.pkt ∧ st.pktlen = got.length ∧ st.pkt.length = pkt.length ∧
        st.pktlen + st.lengthToRead ≤ w.ctx.type.maxAduLength ∧
        w.ctx.type.maxAduLength ≤ maxMessageLength ∧ n + 1 ≤ w.ctx.type.maxAduLength) ∧
    ∃ n got st w', Visits os (.start w.ctx.type pkt
        (if fgtimeout then some w.ctx.responseTimeout else none)) w n got st w' ∧
      ReaderEnds os fuel w.ctx.type n got st w' ((ttaReceivePkt os fuel pkt fgtimeout).run w) := by
  have hbound {n : ℕ} {got : Bytes} {st : ReadState} {w' : World σ}
      (h : Visits os (.start w.ctx.type pkt
        (if fgtimeout then some w.ctx.responseTimeout else none)) w n got st w')
      (hpos : st.lengthToRead ≠ 0) : n + 1 ≤ w.ctx.type.maxAduLength := by
    obtain ⟨hread, -, hcount⟩ := h.reading hsize
    have hadu := hread.pktlen_add_le
    rw [hread.count] at hadu
    omega
  constructor
  · intro n got st w' h hpos
    obtain ⟨hread, -, -⟩ := h.reading hsize
    exact ⟨hread.filled, hread.count, hread.size_eq, hread.pktlen_add_le,
      w.ctx.type.maxAduLength_le, hbound h hpos⟩
  · obtain ⟨n, got, st, w₁, h, hend⟩ := exists_loopEnds fuel w.ctx.type.maxAduLength
      (.start : Visits os (.start w.ctx.type pkt
        (if fgtimeout then some w.ctx.responseTimeout else none)) w 0 [] _ w) hsize
      (Nat.le_add_left _ _)
    obtain ⟨hread, htype, hcount⟩ := h.reading hsize
    refine ⟨n, got, st, w₁, h, ?_⟩
    rw [ttaReceivePkt, Exec.run_bind_of_ok (run_getCtx w)]
    rcases hloop : (receiveLoop os fuel w.ctx.type.maxAduLength (.start w.ctx.type pkt
        (if fgtimeout then some w.ctx.responseTimeout else none))).run w with e | ⟨r, w₂⟩
    · rw [hloop] at hend
      rcases hend with _ | _ | ⟨hpos, hstop⟩
      refine (congrArg (ReaderEnds os fuel w.ctx.type n got st w₁)
        (Exec.run_bind_of_error hloop)).mpr ?_
      refine .stopped (hbound h hpos) ?_ hstop
      exact (yields_receiveStep os fuel (fun _ hbe => hbe) hsize hread.filling).of_error htype hstop
    · rw [hloop] at hend
      refine (congrArg (ReaderEnds os fuel w.ctx.type n got st w₁)
        (Exec.run_bind_of_ok hloop)).mpr ?_
      rcases hend with hzero | ⟨hpos, hfail⟩
      · obtain ⟨hf, -⟩ := Framing.next_eq_frame_iff.mp (hread.next_frame hzero)
        obtain ⟨rc, w₃, hcheck, hrc, hdecode⟩ :=
          exists_run_checkIntegrity_of_isFrame os fuel (htype.symm ▸ hf) hread.filled
        rw [← hread.count] at hcheck
        refine (congrArg (ReaderEnds os fuel w.ctx.type n got st w₁)
          (Exec.run_bind_of_ok hcheck)).mpr ?_
        refine .checked ?_ hread.filled hread.count ?_ hcheck hrc hdecode
        · exact hcount.trans hf.length_le
        · rw [hread.count]
          exact length_of_isFrame_of_prefix hf hread.filled
      · exact .failed (hbound h hpos) hfail

/-- A serial line on which the frame of a message with one byte of payload arrives. -/
def framedLine : World Line :=
  ⟨ttaNewRs485 "/dev/ttyS0", .other 0, List.Vector.replicate 128 0, 0,
    ⟨[0xF7, 1, 0, 0x10, 1, 0xAA, 0x4D, 0x00], [], fun _ => 2, 0, fun _ => 0⟩⟩

/-- The reader of a serial line, with the buffer of a caller. -/
theorem ttaReceivePkt_stays_and_ends_frame : ∃ n got st w',
    Visits lineOs (.start .rs485 (List.replicate 260 0) none) framedLine n got st w' ∧
      ReaderEnds lineOs 0 .rs485 n got st w'
        ((ttaReceivePkt lineOs 0 (List.replicate 260 0) false).run framedLine) :=
  (ttaReceivePkt_stays_and_ends lineOs 0 false
    (framedLine.ctx.type.maxAduLength_le.trans_eq List.length_replicate.symm)).2

end Libtta
