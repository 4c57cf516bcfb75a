import Libtta.Model.Core
import Libtta.Packet.Frame

/-!
# The incremental reader

`_tta_receive_pkt` reads a packet piece by piece. This file relates its loop to one look at the
front of the byte stream, `Framing.next`.

`Feeds` says that an operating system delivers a given stream, in fragments of its own choice;
`Reading` is the invariant of the loop, `run_receiveStep` says what one round does to it, and
`run_receiveLoop` follows the loop to its end, which `ReadEnd` describes: the stream was too short,
the header announced too much, a call failed, or exactly the first frame was consumed and stored.
-/

namespace Libtta

variable {σ ρ : Type}

/-! ## Byte streams -/

/-- The operating system delivers the stream `input`: waiting and reading neither lose, add nor
reorder bytes, and they leave the rest of its state, `other`, alone. A read returns any number of
the bytes that come next, and nothing only when there are none. With `t` still to come, a wait or a
read may fail with `e` only if `fails t e`. -/
structure Feeds (os : Os σ) (input : σ → Bytes) (other : σ → ρ) (fails : Bytes → Errno → Prop) :
    Prop where
  garbage : ∀ d, input (os.garbage d).2 = input d ∧ other (os.garbage d).2 = other d
  select : ∀ fd tv d, ((os.select fd tv d).1 = .ready ∨
      ((os.select fd tv d).1 = .timeout ∧ fails (input d) .ETIMEDOUT) ∨
      ∃ e h, (os.select fd tv d).1 = .fail e h ∧ fails (input d) e) ∧
    input (os.select fd tv d).2 = input d ∧ other (os.select fd tv d).2 = other d
  read : ∀ fd n d, 0 < n → other (os.read fd n d).2 = other d ∧
    ((∃ k, k ≤ n ∧ (k = 0 → input d = []) ∧ (os.read fd n d).1 = .ok ((input d).take k) ∧
        input (os.read fd n d).2 = (input d).drop k) ∨
      ∃ e, (os.read fd n d).1 = .error e ∧ fails (input d) e)

/-- Nothing fails. -/
def never : Bytes → Errno → Prop := fun _ _ => False

/-! ## One round -/

/-- The invariant of the loop: of the stream `s`, the bytes `got` have been stored and counted and
`todo` is still to come; the reader either completes the header or, knowing that the whole frame is
accepted, the frame. -/
structure Reading (b : BackendType) (s : Bytes) (size : ℕ) (got todo : Bytes) (st : ReadState) :
    Prop where
  split : got ++ todo = s
  filled : got <+: st.pkt
  count : st.pktlen = got.length
  size_eq : st.pkt.length = size
  phase : st.step = .hd ∧ 0 < st.lengthToRead ∧ st.pktlen + st.lengthToRead = b.headerLength ∨
    st.step = .data ∧ b.headerLength ≤ st.pktlen ∧
      st.pktlen + st.lengthToRead = b.framing.total s ∧ b.framing.total s ≤ b.maxAduLength

/-- The reader never asks for bytes beyond the longest packet. -/
theorem Reading.pktlen_add_le {b : BackendType} {s got todo : Bytes} {size : ℕ} {st : ReadState}
    (h : Reading b s size got todo st) : st.pktlen + st.lengthToRead ≤ b.maxAduLength := by
  rcases h.phase with ⟨-, -, hsum⟩ | ⟨-, -, hsum, hle⟩
  · rw [hsum]
    exact b.framing.hdlen_le
  · rw [hsum]
    exact hle

/-- The bytes of one read are stored, and either the invariant holds again, or they complete a
header that announces too much. -/
theorem run_receiveBytes {b : BackendType} {s got todo bs : Bytes} {size : ℕ} {st : ReadState}
    (h : Reading b s size got (bs ++ todo) st) (hsize : b.maxAduLength ≤ size)
    (hle : bs.length ≤ st.lengthToRead) (w : World σ) (htype : w.ctx.type = b) :
    (∃ st', (receiveBytes st bs).run w = .ok (.ok st', w) ∧
        Reading b s size (got ++ bs) todo st') ∨
      ∃ pkt, (receiveBytes st bs).run w = .ok (.error pkt, { w with errno := .EMBBADDATA }) ∧
        b.framing.next s = .long ∧ todo = s.drop b.headerLength := by
  have hadu := h.pktlen_add_le
  have hcount := h.count
  obtain ⟨pkt, hstore, hfilled, hlength⟩ := run_storePkt bs h.filled
    (by have := h.size_eq; omega) w
  rw [← hcount] at hstore
  have hsplit : got ++ bs ++ todo = s := by rw [List.append_assoc]; exact h.split
  have hcount' : st.pktlen + bs.length = (got ++ bs).length := by
    rw [List.length_append, hcount]
  unfold receiveBytes
  rw [Exec.run_bind_of_ok (run_getCtx w), Exec.run_bind_of_ok hstore]
  by_cases hdone : st.lengthToRead - bs.length = 0 ∧ st.step = .hd
  · -- the header is complete
    have hhd : (got ++ bs).length = b.headerLength := by
      rcases h.phase with ⟨-, -, hsum⟩ | ⟨hstep, -⟩
      · omega
      · rw [hstep] at hdone
        cases hdone.2
    obtain ⟨datalen, hbyte, htotal⟩ := total_of_header hsplit hhd
    rw [if_pos hdone, htype, Exec.run_bind_of_ok (run_loadByte hfilled hbyte w)]
    by_cases hlong : st.pktlen + bs.length + (datalen.toNat + b.checksumLength) > b.maxAduLength
    · right
      refine ⟨pkt, ?_, ?_, ?_⟩
      · rw [if_pos hlong]
        rfl
      · have hs : b.headerLength ≤ s.length := by
          rw [← hsplit, List.length_append, hhd]
          omega
        refine Framing.next_of_limit_lt hs ?_
        rw [htotal, BackendType.limit_framing]
        omega
      · rw [← hsplit, ← hhd, List.drop_left]
    · left
      rw [if_neg hlong]
      exact ⟨_, rfl, hsplit, hfilled, hcount', by rw [← h.size_eq]; exact hlength,
        .inr ⟨rfl, by change b.headerLength ≤ st.pktlen + bs.length; omega,
          by change st.pktlen + bs.length + (datalen.toNat + b.checksumLength) = _; omega,
          by omega⟩⟩
  · left
    rw [if_neg hdone]
    refine ⟨_, rfl, hsplit, hfilled, hcount', by rw [← h.size_eq]; exact hlength, ?_⟩
    rcases h.phase with ⟨hstep, hpos, hsum⟩ | ⟨hstep, hhd, hsum, htotal⟩
    · have hrest : st.lengthToRead - bs.length ≠ 0 := fun h0 => hdone ⟨h0, hstep⟩
      exact .inl ⟨hstep, by change 0 < st.lengthToRead - bs.length; omega,
        by change st.pktlen + bs.length + (st.lengthToRead - bs.length) = _; omega⟩
    · exact .inr ⟨hstep, by change b.headerLength ≤ st.pktlen + bs.length; omega,
        by change st.pktlen + bs.length + (st.lengthToRead - bs.length) = _; omega, htotal⟩

/-- How the loop ends on the stream `s`, in the world `w'`: the four cases in which
`_tta_receive_pkt` returns `-1` without looking at checksums, and the case in which the first frame
has been consumed and stored. -/
inductive ReadEnd (b : BackendType) (s : Bytes) (size : ℕ) (input : σ → Bytes) (other : σ → ρ)
    (fails : Bytes → Errno → Prop) (w : World σ) : Except Bytes ReadState → World σ → Prop where
  | short {pkt : Bytes} {d : σ} : b.framing.next s = .short → input d = [] →
      other d = other w.dev →
      ReadEnd b s size input other fails w (.error pkt)
        { w with dev := d, errno := .ECONNRESET }
  | long {pkt : Bytes} {d : σ} : b.framing.next s = .long → input d = s.drop b.headerLength →
      other d = other w.dev →
      ReadEnd b s size input other fails w (.error pkt)
        { w with dev := d, errno := .EMBBADDATA }
  | failed {pkt t : Bytes} {d : σ} {e : Errno} : fails t e → (t = [] → b.framing.next s = .short) →
      other d = other w.dev →
      ReadEnd b s size input other fails w (.error pkt) { w with dev := d, errno := e }
  | complete {st : ReadState} {d : σ} {f : Bytes} : b.framing.next s = .frame f →
      f <+: st.pkt → st.pktlen = f.length → st.pkt.length = size →
      input d = s.drop f.length → other d = other w.dev →
      ReadEnd b s size input other fails w (.ok st) { w with dev := d }

/-- The end of the loop may be told from any state of the operating system with the same rest. -/
theorem ReadEnd.of_dev {b : BackendType} {s : Bytes} {size : ℕ} {input : σ → Bytes}
    {other : σ → ρ} {fails : Bytes → Errno → Prop} {w w' : World σ} {d : σ}
    {r : Except Bytes ReadState}
    (h : ReadEnd b s size input other fails { w with dev := d } r w')
    (hother : other d = other w.dev) : ReadEnd b s size input other fails w r w' := by
  cases h with
  | short hnext hin ho => exact .short hnext hin (ho.trans hother)
  | long hnext hin ho => exact .long hnext hin (ho.trans hother)
  | failed hfail hend ho => exact .failed hfail hend (ho.trans hother)
  | complete hnext hpre hcount hsize hin ho =>
    exact .complete hnext hpre hcount hsize hin (ho.trans hother)

section Feeds

variable {os : Os σ} {input : σ → Bytes} {other : σ → ρ} {fails : Bytes → Errno → Prop}

/-- Without link recovery, a failing `select` is not followed by anything. -/
theorem run_selectRecovery (os : Os σ) (fuel : ℕ) {w : World σ}
    (h : w.ctx.recoversLink = false) : (selectRecovery os fuel).run w = .ok ((), w) := by
  unfold selectRecovery
  rw [Exec.run_bind_of_ok (run_getCtx w), h]
  rfl

/-- Without link recovery, a failing read is not followed by anything. -/
theorem run_readRecovery (os : Os σ) (fuel : ℕ) {w : World σ}
    (h : w.ctx.recoversLink = false) : (readRecovery os fuel).run w = .ok ((), w) := by
  have hcond : ¬(w.ctx.recoversLink = true ∧
      (w.errno = .ECONNRESET ∨ w.errno = .ECONNREFUSED ∨ w.errno = .EBADF)) := by
    rw [h]
    rintro ⟨h, -⟩
    cases h
  exact congrArg (fun x : Machine σ Unit => x.run w) (if_neg hcond)

/-- Waiting on a socket or a serial line. -/
theorem run_backendSelect (hos : Feeds os input other fails) (tv : Option Timeval)
    (w : World σ) (hrf : w.ctx.type ≠ .rf) :
    (∃ d, (backendSelect os tv).run w = .ok (some (), { w with dev := d }) ∧
        input d = input w.dev ∧ other d = other w.dev) ∨
      ∃ d e, (backendSelect os tv).run w = .ok (none, { w with dev := d, errno := e }) ∧
        fails (input w.dev) e ∧ other d = other w.dev := by
  obtain ⟨hres, hin, hother⟩ := hos.select w.ctx.s tv w.dev
  rw [run_backendSelect_of_ne_rf os tv hrf, Exec.run_bind_of_ok (run_ask _ w)]
  rcases hres with hready | ⟨htimeout, hfail⟩ | ⟨e, he, hfailed, hfail⟩
  · rw [hready]
    exact .inl ⟨_, rfl, hin, hother⟩
  · rw [htimeout]
    exact .inr ⟨_, _, rfl, hfail, hother⟩
  · rw [hfailed]
    exact .inr ⟨_, _, rfl, hfail, hother⟩

/-- Reading from a socket or a serial line. -/
theorem run_backendRecv (hos : Feeds os input other fails) {n : ℕ} (hn : 0 < n)
    (w : World σ) (hrf : w.ctx.type ≠ .rf) :
    (∃ k d, k ≤ n ∧ (k = 0 → input w.dev = []) ∧
        (backendRecv os n).run w = .ok (some ((input w.dev).take k), { w with dev := d }) ∧
        input d = (input w.dev).drop k ∧ other d = other w.dev) ∨
      ∃ d e, (backendRecv os n).run w = .ok (none, { w with dev := d, errno := e }) ∧
        fails (input w.dev) e ∧ other d = other w.dev := by
  have hrun := run_backendRecv_of_ne_rf os n hrf
  obtain ⟨hother, hread⟩ := hos.read w.ctx.s n w.dev hn
  rcases hread with ⟨k, hkn, hk, hok, hin⟩ | ⟨e, herr, hfail⟩
  · left
    refine ⟨k, (os.read w.ctx.s n w.dev).2, hkn, hk, ?_, hin, hother⟩
    rw [hrun, Exec.run_bind_of_ok (run_sys_of_ok (Prod.ext hok rfl)), Option.map_some,
      List.take_of_length_le ((List.length_take_le k _).trans hkn)]
    rfl
  · right
    refine ⟨(os.read w.ctx.s n w.dev).2, e, ?_, hfail, hother⟩
    rw [hrun, Exec.run_bind_of_ok (run_sys_of_error (Prod.ext herr rfl))]
    rfl

/-- A stream that is used up while the reader still waits for bytes was too short. -/
theorem Reading.next_short {b : BackendType} {s got todo : Bytes} {size : ℕ} {st : ReadState}
    (h : Reading b s size got todo st) (hpos : 0 < st.lengthToRead) (hend : todo = []) :
    b.framing.next s = .short := by
  have hs : s.length = st.pktlen := by
    rw [← h.split, hend, List.append_nil, h.count]
  rcases h.phase with ⟨-, -, hsum⟩ | ⟨-, -, hsum, hle⟩
  · exact Framing.next_of_length_lt_hdlen (by rw [BackendType.hdlen_framing]; omega)
  · exact Framing.next_of_length_lt_total hle (by omega)

/-- One round of the loop: either more bytes have been stored and the invariant holds again, or the
loop ends. Link recovery plays no part when the stream is long enough and nothing fails before it is
used up. -/
theorem run_receiveStep (hos : Feeds os input other fails) {b : BackendType} {s got : Bytes}
    {size : ℕ} {st : ReadState} {w : World σ} (fuel : ℕ)
    (h : Reading b s size got (input w.dev) st) (hpos : 0 < st.lengthToRead)
    (hsize : b.maxAduLength ≤ size) (htype : w.ctx.type = b) (hrf : b ≠ .rf)
    (hcalm : w.ctx.recoversLink = false ∨
      (∀ t e, fails t e → t = []) ∧ b.framing.next s ≠ .short) :
    (∃ st' d got', (receiveStep os fuel st).run w = .ok (.ok st', { w with dev := d }) ∧
        Reading b s size got' (input d) st' ∧ other d = other w.dev ∧
        got.length < got'.length) ∨
      ∃ pkt w', (receiveStep os fuel st).run w = .ok (.error pkt, w') ∧
        ReadEnd b s size input other fails w (.error pkt) w' := by
  have hquiet : input w.dev = [] ∨ (∃ e, fails (input w.dev) e) →
      w.ctx.recoversLink = false := by
    intro hbad
    rcases hcalm with hnone | ⟨hlast, henough⟩
    · exact hnone
    · have hend : input w.dev = [] := hbad.elim id fun ⟨e, he⟩ => hlast _ e he
      exact absurd (h.next_short hpos hend) henough
  rw [receiveStep]
  rcases run_backendSelect hos st.tv w (htype ▸ hrf) with
    ⟨d₁, hsel, hin₁, hother₁⟩ | ⟨d₁, e, hsel, hfail, hother₁⟩
  swap
  · right
    refine ⟨st.pkt, { w with dev := d₁, errno := e }, ?_,
      .failed hfail (h.next_short hpos) hother₁⟩
    rw [Exec.run_bind_of_ok hsel]
    exact (Exec.run_bind_of_ok (run_selectRecovery os fuel
      (w := { w with dev := d₁, errno := e }) (hquiet (.inr ⟨e, hfail⟩)))).trans rfl
  rw [Exec.run_bind_of_ok hsel]
  have hbackendRecv := run_backendRecv hos hpos { w with dev := d₁ } (htype ▸ hrf)
  simp only [hin₁] at hbackendRecv
  rcases hbackendRecv with ⟨k, d₂, hkn, hk, hrecv, hin₂, hother₂⟩ | ⟨d₂, e, hrecv, hfail, hother₂⟩
  swap
  · right
    refine ⟨st.pkt, { w with dev := d₂, errno := e }, ?_,
      .failed hfail (h.next_short hpos) (hother₂.trans hother₁)⟩
    apply (Exec.run_bind_of_ok hrecv).trans
    exact (Exec.run_bind_of_ok (run_readRecovery os fuel
      (w := { w with dev := d₂, errno := e }) (hquiet (.inr ⟨e, hfail⟩)))).trans rfl
  cases hbs : (input w.dev).take k with
  | nil =>
    -- nothing was read: the stream is used up
    right
    have hend : input w.dev = [] := by
      rcases List.take_eq_nil_iff.mp hbs with hzero | hnil
      · exact hk hzero
      · exact hnil
    rw [hbs] at hrecv
    refine ⟨st.pkt, { w with dev := d₂, errno := .ECONNRESET }, ?_,
      .short (h.next_short hpos hend) (by rw [hin₂, hend, List.drop_nil])
        (hother₂.trans hother₁)⟩
    apply (Exec.run_bind_of_ok hrecv).trans
    apply (Exec.run_bind_of_ok (run_setErrno _ _)).trans
    exact (Exec.run_bind_of_ok (run_readRecovery os fuel
      (w := { w with dev := d₂, errno := .ECONNRESET }) (hquiet (.inl hend)))).trans rfl
  | cons byte bytes =>
    rw [hbs] at hrecv
    have hsplit : input w.dev = byte :: bytes ++ input d₂ := by
      rw [hin₂, ← hbs, List.take_append_drop]
    have hle : (byte :: bytes).length ≤ st.lengthToRead := by
      rw [← hbs]
      exact (List.length_take_le k _).trans hkn
    rcases run_receiveBytes (hsplit ▸ h) hsize hle { w with dev := d₂ } htype with
      ⟨st', hrun, hreading⟩ | ⟨pkt, hrun, hlong, htodo⟩
    · left
      refine ⟨st', d₂, got ++ byte :: bytes, ?_, hreading, hother₂.trans hother₁, ?_⟩
      · exact (Exec.run_bind_of_ok hrecv).trans hrun
      · rw [List.length_append, List.length_cons]
        omega
    · right
      exact ⟨pkt, { w with dev := d₂, errno := .EMBBADDATA },
        (Exec.run_bind_of_ok hrecv).trans hrun, .long hlong htodo (hother₂.trans hother₁)⟩

/-! ## The whole loop -/

/-- When nothing is left to read, the first frame of the stream has been read. -/
theorem Reading.next_frame {b : BackendType} {s got todo : Bytes} {size : ℕ} {st : ReadState}
    (h : Reading b s size got todo st) (hzero : st.lengthToRead = 0) :
    b.framing.next s = .frame got := by
  rcases h.phase with ⟨-, hpos, -⟩ | ⟨-, -, hsum, hle⟩
  · omega
  have hgot : got.length = b.framing.total s := by rw [← h.count]; omega
  have hlen : b.framing.total s ≤ s.length := by
    rw [← hgot, ← h.split, List.length_append]
    omega
  have htake : s.take (b.framing.total s) = got := by rw [← hgot, ← h.split, List.take_left]
  exact htake ▸ Framing.next_of_total_le hle hlen

/-- When nothing is left to read, the first frame of the stream has been stored. -/
theorem Reading.complete {b : BackendType} {s got : Bytes} {size : ℕ} {st : ReadState}
    {w : World σ} (h : Reading b s size got (input w.dev) st) (hzero : st.lengthToRead = 0) :
    ReadEnd b s size input other fails w (.ok st) w :=
  .complete (d := w.dev) (h.next_frame hzero) h.filled h.count h.size_eq
    (by rw [← h.split, List.drop_left]) rfl

/-- The loop comes to its end: every round stores at least one byte, and the longest packet bounds
what there is to store. The induction is on the rounds that are left. -/
theorem run_receiveLoop (hos : Feeds os input other fails) {b : BackendType} {s got : Bytes}
    {size : ℕ} {st : ReadState} {w : World σ} (fuel rounds : ℕ)
    (h : Reading b s size got (input w.dev) st) (hrounds : b.maxAduLength ≤ got.length + rounds)
    (hsize : b.maxAduLength ≤ size) (htype : w.ctx.type = b) (hrf : b ≠ .rf)
    (hcalm : w.ctx.recoversLink = false ∨
      (∀ t e, fails t e → t = []) ∧ b.framing.next s ≠ .short) :
    ∃ r w', (receiveLoop os fuel rounds st).run w = .ok (r, w') ∧
      ReadEnd b s size input other fails w r w' := by
  induction rounds generalizing got st w with
  | zero =>
    have hadu := h.pktlen_add_le
    have hcount := h.count
    have hzero : st.lengthToRead = 0 := by omega
    refine ⟨.ok st, w, ?_, h.complete hzero⟩
    rw [receiveLoop, if_pos hzero]
    rfl
  | succ rounds ih =>
    by_cases hzero : st.lengthToRead = 0
    · refine ⟨.ok st, w, ?_, h.complete hzero⟩
      rw [receiveLoop, if_pos hzero]
      rfl
    rw [receiveLoop, if_neg hzero]
    rcases run_receiveStep hos fuel h (by omega) hsize htype hrf hcalm with
      ⟨st', d, got', hstep, hreading, hother, hmore⟩ | ⟨pkt, w', hstep, hend⟩
    · obtain ⟨r, w', hrun, hend⟩ := ih (w := { w with dev := d }) hreading (by omega) htype hcalm
      exact ⟨r, w', (Exec.run_bind_of_ok hstep).trans hrun, hend.of_dev hother⟩
    · exact ⟨.error pkt, w', (Exec.run_bind_of_ok hstep).trans rfl, hend⟩

/-! ## The reader -/

/-- The one-shot parser: the packet at the front of a stream, or the error code that is reported,
and what is left of the stream. -/
def BackendType.parse (b : BackendType) (s : Bytes) : Except Errno Bytes × Bytes :=
  match b.framing.next s with
  | .short => (.error .ECONNRESET, [])
  | .long => (.error .EMBBADDATA, s.drop b.headerLength)
  | .frame f => (if b.intact f then .ok f else .error .EMBBADCRC, s.drop f.length)

/-- Without a frame at its front a stream is refused as too short or too long. -/
theorem BackendType.parse_of_next_ne_frame {b : BackendType} {s : Bytes}
    (h : ∀ f, b.framing.next s ≠ .frame f) :
    ∃ e rest, b.parse s = (.error e, rest) ∧ (e = .ECONNRESET ∨ e = .EMBBADDATA) := by
  unfold parse
  cases hnext : b.framing.next s with
  | short => exact ⟨_, _, rfl, .inl rfl⟩
  | long => exact ⟨_, _, rfl, .inr rfl⟩
  | frame f => exact absurd hnext (h f)

/-- A packet that is parsed is an intact frame at the front of the stream. -/
theorem BackendType.parse_eq_ok_iff {b : BackendType} {s f rest : Bytes} :
    b.parse s = (.ok f, rest) ↔ b.framing.IsFrame f ∧ b.intact f = true ∧ f ++ rest = s := by
  constructor
  · intro h
    unfold parse at h
    split at h
    · cases h
    · cases h
    · rename_i g hnext
      obtain ⟨hg, hpre⟩ := Framing.next_eq_frame_iff.mp hnext
      by_cases hintact : b.intact g = true
      · rw [if_pos hintact, Prod.mk.injEq, Except.ok.injEq] at h
        obtain ⟨rfl, rfl⟩ := h
        obtain ⟨t, rfl⟩ := hpre
        exact ⟨hg, hintact, by rw [List.drop_left]⟩
      · rw [if_neg hintact] at h
        cases h
  · rintro ⟨hf, hintact, rfl⟩
    rw [parse, Framing.next_append hf]
    simp only [hintact, if_true, List.drop_left]

/-- The error recovery has no part in receiving from a stream: it is off, or the stream is long
enough, a frame at its front is intact, and nothing fails before the stream is used up. -/
def Calm (ctx : Tta) (fails : Bytes → Errno → Prop) (s : Bytes) : Prop :=
  ctx.recoversLink = false ∧ ctx.recoversProtocol = false ∨
    (∀ t e, fails t e → t = []) ∧ ctx.type.framing.next s ≠ .short ∧
      ∀ f, ctx.type.framing.next s = .frame f → ctx.type.intact f = true

/-- The frame of a message at the front of a stream is parsed. -/
theorem parse_frame (be : Backend) {m : Ttamsg}
    (hfit : m.frameLength be.type ≤ be.type.maxAduLength)
    (rest : Bytes) : be.type.parse (be.frame m ++ rest) = (.ok (be.frame m), rest) :=
  BackendType.parse_eq_ok_iff.mpr ⟨isFrame_frame be m hfit, intact_frame be m, rfl⟩

/-- A context is calm when the frame of a message is at the front of a stream that does not fail
before its end. -/
theorem Calm.of_frame {ctx : Tta} {fails : Bytes → Errno → Prop} {be : Backend} {m : Ttamsg}
    (htype : ctx.type = be.type) (hlast : ∀ t e, fails t e → t = [])
    (hfit : m.frameLength be.type ≤ be.type.maxAduLength) (rest : Bytes) :
    Calm ctx fails (be.frame m ++ rest) := by
  right
  rw [htype, Framing.next_append (isFrame_frame be m hfit)]
  refine ⟨hlast, by simp, ?_⟩
  rintro _ ⟨⟩
  exact intact_frame be m

/-- Without error recovery a context is calm. -/
theorem Calm.of_none {ctx : Tta} {fails : Bytes → Errno → Prop} {s : Bytes}
    (h : ctx.errorRecovery = 0) :
    Calm ctx fails s :=
  .inl ⟨ctx.recoversLink_of_none h, ctx.recoversProtocol_of_none h⟩

/-- The checksums of a packet at the front of a packet buffer are compared with its bytes. -/
theorem run_loadSumsMatch {f pkt : Bytes} (hf : f <+: pkt) (hlen : 2 ≤ f.length) (w : World σ) :
    (loadSumsMatch pkt f.length).run w = .ok (sumsMatch f, w) := by
  rw [loadSumsMatch, if_neg (by omega),
    Exec.run_bind_of_ok (run_loadPkt hf (i := 0) (n := f.length) (by omega) w), List.drop_zero,
    List.take_length]
  rfl

/-- The integrity check of a packet that has been read. -/
theorem run_checkIntegrity (os : Os σ) (fuel : ℕ) {f pkt : Bytes} {w : World σ} (hf : f <+: pkt)
    (hlen : 2 ≤ f.length) (hcalm : w.ctx.recoversProtocol = false ∨ w.ctx.type.intact f = true) :
    (checkIntegrity os fuel pkt f.length).run w =
      if w.ctx.type.intact f then .ok (some f.length, w)
      else .ok (none, { w with errno := .EMBBADCRC }) := by
  have hload := run_loadSumsMatch hf hlen w
  have hsums : w.ctx.recoversProtocol = false ∨ sumsMatch f = true →
      (checkSums os fuel pkt f.length).run w =
        if sumsMatch f then .ok (some f.length, w)
        else .ok (none, { w with errno := .EMBBADCRC }) := by
    intro hcalm
    unfold checkSums
    rw [Exec.run_bind_of_ok hload]
    by_cases hmatch : sumsMatch f = true
    · rw [if_pos hmatch, if_pos hmatch]
      rfl
    · rw [if_neg hmatch, if_neg hmatch, Exec.run_bind_of_ok (run_getCtx w),
        hcalm.resolve_right hmatch]
      rfl
  obtain ⟨⟨s, rec, rt, bt, be⟩, errno, rxfifo, pos, dev⟩ := w
  cases be with
  | tcp d => rfl
  | rs485 d => exact hsums hcalm
  | rf d => exact hsums hcalm

/-- What one call of a receive function does with the stream `s`, in the world `w'`: it reports the
error of the one-shot parser, it fails because a wait or a read does, or it delivers the packet that
the one-shot parser finds. -/
inductive PktEnd (b : BackendType) (s : Bytes) (size : ℕ) (input : σ → Bytes) (other : σ → ρ)
    (fails : Bytes → Errno → Prop) (w : World σ) : Option ℕ × Bytes → World σ → Prop where
  | refused {pkt rest : Bytes} {d : σ} {e : Errno} : b.parse s = (.error e, rest) →
      (∀ f, b.framing.next s = .frame f → f <+: pkt) → input d = rest → other d = other w.dev →
      PktEnd b s size input other fails w (none, pkt) { w with dev := d, errno := e }
  | failed {pkt t : Bytes} {d : σ} {e : Errno} : fails t e → (t = [] → b.framing.next s = .short) →
      other d = other w.dev →
      PktEnd b s size input other fails w (none, pkt) { w with dev := d, errno := e }
  | read {pkt f rest : Bytes} {d : σ} : b.parse s = (.ok f, rest) → f <+: pkt →
      pkt.length = size → input d = rest → other d = other w.dev →
      PktEnd b s size input other fails w (some f.length, pkt) { w with dev := d }

/-- A packet is read from a stream the way the one-shot parser reads it, unless a wait or a read
fails. -/
theorem run_ttaReceivePkt (hos : Feeds os input other fails) (fuel : ℕ) (pkt : Bytes)
    (fgtimeout : Bool) {w : World σ} (hsize : w.ctx.type.maxAduLength ≤ pkt.length)
    (hrf : w.ctx.type ≠ .rf) (hcalm : Calm w.ctx fails (input w.dev)) :
    ∃ r w', (ttaReceivePkt os fuel pkt fgtimeout).run w = .ok (r, w') ∧
      PktEnd w.ctx.type (input w.dev) pkt.length input other fails w r w' := by
  set b := w.ctx.type with hb
  have hstart : Reading b (input w.dev) pkt.length [] (input w.dev)
      ⟨pkt, 0, b.headerLength, .hd, if fgtimeout then some w.ctx.responseTimeout else none⟩ :=
    ⟨rfl, List.nil_prefix, rfl, rfl,
      .inl ⟨rfl, b.framing.hdlen_pos, Nat.zero_add _⟩⟩
  have hlink : w.ctx.recoversLink = false ∨
      (∀ t e, fails t e → t = []) ∧ b.framing.next (input w.dev) ≠ .short :=
    hcalm.imp And.left fun ⟨hlast, henough, _⟩ => ⟨hlast, henough⟩
  obtain ⟨r, w', hloop, hend⟩ := run_receiveLoop hos fuel b.maxAduLength hstart
    (by omega) hsize rfl hrf hlink
  unfold ttaReceivePkt
  rw [Exec.run_bind_of_ok (run_getCtx w)]
  cases hend with
  | short hnext hin hother =>
    refine ⟨_, _, (Exec.run_bind_of_ok hloop).trans rfl, .refused ?_ ?_ hin hother⟩
    · rw [BackendType.parse, hnext]
    · rw [hnext]
      rintro f ⟨⟩
  | long hnext hin hother =>
    refine ⟨_, _, (Exec.run_bind_of_ok hloop).trans rfl, .refused ?_ ?_ hin hother⟩
    · rw [BackendType.parse, hnext]
    · rw [hnext]
      rintro f ⟨⟩
  | failed hfail hend hother =>
    exact ⟨_, _, (Exec.run_bind_of_ok hloop).trans rfl, .failed hfail hend hother⟩
  | @complete st d f hnext hpre hcount hlen hin hother =>
    have hparse : b.parse (input w.dev) =
        (if b.intact f then .ok f else .error .EMBBADCRC, (input w.dev).drop f.length) := by
      rw [BackendType.parse, hnext]
    have hcalm' : w.ctx.recoversProtocol = false ∨ b.intact f = true := by
      rcases hcalm with ⟨-, hnone⟩ | ⟨-, -, hintact⟩
      · exact .inl hnone
      · exact .inr (hintact f hnext)
    have hlen2 : 2 ≤ f.length := by
      have hfour := four_le_length_of_isFrame (Framing.next_eq_frame_iff.mp hnext).1
      omega
    have hcheck := run_checkIntegrity os fuel (w := { w with dev := d }) hpre hlen2 hcalm'
    rw [← hcount] at hcheck
    by_cases hintact : b.intact f = true
    · rw [if_pos hintact] at hcheck
      refine ⟨(some st.pktlen, st.pkt), { w with dev := d }, ?_, ?_⟩
      · exact (Exec.run_bind_of_ok hloop).trans ((Exec.run_bind_of_ok hcheck).trans rfl)
      · rw [hcount]
        exact .read (by rw [hparse, if_pos hintact]) hpre hlen hin hother
    · rw [if_neg hintact] at hcheck
      refine ⟨(none, st.pkt), { w with dev := d, errno := .EMBBADCRC }, ?_,
        .refused ?_ ?_ hin hother⟩
      · exact (Exec.run_bind_of_ok hloop).trans ((Exec.run_bind_of_ok hcheck).trans rfl)
      · rw [hparse, if_neg hintact]
      · rw [hnext]
        rintro g ⟨⟩
        exact hpre

end Feeds

end Libtta
