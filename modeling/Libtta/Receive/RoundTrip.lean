import Libtta.Receive.OneShot

/-!
# Messages sent over a stream are received

`convTtamsgs` builds the frames of a list of messages on one context, and `ttaReceives` calls
`tta_receive` again and again. On a stream that starts with the concatenated frames, the calls
deliver exactly the messages, in order and each once, in fragments of any size and in every error
recovery mode (`run_ttaReceives_frames`).
-/

namespace Libtta

variable {σ τ ρ : Type}

/-! ## Many messages -/

/-- Build the frames of the messages one after the other, each in a copy of the buffer `buf`. -/
def convTtamsgs (buf : Bytes) : List Ttamsg → Machine σ Bytes
  | [] => return []
  | m :: ms => do
    let (pkt, pktlen) ← convTtamsg2pkt m buf
    return pkt.take pktlen ++ (← convTtamsgs buf ms)

/-- Call `tta_receive` as often as asked for. -/
def ttaReceives (os : Os σ) (fuel : ℕ) (fgtm : Bool) : ℕ → Machine σ (List (Option (ℕ × Ttamsg)))
  | 0 => return []
  | k + 1 => do
    let r ← ttaReceive os fuel fgtm
    return r :: (← ttaReceives os fuel fgtm k)

/-- The frames that an encoder builds for the messages, in order. -/
def Backend.frames : Backend → List Ttamsg → List Bytes
  | _, [] => []
  | be, m :: ms => be.frame m :: be.stepped.frames ms

/-- The transaction id that the frame with number `k` carries. -/
def Backend.tidAt (be : Backend) (k : ℕ) : ℕ :=
  match be with
  | tcp d => (d.tid.toNat + k + 1) % 65536
  | rs485 _ => 0
  | rf _ => 0

/-- The first transaction id. -/
theorem Backend.tidAt_zero (be : Backend) : be.tidAt 0 = be.nextTid := by
  cases be with
  | tcp d => exact (toNat_nextTid d.tid).symm
  | rs485 d => rfl
  | rf d => rfl

/-- The transaction ids are successive. -/
theorem Backend.tidAt_stepped (be : Backend) (k : ℕ) : be.stepped.tidAt k = be.tidAt (k + 1) := by
  cases be with
  | tcp d =>
    change ((Libtta.nextTid d.tid).toNat + k + 1) % 65536 = (d.tid.toNat + (k + 1) + 1) % 65536
    rw [toNat_nextTid]
    omega
  | rs485 d => rfl
  | rf d => rfl

/-- The encoder builds the frames of the messages when each has room in the buffer. -/
theorem run_convTtamsgs (buf : Bytes) (ms : List Ttamsg) (w : World σ)
    (hroom : ∀ m ∈ ms, m.frameLength w.ctx.type ≤ buf.length) :
    ∃ w', (convTtamsgs buf ms).run w = .ok ((w.ctx.backend.frames ms).flatten, w') := by
  induction ms generalizing w with
  | nil => exact ⟨w, rfl⟩
  | cons m ms ih =>
    obtain ⟨pkt, hconv, hpre, hlen⟩ := run_convTtamsg2pkt m w (hroom m List.mem_cons_self)
    obtain ⟨w', hrun⟩ := ih { w with ctx := w.ctx.stepped } fun m' hm' =>
      w.ctx.type_stepped ▸ hroom m' (List.mem_cons_of_mem m hm')
    have htake : pkt.take (m.frameLength w.ctx.type) = w.ctx.backend.frame m :=
      Backend.take_of_frame_prefix hpre
    refine ⟨w', ?_⟩
    unfold convTtamsgs
    rw [Exec.run_bind_of_ok hconv]
    apply (Exec.run_bind_of_ok hrun).trans
    rw [htake]
    rfl

/-! ## Receiving what has been sent -/

variable {os : Os σ} {input : σ → Bytes} {other : σ → ρ} {fails : Bytes → Errno → Prop}

/-- A frame at the front of a stream that does not fail before its end is received. -/
theorem run_ttaReceive_frame (hos : Feeds os input other fails)
    (hlast : ∀ t e, fails t e → t = []) (fuel : ℕ) (fgtm : Bool) {w : World σ} {be : Backend}
    {m : Ttamsg} {rest : Bytes} (htype : w.ctx.type = be.type) (hrf : w.ctx.type ≠ .rf)
    (hflag : w.ctx.backend.confirmationToIgnore = false)
    (hfit : m.frameLength be.type ≤ be.type.maxAduLength)
    (hin : input w.dev = be.frame m ++ rest) :
    ∃ d, (ttaReceive os fuel fgtm).run w =
        .ok (some (m.frameLength be.type, { m with tid := be.nextTid }), { w with dev := d }) ∧
      input d = rest ∧ other d = other w.dev := by
  have hnext : be.type.framing.next (be.frame m ++ rest) = .frame (be.frame m) :=
    Framing.next_append (isFrame_frame be m hfit) rest
  have hparsed := parse_frame be hfit rest
  have hcalm : Calm w.ctx fails (input w.dev) := by
    rw [hin]
    exact .of_frame htype hlast hfit rest
  obtain ⟨r, w', hrun, hend⟩ := run_ttaReceive hos fuel fgtm hrf hflag hcalm
  rw [htype, hin] at hend
  cases hend with
  | refused hparse =>
    rw [hparsed] at hparse
    cases hparse
  | failed hfail hend =>
    rw [hend (hlast _ _ hfail)] at hnext
    cases hnext
  | delivered hparse hdecode hin hother =>
    rw [hparsed, Prod.mk.injEq, Except.ok.injEq] at hparse
    obtain ⟨rfl, rfl⟩ := hparse
    rw [decode_frame, Option.some.injEq] at hdecode
    rw [be.length_frame, ← hdecode] at hrun
    exact ⟨_, hrun, hin, hother⟩

/-- The messages whose frames are at the front of the stream are received, in order and each once;
what follows the frames is left. -/
theorem run_ttaReceives_frames (hos : Feeds os input other fails)
    (hlast : ∀ t e, fails t e → t = []) (fuel : ℕ) (fgtm : Bool) {w : World σ} (be : Backend)
    {ms : List Ttamsg} {rest : Bytes} (htype : w.ctx.type = be.type) (hrf : w.ctx.type ≠ .rf)
    (hflag : w.ctx.backend.confirmationToIgnore = false)
    (hfit : ∀ m ∈ ms, m.frameLength be.type ≤ be.type.maxAduLength)
    (hin : input w.dev = (be.frames ms).flatten ++ rest) :
    ∃ d, (ttaReceives os fuel fgtm ms.length).run w =
        .ok (ms.mapIdx fun k m => some (m.frameLength be.type, { m with tid := be.tidAt k }),
          { w with dev := d }) ∧
      input d = rest := by
  induction ms generalizing w be with
  | nil => exact ⟨w.dev, rfl, hin⟩
  | cons m ms ih =>
    rw [Backend.frames, List.flatten_cons, List.append_assoc] at hin
    obtain ⟨d, hrun, hd, -⟩ := run_ttaReceive_frame hos hlast fuel fgtm htype hrf hflag
      (hfit m List.mem_cons_self) hin
    have hfit' : ∀ m' ∈ ms, m'.frameLength be.stepped.type ≤ be.stepped.type.maxAduLength := by
      rw [be.type_stepped]
      exact fun m' hm' => hfit m' (List.mem_cons_of_mem m hm')
    obtain ⟨d', hruns, hd'⟩ := ih (w := { w with dev := d }) be.stepped
      (htype.trans be.type_stepped.symm) hrf hflag hfit' hd
    refine ⟨d', ?_, hd'⟩
    rw [List.length_cons, ttaReceives, Exec.run_bind_of_ok hrun]
    apply (Exec.run_bind_of_ok hruns).trans
    simp only [List.mapIdx_cons, be.tidAt_zero, be.tidAt_stepped, be.type_stepped]
    rfl

/-- Stream round trip, for RS485 and TCP: the concatenated frames of any list of messages that fit
the limit of the backend, built on one context in buffers of 260 bytes, are received as exactly
these messages, in order and each once, with the lengths of their frames and, for TCP, with the
successive transaction ids of the sender; nothing is left of the stream. The fragments are
arbitrary, and so is the error recovery mode. -/
theorem round_trip (hos : Feeds os input other never) (fuel : ℕ) (fgtm : Bool) (buf : Bytes)
    (ms : List Ttamsg) {n : ℕ} (sender : World τ) (w : World σ) (hctx : Reachable w.ctx n)
    (htype : w.ctx.type = sender.ctx.type) (hrf : w.ctx.type ≠ .rf)
    (hbuf : buf.length = maxMessageLength)
    (hfit : ∀ m ∈ ms, m.frameLength w.ctx.type ≤ w.ctx.type.maxAduLength) :
    ∃ s sender', (convTtamsgs buf ms).run sender = .ok (s, sender') ∧
      (input w.dev = s →
        ∃ d, (ttaReceives os fuel fgtm ms.length).run w =
            .ok (ms.mapIdx fun k m => some
                (w.ctx.type.headerLength + m.hd.datalen.toNat + w.ctx.type.checksumLength,
                  { m with tid := sender.ctx.backend.tidAt k }),
              { w with dev := d }) ∧
          input d = []) := by
  obtain ⟨sender', hconv⟩ := run_convTtamsgs buf ms sender fun m hm => by
    rw [hbuf, ← htype]
    exact (hfit m hm).trans w.ctx.type.maxAduLength_le
  refine ⟨_, sender', hconv, fun hin => ?_⟩
  obtain ⟨d, hrun, hd⟩ := run_ttaReceives_frames hos (fun _ _ h => h.elim) fuel fgtm
    sender.ctx.backend htype hrf hctx.counts.flag
    (fun m hm => by have := hfit m hm; rwa [htype] at this) (hin.trans (List.append_nil _).symm)
  refine ⟨d, ?_, hd⟩
  rw [hrun, htype]
  rfl

/-- Two messages sent by a fresh TCP context are received two bytes at a time. -/
theorem round_trip_tcp :
    ∃ d, (ttaReceives lineOs 0 false 2).run
        ⟨ttaNewTcp "127.0.0.1" 502, .other 0, List.Vector.replicate 128 0, 0,
          ⟨[0, 1, 0, 0, 1, 0, 16, 1, 0xAA, 0, 2, 0, 0, 1, 0, 17, 0], [], fun _ => 1, 0,
            fun _ => 0⟩⟩ =
      .ok ([some (9, ⟨1, ⟨1, 0, 16, 1⟩, [0xAA], rfl⟩), some (8, ⟨2, ⟨1, 0, 17, 0⟩, [], rfl⟩)],
        ⟨ttaNewTcp "127.0.0.1" 502, .other 0, List.Vector.replicate 128 0, 0, d⟩) ∧
      d.input = [] := by
  set ms : List Ttamsg :=
    [ttamsgMake 1 0 16 [0xAA] 1 (by decide), ttamsgMake 1 0 17 [] 0 (by decide)]
  set sender : World Unit :=
    ⟨ttaNewTcp "127.0.0.1" 502, .other 0, List.Vector.replicate 128 0, 0, ()⟩
  obtain ⟨s, sender', hconv, hreceive⟩ := round_trip feeds_lineOs 0 false (List.replicate 260 0) ms
    sender ⟨ttaNewTcp "127.0.0.1" 502, .other 0, List.Vector.replicate 128 0, 0,
      ⟨[0, 1, 0, 0, 1, 0, 16, 1, 0xAA, 0, 2, 0, 0, 1, 0, 17, 0], [], fun _ => 1, 0, fun _ => 0⟩⟩
    (.newTcp _ _) rfl (by decide) List.length_replicate (by decide)
  obtain ⟨_, hframes⟩ := run_convTtamsgs (List.replicate 260 0) ms sender
    (by rw [List.length_replicate]; decide)
  rw [hframes] at hconv
  cases hconv
  exact hreceive (by decide)

end Libtta
