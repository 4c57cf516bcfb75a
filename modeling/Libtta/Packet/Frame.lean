import Libtta.Model.Codec
import Libtta.Library.Framing

/-!
# The frames of the three backends

`Backend.frame` is the frame that carries a message, as a list of bytes: header, payload and, for
RS485 and RF, the two checksums. The encoders put exactly this frame at the front of the packet
buffer when the buffer has room for it, and otherwise write past its end
(`run_convTtamsg2pkt`, `run_convTtamsg2pkt_overrun`); the decoders read the message back
(`run_convPkt2ttamsg`). `BackendType.framing` describes the streams of such frames.
-/

namespace Libtta

variable {σ : Type}

/-! ## Checksums -/

/-- A packet body followed by its two checksums. -/
def withSums (body : Bytes) : Bytes :=
  body ++ [sumXor body] ++ [sumAdd (body ++ [sumXor body])]

@[simp] theorem length_withSums (body : Bytes) : (withSums body).length = body.length + 2 := by
  simp [withSums]

/-- A body is followed by checksums that match it. -/
theorem sumsMatch_withSums (body : Bytes) : sumsMatch (withSums body) = true := by
  have htake : (withSums body).take (body.length + 2 - 2) = body := by
    rw [withSums, List.append_assoc, Nat.add_sub_cancel, List.take_left]
  have htake' : (withSums body).take (body.length + 2 - 1) = body ++ [sumXor body] := by
    rw [withSums, List.take_left' (by simp)]
  rw [sumsMatch, length_withSums, htake, htake']
  simp [withSums]

/-- A packet of at least two bytes whose checksums match is a body followed by its checksums. -/
theorem eq_withSums_of_sumsMatch {p : Bytes} (hlen : 2 ≤ p.length) (h : sumsMatch p = true) :
    p = withSums (p.take (p.length - 2)) := by
  rw [sumsMatch, Bool.and_eq_true, beq_iff_eq, beq_iff_eq] at h
  obtain ⟨hxor, hadd⟩ := h
  have hlast : p.length - 1 = p.length - 2 + 1 := by omega
  have hbody : p.take (p.length - 1) =
      p.take (p.length - 2) ++ [sumXor (p.take (p.length - 2))] := by
    rw [hlast, List.take_add_one, hxor]
    rfl
  calc p = p.take (p.length - 1 + 1) := by rw [List.take_of_length_le (by omega)]
    _ = p.take (p.length - 1) ++ [sumAdd (p.take (p.length - 1))] := by
        rw [List.take_add_one, hadd]
        rfl
    _ = withSums (p.take (p.length - 2)) := by rw [withSums, hbody]

/-! ## Frames -/

/-- The two bytes of a transaction id, the high one first. -/
def tidBytes (tid : UInt16) : Bytes := [(tid >>> 8).toUInt8, (tid &&& 0x00ff).toUInt8]

/-- The header of a message, as bytes. -/
def TtamsgHd.bytes (hd : TtamsgHd) : Bytes := [hd.devid, hd.subid, hd.cmd, hd.datalen]

/-- What a backend puts before the message header. -/
def Backend.preheader : Backend → Bytes
  | tcp d => tidBytes (nextTid d.tid) ++ [0, 0]
  | rs485 _ => [stx]
  | rf d => d.id

/-- What a backend puts behind the payload, as part of the whole frame. -/
def BackendType.close : BackendType → Bytes → Bytes
  | tcp, body => body
  | rs485, body => withSums body
  | rf, body => withSums body

/-- The frame that the next call of the encoder builds for a message. -/
def Backend.frame (be : Backend) (m : Ttamsg) : Bytes :=
  be.type.close (be.preheader ++ m.hd.bytes ++ m.data)

/-- The backend data after a frame has been built. -/
def Backend.stepped : Backend → Backend
  | tcp d => .tcp { d with tid := nextTid d.tid }
  | rs485 d => .rs485 d
  | rf d => .rf d

/-- The context after a frame has been built. -/
def Tta.stepped (ctx : Tta) : Tta := { ctx with backend := ctx.backend.stepped }

/-- An RS485 context does not change when a frame is built. -/
theorem Tta.stepped_of_rs485 {ctx : Tta} (h : ctx.type = .rs485) : ctx.stepped = ctx := by
  obtain ⟨d, hd⟩ := exists_rs485 h
  rw [stepped, hd, Backend.stepped, ← hd]

@[simp] theorem Backend.type_stepped (be : Backend) : be.stepped.type = be.type := by
  cases be <;> rfl

@[simp] theorem Tta.type_stepped (ctx : Tta) : ctx.stepped.type = ctx.type :=
  ctx.backend.type_stepped

@[simp] theorem TtamsgHd.length_bytes (hd : TtamsgHd) : hd.bytes.length = 4 := rfl

@[simp] theorem Backend.length_preheader (be : Backend) :
    be.preheader.length = be.type.preheaderLength := by
  cases be <;> rfl

@[simp] theorem BackendType.length_close (b : BackendType) (body : Bytes) :
    (b.close body).length = body.length + b.checksumLength := by
  cases b <;> simp [BackendType.close, BackendType.checksumLength]

/-- Closing a frame adds to its end only. -/
theorem BackendType.prefix_close (b : BackendType) (body : Bytes) : body <+: b.close body := by
  cases b with
  | tcp => exact List.prefix_rfl
  | rs485 =>
    rw [close, withSums, List.append_assoc]
    exact List.prefix_append _ _
  | rf =>
    rw [close, withSums, List.append_assoc]
    exact List.prefix_append _ _

/-- A frame has the length the encoder returns. -/
@[simp] theorem Backend.length_frame (be : Backend) (m : Ttamsg) :
    (be.frame m).length = m.frameLength be.type := by
  have := be.type.preheaderLength_add
  simp only [frame, BackendType.length_close, List.length_append, length_preheader,
    TtamsgHd.length_bytes, m.length_data, Ttamsg.frameLength, BackendType.frameLength]
  omega

/-- The encoder's length cuts the frame out of the buffer it is at the front of. -/
theorem Backend.take_of_frame_prefix {be : Backend} {m : Ttamsg} {pkt : Bytes}
    (h : be.frame m <+: pkt) : pkt.take (m.frameLength be.type) = be.frame m := by
  rw [← be.length_frame m]
  exact (List.prefix_iff_eq_take.mp h).symm

/-- A frame has at least four bytes in front of its payload. -/
theorem Backend.four_le_length_frame (be : Backend) {m : Ttamsg} : 4 ≤ (be.frame m).length := by
  rw [length_frame, Ttamsg.frameLength, BackendType.frameLength, ← BackendType.preheaderLength_add]
  omega

/-! ## Encoding -/

/-- A store into a packet buffer behind its filled part. -/
theorem run_storePkt {pkt bs : Bytes} (vs : Bytes) (h : bs <+: pkt)
    (hroom : bs.length + vs.length ≤ pkt.length) (w : World σ) :
    ∃ pkt', (storePkt pkt bs.length vs).run w = .ok (pkt', w) ∧ bs ++ vs <+: pkt' ∧
      pkt'.length = pkt.length := by
  obtain ⟨pkt', hstore, hpre, hlen⟩ := Buffer.exists_store_of_prefix h hroom
  exact ⟨pkt', by rw [storePkt, hstore]; rfl, hpre, hlen⟩

/-- A store that leaves a packet buffer stops the run. -/
theorem run_storePkt_overrun {pkt : Bytes} (vs : Bytes) {i : ℕ} (h : pkt.length < i + vs.length)
    (w : World σ) : (storePkt pkt i vs).run w = .error (.store .pkt) := by
  rw [storePkt, Buffer.store_eq_none_iff.mpr h]
  rfl

/-- The payload and the checksums are put behind the header when there is room for them. -/
theorem run_storePayloadSums {pkt hd : Bytes} (data : Bytes) (h : hd <+: pkt)
    (hroom : hd.length + data.length + 2 ≤ pkt.length) (w : World σ) :
    ∃ pkt', (storePayloadSums pkt hd.length data).run w = .ok (pkt', w) ∧
      withSums (hd ++ data) <+: pkt' ∧ pkt'.length = pkt.length := by
  obtain ⟨pkt₁, hrun₁, hpre₁, hlen₁⟩ := run_storePkt data h (by omega) w
  have hbody : pkt₁.take (hd.length + data.length) = hd ++ data := by
    rw [← List.length_append]
    exact (List.prefix_iff_eq_take.mp hpre₁).symm
  obtain ⟨pkt₂, hrun₂, hpre₂, hlen₂⟩ := run_storePkt [sumXor (hd ++ data)] hpre₁
    (by simp only [List.length_append, List.length_singleton]; omega) w
  have hbody' : pkt₂.take (hd.length + data.length + 1) =
      hd ++ data ++ [sumXor (hd ++ data)] := by
    have hlen : (hd ++ data ++ [sumXor (hd ++ data)]).length = hd.length + data.length + 1 := by
      simp only [List.length_append, List.length_singleton]
    rw [← hlen]
    exact (List.prefix_iff_eq_take.mp hpre₂).symm
  obtain ⟨pkt₃, hrun₃, hpre₃, hlen₃⟩ := run_storePkt
    [sumAdd (hd ++ data ++ [sumXor (hd ++ data)])] hpre₂
    (by simp only [List.length_append, List.length_singleton]; omega) w
  refine ⟨pkt₃, ?_, hpre₃, by omega⟩
  rw [List.length_append] at hrun₂
  rw [List.length_append, List.length_append, List.length_singleton] at hrun₃
  unfold storePayloadSums
  rw [Exec.run_bind_of_ok hrun₁, hbody, Exec.run_bind_of_ok hrun₂, hbody',
    hrun₃]

/-- Without room for the payload and the checksums the packet buffer is overrun. -/
theorem run_storePayloadSums_overrun {pkt hd data : Bytes} (h : hd <+: pkt)
    (hroom : pkt.length < hd.length + data.length + 2) (w : World σ) :
    (storePayloadSums pkt hd.length data).run w = .error (.store .pkt) := by
  by_cases h₁ : pkt.length < hd.length + data.length
  · exact Exec.run_bind_of_error (run_storePkt_overrun _ h₁ w)
  obtain ⟨pkt₁, hrun₁, hpre₁, hlen₁⟩ := run_storePkt data h (by omega) w
  unfold storePayloadSums
  rw [Exec.run_bind_of_ok hrun₁]
  by_cases h₂ : pkt.length < hd.length + data.length + 1
  · exact Exec.run_bind_of_error (run_storePkt_overrun _ (by rw [hlen₁]; simpa using h₂) w)
  obtain ⟨pkt₂, hrun₂, hpre₂, hlen₂⟩ := run_storePkt
    [sumXor (pkt₁.take (hd.length + data.length))] hpre₁
    (by simp only [List.length_append, List.length_singleton]; omega) w
  rw [List.length_append] at hrun₂
  rw [Exec.run_bind_of_ok hrun₂]
  exact run_storePkt_overrun _ (by rw [hlen₂, hlen₁, List.length_singleton]; omega) w

/-- The first bytes of a packet buffer are written. -/
theorem run_storePkt_zero {pkt : Bytes} (hd : Bytes) (hroom : hd.length ≤ pkt.length)
    (w : World σ) :
    ∃ pkt', (storePkt pkt 0 hd).run w = .ok (pkt', w) ∧ hd <+: pkt' ∧
      pkt'.length = pkt.length := by
  simpa using run_storePkt hd (List.nil_prefix (l := pkt)) (by simpa using hroom) w

/-- The layout that the RS485 and the RF encoder share: a header, the payload and the checksums. -/
private theorem run_storeSealed {pkt : Bytes} (hd : Bytes) {data : Bytes} {n : ℕ} (w : World σ)
    (hroom : hd.length + data.length + 2 ≤ pkt.length) :
    ∃ pkt', ((do
        let pkt ← storePkt pkt 0 hd
        let pkt ← storePayloadSums pkt hd.length data
        return (pkt, n)) : Machine σ (Bytes × ℕ)).run w = .ok ((pkt', n), w) ∧
      withSums (hd ++ data) <+: pkt' ∧ pkt'.length = pkt.length := by
  have hhd : hd.length ≤ pkt.length := by omega
  obtain ⟨pkt₁, hrun₁, hpre₁, hlen₁⟩ := run_storePkt_zero hd hhd w
  obtain ⟨pkt₂, hrun₂, hpre₂, hlen₂⟩ := run_storePayloadSums data hpre₁ (by omega) w
  refine ⟨pkt₂, ?_, hpre₂, by omega⟩
  rw [Exec.run_bind_of_ok hrun₁, Exec.run_bind_of_ok hrun₂]
  rfl

/-- An encoder puts the frame of the message at the front of a buffer that has room for it. -/
theorem run_convTtamsg2pkt (m : Ttamsg) {pkt : Bytes} (w : World σ)
    (hroom : m.frameLength w.ctx.type ≤ pkt.length) :
    ∃ pkt', (convTtamsg2pkt m pkt).run w =
        .ok ((pkt', m.frameLength w.ctx.type), { w with ctx := w.ctx.stepped }) ∧
      w.ctx.backend.frame m <+: pkt' ∧ pkt'.length = pkt.length := by
  have hdata := m.length_data
  obtain ⟨⟨s, rec, rt, bt, be, old⟩, errno, rxfifo, pos, dev⟩ := w
  cases be with
  | tcp d =>
    change 8 + m.hd.datalen.toNat + 0 ≤ pkt.length at hroom
    set w' : World σ := ⟨⟨s, rec, rt, bt, (Backend.tcp d).stepped, old⟩, errno, rxfifo, pos, dev⟩
    obtain ⟨pkt₁, hrun₁, hpre₁, hlen₁⟩ := run_storePkt_zero
      ((Backend.tcp d).preheader ++ m.hd.bytes)
      (show 8 ≤ pkt.length by omega) w'
    obtain ⟨pkt₂, hrun₂, hpre₂, hlen₂⟩ := run_storePkt m.data hpre₁
      (by change 8 + _ ≤ _; omega) w'
    refine ⟨pkt₂, ?_, hpre₂, by omega⟩
    change (ttaTcpConvTtamsg2pkt d m pkt).run _ = _
    unfold ttaTcpConvTtamsg2pkt
    rw [Exec.run_bind_of_ok (run_modifyCtx _ _)]
    apply (Exec.run_bind_of_ok hrun₁).trans
    apply (Exec.run_bind_of_ok hrun₂).trans
    rfl
  | rs485 d =>
    exact run_storeSealed ((Backend.rs485 d).preheader ++ m.hd.bytes) _
      (by change 5 + _ + 2 ≤ _; change 5 + m.hd.datalen.toNat + 2 ≤ pkt.length at hroom; omega)
  | rf d =>
    exact run_storeSealed ((Backend.rf d).preheader ++ m.hd.bytes) _
      (by change 8 + _ + 2 ≤ _; change 8 + m.hd.datalen.toNat + 2 ≤ pkt.length at hroom; omega)

/-- Without room for a header, the payload and the checksums the buffer is overrun. -/
private theorem run_storeSealed_overrun {pkt : Bytes} (hd : Bytes) {data : Bytes} {n : ℕ}
    (w : World σ)
    (hroom : pkt.length < hd.length + data.length + 2) :
    ((do
        let pkt ← storePkt pkt 0 hd
        let pkt ← storePayloadSums pkt hd.length data
        return (pkt, n)) : Machine σ (Bytes × ℕ)).run w = .error (.store .pkt) := by
  by_cases hhd : hd.length ≤ pkt.length
  · obtain ⟨pkt₁, hrun₁, hpre₁, hlen₁⟩ := run_storePkt_zero hd hhd w
    rw [Exec.run_bind_of_ok hrun₁]
    exact Exec.run_bind_of_error (run_storePayloadSums_overrun hpre₁ (by omega) w)
  · exact Exec.run_bind_of_error (run_storePkt_overrun _ (by omega) w)

/-- Without room for the frame an encoder writes past the end of the buffer. -/
theorem run_convTtamsg2pkt_overrun (m : Ttamsg) {pkt : Bytes} (w : World σ)
    (hroom : pkt.length < m.frameLength w.ctx.type) :
    (convTtamsg2pkt m pkt).run w = .error (.store .pkt) := by
  have hdata := m.length_data
  obtain ⟨⟨s, rec, rt, bt, be, old⟩, errno, rxfifo, pos, dev⟩ := w
  cases be with
  | tcp d =>
    change pkt.length < 8 + m.hd.datalen.toNat + 0 at hroom
    set w' : World σ := ⟨⟨s, rec, rt, bt, (Backend.tcp d).stepped, old⟩, errno, rxfifo, pos, dev⟩
    change (ttaTcpConvTtamsg2pkt d m pkt).run _ = _
    unfold ttaTcpConvTtamsg2pkt
    rw [Exec.run_bind_of_ok (run_modifyCtx _ _)]
    by_cases hhd : 8 ≤ pkt.length
    · obtain ⟨pkt₁, hrun₁, hpre₁, hlen₁⟩ := run_storePkt_zero
        ((Backend.tcp d).preheader ++ m.hd.bytes) hhd w'
      refine (Exec.run_bind_of_ok hrun₁).trans (Exec.run_bind_of_error ?_)
      exact run_storePkt_overrun _ (by change _ < 8 + _; omega) w'
    · exact Exec.run_bind_of_error
        (run_storePkt_overrun ((Backend.tcp d).preheader ++ m.hd.bytes)
          (by change _ < 0 + 8; omega) w')
  | rs485 d =>
    exact run_storeSealed_overrun ((Backend.rs485 d).preheader ++ m.hd.bytes) _
      (by change _ < 5 + _ + 2; change _ < 5 + m.hd.datalen.toNat + 2 at hroom; omega)
  | rf d =>
    exact run_storeSealed_overrun ((Backend.rf d).preheader ++ m.hd.bytes) _
      (by change _ < 8 + _ + 2; change _ < 8 + m.hd.datalen.toNat + 2 at hroom; omega)

/-- An encoder that returns has had room for the frame. -/
theorem run_convTtamsg2pkt_eq_ok {m : Ttamsg} {pkt : Bytes} {w w' : World σ} {r : Bytes × ℕ}
    (h : (convTtamsg2pkt m pkt).run w = .ok (r, w')) :
    m.frameLength w.ctx.type ≤ pkt.length ∧ w' = { w with ctx := w.ctx.stepped } ∧
      w.ctx.backend.frame m <+: r.1 ∧ r.2 = m.frameLength w.ctx.type ∧
      r.1.length = pkt.length := by
  by_cases hroom : m.frameLength w.ctx.type ≤ pkt.length
  · obtain ⟨pkt', hrun, hpre, hlen⟩ := run_convTtamsg2pkt m w hroom
    rw [hrun] at h
    cases h
    exact ⟨hroom, rfl, hpre, rfl, hlen⟩
  · rw [run_convTtamsg2pkt_overrun m w (not_le.mp hroom)] at h
    cases h

/-! ## Decoding -/

/-- A byte of the filled part of a packet buffer is read back. -/
theorem run_loadByte {pkt bs : Bytes} (h : bs <+: pkt) {i : ℕ} {b : UInt8} (hi : bs[i]? = some b)
    (w : World σ) : (loadByte pkt i).run w = .ok (b, w) := by
  obtain ⟨rest, rfl⟩ := h
  rw [loadByte, List.getElem?_append_left (List.getElem?_eq_some_iff.mp hi).1, hi]
  rfl

/-- A block of the filled part of a packet buffer is read back. -/
theorem run_loadPkt {pkt bs : Bytes} (h : bs <+: pkt) {i n : ℕ} (hin : i + n ≤ bs.length)
    (w : World σ) : (loadPkt pkt i n).run w = .ok ((bs.drop i).take n, w) := by
  rw [loadPkt, Buffer.load_of_prefix h hin]
  rfl

/-- The bytes of a message, read as a message. -/
theorem overlay_bytes (m : Ttamsg) (tid : ℕ) :
    Ttamsg.overlay tid (m.hd.bytes ++ m.data) = some { m with tid := tid } :=
  dif_pos m.length_data

/-- A block that is read as a message consists of the bytes of the message. -/
theorem eq_bytes_of_overlay {tid : ℕ} {buf : Bytes} {m : Ttamsg}
    (h : Ttamsg.overlay tid buf = some m) : buf = m.hd.bytes ++ m.data ∧ m.tid = tid := by
  unfold Ttamsg.overlay at h
  split at h
  · split at h
    · cases h
      exact ⟨rfl, rfl⟩
    · cases h
  · cases h

/-- A decoder finds the message behind what the backend puts before it. -/
theorem run_copyTtamsg {pre pkt : Bytes} {m : Ttamsg} (h : pre ++ m.hd.bytes ++ m.data <+: pkt)
    (tid : ℕ) (w : World σ) :
    (copyTtamsg pre.length tid pkt).run w = .ok ({ m with tid := tid }, w) := by
  have hdatalen : (pre ++ m.hd.bytes ++ m.data)[pre.length + 3]? = some m.hd.datalen := by
    rw [List.append_assoc, List.getElem?_append_right (by omega), Nat.add_sub_cancel_left]
    rfl
  have hblock : ((pre ++ m.hd.bytes ++ m.data).drop pre.length).take (4 + m.hd.datalen.toNat) =
      m.hd.bytes ++ m.data := by
    rw [List.append_assoc, List.drop_left, ← m.length_data]
    exact List.take_of_length_le (by simp)
  have hin : pre.length + (4 + m.hd.datalen.toNat) ≤ (pre ++ m.hd.bytes ++ m.data).length := by
    simp only [List.length_append, TtamsgHd.length_bytes, m.length_data]
    omega
  unfold copyTtamsg
  rw [Exec.run_bind_of_ok (run_loadByte h hdatalen w),
    Exec.run_bind_of_ok (run_loadPkt h hin w), hblock, overlay_bytes]
  rfl

/-- The transaction id in a packet: the first two bytes of a TCP packet, in network order. -/
def BackendType.tidOf : BackendType → Bytes → ℕ
  | tcp, hi :: lo :: _ => hi.toNat * 256 + lo.toNat
  | _, _ => 0

/-- A decoder reads the message that stands behind the part before the message header. -/
theorem run_convPkt2ttamsg {pre pkt : Bytes} {m : Ttamsg}
    (h : pre ++ m.hd.bytes ++ m.data <+: pkt) (w : World σ)
    (hpre : pre.length = w.ctx.type.preheaderLength) :
    (convPkt2ttamsg pkt).run w = .ok ({ m with tid := w.ctx.type.tidOf pre }, w) := by
  obtain ⟨⟨s, rec, rt, bt, be, old⟩, errno, rxfifo, pos, dev⟩ := w
  cases be with
  | tcp d =>
    obtain ⟨hi, lo, p2, p3, rfl⟩ : ∃ hi lo p2 p3, pre = [hi, lo, p2, p3] := by
      match pre, hpre with
      | [hi, lo, p2, p3], _ => exact ⟨hi, lo, p2, p3, rfl⟩
    change (ttaTcpConvPkt2ttamsg pkt).run _ = _
    unfold ttaTcpConvPkt2ttamsg
    rw [Exec.run_bind_of_ok (run_loadByte h rfl _),
      Exec.run_bind_of_ok (run_loadByte h rfl _)]
    exact run_copyTtamsg h _ _
  | rs485 d =>
    change (copyTtamsg BackendType.rs485.preheaderLength 0 pkt).run _ = _
    rw [← show pre.length = BackendType.rs485.preheaderLength from hpre]
    exact run_copyTtamsg h 0 _
  | rf d =>
    change (copyTtamsg BackendType.rf.preheaderLength 0 pkt).run _ = _
    rw [← show pre.length = BackendType.rf.preheaderLength from hpre]
    exact run_copyTtamsg h 0 _

/-! ## Streams of frames -/

/-- The streams of a backend's frames: the last byte of the header counts the payload. -/
def BackendType.framing (b : BackendType) : Framing UInt8 where
  hdlen := b.headerLength
  bodyLen hd := (hd.getD (b.headerLength - 1) 0).toNat + b.checksumLength
  limit := b.maxAduLength
  hdlen_pos := by cases b <;> decide
  hdlen_le := by cases b <;> decide

@[simp] theorem BackendType.hdlen_framing (b : BackendType) :
    b.framing.hdlen = b.headerLength := rfl

@[simp] theorem BackendType.limit_framing (b : BackendType) :
    b.framing.limit = b.maxAduLength := rfl

/-- A frame of a stream has at least four bytes in front of its payload. -/
theorem four_le_length_of_isFrame {b : BackendType} {f : Bytes} (hf : b.framing.IsFrame f) :
    4 ≤ f.length := by
  have hhd := hf.hdlen_le
  rw [BackendType.hdlen_framing, ← b.preheaderLength_add] at hhd
  omega

/-- The header of the stream, once it has been read, announces the length of the frame. -/
theorem total_of_header {b : BackendType} {s got todo : Bytes} (hsplit : got ++ todo = s)
    (hlen : got.length = b.headerLength) :
    ∃ datalen, got[b.headerLength - 1]? = some datalen ∧
      b.framing.total s = b.headerLength + (datalen.toNat + b.checksumLength) := by
  have hpos : 0 < b.headerLength := b.framing.hdlen_pos
  have hlt : b.headerLength - 1 < got.length := by omega
  refine ⟨got[b.headerLength - 1], List.getElem?_eq_getElem hlt, ?_⟩
  have htake : s.take b.headerLength = got := by
    rw [← hsplit, ← hlen, List.take_left]
  rw [Framing.total, BackendType.hdlen_framing, htake]
  change b.headerLength + ((got.getD (b.headerLength - 1) 0).toNat + b.checksumLength) = _
  rw [List.getD_eq_getElem _ _ hlt]

/-- `check_integrity`, as a test of a packet. -/
def BackendType.intact : BackendType → Bytes → Bool
  | tcp, _ => true
  | rs485, p => sumsMatch p
  | rf, p => sumsMatch p

/-- The header of a packet announces the length of the layout around its message. -/
theorem total_layout {b : BackendType} {pre : Bytes} (hd : TtamsgHd)
    (hpre : pre.length = b.preheaderLength) (tail : Bytes) :
    b.framing.total (pre ++ hd.bytes ++ tail) = b.frameLength hd.datalen.toNat := by
  have hhd : (pre ++ hd.bytes).length = b.headerLength := by
    rw [List.length_append, hpre, TtamsgHd.length_bytes, b.preheaderLength_add]
  obtain ⟨datalen, hdatalen, htotal⟩ := total_of_header
    (rfl : pre ++ hd.bytes ++ tail = _) hhd
  have hlast : b.headerLength - 1 = pre.length + 3 := by
    rw [← b.preheaderLength_add, hpre]
    omega
  rw [hlast, List.getElem?_append_right (by omega), Nat.add_sub_cancel_left] at hdatalen
  obtain rfl : hd.datalen = datalen := Option.some.inj hdatalen
  rw [htotal, BackendType.frameLength]
  omega

/-- A layout within the limit of its backend is a frame of the backend's streams. -/
theorem isFrame_layout {b : BackendType} {pre sums : Bytes} (m : Ttamsg)
    (hpre : pre.length = b.preheaderLength) (hsums : sums.length = b.checksumLength)
    (hfit : m.frameLength b ≤ b.maxAduLength) :
    b.framing.IsFrame (pre ++ m.hd.bytes ++ m.data ++ sums) := by
  have hlen : (pre ++ m.hd.bytes ++ m.data ++ sums).length = m.frameLength b := by
    rw [Ttamsg.frameLength, BackendType.frameLength, ← b.preheaderLength_add]
    simp only [List.length_append, hpre, hsums, m.length_data, TtamsgHd.length_bytes]
  refine ⟨?_, ?_, hlen.trans_le hfit⟩
  · rw [hlen, Ttamsg.frameLength, BackendType.frameLength, BackendType.hdlen_framing]
    omega
  · rw [hlen, List.append_assoc _ m.data, total_layout m.hd hpre, Ttamsg.frameLength]

/-- A frame is laid out around its message. -/
theorem frame_eq_layout (be : Backend) (m : Ttamsg) :
    ∃ sums, be.frame m = be.preheader ++ m.hd.bytes ++ m.data ++ sums ∧
      sums.length = be.type.checksumLength := by
  obtain ⟨sums, hsums⟩ := be.type.prefix_close (be.preheader ++ m.hd.bytes ++ m.data)
  refine ⟨sums, hsums.symm, ?_⟩
  have hlen := congrArg List.length hsums
  rw [BackendType.length_close, List.length_append] at hlen
  omega

/-- A frame within the limit of its backend is a frame of the backend's streams. -/
theorem isFrame_frame (be : Backend) (m : Ttamsg)
    (hfit : m.frameLength be.type ≤ be.type.maxAduLength) :
    be.type.framing.IsFrame (be.frame m) := by
  obtain ⟨sums, heq, hsums⟩ := frame_eq_layout be m
  rw [heq]
  exact isFrame_layout m be.length_preheader hsums hfit

/-- A frame beyond the limit of its backend announces too much. -/
theorem next_frame_of_limit_lt (be : Backend) (m : Ttamsg)
    (hlong : be.type.maxAduLength < m.frameLength be.type) :
    be.type.framing.next (be.frame m) = .long := by
  obtain ⟨sums, heq, -⟩ := frame_eq_layout be m
  have htotal : be.type.framing.total (be.frame m) = m.frameLength be.type := by
    rw [heq, List.append_assoc _ m.data, total_layout m.hd be.length_preheader]
    rfl
  apply Framing.next_of_limit_lt
  · rw [be.length_frame, ← htotal]
    exact be.type.framing.hdlen_le_total _
  · rw [htotal]
    exact hlong

/-- The receiver of a frame finds it intact. -/
theorem intact_frame (be : Backend) (m : Ttamsg) : be.type.intact (be.frame m) = true := by
  cases be with
  | tcp d => rfl
  | rs485 d => exact sumsMatch_withSums _
  | rf d => exact sumsMatch_withSums _

/-! ## The message in a frame -/

/-- The message a frame carries: what stands between the part before the message header and the
checksums. -/
def BackendType.decode (b : BackendType) (f : Bytes) : Option Ttamsg :=
  Ttamsg.overlay (b.tidOf f)
    ((f.drop b.preheaderLength).take (f.length - b.preheaderLength - b.checksumLength))

/-- The transaction id stands before the message header. -/
theorem tidOf_append {b : BackendType} {pre : Bytes} (hpre : pre.length = b.preheaderLength)
    (bs : Bytes) : b.tidOf (pre ++ bs) = b.tidOf pre := by
  cases b with
  | rs485 => rfl
  | rf => rfl
  | tcp =>
    match pre, hpre with
    | [hi, lo, p2, p3], _ => rfl

/-- The message in a frame that is laid out around it. -/
theorem decode_layout {b : BackendType} {pre sums : Bytes} (m : Ttamsg)
    (hpre : pre.length = b.preheaderLength) (hsums : sums.length = b.checksumLength) :
    b.decode (pre ++ m.hd.bytes ++ m.data ++ sums) = some { m with tid := b.tidOf pre } := by
  have hlen : (pre ++ m.hd.bytes ++ m.data ++ sums).length - b.preheaderLength -
      b.checksumLength = (m.hd.bytes ++ m.data).length := by
    simp only [List.length_append, hpre, hsums]
    omega
  have htid : b.tidOf (pre ++ m.hd.bytes ++ m.data ++ sums) = b.tidOf pre := by
    rw [List.append_assoc, List.append_assoc, tidOf_append hpre]
  have hdrop : (pre ++ m.hd.bytes ++ m.data ++ sums).drop b.preheaderLength =
      m.hd.bytes ++ m.data ++ sums := by
    rw [List.append_assoc, List.append_assoc, ← hpre, List.drop_left, List.append_assoc]
  rw [BackendType.decode, hlen, htid, hdrop, List.take_left, overlay_bytes]

/-- The transaction id that the next frame of a backend carries. -/
def Backend.nextTid : Backend → ℕ
  | tcp d => (Libtta.nextTid d.tid).toNat
  | rs485 _ => 0
  | rf _ => 0

/-- The transaction id a decoder reads is the one that was sent. -/
theorem tid_of_tidBytes (tid : UInt16) :
    (tid >>> 8).toUInt8.toNat * 256 + (tid &&& 0x00ff).toUInt8.toNat = tid.toNat := by
  have htid := tid.toNat_lt
  have hhi : (tid >>> 8).toUInt8.toNat = tid.toNat / 256 := by
    have hshift : (tid >>> 8).toNat = tid.toNat / 256 := by
      rw [UInt16.toNat_shiftRight, Nat.shiftRight_eq_div_pow]
      rfl
    rw [UInt16.toNat_toUInt8, hshift]
    omega
  have hlo : (tid &&& 0x00ff).toUInt8.toNat = tid.toNat % 256 := by
    rw [UInt16.toNat_toUInt8, UInt16.toNat_and]
    have : (0x00ff : UInt16).toNat = 2 ^ 8 - 1 := rfl
    rw [this, Nat.and_two_pow_sub_one_eq_mod]
    norm_num
  omega

/-- A frame carries the next transaction id. -/
theorem Backend.tidOf_preheader (be : Backend) : be.type.tidOf be.preheader = be.nextTid := by
  cases be with
  | tcp d => exact tid_of_tidBytes _
  | rs485 d => rfl
  | rf d => rfl

/-- The message in the frame that an encoder has built. -/
theorem decode_frame (be : Backend) (m : Ttamsg) :
    be.type.decode (be.frame m) = some { m with tid := be.nextTid } := by
  obtain ⟨sums, heq, hsums⟩ := frame_eq_layout be m
  rw [heq, decode_layout m be.length_preheader hsums, be.tidOf_preheader]

/-- Does a packet hold its header, and the payload bytes that the header announces? -/
def BackendType.Announced (b : BackendType) (p : Bytes) : Prop :=
  b.headerLength ≤ p.length ∧
    b.headerLength + (p.getD (b.headerLength - 1) 0).toNat ≤ p.length

/-- A packet that holds what its header announces is laid out around a message. -/
theorem exists_layout_of_announced {b : BackendType} {p : Bytes} (h : b.Announced p) :
    ∃ (pre : Bytes) (m : Ttamsg) (rest : Bytes), p = pre ++ m.hd.bytes ++ m.data ++ rest ∧
      pre.length = b.preheaderLength := by
  obtain ⟨hhd, hdata⟩ := h
  have hhdlen := b.preheaderLength_add
  obtain ⟨pre, body, rfl, hpre⟩ : ∃ pre body, p = pre ++ body ∧ pre.length = b.preheaderLength :=
    ⟨p.take b.preheaderLength, p.drop b.preheaderLength, (List.take_append_drop _ _).symm,
      by rw [List.length_take]; omega⟩
  rw [List.length_append] at hhd hdata
  obtain ⟨devid, subid, cmd, datalen, body, rfl⟩ : ∃ devid subid cmd datalen rest,
      body = devid :: subid :: cmd :: datalen :: rest := by
    match body, hhd with
    | devid :: subid :: cmd :: datalen :: rest, _ => exact ⟨devid, subid, cmd, datalen, rest, rfl⟩
    | [], h | [_], h | [_, _], h | [_, _, _], h => simp [hpre] at h; omega
  have hlast : (pre ++ devid :: subid :: cmd :: datalen :: body).getD (b.headerLength - 1) 0 =
      datalen := by
    have hindex : b.headerLength - 1 = pre.length + 3 := by omega
    rw [hindex, List.getD_append_right _ _ _ _ (Nat.le_add_right _ _), Nat.add_sub_cancel_left]
    rfl
  rw [hlast] at hdata
  simp only [List.length_cons] at hdata
  have hlen : (body.take datalen.toNat).length = datalen.toNat := by
    rw [List.length_take]
    omega
  refine ⟨pre, ⟨0, ⟨devid, subid, cmd, datalen⟩, body.take datalen.toNat, hlen⟩,
    body.drop datalen.toNat, ?_, hpre⟩
  rw [List.append_assoc, List.take_append_drop, List.append_assoc]
  rfl

/-- A frame holds what its header announces. -/
theorem announced_of_isFrame {b : BackendType} {f : Bytes} (hf : b.framing.IsFrame f) :
    b.Announced f := by
  have hhd : b.headerLength ≤ f.length := hf.hdlen_le
  have hpos : 0 < b.headerLength := b.framing.hdlen_pos
  refine ⟨hhd, ?_⟩
  have hlen := hf.length_eq
  obtain ⟨datalen, hdatalen, htotal⟩ := total_of_header (b := b) (List.take_append_drop _ f)
    (List.length_take_of_le hhd)
  rw [List.getElem?_take_of_lt (by omega)] at hdatalen
  rw [List.getD_eq_getElem?_getD, hdatalen, Option.getD_some]
  omega

/-- Every frame is laid out around a message. -/
theorem exists_layout {b : BackendType} {f : Bytes} (hf : b.framing.IsFrame f) :
    ∃ (pre : Bytes) (m : Ttamsg) (sums : Bytes), f = pre ++ m.hd.bytes ++ m.data ++ sums ∧
      pre.length = b.preheaderLength ∧ sums.length = b.checksumLength := by
  obtain ⟨pre, m, sums, rfl, hpre⟩ := exists_layout_of_announced (announced_of_isFrame hf)
  have hlen := hf.length_eq
  rw [List.append_assoc _ m.data, total_layout m.hd hpre, BackendType.frameLength,
    ← b.preheaderLength_add] at hlen
  simp only [List.length_append, TtamsgHd.length_bytes, m.length_data, hpre] at hlen
  exact ⟨pre, m, sums, rfl, hpre, by omega⟩

/-- A frame is as long as the message in it says. -/
theorem length_of_decode {b : BackendType} {f : Bytes} {m : Ttamsg} (hf : b.framing.IsFrame f)
    (h : b.decode f = some m) : f.length = m.frameLength b := by
  obtain ⟨pre, m', sums, rfl, hpre, hsums⟩ := exists_layout hf
  rw [decode_layout m' hpre hsums] at h
  cases h
  rw [Ttamsg.frameLength, BackendType.frameLength, ← b.preheaderLength_add]
  simp only [List.length_append, TtamsgHd.length_bytes, m'.length_data, hpre, hsums]

/-- A decoder delivers the message of the frame at the front of the packet buffer. -/
theorem run_convPkt2ttamsg_of_isFrame {f pkt : Bytes} {w : World σ}
    (hf : w.ctx.type.framing.IsFrame f) (h : f <+: pkt) :
    ∃ m, w.ctx.type.decode f = some m ∧ (convPkt2ttamsg pkt).run w = .ok (m, w) := by
  obtain ⟨pre, m, sums, rfl, hpre, hsums⟩ := exists_layout hf
  exact ⟨_, decode_layout m hpre hsums,
    run_convPkt2ttamsg ((List.prefix_append _ _).trans h) w hpre⟩

end Libtta
