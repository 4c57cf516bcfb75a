import Libtta.Context.Reachable
import Libtta.Send.ShortWrite
import Libtta.Radio.Radio

/-!
# What the confirmation check compares

`tta_request` accepts the packet it receives as the response when `pre_check_confirmation` does.
What that function compares is `Backend.matches`, a function of two packet buffers, and what this
says about the request and the message that is delivered is `Backend.Confirms`: for TCP the
transaction ids agree, for RS485 the device ids agree and the commands up to the response bit, and
for RF the packet carries the RF id of the context. `confirms_of_ttaRequest` says so of every
request that succeeds, whatever the operating system delivers; nothing else is compared, so that a
request may succeed with a message that does not answer it.
-/

namespace Libtta

variable {σ : Type} {os : Os σ} {fuel : ℕ} {w w' : World σ}

/-! ## The message in a packet buffer -/

/-- The decoder of the backend finds the message in the packet buffer. -/
def BackendType.Carries (b : BackendType) (pkt : Bytes) (m : Ttamsg) : Prop :=
  ∃ pre, pre.length = b.preheaderLength ∧ pre ++ m.hd.bytes ++ m.data <+: pkt ∧ m.tid = b.tidOf pre

/-- A frame carries its message. -/
theorem carries_frame (be : Backend) (m : Ttamsg) :
    be.type.Carries (be.frame m) { m with tid := be.nextTid } :=
  ⟨be.preheader, be.length_preheader, be.type.prefix_close _, be.tidOf_preheader.symm⟩

/-- A decoder that returns has found the message behind what stands before the message header. -/
theorem exists_prefix_of_copyTtamsg {preheader tid : ℕ} {pkt : Bytes} {m : Ttamsg}
    (h : (copyTtamsg preheader tid pkt).run w = .ok (m, w')) :
    m.tid = tid ∧ ∃ pre, pre.length = preheader ∧ pre ++ m.hd.bytes ++ m.data <+: pkt := by
  obtain ⟨datalen, w₁, -, h⟩ := Exec.run_bind_eq_ok.mp h
  obtain ⟨buf, w₂, hload, h⟩ := Exec.run_bind_eq_ok.mp h
  have hbuf := (Exec.run_access_eq_ok.mp hload).1
  obtain ⟨hbytes, htid⟩ := eq_bytes_of_overlay (Exec.run_access_eq_ok.mp h).1
  obtain ⟨pre, hpre, hpkt⟩ := Buffer.exists_prefix_of_load hbuf
  refine ⟨htid, pre, hpre, ?_⟩
  rw [List.append_assoc, ← hbytes]
  exact hpkt

/-- A decoder that returns has found the message in the packet buffer. -/
theorem carries_of_convPkt2ttamsg {pkt : Bytes} {m : Ttamsg}
    (h : (convPkt2ttamsg pkt).run w = .ok (m, w')) : w.ctx.type.Carries pkt m := by
  unfold convPkt2ttamsg at h
  rw [Exec.run_bind_of_ok (run_getCtx w)] at h
  rw [Tta.type]
  cases hbe : w.ctx.backend with
  | tcp d =>
    rw [hbe] at h
    obtain ⟨hi, w₁, hhi, h⟩ := Exec.run_bind_eq_ok.mp h
    obtain ⟨lo, w₂, hlo, h⟩ := Exec.run_bind_eq_ok.mp h
    obtain ⟨htid, pre, hpre, hpkt⟩ := exists_prefix_of_copyTtamsg h
    refine ⟨pre, hpre, hpkt, ?_⟩
    have hhi' := (Exec.run_access_eq_ok.mp hhi).1
    have hlo' := (Exec.run_access_eq_ok.mp hlo).1
    obtain ⟨rest, rfl⟩ := hpkt
    obtain ⟨p0, p1, tail, rfl⟩ : ∃ p0 p1 tail, pre = p0 :: p1 :: tail := by
      rcases pre with _ | ⟨p0, _ | ⟨p1, tail⟩⟩
      · cases hpre
      · cases hpre
      · exact ⟨p0, p1, tail, rfl⟩
    obtain rfl : p0 = hi := Option.some.inj hhi'
    obtain rfl : p1 = lo := Option.some.inj hlo'
    exact htid
  | rs485 d =>
    rw [hbe] at h
    obtain ⟨htid, pre, hpre, hpkt⟩ := exists_prefix_of_copyTtamsg h
    exact ⟨pre, hpre, hpkt, htid⟩
  | rf d =>
    rw [hbe] at h
    obtain ⟨htid, pre, hpre, hpkt⟩ := exists_prefix_of_copyTtamsg h
    exact ⟨pre, hpre, hpkt, htid⟩

/-! ## The check -/

/-- What `pre_check_confirmation` compares in the two packet buffers. -/
def Backend.matches (be : Backend) (req rsp : Bytes) : Bool :=
  match be with
  | tcp _ => req[0]? == rsp[0]? && req[1]? == rsp[1]?
  | rs485 _ => req[1]? == rsp[1]? && req[3]? == rsp[3]?.map (· &&& 0x7F)
  | rf d => rsp.take 4 == d.id

/-- The error that `pre_check_confirmation` reports. -/
def BackendType.mismatch : BackendType → Errno
  | tcp => .EMBBADDATA
  | rs485 => .EMBBADSLAVE
  | rf => .EMBBADRFID

/-- A comparison that reports an error when it fails. -/
theorem run_compare {c : Prop} [Decidable c] {b : Bool} (h : c ↔ b = false) (e : Errno)
    (w : World σ) :
    StateT.run (if c then (do setErrno e; return false) else return true : Machine σ Bool) w =
      if b then .ok (true, w) else .ok (false, { w with errno := e }) := by
  cases b with
  | false =>
    rw [if_pos (h.mpr rfl), if_neg Bool.false_ne_true]
    rfl
  | true =>
    rw [if_neg fun hc => Bool.noConfusion (h.mp hc), if_pos rfl]
    rfl

/-- On buffers that hold a header, `pre_check_confirmation` compares and does nothing else. -/
theorem run_preCheckConfirmation {req rsp : Bytes} (hreq : 4 ≤ req.length) (hrsp : 4 ≤ rsp.length)
    (w : World σ) :
    (preCheckConfirmation req rsp).run w =
      if w.ctx.backend.matches req rsp then .ok (true, w)
      else .ok (false, { w with errno := w.ctx.type.mismatch }) := by
  obtain ⟨r0, r1, r2, r3, req, rfl⟩ : ∃ r0 r1 r2 r3 rest, req = r0 :: r1 :: r2 :: r3 :: rest := by
    match req, hreq with
    | r0 :: r1 :: r2 :: r3 :: rest, _ => exact ⟨r0, r1, r2, r3, rest, rfl⟩
  obtain ⟨s0, s1, s2, s3, rsp, rfl⟩ : ∃ s0 s1 s2 s3 rest, rsp = s0 :: s1 :: s2 :: s3 :: rest := by
    match rsp, hrsp with
    | s0 :: s1 :: s2 :: s3 :: rest, _ => exact ⟨s0, s1, s2, s3, rest, rfl⟩
  obtain ⟨⟨s, rec, rt, bt, be⟩, errno, rxfifo, pos, dev⟩ := w
  cases be with
  | tcp d =>
    have hc : (r0 ≠ s0 ∨ r1 ≠ s1) ↔ (r0 == s0 && r1 == s1) = false := by
      rw [Bool.and_eq_false_iff, beq_eq_false_iff_ne, beq_eq_false_iff_ne]
    exact run_compare hc _ _
  | rs485 d =>
    have hc : (r1 ≠ s1 ∨ r3 ≠ s3 &&& 0x7F) ↔ (r1 == s1 && r3 == s3 &&& 0x7F) = false := by
      rw [Bool.and_eq_false_iff, beq_eq_false_iff_ne, beq_eq_false_iff_ne]
    exact run_compare hc _ _
  | rf d =>
    have hc : [s0, s1, s2, s3] ≠ d.id ↔ ([s0, s1, s2, s3] == d.id) = false :=
      beq_eq_false_iff_ne.symm
    exact run_compare hc _ _

/-- A packet that matches is confirmed. -/
theorem run_checkConfirmation_of_matches (os : Os σ) (fuel : ℕ) {req rsp : Bytes}
    (hreq : 4 ≤ req.length) (hrsp : 4 ≤ rsp.length) {w : World σ}
    (h : w.ctx.backend.matches req rsp = true) :
    (checkConfirmation os fuel req rsp).run w = .ok (true, w) := by
  have hcheck := run_preCheckConfirmation hreq hrsp w
  rw [if_pos h] at hcheck
  unfold checkConfirmation
  rw [Exec.run_bind_of_ok hcheck]
  rfl

/-- Without protocol recovery, a packet that does not match is reported. -/
theorem run_checkConfirmation_of_not_matches (os : Os σ) (fuel : ℕ) {req rsp : Bytes}
    (hreq : 4 ≤ req.length) (hrsp : 4 ≤ rsp.length) {w : World σ}
    (h : w.ctx.backend.matches req rsp = false) (hnone : w.ctx.recoversProtocol = false) :
    (checkConfirmation os fuel req rsp).run w =
      .ok (false, { w with errno := w.ctx.type.mismatch }) := by
  have hcheck := run_preCheckConfirmation hreq hrsp w
  rw [if_neg (by rw [h]; exact Bool.false_ne_true)] at hcheck
  unfold checkConfirmation
  rw [Exec.run_bind_of_ok hcheck]
  apply (Exec.run_bind_of_ok (run_getCtx _)).trans
  dsimp only
  rw [hnone]
  rfl

/-- A packet that is confirmed matches. -/
theorem matches_of_checkConfirmation {req rsp : Bytes} (hreq : 4 ≤ req.length)
    (hrsp : 4 ≤ rsp.length) (h : (checkConfirmation os fuel req rsp).run w = .ok (true, w')) :
    w.ctx.backend.matches req rsp = true ∧ w' = w := by
  have hcheck := run_preCheckConfirmation hreq hrsp w
  by_cases hm : w.ctx.backend.matches req rsp = true
  · rw [run_checkConfirmation_of_matches os fuel hreq hrsp hm] at h
    cases h
    exact ⟨hm, rfl⟩
  · rw [if_neg hm] at hcheck
    unfold checkConfirmation at h
    rw [Exec.run_bind_of_ok hcheck] at h
    have hfalse : ∀ {x : Machine σ Unit} {w₁ : World σ},
        (do x; return false : Machine σ Bool).run w₁ ≠ .ok (true, w') := by
      intro x w₁ hrun
      obtain ⟨_, _, -, ⟨⟩⟩ := Exec.run_bind_eq_ok.mp hrun
    replace h := (Exec.run_bind_of_ok (run_getCtx _)).symm.trans h
    dsimp only at h
    split at h
    · exact absurd h hfalse
    · cases h

/-! ## What a match says -/

/-- What the check of the backend makes sure of: the packet `rsp` is accepted as the response to the
request, and `m` is the message in it. -/
def Backend.Confirms (be : Backend) (req m : Ttamsg) (rsp : Bytes) : Prop :=
  match be with
  | tcp d => m.tid = (Libtta.nextTid d.tid).toNat
  | rs485 _ => m.hd.devid = req.hd.devid ∧ m.hd.cmd &&& 0x7F = req.hd.cmd
  | rf d => d.id <+: rsp

/-- Two bytes are determined by the number they spell. -/
theorem eq_of_mul_add_eq {hi lo hi' lo' : UInt8}
    (h : hi.toNat * 256 + lo.toNat = hi'.toNat * 256 + lo'.toNat) : hi = hi' ∧ lo = lo' := by
  have hlo := lo.toNat_lt
  have hlo' := lo'.toNat_lt
  exact ⟨UInt8.toNat_inj.mp (by omega), UInt8.toNat_inj.mp (by omega)⟩

/-- A match of the frame of the request with a packet, in terms of the messages. -/
theorem Backend.matches_iff (be : Backend) {req m : Ttamsg} {reqbuf rspbuf : Bytes}
    (hreq : be.frame req <+: reqbuf) (hrsp : be.type.Carries rspbuf m) :
    be.matches reqbuf rspbuf = true ↔ be.Confirms req m rspbuf := by
  obtain ⟨sums, hframe, -⟩ := frame_eq_layout be req
  rw [hframe] at hreq
  obtain ⟨reqrest, rfl⟩ := hreq
  obtain ⟨pre, hpre, ⟨rsprest, rfl⟩, htid⟩ := hrsp
  cases be with
  | tcp d =>
    match pre, hpre with
    | [hi, lo, p2, p3], _ =>
      change ((tidBytes (Libtta.nextTid d.tid))[0]? == some hi &&
        (tidBytes (Libtta.nextTid d.tid))[1]? == some lo) = true ↔ m.tid = _
      rw [htid, ← tid_of_tidBytes, Bool.and_eq_true, beq_iff_eq, beq_iff_eq]
      constructor
      · rintro ⟨hhi, hlo⟩
        rw [← Option.some.inj hhi, ← Option.some.inj hlo]
        rfl
      · intro h
        obtain ⟨rfl, rfl⟩ := eq_of_mul_add_eq h
        exact ⟨rfl, rfl⟩
  | rs485 d =>
    obtain ⟨first, rfl⟩ : ∃ first, pre = [first] := List.length_eq_one_iff.mp hpre
    change (req.hd.devid == m.hd.devid && req.hd.cmd == m.hd.cmd &&& 0x7F) = true ↔
      m.hd.devid = req.hd.devid ∧ m.hd.cmd &&& 0x7F = req.hd.cmd
    rw [Bool.and_eq_true, beq_iff_eq, beq_iff_eq, eq_comm, eq_comm (a := req.hd.cmd)]
  | rf d =>
    match pre, hpre with
    | [p0, p1, p2, p3], _ =>
      change ([p0, p1, p2, p3] == d.id) = true ↔ d.id <+: [p0, p1, p2, p3] ++ _ ++ _ ++ _
      rw [beq_iff_eq, List.append_assoc, List.append_assoc]
      constructor
      · intro h
        rw [h]
        exact List.prefix_append _ _
      · intro h
        exact (List.prefix_of_prefix_length_le h (List.prefix_append _ _) le_rfl).eq_of_length
          rfl |>.symm

/-- Building a packet does not change what the check compares. -/
theorem Backend.matches_stepped (be : Backend) (req rsp : Bytes) :
    be.stepped.matches req rsp = be.matches req rsp := by
  cases be <;> rfl

/-- The flag plays no part in the check. -/
theorem Backend.matches_setConfirmationToIgnore (be : Backend) (v : Bool) (req rsp : Bytes) :
    (be.setConfirmationToIgnore v).matches req rsp = be.matches req rsp := by
  cases be <;> rfl

/-! ## The requests that succeed -/

/-- Clearing the flag does not change the type of a backend. -/
theorem Backend.type_setConfirmationToIgnore (be : Backend) (v : Bool) :
    (be.setConfirmationToIgnore v).type = be.type := by
  cases be <;> rfl

/-- What a request leaves of the backend until the response is checked: the flag may have been
cleared. -/
def Backend.Sent (be be' : Backend) : Prop :=
  be' = be.stepped ∨ be' = be.stepped.setConfirmationToIgnore false

theorem Backend.Sent.type_eq {be be' : Backend} (h : be.Sent be') : be'.type = be.type := by
  rcases h with rfl | rfl
  · exact be.type_stepped
  · rw [type_setConfirmationToIgnore, type_stepped]

theorem Backend.Sent.matches_eq {be be' : Backend} (h : be.Sent be') (req rsp : Bytes) :
    be'.matches req rsp = be.matches req rsp := by
  rcases h with rfl | rfl
  · exact be.matches_stepped req rsp
  · rw [matches_setConfirmationToIgnore, matches_stepped]

theorem Backend.Sent.setConfirmationToIgnore {be be' : Backend} (h : be.Sent be') :
    be.Sent (be'.setConfirmationToIgnore false) := by
  rcases h with rfl | rfl
  · exact .inr rfl
  · right
    cases be <;> rfl

/-- The second half of a request delivers the message in a packet that it has received, and of this
packet the check of the backend makes sure. -/
theorem confirms_of_ttaRequestReceive {be : Backend} {req m : Ttamsg} {reqbuf : Bytes}
    (hbe : be.Sent w.ctx.backend) (hframe : be.frame req <+: reqbuf)
    (h : (ttaRequestReceive os fuel reqbuf).run w = .ok (some m, w')) :
    ∃ buf rsp n w₁ w₂, (uninit os maxMessageLength).run w = .ok (buf, w₁) ∧
      (backendReceive os fuel buf true).run w₁ = .ok ((some n, rsp), w₂) ∧
      be.type.Carries rsp m ∧ be.Confirms req m rsp := by
  obtain ⟨buf, w₁, huninit, h⟩ := Exec.run_bind_eq_ok.mp h
  obtain ⟨hbe₁, hbuf⟩ := (yields_uninit (P := be.Sent) os _).of_ok hbe huninit
  obtain ⟨⟨rc, rsp⟩, w₂, hreceive, h⟩ := Exec.run_bind_eq_ok.mp h
  obtain ⟨hbe₂, hrsp⟩ := (yields_backendReceive (P := be.Sent) os fuel
    (fun _ => Backend.Sent.type_eq) (fun _ => Backend.Sent.setConfirmationToIgnore)
    (hbuf ▸ BackendType.maxAduLength_le _) true).of_ok hbe₁ hreceive
  cases rc with
  | none => cases h
  | some n =>
    obtain ⟨good, w₃, hcheck, h⟩ := Exec.run_bind_eq_ok.mp h
    cases good with
    | false => cases h
    | true =>
      obtain ⟨m', w₄, hconv, ⟨⟩⟩ := Exec.run_bind_eq_ok.mp h
      have hreqlen : 4 ≤ reqbuf.length := be.four_le_length_frame.trans hframe.length_le
      have hrsplen : 4 ≤ rsp.length := by
        rw [hrsp, hbuf]
        decide
      obtain ⟨hmatches, rfl⟩ := matches_of_checkConfirmation hreqlen hrsplen hcheck
      have hcarries := carries_of_convPkt2ttamsg hconv
      rw [Tta.type, hbe₂.type_eq] at hcarries
      rw [hbe₂.matches_eq] at hmatches
      exact ⟨buf, rsp, n, w₁, w₃, huninit, hreceive, hcarries,
        (be.matches_iff hframe hcarries).mp hmatches⟩

/-- A request that succeeds has been sent, and delivers the message in a packet that was received
into a fresh buffer afterwards. Of this packet the check of the backend makes sure: it carries the
transaction id of the request, or the device id and the command of the request up to the response
bit, or the RF id. -/
theorem confirms_of_ttaRequest {req m : Ttamsg}
    (h : (ttaRequest os fuel req).run w = .ok (some m, w')) :
    ∃ reqbuf len buf rsp n w₁ w₂ w₃,
      (ttaRequestSend os fuel req).run w = .ok ((reqbuf, some len), w₁) ∧
      (uninit os maxMessageLength).run w₁ = .ok (buf, w₂) ∧
      (backendReceive os fuel buf true).run w₂ = .ok ((some n, rsp), w₃) ∧
      w.ctx.type.Carries rsp m ∧ w.ctx.backend.Confirms req m rsp := by
  obtain ⟨⟨reqbuf, rc⟩, w₁, hsend, h⟩ := Exec.run_bind_eq_ok.mp h
  obtain ⟨hbe, hframe⟩ := backend_of_ttaRequestSend hsend
  cases rc with
  | none => cases h
  | some len =>
    obtain ⟨buf, rsp, n, w₂, w₃, huninit, hreceive, hcarries, hconfirms⟩ :=
      confirms_of_ttaRequestReceive (.inl hbe) hframe h
    exact ⟨reqbuf, len, buf, rsp, n, w₁, w₂, w₃, hsend, huninit, hreceive, hcarries, hconfirms⟩

/-- A run whose result has a content, delivers a message with that content. -/
theorem exists_of_map_content {r : Except Stop (Option Ttamsg × World σ)} {c : TtamsgHd × Bytes}
    (h : r.map (fun r => r.1.map Ttamsg.content) = .ok (some c)) :
    ∃ m w', r = .ok (some m, w') ∧ m.content = c := by
  obtain ⟨⟨o, w'⟩, hr, ho⟩ := Exec.exists_of_map_eq_ok h
  obtain ⟨m, rfl, hm⟩ := Option.map_eq_some_iff.mp ho
  exact ⟨m, w', hr, hm⟩

/-- The check of an RS485 context confirms a response with another sub id. -/
theorem confirms_of_ttaRequest_rs485 :
    ∃ m rsp, (m : Ttamsg).content = (⟨1, 7, 0x90, 0⟩, []) ∧ BackendType.rs485.Carries rsp m ∧
      (ttaNewRs485 "/dev/ttyS0").backend.Confirms (ttamsgMake 1 0 0x10 [] 0 (by decide)) m rsp := by
  obtain ⟨m, w', hrun, hm⟩ := exists_of_map_content
    (show ((ttaRequest lineOs 0 (ttamsgMake 1 0 0x10 [] 0 (by decide))).run
      (rs485Line [0xF7, 1, 7, 0x90, 0, 0x61, 0xF0])).map (fun r => r.1.map Ttamsg.content) =
        .ok (some (⟨1, 7, 0x90, 0⟩, [])) by decide +kernel)
  obtain ⟨_, _, _, rsp, _, _, _, _, -, -, -, hcarries, hconfirms⟩ := confirms_of_ttaRequest hrun
  exact ⟨m, rsp, hm, hcarries, hconfirms⟩

/-- The message answers the request: it comes from the device and the unit that were asked, and its
command is the one that `tta_reply` gives it. -/
def Ttamsg.Answers (m req : Ttamsg) : Prop :=
  m.hd.devid = req.hd.devid ∧ m.hd.subid = req.hd.subid ∧ m.hd.cmd = req.hd.cmd ||| 0x80

/-- A message with another command does not answer the request. -/
theorem not_answers_of_cmd {m req : Ttamsg} {hd : TtamsgHd} (hm : m.hd = hd)
    (hcmd : hd.cmd ≠ req.hd.cmd ||| 0x80) : ¬m.Answers req := by
  rintro ⟨-, -, h⟩
  rw [hm] at h
  exact hcmd h

/-- Requests succeed with messages that do not answer them: on RS485 with the echo of the request,
on TCP with a message from another device that carries the transaction id of the request, and on RF
with any message that carries the RF id. -/
theorem not_answers :
    (∃ m w', (ttaRequest lineOs 0 (ttamsgMake 1 0 0x10 [] 0 (by decide))).run
          (rs485Line ((ttaNewRs485 "/dev/ttyS0").backend.frame
            (ttamsgMake 1 0 0x10 [] 0 (by decide)))) = .ok (some m, w') ∧
        ¬m.Answers (ttamsgMake 1 0 0x10 [] 0 (by decide))) ∧
      (∃ m w', (ttaRequest lineOs 0 (ttamsgMake 1 0 0x10 [] 0 (by decide))).run
          (tcpLine [0, 1, 0, 0, 2, 3, 0x11, 0]) = .ok (some m, w') ∧
        ¬m.Answers (ttamsgMake 1 0 0x10 [] 0 (by decide))) ∧
      ∃ m w', (ttaRequest radioOs 2 (ttamsgMake 1 0 0x10 [] 0 (by decide))).run
          { rfEnd with dev := { rfEnd.dev with
            rx := Radio.arrival
              (rfEnd.ctx.backend.frame (ttamsgMake 2 3 0x11 [] 0 (by decide))) } } =
            .ok (some m, w') ∧
        ¬m.Answers (ttamsgMake 1 0 0x10 [] 0 (by decide)) := by
  refine ⟨?_, ?_, ?_⟩
  · obtain ⟨m, w', hrun, hm⟩ := exists_of_map_content
      (show ((ttaRequest lineOs 0 (ttamsgMake 1 0 0x10 [] 0 (by decide))).run
        (rs485Line ((ttaNewRs485 "/dev/ttyS0").backend.frame
          (ttamsgMake 1 0 0x10 [] 0 (by decide))))).map (fun r => r.1.map Ttamsg.content) =
        .ok (some (⟨1, 0, 0x10, 0⟩, [])) by decide +kernel)
    exact ⟨m, w', hrun, not_answers_of_cmd (congrArg Prod.fst hm) (by decide)⟩
  · obtain ⟨m, w', hrun, hm⟩ := exists_of_map_content
      (show ((ttaRequest lineOs 0 (ttamsgMake 1 0 0x10 [] 0 (by decide))).run
        (tcpLine [0, 1, 0, 0, 2, 3, 0x11, 0])).map (fun r => r.1.map Ttamsg.content) =
        .ok (some (⟨2, 3, 0x11, 0⟩, [])) by decide +kernel)
    exact ⟨m, w', hrun, not_answers_of_cmd (congrArg Prod.fst hm) (by decide)⟩
  · obtain ⟨m, w', hrun, hm⟩ := exists_of_map_content
      (show ((ttaRequest radioOs 2 (ttamsgMake 1 0 0x10 [] 0 (by decide))).run
        { rfEnd with dev := { rfEnd.dev with
          rx := Radio.arrival (rfEnd.ctx.backend.frame
            (ttamsgMake 2 3 0x11 [] 0 (by decide))) } }).map (fun r => r.1.map Ttamsg.content) =
        .ok (some (⟨2, 3, 0x11, 0⟩, [])) by decide +kernel)
    exact ⟨m, w', hrun, not_answers_of_cmd (congrArg Prod.fst hm) (by decide)⟩

end Libtta
