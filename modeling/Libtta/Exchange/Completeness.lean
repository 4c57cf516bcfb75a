import Libtta.Exchange.Link
import Libtta.Exchange.Reply

/-!
# Requests that are answered

On a link with nothing under way, a request of an RS485 client is answered with the frame of the
server's reply (`Link.Quiet.write`). The check of the client accepts this reply exactly when the
command of the request has no response bit: `tta_reply` sets the bit, and the check clears it before
it compares. So an exchange succeeds for the commands below 0x80 and for no others
(`request_answered_iff`).
-/

namespace Libtta

variable {payload : Payload} {schedule : Link → List LinkEvent}

/-! ## The response bit -/

/-- The command of a reply, as the check compares it, is the command of the request exactly when
that has no response bit. -/
theorem or_and_eq_iff (cmd : UInt8) : (cmd ||| 0x80) &&& 0x7F = cmd ↔ cmd < 0x80 := by
  have hmask : (0x7F : UInt8).toNat = 2 ^ 7 - 1 := rfl
  have hbit : (0x80 : UInt8).toNat % 2 ^ 7 = 0 := rfl
  rw [← UInt8.toNat_inj, UInt8.toNat_and, UInt8.toNat_or, hmask, Nat.and_two_pow_sub_one_eq_mod,
    Nat.or_mod_two_pow, hbit, Nat.or_zero, UInt8.lt_iff_toNat_lt]
  change cmd.toNat % 128 = cmd.toNat ↔ cmd.toNat < 128
  omega

/-! ## The server's part -/

/-- All RS485 contexts build the same frames. -/
theorem frame_eq_of_rs485 {be be' : Backend} (h : be.type = .rs485) (h' : be'.type = .rs485)
    (m : Ttamsg) : be.frame m = be'.frame m := by
  cases be with
  | rs485 d =>
    cases be' with
    | rs485 d' => rfl
    | tcp d' => cases h'
    | rf d' => cases h'
  | tcp d => cases h
  | rf d => cases h

/-- RS485 frames carry no transaction id. -/
theorem Backend.nextTid_of_rs485 {be : Backend} (h : be.type = .rs485) : be.nextTid = 0 := by
  cases be with
  | rs485 d => rfl
  | tcp d => cases h
  | rf d => cases h

/-- A payload of at most 249 bytes is replied with a frame within the limit of RS485. -/
theorem frameLength_replyMsg_le (req : Ttamsg) {data : Bytes} (h : data.length ≤ 249) :
    (replyMsg req data).frameLength .rs485 ≤ BackendType.rs485.maxAduLength := by
  change 5 + (UInt8.ofNat data.length).toNat + 2 ≤ 256
  rw [UInt8.toNat_ofNat']
  omega

/-- An RS485 server that waits for the request with number `k`. -/
structure Server.Waits (s : Server) (k : ℕ) : Prop where
  type : s.world.ctx.type = .rs485
  flag : s.world.ctx.backend.confirmationToIgnore = false
  input : s.world.dev.input = []
  served : s.served = k

/-- A waiting server reads what is written next. -/
theorem Server.Waits.input_input {s : Server} {k : ℕ} (h : s.Waits k) (bs : Bytes) :
    (s.input bs).dev.input = bs := by
  change s.world.dev.input ++ bs = bs
  rw [h.input, List.nil_append]

/-- A waiting server answers the frame of a request with the frame of its reply, and waits again. -/
theorem Server.Waits.answer {s : Server} {k : ℕ} (h : s.Waits k) {be : Backend} {req : Ttamsg}
    (hbe : be.type = .rs485) (hreq : req.frameLength .rs485 ≤ BackendType.rs485.maxAduLength)
    (hreply : (replyMsg req (payload k { req with tid := 0 })).frameLength .rs485 ≤
      maxMessageLength) :
    (s.answer payload (be.frame req)).1 =
        be.frame (replyMsg req (payload k { req with tid := 0 })) ∧
      (s.answer payload (be.frame req)).2.Waits (k + 1) := by
  have htid : be.nextTid = 0 := Backend.nextTid_of_rs485 hbe
  have hin : (s.input (be.frame req)).dev.input = be.frame req ++ [] := by
    rw [h.input_input, List.append_nil]
  obtain ⟨n, d, hserve, hrest, hout⟩ := run_serve_frame 0 (payload s.served) be req
    (w := s.input (be.frame req)) (h.type.trans hbe.symm)
    (by change s.world.ctx.type ≠ .rf; rw [h.type]; decide) h.flag (by rw [hbe]; exact hreq)
    (by
      change Ttamsg.frameLength _ s.world.ctx.type ≤ _
      rw [h.type, htid, h.served]
      exact hreply) hin
  rw [htid, h.served] at hout
  have hanswer : s.answer payload (be.frame req) =
      (d.output, ⟨{ s.input (be.frame req) with ctx := s.world.ctx.stepped, dev := d },
        s.served + 1⟩) := by
    rw [Server.answer, hserve]
    rfl
  rw [hanswer, hout]
  refine ⟨frame_eq_of_rs485 h.type hbe _, ?_, ?_, hrest, by rw [h.served]⟩
  · exact (s.world.ctx.type_stepped).trans h.type
  · exact (Backend.confirmationToIgnore_stepped _).trans h.flag

/-! ## One exchange -/

/-- Nothing is under way to the client, and the server is going to wait for the request with
number `k`. -/
structure Link.Quiet (payload : Payload) (d : Link) (k : ℕ) : Prop where
  input : d.input payload = []
  server : (d.settled payload).Waits k

/-- Nothing is under way in either direction. -/
structure Link.Empty (d : Link) : Prop where
  pending : d.pending = []
  server : d.server.world.dev.input = []
  inFlight : d.inFlight = []
  arrived : d.arrived = []

/-- An empty link with a reachable RS485 server is quiet. -/
theorem Link.Empty.quiet {d : Link} {n : ℕ} (h : d.Empty) (hserver : Reachable d.server.world.ctx n)
    (htype : d.server.world.ctx.type = .rs485) : d.Quiet payload d.server.served where
  input := by
    rw [d.input_eq, h.pending, h.inFlight, h.arrived]
    rfl
  server := by
    rw [settled, settle, h.pending]
    exact ⟨htype, hserver.counts.flag, h.server, rfl⟩

/-- A request on a quiet link is answered. -/
theorem Link.Quiet.write {d : Link} {k : ℕ} (h : d.Quiet payload k) (be : Backend) {req : Ttamsg}
    (hbe : be.type = .rs485) (hreq : req.frameLength .rs485 ≤ BackendType.rs485.maxAduLength)
    (hreply : (replyMsg req (payload k { req with tid := 0 })).frameLength .rs485 ≤
      maxMessageLength) :
    (d.write (be.frame req)).input payload =
        be.frame (replyMsg req (payload k { req with tid := 0 })) ∧
      ((d.write (be.frame req)).settled payload).Waits (k + 1) := by
  obtain ⟨hout, hwaits⟩ := h.server.answer hbe hreq hreply
  rw [d.input_write, d.settled_write, h.input, hout, List.nil_append]
  exact ⟨rfl, hwaits⟩

/-- On a link, an RS485 client's request is written as its frame. -/
theorem run_ttaRequestSend_link (payload : Payload) (schedule : Link → List LinkEvent) (fuel : ℕ)
    {w : World Link} {req : Ttamsg} (htype : w.ctx.type = .rs485)
    (hreq : req.frameLength .rs485 ≤ maxMessageLength) :
    ∃ reqbuf, (ttaRequestSend (linkOs payload schedule) fuel req).run w =
        .ok ((reqbuf, some (req.frameLength w.ctx.type)),
          { w with dev := w.dev.write (w.ctx.backend.frame req) }) ∧
      w.ctx.backend.frame req <+: reqbuf := by
  have hsend := run_ttaRequestSend (takes_linkOs payload schedule) fuel req w
    (by rw [htype]; decide) (by rw [htype]; exact hreq)
  rw [Tta.stepped_of_rs485 htype] at hsend
  exact hsend

/-- The reply to a request matches it exactly when the command of the request has no response
bit. -/
theorem matches_replyMsg_iff {be : Backend} {req : Ttamsg} {reqbuf : Bytes} (data : Bytes)
    (hbe : be.type = .rs485) (hreq : be.frame req <+: reqbuf) :
    be.matches reqbuf (be.frame (replyMsg req data)) = true ↔ req.hd.cmd < 0x80 := by
  rw [be.matches_iff hreq (carries_frame be _), ← or_and_eq_iff]
  cases be with
  | rs485 d => exact and_iff_right rfl
  | tcp d => cases hbe
  | rf d => cases hbe

/-- How an exchange on a quiet link ends: the reply is delivered or rejected, and the link is quiet
again, or a wait or a read fails before the whole reply has been read. -/
inductive ExchangeEnd (payload : Payload) (k : ℕ) (req : Ttamsg) (fails : Bytes → Errno → Prop)
    (w : World Link) : Option Ttamsg → World Link → Prop where
  | delivered {d : Link} : req.hd.cmd < 0x80 → d.Quiet payload (k + 1) →
      ExchangeEnd payload k req fails w (some (replyMsg req (payload k { req with tid := 0 })))
        { w with dev := d }
  | rejected {d : Link} : ¬req.hd.cmd < 0x80 → d.Quiet payload (k + 1) →
      ExchangeEnd payload k req fails w none { w with dev := d, errno := .EMBBADSLAVE }
  | failed {d : Link} {t : Bytes} {e : Errno} : fails t e → t ≠ [] →
      ExchangeEnd payload k req fails w none { w with dev := d, errno := e }

/-- One exchange on a quiet link. -/
theorem run_ttaRequest_quiet {fails : Bytes → Errno → Prop}
    (hos : Feeds (linkOs payload schedule) (Link.input payload) (Link.settled payload) fails)
    (fuel : ℕ) {w : World Link} {k : ℕ} {req : Ttamsg} (htype : w.ctx.type = .rs485)
    (hflag : w.ctx.backend.confirmationToIgnore = false) (hquiet : w.dev.Quiet payload k)
    (hreq : req.frameLength .rs485 ≤ BackendType.rs485.maxAduLength)
    (hreply : (replyMsg req (payload k { req with tid := 0 })).frameLength .rs485 ≤
      BackendType.rs485.maxAduLength)
    (hcalm : w.ctx.errorRecovery = 0 ∨
      (∀ t e, fails t e → t = []) ∧ req.hd.cmd < 0x80) :
    ∃ r w', (ttaRequest (linkOs payload schedule) fuel req).run w = .ok (r, w') ∧
      ExchangeEnd payload k req fails w r w' := by
  obtain ⟨reqbuf, hsend, hframe⟩ := run_ttaRequestSend_link payload schedule fuel htype
    (hreq.trans (BackendType.maxAduLength_le _))
  obtain ⟨hin, hwaits⟩ := hquiet.write w.ctx.backend htype hreq
    (hreply.trans (BackendType.maxAduLength_le _))
  set reply := replyMsg req (payload k { req with tid := 0 })
  set w₁ : World Link := { w with dev := w.dev.write (w.ctx.backend.frame req) }
  have hfit : reply.frameLength w.ctx.backend.type ≤ w.ctx.backend.type.maxAduLength := by
    change reply.frameLength w.ctx.type ≤ w.ctx.type.maxAduLength
    rw [htype]
    exact hreply
  have hmatches : w.ctx.backend.matches reqbuf (w.ctx.backend.frame reply) = true ↔
      req.hd.cmd < 0x80 := matches_replyMsg_iff _ htype hframe
  obtain ⟨r, w', hreceive, hend⟩ := run_ttaRequestReceive_frame hos fuel (w := w₁)
    (w.ctx.backend.four_le_length_frame.trans hframe.length_le) rfl (by rw [htype]; decide) hflag
    hfit (hin.trans (List.append_nil _).symm)
    (hcalm.imp_right fun ⟨hlast, hcmd⟩ => ⟨hlast, hmatches.mpr hcmd⟩)
  refine ⟨r, w', (Exec.run_bind_of_ok hsend).trans hreceive, ?_⟩
  cases hend with
  | failed hfail hne => exact .failed hfail hne
  | rejected hm hrest hother =>
    rw [show w₁.ctx.type = .rs485 from htype]
    refine .rejected (fun hcmd => ?_) ⟨hrest, by rw [hother]; exact hwaits⟩
    rw [hmatches.mpr hcmd] at hm
    cases hm
  | delivered hm hrest hother =>
    rw [Backend.nextTid_of_rs485 htype]
    exact .delivered (hmatches.mp hm) ⟨hrest, by rw [hother]; exact hwaits⟩

/-! ## The exchanges that succeed -/

/-- On an RS485 link, a request that succeeds delivers a message whose command is the command of the
request up to the response bit. -/
theorem cmd_of_ttaRequest {σ : Type} {os : Os σ} {fuel : ℕ} {w w' : World σ} {req m : Ttamsg}
    (htype : w.ctx.type = .rs485) (h : (ttaRequest os fuel req).run w = .ok (some m, w')) :
    m.hd.cmd &&& 0x7F = req.hd.cmd := by
  obtain ⟨d, hd⟩ := Tta.exists_rs485 htype
  obtain ⟨⟨reqbuf, rc⟩, w₁, hsend, h⟩ := Exec.run_bind_eq_ok.mp h
  obtain ⟨hbe, hframe⟩ := backend_of_ttaRequestSend hsend
  cases rc with
  | none => cases h
  | some len =>
    obtain ⟨_, _, _, _, _, -, -, -, hconfirms⟩ := confirms_of_ttaRequestReceive (.inl hbe) hframe h
    rw [hd] at hconfirms
    exact hconfirms.2

/-- Exchange completeness on RS485: over a prompt link with nothing under way, a request whose
payload fits is answered, with the device id, the sub id, the command with the response bit and
exactly the payload of the reply, if and only if the command of the request has no response bit. The
contexts are any reachable ones, and the fragments are arbitrary. -/
theorem request_answered_iff (hprompt : Prompt payload schedule) (fuel : ℕ) {req : Ttamsg}
    {data : Bytes} {n k : ℕ} {client : World Link} (hclient : Reachable client.ctx n)
    (hserver : Reachable client.dev.server.world.ctx k) (hctype : client.ctx.type = .rs485)
    (hstype : client.dev.server.world.ctx.type = .rs485) (hempty : client.dev.Empty)
    (hreq : req.hd.datalen.toNat ≤ 249) (hlen : data.length ≤ 249)
    (hdata : payload client.dev.server.served { req with tid := 0 } = data) :
    (∃ m client', (ttaRequest (linkOs payload schedule) fuel req).run client =
        .ok (some m, client') ∧ m.hd.devid = req.hd.devid ∧ m.hd.subid = req.hd.subid ∧
        m.hd.cmd = req.hd.cmd ||| 0x80 ∧ m.data = data) ↔ req.hd.cmd < 0x80 := by
  constructor
  · rintro ⟨m, client', hrun, -, -, hcmd, -⟩
    rw [← or_and_eq_iff, ← hcmd]
    exact cmd_of_ttaRequest hctype hrun
  · intro hcmd
    have hfit : req.frameLength .rs485 ≤ BackendType.rs485.maxAduLength := by
      change 5 + req.hd.datalen.toNat + 2 ≤ 256
      omega
    obtain ⟨r, client', hrun, hend⟩ := run_ttaRequest_quiet
      (feeds_linkOs_of_prompt payload schedule hprompt) fuel hctype hclient.counts.flag
      (hempty.quiet hserver hstype) hfit (frameLength_replyMsg_le req (by rw [hdata]; exact hlen))
      (.inr ⟨fun _ _ h => h.1, hcmd⟩)
    cases hend with
    | delivered =>
      rw [hdata] at hrun
      exact ⟨_, _, hrun, rfl, rfl, rfl, data_replyMsg req (by omega)⟩
    | rejected hnot => exact absurd hcmd hnot
    | failed hfail hne => exact absurd hfail.1 hne

/-- A request with the command 0x10 is answered. -/
theorem request_answered_iff_fresh :
    ∃ m client', (ttaRequest (linkOs (fun _ _ => [0x55]) eager) 0
        (ttamsgMake 1 0 0x10 [0xAA] 1 (by decide))).run linkStart = .ok (some m, client') ∧
      m.hd.devid = 1 ∧ m.hd.subid = 0 ∧ m.hd.cmd = 0x90 ∧ m.data = [0x55] :=
  (request_answered_iff (prompt_eager fun _ _ => [0x55]) 0 (.newRs485 _ _ _) (.newRs485 _ _ _)
    rfl rfl
    ⟨rfl, rfl, rfl, rfl⟩ (by decide) (by decide) rfl).mpr (by decide)

/-- A request with the command 0xFF is answered by the server, but fails. -/
theorem request_not_answered :
    ((ttaRequest (linkOs (fun _ _ => [0x55]) eager) 0
        (ttamsgMake 1 0 0xFF [0xAA] 1 (by decide))).run linkStart).map
      (fun r => (r.1.isSome, r.2.errno, r.2.dev.server.served)) =
        .ok (false, .EMBBADSLAVE, 1) := by
  decide +kernel

end Libtta
