import Libtta.Receive.Stream
import Libtta.Send.Packet

/-!
# Short writes on a TCP connection

A socket may accept only a part of a frame. `tta_send` reports that as a failure, but the part that
was accepted stays on the stream. As long as nothing is sent behind such a part, the stream consists
of the frames that were sent with success and of a part too short to be a frame, so that a receiver
finds a prefix of the messages sent with success (`delivered_sublist_sent`). A frame sent behind it
is taken for the rest of the part, and the receiver delivers a message that nobody has sent
(`delivered_not_sent`).
-/

namespace Libtta

variable {σ ρ : Type}

/-! ## Sending -/

/-- The sending end of a connection. -/
structure Wire where
  /-- What has been accepted. -/
  output : Bytes
  /-- The outcome of the call of `send` with number `k`: it fails, or it accepts that many bytes,
  but at least one and at most all. -/
  accepts : ℕ → Except Errno ℕ
  /-- The number of calls of `send` that have been made. -/
  writes : ℕ
  /-- The content of uninitialised memory. -/
  junk : ℕ → UInt8

/-- The operating system at the sending end of a connection. -/
def wireOs : Os Wire where
  garbage d := (d.junk, d)
  write _ bs d :=
    match d.accepts d.writes with
    | .error e => (.error e, { d with writes := d.writes + 1 })
    | .ok n =>
      (.ok (max 1 (min n bs.length)),
        { d with
          output := d.output ++ bs.take (max 1 (min n bs.length)), writes := d.writes + 1 })

/-- Send the messages one after the other. -/
def ttaSends (os : Os σ) (fuel : ℕ) : List Ttamsg → Machine σ (List (Option ℕ))
  | [] => return []
  | m :: ms => do
    let rc ← ttaSend os fuel m
    return rc :: (← ttaSends os fuel ms)

/-- The messages that were sent with success. -/
def sent (ms : List Ttamsg) (rs : List (Option ℕ)) : List (TtamsgHd × Bytes) :=
  (ms.zip rs).filterMap fun p => p.2.map fun _ => p.1.content

/-- Without link recovery a packet is written to the socket once: a part `p` of it is accepted, and
the packet has been sent with success when that is all of it. -/
theorem run_sendPkt_wire (fuel : ℕ) {pkt : Bytes} (hpkt : pkt ≠ []) (w : World Wire)
    (htcp : w.ctx.type = .tcp) (hnone : w.ctx.errorRecovery = 0) :
    ∃ (r : Option ℕ) (errno : Errno) (p : Bytes), (sendPkt wireOs fuel pkt).run w =
        .ok (r, { w with errno := errno, dev :=
          { w.dev with output := w.dev.output ++ p, writes := w.dev.writes + 1 } }) ∧
      p <+: pkt ∧ (r.isSome ↔ p = pkt) ∧
      (p = [] ∨ p = pkt ∨ ∃ n, w.dev.accepts w.dev.writes = .ok n ∧ n < pkt.length) := by
  have hlen : 0 < pkt.length := List.length_pos_iff.mpr hpkt
  have hsend : (backendSend wireOs fuel pkt).run w = (ttaTcpSend wireOs w.ctx.s pkt).run w := by
    obtain ⟨d, hbe⟩ := Tta.exists_tcp htcp
    unfold backendSend
    rw [Exec.run_bind_of_ok (run_getCtx w), hbe]
  rcases haccepts : w.dev.accepts w.dev.writes with e | n
  · -- the call of `send` fails
    have hwrite : wireOs.write w.ctx.s pkt w.dev =
        (.error e, { w.dev with writes := w.dev.writes + 1 }) := by
      simp only [wireOs, haccepts]
    have hfail : (backendSend wireOs fuel pkt).run w = .ok (none, { w with errno := e, dev :=
        { w.dev with writes := w.dev.writes + 1 } }) := by
      rw [hsend, ttaTcpSend, Exec.run_bind_of_ok (run_sys_of_error hwrite)]
      rfl
    refine ⟨none, e, [], ?_, List.nil_prefix, iff_of_false (by simp) hpkt.symm, .inl rfl⟩
    rw [run_sendPkt_of_none hfail (Tta.recoversLink_of_none hnone), List.append_nil]
  · -- the call of `send` accepts `k` bytes
    set k := max 1 (min n pkt.length)
    have hk : 0 < k ∧ k ≤ pkt.length := by omega
    have hwrite : wireOs.write w.ctx.s pkt w.dev =
        (.ok k,
          { w.dev with output := w.dev.output ++ pkt.take k, writes := w.dev.writes + 1 }) := by
      simp only [wireOs, haccepts]
      rfl
    have hpart : (backendSend wireOs fuel pkt).run w = .ok (some k, { w with dev :=
        { w.dev with output := w.dev.output ++ pkt.take k, writes := w.dev.writes + 1 } }) := by
      rw [hsend, ttaTcpSend, Exec.run_bind_of_ok (run_sys_of_ok hwrite), Option.map_some,
        Nat.min_eq_left hk.2]
      rfl
    have hrun := run_sendPkt_of_some hpart
    by_cases hall : k = pkt.length
    · have htake : pkt.take k = pkt := by rw [hall, List.take_length]
      rw [if_neg fun h => h.2 hall, htake] at hrun
      exact ⟨some k, w.errno, pkt, hrun, List.prefix_rfl, by simp, .inr (.inl rfl)⟩
    · have hshort : pkt.take k ≠ pkt := by
        intro h
        have := congrArg List.length h
        rw [List.length_take] at this
        omega
      rw [if_pos ⟨hk.1, hall⟩] at hrun
      exact ⟨none, .EMBBADDATA, pkt.take k, hrun, List.take_prefix _ _,
        iff_of_false (by simp) hshort, .inr (.inr ⟨n, rfl, by omega⟩)⟩

/-- A call of `tta_send` that returns has had room for the frame, and puts a part of it on the
connection: all of it when it succeeds. -/
theorem run_ttaSend_wire {fuel : ℕ} {m : Ttamsg} {w w' : World Wire} {r : Option ℕ}
    (htcp : w.ctx.type = .tcp) (hnone : w.ctx.errorRecovery = 0)
    (hrun : (ttaSend wireOs fuel m).run w = .ok (r, w')) :
    ∃ p, w'.ctx = w.ctx.stepped ∧
      w'.dev = { w.dev with output := w.dev.output ++ p, writes := w.dev.writes + 1 } ∧
      m.frameLength .tcp ≤ maxMessageLength ∧ p <+: w.ctx.backend.frame m ∧
      (r.isSome ↔ p = w.ctx.backend.frame m) ∧
      (p = [] ∨ p = w.ctx.backend.frame m ∨
        ∃ n, w.dev.accepts w.dev.writes = .ok n ∧ n < m.frameLength .tcp) := by
  obtain ⟨buf, hlen, hbuf⟩ := run_uninit wireOs maxMessageLength w
  unfold ttaSend at hrun
  rw [Exec.run_bind_of_ok hbuf] at hrun
  obtain ⟨⟨pkt, len⟩, w₁, hconv, hrun⟩ := Exec.run_bind_eq_ok.mp hrun
  obtain ⟨hroom, hw₁, hpre, rfl, -⟩ := run_convTtamsg2pkt_eq_ok hconv
  have hframeLength : (w.ctx.backend.frame m).length = m.frameLength .tcp := by
    rw [w.ctx.backend.length_frame]
    exact congrArg m.frameLength htcp
  have hne : w.ctx.backend.frame m ≠ [] := by
    intro h
    rw [h, Ttamsg.frameLength, BackendType.frameLength] at hframeLength
    change 0 = 8 + _ + 0 at hframeLength
    omega
  obtain ⟨r', errno, p, hsend, hp, hr, haccepts⟩ := run_sendPkt_wire fuel hne w₁
    (by rw [hw₁]; exact w.ctx.type_stepped.trans htcp) (by rw [hw₁]; exact hnone)
  dsimp only at hrun
  change (sendPkt wireOs fuel (pkt.take (m.frameLength w.ctx.type))).run w₁ = _ at hrun
  have hframe : pkt.take (m.frameLength w.ctx.type) = w.ctx.backend.frame m :=
    Backend.take_of_frame_prefix hpre
  rw [hframe, hsend] at hrun
  cases hrun
  rw [hw₁] at haccepts ⊢
  have hroom' : m.frameLength .tcp ≤ maxMessageLength := by
    rw [← hlen, ← htcp]
    exact hroom
  rw [hframeLength] at haccepts
  exact ⟨p, rfl, rfl, hroom', hp, hr, haccepts⟩

/-- After any number of calls of which only the last may have been accepted in part, the connection
holds the frames of the messages sent with success, and behind them a part too short to be a frame.
The induction is on the messages. -/
theorem run_ttaSends_wire {fuel : ℕ} {ms : List Ttamsg} {rs : List (Option ℕ)}
    {w w' : World Wire} (htcp : w.ctx.type = .tcp) (hnone : w.ctx.errorRecovery = 0)
    (hrun : (ttaSends wireOs fuel ms).run w = .ok (rs, w'))
    (hlast : ∀ j m n, ms[j]? = some m → j + 1 < ms.length →
      w.dev.accepts (w.dev.writes + j) = .ok n → m.frameLength .tcp ≤ n) :
    ∃ (fs : List Bytes) (p : Bytes), w'.dev.output = w.dev.output ++ (fs.flatten ++ p) ∧
      (∀ f ∈ fs, BackendType.tcp.framing.IsFrame f) ∧
      (fs.filterMap BackendType.tcp.decode).map Ttamsg.content = sent ms rs ∧
      BackendType.tcp.framing.next p = .short := by
  induction ms generalizing w rs with
  | nil =>
    cases hrun
    exact ⟨[], [], (List.append_nil _).symm, by simp, rfl, Framing.next_nil⟩
  | cons m ms ih =>
    obtain ⟨r, w₁, hsend, hrun⟩ := Exec.run_bind_eq_ok.mp hrun
    obtain ⟨rs', w₂, hsends, ⟨⟩⟩ := Exec.run_bind_eq_ok.mp hrun
    obtain ⟨p, hctx₁, hdev₁, hroom, hp, hr, haccepts⟩ := run_ttaSend_wire htcp hnone hsend
    have htype : w.ctx.backend.type = .tcp := htcp
    have hframe : BackendType.tcp.framing.IsFrame (w.ctx.backend.frame m) := by
      rw [← htype]
      exact isFrame_frame _ m (by rw [htype]; exact hroom)
    have hdecode : BackendType.tcp.decode (w.ctx.backend.frame m) =
        some { m with tid := w.ctx.backend.nextTid } := by
      rw [← htype]
      exact decode_frame _ m
    have htcp₁ : w₁.ctx.type = .tcp := by rw [hctx₁]; exact w.ctx.type_stepped.trans htcp
    have hnone₁ : w₁.ctx.errorRecovery = 0 := by rw [hctx₁]; exact hnone
    obtain ⟨fs, q, hout, hfs, hcontent, hq⟩ := ih htcp₁ hnone₁ hsends fun j m' n hm' hj hn =>
      hlast (j + 1) m' n hm' (by rw [List.length_cons]; omega) (by
        rw [hdev₁] at hn
        rw [← hn]
        exact congrArg w.dev.accepts (by change _ = w.dev.writes + 1 + j; omega))
    rw [hdev₁] at hout
    have hsent : sent (m :: ms) (r :: rs') =
        (r.map fun _ => m.content).toList ++ sent ms rs' := by
      cases r <;> rfl
    by_cases hall : p = w.ctx.backend.frame m
    · -- the frame has been accepted in full
      obtain ⟨n, rfl⟩ := Option.isSome_iff_exists.mp (hr.mpr hall)
      refine ⟨p :: fs, q, ?_, ?_, ?_, hq⟩
      · rw [hout, List.flatten_cons]
        simp only [List.append_assoc]
      · intro f hf
        rcases List.mem_cons.mp hf with rfl | hf
        · exact hall ▸ hframe
        · exact hfs f hf
      · rw [hsent, hall, List.filterMap_cons_some hdecode, List.map_cons, hcontent]
        rfl
    · have hrnone : r = none := by
        cases r with
        | none => rfl
        | some n => exact absurd (hr.mp rfl) hall
      have hsent' : sent (m :: ms) (r :: rs') = sent ms rs' := by
        rw [hsent, hrnone]
        rfl
      rw [hsent']
      rcases haccepts with rfl | hp' | ⟨n, hn, hshort⟩
      · -- the call of `send` has failed
        exact ⟨fs, q, by rw [hout, List.append_nil], hfs, hcontent, hq⟩
      · exact absurd hp' hall
      · -- a part has been accepted, so this is the last message
        have hms : ms = [] := by
          by_contra hne
          have hlen : 0 + 1 < (m :: ms).length := by
            have := List.length_pos_iff.mpr hne
            rw [List.length_cons]
            omega
          have := hlast 0 m n rfl hlen hn
          omega
        subst hms
        cases hsends
        have hlt : p.length < (w.ctx.backend.frame m).length :=
          lt_of_le_of_ne hp.length_le fun h => hall (hp.eq_of_length h)
        exact ⟨[], p, by rw [hdev₁]; rfl, by simp, rfl, Framing.next_of_prefix hframe hp hlt⟩

/-- A run of `tta_send` on a fresh TCP connection, in which nothing is sent behind a frame that was
accepted in part, and any number of calls of `tta_receive` at the other end: the messages delivered
are a subsequence of the messages sent with success. Each call of `send` may accept any number of
bytes or fail, and the fragments at the receiving end are arbitrary. -/
theorem delivered_sublist_sent {os : Os σ} {input : σ → Bytes} {other : σ → ρ}
    (hos : Feeds os input other never) (fuel fuel' : ℕ) (fgtm : Bool) (k : ℕ) {ms : List Ttamsg}
    {rs : List (Option ℕ)} {sender sender' : World Wire} (receiver : World σ)
    (hsender : sender.ctx.type = .tcp) (hnone : sender.ctx.errorRecovery = 0)
    (hfresh : sender.dev.output = [])
    (hrun : (ttaSends wireOs fuel ms).run sender = .ok (rs, sender'))
    (hlast : ∀ j m n, ms[j]? = some m → j + 1 < ms.length →
      sender.dev.accepts (sender.dev.writes + j) = .ok n → m.frameLength .tcp ≤ n)
    (hreceiver : receiver.ctx.type = .tcp) (hnone' : receiver.ctx.errorRecovery = 0)
    (hin : input receiver.dev = sender'.dev.output) :
    ∃ results receiver',
      (ttaReceives os fuel' fgtm k).run receiver = .ok (results, receiver') ∧
      (results.reduceOption.map fun r => r.2.content).Sublist (sent ms rs) := by
  obtain ⟨fs, p, hout, hfs, hcontent, hp⟩ := run_ttaSends_wire hsender hnone hrun hlast
  have hflag : receiver.ctx.backend.confirmationToIgnore = false := by
    obtain ⟨d, hbe⟩ := Tta.exists_tcp hreceiver
    rw [hbe]
    rfl
  obtain ⟨results, receiver', hreceives, hresults⟩ := run_ttaReceives hos fuel' fgtm k receiver
    (by rw [hreceiver]; simp) hnone' hflag
  refine ⟨results, receiver', hreceives, ?_⟩
  have hmessages : BackendType.tcp.messages k (fs.flatten ++ p) =
      (fs.take k).filterMap BackendType.tcp.decode := by
    have hintact : (fs.take k).filter BackendType.tcp.intact = fs.take k :=
      List.filter_eq_self.mpr fun _ _ => rfl
    rw [BackendType.messages, Framing.frames_flatten_append hfs hp, hintact]
  rw [hreceiver, hin, hout, hfresh, List.nil_append, hmessages] at hresults
  have hdelivered : (results.reduceOption.map fun r => r.2.content) =
      ((fs.take k).filterMap BackendType.tcp.decode).map Ttamsg.content := by
    rw [← hresults, List.map_map]
    rfl
  rw [hdelivered, ← hcontent]
  exact ((List.take_sublist k fs).filterMap _).map _

/-- The sending end of a fresh TCP connection. -/
def wireStart (accepts : ℕ → Except Errno ℕ) : World Wire :=
  ⟨ttaNewTcp "127.0.0.1" 502, .other 0, List.Vector.replicate 128 0, 0,
    ⟨[], accepts, 0, fun _ => 0⟩⟩

/-- Two messages, of which the first is not sent at all, and the second is received. -/
theorem delivered_sublist_sent_second :
    ∃ results receiver', (ttaReceives lineOs 0 false 3).run
        (tcpLine [0, 2, 0, 0, 2, 3, 17, 1, 0x05]) = .ok (results, receiver') ∧
      (results.reduceOption.map fun r => r.2.content).Sublist
        (sent [ttamsgMake 1 0 16 [0xAA] 1 (by decide), ttamsgMake 2 3 17 [0x05] 1 (by decide)]
          [none, some 9]) := by
  have hsends : ((ttaSends wireOs 0 [ttamsgMake 1 0 16 [0xAA] 1 (by decide),
      ttamsgMake 2 3 17 [0x05] 1 (by decide)]).run
        (wireStart fun k => if k = 0 then .error .EAGAIN else .ok 300)).map
          (fun r => (r.1, r.2.dev.output)) =
        .ok ([none, some 9], [0, 2, 0, 0, 2, 3, 17, 1, 0x05]) := by decide +kernel
  obtain ⟨⟨rs, sender'⟩, hrun, hresult⟩ := Exec.exists_of_map_eq_ok hsends
  obtain ⟨rfl, hout⟩ := Prod.mk.inj hresult
  refine delivered_sublist_sent feeds_lineOs 0 0 false 3
    (tcpLine [0, 2, 0, 0, 2, 3, 17, 1, 0x05]) rfl rfl rfl hrun ?_ rfl rfl hout.symm
  intro j m n hm hj hn
  obtain rfl : j = 0 := by
    change j + 1 < 2 at hj
    omega
  cases hn

/-- Of a first frame three bytes are accepted, and a second frame is sent behind them: the receiver
delivers a message that nobody has sent. -/
theorem delivered_not_sent :
    ((ttaSends wireOs 0 [ttamsgMake 1 0 16 [0xAA] 1 (by decide),
      ttamsgMake 2 3 17 [5, 6, 7] 3 (by decide)]).run
        (wireStart fun k => if k = 0 then .ok 3 else .ok 300)).map
          (fun r => (r.1, r.2.dev.output)) =
        .ok ([none, some 11], [0, 1, 0, 0, 2, 0, 0, 2, 3, 17, 3, 5, 6, 7]) ∧
      ((ttaReceives lineOs 0 false 1).run
        (tcpLine [0, 1, 0, 0, 2, 0, 0, 2, 3, 17, 3, 5, 6, 7])).map
          (fun r => r.1.reduceOption.map fun r => r.2.content) = .ok [(⟨2, 0, 0, 2⟩, [3, 17])] ∧
      ¬[((⟨2, 0, 0, 2⟩, [3, 17]) : TtamsgHd × Bytes)].Sublist
        (sent [ttamsgMake 1 0 16 [0xAA] 1 (by decide), ttamsgMake 2 3 17 [5, 6, 7] 3 (by decide)]
          [none, some 11]) :=
  ⟨by decide +kernel, by decide +kernel, by decide⟩

end Libtta
