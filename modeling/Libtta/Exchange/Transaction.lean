import Libtta.Context.Overrun
import Libtta.Exchange.Confirmation
import Libtta.Exchange.Server

/-!
# The transaction ids of a request and its reply

A TCP client accepts a reply when it carries the transaction id of the request. The encoder stamps
every packet with the counter of the context that builds it, and a reply is a packet like any other:
`tta_reply` does not look at the id of the message it answers. Client and server count their packets
independently, so the ids agree exactly when the numbers of packets that the client has built before
the request and the server before the reply are congruent modulo 65536, whatever has happened to the
two contexts before (`reply_carries_tid_iff`).
-/

namespace Libtta

variable {σ : Type} {os : Os σ} {fuel : ℕ} {w w' : World σ}

/-! ## Transaction ids in packets -/

/-- Different transaction ids have different bytes. -/
theorem tidBytes_inj {tid tid' : UInt16} : tidBytes tid = tidBytes tid' ↔ tid = tid' := by
  constructor
  · intro h
    obtain ⟨hhi, hlo⟩ := List.cons_eq_cons.mp h
    rw [← UInt16.toNat_inj, ← tid_of_tidBytes tid, ← tid_of_tidBytes tid', hhi,
      (List.cons_eq_cons.mp hlo).1]
  · rintro rfl
    rfl

/-- The counters agree after a step exactly when they agree before. -/
theorem nextTid_inj {tid tid' : UInt16} : nextTid tid = nextTid tid' ↔ tid = tid' := by
  have htid := tid.toNat_lt
  have htid' := tid'.toNat_lt
  rw [← UInt16.toNat_inj, ← UInt16.toNat_inj, toNat_nextTid, toNat_nextTid]
  omega

/-- The transaction id stands at the front of a packet. -/
theorem take_two_of_frame_prefix {d : TtaTcp} {m : Ttamsg} {pkt : Bytes}
    (h : (Backend.tcp d).frame m <+: pkt) : pkt.take 2 = tidBytes (nextTid d.tid) := by
  obtain ⟨rest, rfl⟩ := h
  rfl

/-- A TCP packet matches the request when its first two bytes do. -/
theorem matches_tcp_iff (d : TtaTcp) (req rsp : Bytes) :
    (Backend.tcp d).matches req rsp = true ↔ req.take 2 = rsp.take 2 := by
  rw [Backend.matches, Bool.and_eq_true, beq_iff_eq, beq_iff_eq]
  match req, rsp with
  | [], [] | [], [_] | [], _ :: _ :: _ => simp
  | [_], [] | [_], [_] | [_], _ :: _ :: _ => simp
  | _ :: _ :: _, [] | _ :: _ :: _, [_] | _ :: _ :: _, _ :: _ :: _ => simp

/-! ## One exchange -/

/-- On a line, a request is sent as its frame. -/
theorem output_of_ttaRequestSend {client client' : World Line} {req : Ttamsg}
    {reqbuf reqpkt : Bytes}
    {rc : Option ℕ} (hrf : client.ctx.type ≠ .rf)
    (hsend : (ttaRequestSend lineOs fuel req).run client = .ok ((reqbuf, rc), client'))
    (hout : client'.dev.output = client.dev.output ++ reqpkt) :
    reqpkt = client.ctx.backend.frame req ∧ reqpkt <+: reqbuf := by
  obtain ⟨buf, hrun, hpre⟩ := run_ttaRequestSend takes_lineOs fuel req client hrf
    (frameLength_le_of_ttaRequestSend hsend)
  rw [hrun] at hsend
  cases hsend
  obtain rfl := List.append_cancel_left hout
  exact ⟨rfl, hpre⟩

/-- On a line, a message is sent as its frame. -/
theorem output_of_ttaSend {server server' : World Line} {m : Ttamsg} {pkt : Bytes} {rc : Option ℕ}
    (hrf : server.ctx.type ≠ .rf) (hsend : (ttaSend lineOs fuel m).run server = .ok (rc, server'))
    (hout : server'.dev.output = server.dev.output ++ pkt) : pkt = server.ctx.backend.frame m := by
  rw [run_ttaSend takes_lineOs fuel server hrf (frameLength_le_of_ttaSend hsend)] at hsend
  cases hsend
  exact (List.append_cancel_left hout).symm

/-- The client sends a request, the server receives it, with its transaction id, and answers what it
has received, now or later: request and reply are sent as the frames that the two contexts build. -/
theorem packets_of_exchange {fgtm : Bool} {req m : Ttamsg}
    {data reqbuf reqpkt rest rsppkt : Bytes} {len i j : ℕ} {dc ds : TtaTcp}
    {client client' server server₁ server₂ server₃ : World Line}
    (hclient : client.ctx.backend = .tcp dc) (hstype : server.ctx.type = .tcp)
    (hserver : server₂.ctx.backend = .tcp ds)
    (hsend : (ttaRequestSend lineOs fuel req).run client = .ok ((reqbuf, some len), client'))
    (hreqpkt : client'.dev.output = client.dev.output ++ reqpkt)
    (hin : server.dev.input = reqpkt ++ rest)
    (hreceive : (ttaReceive lineOs fuel fgtm).run server = .ok (some (i, m), server₁))
    (hreply : (ttaReply lineOs fuel m data).run server₂ = .ok (some j, server₃))
    (hrsppkt : server₃.dev.output = server₂.dev.output ++ rsppkt) :
    reqpkt = (Backend.tcp dc).frame req ∧ reqpkt <+: reqbuf ∧
      m = { req with tid := (nextTid dc.tid).toNat } ∧
      rsppkt = (Backend.tcp ds).frame (replyMsg m data) := by
  have hctype : client.ctx.type = .tcp := congrArg Backend.type hclient
  have hsrf : server.ctx.type ≠ .rf := hstype ▸ by decide
  have hrf₂ : server₂.ctx.type ≠ .rf :=
    (congrArg Backend.type hserver).trans_ne (show BackendType.tcp ≠ .rf by decide)
  obtain ⟨hpkt, hreqbuf⟩ := output_of_ttaRequestSend (hctype ▸ by decide) hsend hreqpkt
  rw [hclient] at hpkt
  rw [hpkt] at hin
  have hfit : req.frameLength client.ctx.type ≤ maxMessageLength :=
    frameLength_le_of_ttaRequestSend hsend
  rw [hctype] at hfit
  have hflag : server.ctx.backend.confirmationToIgnore = false := by
    obtain ⟨d, hd⟩ := Tta.exists_tcp hstype
    rw [hd]
    rfl
  obtain ⟨d, hrun, -, -⟩ := run_ttaReceive_frame feeds_lineOs (fun _ _ h => h.elim) fuel fgtm
    hstype hsrf hflag hfit hin
  rw [hrun] at hreceive
  cases hreceive
  refine ⟨hpkt, hreqbuf, rfl, (output_of_ttaSend hrf₂ hreply hrsppkt).trans ?_⟩
  rw [hserver]

/-- Transaction matching: a TCP client in any reachable state sends a request on a line, the server
receives it, and answers what it has received, from any state that it may have reached by then. The
reply carries the transaction id of the request, and the client's check of the two packets succeeds,
exactly when the number `n` of packets that the client has built before the request and the number
`k` of those that the server has built before the reply are congruent modulo 65536. -/
theorem reply_carries_tid_iff {fgtm : Bool} {req m : Ttamsg}
    {data reqbuf reqpkt rest rsppkt : Bytes} {len i j n k : ℕ}
    {client client' server server₁ server₂ server₃ : World Line}
    (hclient : Reachable client.ctx n) (hctype : client.ctx.type = .tcp)
    (hstype : server.ctx.type = .tcp)
    (hsend : (ttaRequestSend lineOs fuel req).run client = .ok ((reqbuf, some len), client'))
    (hreqpkt : client'.dev.output = client.dev.output ++ reqpkt)
    (hin : server.dev.input = reqpkt ++ rest)
    (hreceive : (ttaReceive lineOs fuel fgtm).run server = .ok (some (i, m), server₁))
    (hserver : Reachable server₂.ctx k) (hstype₂ : server₂.ctx.type = .tcp)
    (hreply : (ttaReply lineOs fuel m data).run server₂ = .ok (some j, server₃))
    (hrsppkt : server₃.dev.output = server₂.dev.output ++ rsppkt) :
    (rsppkt.take 2 = reqpkt.take 2 ↔ n % 65536 = k % 65536) ∧
      ∀ (rspbuf : Bytes) (w : World Line), rsppkt <+: rspbuf → w.ctx = client'.ctx →
        ((∃ w', (preCheckConfirmation reqbuf rspbuf).run w = .ok (true, w')) ↔
          n % 65536 = k % 65536) := by
  obtain ⟨dc, hdc⟩ := Tta.exists_tcp hctype
  obtain ⟨ds, hds⟩ := Tta.exists_tcp hstype₂
  obtain ⟨rfl, hreqbuf, -, rfl⟩ := packets_of_exchange hdc hstype hds hsend hreqpkt hin hreceive
    hreply hrsppkt
  have htids : tidBytes (nextTid ds.tid) = tidBytes (nextTid dc.tid) ↔ n % 65536 = k % 65536 := by
    rw [tidBytes_inj, nextTid_inj, ← UInt16.toNat_inj, hclient.counts.tid dc hdc,
      hserver.counts.tid ds hds, eq_comm]
  refine ⟨htids, fun rspbuf w hrspbuf hw => ?_⟩
  have hbe : w.ctx.backend = .tcp { dc with tid := nextTid dc.tid } := by
    rw [hw, (backend_of_ttaRequestSend hsend).1, hdc]
    rfl
  have hmatches : w.ctx.backend.matches reqbuf rspbuf = true ↔ n % 65536 = k % 65536 := by
    rw [hbe, matches_tcp_iff, take_two_of_frame_prefix hreqbuf, take_two_of_frame_prefix hrspbuf,
      eq_comm, htids]
  rw [← hmatches,
    run_preCheckConfirmation (Backend.four_le_length_frame _ |>.trans hreqbuf.length_le)
      (Backend.four_le_length_frame _ |>.trans hrspbuf.length_le)]
  by_cases hm : w.ctx.backend.matches reqbuf rspbuf = true
  · rw [if_pos hm]
    exact iff_of_true ⟨w, rfl⟩ hm
  · rw [if_neg hm]
    refine iff_of_false ?_ hm
    rintro ⟨w', ⟨⟩⟩

/-- A message that needs no answer. -/
def notice : Ttamsg := ttamsgMake 1 0 0x20 [] 0 (by decide)

/-- The client has sent one message before, and the server sends one between receiving the request
and answering it: the reply is confirmed. -/
theorem reply_carries_tid_iff_unsolicited :
    ∃ client reqbuf client', (ttaSend lineOs 0 notice).run (tcpLine []) = .ok (some 8, client) ∧
      (ttaRequestSend lineOs 0 (ttamsgMake 1 0 0x10 [] 0 (by decide))).run client =
        .ok ((reqbuf, some 8), client') ∧
      ∀ (rspbuf : Bytes) (w : World Line), [0, 2, 0, 0, 1, 0, 0x90, 0] <+: rspbuf →
        w.ctx = client'.ctx →
        ∃ w', (preCheckConfirmation reqbuf rspbuf).run w = .ok (true, w') := by
  -- the client sends its message, and then the request
  obtain ⟨⟨rc, client⟩, hfirst, hclient⟩ := Exec.exists_of_map_eq_ok
    (show ((ttaSend lineOs 0 notice).run (tcpLine [])).map
      (fun r => (r.1, r.2.ctx.type, r.2.dev.output)) =
        .ok (some 8, .tcp, [0, 1, 0, 0, 1, 0, 0x20, 0]) by decide +kernel)
  obtain ⟨rfl, hclient⟩ := Prod.mk.inj hclient
  obtain ⟨hctype, hout⟩ := Prod.mk.inj hclient
  obtain ⟨⟨⟨reqbuf, rc⟩, client'⟩, hboth, hclient'⟩ := Exec.exists_of_map_eq_ok
    (show ((do
        let _ ← ttaSend lineOs 0 notice
        ttaRequestSend lineOs 0 (ttamsgMake 1 0 0x10 [] 0 (by decide)) :
          Machine Line (Bytes × Option ℕ)).run (tcpLine [])).map
      (fun r => (r.1.2, r.2.dev.output)) =
        .ok (some 8, [0, 1, 0, 0, 1, 0, 0x20, 0] ++ [0, 2, 0, 0, 1, 0, 0x10, 0]) by decide +kernel)
  obtain ⟨rfl, hout'⟩ := Prod.mk.inj hclient'
  have hsend := (Exec.run_bind_of_ok hfirst).symm.trans hboth
  have hcall : ((Call.send notice).run lineOs 0).run (tcpLine []) = .ok ((), client) :=
    (Exec.run_bind_of_ok hfirst).trans rfl
  -- the server receives the request, sends a message, and then the reply
  obtain ⟨⟨r, server₁⟩, hreceive, hr⟩ := Exec.exists_of_map_eq_ok
    (show ((ttaReceive lineOs 0 false).run (tcpLine [0, 2, 0, 0, 1, 0, 0x10, 0])).map
      (fun r => r.1.map Prod.fst) = .ok (some 8) by decide +kernel)
  obtain ⟨⟨i, m⟩, rfl, -⟩ := Option.map_eq_some_iff.mp hr
  obtain ⟨⟨_, server₃⟩, hanswer, hserver₃⟩ := Exec.exists_of_map_eq_ok
    (show ((do
        let received ← ttaReceive lineOs 0 false
        received.elim (return none) fun req => do
          let _ ← ttaSend lineOs 0 notice
          let before ← get
          let rc ← ttaReply lineOs 0 req.2 []
          return rc.map fun n => (n, before.ctx.type, before.dev.output) :
            Machine Line (Option (ℕ × BackendType × Bytes))).run
              (tcpLine [0, 2, 0, 0, 1, 0, 0x10, 0])).map (fun r => (r.1, r.2.dev.output)) =
        .ok (some (8, .tcp, [0, 1, 0, 0, 1, 0, 0x20, 0]),
          [0, 1, 0, 0, 1, 0, 0x20, 0] ++ [0, 2, 0, 0, 1, 0, 0x90, 0]) by decide +kernel)
  obtain ⟨hanswered, hout₃⟩ := Prod.mk.inj hserver₃
  cases hanswered
  replace hanswer := (Exec.run_bind_of_ok hreceive).symm.trans hanswer
  obtain ⟨_, server₂, hnotice, hanswer⟩ := Exec.run_bind_eq_ok.mp hanswer
  obtain ⟨_, _, ⟨⟩, hanswer⟩ := Exec.run_bind_eq_ok.mp hanswer
  obtain ⟨rc, _, hreply, hreturn⟩ := Exec.run_bind_eq_ok.mp hanswer
  obtain ⟨hsome, rfl⟩ := Prod.mk.inj (Except.ok.inj hreturn)
  obtain ⟨j, rfl, hvalues⟩ := Option.map_eq_some_iff.mp hsome
  obtain ⟨rfl, hbefore⟩ := Prod.mk.inj hvalues
  obtain ⟨hstype, hout₂⟩ := Prod.mk.inj hbefore
  have hreceived : ((Call.receive false).run lineOs 0).run
      (tcpLine [0, 2, 0, 0, 1, 0, 0x10, 0]) = .ok ((), server₁) :=
    (Exec.run_bind_of_ok hreceive).trans rfl
  have hnoticed : ((Call.send notice).run lineOs 0).run server₁ = .ok ((), server₂) :=
    (Exec.run_bind_of_ok hnotice).trans rfl
  have hserver : Reachable server₂.ctx 1 :=
    .call lineOs 0 (.send notice) (.call lineOs 0 (.receive false) (.newTcp _ _) hreceived) hnoticed
  have hrsppkt : _ = server₂.dev.output ++ [0, 2, 0, 0, 1, 0, 0x90, 0] :=
    hout₃.trans (congrArg (· ++ [0, 2, 0, 0, 1, 0, 0x90, 0]) hout₂).symm
  obtain ⟨-, hcheck⟩ := reply_carries_tid_iff (n := 1)
    (.call lineOs 0 (.send notice) (.newTcp _ _) hcall) hctype rfl hsend
    (hout'.trans (congrArg (· ++ [0, 2, 0, 0, 1, 0, 0x10, 0]) hout).symm) rfl hreceive hserver
    hstype hreply hrsppkt
  exact ⟨client, reqbuf, client', hfirst, hsend, fun rspbuf w hpre hw =>
    (hcheck rspbuf w hpre hw).mpr rfl⟩

/-- After the client has sent a message that needs no answer, the server's reply to its next request
carries another transaction id than the request, and the request fails. -/
theorem reply_tid_differs :
    ((do
      let _ ← ttaSend lineOs 0 notice
      ttaRequestSend lineOs 0 (ttamsgMake 1 0 0x10 [] 0 (by decide)) :
        Machine Line (Bytes × Option ℕ)).run (tcpLine [])).map (fun r => r.2.dev.output) =
        .ok [0, 1, 0, 0, 1, 0, 0x20, 0, 0, 2, 0, 0, 1, 0, 0x10, 0] ∧
      ((do
        let _ ← ttaReceive lineOs 0 false
        serve lineOs 0 fun _ => [] : Machine Line (Option ℕ)).run
          (tcpLine [0, 1, 0, 0, 1, 0, 0x20, 0, 0, 2, 0, 0, 1, 0, 0x10, 0])).map
        (fun r => r.2.dev.output) = .ok [0, 1, 0, 0, 1, 0, 0x90, 0] ∧
      ((do
        let _ ← ttaSend lineOs 0 notice
        ttaRequest lineOs 0 (ttamsgMake 1 0 0x10 [] 0 (by decide)) :
          Machine Line (Option Ttamsg)).run (tcpLine [0, 1, 0, 0, 1, 0, 0x90, 0])).map
        (fun r => (r.1.isSome, r.2.errno)) = .ok (false, .EMBBADDATA) :=
  ⟨by decide +kernel, by decide +kernel, by decide +kernel⟩

end Libtta
