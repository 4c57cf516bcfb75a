import Libtta.Exchange.Completeness

/-!
# Late replies

A client that makes requests one after the other neither numbers them nor drains its input before it
sends the next one. As long as every response has been read in full, every reply is read by the
request it belongs to, whatever the schedule: an exchange on a quiet link that delivers or rejects
its response leaves the link quiet (`delivered_own_reply`). A request that times out leaves its
reply under way, and a request that refuses a reply as too long leaves most of it to be read: a
later request to the same device with the same command is then answered with what is left.
-/

namespace Libtta

variable {payload : Payload} {schedule : Link → List LinkEvent}

/-- Make requests one after the other; of each, the result and `errno` are kept. -/
def ttaRequests {σ : Type} (os : Os σ) (fuel : ℕ) :
    List Ttamsg → Machine σ (List (Option Ttamsg × Errno))
  | [] => return []
  | req :: reqs => do
    let r ← ttaRequest os fuel req
    let e := (← get).errno
    return (r, e) :: (← ttaRequests os fuel reqs)

/-- The first request, and then the others. -/
theorem run_ttaRequests_cons {σ : Type} {os : Os σ} {fuel : ℕ} {req : Ttamsg} {reqs : List Ttamsg}
    {r : Option Ttamsg} {results : List (Option Ttamsg × Errno)} {w w₁ w₂ : World σ}
    (h₁ : (ttaRequest os fuel req).run w = .ok (r, w₁))
    (h₂ : (ttaRequests os fuel reqs).run w₁ = .ok (results, w₂)) :
    (ttaRequests os fuel (req :: reqs)).run w = .ok ((r, w₁.errno) :: results, w₂) := by
  have hget : (get : Machine σ (World σ)).run w₁ = .ok (w₁, w₁) := rfl
  unfold ttaRequests
  rw [Exec.run_bind_of_ok h₁, Exec.run_bind_of_ok hget, Exec.run_bind_of_ok h₂]
  rfl

/-- There is one result for each request. -/
theorem length_of_ttaRequests {σ : Type} {os : Os σ} {fuel : ℕ} {reqs : List Ttamsg}
    {results : List (Option Ttamsg × Errno)} {w w' : World σ}
    (h : (ttaRequests os fuel reqs).run w = .ok (results, w')) : results.length = reqs.length := by
  induction reqs generalizing results w with
  | nil =>
    cases h
    rfl
  | cons req reqs ih =>
    obtain ⟨r, w₁, -, h⟩ := Exec.run_bind_eq_ok.mp h
    obtain ⟨w₂, w₃, -, h⟩ := Exec.run_bind_eq_ok.mp h
    obtain ⟨rs, w₄, hrs, ⟨⟩⟩ := Exec.run_bind_eq_ok.mp h
    exact congrArg (· + 1) (ih hrs)

/-! ## Every request returns -/

/-- Without error recovery a request that fits its buffer returns, whatever is under way on the
link, and leaves the context of an RS485 client alone. -/
theorem exists_run_ttaRequest (payload : Payload) (schedule : Link → List LinkEvent) (fuel : ℕ)
    {w : World Link} {req : Ttamsg} (htype : w.ctx.type = .rs485)
    (hflag : w.ctx.backend.confirmationToIgnore = false) (hnone : w.ctx.errorRecovery = 0)
    (hreq : req.frameLength .rs485 ≤ maxMessageLength) :
    ∃ r w', (ttaRequest (linkOs payload schedule) fuel req).run w = .ok (r, w') ∧
      w'.ctx = w.ctx := by
  obtain ⟨reqbuf, hsend, hframe⟩ := run_ttaRequestSend_link payload schedule fuel htype hreq
  obtain ⟨r, w', hreceive, hend⟩ := run_ttaRequestReceive (feeds_linkOs payload schedule) fuel
    (w := { w with dev := w.dev.write (w.ctx.backend.frame req) })
    (w.ctx.backend.four_le_length_frame.trans hframe.length_le) (by rw [htype]; decide) hflag
    (.of_none hnone) (.inl (w.ctx.recoversProtocol_of_none hnone))
  refine ⟨r, w', (Exec.run_bind_of_ok hsend).trans hreceive, ?_⟩
  cases hend <;> rfl

/-- Without error recovery every run of requests that fit their buffers returns. -/
theorem exists_run_ttaRequests (payload : Payload) (schedule : Link → List LinkEvent) (fuel : ℕ)
    (reqs : List Ttamsg) {w : World Link} (htype : w.ctx.type = .rs485)
    (hflag : w.ctx.backend.confirmationToIgnore = false) (hnone : w.ctx.errorRecovery = 0)
    (hreqs : ∀ req ∈ reqs, req.frameLength .rs485 ≤ maxMessageLength) :
    ∃ results w', (ttaRequests (linkOs payload schedule) fuel reqs).run w = .ok (results, w') := by
  induction reqs generalizing w with
  | nil => exact ⟨[], w, rfl⟩
  | cons req reqs ih =>
    obtain ⟨r, w₁, h₁, hctx⟩ := exists_run_ttaRequest payload schedule fuel htype hflag hnone
      (hreqs req List.mem_cons_self)
    rw [← hctx] at htype hflag hnone
    obtain ⟨results, w₂, h₂⟩ := ih htype hflag hnone fun req' h =>
      hreqs req' (List.mem_cons_of_mem req h)
    exact ⟨_, w₂, run_ttaRequests_cons h₁ h₂⟩

/-! ## One exchange on a quiet link -/

/-- A request beyond the limit of RS485 is refused by the server. -/
theorem Server.Waits.answer_of_long {s : Server} {k : ℕ} (h : s.Waits k) {be : Backend}
    {req : Ttamsg} (hbe : be.type = .rs485)
    (hlong : BackendType.rs485.maxAduLength < req.frameLength .rs485) :
    (s.answer payload (be.frame req)).1 = [] := by
  have htype : (s.input (be.frame req)).ctx.type = be.type := h.type.trans hbe.symm
  obtain ⟨w', hreceive, hout⟩ := run_ttaReceive_long 0 false be htype
    (by rw [htype, hbe]; decide) h.flag (h.input_input _) (by rw [hbe]; exact hlong)
  have hserve : (serve lineOs 0 (payload s.served)).run (s.input (be.frame req)) =
      .ok (none, w') := (Exec.run_bind_of_ok hreceive).trans rfl
  unfold Server.answer
  rw [hserve]
  exact hout

/-- A reply that does not fit its buffer is not written. -/
theorem Server.Waits.answer_of_overrun {s : Server} {k : ℕ} (h : s.Waits k) {be : Backend}
    {req : Ttamsg} (hbe : be.type = .rs485)
    (hreq : req.frameLength .rs485 ≤ BackendType.rs485.maxAduLength)
    (hroom : ¬(replyMsg req (payload k { req with tid := 0 })).frameLength .rs485 ≤
      maxMessageLength) : (s.answer payload (be.frame req)).1 = [] := by
  have htype : (s.input (be.frame req)).ctx.type = be.type := h.type.trans hbe.symm
  obtain ⟨d, hreceive, -, -⟩ := run_ttaReceive_frame feeds_lineOs (fun _ _ h => h.elim) 0 false
    htype (by rw [htype, hbe]; decide) h.flag (by rw [hbe]; exact hreq)
    ((h.input_input _).trans (List.append_nil _).symm)
  rw [Backend.nextTid_of_rs485 hbe] at hreceive
  have hsend : (ttaReply lineOs 0 { req with tid := 0 }
      (payload s.served { req with tid := 0 })).run
        { s.input (be.frame req) with dev := d } = .error (.store .pkt) := by
    refine not_not.mp (mt (run_ttaSend_ne_iff lineOs 0 _ _).mp ?_)
    rw [h.served]
    change ¬Ttamsg.frameLength _ s.world.ctx.type ≤ _
    rw [h.type]
    exact hroom
  have hserve : (serve lineOs 0 (payload s.served)).run (s.input (be.frame req)) =
      .error (.store .pkt) := (Exec.run_bind_of_ok hreceive).trans hsend
  unfold Server.answer
  rw [hserve]

/-- When a request or the reply to it is beyond the limit of RS485, the server writes nothing that
could be read as a packet: it refuses the request, overruns its buffer, or writes a frame that
announces too much. -/
theorem Server.Waits.next_answer_ne_frame {s : Server} {k : ℕ} (h : s.Waits k) {be : Backend}
    {req : Ttamsg} (hbe : be.type = .rs485)
    (hlong : ¬(req.frameLength .rs485 ≤ BackendType.rs485.maxAduLength ∧
      (replyMsg req (payload k { req with tid := 0 })).frameLength .rs485 ≤
        BackendType.rs485.maxAduLength)) (f : Bytes) :
    BackendType.rs485.framing.next (s.answer payload (be.frame req)).1 ≠ .frame f := by
  have hnil : BackendType.rs485.framing.next [] ≠ .frame f := by
    rw [Framing.next_nil]
    rintro ⟨⟩
  by_cases hreq : req.frameLength .rs485 ≤ BackendType.rs485.maxAduLength
  · by_cases hroom : (replyMsg req (payload k { req with tid := 0 })).frameLength .rs485 ≤
        maxMessageLength
    · have hreply := not_le.mp fun hreply => hlong ⟨hreq, hreply⟩
      have hnext := next_frame_of_limit_lt be (replyMsg req (payload k { req with tid := 0 }))
        (by rw [hbe]; exact hreply)
      rw [hbe] at hnext
      rw [(h.answer hbe hreq hroom).1, hnext]
      rintro ⟨⟩
    · rw [h.answer_of_overrun hbe hreq hroom]
      exact hnil
  · rw [h.answer_of_long hbe (not_le.mp hreq)]
    exact hnil

/-- A request on a quiet link that returns a message or rejects a response has read the whole reply
to itself, and leaves the link quiet. Nothing is assumed about the lengths of request and reply. -/
theorem exchangeEnd_of_ttaRequest {fuel : ℕ} {w w' : World Link} {k : ℕ} {req : Ttamsg}
    {r : Option Ttamsg} (htype : w.ctx.type = .rs485)
    (hflag : w.ctx.backend.confirmationToIgnore = false) (hnone : w.ctx.errorRecovery = 0)
    (hquiet : w.dev.Quiet payload k)
    (hrun : (ttaRequest (linkOs payload schedule) fuel req).run w = .ok (r, w'))
    (hread : r = none → w'.errno = .EMBBADSLAVE) : ExchangeEnd payload k req never w r w' := by
  obtain ⟨_, w₁, hsent, -⟩ := Exec.run_bind_eq_ok.mp hrun
  have hroom := frameLength_le_of_ttaRequestSend hsent
  rw [htype] at hroom
  by_cases hfit : req.frameLength .rs485 ≤ BackendType.rs485.maxAduLength ∧
      (replyMsg req (payload k { req with tid := 0 })).frameLength .rs485 ≤
        BackendType.rs485.maxAduLength
  · obtain ⟨_, _, hrun', hend⟩ := run_ttaRequest_quiet (feeds_linkOs payload schedule) fuel htype
      hflag hquiet hfit.1 hfit.2 (.inl hnone)
    rw [hrun] at hrun'
    cases hrun'
    cases hend with
    | delivered hcmd hd => exact .delivered hcmd hd
    | rejected hcmd hd => exact .rejected hcmd hd
    | failed he =>
      have herrno := hread rfl
      rw [he] at herrno
      cases herrno
  · -- nothing that the client reads is a packet
    obtain ⟨reqbuf, hsend, hframe⟩ :=
      run_ttaRequestSend_link payload schedule fuel htype hroom
    have hin : (w.dev.write (w.ctx.backend.frame req)).input payload =
        ((w.dev.settled payload).answer payload (w.ctx.backend.frame req)).1 := by
      rw [w.dev.input_write, hquiet.input, List.nil_append]
    obtain ⟨w'', hreceive, herrno⟩ := run_ttaRequestReceive_of_next_ne_frame
      (feeds_linkOs payload schedule) fuel
      (w := { w with dev := w.dev.write (w.ctx.backend.frame req) })
      (w.ctx.backend.four_le_length_frame.trans hframe.length_le) (by rw [htype]; decide) hflag
      hnone (by rw [hin, htype]; exact hquiet.server.next_answer_ne_frame htype hfit)
    have hrun' : (ttaRequest (linkOs payload schedule) fuel req).run w = .ok (none, w'') :=
      (Exec.run_bind_of_ok hsend).trans hreceive
    cases hrun.symm.trans hrun'
    rw [hread rfl] at herrno
    rcases herrno with ⟨⟨⟩⟩ | ⟨⟨⟩⟩ | ⟨-, ⟨⟨⟩⟩⟩

/-! ## Runs of requests -/

/-- As long as every request that has failed was one that rejected its response, each that succeeds
delivers the reply to itself: the request with number `j` is the one that the server takes with
number `k + j`. -/
def OwnReplies (payload : Payload) (k : ℕ) (reqs : List Ttamsg)
    (results : List (Option Ttamsg × Errno)) : Prop :=
  ∀ (j : ℕ) (req m : Ttamsg) (e : Errno), reqs[j]? = some req → results[j]? = some (some m, e) →
    (∀ i < j, ∀ e', results[i]? = some (none, e') → e' = .EMBBADSLAVE) →
    m = replyMsg req (payload (k + j) { req with tid := 0 })

/-- The first request delivers its own reply, if any, and either it has failed without reading its
response or the others deliver their own replies. -/
theorem OwnReplies.cons {k : ℕ} {req : Ttamsg} {reqs : List Ttamsg} {r : Option Ttamsg} {e : Errno}
    {results : List (Option Ttamsg × Errno)}
    (hfirst : ∀ m, r = some m → m = replyMsg req (payload k { req with tid := 0 }))
    (hrest : (r = none ∧ e ≠ .EMBBADSLAVE) ∨ OwnReplies payload (k + 1) reqs results) :
    OwnReplies payload k (req :: reqs) ((r, e) :: results) := by
  rintro (_ | j) req' m e' hreq hm hearlier
  · obtain rfl : req = req' := Option.some.inj hreq
    exact hfirst m (congrArg Prod.fst (Option.some.inj hm))
  · rcases hrest with ⟨hnone, he⟩ | hrest
    · exact absurd (hearlier 0 (Nat.succ_pos j) e (by rw [hnone]; rfl)) he
    · rw [show k + (j + 1) = k + 1 + j by omega]
      exact hrest j req' m e' hreq hm fun i hi => hearlier (i + 1) (Nat.succ_lt_succ hi)

/-- From a quiet link on, a run of requests delivers each its own reply as long as every response
has been read. The induction is on the requests: an exchange that has read its response leaves the
link quiet. -/
theorem ownReplies_of_ttaRequests {fuel : ℕ} {reqs : List Ttamsg} {w w' : World Link} {k : ℕ}
    {results : List (Option Ttamsg × Errno)} (htype : w.ctx.type = .rs485)
    (hflag : w.ctx.backend.confirmationToIgnore = false) (hnone : w.ctx.errorRecovery = 0)
    (hquiet : w.dev.Quiet payload k)
    (hrun : (ttaRequests (linkOs payload schedule) fuel reqs).run w = .ok (results, w')) :
    OwnReplies payload k reqs results := by
  induction reqs generalizing w k results with
  | nil =>
    intro j req m e hreq
    cases hreq
  | cons req reqs ih =>
    obtain ⟨r, w₁, hfirst, hrun⟩ := Exec.run_bind_eq_ok.mp hrun
    obtain ⟨_, _, ⟨⟩, hrun⟩ := Exec.run_bind_eq_ok.mp hrun
    obtain ⟨results, w₂, hrest, ⟨⟩⟩ := Exec.run_bind_eq_ok.mp hrun
    by_cases hread : r = none → w₁.errno = .EMBBADSLAVE
    · cases exchangeEnd_of_ttaRequest htype hflag hnone hquiet hfirst hread with
      | @delivered d hcmd hd =>
        apply OwnReplies.cons
        · rintro _ ⟨⟩
          rfl
        · exact .inr (ih (w := { w with dev := d }) htype hflag hnone hd hrest)
      | @rejected d hcmd hd =>
        apply OwnReplies.cons
        · rintro _ ⟨⟩
        · exact .inr (ih (w := { w with dev := d, errno := .EMBBADSLAVE }) htype hflag hnone hd
            hrest)
      | failed hfail => exact hfail.elim
    · obtain ⟨rfl, herrno⟩ := Classical.not_imp.mp hread
      apply OwnReplies.cons
      · rintro _ ⟨⟩
      · exact .inl ⟨rfl, herrno⟩

/-- Answers and exchanges: on an RS485 link with nothing under way, without error recovery, every
run of requests that fit their buffers returns, under every schedule of the server's and the link's
delays. In every run that returns, as long as every request that has failed was one that rejected
its response, each that succeeds delivers the server's reply to that very request. -/
theorem delivered_own_reply (schedule : Link → List LinkEvent) (fuel : ℕ) (reqs : List Ttamsg)
    {client : World Link} {n k : ℕ} (hclient : Reachable client.ctx n)
    (hserver : Reachable client.dev.server.world.ctx k) (hctype : client.ctx.type = .rs485)
    (hstype : client.dev.server.world.ctx.type = .rs485) (hnone : client.ctx.errorRecovery = 0)
    (hempty : client.dev.Empty) :
    ((∀ req ∈ reqs, req.frameLength .rs485 ≤ maxMessageLength) →
      ∃ results client', (ttaRequests (linkOs payload schedule) fuel reqs).run client =
        .ok (results, client')) ∧
    ∀ results client', (ttaRequests (linkOs payload schedule) fuel reqs).run client =
        .ok (results, client') →
      results.length = reqs.length ∧
        OwnReplies payload client.dev.server.served reqs results := by
  constructor
  · intro hreqs
    exact exists_run_ttaRequests payload schedule fuel reqs hctype hclient.counts.flag hnone hreqs
  · intro results client' hrun
    exact ⟨length_of_ttaRequests hrun, ownReplies_of_ttaRequests hctype hclient.counts.flag hnone
      (hempty.quiet hserver hstype) hrun⟩

/-- The replies of a server that numbers them. -/
def numbered (k : ℕ) (_ : Ttamsg) : Bytes := [UInt8.ofNat k]

/-- Two requests to a server that answers at once. -/
theorem delivered_own_reply_fresh :
    ∃ results client', (ttaRequests (linkOs numbered eager) 0
        [ttamsgMake 1 0 0x10 [] 0 (by decide), ttamsgMake 1 0 0x10 [] 0 (by decide)]).run
        linkStart =
          .ok (results, client') ∧ results.length = 2 ∧
      OwnReplies numbered 0
        [ttamsgMake 1 0 0x10 [] 0 (by decide), ttamsgMake 1 0 0x10 [] 0 (by decide)] results := by
  set reqs := [ttamsgMake 1 0 0x10 [] 0 (by decide), ttamsgMake 1 0 0x10 [] 0 (by decide)]
  have hrun : ∃ results client', (ttaRequests (linkOs numbered eager) 0 reqs).run linkStart =
      .ok (results, client') :=
    (delivered_own_reply eager 0 reqs (.newRs485 _ _ _) (.newRs485 _ _ _) rfl rfl rfl
      ⟨rfl, rfl, rfl, rfl⟩).1 (by decide)
  obtain ⟨results, client', hrun⟩ := hrun
  exact ⟨results, client', hrun,
    (delivered_own_reply eager 0 reqs (.newRs485 _ _ _) (.newRs485 _ _ _) rfl
    rfl rfl ⟨rfl, rfl, rfl, rfl⟩).2 results client' hrun⟩

/-- A server that is late for the first wait, and catches up during the second. -/
def late (d : Link) : List LinkEvent := if d.waits = 0 then [] else [.serve, .serve, .arrive 300]

/-- The replies of a server that numbers them, but whose first reply is too long, and starts with
the frame of another one. -/
def firstTooLong (k : ℕ) (_ : Ttamsg) : Bytes :=
  if k = 0 then
    (ttaNewRs485 "/dev/ttyS0").backend.frame (ttamsgMake 1 0 0x90 [7] 1 (by decide)) ++
      List.replicate 242 0
  else [UInt8.ofNat k]

/-- Of two equal requests the second delivers a message that is not the reply to it: the reply to
the first, when that has timed out, and what the reply to the first contains, when that was too
long. -/
theorem late_reply_delivered :
    ((ttaRequests (linkOs numbered late) 0
        [ttamsgMake 1 0 0x10 [] 0 (by decide), ttamsgMake 1 0 0x10 [] 0 (by decide)]).run
          linkStart).map (fun r => r.1.map fun r => (r.1.map Ttamsg.content, r.2)) =
        .ok [(none, .ETIMEDOUT), (some (⟨1, 0, 0x90, 1⟩, [0]), .ETIMEDOUT)] ∧
      ((ttaRequests (linkOs firstTooLong eager) 0
        [ttamsgMake 1 0 0x10 [] 0 (by decide), ttamsgMake 1 0 0x10 [] 0 (by decide)]).run
          linkStart).map (fun r => r.1.map fun r => (r.1.map Ttamsg.content, r.2)) =
        .ok [(none, .EMBBADDATA), (some (⟨1, 0, 0x90, 1⟩, [7]), .EMBBADDATA)] ∧
      (replyMsg (ttamsgMake 1 0 0x10 [] 0 (by decide))
        (numbered 1 (ttamsgMake 1 0 0x10 [] 0 (by decide)))).content = (⟨1, 0, 0x90, 1⟩, [1]) ∧
      (replyMsg (ttamsgMake 1 0 0x10 [] 0 (by decide))
        (firstTooLong 1 (ttamsgMake 1 0 0x10 [] 0 (by decide)))).content = (⟨1, 0, 0x90, 1⟩, [1]) :=
  ⟨by decide +kernel, by decide +kernel, by decide, by decide⟩

end Libtta
