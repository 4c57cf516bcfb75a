import Libtta.Exchange.Late
import Libtta.Exchange.Transaction

/-!
# Sessions over TCP

A TCP client makes requests one after the other of a server that answers each of them. Client and
server count their packets, and the client reads the replies in the order in which they were sent.
So the transaction id that a request waits for and the one that the next reply carries move on
together: if they agree once they always do, and if they differ once they always do. A session is
all or nothing (`session_all_or_nothing`). In particular a connection on which one reply has not
been read, because a request has timed out, say, never works again.
-/

namespace Libtta

variable {payload : Payload} {schedule : Link → List LinkEvent}

/-! ## Frames and replies -/

/-- Frames of more messages are built behind those of the first ones. -/
theorem Backend.frames_append (be : Backend) (ms ms' : List Ttamsg) :
    be.frames (ms ++ ms') = be.frames ms ++ (Backend.stepped^[ms.length] be).frames ms' := by
  induction ms generalizing be with
  | nil => rfl
  | cons m ms ih => exact congrArg (be.frame m :: ·) (ih be.stepped)

/-- What a server replies to the requests that a client with the backend `be` makes, from the
request with number `k` on. -/
def replies (payload : Payload) : Backend → ℕ → List Ttamsg → List Ttamsg
  | _, _, [] => []
  | be, k, req :: reqs =>
    replyMsg req (payload k { req with tid := be.nextTid }) ::
      replies payload be.stepped (k + 1) reqs

/-- There is a reply to each request. -/
theorem length_replies (payload : Payload) (be : Backend) (k : ℕ) (reqs : List Ttamsg) :
    (replies payload be k reqs).length = reqs.length := by
  induction reqs generalizing be k with
  | nil => rfl
  | cons req reqs ih => exact congrArg (· + 1) (ih be.stepped (k + 1))

/-! ## The server's part -/

/-- A TCP server with the backend `be` that waits for the request with number `k`. -/
structure Server.Ready (s : Server) (be : Backend) (k : ℕ) : Prop where
  backend : s.world.ctx.backend = be
  type : be.type = .tcp
  input : s.world.dev.input = []
  served : s.served = k

/-- TCP has no confirmation to ignore. -/
theorem Backend.confirmationToIgnore_of_tcp {be : Backend} (h : be.type = .tcp) :
    be.confirmationToIgnore = false := by
  cases be with
  | tcp d => rfl
  | rs485 d => cases h
  | rf d => cases h

variable (payload) in
/-- A server that is ready answers a request, and is ready again. -/
theorem Server.Ready.answer {s : Server} {be be' : Backend} {k : ℕ} (h : s.Ready be k)
    {req : Ttamsg} (hbe' : be'.type = .tcp)
    (hreq : req.frameLength .tcp ≤ BackendType.tcp.maxAduLength)
    (hreply : (replyMsg req (payload k { req with tid := be'.nextTid })).frameLength .tcp ≤
      BackendType.tcp.maxAduLength) :
    (s.answer payload (be'.frame req)).1 =
        be.frame (replyMsg req (payload k { req with tid := be'.nextTid })) ∧
      (s.answer payload (be'.frame req)).2.Ready be.stepped (k + 1) := by
  have hstype : s.world.ctx.type = .tcp := (congrArg Backend.type h.backend).trans h.type
  have hin : (s.input (be'.frame req)).dev.input = be'.frame req ++ [] := by
    change s.world.dev.input ++ be'.frame req = _
    rw [h.input, List.nil_append, List.append_nil]
  obtain ⟨n, d, hserve, hrest, hout⟩ := run_serve_frame 0 (payload s.served) be' req
    (w := s.input (be'.frame req)) (hstype.trans hbe'.symm)
    (by change s.world.ctx.type ≠ .rf; rw [hstype]; decide)
    (by
      change s.world.ctx.backend.confirmationToIgnore = false
      rw [h.backend]
      exact Backend.confirmationToIgnore_of_tcp h.type)
    (by rw [hbe']; exact hreq)
    (by
      change Ttamsg.frameLength _ s.world.ctx.type ≤ _
      rw [hstype, h.served]
      exact hreply) hin
  rw [h.served] at hout
  have hanswer : s.answer payload (be'.frame req) =
      (d.output, ⟨{ s.input (be'.frame req) with ctx := s.world.ctx.stepped, dev := d },
        s.served + 1⟩) := by
    rw [Server.answer, hserve]
    rfl
  rw [hanswer, hout]
  refine ⟨congrArg (Backend.frame · _) h.backend, ?_, ?_, hrest, by rw [h.served]⟩
  · exact congrArg Backend.stepped h.backend
  · exact be.type_stepped.trans h.type

/-- The requests and their replies are within the limit of TCP. -/
def AllFit (ms : List Ttamsg) : Prop :=
  ∀ m ∈ ms, m.frameLength .tcp ≤ BackendType.tcp.maxAduLength

instance (ms : List Ttamsg) : Decidable (AllFit ms) := List.decidableBAll _ ms

/-- A server that is ready answers requests one after the other. -/
theorem Server.Ready.answers {s : Server} {be be' : Backend} {k : ℕ} {reqs : List Ttamsg}
    (h : s.Ready be k) (hbe' : be'.type = .tcp) (hreqs : AllFit reqs)
    (hreplies : AllFit (replies payload be' k reqs)) :
    (s.answers payload (be'.frames reqs)).1 = (be.frames (replies payload be' k reqs)).flatten ∧
      (s.answers payload (be'.frames reqs)).2.Ready (Backend.stepped^[reqs.length] be)
        (k + reqs.length) := by
  induction reqs generalizing s be be' k with
  | nil => exact ⟨rfl, h⟩
  | cons req reqs ih =>
    obtain ⟨hout, hready⟩ := h.answer payload hbe' (hreqs req List.mem_cons_self)
      (hreplies _ List.mem_cons_self)
    obtain ⟨houts, hready'⟩ := ih hready (be'.type_stepped.trans hbe')
      (fun m hm => hreqs m (List.mem_cons_of_mem _ hm))
      (fun m hm => hreplies m (List.mem_cons_of_mem _ hm))
    rw [Nat.add_right_comm] at hready'
    exact ⟨congrArg₂ (· ++ ·) hout houts, hready'⟩

/-! ## One request -/

/-- The replies `ms` are still to be read, the first of which has been built with the backend
`first`, and the server is going to wait for the request with number `k`. -/
structure Link.Unread (payload : Payload) (d : Link) (first : Backend) (ms : List Ttamsg) (k : ℕ) :
    Prop where
  type : first.type = .tcp
  fit : AllFit ms
  input : d.input payload = (first.frames ms).flatten
  server : (d.settled payload).Ready (Backend.stepped^[ms.length] first) k

/-- A request adds the reply to it. -/
theorem Link.Unread.write {d : Link} {first be : Backend} {ms : List Ttamsg} {k : ℕ} {req : Ttamsg}
    (h : d.Unread payload first ms k) (hbe : be.type = .tcp)
    (hreq : req.frameLength .tcp ≤ BackendType.tcp.maxAduLength)
    (hreply : (replyMsg req (payload k { req with tid := be.nextTid })).frameLength .tcp ≤
      BackendType.tcp.maxAduLength) :
    (d.write (be.frame req)).Unread payload first
      (ms ++ [replyMsg req (payload k { req with tid := be.nextTid })]) (k + 1) := by
  obtain ⟨hout, hready⟩ := h.server.answer payload hbe hreq hreply
  refine ⟨h.type, ?_, ?_, ?_⟩
  · intro m hm
    rcases List.mem_append.mp hm with hm | hm
    · exact h.fit m hm
    · obtain rfl := List.mem_singleton.mp hm
      exact hreply
  · rw [d.input_write, h.input, hout, Backend.frames_append, List.flatten_append]
    exact congrArg _ (List.append_nil _).symm
  · rw [d.settled_write, List.length_append, Nat.add_comm, Function.iterate_add_apply]
    exact hready

/-- The frame of a TCP message matches a request when the two have the same transaction id. -/
theorem matches_tcp_frame_iff {be first : Backend} {req m : Ttamsg} {reqbuf : Bytes}
    (hbe : be.type = .tcp) (hfirst : first.type = .tcp) (hframe : be.frame req <+: reqbuf) :
    be.stepped.matches reqbuf (first.frame m) = true ↔ first.nextTid = be.nextTid := by
  cases be with
  | tcp d =>
    cases first with
    | tcp d' =>
      change (Backend.tcp _).matches _ _ = true ↔ _
      rw [matches_tcp_iff, take_two_of_frame_prefix hframe,
        take_two_of_frame_prefix (List.prefix_refl _), tidBytes_inj]
      change _ ↔ (nextTid d'.tid).toNat = (nextTid d.tid).toNat
      rw [UInt16.toNat_inj, eq_comm]
    | rs485 d' => cases hfirst
    | rf d' => cases hfirst
  | rs485 d => cases hbe
  | rf d => cases hbe

/-- The first of the replies is read. -/
theorem Link.Unread.read {d d' : Link} {first : Backend} {m : Ttamsg} {ms : List Ttamsg} {k : ℕ}
    (h : d.Unread payload first (m :: ms) k)
    (hin : d'.input payload = (first.stepped.frames ms).flatten)
    (hserver : d'.settled payload = d.settled payload) :
    d'.Unread payload first.stepped ms k where
  type := first.type_stepped.trans h.type
  fit m' hm' := h.fit m' (List.mem_cons_of_mem _ hm')
  input := hin
  server := hserver ▸ h.server

/-- How a request ends: the first of the replies that are still to be read is delivered if its
transaction id is that of the request, and rejected otherwise. -/
theorem run_ttaRequest_unread (hprompt : Prompt payload schedule) (fuel : ℕ) {w : World Link}
    {first : Backend} {m : Ttamsg} {ms ms' : List Ttamsg} {k : ℕ} {req : Ttamsg}
    (htype : w.ctx.type = .tcp) (hnone : w.ctx.errorRecovery = 0)
    (hunread : w.dev.Unread payload first ms k)
    (hreq : req.frameLength .tcp ≤ BackendType.tcp.maxAduLength)
    (hreply :
      (replyMsg req (payload k { req with tid := w.ctx.backend.nextTid })).frameLength .tcp ≤
      BackendType.tcp.maxAduLength)
    (hms : ms ++ [replyMsg req (payload k { req with tid := w.ctx.backend.nextTid })] = m :: ms') :
    ∃ d, d.Unread payload first.stepped ms' (k + 1) ∧
      (ttaRequest (linkOs payload schedule) fuel req).run w =
        .ok (if first.nextTid = w.ctx.backend.nextTid then
          (some { m with tid := first.nextTid }, { w with ctx := w.ctx.stepped, dev := d })
        else (none, { w with ctx := w.ctx.stepped, dev := d, errno := .EMBBADDATA })) := by
  have hrf : w.ctx.type ≠ .rf := htype ▸ by decide
  obtain ⟨reqbuf, hsend, hframe⟩ :=
    run_ttaRequestSend (takes_linkOs payload schedule) fuel req w hrf
    (by rw [htype]; exact hreq)
  have hwritten := hunread.write htype hreq hreply
  rw [hms] at hwritten
  set w₁ : World Link := { w with
    ctx := w.ctx.stepped, dev := w.dev.write (w.ctx.backend.frame req) } with hw₁
  have htype₁ : w₁.ctx.type = .tcp := w.ctx.type_stepped.trans htype
  have hmatches : w₁.ctx.backend.matches reqbuf (first.frame m) = true ↔
      first.nextTid = w.ctx.backend.nextTid := matches_tcp_frame_iff htype hunread.type hframe
  obtain ⟨r, w', hreceive, hend⟩ := run_ttaRequestReceive_frame
    (feeds_linkOs_of_prompt payload schedule hprompt) fuel (w := w₁)
    (w.ctx.backend.four_le_length_frame.trans hframe.length_le) (htype₁.trans hunread.type.symm)
    (by rw [htype₁]; decide) (Backend.confirmationToIgnore_of_tcp htype₁)
    (by rw [hunread.type]; exact hwritten.fit m List.mem_cons_self) hwritten.input (.inl hnone)
  have hrun : (ttaRequest (linkOs payload schedule) fuel req).run w = .ok (r, w') :=
    (Exec.run_bind_of_ok hsend).trans hreceive
  cases hend with
  | delivered hm hin hother =>
    refine ⟨_, hwritten.read hin hother, ?_⟩
    rw [if_pos (hmatches.mp hm)]
    exact hrun
  | rejected hm hin hother =>
    refine ⟨_, hwritten.read hin hother, ?_⟩
    rw [if_neg fun h => by rw [hmatches.mpr h] at hm; cases hm]
    rw [show w₁.ctx.type = .tcp from htype₁] at hrun
    exact hrun
  | failed hfail hne => exact absurd hfail.1 hne

/-! ## Sessions -/

/-- The transaction ids of two TCP backends agree after a step exactly when they agree before. -/
theorem nextTid_stepped_iff {be be' : Backend} (h : be.type = .tcp) (h' : be'.type = .tcp) :
    be.stepped.nextTid = be'.stepped.nextTid ↔ be.nextTid = be'.nextTid := by
  cases be with
  | tcp d =>
    cases be' with
    | tcp d' =>
      change (nextTid (nextTid d.tid)).toNat = (nextTid (nextTid d'.tid)).toNat ↔
        (nextTid d.tid).toNat = (nextTid d'.tid).toNat
      rw [UInt16.toNat_inj, UInt16.toNat_inj, nextTid_inj]
    | rs485 d' => cases h'
    | rf d' => cases h'
  | rs485 d => cases h
  | rf d => cases h

/-- How a session ends. The induction is on the requests; the replies that are still to be read move
on by one with each of them. -/
theorem run_ttaRequests_unread (hprompt : Prompt payload schedule) (fuel : ℕ) {w : World Link}
    {first : Backend} {ms reqs : List Ttamsg} {k : ℕ} (htype : w.ctx.type = .tcp)
    (hnone : w.ctx.errorRecovery = 0) (hunread : w.dev.Unread payload first ms k)
    (hreqs : AllFit reqs) (hreplies : AllFit (replies payload w.ctx.backend k reqs)) :
    ∃ results w', (ttaRequests (linkOs payload schedule) fuel reqs).run w = .ok (results, w') ∧
      (first.nextTid = w.ctx.backend.nextTid → results.map Prod.fst =
        ((ms ++ replies payload w.ctx.backend k reqs).take reqs.length).mapIdx fun i m =>
          some { m with tid := first.tidAt i }) ∧
      (first.nextTid ≠ w.ctx.backend.nextTid →
        results = reqs.map fun _ => (none, .EMBBADDATA)) := by
  induction reqs generalizing w first ms k with
  | nil => exact ⟨[], w, rfl, fun _ => rfl, fun _ => rfl⟩
  | cons req reqs ih =>
    obtain ⟨m, ms', hms⟩ := List.exists_cons_of_ne_nil
      (show ms ++ [replyMsg req (payload k { req with tid := w.ctx.backend.nextTid })] ≠ [] by simp)
    obtain ⟨d, hunread', hrun⟩ := run_ttaRequest_unread hprompt fuel htype hnone hunread
      (hreqs req List.mem_cons_self) (hreplies _ List.mem_cons_self) hms
    have htype' : w.ctx.stepped.type = .tcp := w.ctx.type_stepped.trans htype
    have hagree : first.stepped.nextTid = w.ctx.stepped.backend.nextTid ↔
        first.nextTid = w.ctx.backend.nextTid := nextTid_stepped_iff hunread.type htype
    have hreqs' : AllFit reqs := fun m hm => hreqs m (List.mem_cons_of_mem _ hm)
    have hreplies' : AllFit (replies payload w.ctx.stepped.backend (k + 1) reqs) :=
      fun m hm => hreplies m (List.mem_cons_of_mem _ hm)
    have hqueue : ms ++ replies payload w.ctx.backend k (req :: reqs) =
        m :: (ms' ++ replies payload w.ctx.stepped.backend (k + 1) reqs) := by
      rw [replies, ← List.singleton_append, ← List.append_assoc, hms]
      rfl
    by_cases htid : first.nextTid = w.ctx.backend.nextTid
    · rw [if_pos htid] at hrun
      obtain ⟨results, w', hrest, hsome, -⟩ := ih (w := { w with ctx := w.ctx.stepped, dev := d })
        htype' hnone hunread' hreqs' hreplies'
      refine ⟨_, w', run_ttaRequests_cons hrun hrest, fun _ => ?_, fun hne => absurd htid hne⟩
      rw [List.map_cons, hsome (hagree.mpr htid), hqueue, List.length_cons, List.take_succ_cons,
        List.mapIdx_cons, first.tidAt_zero]
      simp only [Backend.tidAt_stepped]
    · rw [if_neg htid] at hrun
      obtain ⟨results, w', hrest, -, hnone'⟩ :=
        ih (w := { w with ctx := w.ctx.stepped, dev := d, errno := .EMBBADDATA })
          htype' hnone hunread' hreqs' hreplies'
      refine ⟨_, w', run_ttaRequests_cons hrun hrest, fun heq => absurd heq htid, fun _ => ?_⟩
      rw [hnone' fun heq => htid (hagree.mp heq), List.map_cons]

/-- Sessions over TCP are all or nothing. A client makes any number of requests of a server that
answers each of them promptly, over a link on which the requests `olds` are under way whose replies
the client has not read; `n` and `k` are the numbers of packets that client and server have built so
far. If they are congruent modulo 65536, each request succeeds and delivers the reply that stands
next in the stream: the replies to `olds` come first, and then those to the requests. If they are
not, every request fails with `EMBBADDATA`, however many are made. So a session in which client and
server have built equally many packets works for ever, as long as every reply is read, and a session
in which a reply has not been read, so that the client is one packet ahead, never works again. -/
theorem session_all_or_nothing (hprompt : Prompt payload schedule) (fuel : ℕ) (client : World Link)
    (be : Backend) (olds reqs : List Ttamsg) {n k : ℕ} (hclient : Reachable client.ctx n)
    (hserver : Reachable client.dev.server.world.ctx k) (hctype : client.ctx.type = .tcp)
    (hstype : client.dev.server.world.ctx.type = .tcp) (hnone : client.ctx.errorRecovery = 0)
    (hpending : client.dev.pending = be.frames olds) (hbe : be.type = .tcp)
    (hinput : client.dev.server.world.dev.input = []) (hflight : client.dev.inFlight = [])
    (harrived : client.dev.arrived = []) (hreqs : AllFit (olds ++ reqs))
    (hreplies : AllFit (replies payload be client.dev.server.served olds ++
      replies payload client.ctx.backend (client.dev.server.served + olds.length) reqs)) :
    ∃ results client', (ttaRequests (linkOs payload schedule) fuel reqs).run client =
        .ok (results, client') ∧
      (n % 65536 = k % 65536 → results.map Prod.fst =
        ((replies payload be client.dev.server.served olds ++
          replies payload client.ctx.backend (client.dev.server.served + olds.length) reqs).take
            reqs.length).mapIdx fun i m =>
          some { m with tid := client.dev.server.world.ctx.backend.tidAt i }) ∧
      (n % 65536 ≠ k % 65536 → results = reqs.map fun _ => (none, .EMBBADDATA)) := by
  set s := client.dev.server with hs
  have hready : s.Ready s.world.ctx.backend s.served := ⟨rfl, hstype, hinput, rfl⟩
  have holds : AllFit (replies payload be s.served olds) :=
    fun m hm => hreplies m (List.mem_append_left _ hm)
  obtain ⟨hout, hready'⟩ :=
    hready.answers hbe (fun m hm => hreqs m (List.mem_append_left _ hm)) holds
  have hunread : client.dev.Unread payload s.world.ctx.backend (replies payload be s.served olds)
      (s.served + olds.length) := by
    refine ⟨hstype, holds, ?_, ?_⟩
    · rw [client.dev.input_eq, harrived, hflight, hpending, List.nil_append, List.nil_append]
      exact hout
    · rw [Link.settled, Link.settle, hpending, length_replies]
      exact hready'
  have htids : s.world.ctx.backend.nextTid = client.ctx.backend.nextTid ↔
      n % 65536 = k % 65536 := by
    obtain ⟨dc, hdc⟩ := Tta.exists_tcp hctype
    obtain ⟨ds, hds⟩ := Tta.exists_tcp hstype
    rw [hdc, hds]
    change (nextTid ds.tid).toNat = (nextTid dc.tid).toNat ↔ _
    rw [UInt16.toNat_inj, nextTid_inj, ← UInt16.toNat_inj, hclient.counts.tid dc hdc,
      hserver.counts.tid ds hds, eq_comm]
  obtain ⟨results, client', hrun, hsome, hfail⟩ := run_ttaRequests_unread hprompt fuel hctype hnone
    hunread (fun m hm => hreqs m (List.mem_append_right _ hm))
    (fun m hm => hreplies m (List.mem_append_right _ hm))
  exact ⟨results, client', hrun, fun h => hsome (htids.mpr h),
    fun h => hfail fun heq => h (htids.mp heq)⟩

/-- A fresh TCP client and a fresh TCP server, with nothing under way. -/
def tcpLinkStart : World Link :=
  ⟨ttaNewTcp "127.0.0.1" 502, .other 0, List.Vector.replicate 128 0, 0,
    ⟨[], ⟨tcpLine [], 0⟩, [], [], 0, 0, fun _ => 0, fun _ => 0⟩⟩

/-- The same link, but the client has given up a request that the server has still to take. -/
def tcpLinkBehind : World Link :=
  { tcpLinkStart with
    ctx := tcpLinkStart.ctx.stepped
    dev := tcpLinkStart.dev.write
      (tcpLinkStart.ctx.backend.frame (ttamsgMake 1 0 0x10 [0xAA, 0xBB] 0 (by decide))) }

/-- Two requests over each of these links: on the first they get the replies to them, on the second
they fail. -/
theorem session_all_or_nothing_fresh :
    (∃ results client', (ttaRequests (linkOs numbered eager) 0
        [ttamsgMake 1 0 0x10 [] 0 (by decide), ttamsgMake 1 0 0x11 [] 0 (by decide)]).run
          tcpLinkStart = .ok (results, client') ∧
      results.map (fun r => r.1.map fun m => (m.content, m.tid)) =
        [some ((⟨1, 0, 0x90, 1⟩, [0]), 1), some ((⟨1, 0, 0x91, 1⟩, [1]), 2)]) ∧
    ∃ results client', (ttaRequests (linkOs numbered eager) 0
        [ttamsgMake 1 0 0x10 [] 0 (by decide), ttamsgMake 1 0 0x11 [] 0 (by decide)]).run
          tcpLinkBehind = .ok (results, client') ∧
      results = [(none, .EMBBADDATA), (none, .EMBBADDATA)] := by
  have hprompt : Prompt numbered eager := prompt_eager _
  have hbehind : Reachable tcpLinkBehind.ctx 1 :=
    .call lineOs 0
      (.convTtamsg2pkt (ttamsgMake 1 0 0x10 [0xAA, 0xBB] 0 (by decide)) (List.replicate 10 0))
      (w := { tcpLine [] with ctx := tcpLinkStart.ctx }) (.newTcp _ _) rfl
  constructor
  · obtain ⟨results, client', hrun, hsome, -⟩ := session_all_or_nothing hprompt 0 tcpLinkStart
      tcpLinkStart.ctx.backend []
      [ttamsgMake 1 0 0x10 [] 0 (by decide), ttamsgMake 1 0 0x11 [] 0 (by decide)]
      (.newTcp _ _) (.newTcp _ _) rfl rfl rfl rfl rfl rfl rfl rfl (by decide) (by decide)
    refine ⟨results, client', hrun, ?_⟩
    have hreplies := hsome rfl
    calc results.map (fun r => r.1.map fun m => (m.content, m.tid))
        = (results.map Prod.fst).map (Option.map fun m => (m.content, m.tid)) := by
          rw [List.map_map]
          rfl
      _ = _ := by
          rw [hreplies]
          decide
  · obtain ⟨results, client', hrun, -, hnone⟩ := session_all_or_nothing hprompt 0 tcpLinkBehind
      tcpLinkStart.ctx.backend [ttamsgMake 1 0 0x10 [0xAA, 0xBB] 0 (by decide)]
      [ttamsgMake 1 0 0x10 [] 0 (by decide), ttamsgMake 1 0 0x11 [] 0 (by decide)]
      hbehind (.newTcp _ _) rfl rfl rfl rfl rfl rfl rfl rfl (by decide) (by decide)
    exact ⟨results, client', hrun, hnone (by decide)⟩

end Libtta
