import Libtta.Exchange.SizeLimit

/-!
# A server

A server calls `tta_receive` and answers the message it gets with `tta_reply`. On a line, the frame
of a request is answered with the frame of the reply.
-/

namespace Libtta

variable {σ : Type}

/-- Receive the next request and answer it, with a payload that depends on the request. -/
def serve (os : Os σ) (fuel : ℕ) (payload : Ttamsg → Bytes) : Machine σ (Option ℕ) := do
  match ← ttaReceive os fuel false with
  | none => return none
  | some (_, req) => ttaReply os fuel req (payload req)

/-- On a line, a request within the limit of the backend is answered with the frame of the reply. -/
theorem run_serve_frame (fuel : ℕ) (payload : Ttamsg → Bytes) (be : Backend) (req : Ttamsg)
    {w : World Line} {rest : Bytes} (htype : w.ctx.type = be.type) (hrf : w.ctx.type ≠ .rf)
    (hflag : w.ctx.backend.confirmationToIgnore = false)
    (hfit : req.frameLength be.type ≤ be.type.maxAduLength)
    (hroom : (replyMsg req (payload { req with tid := be.nextTid })).frameLength w.ctx.type ≤
      maxMessageLength)
    (hin : w.dev.input = be.frame req ++ rest) :
    ∃ n d, (serve lineOs fuel payload).run w =
        .ok (some n, { w with ctx := w.ctx.stepped, dev := d }) ∧
      d.input = rest ∧ d.output = w.dev.output ++
        w.ctx.backend.frame (replyMsg req (payload { req with tid := be.nextTid })) := by
  obtain ⟨d, hreceive, hrest, hout⟩ := run_ttaReceive_frame feeds_lineOs (fun _ _ h => h.elim) fuel
    false htype hrf hflag hfit hin
  have hreply := run_ttaSend takes_lineOs fuel (w := { w with dev := d })
    (m := replyMsg req (payload { req with tid := be.nextTid })) hrf hroom
  refine ⟨_, _, (Exec.run_bind_of_ok hreceive).trans hreply, hrest, ?_⟩
  exact congrArg (· ++ w.ctx.backend.frame _) hout

end Libtta
