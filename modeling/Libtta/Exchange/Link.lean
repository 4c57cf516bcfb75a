import Libtta.Exchange.Response
import Libtta.Exchange.Server

/-!
# A client's link to a server

`linkOs` is the operating system of a client whose requests go to a server and whose input are the
server's replies, over a link that loses nothing and keeps the order of what is sent in each
direction. A `schedule` decides, from the state of the link, which events happen during the next
wait of the client: the server takes a request and answers it, or bytes arrive. A wait that ends
with nothing to read times out. `Link.settle` lets everything arrive that is under way: the schedule
does not change where this leads to (`Link.settle_wait`), so the client reads one stream, whatever
the schedule (`feeds_linkOs`).
-/

namespace Libtta

/-! ## The server at the far end -/

/-- A server and the number of requests it has taken. -/
structure Server where
  world : World Line
  served : ℕ

/-- What a server replies: the payload for the request with a number. -/
abbrev Payload := ℕ → Ttamsg → Bytes

/-- The world of the server when what the client has written in one call is there to be read. -/
def Server.input (s : Server) (bs : Bytes) : World Line :=
  { s.world with dev := { s.world.dev with input := s.world.dev.input ++ bs, output := [] } }

/-- The server takes one request and answers it: what it writes, and the server afterwards. -/
def Server.answer (payload : Payload) (s : Server) (bs : Bytes) : Bytes × Server :=
  match (serve lineOs 0 (payload s.served)).run (s.input bs) with
  | .ok (_, w) => (w.dev.output, ⟨w, s.served + 1⟩)
  | .error _ => ([], ⟨s.input bs, s.served + 1⟩)

/-- The server takes and answers the requests in order. -/
def Server.answers (payload : Payload) (s : Server) : List Bytes → Bytes × Server
  | [] => ([], s)
  | bs :: pending =>
    let (out, s) := s.answer payload bs
    let (outs, s) := s.answers payload pending
    (out ++ outs, s)

/-- One more request at the end is answered last. -/
theorem Server.answers_concat (payload : Payload) (s : Server) (pending : List Bytes) (bs : Bytes) :
    s.answers payload (pending ++ [bs]) =
      ((s.answers payload pending).1 ++ ((s.answers payload pending).2.answer payload bs).1,
        ((s.answers payload pending).2.answer payload bs).2) := by
  induction pending generalizing s with
  | nil => simp [answers]
  | cons p pending ih => simp only [List.cons_append, answers, ih, List.append_assoc]

/-! ## The link -/

/-- The client's end of a link, with the server at the far end. -/
structure Link where
  /-- What the client has written and the server has not taken yet, one entry for each write. -/
  pending : List Bytes
  server : Server
  /-- What the server has written and is still under way. -/
  inFlight : Bytes
  /-- What has arrived and can be read. -/
  arrived : Bytes
  /-- The number of waits that the client has made. -/
  waits : ℕ
  /-- The number of reads that the client has made. -/
  reads : ℕ
  /-- The read with number `k` returns at most `cuts k + 1` bytes. -/
  cuts : ℕ → ℕ
  /-- The content of uninitialised memory. -/
  junk : ℕ → UInt8

/-- What may happen while the client waits. -/
inductive LinkEvent where
  /-- The server takes the next request and answers it. -/
  | serve
  /-- The next `n` bytes arrive. -/
  | arrive (n : ℕ)
  deriving DecidableEq, Repr

namespace Link

variable (payload : Payload)

/-- One event. -/
def step (d : Link) : LinkEvent → Link
  | .serve =>
    match d.pending with
    | [] => d
    | bs :: pending =>
      let (out, server) := d.server.answer payload bs
      { d with pending := pending, server := server, inFlight := d.inFlight ++ out }
  | .arrive n =>
    { d with inFlight := d.inFlight.drop n, arrived := d.arrived ++ d.inFlight.take n }

/-- The events that happen during the next wait. -/
def wait (schedule : Link → List LinkEvent) (d : Link) : Link :=
  { (schedule d).foldl (step payload) d with waits := d.waits + 1 }

/-- Everything that is under way arrives. -/
def settle (d : Link) : Link :=
  let (out, server) := d.server.answers payload d.pending
  { d with
    pending := []
    server := server
    inFlight := []
    arrived := d.arrived ++ d.inFlight ++ out }

/-- What the client will read if it sends nothing more. -/
def input (d : Link) : Bytes := (d.settle payload).arrived

/-- The server after it has answered what has been sent. -/
def settled (d : Link) : Server := (d.settle payload).server

/-- The client writes. -/
def write (bs : Bytes) (d : Link) : Link := { d with pending := d.pending ++ [bs] }

/-- The client reads at most `n` bytes. A read that finds nothing blocks until what is under way has
arrived; the library reads only what a wait has announced. -/
def read (n : ℕ) (d : Link) : Bytes × Link :=
  let d := if d.arrived = [] then d.settle payload else d
  let k := min n (d.cuts d.reads + 1)
  (d.arrived.take k, { d with arrived := d.arrived.drop k, reads := d.reads + 1 })

end Link

/-- The operating system of the client. -/
def linkOs (payload : Payload) (schedule : Link → List LinkEvent) : Os Link where
  garbage d := (d.junk, d)
  select _ _ d :=
    let d := d.wait payload schedule
    (if d.arrived = [] then .timeout else .ready, d)
  read _ n d := (.ok (d.read payload n).1, (d.read payload n).2)
  write _ bs d := (.ok bs.length, d.write bs)

/-! ## What does not depend on the schedule -/

variable (payload : Payload) (schedule : Link → List LinkEvent) (d : Link)

namespace Link

/-- An event does not change where the link settles. -/
theorem settle_step (e : LinkEvent) : (d.step payload e).settle payload = d.settle payload := by
  cases e with
  | serve =>
    unfold step
    cases hpending : d.pending with
    | nil => rfl
    | cons bs pending =>
      simp only [settle, hpending, Server.answers, List.append_assoc]
  | arrive n => simp only [step, settle, List.append_assoc, List.take_append_drop]

/-- Nor do any number of events. -/
theorem settle_foldl (es : List LinkEvent) (d : Link) :
    (es.foldl (step payload) d).settle payload = d.settle payload := by
  induction es generalizing d with
  | nil => rfl
  | cons e es ih => rw [List.foldl_cons, ih, settle_step]

/-- A wait does not change where the link settles. -/
theorem settle_wait : (d.wait payload schedule).settle payload =
    { d.settle payload with waits := d.waits + 1 } := by
  calc (d.wait payload schedule).settle payload
      = { ((schedule d).foldl (step payload) d).settle payload with waits := d.waits + 1 } :=
        rfl
    _ = { d.settle payload with waits := d.waits + 1 } := by rw [settle_foldl]

/-- A wait does not change what will be read. -/
theorem input_wait : (d.wait payload schedule).input payload = d.input payload := by
  rw [input, settle_wait, input]

/-- A wait does not change what the server will be. -/
theorem settled_wait : (d.wait payload schedule).settled payload = d.settled payload := by
  rw [settled, settle_wait, settled]

/-- A link that has settled stays as it is. -/
theorem settle_settle : (d.settle payload).settle payload = d.settle payload := by
  simp only [settle, Server.answers, List.append_nil]

/-- What has arrived is read first. -/
theorem input_eq : d.input payload =
    d.arrived ++ (d.inFlight ++ (d.server.answers payload d.pending).1) :=
  List.append_assoc _ _ _

/-- What is written is answered last. -/
theorem input_write (bs : Bytes) : (d.write bs).input payload =
    d.input payload ++ ((d.settled payload).answer payload bs).1 := by
  simp only [input, settled, settle, write, Server.answers_concat, List.append_assoc]

/-- What is written is answered by the server as it will be then. -/
theorem settled_write (bs : Bytes) :
    (d.write bs).settled payload = ((d.settled payload).answer payload bs).2 := by
  simp only [settled, settle, write, Server.answers_concat]

/-- A read returns a part of what will be read, and nothing only when there is nothing. -/
theorem read_spec {n : ℕ} (hn : 0 < n) :
    (d.read payload n).2.settled payload = d.settled payload ∧
      ∃ k, k ≤ n ∧ (k = 0 → d.input payload = []) ∧
        (d.read payload n).1 = (d.input payload).take k ∧
        (d.read payload n).2.input payload = (d.input payload).drop k := by
  set d' := if d.arrived = [] then d.settle payload else d with hd'
  have hsettle : d'.settle payload = d.settle payload := by
    rw [hd']
    split
    · exact d.settle_settle payload
    · rfl
  have hempty : d'.arrived = [] → d.input payload = [] := by
    rw [hd']
    split
    · exact id
    · exact fun h => absurd h ‹_›
  set k := min n (d'.cuts d'.reads + 1) with hk
  have hin : d.input payload = d'.arrived.take k ++
      (d'.arrived.drop k ++ (d'.inFlight ++ (d'.server.answers payload d'.pending).1)) := by
    rw [← List.append_assoc, List.take_append_drop, ← d'.input_eq payload]
    exact congrArg arrived hsettle.symm
  have hsettled : d'.settled payload = d.settled payload := congrArg server hsettle
  refine ⟨hsettled, (d'.arrived.take k).length, ?_, ?_, ?_, ?_⟩
  · exact (List.length_take_le k _).trans (min_le_left _ _)
  · intro h
    rcases List.take_eq_nil_iff.mp (List.length_eq_zero_iff.mp h) with hzero | hnil
    · omega
    · exact hempty hnil
  · rw [hin, List.take_left]
    rfl
  · rw [hin, List.drop_left]
    exact input_eq payload _

end Link

/-! ## The operating system of the client -/

/-- The client reads the stream that the link settles to; a wait may time out at any time. -/
theorem feeds_linkOs : Feeds (linkOs payload schedule) (Link.input payload) (Link.settled payload)
    fun _ e => e = .ETIMEDOUT where
  garbage _ := ⟨rfl, rfl⟩
  select fd tv d := by
    refine ⟨?_, d.input_wait payload schedule, d.settled_wait payload schedule⟩
    by_cases h : (d.wait payload schedule).arrived = []
    · exact .inr (.inl ⟨if_pos h, rfl⟩)
    · exact .inl (if_neg h)
  read fd n d hn := by
    obtain ⟨hsettled, k, hkn, hk, hread, hin⟩ := d.read_spec payload hn
    exact ⟨hsettled, .inl ⟨k, hkn, hk, congrArg Except.ok hread, hin⟩⟩

/-- The schedule is prompt: no wait ends with nothing to read as long as something is under way. -/
def Prompt : Prop := ∀ d : Link, d.input payload ≠ [] → (d.wait payload schedule).arrived ≠ []

/-- The server answers at once, and one byte arrives at a time. -/
def eager (d : Link) : List LinkEvent := List.replicate d.pending.length .serve ++ [.arrive 1]

/-- When the server has answered everything, all its replies are under way. -/
theorem Link.foldl_serve (d : Link) :
    (List.replicate d.pending.length .serve).foldl (Link.step payload) d =
      { d with
        pending := []
        server := (d.server.answers payload d.pending).2
        inFlight := d.inFlight ++ (d.server.answers payload d.pending).1 } := by
  obtain ⟨pending, server, inFlight, arrived, waits, reads, cuts, junk⟩ := d
  induction pending generalizing server inFlight with
  | nil => simp [Server.answers]
  | cons bs pending ih =>
    rw [List.length_cons, List.replicate_succ, List.foldl_cons]
    refine (ih (server.answer payload bs).2 (inFlight ++ (server.answer payload bs).1)).trans ?_
    simp only [Server.answers, List.append_assoc]

/-- A server that answers at once is prompt. -/
theorem prompt_eager : Prompt payload eager := by
  intro d hin hnil
  have hwait : (d.wait payload eager).arrived =
      d.arrived ++ (d.inFlight ++ (d.server.answers payload d.pending).1).take 1 := by
    rw [Link.wait, eager, List.foldl_append, d.foldl_serve]
    rfl
  rw [hwait, List.append_eq_nil_iff, List.take_eq_nil_iff] at hnil
  rw [d.input_eq, hnil.1, List.nil_append] at hin
  exact hin (hnil.2.resolve_left (by decide))

/-- On a prompt link a wait times out only when nothing is to come. -/
theorem feeds_linkOs_of_prompt (h : Prompt payload schedule) :
    Feeds (linkOs payload schedule) (Link.input payload) (Link.settled payload)
      fun t e => t = [] ∧ e = .ETIMEDOUT where
  garbage := (feeds_linkOs payload schedule).garbage
  select fd tv d := by
    refine ⟨?_, ((feeds_linkOs payload schedule).select fd tv d).2⟩
    by_cases harrived : (d.wait payload schedule).arrived = []
    · have hin : d.input payload = [] := not_not.mp fun hin => h d hin harrived
      exact .inr (.inl ⟨if_pos harrived, hin, rfl⟩)
    · exact .inl (if_neg harrived)
  read fd n d hn := by
    obtain ⟨hsettled, k, hkn, hk, hread, hin⟩ := d.read_spec payload hn
    exact ⟨hsettled, .inl ⟨k, hkn, hk, congrArg Except.ok hread, hin⟩⟩

/-- The client's writes are taken in full. -/
theorem takes_linkOs : Takes (linkOs payload schedule) Link.write where
  garbage _ := rfl
  write _ _ _ := rfl
  rtsSet _ _ := rfl
  rtsClear _ _ := rfl
  txEmpty _ _ := rfl
  modemGet _ _ := ⟨0, rfl⟩
  modemSet _ _ _ := rfl
  usleep _ _ := rfl

/-- A fresh RS485 client and a fresh RS485 server, with nothing under way. -/
def linkStart : World Link :=
  ⟨ttaNewRs485 "/dev/ttyS0", .other 0, List.Vector.replicate 128 0, 0,
    ⟨[], ⟨rs485Line [], 0⟩, [], [], 0, 0, fun _ => 0, fun _ => 0⟩⟩

end Libtta
