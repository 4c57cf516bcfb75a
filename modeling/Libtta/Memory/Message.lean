import Libtta.Model.Memory
import Libtta.Packet.Frame

/-!
# Messages in memory refine messages

A message of an application is a structure and a buffer (`Message.cells`). The functions of
`Libtta.Memory` are compared with those of the same names in `Libtta`, which work on messages
instead of addresses: each does what the other one does, and what it leaves in memory is what the
result says, the messages that have been sent being gone and those that have been received being new
(`refines_ttaSend`, `refines_ttaReceive`, `refines_ttaReply`, `refines_ttaRequest`).
-/

namespace Libtta.Memory

variable {σ δ : Type} {a : Malloc} {os : Os σ} {fuel : ℕ} {h₀ : Heap Addr Block}
  {rest : List (Addr × Block)}

/-- A message in memory. -/
structure Message where
  addr : Addr
  buf : Addr
  msg : Ttamsg
  /-- What the buffer holds behind the payload: nothing, but in a message that an application has
  filled itself, and its duplicates. -/
  spare : Bytes
  buf_ne_null : buf ≠ null

/-- The blocks of a message. -/
def Message.cells (m : Message) : List (Addr × Block) :=
  [(m.addr, .ttamsg m.msg.tid (4 + m.msg.hd.datalen.toNat + m.spare.length) m.buf),
    (m.buf, .bytes (m.msg.hd.bytes ++ m.msg.data ++ m.spare))]

/-- The blocks of a message that fills its buffer. -/
theorem Message.cells_of_spare_eq_nil {m : Message} (h : m.spare = []) :
    m.cells = [(m.addr, .ttamsg m.msg.tid (4 + m.msg.hd.datalen.toNat) m.buf),
      (m.buf, .bytes (m.msg.hd.bytes ++ m.msg.data))] := by
  rw [cells, h, List.append_nil]
  rfl

/-! ## Reading and writing -/

/-- The structure of a message is read. -/
theorem refines_loadTtamsg {p buf : Addr} {tid len : ℕ} (d : δ)
    (hmem : (p, Block.ttamsg tid len buf) ∈ rest) :
    Heap.Refines h₀ rest (loadTtamsg p : Program σ _) (pure d)
      fun r _ cells' => r = (tid, len, buf) ∧ cells' = rest := by
  unfold loadTtamsg
  refine Heap.Refines.bind_left (Heap.Refines.load hmem ()) ?_
  rintro b cells' ⟨rfl, rfl⟩
  exact Heap.Refines.pure ⟨rfl, rfl⟩

/-- A buffer is read. -/
theorem refines_loadBytes {p : Addr} {bs : Bytes} (d : δ) (hmem : (p, Block.bytes bs) ∈ rest) :
    Heap.Refines h₀ rest (loadBytes p : Program σ _) (pure d)
      fun r _ cells' => r = bs ∧ cells' = rest := by
  unfold loadBytes
  refine Heap.Refines.bind_left (Heap.Refines.load hmem ()) ?_
  rintro b cells' ⟨rfl, rfl⟩
  exact Heap.Refines.pure ⟨rfl, rfl⟩

/-- A block that fits is written into a buffer. -/
theorem refines_storeBytes {p : Addr} {bs bs' vs : Bytes} {i : ℕ} (d : δ)
    (hstore : Buffer.store bs i vs = some bs') :
    Heap.Refines h₀ ((p, Block.bytes bs) :: rest) (storeBytes p i vs : Program σ _) (pure d)
      fun _ _ cells' => cells' = (p, .bytes bs') :: rest := by
  unfold storeBytes
  refine Heap.Refines.bind_left (refines_loadBytes () List.mem_cons_self) ?_
  rintro r cells' ⟨rfl, rfl⟩
  refine Heap.Refines.bind_left (Heap.Refines.access hstore ()) ?_
  rintro r cells' ⟨rfl, rfl⟩
  exact Heap.Refines.store _ d

/-- The header and the payload of a message. -/
theorem length_bytes_append_data (m : Ttamsg) :
    (m.hd.bytes ++ m.data).length = 4 + m.hd.datalen.toNat := by
  rw [List.length_append, m.length_data]
  rfl

/-- They are read as one block. -/
theorem Message.load_content (m : Message) :
    Buffer.load (m.msg.hd.bytes ++ m.msg.data ++ m.spare) 0 (4 + m.msg.hd.datalen.toNat) =
      some (m.msg.hd.bytes ++ m.msg.data) := by
  have hlen := length_bytes_append_data m.msg
  rw [Buffer.load, if_pos (by rw [List.length_append]; omega), List.drop_zero, ← hlen,
    List.take_left]

/-- The header and the payload of a message are read. -/
theorem refines_loadMessage {m : Message} (d : δ) (hmem : m.cells ⊆ rest) :
    Heap.Refines h₀ rest (loadMessage m.addr : Program σ _) (pure d)
      fun r _ cells' => r = m.msg ∧ cells' = rest := by
  unfold loadMessage
  refine Heap.Refines.bind_left (refines_loadTtamsg () (hmem List.mem_cons_self)) ?_
  rintro r cells' ⟨rfl, rfl⟩
  refine Heap.Refines.bind_left
    (refines_loadBytes () (hmem (List.mem_cons_of_mem _ List.mem_cons_self))) ?_
  rintro bs cells' ⟨rfl, rfl⟩
  refine Heap.Refines.bind_left (Heap.Refines.access (c := m.msg.hd.datalen) rfl ()) ?_
  rintro datalen cells' ⟨rfl, rfl⟩
  refine Heap.Refines.bind_left (Heap.Refines.access m.load_content ()) ?_
  rintro block cells' ⟨rfl, rfl⟩
  exact Heap.Refines.access (overlay_bytes m.msg m.msg.tid) d

/-! ## Messages -/

/-- A new buffer behind a new structure. -/
theorem refines_ttamsgNew (len : ℕ) (d : δ) :
    Heap.Refines h₀ rest (ttamsgNew a len : Program σ _) (pure d) fun p _ cells' =>
      ∃ buf bs, buf ≠ null ∧ bs.length = len ∧
        cells' = (p, .ttamsg 0 len buf) :: (buf, .bytes bs) :: rest := by
  unfold ttamsgNew
  refine Heap.Refines.bind_left (Heap.Refines.malloc a.toAllocator _ ()) ?_
  rintro p cells' ⟨-, rfl⟩
  refine Heap.Refines.bind_left (Heap.Refines.inspect a.content ()) ?_
  rintro content cells' rfl
  refine Heap.Refines.bind_left (Heap.Refines.malloc a.toAllocator _ ()) ?_
  rintro buf cells' ⟨⟨h, hpick⟩, rfl⟩
  refine Heap.Refines.bind_left ((Heap.Refines.store _ ()).perm (List.Perm.swap ..)) ?_
  rintro _ cells' rfl
  refine Heap.Refines.pure ⟨buf, _, ?_, ?_, rfl⟩
  · rintro rfl
    exact a.ne_null h hpick
  · rw [List.length_map, List.length_range]

/-- The structure and the buffer of a message are freed. -/
theorem refines_ttamsgFree {p buf : Addr} {tid len : ℕ} {b : Block} (hbuf : buf ≠ null) (d : δ) :
    Heap.Refines h₀ ((p, .ttamsg tid len buf) :: (buf, b) :: rest) (ttamsgFree p : Program σ _)
      (pure d) fun _ _ cells' => cells' = rest := by
  unfold ttamsgFree
  refine Heap.Refines.bind_left (refines_loadTtamsg () List.mem_cons_self) ?_
  rintro r cells' ⟨rfl, rfl⟩
  simp only [ne_eq, hbuf, not_false_eq_true, if_true]
  refine Heap.Refines.bind_left ((Heap.Refines.free ()).perm (List.Perm.swap ..)) ?_
  rintro _ cells' rfl
  exact Heap.Refines.free d

/-- The header and the payload fill the buffer of a new message. -/
theorem store_payload {hd data bs : Bytes} {n : ℕ} (hn : n ≤ data.length)
    (hlen : bs.length = hd.length + n) :
    ∃ bs', Buffer.store bs 0 hd = some bs' ∧ (n = 0 → bs' = hd ++ data.take n) ∧
      Buffer.store bs' hd.length (data.take n) = some (hd ++ data.take n) := by
  have htake : (data.take n).length = n := by
    rw [List.length_take, Nat.min_eq_left hn]
  refine ⟨hd ++ bs.drop hd.length, Buffer.store_zero (by omega), ?_, ?_⟩
  · rintro rfl
    rw [List.take_zero, List.drop_of_length_le (by omega)]
  · rw [Buffer.store, if_pos (by
      rw [htake, List.length_append, List.length_drop]
      omega), List.take_left, List.drop_of_length_le (by
      rw [htake, List.length_append, List.length_drop]
      omega), List.append_nil]

/-- A message is made. -/
theorem refines_ttamsgMake (devid subid cmd : UInt8) (data : Bytes) (datalen : UInt8)
    (h : datalen.toNat ≤ data.length) (d : δ) :
    Heap.Refines h₀ rest (ttamsgMake a devid subid cmd data datalen : Program σ _) (pure d)
      fun p _ cells' => ∃ m : Message, m.addr = p ∧ m.spare = [] ∧
        m.msg = Libtta.ttamsgMake devid subid cmd data datalen h ∧ cells' = m.cells ++ rest := by
  unfold ttamsgMake
  refine Heap.Refines.bind_left (refines_ttamsgNew _ ()) ?_
  rintro p cells' ⟨buf, bs, hbuf, hlen, rfl⟩
  have hsize : bs.length = [devid, subid, cmd, datalen].length + datalen.toNat := hlen
  obtain ⟨bs', hhd, hempty, hdata⟩ := store_payload h hsize
  refine Heap.Refines.bind_left (refines_loadTtamsg () List.mem_cons_self) ?_
  rintro r cells' ⟨rfl, rfl⟩
  refine Heap.Refines.bind_left ((refines_storeBytes () hhd).perm (List.Perm.swap ..)) ?_
  rintro _ cells' rfl
  have hend : Heap.Refines h₀
      ((buf, .bytes ([devid, subid, cmd, datalen] ++ data.take datalen.toNat))
      :: (p, .ttamsg 0 (4 + datalen.toNat) buf) :: rest) (pure p : Program σ Addr) (pure d)
      fun p _ cells' => ∃ m : Message, m.addr = p ∧ m.spare = [] ∧
        m.msg = Libtta.ttamsgMake devid subid cmd data datalen h ∧ cells' = m.cells ++ rest := by
    refine (Heap.Refines.pure ⟨⟨p, buf, Libtta.ttamsgMake devid subid cmd data datalen h, [], hbuf⟩,
      rfl, rfl, rfl, ?_⟩).perm (List.Perm.swap ..)
    rw [Message.cells_of_spare_eq_nil rfl]
    rfl
  -- the payload is only copied when there is one
  dsimp only
  split
  · refine Heap.Refines.bind_left (refines_storeBytes () hdata) ?_
    rintro _ cells' rfl
    exact hend
  · rename_i hzero
    rw [← hempty (by rw [not_not.mp hzero]; rfl)] at hend
    exact hend

/-- A message is duplicated, but for its transaction id. -/
theorem refines_ttamsgDuplicate {org : Message} (hmem : org.cells ⊆ rest) (d : δ) :
    Heap.Refines h₀ rest (ttamsgDuplicate a org.addr : Program σ _) (pure d)
      fun p _ cells' => ∃ m : Message, m.addr = p ∧ m.spare = org.spare ∧
        m.msg = { org.msg with tid := 0 } ∧ cells' = m.cells ++ rest := by
  have horg : (org.buf, Block.bytes (org.msg.hd.bytes ++ org.msg.data ++ org.spare)) ∈ rest :=
    hmem (List.mem_cons_of_mem _ List.mem_cons_self)
  unfold ttamsgDuplicate
  refine Heap.Refines.bind_left (refines_loadTtamsg () (hmem List.mem_cons_self)) ?_
  rintro r cells' ⟨rfl, rfl⟩
  refine Heap.Refines.bind_left (refines_ttamsgNew _ ()) ?_
  rintro p cells' ⟨buf, bs, hbuf, hlen, rfl⟩
  refine Heap.Refines.bind_left (refines_loadTtamsg () List.mem_cons_self) ?_
  rintro r cells' ⟨rfl, rfl⟩
  refine Heap.Refines.bind_left
    (refines_loadBytes () (List.mem_cons_of_mem _ (List.mem_cons_of_mem _ horg))) ?_
  rintro r cells' ⟨rfl, rfl⟩
  set content := org.msg.hd.bytes ++ org.msg.data ++ org.spare
  have hcontent : content.length = 4 + org.msg.hd.datalen.toNat + org.spare.length := by
    rw [List.length_append, length_bytes_append_data]
  have hload : Buffer.load content 0 (4 + org.msg.hd.datalen.toNat + org.spare.length) =
      some content := by
    rw [Buffer.load, if_pos (by omega), List.drop_zero, List.take_of_length_le (by omega)]
  refine Heap.Refines.bind_left (Heap.Refines.access hload ()) ?_
  rintro block cells' ⟨rfl, rfl⟩
  have hstore : Buffer.store bs 0 content = some content := by
    rw [Buffer.store_zero (by omega), List.drop_of_length_le (by omega), List.append_nil]
  refine Heap.Refines.bind_left ((refines_storeBytes () hstore).perm (List.Perm.swap ..)) ?_
  rintro _ cells' rfl
  exact (Heap.Refines.pure ⟨⟨p, buf, { org.msg with tid := 0 }, org.spare, hbuf⟩, rfl, rfl, rfl,
    rfl⟩).perm (List.Perm.swap ..)

/-- A header and a payload are written into a buffer that has room for them. -/
theorem refines_fill {p buf : Addr} {bs data : Bytes} {hd : TtamsgHd} (hbuf : buf ≠ null)
    (hdata : data.length = hd.datalen.toNat) (hroom : 4 + data.length ≤ bs.length) (d : δ) :
    Heap.Refines h₀ ((p, .ttamsg 0 bs.length buf) :: (buf, .bytes bs) :: rest)
      (fill p hd data : Program σ _) (pure d)
      fun _ _ cells' => ∃ m : Message, m.addr = p ∧ m.msg = ⟨0, hd, data, hdata⟩ ∧
        cells' = m.cells ++ rest := by
  have hstore : Buffer.store bs 0 (hd.bytes ++ data) =
      some (hd.bytes ++ data ++ bs.drop (4 + data.length)) := by
    have hlen : (hd.bytes ++ data).length = 4 + data.length := List.length_append
    rw [Buffer.store_zero (by omega), hlen]
  unfold fill
  refine Heap.Refines.bind_left (refines_loadTtamsg () List.mem_cons_self) ?_
  rintro r cells' ⟨rfl, rfl⟩
  refine ((refines_storeBytes d hstore).perm (List.Perm.swap ..)).mono ?_
  rintro _ _ cells' rfl
  have hlen : 4 + hd.datalen.toNat + (bs.drop (4 + data.length)).length = bs.length := by
    rw [List.length_drop, ← hdata]
    omega
  refine ⟨_, List.Perm.swap .., ⟨p, buf, ⟨0, hd, data, hdata⟩, bs.drop (4 + data.length), hbuf⟩,
    rfl, rfl, ?_⟩
  rw [Message.cells, hlen]
  rfl

/-! ## The functions of the library -/

/-- The encoder frees the message. -/
theorem refines_convTtamsg2pkt (m : Message) (pkt : Bytes) :
    Heap.Refines h₀ (m.cells ++ rest) (convTtamsg2pkt m.addr pkt : Program σ _)
      (Libtta.convTtamsg2pkt m.msg pkt) fun r r' cells' => r = r' ∧ cells' = rest := by
  unfold convTtamsg2pkt
  refine Heap.Refines.bind_left (refines_loadMessage () (List.subset_append_left _ _)) ?_
  rintro r cells' ⟨rfl, rfl⟩
  refine Heap.Refines.bind_right (Heap.Refines.lift _) ?_
  rintro r r' cells' ⟨rfl, rfl⟩
  refine Heap.Refines.bind_left (refines_ttamsgFree m.buf_ne_null ()) ?_
  rintro _ cells' rfl
  exact Heap.Refines.pure ⟨rfl, rfl⟩

/-- A message at an address, with its blocks in front of the others. -/
inductive NewMessage (rest : List (Addr × Block)) :
    Addr → Ttamsg → List (Addr × Block) → Prop where
  | intro (m : Message) (h : m.spare = []) : NewMessage rest m.addr m.msg (m.cells ++ rest)

/-- The decoder allocates the message that it finds. -/
theorem refines_convPkt2ttamsg (pkt : Bytes) :
    Heap.Refines h₀ rest (convPkt2ttamsg a pkt : Program σ _) (Libtta.convPkt2ttamsg pkt)
      (NewMessage rest) := by
  unfold convPkt2ttamsg
  refine Heap.Refines.bind_right (Heap.Refines.lift _) ?_
  rintro m m' cells' ⟨rfl, rfl⟩
  refine Heap.Refines.bind_left (Heap.Refines.malloc a.toAllocator _ ()) ?_
  rintro p cells' ⟨-, rfl⟩
  refine Heap.Refines.bind_left (Heap.Refines.malloc a.toAllocator _ ()) ?_
  rintro buf cells' ⟨⟨h, hpick⟩, rfl⟩
  refine Heap.Refines.bind_left ((Heap.Refines.store _ ()).perm (List.Perm.swap ..)) ?_
  rintro _ cells' rfl
  have hbuf : buf ≠ null := by
    rintro rfl
    exact a.ne_null h hpick
  have hnew : NewMessage cells' p m (Message.cells ⟨p, buf, m, [], hbuf⟩ ++ cells') :=
    .intro ⟨p, buf, m, [], hbuf⟩ rfl
  rw [Message.cells_of_spare_eq_nil rfl] at hnew
  exact Heap.Refines.pure hnew

/-- `tta_send` does what it does with a message, and the message is gone. -/
theorem refines_ttaSend (m : Message) :
    Heap.Refines h₀ (m.cells ++ rest) (ttaSend os fuel m.addr) (Libtta.ttaSend os fuel m.msg)
      fun r r' cells' => r = r' ∧ cells' = rest := by
  unfold ttaSend Libtta.ttaSend
  refine Heap.Refines.bind (Heap.Refines.lift _) ?_
  rintro buf buf' cells' ⟨rfl, rfl⟩
  refine Heap.Refines.bind (refines_convTtamsg2pkt m buf) ?_
  rintro r r' cells' ⟨rfl, rfl⟩
  exact Heap.Refines.lift _

/-- The result of a call that may deliver a message. -/
inductive Delivered (rest : List (Addr × Block)) :
    Option Addr → Option Ttamsg → List (Addr × Block) → Prop where
  | none : Delivered rest none none rest
  | some (m : Message) (h : m.spare = []) :
      Delivered rest (some m.addr) (some m.msg) (m.cells ++ rest)

/-- `tta_receive` does what it does with messages, and a message that it delivers is a new one. -/
theorem refines_ttaReceive (fgtm : Bool) :
    Heap.Refines h₀ rest (ttaReceive a os fuel fgtm) (Libtta.ttaReceive os fuel fgtm)
      fun r r' cells' => r.map Prod.fst = r'.map Prod.fst ∧
        Delivered rest (r.map Prod.snd) (r'.map Prod.snd) cells' := by
  unfold ttaReceive Libtta.ttaReceive
  refine Heap.Refines.bind (Heap.Refines.lift _) ?_
  rintro buf buf' cells' ⟨rfl, rfl⟩
  refine Heap.Refines.bind (Heap.Refines.lift _) ?_
  rintro ⟨rc, pkt⟩ r' cells' ⟨rfl, rfl⟩
  cases rc with
  | none => exact Heap.Refines.pure ⟨rfl, .none⟩
  | some n =>
    refine Heap.Refines.bind (refines_convPkt2ttamsg pkt) ?_
    rintro p m cells' ⟨m, hspare⟩
    exact Heap.Refines.pure ⟨rfl, .some m hspare⟩

/-- `tta_reply` does what it does with messages, and the request stays. -/
theorem refines_ttaReply {req : Message} (hmem : req.cells ⊆ rest) (data : Bytes) :
    Heap.Refines h₀ rest (ttaReply a os fuel req.addr data) (Libtta.ttaReply os fuel req.msg data)
      fun r r' cells' => r = r' ∧ cells' = rest := by
  unfold ttaReply Libtta.ttaReply
  refine Heap.Refines.bind_left (refines_loadMessage () hmem) ?_
  rintro r cells' ⟨rfl, rfl⟩
  have hlen : (UInt8.ofNat data.length).toNat ≤ data.length := by
    rw [UInt8.toNat_ofNat']
    exact Nat.mod_le _ _
  refine Heap.Refines.bind_left (refines_ttamsgMake _ _ _ data _ hlen ()) ?_
  rintro p cells' ⟨m, rfl, -, hm, rfl⟩
  have hreply : replyMsg req.msg data = m.msg := hm.symm
  rw [hreply]
  exact refines_ttaSend m

/-- The first half of `tta_request` takes the request. -/
theorem refines_ttaRequestSend (req : Message) :
    Heap.Refines h₀ (req.cells ++ rest) (ttaRequestSend os fuel req.addr)
      (Libtta.ttaRequestSend os fuel req.msg) fun r r' cells' => r = r' ∧ cells' = rest := by
  unfold ttaRequestSend Libtta.ttaRequestSend
  refine Heap.Refines.bind (Heap.Refines.lift _) ?_
  rintro buf buf' cells' ⟨rfl, rfl⟩
  refine Heap.Refines.bind (refines_convTtamsg2pkt req buf) ?_
  rintro r r' cells' ⟨rfl, rfl⟩
  refine Heap.Refines.bind (Heap.Refines.lift _) ?_
  rintro rc rc' cells' ⟨rfl, rfl⟩
  exact Heap.Refines.pure ⟨rfl, rfl⟩

/-- The second half of `tta_request` delivers a new message. -/
theorem refines_ttaRequestReceive (reqbuf : Bytes) :
    Heap.Refines h₀ rest (ttaRequestReceive a os fuel reqbuf)
      (Libtta.ttaRequestReceive os fuel reqbuf) (Delivered rest) := by
  unfold ttaRequestReceive Libtta.ttaRequestReceive
  refine Heap.Refines.bind (Heap.Refines.lift _) ?_
  rintro buf buf' cells' ⟨rfl, rfl⟩
  refine Heap.Refines.bind (Heap.Refines.lift _) ?_
  rintro ⟨rc, pkt⟩ r' cells' ⟨rfl, rfl⟩
  cases rc with
  | none => exact Heap.Refines.pure .none
  | some n =>
    refine Heap.Refines.bind (Heap.Refines.lift _) ?_
    rintro confirmed r' cells' ⟨rfl, rfl⟩
    cases confirmed with
    | false => exact Heap.Refines.pure .none
    | true =>
      refine Heap.Refines.bind (refines_convPkt2ttamsg pkt) ?_
      rintro p m cells' ⟨m, hspare⟩
      exact Heap.Refines.pure (.some m hspare)

/-- `tta_request` does what it does with messages: the request is gone, and a message that it
delivers is a new one. -/
theorem refines_ttaRequest (req : Message) :
    Heap.Refines h₀ (req.cells ++ rest) (ttaRequest a os fuel req.addr)
      (Libtta.ttaRequest os fuel req.msg) (Delivered rest) := by
  unfold ttaRequest Libtta.ttaRequest
  refine Heap.Refines.bind (refines_ttaRequestSend req) ?_
  rintro ⟨reqbuf, rc⟩ r' cells' ⟨rfl, rfl⟩
  cases rc with
  | none => exact Heap.Refines.pure .none
  | some n => exact refines_ttaRequestReceive reqbuf

/-- The four functions that move messages, on addresses, refine those on messages: beside the heap
they do the same and return the same, they stop only where those stop or when the memory is
exhausted, and no block is freed or used that is not there. The message that is sent is gone
whatever is returned, a reply leaves the request alone, and a message that is delivered is a new
one; nothing else in the heap changes. -/
theorem functions_refine (m : Message) (fgtm : Bool) (data : Bytes) :
    Heap.Refines h₀ (m.cells ++ rest) (ttaSend os fuel m.addr) (Libtta.ttaSend os fuel m.msg)
        (fun r r' cells => r = r' ∧ cells = rest) ∧
      Heap.Refines h₀ rest (ttaReceive a os fuel fgtm) (Libtta.ttaReceive os fuel fgtm)
        (fun r r' cells => r.map Prod.fst = r'.map Prod.fst ∧
          Delivered rest (r.map Prod.snd) (r'.map Prod.snd) cells) ∧
      Heap.Refines h₀ (m.cells ++ rest) (ttaReply a os fuel m.addr data)
        (Libtta.ttaReply os fuel m.msg data) (fun r r' cells => r = r' ∧ cells = m.cells ++ rest) ∧
      Heap.Refines h₀ (m.cells ++ rest) (ttaRequest a os fuel m.addr)
        (Libtta.ttaRequest os fuel m.msg) (Delivered rest) :=
  ⟨refines_ttaSend m, refines_ttaReceive fgtm, refines_ttaReply (List.subset_append_left _ _) data,
    refines_ttaRequest m⟩

end Libtta.Memory
