import Libtta.Memory.Message
import Libtta.Receive.Stream

/-!
# Applications that keep to the ownership of messages

An application owns the messages that it has made or received, until it frees or sends them; what
`ttamsg_new` returns is to be filled before it is used. An application that keeps to this frees no
block twice and uses none after it has been freed, whatever the operating system and the allocator
do; and the heap always consists of what it held at first and the messages that the application owns
(`heap_of_reaches`). The library keeps nothing for itself, and loses nothing on any of its error
paths.
-/

namespace Libtta.Memory

variable {σ : Type} {a : Malloc} {os : Os σ} {fuel : ℕ} {h₀ : Heap Addr Block}

/-- What an application owns: messages, and buffers that it has not filled yet. -/
inductive Owned where
  | message (m : Message)
  | blank (addr buf : Addr) (bs : Bytes) (h : buf ≠ null)

namespace Owned

/-- What the application knows of it. -/
def holding : Owned → Holding
  | message m => .message m.addr
  | blank p _ bs _ => .blank p bs.length

/-- Where it is. -/
def addr (o : Owned) : Addr := o.holding.addr

/-- Its blocks. -/
def cells : Owned → List (Addr × Block)
  | message m => m.cells
  | blank p buf bs _ => [(p, .ttamsg 0 bs.length buf), (buf, .bytes bs)]

/-- They are a structure and a buffer. -/
theorem exists_cells (o : Owned) :
    ∃ tid len buf b, buf ≠ null ∧ o.cells = [(o.addr, .ttamsg tid len buf), (buf, b)] := by
  cases o with
  | message m => exact ⟨_, _, _, _, m.buf_ne_null, rfl⟩
  | blank p buf bs h => exact ⟨_, _, _, _, h, rfl⟩

end Owned

/-- The blocks of all that is owned. -/
def cellsOf (ms : List Owned) : List (Addr × Block) := ms.flatMap Owned.cells

/-- What is among the others is there with its blocks. -/
theorem cells_subset_cellsOf {m : Owned} {ms : List Owned} (hm : m ∈ ms) :
    m.cells ⊆ cellsOf ms :=
  fun _ hc => List.mem_flatMap.mpr ⟨m, hm, hc⟩

/-- A message that an application holds is one that it owns. -/
theorem exists_message {ms : List Owned} {p : Addr} (hp : .message p ∈ ms.map Owned.holding) :
    ∃ m : Message, .message m ∈ ms ∧ m.addr = p := by
  obtain ⟨o, ho, heq⟩ := List.mem_map.mp hp
  cases o with
  | message m =>
    cases heq
    exact ⟨m, ho, rfl⟩
  | blank => cases heq

/-- A buffer that is to be filled is one that the application owns. -/
theorem exists_blank {ms : List Owned} {p : Addr} {len : ℕ}
    (hp : .blank p len ∈ ms.map Owned.holding) :
    ∃ buf bs, ∃ h : buf ≠ null, .blank p buf bs h ∈ ms ∧ bs.length = len := by
  obtain ⟨o, ho, heq⟩ := List.mem_map.mp hp
  cases o with
  | message => cases heq
  | blank p buf bs h =>
    cases heq
    exact ⟨buf, bs, h, ho, rfl⟩

/-- What is in a heap has different addresses. -/
theorem nodup_addr {ms : List Owned} {h : Heap Addr Block}
    (hadds : Heap.Adds h₀ (cellsOf ms) h) : (ms.map Owned.addr).Nodup := by
  have hsub : (ms.map Owned.addr).Sublist ((cellsOf ms).map Prod.fst) := by
    clear hadds
    induction ms with
    | nil => exact .refl _
    | cons m ms ih =>
      obtain ⟨tid, len, buf, b, -, hcells⟩ := m.exists_cells
      rw [cellsOf, List.flatMap_cons, hcells]
      exact (ih.cons buf).cons_cons m.addr
  exact hsub.nodup hadds.nodup

/-- All but what is at an address. -/
def without (p : Option Addr) (ms : List Owned) : List Owned :=
  ms.filter fun m => p ≠ some m.addr

/-- If nothing goes, all stay. -/
theorem without_none (ms : List Owned) : without none ms = ms :=
  List.filter_eq_self.mpr fun _ _ => rfl

/-- The blocks of one message are taken from those of the others. -/
theorem perm_without {m : Owned} {ms : List Owned} (hm : m ∈ ms)
    (hnodup : (ms.map Owned.addr).Nodup) :
    (cellsOf ms).Perm (m.cells ++ cellsOf (without (some m.addr) ms)) := by
  obtain ⟨s, t, rfl⟩ := List.append_of_mem hm
  rw [List.map_append, List.map_cons] at hnodup
  obtain ⟨-, ht, hs⟩ := List.nodup_append.mp hnodup
  have hkeep : ∀ l : List Owned, (∀ m' ∈ l, m'.addr ≠ m.addr) →
      without (some m.addr) l = l := by
    intro l hl
    refine List.filter_eq_self.mpr fun m' hm' => ?_
    simpa using (hl m' hm').symm
  have hwithout : without (some m.addr) (s ++ m :: t) = s ++ t := by
    unfold without at hkeep ⊢
    rw [List.filter_append, List.filter_cons_of_neg (by simp), hkeep s, hkeep t]
    · intro m' hm' heq
      exact (List.nodup_cons.mp ht).1 (heq ▸ List.mem_map_of_mem hm')
    · intro m' hm'
      exact hs _ (List.mem_map_of_mem hm') _ List.mem_cons_self
  rw [hwithout]
  exact (List.perm_middle (a := m)).flatMap_right _

/-- What a use does to what the application owns: it brings something, and may take something. -/
def Uses (u : Use σ) (ms : List Owned) (new : List Holding) (cells : List (Addr × Block)) : Prop :=
  ∃ news : List Owned, new = news.map Owned.holding ∧
    cells = cellsOf (news ++ without u.consumed ms)

/-- A use that takes no message. -/
theorem uses_of_not_consumed {u : Use σ} (hu : u.consumed = none) (ms news : List Owned) :
    Uses u ms (news.map Owned.holding) (cellsOf news ++ cellsOf ms) := by
  refine ⟨news, rfl, ?_⟩
  rw [hu, without_none, cellsOf, cellsOf, cellsOf, List.flatMap_append]

/-- A use that brings no message. -/
theorem uses_of_consumed {u : Use σ} {m : Owned} (hu : u.consumed = some m.addr)
    (ms : List Owned) : Uses u ms [] (cellsOf (without (some m.addr) ms)) :=
  ⟨[], rfl, by rw [hu]; rfl⟩

/-- A use that calls one function and looks at what it returns. -/
theorem exists_refines_of_call {γ δ : Type} {u : Use σ} {ms : List Owned}
    {cells : List (Addr × Block)} {x : Program σ γ} {y : Machine σ δ} {f : γ → List Holding}
    {Q : γ → δ → List (Addr × Block) → Prop} (hx : Heap.Refines h₀ cells x y Q)
    (hQ : ∀ c d cells', Q c d cells' → Uses u ms (f c) cells') :
    ∃ y' : Machine σ Unit, Heap.Refines h₀ cells (do return f (← x)) y'
      fun new _ cells' => Uses u ms new cells' :=
  ⟨do let _ ← y, hx.bind fun c d cells' hq => Heap.Refines.pure (hQ c d cells' hq)⟩

/-- The step of an application that does what it owes. -/
theorem refines_use (u : Use σ) {ms : List Owned} (hnodup : (ms.map Owned.addr).Nodup)
    (hu : u.Allowed (ms.map Owned.holding)) :
    ∃ y : Machine σ Unit, Heap.Refines h₀ (cellsOf ms) (u.run a os fuel) y
      fun new _ cells => Uses u ms new cells := by
  cases u with
  | new len =>
    refine exists_refines_of_call (refines_ttamsgNew len ()) ?_
    rintro p d cells ⟨buf, bs, hbuf, rfl, rfl⟩
    exact uses_of_not_consumed rfl ms [.blank p buf bs hbuf]
  | fill ttamsg hd data h =>
    obtain ⟨len, hblank, hroom⟩ := hu
    obtain ⟨buf, bs, hbuf, hm, rfl⟩ := exists_blank hblank
    refine exists_refines_of_call
      ((refines_fill hbuf h hroom ()).perm (perm_without hm hnodup)) ?_
    rintro _ d cells ⟨m, rfl, -, rfl⟩
    exact ⟨[.message m], rfl, rfl⟩
  | make devid subid cmd data datalen h =>
    refine exists_refines_of_call (refines_ttamsgMake _ _ _ _ _ h ()) ?_
    rintro p d cells ⟨m, rfl, -, -, rfl⟩
    exact uses_of_not_consumed rfl ms [.message m]
  | duplicate org =>
    obtain ⟨m, hm, rfl⟩ := exists_message hu
    refine exists_refines_of_call (refines_ttamsgDuplicate (cells_subset_cellsOf hm) ()) ?_
    rintro p d cells ⟨m', rfl, -, -, rfl⟩
    exact uses_of_not_consumed rfl ms [.message m']
  | free ttamsg =>
    obtain ⟨x, hx, rfl⟩ := List.mem_map.mp hu
    obtain ⟨m, hm, rfl⟩ := List.mem_map.mp hx
    obtain ⟨tid, len, buf, b, hbuf, hcells⟩ := m.exists_cells
    have hperm := perm_without hm hnodup
    rw [hcells] at hperm
    refine exists_refines_of_call ((refines_ttamsgFree hbuf ()).perm hperm) ?_
    rintro _ d cells rfl
    exact uses_of_consumed rfl ms
  | print ttamsg =>
    obtain ⟨m, hm, rfl⟩ := exists_message hu
    refine exists_refines_of_call (refines_loadMessage () (cells_subset_cellsOf hm)) ?_
    rintro _ d cells ⟨-, rfl⟩
    exact uses_of_not_consumed rfl ms []
  | send ttamsg =>
    obtain ⟨m, hm, rfl⟩ := exists_message hu
    refine exists_refines_of_call ((refines_ttaSend m).perm (perm_without hm hnodup)) ?_
    rintro _ d cells ⟨-, rfl⟩
    exact uses_of_consumed (m := .message m) rfl ms
  | receive fgtm =>
    refine exists_refines_of_call (refines_ttaReceive fgtm) ?_
    rintro r d cells ⟨-, hdelivered⟩
    rw [show (fun r : ℕ × Addr => Holding.message r.2) = Holding.message ∘ Prod.snd from rfl,
      ← Option.map_map]
    generalize r.map Prod.snd = p, d.map Prod.snd = m at hdelivered
    cases hdelivered with
    | none => exact uses_of_not_consumed rfl ms []
    | some m => exact uses_of_not_consumed rfl ms [.message m]
  | reply ttareq data =>
    obtain ⟨m, hm, rfl⟩ := exists_message hu
    refine exists_refines_of_call (refines_ttaReply (cells_subset_cellsOf hm) data) ?_
    rintro _ d cells ⟨-, rfl⟩
    exact uses_of_not_consumed rfl ms []
  | request ttareq =>
    obtain ⟨m, hm, rfl⟩ := exists_message hu
    refine exists_refines_of_call ((refines_ttaRequest m).perm (perm_without hm hnodup)) ?_
    rintro r d cells (_ | m')
    · exact uses_of_consumed (m := .message m) rfl ms
    · exact ⟨[.message m'], rfl, rfl⟩
  | convTtamsg2pkt ttamsg pkt =>
    obtain ⟨m, hm, rfl⟩ := exists_message hu
    refine exists_refines_of_call ((refines_convTtamsg2pkt m pkt).perm (perm_without hm hnodup)) ?_
    rintro _ d cells ⟨-, rfl⟩
    exact uses_of_consumed (m := .message m) rfl ms
  | convPkt2ttamsg pkt =>
    refine exists_refines_of_call (refines_convPkt2ttamsg pkt) ?_
    rintro p d cells ⟨m, -⟩
    exact uses_of_not_consumed rfl ms [.message m]
  | other x =>
    refine exists_refines_of_call (Heap.Refines.lift x) ?_
    rintro _ d cells ⟨-, rfl⟩
    exact uses_of_not_consumed rfl ms []

/-- In every state that is reached, the heap consists of what it held at first and what the
application owns. -/
theorem adds_of_reaches {w : World σ} {s : World σ × Heap Addr Block} {held : List Holding}
    (h : Reaches a os fuel (w, h₀) s held) :
    ∃ ms : List Owned, held = ms.map Owned.holding ∧ Heap.Adds h₀ (cellsOf ms) s.2 := by
  induction h with
  | start => exact ⟨[], rfl, .refl h₀⟩
  | @use s' s'' held new u _ hallowed hrun ih =>
    obtain ⟨ms, rfl, hadds⟩ := ih
    obtain ⟨y, hrefines⟩ : ∃ y : Machine σ Unit, Heap.Refines h₀ (cellsOf ms) (u.run a os fuel) y
        fun new _ cells => Uses u ms new cells := refines_use u (nodup_addr hadds) hallowed
    obtain ⟨-, cells, -, ⟨news, rfl, rfl⟩, hadds'⟩ :=
      (hrefines s'.1 s'.2 hadds).1 new s''.1 s''.2 hrun
    refine ⟨news ++ without u.consumed ms, ?_, hadds'⟩
    rw [List.map_append, without, List.filter_map]
    rfl

/-- Applications that do what they owe never fault, whatever the operating system and the allocator
do: from every state that is reached, whatever the application does next that it may do, no block is
freed or used that is not there. And the heap consists of what it held at first and two blocks for
each of the messages that the application owns, which hold the message, or have room for one that is
still to be filled; so it is what it was when the application owns none. -/
theorem heap_of_reaches {w : World σ} {s : World σ × Heap Addr Block} {held : List Holding}
    (h : Reaches a os fuel (w, h₀) s held) :
    (∀ u : Use σ, u.Allowed held → ∀ f, (u.run a os fuel).run s = .error f → ¬f.Memory) ∧
    (∃ ms : List Owned, held = ms.map Owned.holding ∧ Heap.Adds h₀ (cellsOf ms) s.2) ∧
    (held = [] → s.2 = h₀) := by
  obtain ⟨ms, rfl, hadds⟩ := adds_of_reaches h
  refine ⟨?_, ⟨ms, rfl, hadds⟩, ?_⟩
  · intro u hallowed f hrun
    obtain ⟨y, hrefines⟩ : ∃ y : Machine σ Unit, Heap.Refines h₀ (cellsOf ms) (u.run a os fuel) y
        fun new _ cells => Uses u ms new cells := refines_use u (nodup_addr hadds) hallowed
    rcases (hrefines s.1 s.2 hadds).2 f hrun with rfl | ⟨e, rfl, -⟩
    · exact not_false
    · exact not_false
  · intro hnil
    obtain rfl := List.map_eq_nil_iff.mp hnil
    exact hadds.eq_of_nil

/-- An allocator for the addresses from 1 to `n`. -/
def firstFree (n : ℕ) : Malloc where
  pick h := ((List.range n).map (· + 1)).find? fun p => (h p).isNone
  fresh h p hp := by
    have hnone := List.find?_some hp
    exact Option.isNone_iff_eq_none.mp hnone
  ne_null h hp := by
    obtain ⟨k, -, hk⟩ := List.mem_map.mp (List.mem_of_find?_eq_some hp)
    exact absurd hk (Nat.succ_ne_zero k)
  content _ _ := 0

/-- An application that has received a message on a TCP connection, and has made and filled one of
its own, owns two blocks for each. -/
theorem heap_of_reaches_receive :
    ∃ s, ∃ ms : List Owned,
      Reaches (firstFree 8) lineOs 0 (tcpLine [0, 1, 0, 0, 1, 0, 0x10, 1, 0xAA], fun _ => none) s
          [.message 3, .message 1] ∧
        [.message 3, .message 1] = ms.map Owned.holding ∧
        Heap.Adds (fun _ => none) (cellsOf ms) s.2 := by
  have hrun : ((do
      let received ← (Use.receive false).run (firstFree 8) lineOs 0
      let new ← (Use.new 6).run (firstFree 8) lineOs 0
      let filled ← (Use.fill 3 ⟨1, 0, 0x10, 1⟩ [7] rfl).run (firstFree 8) lineOs 0
      return (received, new, filled) : Program Line _).run
      (tcpLine [0, 1, 0, 0, 1, 0, 0x10, 1, 0xAA], fun _ => none)).map Prod.fst =
        .ok ([.message 1], [.blank 3 6], [.message 3]) := by decide +kernel
  obtain ⟨⟨_, s⟩, hrun, hnew⟩ := Exec.exists_of_map_eq_ok hrun
  obtain ⟨received, s₁, hreceive, hrun⟩ := Exec.run_bind_eq_ok.mp hrun
  obtain ⟨new, s₂, hnew₂, hrun⟩ := Exec.run_bind_eq_ok.mp hrun
  obtain ⟨filled, s₃, hfill, hrun⟩ := Exec.run_bind_eq_ok.mp hrun
  cases hrun
  obtain ⟨rfl, rfl, rfl⟩ := Prod.mk.inj hnew |>.imp id Prod.mk.inj
  have hreaches := ((Reaches.start.use (.receive false) trivial hreceive).use (.new 6) trivial
    hnew₂).use (.fill 3 ⟨1, 0, 0x10, 1⟩ [7] rfl) ⟨6, by decide, by decide⟩ hfill
  obtain ⟨-, ⟨ms, hms, hadds⟩, -⟩ := heap_of_reaches hreaches
  exact ⟨s, ms, hreaches, hms, hadds⟩

end Libtta.Memory
