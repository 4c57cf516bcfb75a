import Libtta.Library.Exec

/-!
# Programs with a heap

A heap holds a block at each address in use. `Heap.Program S α β ε` are the computations on a state
`S` and a heap: `Heap.lift` runs a computation that does not look at the heap, and `Heap.malloc`,
`Heap.free`, `Heap.load` and `Heap.store` work on it. Freeing, reading or writing a block that is
not there is a fault.

`Heap.Adds h₀ cells h` says that the heap `h` consists of `h₀` and the further blocks `cells`, each
at an address of its own. `Heap.Refines` compares a program with a computation without a heap: from
a heap of this form the program makes no fault, does the same to the state and leaves a heap of this
form again. There is one rule for each way of building a program, so that a program is compared
piece by piece.
-/

/-- A heap: the block at each address in use. -/
abbrev Heap (α β : Type) := α → Option β

namespace Heap

variable {S α β ε γ δ : Type}

/-! ### Heaps that extend another one -/

/-- The heap `h` is `h₀` with the blocks `cells`, which are all in places that `h₀` does not use. -/
structure Adds (h₀ : Heap α β) (cells : List (α × β)) (h : Heap α β) : Prop where
  nodup : (cells.map Prod.fst).Nodup
  fresh : ∀ p ∈ cells.map Prod.fst, h₀ p = none
  mem : ∀ c ∈ cells, h c.1 = some c.2
  same : ∀ p, p ∉ cells.map Prod.fst → h p = h₀ p

namespace Adds

variable {h₀ h : Heap α β} {cells cells' : List (α × β)} {p : α} {b b' : β}

/-- No block is added. -/
protected theorem refl (h : Heap α β) : Adds h [] h where
  nodup := List.nodup_nil
  fresh := by simp
  mem := by simp
  same _ _ := rfl

/-- Without further blocks the heap is what it was. -/
theorem eq_of_nil (hadds : Adds h₀ [] h) : h = h₀ :=
  funext fun p => hadds.same p List.not_mem_nil

/-- The order of the blocks does not matter. -/
theorem perm (hadds : Adds h₀ cells h) (hperm : cells.Perm cells') : Adds h₀ cells' h where
  nodup := (hperm.map Prod.fst).nodup_iff.mp hadds.nodup
  fresh q hq := hadds.fresh q ((hperm.map Prod.fst).mem_iff.mpr hq)
  mem c hc := hadds.mem c (hperm.mem_iff.mpr hc)
  same q hq := hadds.same q fun hmem => hq ((hperm.map Prod.fst).mem_iff.mp hmem)

/-- The first of the blocks. -/
theorem head (hadds : Adds h₀ ((p, b) :: cells) h) : h p = some b := hadds.mem _ List.mem_cons_self

/-- An address is in use when it was before, or is that of a further block. -/
theorem isSome_iff (hadds : Adds h₀ cells h) (q : α) :
    (h q).isSome ↔ (h₀ q).isSome ∨ q ∈ cells.map Prod.fst := by
  constructor
  · intro hsome
    by_cases hq : q ∈ cells.map Prod.fst
    · exact .inr hq
    · exact .inl (hadds.same q hq ▸ hsome)
  · rintro (hsome | hq)
    · have hnot : q ∉ cells.map Prod.fst := fun hmem => by
        rw [hadds.fresh q hmem] at hsome
        cases hsome
      rw [hadds.same q hnot]
      exact hsome
    · obtain ⟨c, hc, rfl⟩ := List.mem_map.mp hq
      rw [hadds.mem c hc]
      rfl

variable [DecidableEq α]

/-- A block in an unused place is added. -/
theorem insert (hadds : Adds h₀ cells h) (hfree : h p = none) (b : β) :
    Adds h₀ ((p, b) :: cells) (Function.update h p (some b)) := by
  have hp : p ∉ cells.map Prod.fst := fun hmem => by
    have hsome := (hadds.isSome_iff p).mpr (.inr hmem)
    rw [hfree] at hsome
    cases hsome
  refine ⟨List.nodup_cons.mpr ⟨hp, hadds.nodup⟩, ?_, ?_, ?_⟩
  · intro q hq
    rcases List.mem_cons.mp hq with heq | hq
    · rw [heq, ← hadds.same p hp]
      exact hfree
    · exact hadds.fresh q hq
  · intro c hc
    rcases List.mem_cons.mp hc with rfl | hmem
    · exact Function.update_self ..
    · have hne : c.1 ≠ p := by
        rintro rfl
        exact hp (List.mem_map_of_mem hmem)
      rw [Function.update_of_ne hne]
      exact hadds.mem c hmem
  · intro q hq
    rw [List.map_cons, List.mem_cons, not_or] at hq
    rw [Function.update_of_ne hq.1]
    exact hadds.same q hq.2

/-- A block is taken away. -/
theorem erase (hadds : Adds h₀ ((p, b) :: cells) h) :
    Adds h₀ cells (Function.update h p none) := by
  obtain ⟨hp, hnodup⟩ : p ∉ cells.map Prod.fst ∧ _ := List.nodup_cons.mp hadds.nodup
  refine ⟨hnodup, fun q hq => hadds.fresh q (List.mem_cons_of_mem _ hq), ?_, ?_⟩
  · intro c hc
    have hne : c.1 ≠ p := by
      rintro rfl
      exact hp (List.mem_map_of_mem hc)
    rw [Function.update_of_ne hne]
    exact hadds.mem c (List.mem_cons_of_mem _ hc)
  · intro q hq
    by_cases hqp : q = p
    · rw [hqp, Function.update_self]
      exact (hadds.fresh p List.mem_cons_self).symm
    · rw [Function.update_of_ne hqp]
      exact hadds.same q fun hmem => (List.mem_cons.mp hmem).elim hqp hq

/-- A block gets another content. -/
theorem set (hadds : Adds h₀ ((p, b) :: cells) h) (b' : β) :
    Adds h₀ ((p, b') :: cells) (Function.update h p (some b')) := by
  have hinsert := hadds.erase.insert (Function.update_self p none h) b'
  rwa [Function.update_idem] at hinsert

end Adds

/-! ### Programs -/

/-- Why a program with a heap does not return. -/
inductive Fault (α ε : Type) where
  /-- The part of the program that does not look at the heap has stopped. -/
  | stop (e : ε)
  /-- There is no memory left. -/
  | exhausted
  /-- A block is freed that is not there. -/
  | free (p : α)
  /-- A block is read or written that is not there. -/
  | access (p : α)
  deriving DecidableEq, Repr

/-- The program has freed, read or written a block that is not there. -/
def Fault.Memory : Fault α ε → Prop
  | stop _ | exhausted => False
  | free _ | access _ => True

/-- Computations on a state and a heap. -/
abbrev Program (S α β ε : Type) := Exec (S × Heap α β) (Fault α ε)

/-- A computation that does not look at the heap. -/
def lift (x : Exec S ε γ) : Program S α β ε γ := fun s =>
  match x.run s.1 with
  | .ok (a, s') => .ok (a, s', s.2)
  | .error e => .error (.stop e)

/-- An allocator finds a place that is not in use, if there is one left. -/
structure Allocator (α β : Type) where
  pick : Heap α β → Option α
  fresh : ∀ h p, pick h = some p → h p = none

/-- Whatever the memory holds. -/
def inspect (f : Heap α β → γ) : Program S α β ε γ := fun s => .ok (f s.2, s)

variable [DecidableEq α]

/-- A new block. -/
def malloc (a : Allocator α β) (b : β) : Program S α β ε α := fun s =>
  match a.pick s.2 with
  | some p => .ok (p, s.1, Function.update s.2 p (some b))
  | none => .error .exhausted

/-- Give a block back. -/
def free (p : α) : Program S α β ε Unit := fun s =>
  match s.2 p with
  | some _ => .ok ((), s.1, Function.update s.2 p none)
  | none => .error (.free p)

/-- Read a block. -/
def load (p : α) : Program S α β ε β := fun s =>
  match s.2 p with
  | some b => .ok (b, s)
  | none => .error (.access p)

/-- Write a block. -/
def store (p : α) (b : β) : Program S α β ε Unit := fun s =>
  match s.2 p with
  | some _ => .ok ((), s.1, Function.update s.2 p (some b))
  | none => .error (.access p)

variable {s : S} {h₀ h : Heap α β} {cells : List (α × β)} {p : α} {b : β}

omit [DecidableEq α] in
/-- A computation that does not look at the heap leaves it alone. -/
theorem run_lift_of_ok {x : Exec S ε γ} {s' : S} {a : γ} (hx : x.run s = .ok (a, s'))
    (h : Heap α β) : (lift x : Program S α β ε γ).run (s, h) = .ok (a, s', h) := by
  unfold lift
  simp only [StateT.run] at hx ⊢
  rw [hx]

omit [DecidableEq α] in
/-- A computation that does not look at the heap stops as it would without one. -/
theorem run_lift_of_error {x : Exec S ε γ} {e : ε} (hx : x.run s = .error e) (h : Heap α β) :
    (lift x : Program S α β ε γ).run (s, h) = .error (.stop e) := by
  unfold lift
  simp only [StateT.run] at hx ⊢
  rw [hx]

/-- A block that is there is freed. -/
theorem run_free (hp : h p = some b) :
    (free p : Program S α β ε Unit).run (s, h) = .ok ((), s, Function.update h p none) := by
  unfold free
  simp only [StateT.run, hp]

omit [DecidableEq α] in
/-- A block that is there is read. -/
theorem run_load (hp : h p = some b) :
    (load p : Program S α β ε β).run (s, h) = .ok (b, s, h) := by
  unfold load
  simp only [StateT.run, hp]

/-- A block that is there is written. -/
theorem run_store (hp : h p = some b) (b' : β) :
    (store p b' : Program S α β ε Unit).run (s, h) =
      .ok ((), s, Function.update h p (some b')) := by
  unfold store
  simp only [StateT.run, hp]

/-! ### Programs that refine a computation without a heap -/

/-- From a heap that adds `cells` to `h₀`, the program `x` returns only what the computation `y`
returns, up to `Q`, which also tells the blocks that are added then. It stops only where `y` does,
or when the memory is exhausted; so it never frees, reads or writes a block that is not there. -/
def Refines (h₀ : Heap α β) (cells : List (α × β)) (x : Program S α β ε γ) (y : Exec S ε δ)
    (Q : γ → δ → List (α × β) → Prop) : Prop :=
  ∀ s h, Adds h₀ cells h →
    (∀ c s' h', x.run (s, h) = .ok (c, s', h') →
      ∃ d cells', y.run s = .ok (d, s') ∧ Q c d cells' ∧ Adds h₀ cells' h') ∧
    ∀ f, x.run (s, h) = .error f → f = .exhausted ∨ ∃ e, f = .stop e ∧ y.run s = .error e

namespace Refines

variable {ζ η : Type} {x : Program S α β ε γ} {y : Exec S ε δ} {Q Q' : γ → δ → List (α × β) → Prop}

omit [DecidableEq α] in
/-- The order of the blocks does not matter at the beginning. -/
theorem perm {cells' : List (α × β)} (hx : Refines h₀ cells x y Q) (hperm : cells'.Perm cells) :
    Refines h₀ cells' x y Q :=
  fun s h hadds => hx s h (hadds.perm hperm)

omit [DecidableEq α] in
/-- The postcondition may be weakened, and the order of the blocks does not matter at the end. -/
theorem mono (hx : Refines h₀ cells x y Q)
    (hQ : ∀ c d cells', Q c d cells' → ∃ cells'', cells'.Perm cells'' ∧ Q' c d cells'') :
    Refines h₀ cells x y Q' := by
  intro s h hadds
  refine ⟨fun c s' h' hrun => ?_, (hx s h hadds).2⟩
  obtain ⟨d, cells', hy, hq, hadds'⟩ := (hx s h hadds).1 c s' h' hrun
  obtain ⟨cells'', hperm, hq'⟩ := hQ c d cells' hq
  exact ⟨d, cells'', hy, hq', hadds'.perm hperm⟩

omit [DecidableEq α] in
/-- Returning a value. -/
protected theorem pure {c : γ} {d : δ} (hQ : Q c d cells) :
    Refines h₀ cells (Pure.pure c : Program S α β ε γ) (Pure.pure d) Q := by
  intro s h hadds
  constructor
  · intro c' s' h' hrun
    cases hrun
    exact ⟨d, cells, rfl, hQ, hadds⟩
  · intro f hrun
    cases hrun

omit [DecidableEq α] in
/-- Sequential composition. -/
protected theorem bind {f : γ → Program S α β ε ζ} {g : δ → Exec S ε η}
    {R : ζ → η → List (α × β) → Prop} (hx : Refines h₀ cells x y Q)
    (hf : ∀ c d cells', Q c d cells' → Refines h₀ cells' (f c) (g d) R) :
    Refines h₀ cells (x >>= f) (y >>= g) R := by
  intro s h hadds
  obtain ⟨hok, herror⟩ := hx s h hadds
  constructor
  · intro c s'' h'' hrun
    obtain ⟨a, ⟨s', h'⟩, hfirst, hsecond⟩ := Exec.run_bind_eq_ok.mp hrun
    obtain ⟨d, cells', hy, hq, hadds'⟩ := hok a s' h' hfirst
    obtain ⟨e, cells'', hg, hr, hadds''⟩ := (hf a d cells' hq s' h' hadds').1 c s'' h'' hsecond
    exact ⟨e, cells'', (Exec.run_bind_of_ok hy).trans hg, hr, hadds''⟩
  · intro e hrun
    rcases Exec.run_bind_eq_error.mp hrun with hfirst | ⟨a, ⟨s', h'⟩, hfirst, hsecond⟩
    · rcases herror e hfirst with rfl | ⟨e', rfl, hy⟩
      · exact .inl rfl
      · exact .inr ⟨e', rfl, Exec.run_bind_of_error hy⟩
    · obtain ⟨d, cells', hy, hq, hadds'⟩ := hok a s' h' hfirst
      rcases (hf a d cells' hq s' h' hadds').2 e hsecond with rfl | ⟨e', rfl, hg⟩
      · exact .inl rfl
      · exact .inr ⟨e', rfl, (Exec.run_bind_of_ok hy).trans hg⟩

omit [DecidableEq α] in
/-- Last steps of the program alone. -/
protected theorem bind_right {f : γ → Program S α β ε ζ} {R : ζ → δ → List (α × β) → Prop}
    (hx : Refines h₀ cells x y Q)
    (hf : ∀ c d cells', Q c d cells' → Refines h₀ cells' (f c) (Pure.pure d) R) :
    Refines h₀ cells (x >>= f) y R :=
  bind_pure y ▸ hx.bind hf

omit [DecidableEq α] in
/-- An access that succeeds. -/
protected theorem access {e : Fault α ε} {o : Option γ} {c : γ} (ho : o = some c) (d : δ) :
    Refines h₀ cells (Exec.access e o : Program S α β ε γ) (Pure.pure d)
      fun c' _ cells' => c' = c ∧ cells' = cells := by
  rw [ho]
  exact Refines.pure ⟨rfl, rfl⟩

omit [DecidableEq α] in
/-- A first step of the program alone. -/
protected theorem bind_left {f : γ → Program S α β ε ζ} {g : Exec S ε η} {d : δ}
    {R : ζ → η → List (α × β) → Prop} (hx : Refines h₀ cells x (Pure.pure d) Q)
    (hf : ∀ c cells', Q c d cells' → Refines h₀ cells' (f c) g R) :
    Refines h₀ cells (x >>= f) g R := by
  intro s h hadds
  constructor
  · intro c s'' h'' hrun
    obtain ⟨a, ⟨s', h'⟩, hfirst, hsecond⟩ := Exec.run_bind_eq_ok.mp hrun
    obtain ⟨d', cells', hy, hq, hadds'⟩ := (hx s h hadds).1 a s' h' hfirst
    cases hy
    exact (hf a cells' hq s h' hadds').1 c s'' h'' hsecond
  · intro e hrun
    rcases Exec.run_bind_eq_error.mp hrun with hfirst | ⟨a, ⟨s', h'⟩, hfirst, hsecond⟩
    · rcases (hx s h hadds).2 e hfirst with rfl | ⟨e', rfl, hy⟩
      · exact .inl rfl
      · cases hy
    · obtain ⟨d', cells', hy, hq, hadds'⟩ := (hx s h hadds).1 a s' h' hfirst
      cases hy
      exact (hf a cells' hq s h' hadds').2 e hsecond

omit [DecidableEq α] in
/-- A computation that does not look at the heap. -/
protected theorem lift (y : Exec S ε γ) :
    Refines h₀ cells (Heap.lift y : Program S α β ε γ) y
      fun c d cells' => c = d ∧ cells' = cells := by
  intro s h hadds
  cases hy : y.run s with
  | error e =>
    refine ⟨fun c s' h' hrun => ?_, fun f hrun => ?_⟩
    · rw [run_lift_of_error hy] at hrun
      cases hrun
    · rw [run_lift_of_error hy] at hrun
      cases hrun
      exact .inr ⟨e, rfl, rfl⟩
  | ok r =>
    obtain ⟨a, s₁⟩ := r
    refine ⟨fun c s' h' hrun => ?_, fun f hrun => ?_⟩
    · rw [run_lift_of_ok hy] at hrun
      cases hrun
      exact ⟨a, cells, rfl, ⟨rfl, rfl⟩, hadds⟩
    · rw [run_lift_of_ok hy] at hrun
      cases hrun

omit [DecidableEq α] in
/-- A program that returns, and does nothing to the state. -/
theorem of_run {c : γ} {d : δ} {cells' : List (α × β)} (hQ : Q c d cells')
    (hrun : ∀ s h, Adds h₀ cells h → ∃ h', x.run (s, h) = .ok (c, s, h') ∧ Adds h₀ cells' h') :
    Refines h₀ cells x (Pure.pure d) Q := by
  intro s h hadds
  obtain ⟨h', hx, hadds'⟩ := hrun s h hadds
  constructor
  · intro c' s' h'' hrun'
    rw [hx] at hrun'
    cases hrun'
    exact ⟨d, cells', rfl, hQ, hadds'⟩
  · intro f hrun'
    rw [hx] at hrun'
    cases hrun'

/-- A new block, in a place of its own. -/
protected theorem malloc (a : Allocator α β) (b : β) (d : δ) :
    Refines h₀ cells (Heap.malloc a b : Program S α β ε α) (Pure.pure d)
      fun p _ cells' => (∃ h, a.pick h = some p) ∧ cells' = (p, b) :: cells := by
  intro s h hadds
  unfold Heap.malloc
  simp only [StateT.run]
  cases hpick : a.pick h with
  | none =>
    refine ⟨fun c s' h' hrun => ?_, fun f hrun => ?_⟩
    · cases hrun
    · cases hrun
      exact .inl rfl
  | some p =>
    refine ⟨fun c s' h' hrun => ?_, fun f hrun => ?_⟩
    · cases hrun
      exact ⟨d, _, rfl, ⟨⟨h, hpick⟩, rfl⟩, hadds.insert (a.fresh h p hpick) b⟩
    · cases hrun

/-- One of the further blocks is freed. -/
protected theorem free (d : δ) : Refines h₀ ((p, b) :: cells) (Heap.free p : Program S α β ε Unit)
    (Pure.pure d) fun _ _ cells' => cells' = cells :=
  of_run rfl fun _ _ hadds => ⟨_, run_free hadds.head, hadds.erase⟩

omit [DecidableEq α] in
/-- One of the further blocks is read. -/
protected theorem load (hmem : (p, b) ∈ cells) (d : δ) :
    Refines h₀ cells (Heap.load p : Program S α β ε β) (Pure.pure d)
      fun b' _ cells' => b' = b ∧ cells' = cells :=
  of_run ⟨rfl, rfl⟩ fun _ _ hadds => ⟨_, run_load (hadds.mem _ hmem), hadds⟩

omit [DecidableEq α] in
/-- Whatever the memory holds. -/
protected theorem inspect (f : Heap α β → γ) (d : δ) :
    Refines h₀ cells (Heap.inspect f : Program S α β ε γ) (Pure.pure d)
      fun _ _ cells' => cells' = cells := by
  intro s h hadds
  refine ⟨fun c s' h' hrun => ?_, fun e hrun => ?_⟩
  · cases hrun
    exact ⟨d, cells, rfl, rfl, hadds⟩
  · cases hrun

/-- One of the further blocks is written. -/
protected theorem store (b' : β) (d : δ) :
    Refines h₀ ((p, b) :: cells) (Heap.store p b' : Program S α β ε Unit) (Pure.pure d)
      fun _ _ cells' => cells' = (p, b') :: cells :=
  of_run rfl fun _ _ hadds => ⟨_, run_store hadds.head b', hadds.set b'⟩

end Refines

end Heap
