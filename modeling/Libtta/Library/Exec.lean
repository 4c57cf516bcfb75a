import Mathlib

/-!
# Computations on a state that may stop early

`Exec S ε α` is the type of computations that read and update a state `S` and either return an `α`
or stop with an `ε`. Stopping means that the program being modelled has no next step of its own:
it has accessed memory it does not own, say, or the bound on a loop has been used up.

`Exec.run_bind_eq_ok` and `Exec.run_bind_eq_error` take a run of a sequential composition apart,
`Exec.run_bind_of_ok` puts one together, and `Exec.Triple` is the Hoare triple with a second
postcondition for the stops, with one rule for each way of building a computation. `Exec.Along`
relates the states before and after a run that returns, by a relation that is kept when runs are put
one behind the other. `Exec.Respects` relates two runs: from related states they are alike.
-/

/-- Computations on a state `S` that may stop with an `ε` instead of returning. -/
abbrev Exec (S ε : Type) := StateT S (Except ε)

namespace Exec

variable {S ε α β : Type}

/-- The computation that stops with `e`. -/
def stop (e : ε) : Exec S ε α := fun _ => .error e

/-- An access that succeeds with a value, or fails and stops the run with `e`. -/
def access (e : ε) : Option α → Exec S ε α
  | some a => pure a
  | none => stop e

@[simp] theorem run_stop (e : ε) (s : S) : (stop e : Exec S ε α).run s = .error e := rfl

@[simp] theorem ok_bind (a : α) (f : α → Except ε β) : (Except.ok a >>= f) = f a := rfl

@[simp] theorem error_bind (e : ε) (f : α → Except ε β) : (Except.error e >>= f) = .error e := rfl

@[simp] theorem pure_eq_ok (a : α) : (pure a : Except ε α) = .ok a := rfl

/-! ### Taking a run apart and putting it together -/

/-- A composition whose first part returns continues with the second part. -/
theorem run_bind_of_ok {x : Exec S ε α} {f : α → Exec S ε β} {s s' : S} {a : α}
    (h : x.run s = .ok (a, s')) : (x >>= f).run s = (f a).run s' := by
  rw [StateT.run_bind, h, ok_bind]

/-- A composition whose first part stops, stops. -/
theorem run_bind_of_error {x : Exec S ε α} {f : α → Exec S ε β} {s : S} {e : ε}
    (h : x.run s = .error e) : (x >>= f).run s = .error e := by
  rw [StateT.run_bind, h, error_bind]

/-- A composition returns exactly when its first part returns and the second part returns from
there. -/
theorem run_bind_eq_ok {x : Exec S ε α} {f : α → Exec S ε β} {s : S} {r : β × S} :
    (x >>= f).run s = .ok r ↔ ∃ a s', x.run s = .ok (a, s') ∧ (f a).run s' = .ok r := by
  rw [StateT.run_bind]
  cases hx : x.run s with
  | error e => simp
  | ok p => obtain ⟨a, s'⟩ := p; simp

/-- A composition stops exactly when its first part stops, or returns and the second part stops
from there. -/
theorem run_bind_eq_error {x : Exec S ε α} {f : α → Exec S ε β} {s : S} {e : ε} :
    (x >>= f).run s = .error e ↔
      x.run s = .error e ∨ ∃ a s', x.run s = .ok (a, s') ∧ (f a).run s' = .error e := by
  rw [StateT.run_bind]
  cases hx : x.run s with
  | error e => simp
  | ok p => obtain ⟨a, s'⟩ := p; simp

/-- A composition depends only on the run of its first part. -/
theorem run_bind_congr {x y : Exec S ε α} {s : S} (h : x.run s = y.run s) (f : α → Exec S ε β) :
    (x >>= f).run s = (y >>= f).run s := by
  rw [StateT.run_bind, StateT.run_bind, h]

/-- An access returns exactly when it succeeds, and leaves the state alone. -/
theorem run_access_eq_ok {e : ε} {o : Option α} {s : S} {r : α × S} :
    (access e o : Exec S ε α).run s = .ok r ↔ o = some r.1 ∧ r.2 = s := by
  cases o with
  | none => simp [access]
  | some a =>
    obtain ⟨b, s'⟩ := r
    simp [access, eq_comm]

/-- An access that succeeds gives its value and leaves the state alone. -/
theorem run_access_of_some {e : ε} {o : Option α} {a : α} {s : S} (h : o = some a) :
    (access e o : Exec S ε α).run s = .ok (a, s) := by
  rw [h]
  rfl

/-- An access that fails stops the run. -/
theorem run_access_of_none {e : ε} {o : Option α} {s : S} (h : o = none) :
    (access e o : Exec S ε α).run s = .error e := by
  rw [h]
  rfl

/-- What is computed from a result that is there, is computed from some result. -/
theorem exists_of_map_eq_ok {r : Except ε α} {f : α → β} {b : β} (h : r.map f = .ok b) :
    ∃ a, r = .ok a ∧ f a = b := by
  cases r with
  | error e => cases h
  | ok a => exact ⟨a, rfl, Except.ok.inj h⟩

/-- A run whose value can be computed, returns. -/
theorem exists_run_of_fst {x : Exec S ε α} {s : S} {a : α}
    (h : (x.run s).toOption.map Prod.fst = some a) : ∃ s', x.run s = .ok (a, s') := by
  rcases hrun : x.run s with e | ⟨b, s'⟩
  · rw [hrun] at h
    cases h
  · rw [hrun] at h
    cases h
    exact ⟨s', rfl⟩

/-! ### Hoare triples -/

/-- From every state that satisfies `P`, the computation either returns a value and a state that
satisfy `Q`, or stops with an `e` that satisfies `E`. -/
def Triple (P : S → Prop) (x : Exec S ε α) (Q : α → S → Prop) (E : ε → Prop) : Prop :=
  ∀ s, P s → (∀ a s', x.run s = .ok (a, s') → Q a s') ∧ ∀ e, x.run s = .error e → E e

namespace Triple

variable {P P' : S → Prop} {Q Q' : α → S → Prop} {R : β → S → Prop} {E : ε → Prop}

/-- What a triple says about a run that returns. -/
theorem of_ok {x : Exec S ε α} (h : Triple P x Q E) {s s' : S} {a : α} (hs : P s)
    (hr : x.run s = .ok (a, s')) : Q a s' :=
  (h s hs).1 a s' hr

/-- What a triple says about a run that stops. -/
theorem of_error {x : Exec S ε α} (h : Triple P x Q E) {s : S} {e : ε} (hs : P s)
    (hr : x.run s = .error e) : E e :=
  (h s hs).2 e hr

/-- The precondition may be strengthened and the postcondition weakened. -/
theorem conseq {x : Exec S ε α} (h : Triple P x Q E) (hP : ∀ s, P' s → P s)
    (hQ : ∀ a s, Q a s → Q' a s) : Triple P' x Q' E := fun s hs =>
  ⟨fun a s' hr => hQ a s' (h.of_ok (hP s hs) hr), fun _ hr => h.of_error (hP s hs) hr⟩

/-- Returning a value changes nothing. -/
protected theorem pure {a : α} (h : ∀ s, P s → Q a s) :
    Triple P (Pure.pure a : Exec S ε α) Q E := by
  intro s hs
  constructor
  · intro b s' hr
    simp only [StateT.run_pure, pure_eq_ok, Except.ok.injEq, Prod.mk.injEq] at hr
    exact hr.1 ▸ hr.2 ▸ h s hs
  · intro e hr
    simp at hr

/-- The rule of sequential composition. -/
protected theorem bind {x : Exec S ε α} {f : α → Exec S ε β} (hx : Triple P x Q E)
    (hf : ∀ a, Triple (Q a) (f a) R E) : Triple P (x >>= f) R E := by
  intro s hs
  constructor
  · intro b s'' hr
    obtain ⟨a, s', h1, h2⟩ := run_bind_eq_ok.mp hr
    exact (hf a).of_ok (hx.of_ok hs h1) h2
  · intro e hr
    rcases run_bind_eq_error.mp hr with h1 | ⟨a, s', h1, h2⟩
    · exact hx.of_error hs h1
    · exact (hf a).of_error (hx.of_ok hs h1) h2

/-- Stopping needs the postcondition for stops only. -/
protected theorem stop {e : ε} (h : E e) : Triple P (Exec.stop e : Exec S ε α) Q E := by
  intro s _
  constructor
  · intro a s' hr
    simp at hr
  · intro e' hr
    simp only [run_stop, Except.error.injEq] at hr
    exact hr ▸ h

/-- Updating the state. -/
protected theorem modify {g : S → S} {Q : PUnit → S → Prop} (h : ∀ s, P s → Q ⟨⟩ (g s)) :
    Triple P (modify g : Exec S ε PUnit) Q E := by
  intro s hs
  constructor
  · intro a s' hr
    simp only [StateT.run_modify, pure_eq_ok, Except.ok.injEq, Prod.mk.injEq] at hr
    exact hr.2 ▸ h s hs
  · intro e hr
    simp at hr

/-- An access that fails stops the run. -/
protected theorem access {e : ε} {o : Option α} (hok : ∀ a s, o = some a → P s → Q a s)
    (hstop : o = none → E e) : Triple P (Exec.access e o : Exec S ε α) Q E := by
  cases o with
  | none => exact Triple.stop (hstop rfl)
  | some a => exact Triple.pure fun s hs => hok a s rfl hs

end Triple

/-! ### Runs along a relation -/

/-- Every run that returns ends in a state that is related to the one it starts in. -/
def Along (R : S → S → Prop) (x : Exec S ε α) : Prop :=
  ∀ s a s', x.run s = .ok (a, s') → R s s'

namespace Along

variable {R R' : S → S → Prop}

/-- The relation may be weakened. -/
theorem mono {x : Exec S ε α} (h : Along R x) (hR : ∀ s s', R s s' → R' s s') : Along R' x :=
  fun s a s' hr => hR s s' (h s a s' hr)

/-- Returning a value. -/
protected theorem pure [Std.Refl R] (a : α) : Along R (Pure.pure a : Exec S ε α) := by
  intro s b s' hr
  cases hr
  exact refl_of R s

/-- Sequential composition. -/
protected theorem bind [IsTrans S R] {x : Exec S ε α} {f : α → Exec S ε β} (hx : Along R x)
    (hf : ∀ a, Along R (f a)) : Along R (x >>= f) := by
  intro s b s'' hr
  obtain ⟨a, s', h1, h2⟩ := run_bind_eq_ok.mp hr
  exact trans_of R (hx s a s' h1) (hf a s' b s'' h2)

/-- A case distinction. -/
protected theorem ite {c : Prop} [Decidable c] {x y : Exec S ε α} (hx : Along R x)
    (hy : Along R y) : Along R (if c then x else y) := by
  split
  · exact hx
  · exact hy

/-- Updating the state. -/
protected theorem modify {g : S → S} (h : ∀ s, R s (g s)) :
    Along R (modify g : Exec S ε PUnit) := by
  intro s a s' hr
  cases hr
  exact h s

end Along

/-! ### Two runs -/

/-- Two runs return the same value in related states, or they stop for the same reason. -/
inductive Alike (R : S → S → Prop) : Except ε (α × S) → Except ε (α × S) → Prop
  | ok (a : α) {s s' : S} : R s s' → Alike R (.ok (a, s)) (.ok (a, s'))
  | error (e : ε) : Alike R (.error e) (.error e)

/-- Runs that start in related states are alike. -/
def Respects (R : S → S → Prop) (x : Exec S ε α) : Prop :=
  ∀ s s', R s s' → Alike R (x.run s) (x.run s')

end Exec
