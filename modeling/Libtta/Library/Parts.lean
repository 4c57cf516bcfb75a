import Libtta.Library.Exec

/-!
# Computations put together from parts

`Exec.Built A V E P x` says that `x`, run from a state with `P`, is put together from parts in `A`
by sequential composition, reads of the state through the views in `V`, and stops in `E`. So what is
to be shown of a computation needs to be shown of its parts only: there is one rule for each way of
speaking about runs, `Built.along`, `Built.triple`, `Built.respects` and `Built.always`.
-/

namespace Exec

variable {S ε α β : Type}

/-- The parts that a computation may have, with what holds of the state where they are run. -/
abbrev Parts (S ε : Type) := (S → Prop) → ∀ ⦃α : Type⦄, Exec S ε α → Prop

/-- The views through which a computation may look at the state. -/
abbrev Views (S : Type) := ∀ ⦃ι : Type⦄, (S → ι) → Prop

/-- Run from a state with `P`, the computation is put together from the parts `A`; it looks at the
state through the views `V`, and stops with an `e` in `E`. -/
inductive Built (A : Parts S ε) (V : Views S) (E : ε → Prop) :
    (S → Prop) → ∀ {α : Type}, Exec S ε α → Prop
  | part {P : S → Prop} {α : Type} {x : Exec S ε α} : A P x → Built A V E P x
  | pure {P : S → Prop} {α : Type} (a : α) : Built A V E P (Pure.pure a)
  | stop {P : S → Prop} {α : Type} {e : ε} : E e → Built A V E P (Exec.stop e : Exec S ε α)
  | bind {P : S → Prop} {α β : Type} {x : Exec S ε α} {f : α → Exec S ε β} :
      Built A V E P x → (∀ a, Built A V E (fun _ => True) (f a)) → Built A V E P (x >>= f)
  | read {P : S → Prop} {ι α : Type} {g : S → ι} {f : ι → Exec S ε α} :
      V g → (∀ i, Built A V E (fun s => P s ∧ g s = i) (f i)) →
      Built A V E P (MonadState.get >>= fun s => f (g s))

namespace Built

variable {A : Parts S ε} {V : Views S} {E : ε → Prop} {P : S → Prop} {x y : Exec S ε α}

/-- A case distinction. -/
protected theorem ite {c : Prop} [Decidable c] (hx : c → Built A V E P x)
    (hy : ¬c → Built A V E P y) : Built A V E P (if c then x else y) := by
  split
  · exact hx ‹c›
  · exact hy ‹¬c›

/-- An access that may fail. -/
protected theorem access {e : ε} (he : E e) (o : Option α) :
    Built A V E P (Exec.access e o : Exec S ε α) := by
  cases o with
  | none => exact .stop he
  | some a => exact .pure a

/-! ### What is shown of the parts -/

/-- A relation that holds along the parts holds along the computation. -/
theorem along {R : S → S → Prop} [Std.Refl R] [IsTrans S R] (h : Built A V E P x)
    (hpart : ∀ {P : S → Prop} {α : Type} {x : Exec S ε α}, A P x →
      ∀ s a s', P s → x.run s = .ok (a, s') → R s s') :
    ∀ s a s', P s → x.run s = .ok (a, s') → R s s' := by
  induction h with
  | part hx => exact hpart hx
  | pure a =>
    rintro s _ _ - ⟨⟩
    exact refl_of R s
  | stop he => rintro s _ _ - ⟨⟩
  | bind hx hf ihx ihf =>
    intro s b s'' hs hr
    obtain ⟨a, s', h₁, h₂⟩ := run_bind_eq_ok.mp hr
    exact trans_of R (ihx s a s' hs h₁) (ihf a s' b s'' trivial h₂)
  | read hg hf ih => exact fun s b s' hs hr => ih _ s b s' ⟨hs, rfl⟩ hr

/-- An invariant that the parts keep is kept, and the computation stops as its parts do, or by one
of its own stops. -/
theorem triple {I : S → Prop} {F : ε → Prop} (h : Built A V E P x)
    (hpart : ∀ {P : S → Prop} {α : Type} {x : Exec S ε α}, A P x →
      Triple (fun s => P s ∧ I s) x (fun _ => I) F) (hE : ∀ e, E e → F e) :
    Triple (fun s => P s ∧ I s) x (fun _ => I) F := by
  induction h with
  | part hx => exact hpart hx
  | pure a => exact Triple.pure fun _ hs => hs.2
  | stop he => exact Triple.stop (hE _ he)
  | bind hx hf ihx ihf =>
    exact ihx.bind fun a => (ihf a).conseq (fun _ hs => ⟨trivial, hs⟩) fun _ _ hs => hs
  | read hg hf ih => exact fun s hs => ih _ s ⟨⟨hs.1, rfl⟩, hs.2⟩

/-- Runs from related states are alike if those of the parts are, and the views show the same in
related states. -/
theorem respects {R : S → S → Prop} (h : Built A V E P x)
    (hpart : ∀ {P : S → Prop} {α : Type} {x : Exec S ε α}, A P x →
      ∀ s s', P s → P s' → R s s' → Alike R (x.run s) (x.run s'))
    (hview : ∀ {ι : Type} {g : S → ι}, V g → ∀ s s', R s s' → g s' = g s) :
    ∀ s s', P s → P s' → R s s' → Alike R (x.run s) (x.run s') := by
  induction h with
  | part hx => exact hpart hx
  | pure a => exact fun _ _ _ _ hR => .ok a hR
  | stop he => exact fun _ _ _ _ _ => .error _
  | @bind P α β x f hx hf ihx ihf =>
    intro s s' hs hs' hR
    have halike := ihx s s' hs hs' hR
    rw [StateT.run_bind, StateT.run_bind]
    generalize x.run s = r, x.run s' = r' at halike
    rcases halike with ⟨a, hR'⟩ | e
    · exact ihf a _ _ trivial trivial hR'
    · exact .error e
  | @read P ι α g f hg hf ih =>
    intro s s' hs hs' hR
    have hsame := hview hg s s' hR
    have hrun := ih (g s) s s' ⟨hs, rfl⟩ ⟨hs', hsame⟩ hR
    change Alike R ((f (g s)).run s) ((f (g s')).run s')
    rw [hsame]
    exact hrun

/-- A computation without stops returns if its parts do, and a relation that holds along the parts
holds along it. -/
theorem always {R : S → S → Prop} [Std.Refl R] [IsTrans S R] (h : Built A V (fun _ => False) P x)
    (hpart : ∀ {P : S → Prop} {α : Type} {x : Exec S ε α}, A P x →
      ∀ s, P s → ∃ a s', x.run s = .ok (a, s') ∧ R s s') :
    ∀ s, P s → ∃ a s', x.run s = .ok (a, s') ∧ R s s' := by
  induction h with
  | part hx => exact hpart hx
  | pure a => exact fun s _ => ⟨a, s, rfl, refl_of R s⟩
  | stop he => exact he.elim
  | bind hx hf ihx ihf =>
    intro s hs
    obtain ⟨a, s', h₁, hR⟩ := ihx s hs
    obtain ⟨b, s'', h₂, hR'⟩ := ihf a s' trivial
    exact ⟨b, s'', (run_bind_of_ok h₁).trans h₂, trans_of R hR hR'⟩
  | read hg hf ih => exact fun s hs => ih _ s ⟨hs, rfl⟩

end Built

end Exec
