import Libtta.Library.Parts

/-!
# What a run costs

`Exec.Costs P clock c x` says that every run of `x` that starts in a state with `P` and returns ends
in a state with `P`, and that a clock in the state has advanced by at most `c` in between. Costs add
up along a composition. The clock may be anything that is counted: time, calls, memory.
-/

namespace Exec

variable {S ε α β : Type} {P : S → Prop} {clock : S → ℕ} {c c' : ℕ}

/-- Runs from `P` keep `P`, and cost at most `c`. -/
def Costs (P : S → Prop) (clock : S → ℕ) (c : ℕ) (x : Exec S ε α) : Prop :=
  ∀ s a s', P s → x.run s = .ok (a, s') → P s' ∧ clock s' ≤ clock s + c

namespace Costs

/-- The bound may be weakened. -/
theorem mono {x : Exec S ε α} (h : Costs P clock c x) (hc : c ≤ c') : Costs P clock c' x :=
  fun s a s' hs hr => ⟨(h s a s' hs hr).1, (h s a s' hs hr).2.trans (Nat.add_le_add_left hc _)⟩

/-- Returning a value costs nothing. -/
protected theorem pure (a : α) : Costs P clock c (Pure.pure a : Exec S ε α) := by
  rintro s _ _ hs ⟨⟩
  exact ⟨hs, Nat.le_add_right _ _⟩

/-- The costs of a composition add up. -/
protected theorem bind {x : Exec S ε α} {f : α → Exec S ε β} (hx : Costs P clock c x)
    (hf : ∀ a, Costs P clock c' (f a)) : Costs P clock (c + c') (x >>= f) := by
  intro s b s'' hs hr
  obtain ⟨a, s', h₁, h₂⟩ := run_bind_eq_ok.mp hr
  obtain ⟨hs', hle⟩ := hx s a s' hs h₁
  obtain ⟨hs'', hle'⟩ := hf a s' b s'' hs' h₂
  exact ⟨hs'', by omega⟩

/-- What comes first costs nothing. -/
protected theorem bind_left {x : Exec S ε α} {f : α → Exec S ε β} (hx : Costs P clock 0 x)
    (hf : ∀ a, Costs P clock c (f a)) : Costs P clock c (x >>= f) :=
  (hx.bind hf).mono (Nat.zero_add c).le

/-- What comes then costs nothing. -/
protected theorem bind_right {x : Exec S ε α} {f : α → Exec S ε β} (hx : Costs P clock c x)
    (hf : ∀ a, Costs P clock 0 (f a)) : Costs P clock c (x >>= f) :=
  hx.bind hf

/-- A case distinction costs what its branches cost. -/
protected theorem ite {b : Prop} [Decidable b] {x y : Exec S ε α} (hx : Costs P clock c x)
    (hy : Costs P clock c y) : Costs P clock c (if b then x else y) := by
  split
  · exact hx
  · exact hy

/-- Reading the state costs nothing, and gives a state with `P`. -/
protected theorem get_bind {f : S → Exec S ε β} (hf : ∀ s, P s → Costs P clock c (f s)) :
    Costs P clock c (MonadState.get >>= f) :=
  fun s b s' hs hr => hf s hs s b s' hs hr

/-- An update that keeps `P`. -/
protected theorem modify {g : S → S} (hP : ∀ s, P s → P (g s))
    (hg : ∀ s, clock (g s) ≤ clock s + c) :
    Costs P clock c (modify g : Exec S ε PUnit) := by
  rintro s _ _ hs ⟨⟩
  exact ⟨hP s hs, hg s⟩

/-- What is put together from parts that cost nothing costs nothing. -/
theorem of_built {A : Parts S ε} {V : Views S} {E : ε → Prop} {x : Exec S ε α}
    (h : Built A V E (fun _ => True) x)
    (hpart : ∀ {Q : S → Prop} {α : Type} {x : Exec S ε α}, A Q x → Costs P clock 0 x) :
    Costs P clock 0 x := by
  let R (s s' : S) : Prop := P s → P s' ∧ clock s' ≤ clock s
  have : Std.Refl R := ⟨fun _ hs => ⟨hs, le_rfl⟩⟩
  have : IsTrans S R := ⟨fun _ _ _ h h' hs =>
    ⟨(h' (h hs).1).1, (h' (h hs).1).2.trans (h hs).2⟩⟩
  intro s a s' hs hr
  exact h.along (R := R) (fun hA s a s' _ hr hs => hpart hA s a s' hs hr) s a s' trivial hr hs

end Costs

end Exec
