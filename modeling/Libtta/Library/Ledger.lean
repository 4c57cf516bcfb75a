import Mathlib

/-!
# Ledgers of a resource that is held one at a time

A ledger lists the acquisitions and the releases of handles, the most recent first. `held` is the
handle that is held at the end. A ledger is `Disciplined` if only the handle that is held is ever
released, and none is acquired while another one is held; in such a ledger a handle that is released
twice has been acquired again in between.
-/

namespace Ledger

variable {α : Type}

/-- The entries of a ledger. -/
inductive Entry (α : Type) where
  | acquired (a : α)
  | released (a : α)

variable [DecidableEq α]

/-- The handle that is held: the last one that was acquired, unless it has been released. -/
def held : List (Entry α) → Option α
  | [] => none
  | .acquired a :: _ => some a
  | .released a :: l => if held l = some a then none else held l

/-- Only what is held is released, and nothing is acquired while something is held. -/
def Disciplined : List (Entry α) → Prop
  | [] => True
  | .acquired _ :: l => held l = none ∧ Disciplined l
  | .released a :: l => held l = some a ∧ Disciplined l

/-- Behind the release of the handle that is held, none is held. -/
theorem held_released {a : α} {l : List (Entry α)} (h : held l = some a) :
    held (.released a :: l) = none :=
  if_pos h

/-- A handle that is held has been acquired, or it was held before. -/
theorem acquired_or_held {a : α} {l l' : List (Entry α)} (h : held (l ++ l') = some a) :
    .acquired a ∈ l ∨ held l' = some a := by
  induction l with
  | nil => exact .inr h
  | cons e l ih =>
    rcases e with b | b
    · obtain rfl := Option.some.inj h
      exact .inl List.mem_cons_self
    · have hheld : held (l ++ l') = some a := by
        rw [List.cons_append, held] at h
        split at h
        · cases h
        · exact h
      exact (ih hheld).imp_left (List.mem_cons_of_mem _)

/-- A handle that is held has been acquired. -/
theorem acquired_of_held {a : α} {l : List (Entry α)} (h : held l = some a) : .acquired a ∈ l :=
  (acquired_or_held ((congrArg held (List.append_nil l)).trans h)).resolve_right (by rintro ⟨⟩)

namespace Disciplined

/-- The older entries of a disciplined ledger. -/
theorem of_append {l l' : List (Entry α)} (h : Disciplined (l ++ l')) : Disciplined l' := by
  induction l with
  | nil => exact h
  | cons e l ih =>
    rcases e with a | a
    · exact ih h.2
    · exact ih h.2

/-- A handle that is released twice has been acquired in between. -/
theorem acquired_between {a : α} {l l' : List (Entry α)}
    (h : Disciplined (.released a :: (l ++ .released a :: l'))) : .acquired a ∈ l := by
  refine (acquired_or_held h.1).resolve_right fun hheld => ?_
  have hfirst : held l' = some a := h.2.of_append.1
  rw [held_released hfirst] at hheld
  cases hheld

end Disciplined

end Ledger
