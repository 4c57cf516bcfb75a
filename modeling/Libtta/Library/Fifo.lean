import Mathlib

/-!
# Machines that give out the elements of a queue

A machine makes steps of which each may give out some elements. `Fifo.outputs` is what a sequence of
steps gives out. With `contents` as the elements that a state still has to give out, in their order,
a step that `Fifo.Takes` gives out elements from the front of the contents. What steps of this kind
give out is at the front of the contents (`Fifo.outputs_prefix_cons`), and the contents behind it
are in their old places (`Fifo.getElem?_contents`).
-/

namespace Fifo

variable {C S α : Type*} {step : C → S → List α × S} {contents : S → List α} {c : C} {cs : List C}
  {s : S}

/-- What a sequence of steps gives out. -/
def outputs (step : C → S → List α × S) : List C → S → List α
  | [], _ => []
  | c :: cs, s => (step c s).1 ++ outputs step cs (step c s).2

/-- A step gives out elements from the front of the contents. -/
def Takes (step : C → S → List α × S) (contents : S → List α) (c : C) (s : S) : Prop :=
  (step c s).1 ++ contents (step c s).2 = contents s

/-- Behind a step that takes from the front, the rest of the run may do the same. -/
theorem outputs_prefix_cons (htakes : Takes step contents c s)
    (h : outputs step cs (step c s).2 <+: contents (step c s).2) :
    outputs step (c :: cs) s <+: contents s := by
  rw [outputs, ← htakes]
  exact (List.prefix_append_right_inj _).mpr h

/-- If a run gives out the front of the contents, so does the rest of the run behind a step that
takes from the front. -/
theorem outputs_prefix_of_cons (htakes : Takes step contents c s)
    (h : outputs step (c :: cs) s <+: contents s) :
    outputs step cs (step c s).2 <+: contents (step c s).2 := by
  rw [outputs, ← htakes] at h
  exact (List.prefix_append_right_inj _).mp h

/-- What is in the contents behind a step that takes from the front. -/
theorem getElem?_contents (htakes : Takes step contents c s) (i : ℕ) :
    (contents (step c s).2)[i]? = (contents s)[(step c s).1.length + i]? := by
  rw [← htakes, List.getElem?_append_right (Nat.le_add_right _ _), Nat.add_sub_cancel_left]

/-- Steps that give out nothing from any state. -/
theorem outputs_eq_nil {P : S → Prop}
    (h : ∀ c ∈ cs, ∀ s, P s → (step c s).1 = [] ∧ P (step c s).2) (hs : P s) :
    outputs step cs s = [] := by
  induction cs generalizing s with
  | nil => rfl
  | cons c cs ih =>
    obtain ⟨hnil, hs'⟩ := h c List.mem_cons_self s hs
    rw [outputs, hnil, ih (fun c' hc' => h c' (List.mem_cons_of_mem _ hc')) hs']
    rfl

end Fifo
