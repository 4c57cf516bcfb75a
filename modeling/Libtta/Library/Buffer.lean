import Mathlib

/-!
# Buffers with checked accesses

A buffer is a list of fixed length. `Buffer.store` copies a block into it and `Buffer.load` copies
a block out of it; both fail when the block does not lie inside the buffer, so an access that
succeeds is in bounds. A buffer that is filled from the front is described by `bs <+: buf`: its
first elements are `bs`, and what follows is whatever the buffer held before.
-/

namespace Buffer

variable {α : Type*}

/-- Copy the block `vs` into the buffer, starting at index `i`. -/
def store (buf : List α) (i : ℕ) (vs : List α) : Option (List α) :=
  if i + vs.length ≤ buf.length then some (buf.take i ++ vs ++ buf.drop (i + vs.length)) else none

/-- Copy `n` elements out of the buffer, starting at index `i`. -/
def load (buf : List α) (i n : ℕ) : Option (List α) :=
  if i + n ≤ buf.length then some ((buf.drop i).take n) else none

/-- A store fails exactly when the block leaves the buffer. -/
theorem store_eq_none_iff {buf vs : List α} {i : ℕ} :
    store buf i vs = none ↔ buf.length < i + vs.length := by
  unfold store
  split <;> simp <;> omega

/-- A store does not change the size of the buffer. -/
theorem length_of_store {buf vs buf' : List α} {i : ℕ} (h : store buf i vs = some buf') :
    buf'.length = buf.length := by
  unfold store at h
  split at h
  · cases h
    simp only [List.length_append, List.length_take, List.length_drop]
    omega
  · cases h

/-- A store right behind the filled part succeeds when there is room, and extends the filled
part. -/
theorem exists_store_of_prefix {buf bs vs : List α} (h : bs <+: buf)
    (hroom : bs.length + vs.length ≤ buf.length) :
    ∃ buf', store buf bs.length vs = some buf' ∧ bs ++ vs <+: buf' ∧
      buf'.length = buf.length := by
  refine ⟨buf.take bs.length ++ vs ++ buf.drop (bs.length + vs.length), ?_, ?_, ?_⟩
  · exact if_pos hroom
  · rw [← List.prefix_iff_eq_take.mp h]
    exact List.prefix_append _ _
  · simp only [List.length_append, List.length_take, List.length_drop]
    omega

/-- A block that is stored at the front stands there. -/
theorem prefix_of_store {buf vs buf' : List α} (h : store buf 0 vs = some buf') : vs <+: buf' := by
  unfold store at h
  split at h
  · cases h
    rw [List.take_zero, List.nil_append]
    exact List.prefix_append _ _
  · cases h

/-- A block that fits is stored at the front of the buffer, and what follows it stays. -/
theorem store_zero {buf vs : List α} (hroom : vs.length ≤ buf.length) :
    store buf 0 vs = some (vs ++ buf.drop vs.length) := by
  rw [store, if_pos (by omega), List.take_zero, List.nil_append, Nat.zero_add]

/-- `store` for a buffer whose size is part of its type. -/
def storeVec {n : ℕ} (buf : List.Vector α n) (i : ℕ) (vs : List α) : Option (List.Vector α n) :=
  match h : store buf.1 i vs with
  | none => none
  | some buf' => some ⟨buf', (length_of_store h).trans buf.2⟩

/-- A store keeps the size of the buffer, so its result is a buffer of that size. -/
theorem storeVec_eq_some {n : ℕ} {buf : List.Vector α n} {i : ℕ} {vs buf' : List α}
    (h : store buf.1 i vs = some buf') :
    storeVec buf i vs = some ⟨buf', (length_of_store h).trans buf.2⟩ := by
  unfold storeVec
  split
  · rename_i hnone
    cases hnone.symm.trans h
  · rename_i b hsome
    cases hsome.symm.trans h
    rfl

/-- A block that is no longer than the buffer is stored at its front. -/
theorem exists_storeVec {n : ℕ} (buf : List.Vector α n) {vs : List α} (hroom : vs.length ≤ n) :
    ∃ buf', storeVec buf 0 vs = some buf' ∧ vs <+: buf'.1 := by
  obtain ⟨buf', hstore, hpre, hlen⟩ :=
    exists_store_of_prefix (List.nil_prefix (l := buf.1))
      (show ([] : List α).length + vs.length ≤ buf.1.length by simpa [buf.2] using hroom)
  exact ⟨_, storeVec_eq_some hstore, hpre⟩

/-- Reading a list index by index gives the list. -/
theorem map_getD_range (l : List α) (a : α) : (List.range l.length).map (l.getD · a) = l := by
  refine List.ext_getElem (by simp) fun i h₁ h₂ => ?_
  simp only [List.getElem_map, List.getElem_range, List.getD_eq_getElem _ _ h₂]

/-- Loading from the filled part gives the elements that were put there. -/
theorem load_of_prefix {buf bs : List α} (h : bs <+: buf) {i n : ℕ} (hin : i + n ≤ bs.length) :
    load buf i n = some ((bs.drop i).take n) := by
  obtain ⟨rest, rfl⟩ := h
  have hlen : i + n ≤ (bs ++ rest).length := by
    simp only [List.length_append]
    omega
  rw [load, if_pos hlen, List.drop_append_of_le_length (by omega),
    List.take_append_of_le_length (by simp only [List.length_drop]; omega)]

/-- A load gives as many elements as asked for. -/
theorem length_of_load {buf bs : List α} {i n : ℕ} (h : load buf i n = some bs) :
    bs.length = n := by
  unfold load at h
  split at h
  · cases h
    rw [List.length_take, List.length_drop]
    omega
  · cases h

/-- A block that is loaded stands in the buffer behind some elements. -/
theorem exists_prefix_of_load {buf bs : List α} {i n : ℕ} (h : load buf i n = some bs) :
    ∃ pre, pre.length = i ∧ pre ++ bs <+: buf := by
  unfold load at h
  split at h
  · next hin =>
    cases h
    refine ⟨buf.take i, List.length_take_of_le (by omega), ?_⟩
    rw [← List.take_add]
    exact List.take_prefix _ _
  · cases h

/-! ### Stores of one element -/

/-- A store of one element inside the buffer sets it. -/
theorem store_singleton {buf : List α} {i : ℕ} (v : α) (h : i < buf.length) :
    store buf i [v] = some (buf.set i v) := by
  rw [store, if_pos (by rw [List.length_singleton]; omega), List.set_eq_take_append_cons_drop,
    if_pos h, List.append_assoc]
  rfl

/-- The buffer with the `n` elements from index `i` on replaced by `f 0`, `f 1`, and so on. -/
def overwrite (buf : List α) (i n : ℕ) (f : ℕ → α) : List α :=
  buf.mapIdx fun p v => if i ≤ p ∧ p < i + n then f (p - i) else v

@[simp] theorem length_overwrite (buf : List α) (i n : ℕ) (f : ℕ → α) :
    (overwrite buf i n f).length = buf.length :=
  List.length_mapIdx

/-- An element is the new one inside the block, and the old one outside. -/
theorem getElem?_overwrite (buf : List α) (i n : ℕ) (f : ℕ → α) (p : ℕ) :
    (overwrite buf i n f)[p]? =
      buf[p]?.map fun v => if i ≤ p ∧ p < i + n then f (p - i) else v :=
  List.getElem?_mapIdx

/-- An element of the block. -/
theorem getElem?_overwrite_of_lt {buf : List α} {i n j : ℕ} (f : ℕ → α) (hj : j < n)
    (h : i + n ≤ buf.length) : (overwrite buf i n f)[i + j]? = some (f j) := by
  rw [getElem?_overwrite, List.getElem?_eq_getElem (by omega), Option.map_some, if_pos (by omega),
    Nat.add_sub_cancel_left]

/-- An element outside the block. -/
theorem getElem?_overwrite_of_not {buf : List α} {i n p : ℕ} (f : ℕ → α)
    (hp : p < i ∨ i + n ≤ p) : (overwrite buf i n f)[p]? = buf[p]? := by
  have hout : ¬(i ≤ p ∧ p < i + n) := by omega
  simp only [getElem?_overwrite, if_neg hout, Option.map_id']

/-- Nothing is replaced. -/
theorem overwrite_zero (buf : List α) (i : ℕ) (f : ℕ → α) : overwrite buf i 0 f = buf := by
  refine List.ext_getElem? fun p => getElem?_overwrite_of_not f ?_
  omega

/-- Only the elements of the block matter. -/
theorem overwrite_congr {buf : List α} {i n : ℕ} {f g : ℕ → α} (h : ∀ j < n, f j = g j) :
    overwrite buf i n f = overwrite buf i n g := by
  refine List.ext_getElem? fun p => ?_
  rw [getElem?_overwrite, getElem?_overwrite]
  congr 1
  funext v
  split
  · exact h _ (by omega)
  · rfl

/-- A block is replaced element by element, from the front. -/
theorem store_overwrite {buf : List α} {i n : ℕ} (f : ℕ → α) (h : i + n < buf.length) :
    store (overwrite buf i n f) (i + n) [f n] = some (overwrite buf i (n + 1) f) := by
  rw [store_singleton _ (by simpa using h)]
  congr 1
  refine List.ext_getElem? fun p => ?_
  rw [List.getElem?_set, length_overwrite, if_pos h]
  split
  · next hp => exact hp ▸ (getElem?_overwrite_of_lt f (Nat.lt_succ_self n) h).symm
  · next hp =>
    rw [getElem?_overwrite, getElem?_overwrite]
    congr 1
    funext v
    exact if_congr (by omega) rfl rfl

end Buffer
