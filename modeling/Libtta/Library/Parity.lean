import Mathlib

/-!
# Column parities of a table of bits

A table is a list of rows, and a row gives the bit of each column. `columnParity` is the parity of
one column. A table whose columns up to a width are all even has an even number of ones
(`countOnes_mod_two`), and its ones do not all lie in one window that is no wider than a row when
the rows are written one behind the other (`exists_column_of_burst`): a window meets each column
once.
-/

namespace Parity

/-- A row of a table: the bit of each column. -/
abbrev Row := ℕ → Bool

/-- The parity of a column. -/
def columnParity : List Row → ℕ → Bool
  | [], _ => false
  | r :: rows, b => r b ^^ columnParity rows b

/-- The number of ones in the first `w` columns. -/
def countOnes (w : ℕ) : List Row → ℕ
  | [] => 0
  | r :: rows => (List.range w).countP r + countOnes w rows

/-- The cells in which two tables of the same size differ. -/
def diff (rows rows' : List Row) : List Row := List.zipWith (fun r r' b => r b ^^ r' b) rows rows'

variable {w : ℕ} {rows rows' : List Row}

/-- The parity of a column of two tables, one below the other. -/
theorem columnParity_append (rows rows' : List Row) (b : ℕ) :
    columnParity (rows ++ rows') b = (columnParity rows b ^^ columnParity rows' b) := by
  induction rows with
  | nil => simp [columnParity]
  | cons r rows ih => rw [List.cons_append, columnParity, columnParity, ih, Bool.xor_assoc]

/-- The parities of two tables differ by the parity of their difference. -/
theorem columnParity_diff (h : rows.length = rows'.length) (b : ℕ) :
    columnParity (diff rows rows') b = (columnParity rows b ^^ columnParity rows' b) := by
  induction rows generalizing rows' with
  | nil =>
    obtain rfl := List.length_eq_zero_iff.mp h.symm
    rfl
  | cons r rows ih =>
    cases rows' with
    | nil => cases h
    | cons r' rows' =>
      change (r b ^^ r' b ^^ columnParity (diff rows rows') b) = _
      rw [ih (Nat.succ.inj h), columnParity, columnParity]
      cases r b <;> cases r' b <;> simp

/-- An exclusive or is true as often, modulo 2, as its parts together. -/
theorem countP_xor {α : Type*} (l : List α) (p q : α → Bool) :
    l.countP (fun a => p a ^^ q a) % 2 = (l.countP p + l.countP q) % 2 := by
  induction l with
  | nil => rfl
  | cons a l ih =>
    rw [List.countP_cons, List.countP_cons, List.countP_cons]
    cases hp : p a with
    | false =>
      cases hq : q a with
      | false => simpa using ih
      | true =>
        simp only [Bool.false_xor, if_true, Bool.false_eq_true, if_false]
        omega
    | true =>
      cases hq : q a with
      | false =>
        simp only [Bool.xor_false, if_true, Bool.false_eq_true, if_false]
        omega
      | true =>
        simp only [Bool.xor_self, if_true, Bool.false_eq_true, if_false]
        omega

/-- The number of ones has the parity of the number of odd columns. -/
theorem countOnes_mod_two (w : ℕ) (rows : List Row) :
    countOnes w rows % 2 = (List.range w).countP (columnParity rows) % 2 := by
  induction rows with
  | nil =>
    have hnone : (List.range w).countP (columnParity []) = 0 :=
      List.countP_eq_zero.mpr fun _ _ => Bool.false_ne_true
    rw [hnone]
    rfl
  | cons r rows ih =>
    have hxor := countP_xor (List.range w) r (columnParity rows)
    change ((List.range w).countP r + countOnes w rows) % 2 =
      (List.range w).countP (fun b => r b ^^ columnParity rows b) % 2
    omega

/-- A table with an odd number of ones has an odd column. -/
theorem exists_column_of_odd (h : countOnes w rows % 2 = 1) :
    ∃ b < w, columnParity rows b = true := by
  by_contra hnot
  have hzero : (List.range w).countP (columnParity rows) = 0 :=
    List.countP_eq_zero.mpr fun b hb hb' => hnot ⟨b, List.mem_range.mp hb, hb'⟩
  have hmod := countOnes_mod_two w rows
  omega

/-- A column without a one is even. -/
theorem columnParity_of_forall {b : ℕ} (h : ∀ r ∈ rows, r b = false) :
    columnParity rows b = false := by
  induction rows with
  | nil => rfl
  | cons r rows ih =>
    rw [columnParity, h r List.mem_cons_self, ih fun r' hr' => h r' (List.mem_cons_of_mem _ hr')]
    rfl

/-- A column with exactly one one is odd. -/
theorem columnParity_of_unique {b i : ℕ} {r : Row} (hi : rows[i]? = some r) (hr : r b = true)
    (hother : ∀ j r', rows[j]? = some r' → r' b = true → j = i) : columnParity rows b = true := by
  induction rows generalizing i with
  | nil => cases hi
  | cons r₀ rows ih =>
    cases i with
    | zero =>
      obtain rfl : r₀ = r := Option.some.inj hi
      have hrest : columnParity rows b = false := by
        refine columnParity_of_forall fun r' hr' => ?_
        obtain ⟨j, hj⟩ := List.mem_iff_getElem?.mp hr'
        cases hb : r' b with
        | false => rfl
        | true => cases hother (j + 1) r' hj hb
      rw [columnParity, hr, hrest]
      rfl
    | succ i =>
      have hfirst : r₀ b = false := by
        cases hb : r₀ b with
        | false => rfl
        | true => cases hother 0 r₀ rfl hb
      rw [columnParity, hfirst, Bool.false_xor]
      exact ih hi fun j r' hj hb => Nat.succ.inj (hother (j + 1) r' hj hb)

/-- The bit at a position when the rows are written one behind the other. -/
def cell (w : ℕ) (rows : List Row) (p : ℕ) : Bool := (rows.getD (p / w) fun _ => false) (p % w)

/-- A row stands behind the rows before it. -/
theorem cell_of_getElem? {i b : ℕ} {r : Row} (hb : b < w) (hi : rows[i]? = some r) :
    cell w rows (w * i + b) = r b := by
  rw [cell, Nat.mul_add_div (Nat.zero_lt_of_lt hb), Nat.div_eq_of_lt hb, Nat.add_zero,
    Nat.mul_add_mod, Nat.mod_eq_of_lt hb, List.getD_eq_getElem?_getD, hi, Option.getD_some]

/-- The positions behind the first row are those of the other rows. -/
theorem cell_cons {r : Row} {p : ℕ} (hw : 0 < w) : cell w (r :: rows) (w + p) = cell w rows p := by
  rw [cell, cell, Nat.add_div_left _ hw, Nat.add_mod_left, List.getD_cons_succ]

/-- The cells of a difference. -/
theorem cell_diff (h : rows.length = rows'.length) (p : ℕ) :
    cell w (diff rows rows') p = (cell w rows p ^^ cell w rows' p) := by
  simp only [cell, diff, List.getD_eq_getElem?_getD, List.getElem?_zipWith]
  rcases Nat.lt_or_ge (p / w) rows.length with hp | hp
  · rw [List.getElem?_eq_getElem hp, List.getElem?_eq_getElem (h ▸ hp)]
    rfl
  · rw [List.getElem?_eq_none hp, List.getElem?_eq_none (h ▸ hp)]
    rfl

/-- The ones may be counted position by position. -/
theorem countOnes_eq (hw : 0 < w) (rows : List Row) :
    countOnes w rows = (List.range (w * rows.length)).countP (cell w rows) := by
  induction rows with
  | nil => rfl
  | cons r rows ih =>
    have hfirst : (List.range w).countP (cell w (r :: rows)) = (List.range w).countP r := by
      refine List.countP_congr fun b hb => ?_
      have hcell : cell w (r :: rows) (w * 0 + b) = r b :=
        cell_of_getElem? (List.mem_range.mp hb) (rfl : (r :: rows)[0]? = some r)
      rw [Nat.mul_zero, Nat.zero_add] at hcell
      rw [hcell]
    have hrest : (cell w (r :: rows) ∘ fun p => w + p) = cell w rows :=
      funext fun p => cell_cons hw
    rw [List.length_cons, Nat.mul_succ, Nat.add_comm (w * rows.length), List.range_add,
      List.countP_append, List.countP_map, hrest, hfirst, ← ih]
    rfl

/-- A table that has a one, and all of them in a window no wider than a row, has an odd column. -/
theorem exists_column_of_burst {k p : ℕ} (hp : p < w * rows.length) (hone : cell w rows p = true)
    (hwindow : ∀ q < w * rows.length, cell w rows q = true → k ≤ q ∧ q < k + w) :
    ∃ b < w, columnParity rows b = true := by
  have hw : 0 < w := Nat.pos_of_ne_zero fun h => by
    rw [h, Nat.zero_mul] at hp
    exact absurd hp (Nat.not_lt_zero p)
  have hrow : p / w < rows.length := Nat.div_lt_of_lt_mul hp
  have hget : rows[p / w]? = some rows[p / w] := List.getElem?_eq_getElem hrow
  have hbit : rows[p / w] (p % w) = true := by
    rw [← cell_of_getElem? (Nat.mod_lt p hw) hget, Nat.div_add_mod]
    exact hone
  refine ⟨p % w, Nat.mod_lt p hw, columnParity_of_unique hget hbit fun j r hj hr => ?_⟩
  have hin : w * j + p % w < w * rows.length := by
    have hmul := Nat.mul_le_mul_left w (Nat.succ_le_of_lt (List.getElem?_eq_some_iff.mp hj).1)
    rw [Nat.mul_succ] at hmul
    have := Nat.mod_lt p hw
    omega
  have h₁ := hwindow p hp hone
  have h₂ := hwindow _ hin ((cell_of_getElem? (Nat.mod_lt p hw) hj).trans hr)
  have hsplit := Nat.div_add_mod p w
  -- two cells of a column are a multiple of the width apart
  by_contra hne
  rcases Nat.lt_or_gt_of_ne hne with hlt | hlt
  · have hmul := Nat.mul_le_mul_left w (Nat.succ_le_of_lt hlt)
    rw [Nat.mul_succ] at hmul
    omega
  · have hmul := Nat.mul_le_mul_left w (Nat.succ_le_of_lt hlt)
    rw [Nat.mul_succ] at hmul
    omega

end Parity
