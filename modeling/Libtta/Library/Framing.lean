import Mathlib

/-!
# Frames whose header tells their length

A `Framing` describes a stream of frames that are not separated by anything: a header of fixed
length says how many elements follow it, and frames beyond a limit are not accepted.
`Framing.next` looks at the front of a stream, `Framing.rest` is what it leaves, and
`Framing.frames` collects the frames of repeated looks.

The frames of a concatenation are the frames that were concatenated (`frames_flatten_append`), in
order and each once, also when the stream ends inside one more frame.
-/

/-- The description of a stream of frames. -/
structure Framing (α : Type*) where
  /-- The length of the header. -/
  hdlen : ℕ
  /-- How much follows a header. -/
  bodyLen : List α → ℕ
  /-- The length of the longest frame that is accepted. -/
  limit : ℕ
  hdlen_pos : 0 < hdlen
  hdlen_le : hdlen ≤ limit

namespace Framing

variable {α : Type*} (F : Framing α)

/-- What stands at the front of a stream: the stream ends too early, the header announces more than
is accepted, or there is a frame. -/
inductive Parsed (α : Type*) where
  | short
  | long
  | frame (f : List α)

/-- The frame, if there is one. -/
def Parsed.frame? : Parsed α → Option (List α)
  | short => none
  | long => none
  | frame f => some f

/-- The length the front of the stream announces. -/
def total (s : List α) : ℕ := F.hdlen + F.bodyLen (s.take F.hdlen)

/-- The look at the front of a stream. -/
def next (s : List α) : Parsed α :=
  if s.length < F.hdlen then .short
  else if F.limit < F.total s then .long
  else if s.length < F.total s then .short
  else .frame (s.take (F.total s))

/-- What a look at the front leaves of the stream: nothing when it ends too early, everything but
the header when too much is announced, and what follows the frame otherwise. -/
def rest (s : List α) : List α :=
  match F.next s with
  | .short => []
  | .long => s.drop F.hdlen
  | .frame f => s.drop f.length

/-- The frames that `k` looks find. -/
def frames : ℕ → List α → List (List α)
  | 0, _ => []
  | k + 1, s => (F.next s).frame?.toList ++ frames k (F.rest s)

/-- A list that is exactly one accepted frame. -/
structure IsFrame (f : List α) : Prop where
  hdlen_le : F.hdlen ≤ f.length
  length_eq : f.length = F.total f
  length_le : f.length ≤ F.limit

/-- A list that is exactly one frame, accepted or not. -/
structure IsWhole (f : List α) : Prop where
  hdlen_le : F.hdlen ≤ f.length
  length_eq : f.length = F.total f

/-- A header lies before the end of the frame it announces. -/
theorem hdlen_le_total (s : List α) : F.hdlen ≤ F.total s := Nat.le_add_right _ _

variable {F}

/-- The announced length depends on the header only. -/
theorem total_append {s t : List α} (h : F.hdlen ≤ s.length) : F.total (s ++ t) = F.total s := by
  rw [total, total, List.take_append_of_le_length h]

/-- A frame is not empty. -/
theorem IsFrame.length_pos {f : List α} (hf : F.IsFrame f) : 0 < f.length :=
  lt_of_lt_of_le F.hdlen_pos hf.hdlen_le

/-- A frame that is not too long is accepted. -/
theorem IsWhole.isFrame {f : List α} (hf : F.IsWhole f) (hle : f.length ≤ F.limit) : F.IsFrame f :=
  ⟨hf.hdlen_le, hf.length_eq, hle⟩

/-! ### One look -/

/-- A stream that ends inside the header is too short. -/
theorem next_of_length_lt_hdlen {s : List α} (h : s.length < F.hdlen) : F.next s = .short :=
  if_pos h

/-- A complete header that announces more than is accepted is refused. -/
theorem next_of_limit_lt {s : List α} (hhd : F.hdlen ≤ s.length) (h : F.limit < F.total s) :
    F.next s = .long := by
  rw [next, if_neg (not_lt.mpr hhd), if_pos h]

/-- A stream that ends before the announced length is too short. -/
theorem next_of_length_lt_total {s : List α} (htotal : F.total s ≤ F.limit)
    (h : s.length < F.total s) : F.next s = .short := by
  by_cases hhd : s.length < F.hdlen
  · exact next_of_length_lt_hdlen hhd
  · rw [next, if_neg hhd, if_neg (not_lt.mpr htotal), if_pos h]

/-- A stream with all of an acceptable announced length shows a frame. -/
theorem next_of_total_le {s : List α} (htotal : F.total s ≤ F.limit)
    (h : F.total s ≤ s.length) : F.next s = .frame (s.take (F.total s)) := by
  have hhd := (F.hdlen_le_total s).trans h
  rw [next, if_neg (not_lt.mpr hhd), if_neg (not_lt.mpr htotal), if_neg (not_lt.mpr h)]

/-- A stream that starts with a frame shows that frame. -/
theorem next_append {f : List α} (hf : F.IsFrame f) (s : List α) :
    F.next (f ++ s) = .frame f := by
  have htotal : F.total (f ++ s) = f.length := by rw [total_append hf.hdlen_le, ← hf.length_eq]
  have hlen : f.length ≤ (f ++ s).length := by simp
  rw [next, htotal, if_neg (by have := hf.hdlen_le; omega), if_neg (by have := hf.length_le; omega),
    if_neg (by omega), List.take_left]

/-- A frame by itself shows that frame. -/
theorem next_self {f : List α} (hf : F.IsFrame f) : F.next f = .frame f := by
  have h := next_append hf []
  rwa [List.append_nil] at h

/-- Too much is announced by a complete header alone. -/
theorem next_take_hdlen {s : List α} (h : F.next s = .long) : F.next (s.take F.hdlen) = .long := by
  unfold next at h
  split at h
  · cases h
  split at h
  · rename_i hhd hlimit
    have hlen : (s.take F.hdlen).length = F.hdlen := List.length_take_of_le (not_lt.mp hhd)
    refine next_of_limit_lt hlen.ge ?_
    rw [total, List.take_take, Nat.min_self]
    exact hlimit
  split at h
  · cases h
  · cases h

/-- A stream that starts with a frame that is too long announces too much. -/
theorem next_append_of_limit_lt {f : List α} (hf : F.IsWhole f) (hlong : F.limit < f.length)
    (s : List α) : F.next (f ++ s) = .long := by
  apply next_of_limit_lt
  · rw [List.length_append]
    exact hf.hdlen_le.trans (Nat.le_add_right _ _)
  · rw [total_append hf.hdlen_le, ← hf.length_eq]
    exact hlong

/-- A look shows a frame exactly when the stream starts with it. -/
theorem next_eq_frame_iff {s f : List α} : F.next s = .frame f ↔ F.IsFrame f ∧ f <+: s := by
  constructor
  · intro h
    unfold next at h
    split at h
    · cases h
    split at h
    · cases h
    split at h
    · cases h
    rename_i hhd hlimit hlen
    cases h
    have hlength : (s.take (F.total s)).length = F.total s := by
      rw [List.length_take]
      omega
    have htotal : F.total (s.take (F.total s)) = F.total s := by
      conv_rhs => rw [← List.take_append_drop (F.total s) s]
      exact (total_append (by rw [hlength]; exact F.hdlen_le_total s)).symm
    exact ⟨⟨by rw [hlength]; exact F.hdlen_le_total s, by rw [hlength, htotal], by omega⟩,
      List.take_prefix _ _⟩
  · rintro ⟨hf, t, rfl⟩
    exact next_append hf t

/-- A stream that ends inside a frame is too short. -/
theorem next_of_prefix {f p : List α} (hf : F.IsFrame f) (hp : p <+: f)
    (hlt : p.length < f.length) :
    F.next p = .short := by
  unfold next
  by_cases hhd : p.length < F.hdlen
  · rw [if_pos hhd]
  · have htotal : F.total p = f.length := by
      obtain ⟨t, rfl⟩ := hp
      rw [hf.length_eq, total_append (not_lt.mp hhd)]
    rw [if_neg hhd, htotal, if_neg (by have := hf.length_le; omega), if_pos hlt]

/-- An empty stream is too short. -/
theorem next_nil : F.next [] = .short := if_pos F.hdlen_pos

/-- After a frame comes what follows it. -/
theorem rest_append {f : List α} (hf : F.IsFrame f) (s : List α) : F.rest (f ++ s) = s := by
  rw [rest, next_append hf]
  exact List.drop_left

/-- Of a frame that is too long the header is used up, and what it announces is left. -/
theorem rest_append_of_limit_lt {f : List α} (hf : F.IsWhole f) (hlong : F.limit < f.length)
    (s : List α) : F.rest (f ++ s) = f.drop F.hdlen ++ s := by
  rw [rest, next_append_of_limit_lt hf hlong]
  exact List.drop_append_of_le_length hf.hdlen_le

/-- A stream that is too short is used up. -/
theorem rest_of_short {s : List α} (h : F.next s = .short) : F.rest s = [] := by
  rw [rest, h]

/-! ### Repeated looks -/

/-- A used-up stream shows no more frames. -/
theorem frames_nil (k : ℕ) : F.frames k [] = [] := by
  induction k with
  | zero => rfl
  | succ k ih =>
    rw [frames, next_nil, rest_of_short next_nil, ih]
    rfl

/-- A stream that is too short shows no frame at all. -/
theorem frames_of_short {s : List α} (h : F.next s = .short) (k : ℕ) : F.frames k s = [] := by
  cases k with
  | zero => rfl
  | succ k =>
    rw [frames, h, rest_of_short h, frames_nil]
    rfl

/-- A frame at the front is the first to be found. -/
theorem frames_append {f : List α} (hf : F.IsFrame f) (s : List α) (k : ℕ) :
    F.frames (k + 1) (f ++ s) = f :: F.frames k s := by
  rw [frames, next_append hf, rest_append hf]
  rfl

/-- Looking at a concatenation of frames, with a stream that is too short behind it, finds those
frames in order. -/
theorem frames_flatten_append {fs : List (List α)} (hfs : ∀ f ∈ fs, F.IsFrame f) {p : List α}
    (hp : F.next p = .short) (k : ℕ) : F.frames k (fs.flatten ++ p) = fs.take k := by
  induction fs generalizing k with
  | nil => simpa using frames_of_short hp k
  | cons f fs ih =>
    have hf := hfs f List.mem_cons_self
    have ih' := ih fun g hg => hfs g (List.mem_cons_of_mem f hg)
    cases k with
    | zero => rfl
    | succ k =>
      rw [List.flatten_cons, List.append_assoc, frames_append hf, ih', List.take_succ_cons]

/-! ### Looking until nothing is left -/

/-- A look uses up a part of the stream. -/
theorem length_rest_lt {s : List α} (hs : s ≠ []) : (F.rest s).length < s.length := by
  have hpos := List.length_pos_of_ne_nil hs
  have hhd := F.hdlen_pos
  rw [rest]
  cases hnext : F.next s with
  | short => exact hpos
  | long =>
    rw [List.length_drop]
    omega
  | frame f =>
    have hf := (next_eq_frame_iff.mp hnext).1.length_pos
    rw [List.length_drop]
    omega

variable (F)

/-- The streams that at most `k` looks see, each the rest of the one before, until nothing is
left. -/
def looksWithin : ℕ → List α → List (List α)
  | 0, _ => []
  | k + 1, s => if s.isEmpty then [] else s :: looksWithin k (F.rest s)

/-- The streams that repeated looks see until nothing is left. -/
def looks (s : List α) : List (List α) := F.looksWithin s.length s

variable {F}

/-- As many looks as there are elements are enough. -/
theorem looksWithin_of_length_le {s : List α} {k : ℕ} (h : s.length ≤ k) :
    F.looksWithin k s = F.looks s := by
  induction k using Nat.strong_induction_on generalizing s with
  | _ k ih =>
    cases s with
    | nil => cases k <;> rfl
    | cons a s =>
      obtain ⟨k, rfl⟩ := Nat.exists_eq_add_one_of_ne_zero (Nat.ne_of_gt (Nat.zero_lt_of_lt h))
      have hlt := F.length_rest_lt (List.cons_ne_nil a s)
      have hlen : s.length ≤ k := Nat.le_of_succ_le_succ h
      have hrest : (F.rest (a :: s)).length ≤ s.length := Nat.le_of_lt_succ hlt
      change (a :: s) :: F.looksWithin k (F.rest (a :: s)) =
        (a :: s) :: F.looksWithin s.length (F.rest (a :: s))
      rw [ih k k.lt_succ_self (hrest.trans hlen)]
      rcases hlen.lt_or_eq with hlt' | heq
      · rw [ih s.length (by omega) hrest]
      · rw [heq, ih k k.lt_succ_self (by omega)]

/-- The first look sees the stream, the others see what it leaves. -/
theorem looks_of_ne_nil {s : List α} (hs : s ≠ []) : F.looks s = s :: F.looks (F.rest s) := by
  cases s with
  | nil => exact absurd rfl hs
  | cons a s =>
    have hlt := F.length_rest_lt (List.cons_ne_nil a s)
    exact congrArg _ (looksWithin_of_length_le (Nat.le_of_lt_succ hlt))

end Framing
