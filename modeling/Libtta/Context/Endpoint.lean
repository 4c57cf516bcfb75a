import Libtta.Model.Api

/-!
# The address of a TCP context

`tta_tcp_set_ip` judges an address from what `strlcpy` returns, when it has been copied into the
context already. So an address that is refused replaces the old one by as much of it as fits
(`run_ttaTcpSetIpChecked`), and the call is all or nothing only where this is the old address
(`setIpAtomic_iff`).
-/

namespace Libtta

variable {σ : Type}

/-! ## Copying a string -/

/-- The loop writes no more than there is room for. -/
theorem length_strlcpyLoop_le (n : ℕ) (src : List Char) : (strlcpyLoop n src).length ≤ n + 1 := by
  induction n generalizing src with
  | zero => exact le_refl 1
  | succ n ih =>
    cases src with
    | nil => exact Nat.succ_le_succ (Nat.zero_le _)
    | cons c src => exact Nat.succ_le_succ (ih src)

/-- The loop copies as many characters as there is room for. -/
theorem takeWhile_strlcpyLoop (n : ℕ) {src : List Char} (h : nul ∉ src) :
    (strlcpyLoop n src).takeWhile (· ≠ nul) = src.take n := by
  induction n generalizing src with
  | zero => rfl
  | succ n ih =>
    cases src with
    | nil => rfl
    | cons c src =>
      rw [List.mem_cons, not_or] at h
      rw [strlcpyLoop, List.takeWhile_cons, if_pos (by simpa using Ne.symm h.1), ih h.2,
        List.take_succ_cons]

/-- The array holds the copied characters, and stays within its size. -/
theorem strlcpy_eq (src : CString) (n : ℕ) :
    stringOf (strlcpy src (n + 1)).1 = String.ofList (src.chars.take n) ∧
      (strlcpy src (n + 1)).1.length ≤ n + 1 ∧ (strlcpy src (n + 1)).2 = src.chars.length := by
  refine ⟨?_, length_strlcpyLoop_le n src.chars, rfl⟩
  change String.ofList ((strlcpyLoop n src.chars).takeWhile (· ≠ nul)) = _
  rw [takeWhile_strlcpyLoop n src.nul_notMem]

/-! ## Setting the address -/

/-- Is an address of a length that fits the context? -/
def CString.IsAddress (ip : CString) : Prop := 0 < ip.chars.length ∧ ip.chars.length < 16

instance (ip : CString) : Decidable ip.IsAddress := inferInstanceAs (Decidable (_ ∧ _))

/-- What `tta_tcp_set_ip` does. -/
theorem run_ttaTcpSetIpChecked (d : TtaTcp) (ip : CString) (port : Int) (w : World σ) :
    (ttaTcpSetIpChecked d ip port).run w =
      if ip.IsAddress then
        .ok (some (), { w with ctx := { w.ctx with
          backend := .tcp { d with ip := String.ofList (ip.chars.take 15), port := port } } })
      else
        .ok (none, { w with errno := .EINVAL, ctx := { w.ctx with
          backend := .tcp { d with ip := String.ofList (ip.chars.take 15) } } }) := by
  obtain ⟨hcopy, -, hret⟩ := strlcpy_eq ip 15
  unfold ttaTcpSetIpChecked
  dsimp only
  rw [Exec.run_bind_of_ok (run_modifyCtx _ w), hcopy, hret]
  by_cases hempty : ip.chars.length = 0
  · rw [if_pos hempty, if_neg fun h => h.1.ne' hempty]
    rfl
  by_cases hlong : ip.chars.length ≥ 16
  · rw [if_neg hempty, if_pos hlong, if_neg fun h => h.2.not_ge hlong]
    rfl
  rw [if_neg hempty, if_neg hlong, if_pos ⟨Nat.pos_of_ne_zero hempty, not_le.mp hlong⟩]
  rfl

/-! ## All or nothing -/

/-- The call is all or nothing: it sets the address and the port, or it refuses the address, for its
length, and leaves the context alone. -/
def SetIpAtomic (w : World σ) (d : TtaTcp) (ip : CString) (port : Int) : Prop :=
  (ip.IsAddress → ∃ w', (ttaTcpSetIpChecked d ip port).run w = .ok (some (), w') ∧
    w'.ctx = { w.ctx with backend := .tcp { d with ip := String.ofList ip.chars, port := port } }) ∧
  (¬ip.IsAddress → ∃ w', (ttaTcpSetIpChecked d ip port).run w = .ok (none, w') ∧
    w'.errno = .EINVAL ∧ w'.ctx = w.ctx)

/-- The call is all or nothing exactly when the address fits, or what fits of it is the address that
the context has. -/
theorem setIpAtomic_iff {w : World σ} {d : TtaTcp} (hbe : w.ctx.backend = .tcp d) (ip : CString)
    (port : Int) :
    SetIpAtomic w d ip port ↔ ip.IsAddress ∨ String.ofList (ip.chars.take 15) = d.ip := by
  have hset := run_ttaTcpSetIpChecked d ip port w
  by_cases haddr : ip.IsAddress
  · rw [if_pos haddr] at hset
    refine iff_of_true ⟨fun _ => ⟨_, hset, ?_⟩, fun h => absurd haddr h⟩ (.inl haddr)
    rw [List.take_of_length_le (Nat.le_of_lt_succ haddr.2)]
  · rw [if_neg haddr] at hset
    constructor
    · rintro ⟨-, hrefused⟩
      obtain ⟨w', hrun, -, hctx⟩ := hrefused haddr
      rw [hset] at hrun
      cases hrun
      have hbe' := (congrArg Tta.backend hctx).trans hbe
      exact .inr (congrArg TtaTcp.ip (Backend.tcp.inj hbe'))
    · rintro (h | hsame)
      · exact absurd h haddr
      · refine ⟨fun h => absurd h haddr, fun _ => ⟨_, hset, rfl, ?_⟩⟩
        rw [hsame, ← hbe]

/-- A TCP context with the loopback address. -/
def loopback : World Unit :=
  ⟨ttaNewTcp "127.0.0.1" 502, .other 0, List.Vector.replicate 128 0, 0, ()⟩

/-- An address of eight characters is set. -/
theorem setIpAtomic_short : SetIpAtomic loopback ⟨0, 502, "127.0.0.1"⟩
    ⟨['1', '0', '.', '0', '.', '0', '.', '1'], by decide⟩ 503 :=
  (setIpAtomic_iff rfl _ _).mpr (.inl (by decide))

/-- A refused address of 16 characters replaces the old address. -/
theorem not_setIpAtomic : ¬SetIpAtomic loopback ⟨0, 502, "127.0.0.1"⟩
    ⟨List.replicate 16 '1', by decide⟩ 503 := by
  rintro ⟨-, hrefused⟩
  obtain ⟨w', hrun, -, hctx⟩ := hrefused (by decide)
  rw [run_ttaTcpSetIpChecked, if_neg (by decide)] at hrun
  cases hrun
  have hip : String.ofList ((List.replicate 16 '1').take 15) = "127.0.0.1" :=
    congrArg TtaTcp.ip (Backend.tcp.inj (congrArg Tta.backend hctx))
  exact absurd hip (by decide)

end Libtta
