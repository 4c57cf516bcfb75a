import Libtta.Receive.Stream

/-!
# Frames that are too long for the receiver

A TCP frame may announce up to 255 bytes of payload, and `tta_receive` refuses one of more than 260
bytes when it has read the header. Without error recovery nothing skips the payload of such a frame:
up to it the calls of `tta_receive` deliver the frames of the stream, in order and each once, and
behind its header they go on as on a stream that starts with its payload
(`received_up_to_oversized`). A payload that looks like a frame is then delivered as a message
(`oversized_payload_delivered`).
-/

namespace Libtta

variable {σ ρ : Type}

/-! ## The front of a stream of frames -/

/-- A packet is received, and the message in it is delivered. -/
def BackendType.Delivers (b : BackendType) (r : Option (ℕ × Ttamsg)) (f : Bytes) : Prop :=
  ∃ m, r = some (f.length, m) ∧ b.decode f = some m

/-- Intact packets at the front of a stream are delivered one after the other. -/
theorem results_flatten_append {b : BackendType} {good : List Bytes}
    (hgood : ∀ f ∈ good, b.framing.IsFrame f ∧ b.intact f = true) (s : Bytes) (k : ℕ) :
    ∃ rs, b.results k (good.flatten ++ s) = rs ++ b.results (k - good.length) s ∧
      List.Forall₂ b.Delivers rs (good.take k) := by
  induction good generalizing k with
  | nil => exact ⟨[], rfl, by simp⟩
  | cons f good ih =>
    obtain ⟨hf, hintact⟩ := hgood f List.mem_cons_self
    cases k with
    | zero => exact ⟨[], by simp [BackendType.results], by simp⟩
    | succ k =>
      obtain ⟨rs, hrs, hall⟩ := ih (fun g hg => hgood g (List.mem_cons_of_mem f hg)) k
      obtain ⟨pre, m, sums, hlayout, hpre, hsums⟩ := exists_layout hf
      have hdecode : b.decode f = some { m with tid := b.tidOf pre } := by
        rw [hlayout, decode_layout m hpre hsums]
      refine ⟨some (f.length, { m with tid := b.tidOf pre }) :: rs, ?_, ?_⟩
      · rw [List.flatten_cons, List.append_assoc, BackendType.results,
          result_append hf hintact, Framing.rest_append hf, hrs, hdecode, List.length_cons,
          Nat.add_sub_add_right]
        rfl
      · rw [List.take_succ_cons]
        exact .cons ⟨_, rfl, hdecode⟩ hall

/-- A used-up stream delivers nothing. -/
theorem results_nil (b : BackendType) (k : ℕ) : b.results k [] = List.replicate k none := by
  induction k with
  | zero => rfl
  | succ k ih =>
    have hnone : b.result [] = none := by
      rw [BackendType.result, BackendType.parse, Framing.next_nil]
    rw [BackendType.results, hnone, Framing.rest_of_short Framing.next_nil, ih]
    rfl

/-- The messages that are delivered are those of the packets. -/
theorem messages_of_delivers {b : BackendType} {rs : List (Option (ℕ × Ttamsg))} {fs : List Bytes}
    (h : List.Forall₂ b.Delivers rs fs) :
    rs.reduceOption.map Prod.snd = fs.filterMap b.decode := by
  induction h with
  | nil => rfl
  | cons hr _ ih =>
    obtain ⟨m, rfl, hm⟩ := hr
    rw [List.reduceOption_cons_of_some, List.map_cons, ih, List.filterMap_cons_some hm]

/-! ## A stream with frames that are too long -/

/-- The frames of a TCP stream in front of the first one that is too long. -/
def frontFrames (fs : List Bytes) : List Bytes :=
  fs.takeWhile fun f => f.length ≤ BackendType.tcp.maxAduLength

/-- The frames in front of the first one that is too long are accepted. -/
theorem isFrame_of_mem_frontFrames {fs : List Bytes}
    (hfs : ∀ f ∈ fs, BackendType.tcp.framing.IsWhole f) {f : Bytes} (hf : f ∈ frontFrames fs) :
    BackendType.tcp.framing.IsFrame f := by
  have hmem : f ∈ fs := (List.takeWhile_prefix _).subset hf
  have hle := List.mem_takeWhile_imp hf
  exact (hfs f hmem).isFrame (by simpa using hle)

/-- Behind them comes nothing, or a frame that is too long. -/
theorem exists_of_frontFrames (fs : List Bytes) :
    ∃ rest, fs = frontFrames fs ++ rest ∧
      ∀ bad tail, rest = bad :: tail → BackendType.tcp.maxAduLength < bad.length := by
  refine ⟨fs.dropWhile _, List.takeWhile_append_dropWhile.symm, ?_⟩
  intro bad tail hrest
  have hne : fs.dropWhile (fun f => decide (f.length ≤ BackendType.tcp.maxAduLength)) ≠ [] := by
    rw [hrest]
    simp
  have hhead := List.head_dropWhile_not _ hne
  simp only [hrest, List.head_cons, decide_eq_false_iff_not, not_le] at hhead
  exact hhead

/-- A TCP context without error recovery receives from a stream of frames, in fragments of any size.
The calls deliver the frames in front of the first one that is too long, in order and each once;
that one is refused with -1; and the calls behind it return what they return on the stream of its
payload and the frames that follow, because its payload is left to be read. When no frame is too
long, the messages that are delivered are those of the frames. -/
theorem received_up_to_oversized {os : Os σ} {input : σ → Bytes} {other : σ → ρ}
    (hos : Feeds os input other never) (fuel : ℕ) (fgtm : Bool) (k : ℕ) (w : World σ)
    (htcp : w.ctx.type = .tcp) (hnone : w.ctx.errorRecovery = 0) {fs : List Bytes}
    (hfs : ∀ f ∈ fs, BackendType.tcp.framing.IsWhole f) (hin : input w.dev = fs.flatten) :
    ∃ rs w', (ttaReceives os fuel fgtm k).run w = .ok (rs, w') ∧
      List.Forall₂ BackendType.tcp.Delivers (rs.take (frontFrames fs).length)
        ((frontFrames fs).take k) ∧
      (∀ bad tail, fs = frontFrames fs ++ bad :: tail → (frontFrames fs).length < k →
        rs[(frontFrames fs).length]? = some none ∧
          rs.drop ((frontFrames fs).length + 1) =
            BackendType.tcp.results (k - (frontFrames fs).length - 1)
              (bad.drop BackendType.tcp.headerLength ++ tail.flatten)) ∧
      ((∀ f ∈ fs, f.length ≤ BackendType.tcp.maxAduLength) →
        rs.reduceOption.map Prod.snd = (fs.take k).filterMap BackendType.tcp.decode) := by
  have hflag : w.ctx.backend.confirmationToIgnore = false := by
    obtain ⟨d, hbe⟩ := Tta.exists_tcp htcp
    rw [hbe]
    rfl
  obtain ⟨w', hrun⟩ := run_ttaReceives_results hos fuel fgtm k w (by rw [htcp]; simp) hnone hflag
  set good := frontFrames fs with hgood
  obtain ⟨rest, hsplit, hlong⟩ := exists_of_frontFrames fs
  rw [← hgood] at hsplit
  obtain ⟨rs, hrs, hall⟩ := results_flatten_append (b := .tcp)
    (fun f hf => ⟨isFrame_of_mem_frontFrames hfs hf, rfl⟩) rest.flatten k
  rw [← hgood] at hrs hall
  have hresults : w.ctx.type.results k (input w.dev) =
      rs ++ BackendType.tcp.results (k - good.length) rest.flatten := by
    rw [htcp, hin, hsplit, List.flatten_append, hrs]
  rw [hresults] at hrun
  have hlen : rs.length = min k good.length := by rw [hall.length_eq, List.length_take]
  refine ⟨_, w', hrun, ?_, ?_, ?_⟩
  · by_cases hk : good.length ≤ k
    · rw [List.take_left' (by omega)]
      exact hall
    · have hzero : k - good.length = 0 := by omega
      rw [hzero, BackendType.results, List.append_nil, List.take_of_length_le (by omega)]
      exact hall
  · intro bad tail hbad hk
    have hrest : rest = bad :: tail := List.append_cancel_left (hsplit.symm.trans hbad)
    have hmem : bad ∈ fs := by
      rw [hbad]
      simp
    obtain ⟨j, hj⟩ : ∃ j, k - good.length = j + 1 := ⟨k - good.length - 1, by omega⟩
    have hrs_len : rs.length = good.length := by omega
    have htail : BackendType.tcp.results (k - good.length) rest.flatten =
        none :: BackendType.tcp.results j
          (bad.drop BackendType.tcp.headerLength ++ tail.flatten) := by
      rw [hj, hrest, List.flatten_cons, BackendType.results,
        result_append_of_limit_lt (hfs bad hmem) (hlong bad tail hrest),
        Framing.rest_append_of_limit_lt (hfs bad hmem) (hlong bad tail hrest),
        BackendType.hdlen_framing]
    rw [htail]
    constructor
    · rw [List.getElem?_append_right (by omega), hrs_len, Nat.sub_self]
      rfl
    · rw [List.drop_append, List.drop_of_length_le (by omega), hrs_len, Nat.add_sub_cancel_left,
        hj, Nat.add_sub_cancel]
      rfl
  · intro hshort
    have hgoodfs : good = fs := by
      rw [hgood, frontFrames, List.takeWhile_eq_self_iff]
      exact fun f hf => decide_eq_true (hshort f hf)
    have hrest : rest = [] := by
      rw [hgoodfs] at hsplit
      exact List.self_eq_append_right.mp hsplit
    rw [hrest, List.flatten_nil, results_nil, ← hgoodfs, ← messages_of_delivers hall]
    have hnothing : (List.replicate (k - good.length)
        (none : Option (ℕ × Ttamsg))).reduceOption = [] := by
      rw [List.reduceOption_replicate_none]
    rw [List.reduceOption_append, hnothing, List.append_nil]

/-- A frame that is too long, with a payload that starts like a frame. -/
def oversizedFrame : Bytes :=
  [0, 2, 0, 0, 1, 0, 16, 253] ++ [0, 3, 0, 0, 1, 2, 3, 0] ++ List.replicate 245 0

/-- The frame is complete. -/
theorem isWhole_oversizedFrame : BackendType.tcp.framing.IsWhole oversizedFrame :=
  ⟨by decide +kernel, by decide +kernel⟩

/-- A short frame is delivered, and the frame behind it is refused. -/
theorem received_up_to_oversized_second :
    ∃ rs w', (ttaReceives lineOs 0 false 2).run
        (tcpLine ([0, 1, 0, 0, 1, 0, 16, 1, 0xAA] ++ oversizedFrame)) = .ok (rs, w') ∧
      List.Forall₂ BackendType.tcp.Delivers (rs.take 1) [[0, 1, 0, 0, 1, 0, 16, 1, 0xAA]] ∧
      rs[1]? = some none := by
  have hfront : frontFrames [[0, 1, 0, 0, 1, 0, 16, 1, 0xAA], oversizedFrame] =
      [[0, 1, 0, 0, 1, 0, 16, 1, 0xAA]] := by decide +kernel
  have hshort : BackendType.tcp.framing.IsWhole [0, 1, 0, 0, 1, 0, 16, 1, 0xAA] :=
    ⟨by decide, by decide⟩
  have hwhole : ∀ f ∈ ([[0, 1, 0, 0, 1, 0, 16, 1, 0xAA], oversizedFrame] : List Bytes),
      BackendType.tcp.framing.IsWhole f := by
    intro f hf
    rcases List.mem_pair.mp hf with rfl | rfl
    · exact hshort
    · exact isWhole_oversizedFrame
  obtain ⟨rs, w', hrun, hgood, hbad, -⟩ := received_up_to_oversized feeds_lineOs 0 false 2
    (tcpLine ([0, 1, 0, 0, 1, 0, 16, 1, 0xAA] ++ oversizedFrame)) rfl rfl hwhole
    (by simp [tcpLine])
  rw [hfront] at hgood hbad
  exact ⟨rs, w', hrun, hgood, (hbad oversizedFrame [] rfl (by decide)).1⟩

/-- Part of the payload of a frame that is refused is delivered as a message, which is in no frame
of the stream. -/
theorem oversized_payload_delivered :
    BackendType.tcp.framing.IsWhole oversizedFrame ∧
      ((ttaReceives lineOs 0 false 2).run (tcpLine oversizedFrame)).map
        (fun r => r.1.reduceOption.map fun r => r.2.content) = .ok [(⟨1, 2, 3, 0⟩, [])] ∧
      ¬[((⟨1, 2, 3, 0⟩, []) : TtamsgHd × Bytes)].Sublist
        (([oversizedFrame].filterMap BackendType.tcp.decode).map Ttamsg.content) :=
  ⟨⟨by decide +kernel, by decide +kernel⟩, by decide +kernel, by decide +kernel⟩

end Libtta
