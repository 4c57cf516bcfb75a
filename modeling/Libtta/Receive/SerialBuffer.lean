import Libtta.Library.Fifo
import Libtta.Model.Win32

/-!
# The serial buffer on Windows as a queue

The bytes that `win32_ser_read` returns should be the bytes of the line, in their order. The buffer
has no read position: a read that takes only a part of it leaves the rest where it is, and the next
read takes the same bytes again. The buffer is a queue exactly when no read asks for bytes behind a
read that has taken only a part of it (`win32Ser_queue_iff`).
-/

namespace Libtta

variable {s s' : SerialState} {calls : List SerialCall}

namespace SerialState

/-- The bytes to be returned: those in the buffer, and then those on the line. -/
def contents (s : SerialState) : List UInt8 := s.ws.buf.1.take s.ws.nBytes ++ s.line

/-- There are as many bytes in the buffer as it says. -/
theorem length_buffered (s : SerialState) : (s.ws.buf.1.take s.ws.nBytes).length = s.ws.nBytes := by
  rw [List.length_take, s.ws.buf.2]
  exact Nat.min_eq_left s.ws.nBytes_le

end SerialState

/-- What is put into the buffer is buffered. -/
theorem Win32Ser.buffered_fill (ws : Win32Ser) (bs : List UInt8) (h : bs.length ≤ pyBufSize) :
    (ws.fill bs h).buf.1.take (ws.fill bs h).nBytes = bs :=
  List.take_left

/-! ## Calls that take from the front -/

/-- A select moves bytes from the line into the buffer. -/
theorem takes_select (readFile : ReadFile) (maxLen : Int) (tv : Option Timeval) (s : SerialState) :
    Fifo.Takes SerialCall.step SerialState.contents (.select readFile maxLen tv) s := by
  change (win32SerSelect readFile maxLen tv s).2.contents = s.contents
  unfold win32SerSelect
  split
  · rfl
  · next hempty =>
    have hzero : s.ws.nBytes = 0 := by omega
    dsimp only
    split
    · rfl
    · next k hk =>
      rw [SerialState.contents, Win32Ser.buffered_fill, SerialState.contents, hzero, List.take_zero,
        List.nil_append]
      exact List.prefix_iff_eq_append.mp (List.take_prefix _ _)

/-- The call takes some of the buffered bytes, but not all of them. -/
def SerialCall.TakesPart : SerialCall → SerialState → Prop
  | select _ _ _, _ => False
  | read maxLen, s => 0 < maxLen ∧ maxLen < s.ws.nBytes

/-- A read of no byte changes nothing. -/
theorem step_read_zero (s : SerialState) : (SerialCall.read 0).step s = ([], s) := by
  have hn : (if 0 < s.ws.nBytes then 0 else s.ws.nBytes) = 0 := by
    split <;> omega
  simp only [SerialCall.step, win32SerRead, hn, List.take_zero, Nat.sub_zero]

/-- A call that does not take a part of the buffer takes from the front. -/
theorem takes_of_not_takesPart {c : SerialCall} (h : ¬c.TakesPart s) :
    Fifo.Takes SerialCall.step SerialState.contents c s := by
  cases c with
  | select readFile maxLen tv => exact takes_select readFile maxLen tv s
  | read maxLen =>
    rcases Nat.eq_zero_or_pos maxLen with rfl | hpos
    · rw [Fifo.Takes, step_read_zero]
      rfl
    · have hall : ¬maxLen < s.ws.nBytes := fun hlt => h ⟨hpos, hlt⟩
      simp only [Fifo.Takes, SerialCall.step, win32SerRead, if_neg hall, SerialState.contents,
        Nat.sub_self, List.take_zero, List.nil_append]

/-! ## Runs -/

/-- Behind a read that takes only a part of the buffer, no read asks for bytes. -/
def NoReread : List SerialCall → SerialState → Prop
  | [], _ => True
  | c :: cs, s => (c.TakesPart s → ∀ n, SerialCall.read n ∈ cs → n = 0) ∧ NoReread cs (c.step s).2

/-- A call that asks for no byte returns none. -/
theorem step_eq_nil {c : SerialCall} (h : ∀ n, c = .read n → n = 0) (s : SerialState) :
    (c.step s).1 = [] := by
  cases c with
  | select readFile maxLen tv => rfl
  | read maxLen =>
    obtain rfl := h maxLen rfl
    rw [step_read_zero]

/-- Calls that ask for no byte return none. -/
theorem outputs_eq_nil (h : ∀ n, SerialCall.read n ∈ calls → n = 0) (s : SerialState) :
    Fifo.outputs SerialCall.step calls s = [] :=
  Fifo.outputs_eq_nil (P := fun _ => True)
    (fun _ hc s' _ => ⟨step_eq_nil (fun n hn => h n (hn ▸ hc)) s', trivial⟩) trivial

/-- A run in which no read asks for bytes takes nothing again. -/
theorem noReread_of_silent (h : ∀ n, SerialCall.read n ∈ calls → n = 0) (s : SerialState) :
    NoReread calls s := by
  induction calls generalizing s with
  | nil => trivial
  | cons c cs ih =>
    have hcs : ∀ n, SerialCall.read n ∈ cs → n = 0 := fun n hn => h n (List.mem_cons_of_mem _ hn)
    exact ⟨fun _ => hcs, ih hcs _⟩

/-- A run that takes nothing again returns the contents, from the front. -/
theorem outputs_prefix_of_noReread (h : NoReread calls s) :
    Fifo.outputs SerialCall.step calls s <+: s.contents := by
  induction calls generalizing s with
  | nil => exact List.nil_prefix
  | cons c cs ih =>
    by_cases hpart : c.TakesPart s
    · -- nothing is returned behind the part, and the part is at the front
      cases c with
      | select readFile maxLen tv => exact hpart.elim
      | read maxLen =>
        rw [Fifo.outputs, outputs_eq_nil (h.1 hpart), List.append_nil]
        have hlt : maxLen < s.ws.nBytes := hpart.2
        simp only [SerialCall.step, win32SerRead, if_pos hlt, SerialState.contents]
        rw [← Nat.min_eq_left hlt.le, ← List.take_take]
        exact (List.take_prefix _ _).trans (List.prefix_append _ _)
    · exact Fifo.outputs_prefix_cons (takes_of_not_takesPart hpart) (ih h.2)

/-! ## What is taken again -/

/-- Two states that differ only in the bytes. -/
structure Alike (s s' : SerialState) : Prop where
  fd : s'.ws.fd = s.ws.fd
  nBytes : s'.ws.nBytes = s.ws.nBytes
  length : s'.line.length = s.line.length

/-- A call does the same from states that differ only in the bytes. -/
theorem alike_step (h : Alike s s') (c : SerialCall) :
    Alike (c.step s).2 (c.step s').2 ∧ (c.step s').1.length = (c.step s).1.length := by
  cases c with
  | select readFile maxLen tv =>
    refine ⟨?_, rfl⟩
    simp only [SerialCall.step, win32SerSelect, h.nBytes, h.fd]
    split
    · exact h
    · split
      · exact h
      · next k hk =>
        exact ⟨h.fd, by simp [Win32Ser.fill, h.length], by simp [h.length]⟩
  | read maxLen =>
    simp only [SerialCall.step, win32SerRead, h.nBytes]
    refine ⟨⟨h.fd, rfl, h.length⟩, ?_⟩
    rw [List.length_take, List.length_take, s.ws.buf.2, s'.ws.buf.2]

/-- Whether a call takes a part of the buffer does not depend on the bytes. -/
theorem takesPart_of_alike (h : Alike s s') {c : SerialCall} (hpart : c.TakesPart s') :
    c.TakesPart s := by
  cases c with
  | select readFile maxLen tv => exact hpart
  | read maxLen => exact ⟨hpart.1, h.nBytes ▸ hpart.2⟩

/-- With bytes in the buffer, the first read that asks for a byte returns the first of them. -/
theorem outputs_head {n : ℕ} (hn : SerialCall.read n ∈ calls) (hpos : n ≠ 0)
    (hbuf : 0 < s.ws.nBytes) :
    (Fifo.outputs SerialCall.step calls s)[0]? = s.ws.buf.1[0]? := by
  induction calls with
  | nil => cases hn
  | cons c cs ih =>
    rw [Fifo.outputs]
    by_cases hc : ∀ m, c = .read m → m = 0
    · have hcs : SerialCall.read n ∈ cs := by
        rcases List.mem_cons.mp hn with heq | hmem
        · exact absurd (hc n heq.symm) hpos
        · exact hmem
      have hstep : c.step s = ([], s) := by
        cases c with
        | select readFile maxLen tv =>
          simp only [SerialCall.step, win32SerSelect, if_pos hbuf]
        | read maxLen =>
          obtain rfl := hc maxLen rfl
          exact step_read_zero s
      rw [hstep]
      exact ih hcs
    · push Not at hc
      obtain ⟨m, rfl, hm⟩ := hc
      simp only [SerialCall.step, win32SerRead]
      split
      · rw [List.getElem?_append_left, List.getElem?_take_of_lt]
        · omega
        · rw [List.length_take, s.ws.buf.2]
          have := s.ws.nBytes_le
          omega
      · rw [List.getElem?_append_left, List.getElem?_take_of_lt]
        · omega
        · rw [s.length_buffered]
          exact hbuf

/-- Behind a read that takes a part of the buffer, the next byte that is returned is again the first
one of the buffer. -/
theorem getElem?_contents_of_part {m n : ℕ} {cs : List SerialCall} (hlt : m < s.ws.nBytes)
    (hn : SerialCall.read n ∈ cs) (hn0 : n ≠ 0)
    (hfront : Fifo.outputs SerialCall.step (.read m :: cs) s <+: s.contents) :
    s.contents[m]? = s.contents[0]? := by
  have hbuf : 0 < s.ws.buf.1.length := by
    rw [s.ws.buf.2]
    decide
  have hfirst : s.contents[0]? = s.ws.buf.1[0]? := by
    rw [SerialState.contents, List.getElem?_append_left, List.getElem?_take_of_lt]
    · omega
    · rw [s.length_buffered]
      omega
  have hagain : (Fifo.outputs SerialCall.step (.read m :: cs) s)[m]? = s.ws.buf.1[0]? := by
    have hlen : (s.ws.buf.1.take m).length = m := by
      rw [List.length_take, s.ws.buf.2]
      exact Nat.min_eq_left (hlt.le.trans s.ws.nBytes_le)
    simp only [Fifo.outputs, SerialCall.step, win32SerRead, if_pos hlt]
    rw [List.getElem?_append_right hlen.le, hlen, Nat.sub_self]
    exact outputs_head hn hn0 (Nat.sub_pos_of_lt hlt)
  have hsome : s.ws.buf.1[0]? = some s.ws.buf.1[0] := List.getElem?_eq_getElem hbuf
  obtain ⟨hlen, -⟩ := List.getElem?_eq_some_iff.mp (hagain.trans hsome)
  obtain ⟨rest, hrest⟩ := hfront
  rw [hfirst, ← hagain, ← hrest, List.getElem?_append_left hlen]

/-- In a run that takes a byte again, one byte of the contents is returned at the place of
another. -/
theorem exists_repeated (h : ¬NoReread calls s) :
    ∃ p m, 0 < m ∧ p + m < s.contents.length ∧ ∀ s', Alike s s' →
      Fifo.outputs SerialCall.step calls s' <+: s'.contents →
      s'.contents[p + m]? = s'.contents[p]? := by
  induction calls generalizing s with
  | nil => exact absurd trivial h
  | cons c cs ih =>
    by_cases hpart : c.TakesPart s
    · cases c with
      | select readFile maxLen tv => exact hpart.elim
      | read m =>
        obtain ⟨hpos, hlt⟩ := hpart
        by_cases hsilent : ∀ n, SerialCall.read n ∈ cs → n = 0
        · exact absurd ⟨fun _ => hsilent, noReread_of_silent hsilent _⟩ h
        push Not at hsilent
        obtain ⟨n, hn, hn0⟩ := hsilent
        refine ⟨0, m, hpos, ?_, fun s' halike hfront => ?_⟩
        · have := s.length_buffered
          rw [SerialState.contents, List.length_append]
          omega
        · rw [Nat.zero_add]
          exact getElem?_contents_of_part (halike.nBytes ▸ hlt) hn hn0 hfront
    · have htakes := takes_of_not_takesPart hpart
      have hrest : ¬NoReread cs (c.step s).2 := fun hrest' => h ⟨fun hp => absurd hp hpart, hrest'⟩
      obtain ⟨p, m, hpos, hlt, hrep⟩ := ih hrest
      refine ⟨(c.step s).1.length + p, m, hpos, ?_, fun s' halike hfront => ?_⟩
      · have hlen := congrArg List.length htakes
        rw [List.length_append] at hlen
        omega
      have hpart' : ¬c.TakesPart s' := fun hp => hpart (takesPart_of_alike halike hp)
      obtain ⟨halike', hlen⟩ := alike_step halike c
      have htakes' := takes_of_not_takesPart hpart'
      have hsame := hrep _ halike' (Fifo.outputs_prefix_of_cons htakes' hfront)
      rw [Fifo.getElem?_contents htakes', Fifo.getElem?_contents htakes', hlen] at hsame
      rwa [Nat.add_assoc]

/-! ## The queue -/

/-- The state behind `_tta_rs485_connect`. -/
def win32Start (fd : Int) (line : List UInt8) : SerialState := ⟨win32SerInit fd, line⟩

/-- At the start all bytes are on the line. -/
theorem contents_win32Start (fd : Int) (line : List UInt8) :
    (win32Start fd line).contents = line :=
  rfl

/-- A sequence of calls returns the bytes of every line of a length from the front, without a loss,
a repetition or a change in the order, exactly when no read asks for bytes behind a read that has
taken only a part of the buffer. -/
theorem win32Ser_queue_iff (fd : Int) (n : ℕ) (calls : List SerialCall) :
    (∀ line : List UInt8, line.length = n →
      Fifo.outputs SerialCall.step calls (win32Start fd line) <+: line) ↔
      ∀ line : List UInt8, line.length = n → NoReread calls (win32Start fd line) := by
  constructor
  · intro hqueue line hline
    by_contra hreread
    obtain ⟨p, m, hpos, hlt, hrepeated⟩ := exists_repeated hreread
    rw [contents_win32Start] at hlt
    -- a line on which the byte that is returned twice stands only once
    let marked : List UInt8 := (List.range n).map fun i => if i = p then 1 else 0
    have hmarked : marked.length = n := by simp [marked]
    have halike : Alike (win32Start fd line) (win32Start fd marked) :=
      ⟨rfl, rfl, hmarked.trans hline.symm⟩
    have hsame := hrepeated _ halike (hqueue marked hmarked)
    rw [contents_win32Start, List.getElem?_eq_getElem (by omega),
      List.getElem?_eq_getElem (by omega)] at hsame
    simp [marked, hpos.ne'] at hsame
  · intro h line hline
    exact outputs_prefix_of_noReread (h line hline)

/-- Two reads of one byte of the three that are buffered return the same byte. -/
theorem not_win32Ser_queue :
    ¬Fifo.outputs SerialCall.step
      [.select (fun _ _ len => some len) 3 none, .read 1, .read 1]
      (win32Start 3 [1, 2, 3]) <+: [1, 2, 3] := by
  decide

end Libtta
