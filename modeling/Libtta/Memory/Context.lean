import Libtta.Memory.Application
import Libtta.Context.Endpoint

/-!
# The life of a context

A `tta_new` function makes a context of two blocks, or it refuses its arguments and takes back what
it has allocated. Between `tta_new` and `tta_free` an application may do anything that keeps to the
ownership of messages; behind `tta_free` the heap is what it was before `tta_new` (`heap_of_life`).
-/

namespace Libtta.Memory

variable {σ δ : Type} {a : Malloc} {os : Os σ} {fuel : ℕ} {h₀ : Heap Addr Block}
  {rest : List (Addr × Block)}

/-- The blocks of a context. -/
def ttaCells (ctx backendData : Addr) : List (Addr × Block) :=
  [(ctx, .tta backendData), (backendData, .backendData)]

/-- A context is made. -/
theorem refines_ttaNew (d : δ) :
    Heap.Refines h₀ rest (ttaNew a : Program σ _) (pure d)
      fun ctx _ cells => ∃ backendData, cells = ttaCells ctx backendData ++ rest := by
  unfold ttaNew
  refine Heap.Refines.bind_left (Heap.Refines.malloc a.toAllocator _ ()) ?_
  rintro ctx cells ⟨-, rfl⟩
  refine Heap.Refines.bind_left (Heap.Refines.malloc a.toAllocator _ ()) ?_
  rintro backendData cells ⟨-, rfl⟩
  refine Heap.Refines.bind_left ((Heap.Refines.store _ ()).perm (List.Perm.swap ..)) ?_
  rintro _ cells rfl
  exact Heap.Refines.pure ⟨backendData, rfl⟩

/-- A context is freed with the data of its backend. -/
theorem refines_ttaFree (ctx backendData : Addr) (d : δ) :
    Heap.Refines h₀ (ttaCells ctx backendData ++ rest) (ttaFree ctx : Program σ _) (pure d)
      fun _ _ cells => cells = rest := by
  unfold ttaFree
  refine Heap.Refines.bind_left (Heap.Refines.load List.mem_cons_self ()) ?_
  rintro b cells ⟨rfl, rfl⟩
  refine Heap.Refines.bind_left ((Heap.Refines.free ()).perm (List.Perm.swap ..)) ?_
  rintro _ cells rfl
  exact Heap.Refines.free d

/-- What a `tta_new` function returns: a context with its blocks, or nothing. -/
inductive Opened (rest : List (Addr × Block)) :
    Option Addr → Bool → List (Addr × Block) → Prop where
  | refused : Opened rest none false rest
  | made (ctx backendData : Addr) :
      Opened rest (some ctx) true (ttaCells ctx backendData ++ rest)

/-- What a `tta_new` function does beside the heap: it puts the content of the context in place, or
reports that it has refused its arguments. -/
def openContext (valid : Bool) (ctx : Tta) : Machine σ Bool :=
  if valid then do
    setCtx ctx
    return true
  else do
    setErrno .EINVAL
    return false

/-- What has been allocated is taken back. -/
theorem refines_refuse (ctx backendData : Addr) (content : Tta) :
    Heap.Refines h₀ (ttaCells ctx backendData ++ rest) (refuse ctx : Program σ _)
      (openContext false content) (Opened rest) := by
  unfold refuse openContext
  refine Heap.Refines.bind_left (refines_ttaFree ctx backendData ()) ?_
  rintro _ cells rfl
  refine Heap.Refines.bind (Heap.Refines.lift _) ?_
  rintro _ _ cells ⟨-, rfl⟩
  exact Heap.Refines.pure .refused

/-- A context that has been made gets its content. -/
theorem refines_content (ctx backendData : Addr) (content : Tta) :
    Heap.Refines h₀ (ttaCells ctx backendData ++ rest)
      (do Heap.lift (setCtx content); return some ctx : Program σ (Option Addr))
      (openContext true content) (Opened rest) := by
  unfold openContext
  refine Heap.Refines.bind (Heap.Refines.lift _) ?_
  rintro _ _ cells ⟨-, rfl⟩
  exact Heap.Refines.pure (.made ctx backendData)

/-! ## Constructors -/

/-- The `tta_new` functions with their arguments, and with what the allocated memory holds where
they do not put anything. -/
inductive Constructor where
  | tcp (memory : TtaTcp) (ip : Option CString) (port : Int)
  | rs485 (memory : Termios) (device : CString) (baud : Int) (parity : Char) (dataBit stopBit : Int)
  | rf (device : CString) (id0 id1 id2 id3 : UInt8)

/-- Make a context. -/
def Constructor.run (a : Malloc) : Constructor → Program σ (Option Addr)
  | tcp memory ip port => ttaNewTcp a memory ip port
  | rs485 memory device baud parity dataBit stopBit =>
    ttaNewRs485 a memory device baud parity dataBit stopBit
  | rf device id0 id1 id2 id3 => ttaNewRf a device id0 id1 id2 id3

/-- The arguments that are accepted: a name of 1 to 15 characters, and for RS485 a parity that is
known. -/
def Constructor.valid : Constructor → Bool
  | tcp _ ip _ => ip.all fun s => s.IsAddress
  | rs485 _ device _ parity _ _ => device.IsAddress && (Parity.ofLetter parity).isSome
  | rf device _ _ _ _ => device.IsAddress

/-- The content of the context. -/
def Constructor.content : Constructor → Tta
  | tcp memory none _ => ttaInitCommon (.tcp { memory with tid := 0 })
  | tcp _ (some ip) port => Libtta.ttaNewTcp (String.ofList ip.chars) port
  | rs485 memory device baud parity dataBit stopBit =>
    Libtta.ttaNewRs485 (String.ofList device.chars)
      ⟨baud, .ofInt dataBit, .ofInt stopBit, (Parity.ofLetter parity).getD .none⟩ memory
  | rf device id0 id1 id2 id3 => Libtta.ttaNewRf (String.ofList device.chars) id0 id1 id2 id3

/-- A name is copied, and a context whose name does not fit is taken back. -/
theorem refines_checkName {s : CString} {valid : Bool} {content : Tta} {ctx backendData : Addr}
    {x : String → Program σ (Option Addr)} (hbad : ¬s.IsAddress → valid = false)
    (hx : s.IsAddress → Heap.Refines h₀ (ttaCells ctx backendData ++ rest)
      (x (String.ofList s.chars)) (openContext valid content) (Opened rest)) :
    Heap.Refines h₀ (ttaCells ctx backendData ++ rest) (checkName ctx s x)
      (openContext valid content) (Opened rest) := by
  obtain ⟨hcopy, -, hret⟩ := strlcpy_eq s 15
  unfold checkName
  dsimp only
  rw [hcopy, hret]
  split
  · rename_i hempty
    rw [hbad fun h => h.1.ne' hempty]
    exact refines_refuse ctx backendData content
  split
  · rename_i _ hlong
    rw [hbad fun h => h.2.not_ge hlong]
    exact refines_refuse ctx backendData content
  · rename_i hne hlt
    have hfit : s.IsAddress := ⟨Nat.pos_of_ne_zero hne, not_le.mp hlt⟩
    rw [List.take_of_length_le (by have := hfit.2; omega)]
    exact hx hfit

/-- A `tta_new` function makes a context when its arguments are accepted, and leaves the heap alone
otherwise. -/
theorem refines_constructor (c : Constructor) :
    Heap.Refines h₀ rest (c.run a : Program σ _) (openContext c.valid c.content) (Opened rest) := by
  cases c with
  | tcp memory ip port =>
    refine Heap.Refines.bind_left (refines_ttaNew ()) ?_
    rintro ctx cells ⟨backendData, rfl⟩
    cases ip with
    | none => exact refines_content ctx backendData _
    | some ip =>
      refine refines_checkName (fun hbad => decide_eq_false hbad) fun hfit => ?_
      rw [show (Constructor.tcp memory (some ip) port).valid = true from decide_eq_true hfit]
      exact refines_content ctx backendData _
  | rs485 memory device baud parity dataBit stopBit =>
    refine Heap.Refines.bind_left (refines_ttaNew ()) ?_
    rintro ctx cells ⟨backendData, rfl⟩
    refine refines_checkName (fun hbad => ?_) fun hfit => ?_
    · rw [Constructor.valid, decide_eq_false hbad, Bool.false_and]
    · rw [Constructor.valid, decide_eq_true hfit, Bool.true_and]
      dsimp only [Constructor.content]
      cases Parity.ofLetter parity with
      | some parity => exact refines_content ctx backendData _
      | none => exact refines_refuse ctx backendData _
  | rf device id0 id1 id2 id3 =>
    refine Heap.Refines.bind_left (refines_ttaNew ()) ?_
    rintro ctx cells ⟨backendData, rfl⟩
    refine refines_checkName (fun hbad => decide_eq_false hbad) fun hfit => ?_
    rw [show (Constructor.rf device id0 id1 id2 id3).valid = true from decide_eq_true hfit]
    exact refines_content ctx backendData _

/-- How `openContext` returns. -/
theorem run_openContext (valid : Bool) (content : Tta) (w : World σ) :
    (openContext valid content).run w =
      if valid then .ok (true, { w with ctx := content })
      else .ok (false, { w with errno := .EINVAL }) := by
  cases valid <;> rfl

/-- A context whose blocks are there is freed. -/
theorem run_ttaFree {ctx backendData : Addr} {h : Heap Addr Block}
    (hadds : Heap.Adds h₀ (ttaCells ctx backendData) h) (w : World σ) :
    (ttaFree ctx).run (w, h) = .ok ((), w, h₀) := by
  have hswap := hadds.perm (List.Perm.swap ..)
  unfold ttaFree
  rw [Exec.run_bind_of_ok (Heap.run_load hadds.head)]
  dsimp only
  rw [Exec.run_bind_of_ok (Heap.run_free hswap.head), Heap.run_free hswap.erase.head,
    hswap.erase.erase.eq_of_nil]

/-- The life of a context. A `tta_new` function stops only when the memory is exhausted. Either its
arguments are refused: then it reports `EINVAL`, and the heap and the old content are as they were.
Or they are accepted: then the context has the content that the arguments tell, and whatever an
application does from there that keeps to the ownership of messages, and owns none in the end,
`tta_free` returns and leaves the heap as it was before `tta_new`. -/
theorem heap_of_life (c : Constructor) (w : World σ) :
    (∀ f, (c.run a).run (w, h₀) = .error f → f = .exhausted) ∧
      ∀ r s, (c.run a).run (w, h₀) = .ok (r, s) →
        (r = none ∧ c.valid = false ∧ s = ({ w with errno := .EINVAL }, h₀)) ∨
        ∃ ctx, r = some ctx ∧ c.valid = true ∧ s.1 = { w with ctx := c.content } ∧
          ∀ s', Reaches a os fuel s s' [] → (ttaFree ctx).run s' = .ok ((), s'.1, h₀) := by
  have hrefines : Heap.Refines h₀ [] (c.run a : Program σ _) (openContext c.valid c.content)
      (Opened []) := refines_constructor c
  obtain ⟨hok, herror⟩ := hrefines w h₀ (.refl h₀)
  rw [run_openContext] at hok herror
  constructor
  · intro f hrun
    rcases herror f hrun with hf | ⟨e, -, hopen⟩
    · exact hf
    · split at hopen <;> cases hopen
  · rintro r ⟨w', h'⟩ hrun
    obtain ⟨made, cells, hopen, hopened, hadds⟩ := hok r w' h' hrun
    cases hvalid : c.valid with
    | false =>
      rw [hvalid, if_neg Bool.false_ne_true] at hopen
      cases hopen
      cases hopened
      exact .inl ⟨rfl, rfl, by rw [hadds.eq_of_nil]⟩
    | true =>
      rw [hvalid, if_pos rfl] at hopen
      cases hopen
      cases hopened with
      | made ctx backendData =>
        refine .inr ⟨ctx, rfl, rfl, rfl, ?_⟩
        rintro ⟨w', h⟩ hreaches
        obtain rfl : h = h' := (heap_of_reaches hreaches).2.2 rfl
        exact run_ttaFree hadds w'

end Libtta.Memory
