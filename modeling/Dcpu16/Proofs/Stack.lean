import Dcpu16.Proofs.Calls
import Mathlib.Data.List.Nodup

/-!
The stack as a stack. Its words are kept in cells, from the one below the stack pointer downwards and around the end of the
addresses, so it can hold `0x10000` words before one of them is lost (`nodup_stackBelow`). As long as it holds no more, it
does what a list of words does that is changed at one end only (`Stacked.run`). What is seen of it is then last in, first
out, wherever the pointer was in the beginning (`stack_lifo`).
-/

namespace Dcpu16

/-! ### The cells of a stack -/

theorem Word.sub_ofNat_zero (w : Word) : w - BitVec.ofNat 16 0 = w := BitVec.sub_zero w

theorem Word.sub_ofNat_succ (w : Word) (n : Nat) : w - BitVec.ofNat 16 (n + 1) = w - BitVec.ofNat 16 n - 1 := by
  rw [BitVec.ofNat_add, BitVec.sub_sub]
  rfl

theorem stackBelow_concat (sp : Word) (n : Nat) :
    stackBelow sp (n + 1) = stackBelow sp n ++ [(sp - BitVec.ofNat 16 (n + 1)).address] := by
  rw [stackBelow, List.range_succ, List.map_append, Word.address_sub_ofNat]
  rfl

theorem nodup_stackBelow (sp : Word) {n : Nat} (h : n ≤ 0x10000) : (stackBelow sp n).Nodup := by
  refine List.Nodup.map_on (fun i hi j hj heq => ?_) List.nodup_range
  have := List.mem_range.1 hi
  have := List.mem_range.1 hj
  omega

theorem exists_address_of_mem_stackBelow {sp : Word} {n : Nat} {a : Int} (h : a ∈ stackBelow sp n) :
    ∃ w : Word, w.address = a := by
  obtain ⟨i, -, rfl⟩ := List.mem_map.1 h
  exact ⟨_, Word.address_sub_ofNat sp (i + 1)⟩

theorem mem_stackBelow_of_le {sp : Word} {m n : Nat} (h : m ≤ n) {a : Int} (ha : a ∈ stackBelow sp m) :
    a ∈ stackBelow sp n :=
  (List.map_subset _ (List.range_subset.2 h)) ha

/-! ### Operations -/

/-- What is done to a stack. -/
inductive StackOp where
  | push (value : Int)
  | pop
  | peek
  deriving DecidableEq, Repr

/-- What a stack of at most `n` words does, given as a list that begins with the top: the operations, the words on it before
them, the words that are popped, and the words on it after them. To look at it changes nothing, also when it is empty. -/
inductive StackRun (n : Nat) : List StackOp → List Word → List Word → List Word → Prop where
  | nil (st : List Word) : StackRun n [] st [] st
  | push {value : Int} {ops : List StackOp} {st ws st' : List Word} (room : st.length < n)
      (rest : StackRun n ops (Word.ofInt value :: st) ws st') : StackRun n (.push value :: ops) st ws st'
  | pop {ops : List StackOp} {w : Word} {st ws st' : List Word} (rest : StackRun n ops st ws st') :
      StackRun n (.pop :: ops) (w :: st) (w :: ws) st'
  | peek {ops : List StackOp} {st ws st' : List Word} (rest : StackRun n ops st ws st') :
      StackRun n (.peek :: ops) st ws st'

namespace StackRun

variable {n : Nat} {ops : List StackOp} {st ws st' : List Word}

/-- Looks at the stack can be put in anywhere. -/
theorem of_filter (h : StackRun n (ops.filter (· ≠ .peek)) st ws st') : StackRun n ops st ws st' := by
  induction ops generalizing st ws with
  | nil => exact h
  | cons op ops ih =>
    cases op with
    | push value =>
      cases h with
      | push room rest => exact .push room (ih rest)
    | pop =>
      cases h with
      | pop rest => exact .pop (ih rest)
    | peek => exact .peek (ih h)

theorem pushes {vs : List Int} (room : st.length + vs.length ≤ n)
    (rest : StackRun n ops ((vs.map Word.ofInt).reverse ++ st) ws st') : StackRun n (vs.map .push ++ ops) st ws st' := by
  induction vs generalizing st with
  | nil => exact rest
  | cons value vs ih =>
    rw [List.length_cons] at room
    refine .push (by omega) (ih ?_ ?_)
    · rw [List.length_cons]
      omega
    · rwa [List.map_cons, List.reverse_cons, List.append_assoc] at rest

theorem pops (st : List Word) : StackRun n (List.replicate st.length .pop) st st [] := by
  induction st with
  | nil => exact .nil []
  | cons w st ih => exact .pop ih

/-- Words that are pushed are popped in the reverse order. -/
theorem reverse {vs : List Int} (room : vs.length ≤ n)
    (calls : ops.filter (· ≠ .peek) = vs.map .push ++ List.replicate vs.length .pop) :
    StackRun n ops [] (vs.map Word.ofInt).reverse [] := by
  refine of_filter ?_
  have all := pops (n := n) (vs.map Word.ofInt).reverse
  rw [List.length_reverse, List.length_map] at all
  rw [calls]
  refine pushes ?_ ?_
  · rwa [List.length_nil, Nat.zero_add]
  · rwa [List.append_nil]

end StackRun

namespace Space

variable (s : Space)

/-- Does one thing to the stack, and gives the word that is seen. -/
def stackOp : StackOp → Option Word × Space
  | .push value => (none, s.pushValue value)
  | .pop =>
    let (w, s) := s.pop
    (some w, s)
  | .peek =>
    let (w, s) := s.peek
    (some w, s)

/-- Does one thing after the other to the stack, and gives them with the words that are seen. -/
def stackOps (s : Space) : List StackOp → List (StackOp × Option Word) × Space
  | [] => ([], s)
  | op :: ops =>
    let (seen, s) := s.stackOp op
    let (rest, s) := s.stackOps ops
    ((op, seen) :: rest, s)

/-- The words that are popped. -/
def popped (seen : List (StackOp × Option Word)) : List Word :=
  seen.filterMap fun p => if p.1 = .pop then p.2 else none

theorem stackOps_cons (op : StackOp) (ops : List StackOp) :
    s.stackOps (op :: ops) =
      ((op, (s.stackOp op).1) :: ((s.stackOp op).2.stackOps ops).1, ((s.stackOp op).2.stackOps ops).2) := rfl

theorem stackOps_append (xs ys : List StackOp) :
    s.stackOps (xs ++ ys) =
      ((s.stackOps xs).1 ++ ((s.stackOps xs).2.stackOps ys).1, ((s.stackOps xs).2.stackOps ys).2) := by
  induction xs generalizing s with
  | nil => rfl
  | cons op xs ih =>
    rw [List.cons_append, stackOps_cons, stackOps_cons, ih]
    rfl

theorem length_stackOps (ops : List StackOp) : (s.stackOps ops).1.length = ops.length := by
  induction ops generalizing s with
  | nil => rfl
  | cons op ops ih => exact congrArg (· + 1) (ih _)

/-! ### The words on the stack -/

/-- From `s₀` a stack of at most `n` words was begun, and `s` has the words `st` on it, the top first. -/
structure Stacked (s₀ : Space) (n : Nat) (s : Space) (st : List Word) : Prop where
  policy : s.policy = s₀.policy
  room : st.length ≤ n
  registers : s.registers = { s₀.registers with sp := s₀.registers.sp - BitVec.ofNat 16 st.length }
  words : (stackBelow s₀.registers.sp st.length).map s.cell = st.reverse
  cells : ∀ a, a ∉ stackBelow s₀.registers.sp n → s.cells[a]? = s₀.cells[a]?

namespace Stacked

variable {s₀ s : Space} {n : Nat} {st : List Word}

theorem empty (s : Space) (n : Nat) : Stacked s n s [] where
  policy := rfl
  room := Nat.zero_le n
  registers := by rw [List.length_nil, Word.sub_ofNat_zero]
  words := rfl
  cells _ _ := rfl

theorem push (h : Stacked s₀ n s st) (bound : n ≤ 0x10000) (room : st.length < n) (value : Int) :
    Stacked s₀ n (s.pushValue value) (Word.ofInt value :: st) := by
  have writes := Writes.pushValue s value
  have top : s.registers.sp - 1 = s₀.registers.sp - BitVec.ofNat 16 (st.length + 1) := by
    rw [h.registers, Word.sub_ofNat_succ]
  have cells := stackBelow_concat s₀.registers.sp st.length
  rw [← top] at cells
  refine ⟨writes.policy.trans h.policy, room, ?_, ?_, fun a ha => ?_⟩
  · rw [List.length_cons, ← top]
    show { s.registers with sp := s.registers.sp - 1 } = _
    rw [h.registers]
  · -- the new word has a cell of its own, so the words below it stay
    have apart := nodup_stackBelow s₀.registers.sp (Nat.le_trans room bound)
    rw [Nat.succ_eq_add_one, cells] at apart
    have others : ∀ a ∈ stackBelow s₀.registers.sp st.length, (s.pushValue value).cell a = s.cell a := by
      intro a ha
      obtain ⟨w, rfl⟩ := exists_address_of_mem_stackBelow ha
      exact writes.cell_eq fun mem => List.disjoint_of_nodup_append apart ha mem
    have new : (s.pushValue value).cell (s.registers.sp - 1).address = Word.ofInt value := by
      rw [pushValue_eq, cell_store_cell_self]
    rw [List.length_cons, cells, List.map_append, List.map_congr_left others, h.words, List.map_singleton, new,
      List.reverse_cons]
  · rw [writes.cells a fun mem => ha ?_, h.cells a ha]
    refine mem_stackBelow_of_le room ?_
    rw [Nat.succ_eq_add_one, cells]
    exact List.mem_append_right _ mem

/-- The top is in the cell that the stack pointer names, and the other words are in the cells before it. -/
theorem words_cons {w : Word} (h : Stacked s₀ n s (w :: st)) :
    (stackBelow s₀.registers.sp st.length).map s.cell = st.reverse ∧ s.cell s.registers.sp.address = w := by
  have words := h.words
  rw [List.length_cons, stackBelow_concat, List.map_append, List.reverse_cons] at words
  obtain ⟨others, top⟩ := List.append_inj' words rfl
  rw [h.registers]
  exact ⟨others, (List.cons.inj top).1⟩

theorem pop {w : Word} (h : Stacked s₀ n s (w :: st)) : Stacked s₀ n s.pop.2 st := by
  refine ⟨h.policy, Nat.le_of_succ_le h.room, ?_, h.words_cons.1, h.cells⟩
  show { s.registers with sp := s.registers.sp + 1 } = _
  rw [h.registers, List.length_cons, Word.sub_ofNat_succ, BitVec.sub_add_cancel]

theorem peek (h : Stacked s₀ n s st) : Stacked s₀ n s.peek.2 st :=
  ⟨h.policy, h.room, h.registers, h.words, h.cells⟩

/-- **A stack that does not come around to its first word does what a list of words does.** -/
theorem run {ops : List StackOp} {ws st' : List Word} (bound : n ≤ 0x10000) (run : StackRun n ops st ws st')
    (h : Stacked s₀ n s st) : popped (s.stackOps ops).1 = ws ∧ Stacked s₀ n (s.stackOps ops).2 st' := by
  induction run generalizing s with
  | nil st => exact ⟨rfl, h⟩
  | push room rest ih => exact ih (h.push bound room _)
  | pop rest ih =>
    obtain ⟨words, after⟩ := ih h.pop
    exact ⟨congrArg₂ List.cons h.words_cons.2 words, after⟩
  | peek rest ih => exact ih h.peek

end Stacked

/-! ### Last in, first out -/

/-- What an operation shows is found at its place among the others. -/
theorem getElem?_stackOps (before after : List StackOp) (op : StackOp) :
    (s.stackOps (before ++ op :: after)).1[before.length]? = some (op, ((s.stackOps before).2.stackOp op).1) := by
  rw [stackOps_append, stackOps_cons, List.getElem?_append_right (s.length_stackOps before).le, length_stackOps,
    Nat.sub_self]
  rfl

/-- **The stack is last in, first out.** If no more than `0x10000` values are pushed and then as many words popped, with any
looks at the stack in between, then the words are the low sixteen bits of the values, the last one first. The registers are
as before, and so are all cells but those that hold the words. A look shows the word that a pop would give in its place, and
changes neither registers nor cells. -/
theorem stack_lifo (vs : List Int) (ops : List StackOp) (bound : vs.length ≤ 0x10000)
    (calls : ops.filter (· ≠ .peek) = vs.map .push ++ List.replicate vs.length .pop) :
    popped (s.stackOps ops).1 = (vs.map Word.ofInt).reverse ∧
    (s.stackOps ops).2.registers = s.registers ∧
    (∀ a, a ∉ stackBelow s.registers.sp vs.length → (s.stackOps ops).2.cells[a]? = s.cells[a]?) ∧
    ∀ before after, ops = before ++ .peek :: after →
      (s.stackOps ops).1[before.length]? = some (.peek, some (s.stackOps before).2.pop.1) ∧
      (s.stackOps (before ++ [.peek])).2.registers = (s.stackOps before).2.registers ∧
      (s.stackOps (before ++ [.peek])).2.cells = (s.stackOps before).2.cells := by
  obtain ⟨words, stacked⟩ := (Stacked.empty s vs.length).run bound (StackRun.reverse (Nat.le_refl _) calls)
  refine ⟨words, ?_, stacked.cells, ?_⟩
  · rw [stacked.registers, List.length_nil, Word.sub_ofNat_zero]
  · rintro before after rfl
    refine ⟨getElem?_stackOps .., ?_⟩
    rw [stackOps_append]
    exact ⟨rfl, rfl⟩

/-- Three values around the end of the addresses, of which two are no words, with looks at the stack before the first of them
and between the pops. -/
theorem stack_lifo_around_zero :
    let s : Space := (({} : Space).load 1 7).write (.register .SP) 1
    let ops : List StackOp := [.peek, .push 5, .push (-1), .push 0x12345, .pop, .peek, .pop, .pop]
    popped (s.stackOps ops).1 = [0x2345, 0xFFFF, 5] ∧ (s.stackOps ops).2.registers = s.registers ∧
      (s.stackOps ops).2.cells[(1 : Int)]? = some 7 ∧ (s.stackOps ops).1[0]? = some (.peek, some 7) ∧
      (s.stackOps ops).1[5]? = some (.peek, some 0xFFFF) := by
  intro s ops
  obtain ⟨words, registers, cells, looks⟩ := s.stack_lifo [5, -1, 0x12345] ops (by decide) (by decide)
  refine ⟨words, registers, ?_, ?_, ?_⟩
  · rw [cells 1 (by decide)]
    decide
  · exact (looks [] (ops.drop 1) rfl).1
  · exact (looks (ops.take 5) (ops.drop 6) rfl).1.trans (by decide)

end Space

end Dcpu16
