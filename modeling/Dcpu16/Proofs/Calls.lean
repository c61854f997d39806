import Dcpu16.Proofs.Length
import Dcpu16.Proofs.StraightLine

/-!
Calls and returns. A call pushes the address of the instruction after it, and a transfer of the top of the stack to the
program counter takes it back. What lies between a call and its return may use the stack below the pushed word, but
leaves the word itself alone as long as it pushes fewer than `0x10000` words, since then the stack does not come around
to it (`not_mem_stackBelow`). So calls nest: each return continues after the call that it belongs to, and all of them
together leave the registers but the program counter as they were (`calls_return`).
-/

namespace Dcpu16

/-- The instruction that returns from a call: a transfer of the top of the stack, which is removed, to the program
counter. -/
def returnWord : Int := 0x61C1

/-- Whether a word is a call that finds its target without moving the stack pointer. -/
def Instruction.Enters (i : Instruction) : Prop := i.action = .call ∧ i.b ≠ 0x18 ∧ i.b ≠ 0x1A

instance (i : Instruction) : Decidable i.Enters := inferInstanceAs (Decidable (_ ∧ _ ∧ _))

/-- The addresses of a number of cells below the top of the stack, from the one that is pushed to first. -/
def stackBelow (sp : Word) (n : Nat) : List Int := (List.range n).map fun i => (sp.address - (i + 1 : Nat)) % 0x10000

theorem Word.address_sub_ofNat (w : Word) (n : Nat) : (w - BitVec.ofNat 16 n).address = (w.address - n) % 0x10000 := by
  simp only [Word.address, BitVec.toNat_sub, BitVec.toNat_ofNat]
  omega

theorem Word.address_sub_one (w : Word) : (w - 1).address = (w.address - 1) % 0x10000 := w.address_sub_ofNat 1

theorem stackBelow_succ (sp : Word) (n : Nat) : stackBelow sp (n + 1) = (sp - 1).address :: stackBelow (sp - 1) n := by
  rw [stackBelow, List.range_succ_eq_map, List.map_cons, List.map_map, Word.address_sub_one]
  refine congrArg _ (List.map_congr_left fun i _ => ?_)
  simp only [Function.comp_apply, Word.address_sub_one]
  omega

/-- The stack comes around to its top only after `0x10000` words. -/
theorem not_mem_stackBelow (sp : Word) {n : Nat} (h : n < 0x10000) : sp.address ∉ stackBelow sp n := by
  intro mem
  obtain ⟨i, hi, heq⟩ := List.mem_map.1 mem
  have := List.mem_range.1 hi
  have := sp.address_nonneg
  have := sp.address_lt
  omega

theorem Policy.normalize_address (p : Policy) (w : Word) : p.normalize w.address = w.address := by
  rw [← Int.emod_eq_of_lt w.address_nonneg w.address_lt]
  exact p.normalize_emod w.address

namespace Space

/-! ### Computations that only move the two pointers -/

/-- From `s` to `t` the registers other than the program counter and the stack pointer are kept, the accesses that were
recorded write exactly the cells at `addresses`, one after the other, and no other cell changes. -/
structure Writes (s t : Space) (addresses : List Int) : Prop where
  policy : t.policy = s.policy
  registers : ∀ r, r ≠ .PC → r ≠ .SP → t.registers.get r = s.registers.get r
  log : ∃ es, t.log = s.log ++ es ∧ es.filterMap Access.written? = addresses
  cells : ∀ a, a ∉ addresses → t.cells[a]? = s.cells[a]?

namespace Writes

variable {s t u : Space} {xs ys : List Int}

theorem refl (s : Space) : Writes s s [] where
  policy := rfl
  registers _ _ _ := rfl
  log := ⟨[], (List.append_nil _).symm, rfl⟩
  cells _ _ := rfl

theorem trans (h : Writes s t xs) (k : Writes t u ys) : Writes s u (xs ++ ys) where
  policy := k.policy.trans h.policy
  registers r pc sp := (k.registers r pc sp).trans (h.registers r pc sp)
  log := by
    obtain ⟨es, hes, hxs⟩ := h.log
    obtain ⟨fs, hfs, hys⟩ := k.log
    refine ⟨es ++ fs, ?_, ?_⟩
    · rw [hfs, hes, List.append_assoc]
    · rw [List.filterMap_append, hxs, hys]
  cells a ha := by
    rw [List.mem_append, not_or] at ha
    exact (k.cells a ha.2).trans (h.cells a ha.1)

theorem set (s : Space) {r : Register} (hr : r = .PC ∨ r = .SP) (w : Word) : Writes s (s.store (.register r) w) [] where
  policy := rfl
  registers q pc sp := by
    have other : q ≠ r := by rcases hr with rfl | rfl <;> assumption
    rw [registers_store_register, Registers.get_set, if_neg other]
  log := ⟨[], (List.append_nil _).symm, rfl⟩
  cells _ _ := rfl

theorem resolve (s : Space) (m : Mode) : Writes s (s.resolve m).2 [] where
  policy := s.policy_resolve m
  registers r pc sp := by
    rw [registers_resolve]
    cases r <;> first | rfl | exact absurd rfl pc | exact absurd rfl sp
  log := ⟨s.readsFor m, s.log_resolve m, by cases m <;> rfl⟩
  cells _ _ := by rw [cells_resolve]

theorem pushValue (s : Space) (value : Int) : Writes s (s.pushValue value) [(s.registers.sp - 1).address] := by
  have stored (t : Space) (w v : Word) : Writes t (t.store (.cell w.address) v) [w.address] := by
    refine ⟨rfl, fun _ _ _ => rfl, ⟨_, rfl, ?_⟩, fun a ha => ?_⟩
    · simp [Access.written?, Policy.normalize_address]
    · have other : t.policy.normalize w.address ≠ a := by
        rw [Policy.normalize_address]
        exact Ne.symm (mt List.mem_singleton.2 ha)
      simp [store, Std.ExtTreeMap.getElem?_insert, other]
  rw [pushValue_eq]
  exact (Writes.set s (Or.inr rfl) _).trans (stored _ _ _)

/-- A cell that is not written keeps its word. -/
theorem cell_eq (h : Writes s t xs) {w : Word} (hw : w.address ∉ xs) : t.cell w.address = s.cell w.address := by
  rw [cell, cell, Policy.normalize_address, Policy.normalize_address, h.cells _ hw]

/-- Without a write all cells are kept. -/
theorem cells_of_nil (h : Writes s t []) : t.cells = s.cells :=
  Std.ExtTreeMap.ext_getElem? fun k => h.cells k List.not_mem_nil

/-- Without a write only reads are recorded. -/
theorem log_of_nil (h : Writes s t []) : ∃ es, t.log = s.log ++ es ∧ ∀ e ∈ es, e.written? = none := by
  obtain ⟨es, log, none⟩ := h.log
  exact ⟨es, log, List.filterMap_eq_nil_iff.1 none⟩

end Writes

/-! ### One call and one return -/

theorem stackShift_of_ne {field : BitVec 6} (pop : field ≠ 0x18) (push : field ≠ 0x1A) :
    (Mode.ofNat field.toNat).stackShift = 0 := by
  rw [Mode.stackShift_ofNat, if_neg pop, if_neg push]

section Call

variable (s : Space) {word : Int} (enters : (Instruction.decode word).Enters)

include enters

theorem execute_call_completes : (s.execute word).2 = none := by
  simp only [execute, perform, enters.1]

theorem sp_resolve_of_enters : (s.resolve (Instruction.decode word).modeB).2.registers.sp = s.registers.sp := by
  have shift : (Instruction.decode word).modeB.stackShift = 0 := stackShift_of_ne enters.2.1 enters.2.2
  rw [registers_resolve, Registers.resolved, shift]
  exact BitVec.add_zero _

theorem sp_execute_call : (s.execute word).1.registers.sp = s.registers.sp - 1 := by
  rw [execute, perform_call s word enters.1, sp_store_PC, sp_pushValue, s.sp_resolve_of_enters enters]

theorem writes_execute_call : Writes s (s.execute word).1 [(s.registers.sp - 1).address] := by
  have pushed := Writes.pushValue (s.resolve (Instruction.decode word).modeB).2
    ((s.resolve (Instruction.decode word).modeB).2.registers.pc.address + 1)
  rw [s.sp_resolve_of_enters enters] at pushed
  rw [execute, perform_call s word enters.1]
  exact ((Writes.resolve s _).trans pushed).trans (Writes.set _ (Or.inl rfl) _)

end Call

theorem execute_return (s : Space) :
    s.execute returnWord = ((s.resolve .pop).2.store (.register .PC) (s.cell s.registers.sp.address), none) := rfl

theorem writes_execute_return (s : Space) : Writes s (s.execute returnWord).1 [] := by
  rw [execute_return]
  exact (Writes.resolve s .pop).trans (Writes.set _ (Or.inl rfl) _)

/-- A call, a computation that leaves the pushed word on top of the stack, and the return: the return continues after the
call, with the stack as it was. -/
theorem execute_call_return {s t : Space} {word : Int} (enters : (Instruction.decode word).Enters) {n : Nat}
    (fewer : n < 0x10000)
    (between : Writes (s.execute word).1 t (stackBelow (s.execute word).1.registers.sp n))
    (sp : t.registers.sp = (s.execute word).1.registers.sp) :
    (t.execute returnWord).1.registers.pc = s.after (Instruction.decode word) ∧
      (t.execute returnWord).1.registers.sp = s.registers.sp ∧
      Writes s (t.execute returnWord).1 (stackBelow s.registers.sp (n + 1)) := by
  have pushed : (s.execute word).1.cell (s.execute word).1.registers.sp.address = s.after (Instruction.decode word) :=
    cell_perform_call s word enters.1
  have called := s.sp_execute_call enters
  refine ⟨?_, ?_, ?_⟩
  · have kept := between.cell_eq (not_mem_stackBelow _ fewer)
    rw [execute_return, registers_store_register, ← pushed, ← kept, sp]
    rfl
  · have popped : (t.execute returnWord).1.registers.sp = t.registers.sp + 1 := rfl
    rw [popped, sp, called, BitVec.sub_add_cancel]
  · have whole := ((s.writes_execute_call enters).trans between).trans t.writes_execute_return
    rwa [called, List.append_nil, List.singleton_append, ← stackBelow_succ] at whole

/-! ### Calls and returns in turn -/

/-- Executes words one after the other, up to the first that faults. -/
def executeAll (s : Space) : List Int → Space × Option Fault
  | [] => (s, none)
  | word :: rest =>
    match s.execute word with
    | (s, none) => s.executeAll rest
    | (s, some f) => (s, some f)

theorem executeAll_cons {s : Space} {word : Int} (completes : (s.execute word).2 = none) (rest : List Int) :
    s.executeAll (word :: rest) = (s.execute word).1.executeAll rest := by
  rw [executeAll]
  split
  next t heq => rw [heq]
  next t f heq =>
    rw [heq] at completes
    cases completes

theorem executeAll_append {s : Space} {words : List Int} (completes : (s.executeAll words).2 = none) (rest : List Int) :
    s.executeAll (words ++ rest) = (s.executeAll words).1.executeAll rest := by
  induction words generalizing s with
  | nil => rfl
  | cons word words ih =>
    cases h : (s.execute word).2 with
    | none =>
      rw [executeAll_cons h] at completes ⊢
      rw [List.cons_append, executeAll_cons h, ih completes]
    | some f =>
      have faults : (s.executeAll (word :: words)).2 = some f := by
        rw [executeAll]
        split
        next heq => rw [heq] at h; cases h
        next heq => rw [heq] at h; exact h
      rw [faults] at completes
      cases completes

theorem executeAll_calls_completes {calls : List Int} (enters : ∀ w ∈ calls, (Instruction.decode w).Enters) (s : Space) :
    (s.executeAll calls).2 = none := by
  induction calls generalizing s with
  | nil => rfl
  | cons call calls ih =>
    rw [executeAll_cons (s.execute_call_completes (enters _ (List.mem_cons_self ..)))]
    exact ih (fun w hw => enters w (List.mem_cons_of_mem _ hw)) _

/-- Calls followed by as many returns leave the stack as it was, and continue after the first call. -/
theorem executeAll_calls_returns {calls : List Int} (enters : ∀ w ∈ calls, (Instruction.decode w).Enters)
    (depth : calls.length ≤ 0x10000) (s : Space) :
    let t := s.executeAll (calls ++ List.replicate calls.length returnWord)
    t.2 = none ∧ t.1.registers.sp = s.registers.sp ∧ Writes s t.1 (stackBelow s.registers.sp calls.length) ∧
      ∀ call ∈ calls.head?, t.1.registers.pc = s.after (Instruction.decode call) := by
  induction calls generalizing s with
  | nil => exact ⟨rfl, rfl, Writes.refl s, by simp⟩
  | cons call calls ih =>
    have first := enters call (List.mem_cons_self ..)
    rw [List.length_cons] at depth
    obtain ⟨completes, sp, between, -⟩ :=
      ih (fun w hw => enters w (List.mem_cons_of_mem _ hw)) (by omega) (s.execute call).1
    -- the last return belongs to the first call
    have nested : s.executeAll (call :: calls ++ List.replicate (call :: calls).length returnWord) =
        ((s.execute call).1.executeAll (calls ++ List.replicate calls.length returnWord)).1.execute returnWord := by
      rw [List.length_cons, List.replicate_succ', ← List.append_assoc, List.cons_append, List.cons_append,
        executeAll_cons (s.execute_call_completes first), executeAll_append completes]
      rfl
    rw [← sp] at between
    obtain ⟨pc, top, writes⟩ := execute_call_return first (by omega) (sp ▸ between) sp
    rw [nested]
    refine ⟨rfl, top, writes, fun w hw => ?_⟩
    cases hw
    exact pc

/-- **Calls nest and return correctly.** Let words be executed that are calls, at most `0x10000`, of which none pops or
pushes its operand, and then as many returns. No word faults. When as many returns are left as there are calls before the
`i`-th, counted from zero, the program counter is one past that call: at the address it had just before that call, plus
the size of the call. After the last return the registers other than the program counter are what they were before the
first call; the writes that were recorded went to the cells below the top of the stack, one for each call in turn, and no
other cell has changed. -/
theorem calls_return (s : Space) {calls : List Int} (enters : ∀ w ∈ calls, (Instruction.decode w).Enters)
    (depth : calls.length ≤ 0x10000) :
    (∀ (i : Nat) (hi : i < calls.length),
      let t := s.executeAll (calls ++ List.replicate (calls.length - i) returnWord)
      let before := (s.executeAll (calls.take i)).1
      t.2 = none ∧
        t.1.registers.pc.address = (before.registers.pc.address + (Instruction.decode calls[i]).size) % 0x10000) ∧
    let t := s.executeAll (calls ++ List.replicate calls.length returnWord)
    t.2 = none ∧ (∀ r, r ≠ .PC → t.1.registers.get r = s.registers.get r) ∧
      (∃ es, t.1.log = s.log ++ es ∧ es.filterMap Access.written? = stackBelow s.registers.sp calls.length) ∧
      ∀ a, a ∉ stackBelow s.registers.sp calls.length → t.1.cells[a]? = s.cells[a]? := by
  refine ⟨fun i hi => ?_, ?_⟩
  · intro t before
    have earlier : ∀ w ∈ calls.take i, (Instruction.decode w).Enters := fun w hw => enters w (List.mem_of_mem_take hw)
    have later : ∀ w ∈ calls.drop i, (Instruction.decode w).Enters := fun w hw => enters w (List.mem_of_mem_drop hw)
    have split : t = before.executeAll (calls.drop i ++ List.replicate (calls.drop i).length returnWord) := by
      rw [List.length_drop, ← executeAll_append (executeAll_calls_completes earlier s), ← List.append_assoc,
        List.take_append_drop]
    have left : (calls.drop i).length ≤ 0x10000 := by
      rw [List.length_drop]
      omega
    obtain ⟨completes, -, -, continues⟩ := executeAll_calls_returns later left before
    rw [← split] at completes continues
    have head : calls[i] ∈ (calls.drop i).head? := by
      rw [List.head?_drop]
      exact List.getElem?_eq_getElem hi
    refine ⟨completes, ?_⟩
    rw [continues _ head]
    exact before.address_after _
  · obtain ⟨completes, sp, writes, -⟩ := executeAll_calls_returns enters depth s
    refine ⟨completes, fun r pc => ?_, writes.log, writes.cells⟩
    by_cases hr : r = .SP
    · rw [hr]
      exact sp
    · exact writes.registers r pc hr

/-- Three calls from the address `0x10`, to the next word, to a small number and to register `A`, with the stack coming
around past `0`; the second return continues after the second call. -/
theorem calls_return_around_zero :
    let s : Space := Space.load { registers := { a := 0x300, sp := 1, pc := 0x10 } } 0x11 0x200
    let calls : List Int := [0x7C10, 0x9410, 0x0010]
    (∀ w ∈ calls, (Instruction.decode w).Enters) ∧ calls.length ≤ 0x10000 ∧
      (s.executeAll calls).1.registers.pc = 0x300 ∧
      (s.executeAll (calls ++ [returnWord, returnWord])).1.registers.pc.address = 0x201 ∧
      (∃ es, (s.executeAll (calls ++ [returnWord, returnWord, returnWord])).1.log = es ∧
        es.filterMap Access.written? = [0, 0xFFFF, 0xFFFE]) ∧
      (s.executeAll (calls ++ [returnWord, returnWord, returnWord])).1.registers.get .SP = 1 := by
  intro s calls
  have enters : ∀ w ∈ calls, (Instruction.decode w).Enters := by decide
  obtain ⟨returns, -, registers, ⟨es, log, written⟩, -⟩ := s.calls_return enters (by decide)
  obtain ⟨-, second⟩ := returns 1 (by decide)
  have after_second : ((s.executeAll (calls.take 1)).1.registers.pc.address + (Instruction.decode 0x9410).size) % 0x10000 =
      0x201 := by decide
  have below : stackBelow 1 3 = [0, 0xFFFF, 0xFFFE] := by decide
  exact ⟨enters, by decide, by decide, second.trans after_second, ⟨es, log, written.trans below⟩,
    registers .SP (by decide)⟩

end Space

end Dcpu16
