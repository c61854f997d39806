import Dcpu16.Proofs.Calls
import Dcpu16.Proofs.Computation
import Dcpu16.Proofs.Skip

/-!
The frame of an instruction: what it leaves alone. Resolving the operands moves the two pointers and reads; what is left
to do is the same for all instructions that complete, up to parts that are missing: to set the overflow register, to store
one word and to set the program counter (`Effect`). So a case of the opcode only says which of these parts there are
(`exists_effect`), and what follows is read off the effect: at most one location but for the program counter, the stack
pointer and the overflow register changes, and at most one write is recorded, after all reads (`execute_frame`).
-/

namespace Dcpu16

/-! ### Opcodes -/

/-- The opcode of the instructions that ask for an action. -/
def Action.opcode : Action → Nat
  | call | undefined => 0x0
  | set => 0x1
  | compute .add => 0x2
  | compute .sub => 0x3
  | compute .mul => 0x4
  | compute .div => 0x5
  | compute .mod => 0x6
  | compute .shl => 0x7
  | compute .shr => 0x8
  | compute .and => 0x9
  | compute .bor => 0xA
  | compute .xor => 0xB
  | test .equal => 0xC
  | test .different => 0xD
  | test .greater => 0xE
  | test .common => 0xF

/-- What an action puts into operand A, and into the overflow register before that, for the values of its operands. -/
def Action.outcome? : Action → Word → Word → Option Outcome
  | set, _, b => some ⟨b, none⟩
  | compute op, a, b => op.apply a b
  | _, _, _ => none

namespace Instruction

variable (i : Instruction)

theorem toNat_opcode : i.opcode.toNat = i.action.opcode := by
  have := i.opcode.isLt
  unfold action
  split <;> try assumption
  · split <;> assumption
  · -- what is left is the last opcode
    show _ = 0xF
    grind

/-- Whether an instruction stores a result into operand A, as transfers and computations do. -/
def Stores : Prop := 1 ≤ i.opcode.toNat ∧ i.opcode.toNat ≤ 0xB

instance : Decidable i.Stores := inferInstanceAs (Decidable (_ ∧ _))

theorem stores_iff : i.Stores ↔ i.action = .set ∨ ∃ op, i.action = .compute op := by
  unfold Stores
  rw [toNat_opcode]
  cases i.action with
  | set => simp [Action.opcode]
  | compute op => cases op <;> simp [Action.opcode]
  | test t => cases t <;> simp [Action.opcode]
  | call => simp [Action.opcode]
  | undefined => simp [Action.opcode]

/-- The fields of the operands that an instruction resolves: both, but only B for a call, and none for an undefined
instruction. -/
def operandFields : List (BitVec 6) := if i.opcode ≠ 0 then [i.a, i.b] else if i.a = 1 then [i.b] else []

/-- How far an instruction moves the stack pointer: up by one for every operand that pops, down by one for every operand
that pushes, and down by one for a call. -/
def stackMove : Int :=
  (i.operandFields.count 0x18 : Nat) - (i.operandFields.count 0x1A : Nat) - if i.action = .call then 1 else 0

theorem action_of_opcode_zero (h : i.opcode = 0) : i.action = if i.a = 1 then .call else .undefined := by
  rw [action, h]
  rfl

theorem operandFields_eq :
    i.operandFields = match i.action with
      | .call => [i.b]
      | .undefined => []
      | _ => [i.a, i.b] := by
  by_cases h : i.opcode = 0
  · rw [operandFields, if_neg (not_not.2 h), i.action_of_opcode_zero h]
    by_cases ha : i.a = 1
    · rw [if_pos ha, if_pos ha]
    · rw [if_neg ha, if_neg ha]
  · have nonzero : i.action.opcode ≠ 0 := by
      rw [← toNat_opcode]
      exact fun zero => h (BitVec.eq_of_toNat_eq zero)
    rw [operandFields, if_pos h]
    cases hi : i.action with
    | call | undefined => exact absurd (by rw [hi]; rfl) nonzero
    | set | compute _ | test _ => rfl

end Instruction

/-! ### The stack pointer -/

/-- Every operand that pops moves the stack pointer up, and every operand that pushes moves it down. -/
theorem address_add_stackShift (w : Word) (field : BitVec 6) :
    (w + (Mode.ofNat field.toNat).stackShift).address =
      (w.address + ([field].count 0x18 : Nat) - ([field].count 0x1A : Nat)) % 0x10000 := by
  have nonneg := w.address_nonneg
  have lt := w.address_lt
  rw [Mode.stackShift_ofNat]
  by_cases pop : field = 0x18
  · subst pop
    exact Word.address_add_ofNat w 1
  · by_cases push : field = 0x1A
    · subst push
      show (w + -1).address = _
      rw [← BitVec.sub_eq_add_neg, Word.address_sub_one]
      rfl
    · have still : w + 0 = w := BitVec.add_zero w
      rw [if_neg pop, if_neg push, still, List.count_singleton, List.count_singleton]
      simp only [beq_iff_eq, pop, push, if_false]
      omega

namespace Space

variable (s : Space) (i : Instruction)

theorem sp_resolve (m : Mode) : (s.resolve m).2.registers.sp = s.registers.sp + m.stackShift := by
  rw [registers_resolve]
  rfl

theorem address_sp_operands :
    (s.operands i).2.registers.sp.address =
      (s.registers.sp.address + ([i.a, i.b].count 0x18 : Nat) - ([i.a, i.b].count 0x1A : Nat)) % 0x10000 := by
  have both (field : BitVec 6) : [i.a, i.b].count field = [i.a].count field + [i.b].count field := by
    show ([i.a] ++ [i.b]).count field = _
    exact List.count_append
  rw [operands_eq, sp_resolve, sp_resolve, Instruction.modeA, Instruction.modeB, address_add_stackShift,
    address_add_stackShift, both, both]
  omega

theorem writes_operands : Writes s (s.operands i).2 [] := (Writes.resolve s i.modeA).trans (Writes.resolve _ i.modeB)

end Space

/-! ### Effects -/

/-- What is left to do for an instruction once its operands are resolved: to set the overflow register, to store a result
if there is a place for it, and to set the program counter. -/
structure Effect where
  overflow : Option Word := none
  result : Word := 0
  target : Option Location := none
  pc : Word

namespace Effect

/-- The space after an effect. -/
def apply (e : Effect) (s : Space) : Space :=
  ((s.setOverflow e.overflow).deliver e.result e.target).store (.register .PC) e.pc

variable (e : Effect) (s : Space)

theorem policy_apply : (e.apply s).policy = s.policy := by
  obtain ⟨_ | o, w, _ | l, pc⟩ := e <;> simp [apply, Space.setOverflow, Space.deliver]

theorem get_apply {r : Register} (hr : r ≠ .PC) :
    (e.apply s).registers.get r =
      if e.target = some (.register r) then e.result
      else if r = .O then e.overflow.getD s.registers.o else s.registers.get r := by
  rw [apply, Space.registers_store_register, Registers.get_set, if_neg hr]
  by_cases h : e.target = some (.register r)
  · rw [if_pos h, h]
    exact Registers.get_set_self _ _ _
  · rw [if_neg h, Space.get_deliver_of_ne _ h]
    by_cases o : r = .O
    · rw [if_pos o, o]
      exact s.o_setOverflow _
    · rw [if_neg o, Space.get_setOverflow_of_ne _ o]

theorem cells_apply :
    (e.apply s).cells = match e.target with
      | some (.cell address) => s.cells.insert (s.policy.normalize address) e.result
      | _ => s.cells := by
  obtain ⟨_ | o, w, _ | _ | r, pc⟩ := e <;> rfl

theorem target_of_cells_ne {k : Int} (changes : (e.apply s).cells[k]? ≠ s.cells[k]?) :
    ∃ address, e.target = some (.cell address) ∧ k = s.policy.normalize address := by
  rw [e.cells_apply s] at changes
  split at changes
  next address target =>
    refine ⟨address, target, by_contra fun other => changes ?_⟩
    rw [Std.ExtTreeMap.getElem?_insert, if_neg]
    simpa using Ne.symm other
  next => exact absurd rfl changes

theorem log_apply :
    (e.apply s).log = s.log ++ match e.target with
      | some (.cell address) => [.write (s.policy.normalize address) e.result (s.cell address)]
      | _ => [] := by
  obtain ⟨_ | o, w, _ | _ | r, pc⟩ := e <;> first | rfl | exact (List.append_nil _).symm

/-- An effect `e` on `u` completes an instruction that is executed on `s`: in `u` the operands are resolved, and for a call
there is room on the stack. -/
structure Completes (e : Effect) (s : Space) (i : Instruction) (u : Space) : Prop where
  resolved : Space.Writes s u []
  sp : u.registers.sp.address = (s.registers.sp.address + i.stackMove) % 0x10000
  overflow : e.overflow ≠ none →
    ∃ op ∈ [Operator.add, .sub, .mul, .div, .shl, .shr], i.action = .compute op
  stores : i.Stores →
    e.target = (s.operands i).1.a.location ∧
      ∃ out, i.action.outcome? (s.operands i).1.a.value (s.operands i).1.b.value = some out ∧ out.result = e.result
  calls : i.action = .call → e.target = some (.cell u.registers.sp.address)
  others : ¬ i.Stores → i.action ≠ .call → e.target = none

end Effect

namespace Space

variable (s : Space) {i : Instruction} (word : Int)

theorem address_sp_of_both (fields : i.operandFields = [i.a, i.b]) (call : i.action ≠ .call) :
    (s.operands i).2.registers.sp.address = (s.registers.sp.address + i.stackMove) % 0x10000 := by
  rw [Instruction.stackMove, fields, if_neg call, Int.sub_zero, ← Int.add_sub_assoc]
  exact s.address_sp_operands i

/-! ### One kind of action after the other -/

theorem overflow_of_outcome {x : Action} {a b : Word} {out : Outcome} (h : x.outcome? a b = some out)
    (overflow : out.overflow ≠ none) :
    ∃ op ∈ [Operator.add, .sub, .mul, .div, .shl, .shr], x = .compute op := by
  cases x with
  | set =>
    cases h
    exact absurd rfl overflow
  | compute op =>
    cases op with
    | mod | and | bor | xor =>
      cases h
      exact absurd rfl overflow
    | add | sub | mul | div | shl | shr => exact ⟨_, by decide, rfl⟩
  | test _ | call | undefined => cases h

/-- Transfers and computations that complete have an outcome. -/
theorem exists_outcome (stores : i.Stores) (completes : (s.perform i word).2 = none) :
    ∃ out, i.action.outcome? (s.operands i).1.a.value (s.operands i).1.b.value = some out := by
  rcases i.stores_iff.1 stores with hi | ⟨op, hi⟩
  · exact ⟨_, by rw [hi]; rfl⟩
  · obtain ⟨out, hout⟩ := s.exists_apply_of_completes word hi completes
    exact ⟨out, by rw [hi]; exact hout⟩

section Stores

variable {out : Outcome} (stores : i.Stores)
  (hout : i.action.outcome? (s.operands i).1.a.value (s.operands i).1.b.value = some out)

include stores hout

/-- The effect of a transfer or a computation. -/
theorem perform_of_outcome :
    (s.perform i word).1 = Effect.apply
      ⟨out.overflow, out.result, (s.operands i).1.a.location, (s.perform i word).1.registers.pc⟩ (s.operands i).2 := by
  rcases i.stores_iff.1 stores with hi | ⟨op, hi⟩
  · rw [hi] at hout
    cases hout
    simp only [perform, hi]
    -- a transfer to the program counter is the only one that does not move it on
    by_cases pc : (s.operands i).1.a.location = some (.register .PC)
    · rw [if_pos pc, pc]
      rfl
    · rw [if_neg pc]
      rfl
  · rw [hi] at hout
    rw [s.perform_compute word hi hout]
    rfl

theorem completes_of_outcome (pc : Word) :
    Effect.Completes ⟨out.overflow, out.result, (s.operands i).1.a.location, pc⟩ s i (s.operands i).2 := by
  have call : i.action ≠ .call := by
    rcases i.stores_iff.1 stores with hi | ⟨op, hi⟩ <;> rw [hi] <;> exact nofun
  have fields : i.operandFields = [i.a, i.b] := by
    rcases i.stores_iff.1 stores with hi | ⟨op, hi⟩ <;> rw [i.operandFields_eq, hi]
  exact ⟨s.writes_operands i, s.address_sp_of_both fields call, overflow_of_outcome hout, fun _ => ⟨rfl, out, hout, rfl⟩,
    fun h => absurd h call, fun h => absurd stores h⟩

end Stores

/-- The only effect of an instruction that stores nothing is on the program counter. -/
theorem completes_of_writes (stores : ¬ i.Stores) (call : i.action ≠ .call) {u : Space} (resolved : Writes s u [])
    (sp : u.registers.sp.address = (s.registers.sp.address + i.stackMove) % 0x10000) (pc : Word) :
    Effect.Completes { pc } s i u :=
  ⟨resolved, sp, absurd rfl, fun h => absurd h stores, fun h => absurd h call, fun _ _ => rfl⟩

/-- **An instruction that completes resolves its operands and has one effect.** -/
theorem exists_effect (completes : (s.perform i word).2 = none) :
    ∃ (u : Space) (e : Effect), e.Completes s i u ∧ (s.perform i word).1 = e.apply u := by
  by_cases stores : i.Stores
  · obtain ⟨out, hout⟩ := s.exists_outcome word stores completes
    exact ⟨_, _, s.completes_of_outcome stores hout _, s.perform_of_outcome word stores hout⟩
  cases hi : i.action with
  | set => exact absurd (i.stores_iff.2 (Or.inl hi)) stores
  | compute op => exact absurd (i.stores_iff.2 (Or.inr ⟨op, hi⟩)) stores
  | test t =>
    have fields : i.operandFields = [i.a, i.b] := by rw [i.operandFields_eq, hi]
    have call : i.action ≠ .call := by rw [hi]; exact nofun
    have sp := s.address_sp_of_both fields call
    by_cases holds : t.holds (s.operands i).1.a.value (s.operands i).1.b.value
    · exact ⟨_, _, s.completes_of_writes stores call (s.writes_operands i) sp _, s.perform_of_holds word hi holds⟩
    · -- a skip reads the word after the instruction first
      have touched (u : Space) (address : Int) : Writes u (u.touch (.cell address)) [] :=
        ⟨rfl, fun _ _ _ => rfl, ⟨_, rfl, rfl⟩, fun _ _ => rfl⟩
      exact ⟨_, _, s.completes_of_writes stores call ((s.writes_operands i).trans (touched _ _)) sp _,
        s.perform_of_fails word hi holds⟩
  | call =>
    have fields : i.operandFields = [i.b] := by rw [i.operandFields_eq, hi]
    have pushed : (s.perform i word).1 = _ := s.perform_call word hi
    rw [pushValue_eq] at pushed
    refine ⟨_, ⟨none, _, some (.cell _), _⟩, ⟨(Writes.resolve s i.modeB).trans (Writes.set _ (Or.inr rfl) _), ?_, absurd rfl,
      fun h => absurd h stores, fun _ => rfl, fun _ h => absurd hi h⟩, pushed⟩
    show ((s.resolve i.modeB).2.registers.sp - 1).address = _
    rw [Word.address_sub_one, sp_resolve, Instruction.modeB, address_add_stackShift, Instruction.stackMove, fields,
      if_pos hi]
    omega
  | undefined =>
    have fields : i.operandFields = [] := by rw [i.operandFields_eq, hi]
    have call : i.action ≠ .call := by rw [hi]; exact nofun
    refine ⟨_, _, s.completes_of_writes stores call (Writes.refl s) ?_ _, s.perform_undefined word hi⟩
    have nonneg := s.registers.sp.address_nonneg
    have lt := s.registers.sp.address_lt
    rw [Instruction.stackMove, fields, if_neg call, List.count_nil, List.count_nil]
    omega

end Space

/-! ### What an effect changes -/

namespace Effect.Completes

variable {e : Effect} {s u : Space} {i : Instruction} (h : e.Completes s i u)

include h

/-- The register that takes a result is the one that operand A names. -/
theorem target_eq_register_iff (r : Register) :
    e.target = some (.register r) ↔ i.Stores ∧ i.modeA = .direct r := by
  by_cases stores : i.Stores
  · rw [(h.stores stores).1, and_iff_right stores]
    exact s.location_resolve_eq_register_iff i.modeA r
  · by_cases call : i.action = .call
    · simp [stores, h.calls call]
    · simp [stores, h.others stores call]

/-- The cell that takes a word is the one at operand A, or the new top of the stack for a call. -/
theorem of_target_eq_cell {address : Int} (cell : e.target = some (.cell address)) :
    i.Stores ∧ (s.operands i).1.a.location = some (.cell address) ∨
      i.action = .call ∧ address = (e.apply u).registers.sp.address := by
  by_cases stores : i.Stores
  · exact Or.inl ⟨stores, (h.stores stores).1 ▸ cell⟩
  · by_cases call : i.action = .call
    · have top : (e.apply u).registers.get .SP = u.registers.sp := by
        rw [e.get_apply u (by decide), cell]
        rfl
      rw [h.calls call] at cell
      cases cell
      exact Or.inr ⟨call, congrArg Word.address top.symm⟩
    · rw [h.others stores call] at cell
      cases cell

/-- A register that takes no result keeps its value, but for the two pointers and the overflow register. -/
theorem get_eq {r : Register} (hr : r ∉ [Register.SP, .PC, .O]) (target : e.target ≠ some (.register r)) :
    (e.apply u).registers.get r = s.registers.get r := by
  simp only [List.mem_cons, List.not_mem_nil, or_false, not_or] at hr
  obtain ⟨sp, pc, o⟩ := hr
  rw [e.get_apply u pc, if_neg target, if_neg o]
  exact h.resolved.registers r pc sp

/-- The overflow register changes if there is a value for it, or if it takes the result. -/
theorem of_o_ne (changes : (e.apply u).registers.o ≠ s.registers.o) :
    (∃ op ∈ [Operator.add, .sub, .mul, .div, .shl, .shr], i.action = .compute op) ∨ i.Stores ∧ i.a = 0x1D := by
  by_cases target : e.target = some (.register .O)
  · obtain ⟨stores, mode⟩ := (h.target_eq_register_iff .O).1 target
    exact Or.inr ⟨stores, (Mode.ofNat_eq_direct_O_iff i.a).1 mode⟩
  · refine Or.inl (h.overflow fun none => changes ?_)
    show (e.apply u).registers.get .O = _
    rw [e.get_apply u (by decide), if_neg target, if_pos rfl, none]
    exact h.resolved.registers .O (by decide) (by decide)

theorem target_eq_sp_iff : e.target = some (.register .SP) ↔ i.Stores ∧ i.a = 0x1B := by
  rw [h.target_eq_register_iff, ← Mode.ofNat_eq_direct_SP_iff]
  rfl

/-- If the stack pointer is operand A, it takes the result. -/
theorem sp_eq_of_stored (stores : i.Stores) (sp : i.a = 0x1B) :
    ∃ out, i.action.outcome? (s.operands i).1.a.value (s.operands i).1.b.value = some out ∧
      (e.apply u).registers.sp = out.result := by
  obtain ⟨-, out, hout, result⟩ := h.stores stores
  have stored := e.get_apply u (r := .SP) (by decide)
  rw [if_pos (h.target_eq_sp_iff.2 ⟨stores, sp⟩), ← result] at stored
  exact ⟨out, hout, stored⟩

/-- Otherwise only the operands and a call move it. -/
theorem address_sp_eq (other : ¬ (i.Stores ∧ i.a = 0x1B)) :
    (e.apply u).registers.sp.address = (s.registers.sp.address + i.stackMove) % 0x10000 := by
  have moved := e.get_apply u (r := .SP) (by decide)
  rw [if_neg (mt h.target_eq_sp_iff.1 other)] at moved
  exact (congrArg Word.address moved).trans h.sp

theorem log_eq :
    ∃ reads, (e.apply u).log = s.log ++ (reads ++ match e.target with
        | some (.cell address) => [.write (u.policy.normalize address) e.result (u.cell address)]
        | _ => []) ∧
      ∀ entry ∈ reads, entry.written? = none := by
  obtain ⟨reads, log, none⟩ := h.resolved.log_of_nil
  exact ⟨reads, by rw [e.log_apply u, log, List.append_assoc], none⟩

end Effect.Completes

/-! ### The frame -/

/-- **The frame of an instruction.** Let an instruction complete. A register other than the stack pointer, the program
counter and the overflow register changes only if a transfer or a computation names it as operand A. The overflow register
changes only for the six operators that have a value for it, or as operand A of such an instruction. The stack pointer
moves up by one for every operand that pops and down by one for every operand that pushes and for a call, unless it is
operand A itself and takes the result. At most one cell changes: the one at operand A, or the top of the stack after a
call. What is recorded are reads and at most one write after them. If operand A is a literal, nothing is stored. -/
theorem Space.execute_frame (s : Space) (word : Int) (completes : (s.execute word).2 = none) :
    let i := Instruction.decode word
    let a := (s.operands i).1.a
    let b := (s.operands i).1.b
    let t := (s.execute word).1
    t.policy = s.policy ∧
    (∀ r, r ∉ [.SP, .PC, .O] → t.registers.get r ≠ s.registers.get r →
      i.Stores ∧ i.a.toNat < 8 ∧ r = .general i.a.toNat) ∧
    (t.registers.o ≠ s.registers.o →
      (∃ op ∈ [Operator.add, .sub, .mul, .div, .shl, .shr], i.action = .compute op) ∨ i.Stores ∧ i.a = 0x1D) ∧
    (if i.Stores ∧ i.a = 0x1B then
      ∃ out, i.action.outcome? a.value b.value = some out ∧ t.registers.sp = out.result
    else t.registers.sp.address = (s.registers.sp.address + i.stackMove) % 0x10000) ∧
    (∀ k, t.cells[k]? ≠ s.cells[k]? →
      (i.Stores ∧ ∃ address, a.location = some (.cell address) ∧ k = s.policy.normalize address) ∨
        i.action = .call ∧ k = s.policy.normalize t.registers.sp.address) ∧
    ∃ es, t.log = s.log ++ es ∧ (∀ e ∈ es.dropLast, e.written? = none) ∧
      (i.Stores → 0x1F ≤ i.a.toNat →
        a.location = none ∧ t.cells = s.cells ∧ (∀ r, r ∉ [.SP, .PC, .O] → t.registers.get r = s.registers.get r) ∧
          ∀ e ∈ es, e.written? = none) := by
  intro i a b t
  obtain ⟨u, e, h, ht⟩ := s.exists_effect word completes
  have ht : t = e.apply u := ht
  have policy : u.policy = s.policy := h.resolved.policy
  refine ⟨?_, fun r hr changes => ?_, fun changes => ?_, ?_, fun k changes => ?_, ?_⟩
  · rw [ht, e.policy_apply, policy]
  · by_cases target : e.target = some (.register r)
    · obtain ⟨stores, mode⟩ := (h.target_eq_register_iff r).1 target
      exact ⟨stores, Mode.field_of_ofNat_eq_direct hr mode⟩
    · exact absurd (ht ▸ h.get_eq hr target) changes
  · exact h.of_o_ne (ht ▸ changes)
  · rw [ht]
    split
    next stored => exact h.sp_eq_of_stored stored.1 stored.2
    next other => exact h.address_sp_eq other
  · obtain ⟨address, target, hk⟩ := e.target_of_cells_ne u (by rwa [h.resolved.cells_of_nil, ← ht])
    rw [policy] at hk
    rcases h.of_target_eq_cell target with ⟨stores, location⟩ | ⟨call, top⟩
    · exact Or.inl ⟨stores, address, location, hk⟩
    · exact Or.inr ⟨call, by rw [hk, top, ht]⟩
  · obtain ⟨reads, log, none⟩ := h.log_eq
    rw [← ht] at log
    refine ⟨_, log, fun entry mem => none entry ?_, fun stores literal => ?_⟩
    · split at mem
      · rwa [List.dropLast_concat] at mem
      · rw [List.append_nil] at mem
        exact List.dropLast_subset _ mem
    · have location : a.location = Option.none := (s.location_resolve_ofNat_eq_none_iff i.a).2 literal
      have target : e.target = Option.none := (h.stores stores).1.trans location
      refine ⟨location, ?_, fun r hr => ?_, ?_⟩
      · rw [ht, e.cells_apply u, target, h.resolved.cells_of_nil]
      · rw [ht]
        exact h.get_eq hr (by rw [target]; exact nofun)
      · rw [target, List.append_nil]
        exact none

/-- The sum of the top of the stack and the cell below it, computed for a pushed operand from a popped one. -/
theorem Space.execute_frame_push_pop :
    let s : Space := Space.loadPairs { registers := { sp := 0x10 } } [(0xF, 5), (0x10, 7)]
    let t := (s.execute 0x61A2).1
    (s.execute 0x61A2).2 = none ∧ t.registers.sp.address = 0x10 ∧ t.cell 0xF = 12 ∧
      (∀ k : Int, k ≠ 0xF → t.cells[k]? = s.cells[k]?) ∧
      ∀ r, r ∉ [Register.SP, .PC, .O] → t.registers.get r = s.registers.get r := by
  intro s t
  have completes : (s.execute 0x61A2).2 = none := by decide
  have location : (s.operands (.decode 0x61A2)).1.a.location = some (.cell 0xF) := by decide
  obtain ⟨-, registers, -, sp, cells, -⟩ := s.execute_frame 0x61A2 completes
  rw [if_neg (by decide)] at sp
  refine ⟨completes, sp.trans (by decide), by decide, fun k other => ?_, fun r hr => ?_⟩
  · by_contra changes
    rcases cells k changes with ⟨-, address, place, hk⟩ | ⟨call, -⟩
    · rw [location] at place
      cases place
      exact other hk
    · exact absurd call (by decide)
  · by_contra changes
    exact absurd (registers r hr changes).2.1 (by decide)

end Dcpu16
