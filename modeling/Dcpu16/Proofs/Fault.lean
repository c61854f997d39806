import Dcpu16.Proofs.Frame

/-!
Faults. Execution fails exactly when a word divides by zero (`perform_eq_some_iff`): the six bits of a field always stand
for an operand, and every opcode asks for an action. The divisor is found to be zero after both operands were resolved, so
what a fault leaves is the space in which they are. No cell is changed there, and the overflow register is what it was, but
the program counter is on the last word of the instruction and the stack pointer has followed the operands
(`execute_fails_iff`). So a division by zero can be repeated as it was only if its instruction is one word long
(`division_fault_keeps`).
-/

namespace Dcpu16

theorem Word.address_inj {v w : Word} : v.address = w.address ↔ v = w := by
  unfold address
  rw [Int.natCast_inj, BitVec.toNat_inj]

theorem Instruction.action_eq_div_iff (i : Instruction) : i.action = .compute .div ↔ i.opcode = 5 := by
  have opcode : i.opcode = 5 ↔ i.action.opcode = 5 := by
    rw [← toNat_opcode, ← BitVec.toNat_inj]
    rfl
  rw [opcode]
  cases i.action with
  | set | call | undefined => decide
  | compute op => cases op <;> decide
  | test t => cases t <;> decide

namespace Space

variable (s : Space)

/-- The six bits of a field always stand for an operand. -/
theorem resolveField_toNat (field : BitVec 6) : s.resolveField field.toNat = .ok (s.resolve (.ofNat field.toNat)) := by
  have lt := field.isLt
  have narrow : ¬ (field.toNat : Int) > 0x3F := by omega
  rw [resolveField, if_neg narrow, Mode.ofField?_toNat]

section Perform

variable {i : Instruction} {word : Int}

theorem perform_of_zero (div : i.action = .compute .div) (zero : (s.operands i).1.b.value = 0) :
    s.perform i word = ((s.operands i).2, some (.divisionByZero s.registers.pc word)) := by
  have none : Operator.div.apply (s.operands i).1.a.value (s.operands i).1.b.value = none :=
    (Operator.apply_eq_none_iff ..).2 ⟨rfl, zero⟩
  simp only [perform, div, none]

theorem perform_completes (h : ¬ (i.action = .compute .div ∧ (s.operands i).1.b.value = 0)) :
    (s.perform i word).2 = none := by
  cases hi : i.action with
  | compute op =>
    have some : op.apply (s.operands i).1.a.value (s.operands i).1.b.value ≠ none := by
      rw [Ne, Operator.apply_eq_none_iff]
      rintro ⟨rfl, zero⟩
      exact h ⟨hi, zero⟩
    obtain ⟨out, hout⟩ := Option.ne_none_iff_exists'.1 some
    simp only [perform, hi, hout]
  | set | test _ | call | undefined => simp only [perform, hi]

/-- **Division by zero is the only fault.** -/
theorem perform_eq_some_iff {f : Fault} :
    (s.perform i word).2 = some f ↔
      (i.action = .compute .div ∧ (s.operands i).1.b.value = 0) ∧ f = .divisionByZero s.registers.pc word := by
  by_cases h : i.action = .compute .div ∧ (s.operands i).1.b.value = 0
  · rw [s.perform_of_zero h.1 h.2, and_iff_right h, Option.some_inj, eq_comm]
  · rw [s.perform_completes h]
    exact ⟨nofun, fun ⟨zero, _⟩ => absurd zero h⟩

end Perform

/-! ### What resolving the operands leaves -/

theorem address_pc_operands (i : Instruction) :
    (s.operands i).2.registers.pc.address = (s.registers.pc.address + i.size - 1) % 0x10000 := by
  have pc : (s.operands i).2.registers.pc = s.after i - 1 := BitVec.eq_sub_iff_add_eq.2 (s.pc_operands i)
  rw [pc, Word.address_sub_one, address_after]
  omega

/-- **When and how execution fails.** The fields of an instruction are operands, and its opcode is that of its action.
Execution fails exactly if the opcode is that of a division and operand B, resolved after A, is zero; the fault names the
address of the instruction and the word as it was given. It leaves all cells and the registers other than the program
counter and the stack pointer. The program counter is on the last word of the instruction, the stack pointer has moved by
the operands that pop and push, and only reads were recorded. -/
theorem execute_fails_iff (word : Int) :
    let i := Instruction.decode word
    let t := (s.execute word).1
    (s.resolveField i.a.toNat = .ok (s.resolve i.modeA) ∧
      (s.resolve i.modeA).2.resolveField i.b.toNat = .ok ((s.resolve i.modeA).2.resolve i.modeB) ∧
      i.opcode.toNat = i.action.opcode) ∧
    ((s.execute word).2 ≠ none ↔ i.opcode = 5 ∧ (s.operands i).1.b.value = 0) ∧
    ∀ f, (s.execute word).2 = some f →
      f = .divisionByZero s.registers.pc word ∧
      t.policy = s.policy ∧ t.cells = s.cells ∧
      (∀ r, r ≠ .PC → r ≠ .SP → t.registers.get r = s.registers.get r) ∧
      t.registers.pc.address = (s.registers.pc.address + i.size - 1) % 0x10000 ∧
      t.registers.sp.address =
        (s.registers.sp.address + ([i.a, i.b].count 0x18 : Nat) - ([i.a, i.b].count 0x1A : Nat)) % 0x10000 ∧
      ∃ es, t.log = s.log ++ es ∧ ∀ e ∈ es, e.written? = none := by
  intro i t
  refine ⟨⟨s.resolveField_toNat i.a, resolveField_toNat _ i.b, i.toNat_opcode⟩, ?_, fun f hf => ?_⟩
  · have fails (f : Fault) : (s.execute word).2 = some f ↔ _ := s.perform_eq_some_iff
    rw [Option.ne_none_iff_exists', ← i.action_eq_div_iff]
    constructor
    · rintro ⟨f, hf⟩
      exact ((fails f).1 hf).1
    · exact fun h => ⟨_, (fails _).2 ⟨h, rfl⟩⟩
  · obtain ⟨⟨div, zero⟩, fault⟩ := s.perform_eq_some_iff.1 hf
    have ht : t = (s.operands i).2 := congrArg Prod.fst (s.perform_of_zero div zero)
    have writes := s.writes_operands i
    rw [ht]
    exact ⟨fault, writes.policy, writes.cells_of_nil, writes.registers, s.address_pc_operands i, s.address_sp_operands i,
      writes.log_of_nil⟩

/-- A division of the cell named by the next word by the top of the stack, which is removed. -/
theorem execute_fails_iff_pop :
    let s : Space := Space.loadPairs { registers := { sp := 0x20, pc := 4 } } [(5, 0x300), (0x300, 9)]
    let t := (s.execute 0x61E5).1
    (s.execute 0x61E5).2 = some (.divisionByZero 4 0x61E5) ∧ t.cells = s.cells ∧ t.registers.pc.address = 5 ∧
      t.registers.sp.address = 0x21 ∧ ∃ es, t.log = es ∧ ∀ e ∈ es, e.written? = none := by
  intro s t
  subst t
  obtain ⟨-, fails, left⟩ := s.execute_fails_iff 0x61E5
  obtain ⟨f, hf⟩ := Option.ne_none_iff_exists'.1 (fails.2 ⟨by decide, by decide⟩)
  obtain ⟨fault, -, cells, -, pc, sp, es, log, reads⟩ := left f hf
  exact ⟨hf.trans (congrArg some fault), cells, pc.trans (by decide), sp.trans (by decide), es, log, reads⟩

/-! ### Repeating a division -/

theorem pc_operands_eq_iff (i : Instruction) : (s.operands i).2.registers.pc = s.registers.pc ↔ i.size = 1 := by
  have nonneg := s.registers.pc.address_nonneg
  have lt := s.registers.pc.address_lt
  have short := i.size_le
  have long : 1 ≤ i.size := by
    rw [Instruction.size, Nat.add_assoc]
    exact Nat.le_add_right 1 _
  rw [← Word.address_inj, address_pc_operands]
  omega

/-- If the stack pointer is operand A itself, only operand B can move it. -/
theorem sp_operands_eq_iff {i : Instruction} (hA : i.a = 0x1B) :
    (s.operands i).2.registers.sp = s.registers.sp ↔ i.b ≠ 0x18 ∧ i.b ≠ 0x1A := by
  have still : s.registers.sp + (Mode.ofNat (0x1B : BitVec 6).toNat).stackShift = s.registers.sp := BitVec.add_zero _
  rw [operands_eq, sp_resolve, sp_resolve, Instruction.modeA, hA, still, Instruction.modeB, BitVec.add_right_eq_self,
    Mode.stackShift_ofNat]
  by_cases pop : i.b = 0x18
  · simp [pop]
  · by_cases push : i.b = 0x1A
    · simp [push]
    · rw [if_neg pop, if_neg push]
      exact ⟨fun _ => ⟨pop, push⟩, fun _ => rfl⟩

/-- What operand A names keeps its word unless it is a pointer that the operands move. -/
theorem inspect_operands_eq_iff {i : Instruction} {l : Location} (h : (s.operands i).1.a.location = some l) :
    (s.operands i).2.inspect l = s.inspect l ↔ (i.a = 0x1C → i.size = 1) ∧ (i.a = 0x1B → i.b ≠ 0x18 ∧ i.b ≠ 0x1A) := by
  have names {r : Register} {field : BitVec 6} (mode : Mode.ofNat i.a.toNat = .direct r ↔ i.a = field) :
      i.a = field ↔ l = .register r := by
    have hA : (s.resolve i.modeA).1.location = some l := h
    have named := s.location_resolve_eq_register_iff i.modeA r
    rw [hA, Option.some_inj] at named
    exact mode.symm.trans named.symm
  have namesSP := names (Mode.ofNat_eq_direct_SP_iff i.a)
  rw [names (Mode.ofNat_eq_direct_PC_iff i.a), namesSP]
  cases l with
  | cell address => exact iff_of_true (s.cell_operands i address) ⟨nofun, nofun⟩
  | register r =>
    by_cases pc : r = .PC
    · subst pc
      exact (s.pc_operands_eq_iff i).trans ⟨fun short => ⟨fun _ => short, nofun⟩, fun h => h.1 rfl⟩
    by_cases sp : r = .SP
    · subst sp
      exact (s.sp_operands_eq_iff (namesSP.2 rfl)).trans ⟨fun still => ⟨nofun, fun _ => still⟩, fun h => h.2 rfl⟩
    · have kept := (s.writes_operands i).registers r pc sp
      exact iff_of_true kept ⟨fun h => absurd (Location.register.inj h) pc, fun h => absurd (Location.register.inj h) sp⟩

/-- **What a division by zero keeps.** Let a division find operand B to be zero. It fails, and the overflow register is
what it was. The program counter is what it was exactly if the instruction is one word long. So is the word at the location
that operand A names, except that the program counter is not kept by a longer instruction, nor is the stack pointer if
operand B pops or pushes. The next fetch gives the last word of the instruction. -/
theorem division_fault_keeps (word : Int) (div : (Instruction.decode word).opcode = 5)
    (zero : (s.operands (.decode word)).1.b.value = 0) :
    let i := Instruction.decode word
    let t := (s.execute word).1
    (s.execute word).2 = some (.divisionByZero s.registers.pc word) ∧
    t.registers.o = s.registers.o ∧
    (t.registers.pc = s.registers.pc ↔ i.size = 1) ∧
    (∀ l, (s.operands i).1.a.location = some l →
      (t.inspect l = s.inspect l ↔ (i.a = 0x1C → i.size = 1) ∧ (i.a = 0x1B → i.b ≠ 0x18 ∧ i.b ≠ 0x1A))) ∧
    t.fetch.1 = s.cell ((s.registers.pc.address + i.size - 1) % 0x10000) ∧
    (i.size = 1 → t.fetch.1 = s.fetch.1) := by
  intro i t
  have executed : s.execute word = _ := s.perform_of_zero ((i.action_eq_div_iff).2 div) zero
  have ht : t = (s.operands i).2 := congrArg Prod.fst executed
  have fetched : t.fetch.1 = s.cell ((s.registers.pc.address + i.size - 1) % 0x10000) := by
    rw [← s.address_pc_operands i, ← s.cell_operands i, ht]
    rfl
  have pc : t.registers.pc = s.registers.pc ↔ i.size = 1 := by
    rw [ht]
    exact s.pc_operands_eq_iff i
  refine ⟨congrArg Prod.snd executed, ?_, pc, fun l hl => ?_, fetched, fun short => ?_⟩
  · rw [ht]
    exact (s.writes_operands i).registers .O (by decide) (by decide)
  · rw [ht]
    exact s.inspect_operands_eq_iff hl
  · show t.cell t.registers.pc.address = _
    rw [pc.2 short, ht, s.cell_operands i]
    rfl

/-- A division of the stack pointer by zero. If the divisor is in a register, the division can be repeated; if it is popped,
the stack pointer has changed. -/
theorem division_fault_keeps_sp :
    let s : Space := Space.loadPairs { registers := { sp := 0x20, pc := 4 } } [(4, 0x5B5)]
    (s.execute 0x5B5).1.registers.sp = 0x20 ∧ (s.execute 0x5B5).1.fetch.1 = 0x5B5 ∧
      (s.execute 0x61B5).1.registers.sp ≠ 0x20 := by
  intro s
  obtain ⟨-, -, -, kept, -, again⟩ := s.division_fault_keeps 0x5B5 (by decide) (by decide)
  obtain ⟨-, -, -, moved, -, -⟩ := s.division_fault_keeps 0x61B5 (by decide) (by decide)
  exact ⟨(kept (.register .SP) rfl).2 (by decide), (again (by decide)).trans (by decide),
    mt (moved (.register .SP) rfl).1 (by decide)⟩

/-- A division by a zero that is the next word leaves the program counter on that word. -/
theorem division_fault_moves_pc :
    let s : Space := Space.loadPairs {} [(0, 0x7C05), (1, 0)]
    (Instruction.decode 0x7C05).opcode = 5 ∧ (s.operands (.decode 0x7C05)).1.b.value = 0 ∧
      (s.execute 0x7C05).2 = some (.divisionByZero 0 0x7C05) ∧ s.registers.pc = 0 ∧
      (s.execute 0x7C05).1.registers.pc = 1 ∧ s.fetch.1 = 0x7C05 ∧ (s.execute 0x7C05).1.fetch.1 = 0 := by
  decide

end Space

end Dcpu16
