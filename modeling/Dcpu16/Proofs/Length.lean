import Dcpu16.Execute
import Dcpu16.Listing
import Dcpu16.Proofs.Resolution

/-!
The length of an instruction is the same however it is found. `Instruction.size` reads it off the fields, a
listing counts the words it shows (`length_operationAt`), and execution moves the program counter word by word
while it resolves the operands. An instruction that neither jumps nor skips ends on the word after its last
(`execute_continues`); a call pushes that address.
-/

namespace Dcpu16

/-! ### Moving the program counter -/

namespace Space

variable (s : Space)

theorem pc_advance (n : Nat) : (s.advance n).registers.pc = s.registers.pc + BitVec.ofNat 16 n := rfl

theorem get_setOverflow_of_ne {r : Register} (h : r ≠ .O) (o : Option Word) :
    (s.setOverflow o).registers.get r = s.registers.get r := by
  cases o with
  | none => rfl
  | some w => rw [setOverflow, registers_store_register, Registers.get_set, if_neg h]

theorem get_deliver_of_ne {l : Option Location} {r : Register} (h : l ≠ some (.register r)) (w : Word) :
    (s.deliver w l).registers.get r = s.registers.get r := by
  rcases l with _ | address | q
  · rfl
  · rfl
  · have other : r ≠ q := fun e => h (e ▸ rfl)
    rw [deliver, registers_store_register, Registers.get_set, if_neg other]

theorem pc_setOverflow (o : Option Word) : (s.setOverflow o).registers.pc = s.registers.pc :=
  s.get_setOverflow_of_ne (r := .PC) (by decide) o

theorem pc_deliver_of_ne {l : Option Location} (h : l ≠ some (.register .PC)) (w : Word) :
    (s.deliver w l).registers.pc = s.registers.pc :=
  s.get_deliver_of_ne h w

/-- The address of the word after an instruction that the program counter is on. -/
def after (i : Instruction) : Word := s.registers.pc + BitVec.ofNat 16 i.size

theorem address_after (i : Instruction) : (s.after i).address = (s.registers.pc.address + i.size) % 0x10000 :=
  Word.address_add_ofNat _ _

/-- After both operands the program counter is on the last word of the instruction. -/
theorem pc_operands (i : Instruction) : (s.operands i).2.registers.pc + 1 = s.after i := by
  rw [registers_operands, after, Instruction.size]
  simp only [Registers.resolved, BitVec.ofNat_add]
  ac_rfl

/-! ### Calls -/

theorem pushValue_eq (value : Int) :
    s.pushValue value = (s.store (.register .SP) (s.registers.sp - 1)).store
      (.cell (s.registers.sp - 1).address) (Word.ofInt value) := rfl

theorem cell_store_cell_self (address : Int) (w : Word) : (s.store (.cell address) w).cell address = w := by
  simpa [inspect] using inspect_store s (.cell address) (.cell address) w

theorem sp_pushValue (value : Int) : (s.pushValue value).registers.sp = s.registers.sp - 1 := rfl

/-- The pushed word is on top of the stack. -/
theorem cell_pushValue (value : Int) :
    (s.pushValue value).cell (s.pushValue value).registers.sp.address = Word.ofInt value := by
  rw [sp_pushValue, pushValue_eq, cell_store_cell_self]

theorem cell_store_register (r : Register) (w : Word) (address : Int) :
    (s.store (.register r) w).cell address = s.cell address := rfl

theorem sp_store_PC (w : Word) : (s.store (.register .PC) w).registers.sp = s.registers.sp := rfl

/-! ### Listings -/

theorem length_operationAt (address : Int) :
    (s.operationAt address).length = (Instruction.ofWord (s.cell address)).size := by
  have words (m : Mode) (w : Word) : (if m.takesWord then [w] else []).length = m.extraWords := by
    unfold Mode.extraWords
    cases m.takesWord <;> rfl
  rw [Operation.length, operationAt, List.length_append, words, words, Instruction.size, Nat.add_assoc]

/-! ### The program counter after an instruction -/

section Actions

variable {i : Instruction} (word : Int)

theorem location_operands_eq_PC_iff : (s.operands i).1.a.location = some (.register .PC) ↔ i.a = 0x1C :=
  (location_resolve_eq_PC_iff s i.modeA).trans (Mode.ofNat_eq_direct_PC_iff i.a)

theorem value_operands_of_PC (h : i.a = 0x1C) : (s.operands i).1.a.value = s.registers.pc := by
  have hm : i.modeA = .direct .PC := (Mode.ofNat_eq_direct_PC_iff i.a).2 h
  rw [operands_eq, hm]
  rfl

theorem pc_perform_set (hi : i.action = .set) :
    (s.perform i word).1.registers.pc = if i.a = 0x1C then (s.operands i).1.b.value else s.after i := by
  simp only [perform, hi, location_operands_eq_PC_iff]
  by_cases h : i.a = 0x1C
  · rw [if_pos h, if_pos h, (s.location_operands_eq_PC_iff).2 h]
    rfl
  · rw [if_neg h, if_neg h, pc_advance, pc_deliver_of_ne _ (mt (s.location_operands_eq_PC_iff).1 h)]
    exact s.pc_operands i

theorem exists_apply_of_completes {op : Operator} (hi : i.action = .compute op)
    (completes : (s.perform i word).2 = none) :
    ∃ out, op.apply (s.operands i).1.a.value (s.operands i).1.b.value = some out := by
  simp only [perform, hi] at completes
  split at completes
  next => cases completes
  next out hout => exact ⟨out, hout⟩

theorem perform_compute {op : Operator} {out : Outcome} (hi : i.action = .compute op)
    (hout : op.apply (s.operands i).1.a.value (s.operands i).1.b.value = some out) :
    (s.perform i word).1 =
      (((s.operands i).2.setOverflow out.overflow).deliver out.result (s.operands i).1.a.location).advance 1 := by
  simp only [perform, hi, hout]

theorem pc_perform_compute {op : Operator} {out : Outcome} (hi : i.action = .compute op)
    (hout : op.apply (s.operands i).1.a.value (s.operands i).1.b.value = some out) :
    (s.perform i word).1.registers.pc = if i.a = 0x1C then out.result + 1 else s.after i := by
  rw [s.perform_compute word hi hout, pc_advance]
  by_cases h : i.a = 0x1C
  · rw [if_pos h, (s.location_operands_eq_PC_iff).2 h]
    rfl
  · rw [if_neg h, pc_deliver_of_ne _ (mt (s.location_operands_eq_PC_iff).1 h), pc_setOverflow]
    exact s.pc_operands i

theorem pc_perform_test {t : Test} (hi : i.action = .test t)
    (holds : t.holds (s.operands i).1.a.value (s.operands i).1.b.value) :
    (s.perform i word).1.registers.pc = s.after i := by
  simp only [perform, hi, holds, if_true, pc_advance]
  exact s.pc_operands i

theorem perform_call (hi : i.action = .call) :
    (s.perform i word).1 = ((s.resolve i.modeB).2.pushValue ((s.resolve i.modeB).2.registers.pc.address + 1)).store
      (.register .PC) (s.resolve i.modeB).1.value := by
  simp only [perform, hi]

theorem pc_resolve_of_call (hi : i.action = .call) : (s.resolve i.modeB).2.registers.pc + 1 = s.after i := by
  rw [registers_resolve, after, Instruction.size, Instruction.modeA_of_call hi, BitVec.ofNat_add]
  simp only [Registers.resolved]
  ac_rfl

/-- A call leaves the address of the instruction after it on top of the stack. -/
theorem cell_perform_call (hi : i.action = .call) :
    (s.perform i word).1.cell (s.perform i word).1.registers.sp.address = s.after i := by
  rw [perform_call s word hi, sp_store_PC, cell_store_register, cell_pushValue, ← s.pc_resolve_of_call hi]
  exact Word.ofInt_address_add _ 1

theorem perform_undefined (hi : i.action = .undefined) :
    (s.perform i word).1 = s.advance (Instruction.decode word).size := by
  simp only [perform, hi]

end Actions

end Space

/-! ### Where execution continues -/

/-- **Where execution continues.** Let `next` be the address that lies the size of the instruction past the
program counter. A transfer or computation into the program counter continues at what was put there, which for a
computation is one past its result, and the left operand is then the address of the instruction itself; a call
continues at its operand and leaves `next` on top of the stack; a test that succeeds, an undefined instruction,
which changes nothing else, and every other transfer or computation continue at `next`. The instruction is as
long as a listing shows it. -/
theorem Space.execute_continues (s : Space) (word : Int) (completes : (s.execute word).2 = none) :
    let i := Instruction.decode word
    let next := (s.registers.pc.address + i.size) % 0x10000
    let a := (s.operands i).1.a.value
    let b := (s.operands i).1.b.value
    let t := (s.execute word).1
    (i.action = .set → t.registers.pc.address = if i.a = 0x1C then b.address else next) ∧
    (∀ op, i.action = .compute op →
      if i.a = 0x1C then
        ∃ out, op.apply s.registers.pc b = some out ∧ t.registers.pc.address = (out.result.address + 1) % 0x10000
      else t.registers.pc.address = next) ∧
    (∀ test, i.action = .test test → test.holds a b → t.registers.pc.address = next) ∧
    (i.action = .call →
      t.registers.pc = (s.resolve i.modeB).1.value ∧ (t.cell t.registers.sp.address).address = next) ∧
    (i.action = .undefined → t = s.store (.register .PC) t.registers.pc ∧ t.registers.pc.address = next) ∧
    ∀ (space : Space) (address : Int),
      (space.operationAt address).length = (Instruction.ofWord (space.cell address)).size := by
  intro i next a b t
  have hnext : (s.after i).address = next := s.address_after i
  refine ⟨fun hi => ?_, fun op hi => ?_, fun test hi holds => ?_, fun hi => ?_, fun hi => ?_,
    fun space address => space.length_operationAt address⟩
  · have ht : t.registers.pc = if i.a = 0x1C then b else s.after i := pc_perform_set s word hi
    by_cases h : i.a = 0x1C
    · rw [ht, if_pos h, if_pos h]
    · rw [ht, if_neg h, if_neg h, hnext]
  · obtain ⟨out, hout⟩ := exists_apply_of_completes s word hi completes
    have ht : t.registers.pc = if i.a = 0x1C then out.result + 1 else s.after i := pc_perform_compute s word hi hout
    by_cases h : i.a = 0x1C
    · rw [if_pos h]
      rw [value_operands_of_PC s h] at hout
      refine ⟨out, hout, ?_⟩
      rw [ht, if_pos h]
      exact Word.address_add_ofNat _ 1
    · rw [if_neg h, ht, if_neg h, hnext]
  · have ht : t.registers.pc = s.after i := pc_perform_test s word hi holds
    rw [ht, hnext]
  · have ht : t = _ := perform_call s word hi
    refine ⟨ht ▸ rfl, ?_⟩
    rw [← hnext]
    exact congrArg Word.address (cell_perform_call s word hi)
  · have ht : t = s.advance i.size := perform_undefined s word hi
    rw [ht, ← hnext]
    exact ⟨rfl, rfl⟩

/-- Adding the next word, which holds five, to the program counter at the last address of memory. -/
theorem execute_continues_add_PC :
    let s := ({ registers := { pc := 0xFFFF } } : Space).load 0x10000 5
    (s.execute 0x7DC2).2 = none ∧ ∃ out, Operator.add.apply 0xFFFF 5 = some out ∧
      (s.execute 0x7DC2).1.registers.pc.address = (out.result.address + 1) % 0x10000 := by
  intro s
  have completes : (s.execute 0x7DC2).2 = none := by decide
  obtain ⟨-, compute, -⟩ := s.execute_continues 0x7DC2 completes
  have h := compute .add (by decide)
  have five : (s.operands (.decode 0x7DC2)).1.b.value = 5 := by decide
  rw [if_pos (by decide), five] at h
  exact ⟨completes, h⟩

end Dcpu16
