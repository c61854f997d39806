import Dcpu16.Proofs.Display
import Dcpu16.Proofs.Length

/-!
Conditional instructions. A test that succeeds goes on at the instruction after the conditional one; a test that
fails goes on past that instruction, with nothing of it carried out. How far that is depends on the first word of the
skipped instruction, which is read at one past the program counter, wherever the policy puts that, while execution
would go on at the program counter plus one modulo `0x10000`. So the instruction whose length counts is the one that
would be executed next, unless that one is at `0` and the cells `0x10000` and `0` start instructions of different
lengths (`execute_skips`), which they cannot do under the wrap policy.
-/

namespace Dcpu16

/-! ### Skipping -/

theorem Instruction.size_le (i : Instruction) : i.size ≤ 3 := by
  have extra (m : Mode) : m.extraWords ≤ 1 := Bool.toNat_le m.takesWord
  have hA := extra i.modeA
  have hB := extra i.modeB
  unfold size
  omega

namespace Space

variable (s : Space)

theorem cells_skip : s.skip.cells = s.cells := rfl

theorem registers_skip_of_ne {r : Register} (h : r ≠ .PC) : s.skip.registers.get r = s.registers.get r := by
  show (s.registers.set .PC _).get r = _
  rw [Registers.get_set, if_neg h]

theorem pc_skip :
    s.skip.registers.pc =
      s.registers.pc + 1 + BitVec.ofNat 16 (Instruction.ofWord (s.cell (s.registers.pc.address + 1))).size := rfl

/-- The word after the one the program counter is on, by its address modulo `0x10000`. -/
theorem cell_pc_succ {next : Word} (h : s.registers.pc + 1 = next) :
    s.cell (s.registers.pc.address + 1) = s.cell (if next.address = 0 then 0x10000 else next.address) := by
  have hpc := s.registers.pc.address_lt
  have hpc' := s.registers.pc.address_nonneg
  have hnext : next.address = (s.registers.pc.address + 1) % 0x10000 := by
    rw [← h]
    exact Word.address_add_ofNat _ 1
  split
  next h0 =>
    have : s.registers.pc.address + 1 = 0x10000 := by omega
    rw [this]
  next h0 =>
    have : s.registers.pc.address + 1 = next.address := by omega
    rw [this]

/-! ### The operands of the conditional instruction -/

theorem cell_operands (i : Instruction) (address : Int) : (s.operands i).2.cell address = s.cell address := by
  rw [operands_eq, cell_resolve, cell_resolve]

section Test

variable {i : Instruction} {test : Test} (word : Int) (hi : i.action = .test test)

include hi

theorem perform_test_completes : (s.perform i word).2 = none := by
  simp only [perform, hi]

theorem perform_of_holds (holds : test.holds (s.operands i).1.a.value (s.operands i).1.b.value) :
    (s.perform i word).1 = (s.operands i).2.store (.register .PC) (s.after i) := by
  simp only [perform, hi, holds, if_true]
  rw [← s.pc_operands i]
  rfl

theorem perform_of_fails (fails : ¬ test.holds (s.operands i).1.a.value (s.operands i).1.b.value) :
    (s.perform i word).1 = (s.operands i).2.skip := by
  simp only [perform, hi, fails]
  rfl

end Test

/-- A skip ends past the instruction whose first word it has read. -/
theorem pc_skip_operands (i : Instruction) :
    (s.operands i).2.skip.registers.pc.address = ((s.after i).address + (Instruction.ofWord
      (s.cell (if (s.after i).address = 0 then 0x10000 else (s.after i).address))).size) % 0x10000 := by
  rw [pc_skip, cell_pc_succ _ (s.pc_operands i), cell_operands, s.pc_operands i]
  exact Word.address_add_ofNat _ _

end Space

theorem add_size_emod_eq_iff (next : Int) (i j : Instruction) :
    (next + i.size) % 0x10000 = (next + j.size) % 0x10000 ↔ i.size = j.size := by
  have hi := i.size_le
  have hj := j.size_le
  omega

/-! ### Conditional instructions -/

/-- **A failed test skips the instruction at which a successful one continues**, unless that one is at `0` and the
cell `0x10000`, which a skip reads there, starts an instruction of another length. Let `next` be the address past a
conditional instruction, and `v` the word that a fetch there returns. The instruction completes. A test that
succeeds leaves what resolving the operands left, at `next`. A test that fails leaves the same but for the program
counter, which is past an instruction of the length that the cell after the conditional instruction shows; that is
the length of `v` in all cases but the one named, so always under the wrap policy. -/
theorem Space.execute_skips (s : Space) (word : Int) {test : Test} (hi : (Instruction.decode word).action = .test test) :
    let i := Instruction.decode word
    let a := (s.operands i).1.a.value
    let b := (s.operands i).1.b.value
    let resolved := (s.operands i).2
    let next := (s.registers.pc.address + i.size) % 0x10000
    let v := (resolved.write (.register .PC) next).fetch.1
    let t := (s.execute word).1
    (s.execute word).2 = none ∧
    (test.holds a b → t = resolved.write (.register .PC) next) ∧
    (¬ test.holds a b →
      t.cells = resolved.cells ∧
      (∀ r, r ≠ .PC → t.registers.get r = resolved.registers.get r) ∧
      t.registers.pc.address =
        (next + (Instruction.ofWord (s.cell (if next = 0 then 0x10000 else next))).size) % 0x10000 ∧
      (t.registers.pc.address = (next + (Instruction.ofWord v).size) % 0x10000 ↔
        next ≠ 0 ∨
          (Instruction.ofWord (s.cell 0x10000)).size = (Instruction.ofWord (s.cell 0)).size) ∧
      (s.policy = .wrap → t.registers.pc.address = (next + (Instruction.ofWord v).size) % 0x10000)) := by
  intro i a b resolved next v t
  have hnext : (s.after i).address = next := s.address_after i
  have hword : Word.ofInt next = s.after i := by rw [← hnext, Word.ofInt_address]
  have hv : v = s.cell next := by
    show resolved.cell (Word.ofInt next).address = _
    rw [hword, hnext]
    exact s.cell_operands i next
  refine ⟨s.perform_test_completes word hi, fun holds => ?_, fun fails => ?_⟩
  · show _ = resolved.store (.register .PC) (Word.ofInt next)
    rw [hword]
    exact s.perform_of_holds word hi holds
  · have ht : t = resolved.skip := s.perform_of_fails word hi fails
    have hpc : t.registers.pc.address =
        (next + (Instruction.ofWord (s.cell (if next = 0 then 0x10000 else next))).size) % 0x10000 := by
      rw [ht, ← hnext]
      exact s.pc_skip_operands i
    have exactly : t.registers.pc.address = (next + (Instruction.ofWord v).size) % 0x10000 ↔
        next ≠ 0 ∨ (Instruction.ofWord (s.cell 0x10000)).size = (Instruction.ofWord (s.cell 0)).size := by
      rw [hpc, hv, add_size_emod_eq_iff]
      by_cases h : next = 0
      · rw [if_pos h, h]
        simp
      · rw [if_neg h]
        simp [h]
    refine ⟨?_, fun r hr => ?_, hpc, exactly, fun wrap => exactly.2 (Or.inr ?_)⟩
    · rw [ht, cells_skip]
    · rw [ht]
      exact resolved.registers_skip_of_ne hr
    · rw [Space.cell_eq, Space.cell_eq, wrap]
      rfl

/-- A test on two unequal registers skips an instruction of three words that starts at the last address. -/
theorem Space.execute_skips_across_end :
    let s := ({ registers := { a := 1, b := 2, pc := 0xFFFE } } : Space).loadWords [0x040C, 0x7DE1, 0x1000, 0x1234] 0xFFFE
    (Instruction.decode 0x040C).action = .test .equal ∧ (s.execute 0x040C).1.registers.pc.address = 2 ∧
      (s.execute 0x040C).1.registers.get .A = 1 := by
  intro s
  have conditional : (Instruction.decode 0x040C).action = .test .equal := by decide
  obtain ⟨-, -, skips⟩ := s.execute_skips 0x040C conditional
  obtain ⟨-, others, -, skipped, -⟩ := skips (by decide)
  refine ⟨conditional, ?_, others .A (by decide)⟩
  rw [skipped.2 (Or.inl (by decide))]
  decide

/-- Past the last address of a sparse memory a failed test skips an instruction of another length than the one at
which a successful test continues: at `0` an instruction of two words stands, and one word is skipped. -/
theorem Space.execute_skips_other_length :
    let s := ({ registers := { pc := 0xFFFF } } : Space).loadPairs [(0xFFFF, 0x000D), (0, 0x7C01)]
    let i := Instruction.decode 0x000D
    let next := (s.registers.pc.address + i.size) % 0x10000
    let v := ((s.operands i).2.write (.register .PC) next).fetch.1
    i.action = .test .different ∧ ¬ Test.different.holds (s.operands i).1.a.value (s.operands i).1.b.value ∧
      (next + (Instruction.ofWord v).size) % 0x10000 = 2 ∧ (s.execute 0x000D).1.registers.pc.address = 1 := by
  decide

end Dcpu16
