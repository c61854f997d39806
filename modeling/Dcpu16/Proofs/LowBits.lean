import Dcpu16.Proofs.Fault

/-!
Integers as instruction words. The low sixteen bits of an integer are cut into three fields without a bit lost or shared,
so the fields give back the integer up to a multiple of `0x10000` and nothing more (`decode_sum_fields`). What execution
leaves depends on the fields alone (`fst_perform`), and the integer itself is only quoted, by the fault of a division by
zero (`perform_faults`). So integers with the same low sixteen bits are the same instruction (`execute_low_bits`).
-/

namespace Dcpu16

/-! ### Fields -/

namespace Instruction

/-- The number that is put together from the fields of an instruction. -/
def sumFields (i : Instruction) : Int := i.opcode.toNat + 16 * i.a.toNat + 1024 * i.b.toNat

theorem address_toWord (i : Instruction) : i.toWord.address = i.sumFields := by
  rw [Word.address, toNat_toWord, sumFields]
  omega

theorem sumFields_decode (word : Int) : (decode word).sumFields = word % 0x10000 := by
  rw [← address_toWord, decode, toWord_ofWord]
  exact Word.toNat_ofInt word

theorem decode_sum_fields (i : Instruction) (k : Int) : decode (i.sumFields + 0x10000 * k) = i := by
  have low : Word.ofInt (i.sumFields + 0x10000 * k) = i.toWord := by
    rw [← Word.ofInt_address i.toWord, address_toWord, Word.ofInt_eq_iff, Int.add_mul_emod_self_left]
  rw [decode, low, ofWord_toWord]

/-- Numbers that fit the fields are read back. -/
theorem fields_decode {opcode a b : Nat} (hopcode : opcode ≤ 15) (ha : a ≤ 63) (hb : b ≤ 63) (k : Int) :
    let j := decode (opcode + 16 * a + 1024 * b + 0x10000 * k)
    j.opcode.toNat = opcode ∧ j.a.toNat = a ∧ j.b.toNat = b := by
  let i : Instruction := ⟨BitVec.ofNat 4 opcode, BitVec.ofNat 6 a, BitVec.ofNat 6 b⟩
  have opcode_eq : i.opcode.toNat = opcode := Nat.mod_eq_of_lt (by omega)
  have a_eq : i.a.toNat = a := Nat.mod_eq_of_lt (by omega)
  have b_eq : i.b.toNat = b := Nat.mod_eq_of_lt (by omega)
  have read := decode_sum_fields i k
  rw [sumFields, opcode_eq, a_eq, b_eq] at read
  intro j
  rw [show j = i from read]
  exact ⟨opcode_eq, a_eq, b_eq⟩

theorem decode_emod (word : Int) : decode (word % 0x10000) = decode word := by
  rw [decode, (Word.ofInt_eq_iff _ _).2 (Int.emod_emod_of_dvd word (by decide)), decode]

end Instruction

namespace Space

variable (s : Space)

/-! ### Execution -/

/-- What an instruction leaves depends on the integer that it was decoded from only through its fields. -/
theorem fst_perform (i : Instruction) {v w : Int} (fields : Instruction.decode v = Instruction.decode w) :
    (s.perform i v).1 = (s.perform i w).1 := by
  cases hi : i.action with
  | compute op =>
    simp only [perform, hi]
    cases op.apply (s.operands i).1.a.value (s.operands i).1.b.value <;> rfl
  | undefined => simp only [perform, hi, fields]
  | set | test _ | call => simp only [perform, hi]

/-- Whether an instruction is at fault does not depend on the integer that it was decoded from; a fault quotes it. -/
theorem perform_faults (i : Instruction) :
    (∀ word, (s.perform i word).2 = none) ∨ ∀ word, (s.perform i word).2 = some (.divisionByZero s.registers.pc word) := by
  by_cases zero : i.action = .compute .div ∧ (s.operands i).1.b.value = 0
  · exact Or.inr fun word => congrArg Prod.snd (s.perform_of_zero zero.1 zero.2)
  · exact Or.inl fun word => s.perform_completes zero

/-- **Only the low sixteen bits of an instruction word count.** The fields of any integer make up its remainder modulo
`0x10000`, and numbers that fit the fields are read back, whatever multiple of `0x10000` is added. Executing an integer or
its remainder leaves the same registers, cells and log. Both complete, or both divide by zero; the two faults name the same
address and each the number it was given, and their messages differ only where they show it. -/
theorem execute_low_bits (word : Int) :
    let i := Instruction.decode word
    let low := word % 0x10000
    (i.opcode.toNat ≤ 15 ∧ i.a.toNat ≤ 63 ∧ i.b.toNat ≤ 63 ∧
      (i.opcode.toNat + 16 * i.a.toNat + 1024 * i.b.toNat : Int) = low ∧ Instruction.decode low = i) ∧
    (∀ opcode a b : Nat, opcode ≤ 15 → a ≤ 63 → b ≤ 63 → ∀ k : Int,
      let j := Instruction.decode (opcode + 16 * a + 1024 * b + 0x10000 * k)
      j.opcode.toNat = opcode ∧ j.a.toNat = a ∧ j.b.toNat = b) ∧
    (s.execute word).1 = (s.execute low).1 ∧
    ((s.execute word).2 = none ∧ (s.execute low).2 = none ∨
      ∃ f g : Fault, (s.execute word).2 = some f ∧ (s.execute low).2 = some g ∧
        f = .divisionByZero s.registers.pc word ∧ g = .divisionByZero s.registers.pc low ∧
        ∃ before after, f.message = before ++ faultStyle.text word ++ after ∧
          g.message = before ++ faultStyle.text low ++ after) := by
  intro i low
  have decoded : Instruction.decode low = i := Instruction.decode_emod word
  have same : s.execute low = s.perform i low := by rw [execute, decoded]
  refine ⟨⟨?_, ?_, ?_, Instruction.sumFields_decode word, decoded⟩, fun _ _ _ => Instruction.fields_decode, ?_, ?_⟩
  · exact Nat.le_of_lt_succ i.opcode.isLt
  · exact Nat.le_of_lt_succ i.a.isLt
  · exact Nat.le_of_lt_succ i.b.isLt
  · rw [same]
    exact s.fst_perform i decoded.symm
  · rw [same]
    rcases s.perform_faults i with completes | faults
    · exact Or.inl ⟨completes word, completes low⟩
    · exact Or.inr ⟨_, _, faults word, faults low, rfl, rfl, _, _, rfl, rfl⟩

/-- A negative integer whose low sixteen bits are a division of one register by another one that holds zero. -/
theorem execute_low_bits_negative :
    let s : Space := { registers := { a := 9, pc := 4 } }
    (-0xFBFB : Int) % 0x10000 = 0x0405 ∧ (s.execute (-0xFBFB)).1 = (s.execute 0x0405).1 ∧
      (s.execute (-0xFBFB)).2 = some (.divisionByZero 4 (-0xFBFB)) ∧
      (s.execute 0x0405).2 = some (.divisionByZero 4 0x0405) ∧
      (Instruction.decode (5 + 16 * 0 + 1024 * 1 + 0x10000 * (-1))).opcode.toNat = 5 := by
  intro s
  obtain ⟨-, read, left, faults⟩ := s.execute_low_bits (-0xFBFB)
  have fields := read 5 0 1 (by decide) (by decide) (by decide) (-1)
  rcases faults with ⟨completes, -⟩ | ⟨f, g, hf, hg, rfl, rfl, -⟩
  · exact absurd completes (by decide)
  · exact ⟨by decide, left, hf, hg, fields.1⟩

end Space

end Dcpu16
