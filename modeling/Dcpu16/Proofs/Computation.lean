import Dcpu16.Proofs.Length
import Mathlib.Algebra.Group.Nat.Defs

/-!
What the arithmetic instructions compute, in numbers. A result and the overflow register hold the two halves of a double
word where one is needed: of a product, of a shift to the left, and, the other way round, of a shift to the right
(`Operator.Computes`). These laws hold for the words that the operands give, shift counts past the width of a word
included, and what is computed arrives at the location of operand A with the overflow register written before it
(`execute_computes`).
-/

namespace Dcpu16

/-! ### Halves of a double word -/

/-- The low and the high word of a number make up the number modulo `2 ^ 32`. -/
theorem Word.high_low (n : Nat) :
    0x10000 * (BitVec.ofNat 16 (n / 0x10000)).toNat + (BitVec.ofNat 16 n).toNat = n % 2 ^ 32 := by
  rw [BitVec.toNat_ofNat, BitVec.toNat_ofNat]
  omega

namespace Operator

variable (a b : Word)

/-- What an operator computes: `r` is the result for the operands `a` and `b`, and the overflow register holds `before`
before and `after` afterwards. -/
def Computes (op : Operator) (a b r before after : Word) : Prop :=
  match op with
  | add => after.toNat ≤ 1 ∧ r.toNat + 0x10000 * (1 - after.toNat) = a.toNat + b.toNat
  | sub => (r.toNat : Int) = (a.toNat - b.toNat : Int) % 0x10000 ∧ after = if b.toNat < a.toNat then 0xFFFF else 0
  | mul => 0x10000 * after.toNat + r.toNat = a.toNat * b.toNat
  | div => 0 < b.toNat ∧ r.toNat = a.toNat / b.toNat ∧ after = 0
  | mod => (r.toNat = if b.toNat = 0 then 0 else a.toNat - b.toNat * (a.toNat / b.toNat)) ∧ after = before
  | shl => 0x10000 * after.toNat + r.toNat = a.toNat * 2 ^ b.toNat % 2 ^ 32
  | shr => 0x10000 * r.toNat + after.toNat = a.toNat * 0x10000 / 2 ^ b.toNat
  | and => (∀ k, r.getLsbD k = (a.getLsbD k && b.getLsbD k)) ∧ after = before
  | bor => (∀ k, r.getLsbD k = (a.getLsbD k || b.getLsbD k)) ∧ after = before
  | xor => (∀ k, r.getLsbD k = (a.getLsbD k ^^ b.getLsbD k)) ∧ after = before

/-! ### One operator after the other -/

theorem add_computes :
    let after : Word := if a.toNat + b.toNat < 0x10000 then 1 else 0
    after.toNat ≤ 1 ∧ (a + b).toNat + 0x10000 * (1 - after.toNat) = a.toNat + b.toNat := by
  intro after
  have ha := a.isLt
  have hb := b.isLt
  rw [BitVec.toNat_add]
  by_cases fits : a.toNat + b.toNat < 0x10000
  · have flag : after.toNat = 1 := by simp only [after, fits, if_true]; rfl
    rw [flag]
    omega
  · have flag : after.toNat = 0 := by simp only [after, fits, if_false]; rfl
    rw [flag]
    omega

theorem sub_computes : ((a - b).toNat : Int) = (a.toNat - b.toNat : Int) % 0x10000 := by
  have hb := b.isLt
  rw [BitVec.toNat_sub]
  omega

theorem mul_computes :
    0x10000 * (BitVec.ofNat 16 (a.toNat * b.toNat / 0x10000)).toNat + (a * b).toNat = a.toNat * b.toNat := by
  -- a product of two words fits in a double word, so nothing is lost
  have below : a.toNat * b.toNat < 2 ^ 16 * 2 ^ 16 := Nat.mul_lt_mul'' a.isLt b.isLt
  have low : a * b = BitVec.ofNat 16 (a.toNat * b.toNat) := by
    apply BitVec.eq_of_toNat_eq
    rw [BitVec.toNat_mul, BitVec.toNat_ofNat]
  rw [low, Word.high_low]
  exact Nat.mod_eq_of_lt below

/-- A dividend is a single word, so the upper half that the overflow value is computed from is zero. -/
theorem div_computes : (a / b).toNat = a.toNat / b.toNat ∧ BitVec.ofNat 16 ((a.toNat >>> 16) / b.toNat) = 0 := by
  refine ⟨BitVec.toNat_udiv, ?_⟩
  rw [Nat.shiftRight_eq_div_pow, Nat.div_eq_of_lt a.isLt, Nat.zero_div]
  rfl

theorem mod_computes : (a % b).toNat = a.toNat - b.toNat * (a.toNat / b.toNat) := by
  rw [BitVec.toNat_umod, Nat.mod_def]

theorem shl_computes :
    0x10000 * (BitVec.ofNat 16 ((a.toNat <<< b.toNat) >>> 16)).toNat + (BitVec.ofNat 16 (a.toNat <<< b.toNat)).toNat =
      a.toNat * 2 ^ b.toNat % 2 ^ 32 := by
  rw [Nat.shiftRight_eq_div_pow, Nat.shiftLeft_eq]
  exact Word.high_low _

theorem shr_computes :
    0x10000 * (BitVec.ofNat 16 (a.toNat >>> b.toNat)).toNat +
      (BitVec.ofNat 16 ((a.toNat <<< 16) >>> b.toNat)).toNat = a.toNat * 0x10000 / 2 ^ b.toNat := by
  rw [Nat.shiftRight_eq_div_pow, Nat.shiftRight_eq_div_pow, Nat.shiftLeft_eq]
  have ha := a.isLt
  -- the upper half is the word shifted alone, which is no longer than a word
  have upper : a.toNat * 2 ^ 16 / 2 ^ b.toNat / 0x10000 = a.toNat / 2 ^ b.toNat := by
    rw [Nat.div_div_eq_div_mul, Nat.mul_comm (2 ^ b.toNat), ← Nat.div_div_eq_div_mul]
    exact congrArg (· / 2 ^ b.toNat) (Nat.mul_div_cancel _ (by decide))
  have short : a.toNat / 2 ^ b.toNat < 2 ^ 16 := Nat.lt_of_le_of_lt (Nat.div_le_self _ _) ha
  rw [BitVec.toNat_ofNat, BitVec.toNat_ofNat, Nat.mod_eq_of_lt short, ← upper]
  exact Nat.div_add_mod _ _

variable {a b}

/-- **Every operator computes what it stands for.** -/
theorem computes_of_apply {op : Operator} {out : Outcome} (h : op.apply a b = some out) (before : Word) :
    op.Computes a b out.result before (out.overflow.getD before) := by
  cases op with
  | add => cases h; exact add_computes a b
  | sub => cases h; exact ⟨sub_computes a b, rfl⟩
  | mul => cases h; exact mul_computes a b
  | div =>
    rw [apply] at h
    split at h
    · cases h
    next nonzero =>
      cases h
      exact ⟨Nat.pos_of_ne_zero fun zero => nonzero (BitVec.eq_of_toNat_eq zero), div_computes a b⟩
  | mod =>
    cases h
    refine ⟨?_, rfl⟩
    by_cases zero : b = 0
    · rw [if_pos zero, zero]; rfl
    · have nonzero : b.toNat ≠ 0 := fun h => zero (BitVec.eq_of_toNat_eq h)
      rw [if_neg zero, if_neg nonzero]
      exact mod_computes a b
  | shl => cases h; exact shl_computes a b
  | shr => cases h; exact shr_computes a b
  | and => cases h; exact ⟨fun k => BitVec.getLsbD_and, rfl⟩
  | bor => cases h; exact ⟨fun k => BitVec.getLsbD_or, rfl⟩
  | xor => cases h; exact ⟨fun k => BitVec.getLsbD_xor, rfl⟩

end Operator

/-! ### Where the result goes -/

namespace Space

variable (s : Space)

theorem inspect_store_register_of_ne {l : Location} {r : Register} (h : l ≠ .register r) (w : Word) :
    (s.store (.register r) w).inspect l = s.inspect l := by
  rw [inspect_store, if_neg]
  cases l with
  | cell address => exact fun e => by cases e
  | register q => exact h

theorem inspect_deliver (w : Word) (l : Location) : (s.deliver w (some l)).inspect l = w := by
  rw [deliver, inspect_store, if_pos rfl]

theorem o_setOverflow (o : Option Word) : (s.setOverflow o).registers.o = o.getD s.registers.o := by
  cases o <;> rfl

theorem get_advance_of_ne {r : Register} (h : r ≠ .PC) (n : Nat) : (s.advance n).registers.get r = s.registers.get r := by
  rw [advance, registers_store_register, Registers.get_set, if_neg h]

theorem cells_setOverflow (o : Option Word) : (s.setOverflow o).cells = s.cells := by
  cases o <;> rfl

/-- **Exact arithmetic.** Let an instruction that computes complete. There are a result and a value for the overflow
register that are what its operator computes from the operands. The result is left at the location of operand A, the
overflow register included, unless that is the program counter; without a location nothing is stored. If the location is
not the overflow register, this register holds its value. -/
theorem execute_computes (word : Int) {op : Operator} (hi : (Instruction.decode word).action = .compute op)
    (completes : (s.execute word).2 = none) :
    let operands := (s.operands (.decode word)).1
    let resolved := (s.operands (.decode word)).2
    let t := (s.execute word).1
    ∃ r after : Word, op.Computes operands.a.value operands.b.value r s.registers.o after ∧
      (∀ l, operands.a.location = some l → l ≠ .register .PC → t.inspect l = r) ∧
      (operands.a.location = none →
        t.cells = resolved.cells ∧ ∀ q, q ≠ .PC → q ≠ .O → t.registers.get q = resolved.registers.get q) ∧
      (operands.a.location ≠ some (.register .O) → t.registers.o = after) := by
  intro operands resolved t
  obtain ⟨out, hout⟩ := exists_apply_of_completes s word hi completes
  have ht : t = ((resolved.setOverflow out.overflow).deliver out.result operands.a.location).advance 1 :=
    s.perform_compute word hi hout
  have before : resolved.registers.o = s.registers.o := by
    show (s.operands _).2.registers.o = _
    rw [registers_operands]
    rfl
  refine ⟨out.result, _, op.computes_of_apply hout _, fun l hl pc => ?_, fun literal => ?_, fun elsewhere => ?_⟩
  -- the overflow register is written first, so the result replaces it where that is the destination
  · rw [ht, hl, advance, inspect_store_register_of_ne _ pc, inspect_deliver]
  · rw [ht, literal]
    refine ⟨resolved.cells_setOverflow _, fun q pc o => ?_⟩
    rw [get_advance_of_ne _ pc]
    exact resolved.get_setOverflow_of_ne o _
  · show t.registers.get .O = _
    rw [ht, get_advance_of_ne _ (by decide), get_deliver_of_ne _ elsewhere, ← before]
    exact resolved.o_setOverflow _

/-- A shift to the left by more than the width of a word. -/
theorem execute_computes_shl :
    let s : Space := { registers := { a := 0x1234, b := 20 } }
    let t := (s.execute 0x0407).1
    (Instruction.decode 0x0407).action = .compute .shl ∧ (s.execute 0x0407).2 = none ∧
      0x10000 * t.registers.o.toNat + (t.inspect (.register .A)).toNat = 0x1234 * 2 ^ 20 % 2 ^ 32 := by
  intro s t
  have shl : (Instruction.decode 0x0407).action = .compute .shl := by decide
  have completes : (s.execute 0x0407).2 = none := by decide
  obtain ⟨r, after, computes, stored, -, overflow⟩ := s.execute_computes 0x0407 shl completes
  have result : t.inspect (.register .A) = r := stored (.register .A) (by decide) (by decide)
  have flag : t.registers.o = after := overflow (by decide)
  have operands : (s.operands (.decode 0x0407)).1.a.value = 0x1234 ∧ (s.operands (.decode 0x0407)).1.b.value = 20 := by
    decide
  rw [operands.1, operands.2] at computes
  rw [result, flag]
  exact ⟨shl, completes, computes⟩

end Space

end Dcpu16
