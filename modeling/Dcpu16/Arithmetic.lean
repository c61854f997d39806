import Dcpu16.Word

/-!
The arithmetic and logic unit. Each operator takes two unsigned words to a result and, for most operators, a
value for the overflow register. An addition that fits sets the overflow register to one and an addition that
carries sets it to zero; a difference sets it to `0xFFFF` exactly when it is positive. Division by zero has no
outcome, while the remainder by zero is zero.
-/

namespace Dcpu16

/-- An operator of the arithmetic and logic unit. -/
inductive Operator where
  | add | sub | mul | div | mod | shl | shr | and | bor | xor
  deriving DecidableEq, Repr

/-- What an operator computes. No overflow value means that the overflow register is left alone. -/
structure Outcome where
  result : Word
  overflow : Option Word := none
  deriving DecidableEq, Repr

namespace Operator

/-- The outcome of an operator on the words `a` and `b`, if there is one. -/
def apply (op : Operator) (a b : Word) : Option Outcome :=
  match op with
  | add => some ⟨a + b, some (if a.toNat + b.toNat < 0x10000 then 1 else 0)⟩
  | sub => some ⟨a - b, some (if b.toNat < a.toNat then 0xFFFF else 0)⟩
  | mul => some ⟨a * b, some (BitVec.ofNat 16 (a.toNat * b.toNat / 0x10000))⟩
  | div => if b = 0 then none else some ⟨a / b, some (BitVec.ofNat 16 ((a.toNat >>> 16) / b.toNat))⟩
  | mod => some ⟨if b = 0 then 0 else a % b, none⟩
  | shl =>
    let shifted := a.toNat <<< b.toNat
    some ⟨BitVec.ofNat 16 shifted, some (BitVec.ofNat 16 (shifted >>> 16))⟩
  | shr =>
    let shifted := (a.toNat <<< 16) >>> b.toNat
    some ⟨BitVec.ofNat 16 (a.toNat >>> b.toNat), some (BitVec.ofNat 16 shifted)⟩
  | and => some ⟨a &&& b, none⟩
  | bor => some ⟨a ||| b, none⟩
  | xor => some ⟨a ^^^ b, none⟩

theorem apply_eq_none_iff (op : Operator) (a b : Word) : op.apply a b = none ↔ op = div ∧ b = 0 := by
  cases op <;> simp [apply]

end Operator

/-- A test that a conditional instruction makes. -/
inductive Test where
  | equal | different | greater | common
  deriving DecidableEq, Repr

/-- Whether a test succeeds on the words `a` and `b`. -/
def Test.holds (t : Test) (a b : Word) : Bool :=
  match t with
  | equal => a == b
  | different => a != b
  | greater => decide (b.toNat < a.toNat)
  | common => a &&& b != 0

end Dcpu16
