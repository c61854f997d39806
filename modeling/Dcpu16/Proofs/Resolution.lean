import Dcpu16.Action
import Dcpu16.Operand
import Dcpu16.Space.Lemmas

/-!
What resolving an operand does to a space. No cell changes; of the registers only the program counter and the
stack pointer move, by amounts that the addressing mode alone fixes (`registers_resolve`). The log grows by the
reads of `Space.readsFor`, of which the program word of the mode is always the first (`log_resolve`).
-/

namespace Dcpu16

/-! ### Modes -/

namespace Mode

/-- The six bits of a field always stand for a mode. -/
theorem ofField?_toNat (field : BitVec 6) : ofField? field.toNat = some (ofNat field.toNat) := by
  rw [ofField?, if_neg (by omega), if_neg (by omega), Int.toNat_natCast]

/-- How far resolving a mode moves the stack pointer. -/
def stackShift : Mode → Word
  | pop => 1
  | push => -1
  | _ => 0

theorem stackShift_ofNat (field : BitVec 6) :
    (Mode.ofNat field.toNat).stackShift = if field = 0x18 then 1 else if field = 0x1A then -1 else 0 := by
  revert field
  decide

theorem ofNat_eq_push_iff (field : BitVec 6) : Mode.ofNat field.toNat = .push ↔ field = 0x1A := by
  revert field
  decide

theorem ofNat_eq_direct_PC_iff (field : BitVec 6) : Mode.ofNat field.toNat = .direct .PC ↔ field = 0x1C := by
  revert field
  decide

theorem ofNat_eq_direct_SP_iff (field : BitVec 6) : Mode.ofNat field.toNat = .direct .SP ↔ field = 0x1B := by
  revert field
  decide

theorem ofNat_eq_direct_O_iff (field : BitVec 6) : Mode.ofNat field.toNat = .direct .O ↔ field = 0x1D := by
  revert field
  decide

/-- The other registers are named by the first eight fields. -/
theorem field_of_ofNat_eq_direct {field : BitVec 6} {r : Register} (hr : r ∉ [Register.SP, .PC, .O])
    (h : Mode.ofNat field.toNat = .direct r) : field.toNat < 8 ∧ r = .general field.toNat := by
  cases r with
  | SP | PC | O => exact absurd (by decide) hr
  | A | B | C | X | Y | Z | I | J =>
    revert field
    decide

/-- Whether a mode gives a location; the modes that do not are the literals. -/
def isPlace : Mode → Bool
  | immediate | literal _ => false
  | _ => true

theorem isPlace_ofNat (field : BitVec 6) : (Mode.ofNat field.toNat).isPlace = decide (field.toNat < 0x1F) := by
  revert field
  decide

end Mode

theorem Instruction.a_of_call {i : Instruction} (hi : i.action = .call) : i.a = 1 := by
  unfold Instruction.action at hi
  split at hi
  · split at hi
    · assumption
    · cases hi
  all_goals cases hi

/-- The selector of a call is the field of a register. -/
theorem Instruction.modeA_of_call {i : Instruction} (hi : i.action = .call) : i.modeA = .direct .B := by
  rw [Instruction.modeA, Instruction.a_of_call hi]
  rfl

/-- The registers after a mode was resolved. -/
def Registers.resolved (rs : Registers) (m : Mode) : Registers :=
  { rs with pc := rs.pc + BitVec.ofNat 16 m.extraWords, sp := rs.sp + m.stackShift }

namespace Space

variable (s : Space)

/-! ### The parts of a resolution -/

theorem nextWord_eq :
    s.nextWord = (s.cell (s.registers.pc.address + 1),
      (s.touch (.cell (s.registers.pc.address + 1))).store (.register .PC) (s.registers.pc + 1)) := rfl

theorem operandAt_eq (address : Int) :
    s.operandAt address = (⟨s.cell address, some (.cell address)⟩, s.touch (.cell address)) := rfl

theorem peek_eq :
    s.peek = (s.cell s.registers.sp.address, s.touch (.cell s.registers.sp.address)) := rfl

theorem pop_eq :
    s.pop = (s.cell s.registers.sp.address,
      (s.touch (.cell s.registers.sp.address)).store (.register .SP) (s.registers.sp + 1)) := rfl

theorem push_eq :
    s.push = (s.registers.sp - 1, s.store (.register .SP) (s.registers.sp - 1)) := rfl

/-! ### The effect on the registers and cells -/

@[simp] theorem policy_resolve (m : Mode) : (s.resolve m).2.policy = s.policy := by cases m <;> rfl

@[simp] theorem cells_resolve (m : Mode) : (s.resolve m).2.cells = s.cells := by cases m <;> rfl

theorem registers_resolve (m : Mode) : (s.resolve m).2.registers = s.registers.resolved m := by
  cases m <;> simp [resolve, nextWord_eq, operandAt_eq, peek_eq, pop_eq, push_eq, Registers.resolved,
    Mode.extraWords, Mode.takesWord, Mode.stackShift, Registers.set, BitVec.sub_eq_add_neg]

/-! ### The effect on the log -/

/-- The record of reading a cell. -/
def readAt (address : Int) : Access := .read (s.policy.normalize address) (s.cell address)

/-- The reads that resolving a mode records. -/
def readsFor : Mode → List Access
  | .direct _ | .literal _ => []
  | .indirect r => [s.readAt (s.registers.get r).address]
  | .offset r =>
    [s.readAt (s.registers.pc.address + 1),
      s.readAt ((s.nextWord.2.registers.get r).address + s.nextWord.1.address)]
  | .pop | .peek | .push => [s.readAt s.registers.sp.address]
  | .absolute => [s.readAt (s.registers.pc.address + 1), s.readAt s.nextWord.1.address]
  | .immediate => [s.readAt (s.registers.pc.address + 1)]

theorem log_operandAt (address : Int) : (s.operandAt address).2.log = s.log ++ [s.readAt address] := rfl

theorem log_nextWord : s.nextWord.2.log = s.log ++ [s.readAt (s.registers.pc.address + 1)] := rfl

theorem readAt_nextWord (address : Int) : s.nextWord.2.readAt address = s.readAt address := rfl

theorem log_resolve (m : Mode) : (s.resolve m).2.log = s.log ++ s.readsFor m := by
  cases m with
  | direct r => simp [resolve, readsFor]
  | literal n => simp [resolve, readsFor]
  | indirect r => rfl
  | offset r =>
    show (s.nextWord.2.operandAt _).2.log = _
    rw [log_operandAt, log_nextWord, readAt_nextWord, List.append_assoc]
    rfl
  | pop => rfl
  | peek => rfl
  | push => rfl
  | absolute =>
    show (s.nextWord.2.operandAt _).2.log = _
    rw [log_operandAt, log_nextWord, readAt_nextWord, List.append_assoc]
    rfl
  | immediate => rfl

/-- A mode that takes a program word reads that word first. -/
theorem take_readsFor (m : Mode) :
    (s.readsFor m).take m.extraWords = if m.takesWord then [s.readAt (s.registers.pc.address + 1)] else [] := by
  cases m <;> rfl

/-! ### Locations -/

theorem location_resolve_eq_register_iff (m : Mode) (r : Register) :
    (s.resolve m).1.location = some (.register r) ↔ m = .direct r := by
  cases m <;> simp [resolve, operandAt_eq]

theorem location_resolve_eq_PC_iff (m : Mode) :
    (s.resolve m).1.location = some (.register .PC) ↔ m = .direct .PC :=
  s.location_resolve_eq_register_iff m .PC

/-- The fields of literals give no location. -/
theorem location_resolve_ofNat_eq_none_iff (field : BitVec 6) :
    (s.resolve (.ofNat field.toNat)).1.location = none ↔ 0x1F ≤ field.toNat := by
  have place (m : Mode) : (s.resolve m).1.location.isSome = m.isPlace := by cases m <;> rfl
  rw [← Option.not_isSome_iff_eq_none, place, Mode.isPlace_ofNat, decide_eq_true_eq]
  exact Nat.not_lt

/-! ### Both operands -/

theorem operands_eq (i : Instruction) :
    s.operands i = (⟨(s.resolve i.modeA).1, ((s.resolve i.modeA).2.resolve i.modeB).1⟩,
      ((s.resolve i.modeA).2.resolve i.modeB).2) := rfl

theorem registers_operands (i : Instruction) :
    (s.operands i).2.registers = (s.registers.resolved i.modeA).resolved i.modeB := by
  rw [operands_eq, registers_resolve, registers_resolve]

end Space

end Dcpu16
