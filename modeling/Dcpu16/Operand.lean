import Dcpu16.Instruction
import Dcpu16.Numeral.Digit
import Dcpu16.Space.Basic

/-!
Resolving operands. Resolution gives the value of an operand and the location an instruction may write to;
literals have a value only. Modes that take a program word move the program counter onto that word, and the
stack modes move the stack pointer, so the order of resolution is visible: operand A always comes first.
-/

namespace Dcpu16

/-- A resolved operand. -/
structure Operand where
  value : Word
  location : Option Location
  deriving DecidableEq, Repr

/-- An operand can be written to when it has a location. -/
def Operand.writable (o : Operand) : Bool := o.location.isSome

namespace Space

variable (s : Space)

/-- Reads the word after the one the program counter is on and moves the counter onto it. -/
def nextWord : Word × Space :=
  let (w, s) := s.read (.cell (s.registers.pc.address + 1))
  (w, s.increment (.register .PC))

/-- The operand in a cell. -/
def operandAt (address : Int) : Operand × Space :=
  let (w, s) := s.read (.cell address)
  (⟨w, some (.cell address)⟩, s)

/-- Resolves an addressing mode. A popped operand stays at the cell it was read from; a pushed one has the word
that was on top before and the new top as its location. -/
def resolve : Mode → Operand × Space
  | .direct r => (⟨s.registers.get r, some (.register r)⟩, s)
  | .indirect r => s.operandAt (s.registers.get r).address
  | .offset r =>
    let (w, s) := s.nextWord
    s.operandAt ((s.registers.get r).address + w.address)
  | .pop =>
    let (w, s') := s.pop
    (⟨w, some (.cell s.registers.sp.address)⟩, s')
  | .peek =>
    let (w, s) := s.peek
    (⟨w, some (.cell s.registers.sp.address)⟩, s)
  | .push =>
    let (w, s) := s.peek
    let (top, s) := s.push
    (⟨w, some (.cell top.address)⟩, s)
  | .absolute =>
    let (w, s) := s.nextWord
    s.operandAt w.address
  | .immediate =>
    let (w, s) := s.nextWord
    (⟨w, none⟩, s)
  | .literal n => (⟨BitVec.ofNat 16 n, none⟩, s)

/-- The operands of an instruction, A before B. -/
structure Operands where
  a : Operand
  b : Operand

/-- Resolves both operands of an instruction. -/
def operands (i : Instruction) : Operands × Space :=
  let (a, s) := s.resolve i.modeA
  let (b, s) := s.resolve i.modeB
  (⟨a, b⟩, s)

end Space

/-! ### Fields given as numbers -/

/-- Why a number is not an operand field. -/
inductive FieldError where
  | tooWide (field : Nat)
  | outOfRange
  deriving DecidableEq, Repr

/-- The message for a number that is not a field. -/
def FieldError.message : FieldError → String
  | tooWide field =>
    "Operand field " ++ Numeral.HexStyle.text { marker := ['0', 'x'] } field ++ " is wider than 6 bits."
  | outOfRange => "Operand field out of range"

/-- Resolves the operand of a field given as a number. -/
def Space.resolveField (s : Space) (field : Int) : Except FieldError (Operand × Space) :=
  if field > 0x3F then .error (.tooWide field.toNat)
  else
    match Mode.ofField? field with
    | none => .error .outOfRange
    | some m => .ok (s.resolve m)

end Dcpu16
