import Dcpu16.Action
import Dcpu16.Operand

/-!
Executing one instruction. The program counter is on the first word of the instruction when execution starts
and on the first word of the instruction to continue with when it ends. The overflow register is written before
the result, so a result stored into it prevails. Division by zero is the only fault; the effects of resolving
the operands remain after it.
-/

namespace Dcpu16

/-- A condition that ends execution. -/
inductive Fault where
  /-- The instruction word, as it was handed over, divided by zero; it stood at the given address. -/
  | divisionByZero (pc : Word) (word : Int)
  deriving DecidableEq, Repr

/-- Numbers in the message of a fault have a marker and fill six characters. -/
def faultStyle : Numeral.HexStyle := { width := 6, marker := ['0', 'x'] }

/-- The message of a fault. -/
def Fault.message : Fault → String
  | divisionByZero pc word =>
    "Division by zero at PC " ++ faultStyle.text pc.address ++ " (word " ++ faultStyle.text word ++ ")"

namespace Space

variable (s : Space)

/-- Moves the program counter on by a number of words. -/
def advance (words : Nat) : Space := s.store (.register .PC) (s.registers.pc + BitVec.ofNat 16 words)

/-- Sets the overflow register, if there is a value for it. -/
def setOverflow : Option Word → Space
  | none => s
  | some w => s.store (.register .O) w

/-- Stores a result; a literal takes none. -/
def deliver (w : Word) : Option Location → Space
  | none => s
  | some l => s.store l w

/-- Moves on from the last word of an instruction past the whole instruction after it, whose operands are not
resolved. -/
def skip : Space :=
  let pc := s.registers.pc
  let (next, s) := s.read (.cell (pc.address + 1))
  s.store (.register .PC) (pc + 1 + BitVec.ofNat 16 (Instruction.ofWord next).size)

/-- Carries out an instruction; `word` is the integer it was decoded from. An undefined instruction has its length taken
from that integer. -/
def perform (i : Instruction) (word : Int) : Space × Option Fault :=
  let pc := s.registers.pc
  match i.action with
  | .set =>
    let (o, s) := s.operands i
    let s := s.deliver o.b.value o.a.location
    (if o.a.location = some (.register .PC) then s else s.advance 1, none)
  | .compute op =>
    let (o, s) := s.operands i
    match op.apply o.a.value o.b.value with
    | none => (s, some (.divisionByZero pc word))
    | some out =>
      (((s.setOverflow out.overflow).deliver out.result o.a.location).advance 1, none)
  | .test t =>
    let (o, s) := s.operands i
    (if t.holds o.a.value o.b.value then s.advance 1 else s.skip, none)
  | .call =>
    let (target, s) := s.resolve i.modeB
    let s := s.pushValue (s.registers.pc.address + 1)
    (s.store (.register .PC) target.value, none)
  | .undefined => (s.advance (Instruction.decode word).size, none)

/-- Executes an instruction word, of which the low sixteen bits count. -/
def execute (word : Int) : Space × Option Fault := s.perform (.decode word) word

end Space

end Dcpu16
