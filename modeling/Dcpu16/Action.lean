import Dcpu16.Arithmetic
import Dcpu16.Instruction

/-!
What the opcode of an instruction asks for. Opcode zero is an escape: its A field is a selector, which means a
call for the value one and nothing defined for any other value.
-/

namespace Dcpu16

/-- What an instruction does with its operands. -/
inductive Action where
  /-- Copy B to A. -/
  | set
  /-- Combine A and B and put the result into A. -/
  | compute (op : Operator)
  /-- Execute the next instruction only if a test of A and B succeeds. -/
  | test (t : Test)
  /-- Push the address of the next instruction and continue at B. -/
  | call
  /-- Nothing. -/
  | undefined
  deriving DecidableEq, Repr

/-- What an instruction asks for. -/
def Instruction.action (i : Instruction) : Action :=
  match i.opcode.toNat with
  | 0x0 => if i.a = 1 then .call else .undefined
  | 0x1 => .set
  | 0x2 => .compute .add
  | 0x3 => .compute .sub
  | 0x4 => .compute .mul
  | 0x5 => .compute .div
  | 0x6 => .compute .mod
  | 0x7 => .compute .shl
  | 0x8 => .compute .shr
  | 0x9 => .compute .and
  | 0xA => .compute .bor
  | 0xB => .compute .xor
  | 0xC => .test .equal
  | 0xD => .test .different
  | 0xE => .test .greater
  | _ => .test .common

namespace Action

/-- The name of an action in a listing. -/
def mnemonic : Action → String
  | set => "SET"
  | compute .add => "ADD"
  | compute .sub => "SUB"
  | compute .mul => "MUL"
  | compute .div => "DIV"
  | compute .mod => "MOD"
  | compute .shl => "SHL"
  | compute .shr => "SHR"
  | compute .and => "AND"
  | compute .bor => "BOR"
  | compute .xor => "XOR"
  | test .equal => "IFE"
  | test .different => "IFN"
  | test .greater => "IFG"
  | test .common => "IFB"
  | call => "JSR"
  | undefined => "UNKNOWN"

end Action

end Dcpu16
