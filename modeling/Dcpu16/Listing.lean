import Dcpu16.Action
import Dcpu16.Numeral.Digit
import Dcpu16.Operand

/-!
Listings. An instruction is shown as its words in base sixteen and as a mnemonic with operands. Making a
listing only inspects memory: no operand is resolved, no register moves and nothing is recorded. After the first
word of an instruction, addresses count modulo `0x10000`.
-/

namespace Dcpu16

open Numeral (HexStyle)

/-! ### Numbers -/

/-- Words are shown with four capital digits. -/
def wordStyle : HexStyle := { width := 4, capital := true }

/-- Literals inside a field are shown with two capital digits. -/
def literalStyle : HexStyle := { width := 2, capital := true }

/-! ### Operands -/

/-- The text of an operand; `next` is the program word that goes with it, if its mode takes one. -/
def Mode.text (next : Int) : Mode → String
  | direct r => r.name
  | indirect r => "[" ++ r.name ++ "]"
  | offset r => "[0x" ++ wordStyle.text next ++ "+" ++ r.name ++ "]"
  | pop => "POP"
  | peek => "PEEK"
  | push => "PUSH"
  | absolute => "[0x" ++ wordStyle.text next ++ "]"
  | immediate => "0x" ++ wordStyle.text next
  | literal n => "0x" ++ literalStyle.text n

/-- Why a number cannot be shown as an operand. -/
inductive DisplayError where
  | outOfRange
  | missingWord
  deriving DecidableEq, Repr

/-- The text of the operand of a field given as a number. -/
def fieldText (field : Int) (next : Option Int) : Except DisplayError String :=
  match Mode.ofField? field with
  | none => .error .outOfRange
  | some m =>
    match next with
    | some w => .ok (m.text w)
    | none => if m.takesWord then .error .missingWord else .ok (m.text 0)

/-- Whether the mode of a field given as a number takes a program word. -/
def fieldTakesWord (field : Int) : Bool := (Mode.ofField? field).any Mode.takesWord

/-! ### Instructions -/

/-- An instruction as it is shown. -/
structure Operation where
  word : Word
  mnemonic : String
  operands : List String
  trailing : List Word
  deriving DecidableEq, Repr

namespace Operation

/-- The number of words shown. -/
def length (op : Operation) : Nat := 1 + op.trailing.length

/-- The instruction word in base sixteen. -/
def opcodeHex (op : Operation) : String := wordStyle.text op.word.address

/-- All words of the instruction in base sixteen, between blanks. -/
def hexWords (op : Operation) : String :=
  " ".intercalate ((op.word :: op.trailing).map fun w => wordStyle.text w.address)

/-- The mnemonic and the operands. -/
def text (op : Operation) : String :=
  match op.operands with
  | [] => op.mnemonic
  | operands => op.mnemonic ++ " " ++ ", ".intercalate operands

end Operation

namespace Space

variable (s : Space)

/-- The word that follows the one at `address` at a distance. -/
def following (address : Int) (distance : Nat) : Word := s.cell ((address + 1 + distance) % 0x10000)

/-- The instruction at an address as it is shown. An undefined instruction shows its selector as a number. -/
def operationAt (address : Int) : Operation :=
  let word := s.cell address
  let i := Instruction.ofWord word
  let wordA := s.following address 0
  let wordB := s.following address i.modeA.extraWords
  let textA := i.modeA.text wordA.address
  let textB := i.modeB.text wordB.address
  { word
    mnemonic := i.action.mnemonic
    operands :=
      match i.action with
      | .call => [textB]
      | .undefined => ["0x" ++ literalStyle.text i.a.toNat, textB]
      | _ => [textA, textB]
    trailing :=
      (if i.modeA.takesWord then [wordA] else []) ++ (if i.modeB.takesWord then [wordB] else []) }

end Space

/-! ### Listings -/

/-- A line of a listing. -/
structure Line where
  address : Int
  words : String
  text : String
  deriving DecidableEq, Repr

/-- The lines of the given number of instructions from an address on. -/
def Space.listing (s : Space) (start : Int) : Nat → List Line
  | 0 => []
  | count + 1 =>
    let op := s.operationAt start
    ⟨start, op.hexWords, op.text⟩ :: s.listing ((start + op.length) % 0x10000) count

end Dcpu16
