import Dcpu16.Register

/-!
Instruction words and their fields. The low four bits hold the opcode, the next six the field of operand A, the
high six the field of operand B. A field stands for an addressing mode, and three families of modes take one
more word of the program, so an instruction is one to three words long; its length is known without running it.
-/

namespace Dcpu16

/-! ### Addressing modes -/

/-- How an operand is found. -/
inductive Mode where
  /-- The register itself. -/
  | direct (r : Register)
  /-- The cell that a register names. -/
  | indirect (r : Register)
  /-- The cell at a register plus the next word. -/
  | offset (r : Register)
  /-- The top of the stack, which is removed. -/
  | pop
  /-- The top of the stack. -/
  | peek
  /-- A new top of the stack. -/
  | push
  /-- The cell that the next word names. -/
  | absolute
  /-- The next word. -/
  | immediate
  /-- A small number written in the field itself. -/
  | literal (n : Nat)
  deriving DecidableEq, Repr

namespace Mode

/-- The mode that a field number stands for. Numbers past `0x3F` do not fit in a field and only occur in
listings, where they count as literals too. -/
def ofNat (field : Nat) : Mode :=
  match field / 8 with
  | 0 => direct (.general field)
  | 1 => indirect (.general field)
  | 2 => offset (.general field)
  | 3 =>
    match field % 8 with
    | 0 => pop
    | 1 => peek
    | 2 => push
    | 3 => direct .SP
    | 4 => direct .PC
    | 5 => direct .O
    | 6 => absolute
    | _ => immediate
  | _ => literal (field - 0x20)

/-- The mode that an integer stands for as a field. The integers from `-8` to `-1` count the general registers
from the end; below them there is no mode. -/
def ofField? (field : Int) : Option Mode :=
  if field < -8 then none
  else if field < 0 then some (direct (.general (field + 8).toNat))
  else some (ofNat field.toNat)

/-- Whether a mode takes one more word of the program. -/
def takesWord : Mode → Bool
  | offset _ | absolute | immediate => true
  | _ => false

/-- The number of program words that a mode takes. -/
def extraWords (m : Mode) : Nat := m.takesWord.toNat

end Mode

/-! ### Instruction words -/

/-- The three fields of an instruction word. -/
structure Instruction where
  opcode : BitVec 4
  a : BitVec 6
  b : BitVec 6
  deriving DecidableEq, Repr

namespace Instruction

/-- The fields of a word. -/
def ofWord (w : Word) : Instruction := ⟨w.extractLsb' 0 4, w.extractLsb' 4 6, w.extractLsb' 10 6⟩

/-- The fields of the low sixteen bits of an integer. -/
def decode (word : Int) : Instruction := ofWord (Word.ofInt word)

/-- The word with the given fields. -/
def toWord (i : Instruction) : Word := BitVec.ofNat 16 (i.opcode.toNat + 16 * i.a.toNat + 1024 * i.b.toNat)

theorem toNat_toWord (i : Instruction) :
    i.toWord.toNat = i.opcode.toNat + 16 * i.a.toNat + 1024 * i.b.toNat := by
  have ho := i.opcode.isLt
  have ha := i.a.isLt
  have hb := i.b.isLt
  rw [toWord, BitVec.toNat_ofNat]
  omega

theorem ofWord_toWord (i : Instruction) : ofWord i.toWord = i := by
  obtain ⟨o, a, b⟩ := i
  have ho := o.isLt
  have ha := a.isLt
  have hb := b.isLt
  simp only [ofWord, mk.injEq]
  refine ⟨?_, ?_, ?_⟩ <;> apply BitVec.eq_of_toNat_eq <;>
    simp only [BitVec.extractLsb'_toNat, toNat_toWord, Nat.shiftRight_eq_div_pow] <;> omega

theorem toWord_ofWord (w : Word) : (ofWord w).toWord = w := by
  have hw := w.isLt
  apply BitVec.eq_of_toNat_eq
  rw [toNat_toWord]
  simp only [ofWord, BitVec.extractLsb'_toNat, Nat.shiftRight_eq_div_pow]
  omega

/-- The addressing mode of operand A. -/
def modeA (i : Instruction) : Mode := .ofNat i.a.toNat

/-- The addressing mode of operand B. -/
def modeB (i : Instruction) : Mode := .ofNat i.b.toNat

/-- The number of words an instruction occupies. -/
def size (i : Instruction) : Nat := 1 + i.modeA.extraWords + i.modeB.extraWords

end Instruction

end Dcpu16
