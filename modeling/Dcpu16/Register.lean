import Dcpu16.Text.Case
import Dcpu16.Text.Quoted
import Dcpu16.Word

/-!
The eleven registers. Eight are general purpose and are selected by the low three bits of an operand field;
the stack pointer, the program counter and the overflow register have fields of their own. Where users write the name
of a register, the case of the letters does not count, but blanks do.
-/

namespace Dcpu16

/-- A register of the machine. -/
inductive Register where
  | A | B | C | X | Y | Z | I | J | SP | PC | O
  deriving DecidableEq, Repr

namespace Register

/-- All registers, in the order in which they are listed to the user. -/
def all : List Register := [A, B, C, X, Y, Z, I, J, SP, PC, O]

theorem mem_all (r : Register) : r ∈ all := by cases r <;> decide

/-- The name of a register, always in capitals. -/
def name : Register → String
  | A => "A"
  | B => "B"
  | C => "C"
  | X => "X"
  | Y => "Y"
  | Z => "Z"
  | I => "I"
  | J => "J"
  | SP => "SP"
  | PC => "PC"
  | O => "O"

/-- The register whose capital name is exactly the given text. -/
def named? (text : Text) : Option Register := all.find? fun r => Text.ofString r.name == text

/-- The general register that the low three bits of an operand field select. -/
def general (field : Nat) : Register :=
  match field % 8 with
  | 0 => A
  | 1 => B
  | 2 => C
  | 3 => X
  | 4 => Y
  | 5 => Z
  | 6 => I
  | _ => J

/-- The groups in which a display shows the registers; every register is sixteen bits wide. -/
def layout : List (String × List (Register × Nat)) :=
  [("General", [A, B, C, X, Y, Z, I, J].map (·, 16)), ("Special", [SP, PC, O].map (·, 16))]

/-! ### Names as users write them -/

/-- A name that no register has, in capitals. -/
structure NameError where
  capitals : Text
  deriving DecidableEq, Repr

/-- The message for a name that no register has. -/
def NameError.message (e : NameError) : String := e.capitals.quoted ++ " is not a valid Register"

/-- The register with a name. -/
def ofName (name : Text) : Except NameError Register :=
  let capitals := name.upper
  match named? capitals with
  | some r => .ok r
  | none => .error ⟨capitals⟩

end Register

/-! ### Contents -/

/-- The contents of the eleven registers. -/
structure Registers where
  a : Word := 0
  b : Word := 0
  c : Word := 0
  x : Word := 0
  y : Word := 0
  z : Word := 0
  i : Word := 0
  j : Word := 0
  sp : Word := 0
  pc : Word := 0
  o : Word := 0
  deriving DecidableEq, Repr

namespace Registers

/-- The contents of one register. -/
def get (rs : Registers) : Register → Word
  | .A => rs.a
  | .B => rs.b
  | .C => rs.c
  | .X => rs.x
  | .Y => rs.y
  | .Z => rs.z
  | .I => rs.i
  | .J => rs.j
  | .SP => rs.sp
  | .PC => rs.pc
  | .O => rs.o

/-- The registers after one of them takes a new value. -/
def set (rs : Registers) (r : Register) (w : Word) : Registers :=
  match r with
  | .A => { rs with a := w }
  | .B => { rs with b := w }
  | .C => { rs with c := w }
  | .X => { rs with x := w }
  | .Y => { rs with y := w }
  | .Z => { rs with z := w }
  | .I => { rs with i := w }
  | .J => { rs with j := w }
  | .SP => { rs with sp := w }
  | .PC => { rs with pc := w }
  | .O => { rs with o := w }

theorem get_set (rs : Registers) (r q : Register) (w : Word) :
    (rs.set r w).get q = if q = r then w else rs.get q := by
  cases r <;> cases q <;> rfl

@[simp] theorem get_set_self (rs : Registers) (r : Register) (w : Word) : (rs.set r w).get r = w := by
  simp [get_set]

theorem ext_get {rs qs : Registers} (h : ∀ r, rs.get r = qs.get r) : rs = qs := by
  cases rs
  cases qs
  simp only [mk.injEq]
  exact ⟨h .A, h .B, h .C, h .X, h .Y, h .Z, h .I, h .J, h .SP, h .PC, h .O⟩

/-- The contents of all registers in listing order. -/
def toList (rs : Registers) : List Word := Register.all.map rs.get

end Registers

end Dcpu16
