import Dcpu16.Execute
import Dcpu16.Listing
import Dcpu16.Table

/-!
The machine: an address space with a count of completed instructions, a table of symbols for labels and a flag
that says whether a run is going on. One step empties the pending log, fetches the word the program counter
names, describes the instruction as memory shows it before execution, executes it and gives a snapshot with
everything that was accessed.
-/

namespace Dcpu16

/-- A machine with its memory, registers and history. -/
structure Machine where
  space : Space := {}
  stepCount : Nat := 0
  symbols : Table Int := ∅
  running : Bool := false

/-- What one completed step shows. -/
structure Snapshot where
  registers : Registers
  operation : Operation
  stepCount : Nat
  label : Text
  activity : List Access
  deriving DecidableEq, Repr

namespace Machine

variable (m : Machine)

/-! ### Registers -/

/-- Writes to a location of the machine. -/
def write (l : Location) (value : Int) : Machine := { m with space := m.space.write l value }

/-- Sets every register to zero but the program counter, and the count of instructions to zero. Memory stays. -/
def reset (start : Int) : Machine :=
  { m with
    space := { m.space with registers := { pc := Word.ofInt start } }
    stepCount := 0 }

/-- Puts saved registers back. -/
def restore (saved : Registers) : Machine := { m with space := { m.space with registers := saved } }

/-- Puts back the two registers that every machine has, the program counter and the stack pointer. -/
def restoreBase (pc sp : Int) : Machine := (m.write (.register .PC) pc).write (.register .SP) sp

/-! ### Labels -/

/-- The label of an address, which is the last symbol with that address. -/
def label (address : Int) : Text := (m.symbols.lastName? (· == address)).getD []

/-- The text of an instruction behind the label of its address. -/
def describe (address : Int) (op : Operation) : Text :=
  let label := m.label address
  (if label = [] then [] else label ++ Text.ofString ": ") ++ Text.ofString op.text

/-! ### Stepping -/

/-- Executes one instruction. After a fault the effects of the instruction up to the fault remain, with their
records pending, and the count of instructions stays. -/
def step : Machine × Except Fault Snapshot :=
  let pc := m.space.registers.pc
  let (word, space) := m.space.clearLog.dereference (.register .PC)
  let operation := space.operationAt pc.address
  match space.execute word.address with
  | (space, some fault) => ({ m with space }, .error fault)
  | (space, none) =>
    let (activity, space) := space.drain
    let stepCount := m.stepCount + 1
    ({ m with space, stepCount },
      .ok { registers := space.registers, operation, stepCount, label := m.describe pc.address operation,
            activity })

/-- Asks the run that is going on to end. -/
def stop : Machine := { m with running := false }

end Machine

end Dcpu16
