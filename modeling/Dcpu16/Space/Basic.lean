import Std.Data.ExtTreeMap
import Dcpu16.Register

/-!
The address space: memory cells named by integers, together with the registers. A cell that was never written
holds zero. Reading and writing a cell is recorded in a pending log; registers are read and written silently.
Every operation is total. Under the `wrap` policy an address counts only modulo `0x10000`; under the `sparse`
policy every integer, negative ones included, is an address of its own.

The stack grows downwards from the cell the stack pointer names. The pointer wraps around like any register, so after a
push from zero the top of the stack is the cell `0xFFFF`. Loading writes cells without a record, so a program is not part
of the history of its own execution; of several words for one cell the last one stays.
-/

namespace Dcpu16

/-- How the address of a cell is understood. -/
inductive Policy where
  | sparse
  | wrap
  deriving DecidableEq, Repr

namespace Policy

/-- The name of a policy in a machine description. -/
def name : Policy → String
  | sparse => "sparse"
  | wrap => "wrap"

/-- The policy whose name is exactly the given text. -/
def named? (text : Text) : Option Policy := [sparse, wrap].find? fun p => Text.ofString p.name == text

/-- The address of the cell that an integer names. -/
def normalize : Policy → Int → Int
  | sparse, address => address
  | wrap, address => address % 0x10000

@[simp] theorem normalize_sparse (a : Int) : sparse.normalize a = a := rfl

theorem normalize_wrap (a : Int) : wrap.normalize a = a % 0x10000 := rfl

@[simp] theorem normalize_normalize (p : Policy) (a : Int) : p.normalize (p.normalize a) = p.normalize a := by
  cases p <;> simp [normalize_wrap]

end Policy

/-- A place that holds a word: a memory cell or a register. -/
inductive Location where
  | cell (address : Int)
  | register (r : Register)
  deriving DecidableEq, Repr

/-- A recorded access to a cell. A write also keeps the word it replaced. -/
inductive Access where
  | read (address : Int) (data : Word)
  | write (address : Int) (data previous : Word)
  deriving DecidableEq, Repr

/-- The cells that were ever written, sorted by address. -/
abbrev Cells := Std.ExtTreeMap Int Word

/-- The state of memory and registers, with the accesses recorded since the log was last emptied. -/
structure Space where
  policy : Policy := .sparse
  cells : Cells := ∅
  registers : Registers := {}
  log : List Access := []

namespace Space

variable (s : Space)

/-! ### Reading -/

/-- The word in the cell that an address names. -/
def cell (address : Int) : Word := s.cells[s.policy.normalize address]?.getD 0

/-- The word at a location, read without a record. -/
def inspect : Location → Word
  | .cell address => s.cell address
  | .register r => s.registers.get r

/-- Appends an access to the pending log. -/
def record (entry : Access) : Space := { s with log := s.log ++ [entry] }

/-- Records that a location is read; registers leave no record. -/
def touch : Location → Space
  | .cell address => s.record (.read (s.policy.normalize address) (s.cell address))
  | .register _ => s

/-- Reads the word at a location. -/
def read (l : Location) : Word × Space := (s.inspect l, s.touch l)

/-- Reads the cell whose address is the word at a location. -/
def dereference (l : Location) : Word × Space :=
  let (w, s) := s.read l
  s.read (.cell w.address)

/-! ### Writing -/

/-- Puts a word at a location. -/
def store (l : Location) (w : Word) : Space :=
  match l with
  | .cell address =>
    { s with
      cells := s.cells.insert (s.policy.normalize address) w
      log := s.log ++ [.write (s.policy.normalize address) w (s.cell address)] }
  | .register r => { s with registers := s.registers.set r w }

/-- Puts the low sixteen bits of an integer at a location. -/
def write (l : Location) (value : Int) : Space := s.store l (Word.ofInt value)

/-- Adds one to the word at a location. -/
def increment (l : Location) : Space :=
  let (w, s) := s.read l
  s.store l (w + 1)

/-- Takes one from the word at a location. -/
def decrement (l : Location) : Space :=
  let (w, s) := s.read l
  s.store l (w - 1)

/-! ### The pending log -/

/-- The same space with nothing pending. -/
def clearLog : Space := { s with log := [] }

/-- Takes the pending log and leaves it empty. -/
def drain : List Access × Space := (s.log, s.clearLog)

/-! ### The stack -/

/-- Reads the top of the stack. -/
def peek : Word × Space := s.dereference (.register .SP)

/-- Reads the top of the stack, then moves the pointer past it. -/
def pop : Word × Space :=
  let (w, s) := s.peek
  (w, s.increment (.register .SP))

/-- Makes room for one word and gives the new value of the stack pointer. -/
def push : Word × Space := (s.decrement (.register .SP)).read (.register .SP)

/-- Puts the low sixteen bits of an integer on top of the stack. -/
def pushValue (value : Int) : Space :=
  let (top, s) := s.push
  s.write (.cell top.address) value

/-! ### Loading -/

/-- Puts the low sixteen bits of an integer into a cell, without a record. -/
def load (address value : Int) : Space :=
  { s with cells := s.cells.insert (s.policy.normalize address) (Word.ofInt value) }

/-- Loads pairs of an address and a value, in order. -/
def loadPairs (pairs : List (Int × Int)) : Space := pairs.foldl (fun s (a, v) => s.load a v) s

/-- The pairs that place words in consecutive cells from an origin on. -/
def placed (words : List Int) (origin : Int) : List (Int × Int) :=
  words.mapIdx fun i w => (origin + i, w)

/-- Loads words into consecutive cells from an origin on, one after the other, and gives their number. -/
def loadCounted (words : List Int) (origin : Int) : Nat × Space :=
  (words.length, words.zipIdx.foldl (fun s (w, offset) => s.load (origin + offset) w) s)

/-- Loads words into consecutive cells from an origin on. -/
def loadWords (words : List Int) (origin : Int) : Space := (s.loadCounted words origin).2

/-- Every cell that was ever written, with its word, by rising address. -/
def memory : List (Int × Word) := s.cells.toList

end Space

end Dcpu16
