import Dcpu16.Config.Basic
import Dcpu16.Numeral.Integer
import Dcpu16.Text.Case

/-!
Reading a machine description from data. Sections are read in a fixed order, so of two mistakes the one in the
earlier section is reported. A section that counts as missing is an empty one. Case does not count in the name
of the architecture and of the policy.
-/

namespace Dcpu16.Config

open Numeral (IntegerError readInteger)

/-- Why data is not a machine description. -/
inductive Error where
  | unsupportedArchitecture (name : Text)
  | unknownPolicy (name : Text)
  | integer (e : IntegerError)
  | notInteger (text : Text)
  | unwritable
  /-- A value of some kind is asked for what only maps have. -/
  | notMap {kind request : String}
  /-- A value of some kind stands where a sequence should. -/
  | notSequence {kind : String}
  deriving DecidableEq, Repr

/-- The message of an error. -/
def Error.message : Error → Text
  | unsupportedArchitecture name => Text.ofString "Unsupported architecture: " ++ name
  | unknownPolicy name => Text.ofString "Unknown address policy: " ++ name
  | integer e => Text.ofString e.message
  | notInteger text => Text.ofString "Invalid integer format: " ++ text
  | unwritable =>
    Text.ofString ("Exceeds the limit (4300 digits) for integer string conversion; use "
      ++ "sys.set_int_max_str_digits() to increase the limit")
  | @notMap kind request => Text.ofString ("'" ++ kind ++ "' object has no attribute '" ++ request ++ "'")
  | @notSequence kind => Text.ofString ("'" ++ kind ++ "' object is not iterable")

/-! ### Simple values -/

section

variable (table : Collections)

/-- The text of a value. -/
def textOf (v : Value) : Except Error Text :=
  match table.toText? v with
  | some s => .ok s
  | none => .error .unwritable

/-- Whether a text has the marker of base sixteen at its start. -/
def isMarked : Text → Bool
  | .char '0' :: .char 'x' :: _ | .char '0' :: .char 'X' :: _ => true
  | _ => false

/-- The integer that a value stands for: an integer, or its text in base ten or, with a marker, in base
sixteen. -/
def integerOf : Value → Except Error Int
  | .int n => .ok n
  | .text t => (readInteger (if isMarked t then .sixteen else .ten) t).mapError .integer
  | v => do .error (.notInteger (← textOf table v))

/-! ### Sections -/

/-- The entries of a map, which is asked for something. -/
def entriesOf (request : String) : Value → Except Error (List (Value × Value))
  | .map entries => .ok entries
  | v => .error (@Error.notMap v.kind request)

/-- The entries of a section; one that is missing or counts as missing has none. -/
def sectionOf (request : String) (v : Option Value) : Except Error (List (Value × Value)) :=
  match v with
  | none => .ok []
  | some v =>
    let v := table.resolve v
    if v.isEmpty then .ok [] else entriesOf request v

/-- The integer under a key, or a default. -/
def integerAt (entries : List (Value × Value)) (key : Text) (default : Int) : Except Error Int :=
  match Value.lookup key entries with
  | none => .ok default
  | some v => integerOf table v

/-- The names and integers of a section, in order. -/
def namedIntegers : List (Value × Value) → Except Error (List (Text × Int))
  | [] => .ok []
  | (k, v) :: rest => do
    let name ← textOf table k
    let n ← integerOf table v
    return (name, n) :: (← namedIntegers rest)

/-- The table of integers in a section. -/
def tableAt (entries : List (Value × Value)) (key : Text) : Except Error (Table Int) := do
  return Table.ofPairs (← namedIntegers table (← sectionOf table "items" (Value.lookup key entries)))

/-- The items of a sequence: of a list, the characters of a text, or the keys of a map. -/
def itemsOf : Value → Except Error (List Value)
  | .list items => .ok items
  | .text t => .ok (t.map fun p => .text [p])
  | .map entries => .ok (entries.map Prod.fst)
  | v => .error (@Error.notSequence v.kind)

/-- The integers of the sequence under a key. -/
def integersAt (entries : List (Value × Value)) (key : Text) : Except Error (List Int) :=
  match Value.lookup key entries with
  | none => .ok []
  | some v => do (← itemsOf (table.resolve v)).mapM (integerOf table)

/-! ### Descriptions -/

/-- Checks the name of the architecture. -/
def checkArchitecture (entries : List (Value × Value)) : Except Error Unit := do
  let name ← textOf table ((Value.lookup "architecture" entries).getD (.text architecture))
  let capitals := name.upper
  if capitals = Text.ofString architecture then .ok () else .error (.unsupportedArchitecture capitals)

/-- Reads the address policy. -/
def policyOf (entries : List (Value × Value)) : Except Error Policy := do
  let name ← textOf table ((Value.lookup "address_policy" entries).getD (.text Policy.sparse.name))
  let small := name.lower
  match Policy.named? small with
  | some p => .ok p
  | none => .error (.unknownPolicy small)

/-- Reads the budget of steps, which may be missing or null. -/
def maxStepsOf (entries : List (Value × Value)) : Except Error (Option Int) :=
  match Value.lookup "max_steps" entries with
  | none | some .null => .ok none
  | some v => (integerOf table v).map some

/-- Reads the registers to start with. -/
def initialStateOf (entries : List (Value × Value)) : Except Error InitialState := do
  let part ← sectionOf table "get" (Value.lookup "initial_state" entries)
  let pc ← integerAt table part "pc" 0
  let sp ← integerAt table part "sp" 0
  let registers ← tableAt table part "registers"
  return { pc, sp, registers }

/-- Reads the program. The file may be any value at this point. -/
def programOf (entries : List (Value × Value)) : Except Error Program := do
  let part ← sectionOf table "get" (Value.lookup "program" entries)
  let origin ← integerAt table part "origin" 0
  let words ← integersAt table part "words"
  return { origin, words, file := table.resolve ((Value.lookup "file" part).getD .null) }

end

/-- Reads a machine description. -/
def ofData (d : Data) : Except Error Config := do
  let entries ← entriesOf "get" d.value
  checkArchitecture d.table entries
  let policy ← policyOf d.table entries
  let maxSteps ← maxStepsOf d.table entries
  let initialState ← initialStateOf d.table entries
  let program ← programOf d.table entries
  let symbols ← tableAt d.table entries "symbols"
  return { policy, maxSteps, initialState, program, symbols }

/-! ### Part by part -/

section

variable (table : Collections) {entries part : List (Value × Value)}

/-- Registers to start with whose section is known are read part by part. -/
theorem initialStateOf_of_section
    (h : sectionOf table "get" (Value.lookup "initial_state" entries) = .ok part) :
    initialStateOf table entries = do
      let pc ← integerAt table part "pc" 0
      let sp ← integerAt table part "sp" 0
      let registers ← tableAt table part "registers"
      return { pc, sp, registers } := by
  rw [initialStateOf, h]
  rfl

/-- A program whose section is known is read part by part. -/
theorem programOf_of_section
    (h : sectionOf table "get" (Value.lookup "program" entries) = .ok part) :
    programOf table entries = do
      let origin ← integerAt table part "origin" 0
      let words ← integersAt table part "words"
      return { origin, words, file := table.resolve ((Value.lookup "file" part).getD .null) } := by
  rw [programOf, h]
  rfl

end

/-- Data that is a map is read part by part. -/
theorem ofData_of_map {d : Data} {entries : List (Value × Value)} (value : d.value = .map entries) : ofData d = do
    checkArchitecture d.table entries
    let policy ← policyOf d.table entries
    let maxSteps ← maxStepsOf d.table entries
    let initialState ← initialStateOf d.table entries
    let program ← programOf d.table entries
    let symbols ← tableAt d.table entries "symbols"
    return { policy, maxSteps, initialState, program, symbols } := by
  rw [ofData, value]
  rfl

end Dcpu16.Config
