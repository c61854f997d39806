import Dcpu16.Config.Basic
import Dcpu16.Folder
import Dcpu16.Image
import Dcpu16.Register
import Dcpu16.Run

/-!
The machine that a description stands for. The words of the program are loaded first and the image from a file
over them, both from the origin; then the registers are set in the order of their names in the description. A
name that no register has only gives a warning.
-/

namespace Dcpu16

/-- Why a described machine cannot be built. -/
inductive BuildError where
  | file (e : FileError)
  | image (e : Image.Error)
  | notText
  /-- No file has a negative number. -/
  | negativeFile
  /-- No file with the number is open. -/
  | closedFile
  deriving DecidableEq, Repr

/-- A machine with the warnings given while it was built. -/
structure Built where
  machine : Machine
  warnings : List Text

namespace Built

/-- The warning for a name that no register has. -/
def unknownRegister (name : Text) : Text :=
  Text.ofString "Unknown register '" ++ name ++ Text.ofString "' in initial_state, ignoring"

/-- Sets a register to start with, or warns. -/
def setRegister (b : Built) (name : Text) (value : Int) : Built :=
  match Register.ofName name with
  | .ok r => { b with machine := b.machine.write (.register r) value }
  | .error _ => { b with warnings := b.warnings ++ [unknownRegister name] }

end Built

namespace Config

/-- Why an image with a number in the place of a path cannot be read. An open file is known by a number of 32 bits, but
no file is taken to be open for reading here, the standard input included. -/
def fileNumberError (n : Int) : BuildError :=
  if n < -0x80000000 || n > 0x7FFFFFFF then .notText else if n < 0 then .negativeFile else .closedFile

/-- The pairs of the image that a description names. A truth value counts as a number. -/
def imagePairs (c : Config) (folder : Folder) : Except BuildError (List (Int × Int)) :=
  if c.program.file.isEmpty then .ok []
  else
    match c.program.file with
    | .text path => do
      let text ← (folder.read path).mapError .file
      (Image.read text c.program.origin).mapError .image
    | file => .error (file.asInt?.elim .notText fileNumberError)

/-- The machine before its registers are set. -/
def loaded (c : Config) (image : List (Int × Int)) : Machine :=
  let space : Space := { policy := c.policy }
  { space := (space.loadWords c.program.words c.program.origin).loadPairs image, symbols := c.symbols }

/-- Builds the machine of a description. -/
def build (c : Config) (folder : Folder) : Except BuildError Built := do
  let image ← c.imagePairs folder
  let machine := ((c.loaded image).reset c.initialState.pc).write (.register .SP) c.initialState.sp
  let registers := c.initialState.registers.entries
  return registers.foldl (fun b (name, value) => b.setRegister name value) ⟨machine, []⟩

/-- Runs a built machine from its starting address within the budget of its description. -/
def runBuilt (c : Config) (b : Built) (patience : Nat) : Option (Run Unit) :=
  b.machine.run (some c.initialState.pc) c.maxSteps .idle () patience

/-- Builds the machine of a description and runs it. -/
def buildAndRun (c : Config) (folder : Folder) (patience : Nat) : Except BuildError (Option (Run Unit)) :=
  (c.build folder).map fun b => c.runBuilt b patience

end Config

end Dcpu16
