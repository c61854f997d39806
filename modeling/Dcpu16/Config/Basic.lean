import Dcpu16.Space.Basic
import Dcpu16.Table
import Dcpu16.Value

/-!
Machine descriptions: the address policy, a budget for runs, the registers to start with, the program and its
symbols. Everything has a default, so an empty description is the machine with no program.
-/

namespace Dcpu16

/-- The registers to start with. Names are kept as written. -/
structure InitialState where
  pc : Int := 0
  sp : Int := 0
  registers : Table Int := ∅

/-- The program: words from an origin on, and perhaps a file with an image. -/
structure Program where
  origin : Int := 0
  words : List Int := []
  file : Value := .null

/-- A machine description. -/
structure Config where
  policy : Policy := .sparse
  maxSteps : Option Int := none
  initialState : InitialState := {}
  program : Program := {}
  symbols : Table Int := ∅

/-- The only architecture that a description can name. -/
def Config.architecture : String := "DCPU16"

end Dcpu16
