import Dcpu16.Config.Read
import Dcpu16.Folder
import Dcpu16.Yaml.Document

/-!
Loading a machine description from text or from a file. A text without data is an empty description. A
description in a file names its image relative to the folder the file is in.
-/

namespace Dcpu16

/-- Why a description cannot be loaded. -/
inductive LoadError where
  | file (e : FileError)
  | yaml (e : Yaml.Error)
  | config (e : Config.Error)
  | notText
  deriving DecidableEq, Repr

namespace Config

/-- Reads a description from the data of a document. -/
def ofDocument (d : Data) : Except Error Config := ofData (if d.value.isEmpty then { root := .map [] } else d)

/-- Loads a description from text. -/
def ofText (text : Text) : Except LoadError Config := do
  (ofDocument (← (Yaml.read text).mapError .yaml)).mapError .config

/-- The path of an image that is named in a description in a folder. -/
def resolveFile (directory : Text) (file : Value) : Except LoadError Value :=
  if file.isEmpty then .ok file
  else
    match file with
    | .text path => .ok (.text (if Path.isAbsolute path then path else directory ++ .char '/' :: path))
    | _ => .error .notText

/-- Loads a description from the file at a path. -/
def ofFile (folder : Folder) (path : Text) : Except LoadError Config := do
  let text ← (folder.read (folder.absolute path)).mapError .file
  let c ← (ofDocument (← (Yaml.readPieces text).mapError .yaml)).mapError .config
  let directory := (Path.components path).simplify.dropLast
  let file ← resolveFile (directory.foldl (fun text name => text ++ .char '/' :: name) folder.root) c.program.file
  return { c with program := { c.program with file } }

end Config

end Dcpu16
