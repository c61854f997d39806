import Dcpu16.Text.Layout

/-!
A folder of text files. A path is walked from the root of the folder, one component after the other: an empty
component and a single dot stay where they are, two dots go up, and every folder on the way has to exist. The
folders that exist are those on the way to a file.

Two dots at the root of the folder lead out of it. Of the files elsewhere only what every system has is known:
the folders at the top of its tree, and the null device, which reads as an empty text. A name has at most 255
bytes and a path at most 4095.
-/

namespace Dcpu16

/-- A path as components. -/
abbrev Path := List Text

namespace Path

/-- The components of a text between slashes. -/
def components (text : Text) : Path := text.splitOnP (· == .char '/')

/-- Whether a text is a path from the top of the tree of folders. -/
def isAbsolute (text : Text) : Bool := text.head? = some (.char '/')

/-- Whether a component stays where it is. -/
def stays (name : Text) : Bool := name = [] || name = Text.ofString "."

/-- Whether a component goes up. -/
def goesUp (name : Text) : Bool := name = Text.ofString ".."

/-- Walks one component down from the top of a tree, where two dots stay, without looking at any file. -/
def enter (here : Path) (name : Text) : Path :=
  if stays name then here else if goesUp name then here.dropLast else here ++ [name]

/-- The folders that a walk comes through, from the one it starts in. -/
def trail (here : Path) : Path → List Path
  | [] => [here]
  | name :: rest => here :: trail (here.enter name) rest

/-- The path without dots and empty components. -/
def simplify (p : Path) : Path := p.foldl enter []

end Path

/-- Why a file cannot be read. -/
inductive FileError where
  | missing
  | notFolder
  | isFolder
  | tooLong
  | nullCharacter
  /-- A surrogate in the path has no bytes. -/
  | noBytes
  deriving DecidableEq, Repr

/-- Text files below a root. Paths into the folder start with the text `root`; the real path of the root has
`rootBytes` bytes, and the root lies in the folder `above`. -/
structure Folder where
  root : Text := []
  rootBytes : Nat := 0
  above : Path := []
  files : List (Path × Text) := []
  folders : List Path := [[]]

namespace Folder

/-! ### Places -/

/-- Where a walk is: at a path below the root of the folder, or elsewhere at a path from the top of the tree. -/
inductive Position where
  | inside (p : Path)
  | outside (p : Path)
  deriving DecidableEq, Repr

/-- The folders at the top of every tree. -/
def topFolders : List String :=
  ["bin", "boot", "dev", "etc", "home", "lib", "media", "mnt", "opt", "proc", "root", "run", "sbin", "srv", "sys",
    "tmp", "usr", "var"]

/-- The folders that are known to exist elsewhere. -/
def knownFolders : List Path := [] :: topFolders.map fun name => [Text.ofString name]

/-- The null device. -/
def nullDevice : Path := [Text.ofString "dev", Text.ofString "null"]

variable (folder : Folder)

/-- The folder with files at the given paths; a later file replaces an earlier one at the same path. -/
def ofFiles (root : Text) (rootBytes : Nat) (above : Path) (files : List (Text × Text)) : Folder where
  root
  rootBytes
  above
  files := files.reverse.map fun (path, text) => ((Path.components path).simplify, text)
  folders := [] :: files.flatMap fun (path, _) => Path.trail [] (Path.components path).dropLast

/-- Walks one component. -/
def enter (name : Text) : Position → Position
  | .inside [] => if Path.goesUp name then .outside folder.above else .inside (Path.enter [] name)
  | .inside here => .inside (here.enter name)
  | .outside here => .outside (here.enter name)

/-- The text of the file at a place. -/
def text? : Position → Option Text
  | .inside p => folder.files.lookup p
  | .outside p => if p = nullDevice then some [] else none

/-- Whether there is a folder at a place. -/
def isFolder : Position → Bool
  | .inside p => folder.folders.contains p
  | .outside p => knownFolders.contains p

/-! ### Reading -/

/-- Whether a text has more bytes than a bound. -/
def exceeds (text : Text) (bound : Nat) : Bool := text.byteLength?.any (bound < ·)

/-- Reads the file that the remaining components lead to from an existing folder. -/
def walk (here : Position) : Path → Except FileError Text
  | [] => .error .isFolder
  | name :: rest =>
    if exceeds name 255 then .error .tooLong
    else
      let there := folder.enter name here
      if folder.isFolder there then walk there rest
      else
        match folder.text? there, rest with
        | some text, [] => .ok text
        | some _, _ => .error .notFolder
        | none, _ => .error .missing

/-- Reads the file at a path from the top of the tree or from the root of the folder. Every line of the text ends
with a line feed, whatever it ends with in the file. -/
def read (path : Text) : Except FileError Text :=
  let absolute := Path.isAbsolute path
  let inner := if absolute then path else path.drop folder.root.length
  if path.byteLength?.isNone then .error .noBytes
  else if path.contains (.char '\x00') then .error .nullCharacter
  else if exceeds inner (4095 - if absolute then 0 else folder.rootBytes) then .error .tooLong
  else (folder.walk (if absolute then .outside [] else .inside []) (Path.components inner)).map Text.feedLines

/-- The path from the top of the tree for a path from the root of the folder. -/
def absolute (path : Text) : Text := if Path.isAbsolute path then path else folder.root ++ .char '/' :: path

end Folder

end Dcpu16
