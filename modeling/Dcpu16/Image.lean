import Dcpu16.Numeral.Integer
import Dcpu16.Space.Basic
import Dcpu16.Text.Layout

/-!
Program images as text. A line holds words in base sixteen between blanks; a semicolon starts a comment, and an
address with a colon at the start of a line says where its words go. Words follow one another from an origin on.
Reading goes line by line and keeps a cursor, the address of the next word, so the first line that is wrong
decides what is reported.
-/

namespace Dcpu16.Image

open Numeral (readInteger)
open Text (isBlank)

/-- What is wrong with a word of an image. -/
inductive Defect where
  | invalid
  | tooWide
  deriving DecidableEq, Repr

/-- A word that is wrong, on a line counted from one. -/
structure Error where
  line : Nat
  token : Text
  defect : Defect
  deriving DecidableEq, Repr

/-- The message of an error. -/
def Error.message (e : Error) : String :=
  match e.defect with
  | .invalid => "Invalid hex word on line " ++ toString e.line ++ ": " ++ e.token.quoted
  | .tooWide => "Word " ++ e.token.quoted ++ " on line " ++ toString e.line ++ " does not fit in 16 bits"

/-! ### Words -/

/-- Drops one marker `0x` from the start of a token. -/
def unmark : Text → Text
  | .char '0' :: .char 'x' :: rest => rest
  | .char '0' :: .char 'X' :: rest => rest
  | token => token

/-- The value of a token without its marker. -/
def readWord (token : Text) : Except Defect Int :=
  match readInteger .sixteen token with
  | .error _ => .error .invalid
  | .ok word => if word > 0xFFFF then .error .tooWide else .ok word

/-- Places the tokens of the line with a number from a cursor on, and gives the cursor after them. -/
def readTokens (line : Nat) (cursor : Int) : List Text → Except Error (List (Int × Int) × Int)
  | [] => .ok ([], cursor)
  | token :: rest =>
    let token := unmark token
    match readWord token with
    | .error defect => .error ⟨line, token, defect⟩
    | .ok word => do
      let (pairs, cursor') ← readTokens line (cursor + 1) rest
      return ((cursor, word) :: pairs, cursor')

/-! ### Lines -/

/-- The value of an ASCII digit in base sixteen. -/
def hexDigit? (p : CodePoint) : Option Nat := p.char?.bind (Numeral.digitValue? 16)

/-- The part of a line before its comment, without blanks at its ends. -/
def content (line : Text) : Text := Text.strip (line.takeWhile (· ≠ .char ';'))

/-- Splits an address off the start of a line. -/
def splitAddress (line : Text) : Option Nat × Text :=
  let (digits, rest) := line.span fun p => (hexDigit? p).isSome
  match digits, rest.dropWhile isBlank with
  | _ :: _, .char ':' :: rest => (some (Numeral.ofDigits 16 (digits.filterMap hexDigit?)), rest)
  | _, _ => (none, line)

/-- Reads the line with a number. -/
def readLine (number : Nat) (cursor : Int) (line : Text) : Except Error (List (Int × Int) × Int) :=
  let (address, rest) := splitAddress (content line)
  readTokens number (address.elim cursor Int.ofNat) (Text.words rest)

/-- Reads lines of which the first has a number. -/
def readLines (number : Nat) (cursor : Int) : List Text → Except Error (List (Int × Int) × Int)
  | [] => .ok ([], cursor)
  | line :: rest => do
    let (pairs, cursor) ← readLine number cursor line
    let (more, cursor) ← readLines (number + 1) cursor rest
    return (pairs ++ more, cursor)

/-- The addresses and words of an image that starts at an origin. -/
def read (text : Text) (origin : Int) : Except Error (List (Int × Int)) :=
  (readLines 1 origin text.lines).map Prod.fst

end Dcpu16.Image
