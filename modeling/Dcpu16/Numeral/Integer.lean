import Dcpu16.Text.Layout
import Dcpu16.Text.Quoted

/-!
Reading integers. A literal may have blanks around it, a sign, and single underscores between its digits; in
base sixteen it may also have a marker `0x`, after which one underscore is allowed. Digits of all scripts count.
In base ten a literal has at most 4300 digits, and a longer one is refused for its length before anything that
follows it is looked at.
-/

namespace Dcpu16.Numeral

open Text (decimalValue?)

/-- The base of a literal. -/
inductive Base where
  | two
  | eight
  | ten
  | sixteen
  deriving DecidableEq, Repr

namespace Base

/-- The number of a base. -/
def value : Base → Nat
  | two => 2
  | eight => 8
  | ten => 10
  | sixteen => 16

/-- The greatest number of digits of a literal, if there is one. -/
def digitLimit? : Base → Option Nat
  | ten => some 4300
  | _ => none

end Base

/-- Why a text is not an integer. -/
inductive IntegerError where
  | invalid (base : Base) (text : Text)
  | tooLong (digits : Nat)
  deriving DecidableEq, Repr

/-- The message of an error; a quoted text is cut after 200 characters. -/
def IntegerError.message : IntegerError → String
  | invalid base text =>
    "invalid literal for int() with base " ++ toString base.value ++ ": "
      ++ String.ofList ((Text.quotedChars text).take 200)
  | tooLong digits =>
    "Exceeds the limit (4300 digits) for integer string conversion: value has " ++ toString digits
      ++ " digits; use sys.set_int_max_str_digits() to increase the limit"

/-! ### Characters -/

/-- The blanks that a literal may have around it. -/
def isMargin (c : Char) : Bool := [' ', '\t', '\n', '\r', '\x0b', '\x0c'].contains c

/-- A code point outside ASCII as a literal reads it: blanks of all kinds as a space and digits of all scripts as
digits. No other such code point has a meaning. -/
def foreignChar (p : CodePoint) : Char :=
  if Text.isBlank p then ' '
  else
    match decimalValue? p with
    | some d => Char.ofNat ('0'.toNat + d)
    | none => '?'

/-- A code point as a literal reads it. -/
def plainChar : CodePoint → Char
  | .char c => if c.toNat < 0x80 then c else foreignChar (.char c)
  | p => foreignChar p

/-! ### Literals -/

/-- The values of the digits of a literal, with single underscores between them allowed. -/
def digitValues? (base : Nat) : List Char → Option (List Nat)
  | [] => none
  | [c] => (digitValue? base c).map ([·])
  | c :: '_' :: rest => return (← digitValue? base c) :: (← digitValues? base rest)
  | c :: rest => return (← digitValue? base c) :: (← digitValues? base rest)

/-- Splits a sign off a literal; `true` stands for a minus. -/
def splitSign : List Char → Bool × List Char
  | '-' :: rest => (true, rest)
  | '+' :: rest => (false, rest)
  | rest => (false, rest)

/-- The letters that mark a base. -/
def Base.markers : Base → List Char
  | two => ['b', 'B']
  | eight => ['o', 'O']
  | ten => []
  | sixteen => ['x', 'X']

/-- Drops the marker of a base, with one underscore after it. -/
def dropMarker (base : Base) : List Char → List Char
  | '0' :: m :: '_' :: rest => if base.markers.contains m then rest else '0' :: m :: '_' :: rest
  | '0' :: m :: rest => if base.markers.contains m then rest else '0' :: m :: rest
  | rest => rest

/-- Whether a character can occur among the digits of a literal. -/
def isDigitOrJoint (base : Nat) (c : Char) : Bool := c = '_' || (digitValue? base c).isSome

/-- Reads an integer in a base. -/
def readInteger (base : Base) (text : Text) : Except IntegerError Int :=
  let plain := text.map plainChar
  let (negative, body) := splitSign (plain.dropWhile isMargin)
  let (number, rest) := (dropMarker base body).span (isDigitOrJoint base.value)
  match digitValues? base.value number with
  | none => .error (.invalid base text)
  | some digits =>
    if base.digitLimit?.any (· < digits.length) then .error (.tooLong digits.length)
    else if rest.all isMargin then
      let n : Int := ofDigits base.value digits
      .ok (if negative then -n else n)
    else .error (.invalid base text)

end Dcpu16.Numeral
