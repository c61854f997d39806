import Dcpu16.Value
import Dcpu16.Yaml.Cursor
import Dcpu16.Yaml.Error

/-!
The values of plain texts. A plain text is null, a truth value or a number if it is written like one, and a text
otherwise. Integers come in base ten, in base two, eight or sixteen with a marker, where a zero in front marks
base eight, and in base sixty with colons between the places. A float has a point, and its exponent a sign.
Underscores among digits have no meaning.

A date, with or without a time of day, is no text either. Values do not include dates, so it is recognised and refused.
-/

namespace Dcpu16.Yaml.Scalar

open Numeral (readInteger)

/-! ### Shapes -/

/-- Whether a character is a decimal digit or an underscore. -/
def isDigitOrGap (c : Char) : Bool := c.isDigit || c = '_'

/-- Whether a text is not empty and its characters pass a test. -/
def filled (test : Char → Bool) (cs : List Char) : Bool := cs ≠ [] && cs.all test

/-- Whether a text starts with a digit and goes on with digits and underscores. -/
def startsWithDigit : List Char → Bool
  | d :: rest => d.isDigit && rest.all isDigitOrGap
  | [] => false

/-- Splits a sign off; `true` stands for a minus. -/
def splitSign : List Char → Bool × List Char
  | '-' :: rest => (true, rest)
  | '+' :: rest => (false, rest)
  | rest => (false, rest)

/-- Whether a text is a place in base sixty. -/
def isPlace : List Char → Bool
  | [d] => d.isDigit
  | [t, d] => '0' ≤ t && t ≤ '5' && d.isDigit
  | _ => false

/-- Whether a text is missing or is an exponent with a sign. -/
def isExponent : List Char → Bool
  | [] => true
  | e :: s :: digits => (e = 'e' || e = 'E') && (s = '-' || s = '+') && filled Char.isDigit digits
  | _ => false

/-- The form of a plain text. -/
inductive Form where
  | null
  | truth (b : Bool)
  | binary (digits : List Char)
  | octal (digits : List Char)
  | decimal (digits : List Char)
  | hexadecimal (digits : List Char)
  | sexagesimal (places : List (List Char))
  | fraction (text : List Char)
  | sexagesimalFraction (places : List (List Char))
  | infinity
  | notANumber
  | merge
  | default
  | date
  | text
  deriving DecidableEq, Repr

/-- Whether a text without a sign is a fraction; one without digits before the point has no sign either. -/
def isFraction (signed : Bool) (body : List Char) : Bool :=
  let (whole, rest) := body.span isDigitOrGap
  match rest with
  | '.' :: rest =>
    let (digits, exponent) := rest.span isDigitOrGap
    isExponent exponent && (startsWithDigit whole || (whole = [] && !signed && startsWithDigit digits))
  | _ => false

/-- The form of a text of several places in base sixty. -/
def sexagesimalForm (body : List Char) : Form :=
  let places := body.splitOnP (· = ':')
  match places, places.getLast? with
  | first :: middle :: rest, some last =>
    let (whole, fraction) := last.span (· ≠ '.')
    let between := (middle :: rest).dropLast.all isPlace && isPlace whole
    if !between || !startsWithDigit first then .text
    else
      match fraction with
      | [] => if first.head? = some '0' then .text else .sexagesimal places
      | _ :: digits => if digits.all isDigitOrGap then .sexagesimalFraction places else .text
  | _, _ => .text

/-- The form of an integer without its sign, if a text is one. -/
def integerForm : List Char → Form
  | ['0'] => .decimal ['0']
  | '0' :: 'b' :: digits =>
    if filled (fun c => c = '0' || c = '1' || c = '_') digits then .binary digits else .text
  | '0' :: 'x' :: digits =>
    if filled (fun c => (Numeral.digitValue? 16 c).isSome || c = '_') digits then .hexadecimal digits else .text
  | '0' :: digits =>
    if filled (fun c => ('0' ≤ c && c ≤ '7') || c = '_') digits then .octal digits else .text
  | digits => if startsWithDigit digits then .decimal digits else .text

/-- The form of a plain text with its sign split off. -/
def numberForm (signed : Bool) (body : List Char) : Form :=
  if isFraction signed body then .fraction body
  else if [".inf", ".Inf", ".INF"].contains (String.ofList body) then .infinity
  else if !signed && [".nan", ".NaN", ".NAN"].contains (String.ofList body) then .notANumber
  else if body.contains ':' then sexagesimalForm body
  else integerForm body

/-- What follows a number of decimal digits, if they are at least so many and at most so many. -/
def afterDigits? (least most : Nat) (cs : List Char) : Option (List Char) :=
  let (digits, rest) := cs.span Char.isDigit
  if least ≤ digits.length && digits.length ≤ most then some rest else none

/-- What follows a character. -/
def after? (c : Char) : List Char → Option (List Char)
  | d :: rest => if d = c then some rest else none
  | [] => none

/-- What follows a year, a month and a day, of which the last two may have a single digit if `short`. -/
def afterDay? (short : Bool) (cs : List Char) : Option (List Char) := do
  let least := if short then 1 else 2
  let cs ← after? '-' (← afterDigits? 4 4 cs)
  let cs ← after? '-' (← afterDigits? least 2 cs)
  afterDigits? least 2 cs

/-- What follows a time of day with a fraction of a second, which may be missing. -/
def afterTime? (cs : List Char) : Option (List Char) := do
  let cs ← after? ':' (← afterDigits? 1 2 cs)
  let cs ← after? ':' (← afterDigits? 2 2 cs)
  match ← afterDigits? 2 2 cs with
  | '.' :: rest => return rest.dropWhile Char.isDigit
  | rest => return rest

/-- Whether a text is a distance from universal time in hours and perhaps minutes. -/
def isZone : List Char → Bool
  | ['Z'] => true
  | sign :: hours =>
    (sign = '-' || sign = '+') &&
      (afterDigits? 1 2 hours).any fun rest => rest = [] || (after? ':' rest).bind (afterDigits? 2 2) = some []
  | [] => false

/-- Whether a text is a time of day, perhaps with a time zone. -/
def isTime (cs : List Char) : Bool :=
  (afterTime? cs).any fun rest => rest = [] || isZone (rest.dropWhile isGap)

/-- Whether a text is a date, with a time of day after a letter or a gap or without one. -/
def isDate (cs : List Char) : Bool :=
  afterDay? false cs = some [] ||
    (afterDay? true cs).any fun
      | c :: rest => if isGap c then isTime (rest.dropWhile isGap) else (c = 'T' || c = 't') && isTime rest
      | [] => false

/-- The words for the truth values. -/
def truthWords : List (String × Bool) :=
  [("yes", true), ("Yes", true), ("YES", true), ("no", false), ("No", false), ("NO", false), ("true", true),
    ("True", true), ("TRUE", true), ("false", false), ("False", false), ("FALSE", false), ("on", true),
    ("On", true), ("ON", true), ("off", false), ("Off", false), ("OFF", false)]

/-- The form of a plain text. -/
def formOf (s : String) : Form :=
  if ["", "~", "null", "Null", "NULL"].contains s then .null
  else if s = "<<" then .merge
  else if s = "=" then .default
  else
    match truthWords.lookup s with
    | some b => .truth b
    | none =>
      if isDate s.toList then .date
      else
        let body := splitSign s.toList
        numberForm (body.2.length < s.length) body.2

/-! ### Values -/

/-- The text without underscores. -/
def compact (cs : List Char) : List Char := cs.filter (· ≠ '_')

/-- Reads the digits of an integer. -/
def integer (base : Numeral.Base) (digits : List Char) : Except Error Int :=
  (readInteger base (Text.ofChars (compact digits))).mapError .integer

/-- The integer with the given places in base sixty. -/
def sexagesimal (places : List (List Char)) : Except Error Int := do
  return (← places.mapM (integer .ten)).foldl (fun n p => n * 60 + p) 0

/-- Reads the digits of a number with a fraction. -/
def fraction (digits : List Char) : Binary64 := (Binary64.readUnsigned? false (compact digits)).getD .nan

/-- A sum with places in base sixty added to it, of which the first is worth `worth`. Every product and every sum
is rounded. -/
def addPlaces (sum : Binary64) (worth : Nat) : List (List Char) → Except Error Binary64
  | [] => .ok sum
  | place :: rest =>
    match Binary64.ofNat? worth with
    | none => .error .placeRange
    | some w => addPlaces (sum.plus ((fraction place).times w)) (worth * 60) rest

/-- The number with the given places in base sixty, which are added up from the last one on. -/
def sexagesimalFraction (places : List (List Char)) : Except Error Binary64 :=
  addPlaces (Binary64.ofRatio false 0 1) 1 places.reverse

/-- The value of a plain text. -/
def value (s : String) : Except Error Value :=
  let negative := (splitSign s.toList).1
  let signed : Int → Value := fun n => .int (if negative then -n else n)
  match formOf s with
  | .null => .ok .null
  | .truth b => .ok (.bool b)
  | .binary digits => (integer .two digits).map signed
  | .octal digits => (integer .eight ('0' :: digits)).map signed
  | .decimal digits => (integer .ten digits).map signed
  | .hexadecimal digits => (integer .sixteen digits).map signed
  | .sexagesimal places => (sexagesimal places).map signed
  | .fraction body => .ok (.float ((fraction body).signed negative))
  | .sexagesimalFraction places => (sexagesimalFraction places).map fun x => .float (x.signed negative)
  | .infinity => .ok (.float (.infinite negative))
  | .notANumber => .ok (.float .nan)
  | .merge | .default => .error .noValue
  | .date => .error .date
  | .text => .ok (.text (Text.ofString s))

end Dcpu16.Yaml.Scalar
