import Dcpu16.Decimal.Shortest

/-!
Decimal text of binary64 numbers. A number is written with the fewest digits that read back, with a point in
place from `1e-4` up to below `1e16` and otherwise with an exponent of at least two digits and a sign; without
an exponent a point always stays. A text in the same form is read by rounding its exact value.
-/

namespace Dcpu16.Binary64

/-! ### Writing -/

/-- How decimals are laid out. -/
structure Layout where
  leastPositional : Int
  mostPositional : Int
  exponentDigits : Nat

/-- The layout of numbers in messages. -/
def layout : Layout := { leastPositional := -4, mostPositional := 15, exponentDigits := 2 }

/-- A decimal with a point in place. -/
def positional (digits : List Char) (exponent : Int) : List Char :=
  let point : Int := digits.length + exponent
  if point ≤ 0 then '0' :: '.' :: List.replicate (-point).toNat '0' ++ digits
  else
    let whole := digits.take point.toNat ++ List.replicate exponent.toNat '0'
    let fraction := digits.drop point.toNat
    whole ++ '.' :: if fraction = [] then ['0'] else fraction

/-- A decimal with an exponent. -/
def scientific (style : Layout) (digits : List Char) (exponent : Int) : List Char :=
  let leading := exponent + digits.length - 1
  let places := Nat.toDigits 10 leading.natAbs
  let mantissa :=
    match digits with
    | first :: second :: rest => first :: '.' :: second :: rest
    | short => short
  mantissa ++ 'e' :: (if leading < 0 then '-' else '+') ::
    List.replicate (style.exponentDigits - places.length) '0' ++ places

/-- The text of a decimal. -/
def Decimal.text (style : Layout) (d : Decimal) : List Char :=
  let digits := Nat.toDigits 10 d.digits
  let leading := d.exponent + digits.length - 1
  if style.leastPositional ≤ leading && leading ≤ style.mostPositional then positional digits d.exponent
  else scientific style digits d.exponent

/-- The text of a number. -/
def text : Binary64 → String
  | nan => "nan"
  | infinite negative => if negative then "-inf" else "inf"
  | finite negative m e =>
    let digits := if m = 0 then "0.0".toList else (shortest m e).text layout
    String.ofList (if negative then '-' :: digits else digits)

/-! ### Reading -/

/-- The number with the given decimal digits. -/
def digitsValue (digits : List Char) : Nat := digits.foldl (fun n c => n * 10 + (c.toNat - '0'.toNat)) 0

/-- Reads an exponent, which is missing or has the letter `e`, perhaps a sign, and digits. -/
def readExponent? : List Char → Option Int
  | [] => some 0
  | e :: rest =>
    let (negative, digits) :=
      match rest with
      | '-' :: digits => (true, digits)
      | '+' :: digits => (false, digits)
      | digits => (false, digits)
    if (e = 'e' || e = 'E') && digits ≠ [] && digits.all Char.isDigit then
      some (if negative then -(digitsValue digits : Int) else digitsValue digits)
    else none

/-- Reads digits with a point among them or beside them and an exponent. -/
def readUnsigned? (negative : Bool) (text : List Char) : Option Binary64 := do
  let (whole, rest) := text.span Char.isDigit
  let (fraction, rest) :=
    match rest with
    | '.' :: rest => rest.span Char.isDigit
    | rest => ([], rest)
  let exponent ← readExponent? rest
  guard (whole ++ fraction ≠ [])
  return ofDecimal negative (digitsValue (whole ++ fraction)) (exponent - fraction.length)

/-- Reads the text of a number. -/
def ofText? (text : String) : Option Binary64 :=
  let (negative, body) :=
    match text.toList with
    | '-' :: body => (true, body)
    | '+' :: body => (false, body)
    | body => (false, body)
  if body = "inf".toList then some (infinite negative)
  else if body = "nan".toList then some nan
  else readUnsigned? negative body

end Dcpu16.Binary64
