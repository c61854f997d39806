/-!
Digits. A number is read from the values of its digits, the most significant first. In base sixteen a number is written
in a style, which fixes the least width, counting the sign and the marker, the marker before the digits and the case of
the letters; zeros fill the space between the marker and the digits.
-/

namespace Dcpu16.Numeral

/-! ### Values -/

/-- The value of an ASCII digit in a base of at most sixteen. -/
def digitValue? (base : Nat) (c : Char) : Option Nat :=
  let value :=
    if '0' ≤ c && c ≤ '9' then some (c.toNat - '0'.toNat)
    else if 'a' ≤ c && c ≤ 'f' then some (c.toNat - 'a'.toNat + 10)
    else if 'A' ≤ c && c ≤ 'F' then some (c.toNat - 'A'.toNat + 10)
    else none
  value.filter (· < base)

/-- The number with the given digits, the most significant first. -/
def ofDigits (base : Nat) (digits : List Nat) : Nat := digits.foldl (fun n d => n * base + d) 0

/-! ### Base sixteen -/

/-- How an integer is written in base sixteen. -/
structure HexStyle where
  width : Nat := 0
  marker : List Char := []
  capital : Bool := false

/-- The digits of a number in base sixteen. -/
def hexDigits (capital : Bool) (n : Nat) : List Char :=
  let digits := Nat.toDigits 16 n
  if capital then digits.map Char.toUpper else digits

/-- The text of an integer in a style. -/
def HexStyle.text (style : HexStyle) (n : Int) : String :=
  let opening := (if n < 0 then ['-'] else []) ++ style.marker
  let digits := hexDigits style.capital n.natAbs
  let zeros := List.replicate (style.width - opening.length - digits.length) '0'
  String.ofList (opening ++ zeros ++ digits)

end Dcpu16.Numeral
