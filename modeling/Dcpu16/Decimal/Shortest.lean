import Dcpu16.Decimal.Binary64

/-!
The shortest decimal that reads back. Around a finite number lies the interval of all reals that round to it,
which includes its ends exactly if the mantissa is even. Of the decimals in the interval the shortest is taken,
of two such the nearer, and of two equally near the one with the even last digit.
-/

namespace Dcpu16.Binary64

/-- A positive decimal, an integer times a power of ten. -/
structure Decimal where
  digits : Nat
  exponent : Int
  deriving DecidableEq, Repr

/-- The ratio of a decimal. -/
def Decimal.ratio (d : Decimal) : Nat × Nat :=
  let (up, down) := powerOfTen d.exponent
  (d.digits * up, down)

/-- The exponent of the first digit of a positive ratio. -/
def leadingExponent (num den : Nat) : Int :=
  if den ≤ num then ((Nat.toDigits 10 (num / den)).length : Int) - 1
  else
    let places := (Nat.toDigits 10 (den / num)).length
    if den ≤ num * Nat.pow 10 (places - 1) then 1 - (places : Int) else -(places : Int)

/-- Whether a decimal lies in the interval of the reals that round to `mantissa * 2 ^ exponent`. Below a power
of two the numbers lie twice as close, and so does the end of the interval. -/
def roundsTo (mantissa : Nat) (exponent : Int) (d : Decimal) : Bool :=
  let close := 2 * mantissa = mantissaBound && exponent > -1074
  let (low, lowDen) := ratio (4 * mantissa - if close then 1 else 2) (exponent - 2)
  let (high, highDen) := ratio (4 * mantissa + 2) (exponent - 2)
  let (num, den) := d.ratio
  if mantissa % 2 = 0 then low * den ≤ num * lowDen && num * highDen ≤ high * den
  else low * den < num * lowDen && num * highDen < high * den

/-- The decimal of a number of digits that lies in the interval and is the nearest to the number. -/
def nearestWith? (mantissa : Nat) (exponent : Int) (count : Nat) : Option Decimal :=
  let (num, den) := ratio mantissa exponent
  let place := leadingExponent num den - count + 1
  let (up, down) := powerOfTen place
  let below := num * down / (den * up)
  let candidates := [⟨below, place⟩, ⟨below + 1, place⟩].filter (roundsTo mantissa exponent)
  candidates.find? (·.digits = roundDiv (num * down) (den * up)) <|> candidates.head?

/-- The decimal without zeros at its end. -/
def trimZeros : Nat → Decimal → Decimal
  | 0, d => d
  | fuel + 1, d =>
    if d.digits % 10 = 0 && d.digits ≠ 0 then trimZeros fuel ⟨d.digits / 10, d.exponent + 1⟩ else d

/-- The shortest decimal that reads back as a positive finite number. -/
def shortest (mantissa : Nat) (exponent : Int) : Decimal :=
  let found := (List.range 17).findSome? fun count => nearestWith? mantissa exponent (count + 1)
  trimZeros 18 (found.getD ⟨mantissa, exponent⟩)

end Dcpu16.Binary64
