/-!
Numbers of the binary64 format, as exact values. A finite number is a mantissa below `2 ^ 53` times a power of
two, with the greatest mantissa that its exponent allows; the least exponent is `-1074`. Rounding takes the
nearest number, and a tie goes to the even mantissa.
-/

namespace Dcpu16

/-- A number of the binary64 format. -/
inductive Binary64 where
  | nan
  | infinite (negative : Bool)
  | finite (negative : Bool) (mantissa : Nat) (exponent : Int)
  deriving DecidableEq, Repr

namespace Binary64

/-- The quotient of two numbers rounded to the nearest number, a tie going to the even one. -/
def roundDiv (num den : Nat) : Nat :=
  let q := num / den
  let twice := 2 * (num % den)
  if twice < den || (twice = den && q % 2 = 0) then q else q + 1

/-- The bound that mantissas stay below, `2 ^ 53`. -/
def mantissaBound : Nat := 0x20000000000000

/-- A power of two as a ratio. -/
def powerOfTwo (e : Int) : Nat × Nat := (Nat.pow 2 e.toNat, Nat.pow 2 (-e).toNat)

/-- A power of ten as a ratio. -/
def powerOfTen (e : Int) : Nat × Nat := (Nat.pow 10 e.toNat, Nat.pow 10 (-e).toNat)

/-- The exponent at which a positive ratio has a mantissa of 53 bits, or the least exponent. -/
def exponentOf (num den : Nat) : Int :=
  let guess : Int := (Nat.log2 num : Int) - Nat.log2 den - 53
  let (up, down) := powerOfTwo guess
  max (-1074) (if num * down / (den * up) < mantissaBound then guess else guess + 1)

/-- The number nearest to a ratio with a sign. -/
def ofRatio (negative : Bool) (num den : Nat) : Binary64 :=
  if num = 0 then finite negative 0 (-1074)
  else
    let e := exponentOf num den
    let (up, down) := powerOfTwo e
    let m := roundDiv (num * down) (den * up)
    let (m, e) := if m = mantissaBound then (m / 2, e + 1) else (m, e)
    if e > 971 then infinite negative else finite negative m e

/-- The number nearest to an integer with a power of ten. Exponents past the range of the format are answered
without computing the power. -/
def ofDecimal (negative : Bool) (digits : Nat) (exponent : Int) : Binary64 :=
  let size : Int := (Nat.toDigits 10 digits).length + exponent
  if digits = 0 then finite negative 0 (-1074)
  else if size > 310 then infinite negative
  else if size < -330 then finite negative 0 (-1074)
  else
    let (up, down) := powerOfTen exponent
    ofRatio negative (digits * up) down

/-- A finite number as a ratio, without its sign. -/
def ratio (mantissa : Nat) (exponent : Int) : Nat × Nat :=
  let (up, down) := powerOfTwo exponent
  (mantissa * up, down)

/-- The product of two numbers, rounded. -/
def times (x y : Binary64) : Binary64 :=
  match x, y with
  | nan, _ => nan
  | _, nan => nan
  | finite s m e, finite s' m' e' =>
    let (a, b) := ratio m e
    let (c, d) := ratio m' e'
    ofRatio (s != s') (a * c) (b * d)
  | infinite s, infinite s' => infinite (s != s')
  | infinite s, finite s' m _ => if m = 0 then nan else infinite (s != s')
  | finite s m _, infinite s' => if m = 0 then nan else infinite (s != s')

/-- The number nearest to a natural number, if that is in the range of finite numbers. -/
def ofNat? (n : Nat) : Option Binary64 :=
  match ofRatio false n 1 with
  | infinite _ => none
  | x => some x

/-- The sum of two numbers without a sign, rounded. -/
def plus (x y : Binary64) : Binary64 :=
  match x, y with
  | finite _ m e, finite _ m' e' =>
    let (a, b) := ratio m e
    let (c, d) := ratio m' e'
    ofRatio false (a * d + c * b) (b * d)
  | finite _ _ _, other => other
  | other, _ => other

/-- The number with the other sign, if it is to be negated. -/
def signed (negative : Bool) : Binary64 → Binary64
  | nan => nan
  | infinite s => infinite (s != negative)
  | finite s m e => finite (s != negative) m e

/-- Whether a number is a zero. -/
def isZero : Binary64 → Bool
  | finite _ m _ => m = 0
  | _ => false

/-- Whether a number is exactly an integer. -/
def equalsInt (x : Binary64) (n : Int) : Bool :=
  match x with
  | finite negative m e =>
    let (num, den) := ratio m e
    decide ((if negative then -(num : Int) else num) = n * den)
  | _ => false

/-- Whether a value is not a number. -/
def isNaN : Binary64 → Bool
  | nan => true
  | _ => false

/-- Whether two numbers are the same; the two zeros are, and what is not a number is the same as nothing. -/
def same (x y : Binary64) : Bool := !x.isNaN && (x = y || (x.isZero && y.isZero))

end Binary64

end Dcpu16
