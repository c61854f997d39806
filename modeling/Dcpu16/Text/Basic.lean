/-!
Texts. A text is a sequence of code points. Most code points are characters; the numbers from `0xD800` to
`0xDFFF` are surrogates, which stand for a character only in pairs and only in some encodings. An escape can put
a surrogate into a text on its own, so a text has room for them. Sets of code points are given as ranges, and the
decimal digits of all scripts by their zeros, since the ten digits of a script are consecutive code points.
-/

namespace Dcpu16

/-! ### Code points -/

/-- A code point: a character or a surrogate, counted from the first one. -/
inductive CodePoint where
  | char (c : Char)
  | surrogate (n : Fin 0x800)
  deriving DecidableEq, Repr

namespace CodePoint

/-- The number of a code point. -/
def code : CodePoint → Nat
  | char c => c.toNat
  | surrogate n => 0xD800 + n.val

/-- The code point with a number. -/
def ofNat (n : Nat) : CodePoint :=
  if h : 0xD800 ≤ n ∧ n < 0xE000 then surrogate ⟨n - 0xD800, by omega⟩ else char (Char.ofNat n)

/-- The character that a code point is, if it is one. -/
def char? : CodePoint → Option Char
  | char c => some c
  | surrogate _ => none

end CodePoint

/-! ### Texts -/

/-- A text. -/
abbrev Text := List CodePoint

namespace Text

/-- The text of some characters. -/
def ofChars (cs : List Char) : Text := cs.map .char

/-- The text of a string. -/
def ofString (s : String) : Text := ofChars s.toList

instance : Coe String Text := ⟨ofString⟩

/-- The number of bytes of a code point in UTF-8. A surrogate from `0xDC80` to `0xDCFF` stands for one byte that is
no part of a character; the other surrogates have no bytes. -/
def byteCount? : CodePoint → Option Nat
  | .char c => some c.utf8Size
  | .surrogate n => if 0x480 ≤ n.val && n.val < 0x500 then some 1 else none

/-- The number of bytes of a text in UTF-8, if it has any. -/
def byteLength? (t : Text) : Option Nat := (t.mapM byteCount?).map fun counts => counts.foldl (· + ·) 0

/-! ### Ranges -/

/-- Whether a code point lies in one of some ranges, whose ends belong to them. -/
def inRanges (ranges : List (Nat × Nat)) (code : Nat) : Bool :=
  ranges.any fun (first, last) => first ≤ code && code ≤ last

/-! ### Digits -/

/-- The numbers of the zeros of all scripts. -/
def zeros : List Nat := [
    0x30, 0x660, 0x6F0, 0x7C0, 0x966, 0x9E6, 0xA66, 0xAE6, 0xB66, 0xBE6, 0xC66, 0xCE6, 0xD66, 0xDE6,
    0xE50, 0xED0, 0xF20, 0x1040, 0x1090, 0x17E0, 0x1810, 0x1946, 0x19D0, 0x1A80, 0x1A90, 0x1B50, 0x1BB0,
    0x1C40, 0x1C50, 0xA620, 0xA8D0, 0xA900, 0xA9D0, 0xA9F0, 0xAA50, 0xABF0, 0xFF10, 0x104A0, 0x10D30,
    0x11066, 0x110F0, 0x11136, 0x111D0, 0x112F0, 0x11450, 0x114D0, 0x11650, 0x116C0, 0x11730, 0x118E0,
    0x11950, 0x11C50, 0x11D50, 0x11DA0, 0x16A60, 0x16AC0, 0x16B50, 0x1D7CE, 0x1D7D8, 0x1D7E2, 0x1D7EC,
    0x1D7F6, 0x1E140, 0x1E2F0, 0x1E950, 0x1FBF0]

/-- The value of a decimal digit of any script. -/
def decimalValue? (p : CodePoint) : Option Nat :=
  (zeros.find? fun z => z ≤ p.code && p.code < z + 10).map (p.code - ·)

end Text

end Dcpu16
