import Dcpu16.Text.Basic

/-!
Lines and words of a text. A line ends at a line feed, a carriage return, the two together, a vertical tab, a form feed,
one of three information separators, the next-line control or one of the two Unicode separators. A separator at
the very end of a text starts no further line.

Words stand between blank characters, which are the characters with the White_Space property of Unicode and the four
information separators. Stripping removes them from both ends of a text, and splitting cuts a text at every run of them.
-/

namespace Dcpu16.Text

/-! ### Lines -/

/-- The numbers of the code points that end a line. -/
def lineEnds : List Nat := [0x0A, 0x0B, 0x0C, 0x0D, 0x1C, 0x1D, 0x1E, 0x85, 0x2028, 0x2029]

/-- Whether a code point ends a line. -/
def isLineEnd (p : CodePoint) : Bool := lineEnds.contains p.code

/-- The lines of a text. `line` holds the current line, last code point first. -/
def linesFrom (line : Text) : Text → List Text
  | [] => if line = [] then [] else [line.reverse]
  | .char '\r' :: .char '\n' :: rest => line.reverse :: linesFrom [] rest
  | p :: rest => if isLineEnd p then line.reverse :: linesFrom [] rest else linesFrom (p :: line) rest

/-- The lines of a text, without the breaks. -/
def lines (text : Text) : List Text := linesFrom [] text

/-- The text with a line feed for every carriage return, alone or before a line feed. -/
def feedLines : Text → Text
  | [] => []
  | .char '\r' :: .char '\n' :: rest => .char '\n' :: feedLines rest
  | .char '\r' :: rest => .char '\n' :: feedLines rest
  | p :: rest => p :: feedLines rest

/-! ### Blanks -/

/-- The numbers of the blank characters. -/
def blanks : List Nat :=
  [0x09, 0x0A, 0x0B, 0x0C, 0x0D, 0x1C, 0x1D, 0x1E, 0x1F, 0x20, 0x85, 0xA0, 0x1680, 0x2000, 0x2001, 0x2002,
    0x2003, 0x2004, 0x2005, 0x2006, 0x2007, 0x2008, 0x2009, 0x200A, 0x2028, 0x2029, 0x202F, 0x205F, 0x3000]

/-- Whether a code point is a blank. -/
def isBlank (p : CodePoint) : Bool := blanks.contains p.code

/-- The text without the code points at its end that pass a test. -/
def dropEndWhile (test : CodePoint → Bool) (text : Text) : Text := (text.reverse.dropWhile test).reverse

/-- The text without blanks at its ends. -/
def strip (text : Text) : Text := dropEndWhile isBlank (text.dropWhile isBlank)

/-- The pieces of a text between runs of blanks. -/
def words (text : Text) : List Text := (text.splitOnP isBlank).filter (· ≠ [])

end Dcpu16.Text
