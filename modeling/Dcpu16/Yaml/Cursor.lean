/-!
Positions in a text. A cursor knows the text after it and where it is: its index, its line and its column, all
counted from zero. A carriage return with a line feed after it ends one line.
-/

namespace Dcpu16.Yaml

/-! ### Characters -/

/-- Whether a character breaks a line. -/
def isBreak (c : Char) : Bool := ['\n', '\r', '\x85', '\u2028', '\u2029'].contains c

/-- Whether a character is a space or a tab. -/
def isGap (c : Char) : Bool := c = ' ' || c = '\t'

/-- Whether a character separates words. -/
def isSpace (c : Char) : Bool := isGap c || isBreak c

/-- Whether a character can occur in a document. -/
def isAllowed (c : Char) : Bool :=
  let n := c.toNat
  n = 0x09 || n = 0x0A || n = 0x0D || (0x20 ≤ n && n ≤ 0x7E) || n = 0x85 || (0xA0 ≤ n && n ≤ 0xD7FF) ||
    (0xE000 ≤ n && n ≤ 0xFFFD) || 0x10000 ≤ n

/-! ### Cursors -/

/-- A position in a text of a size. -/
structure Cursor where
  rest : List Char
  size : Nat
  index : Nat := 0
  line : Nat := 0
  column : Nat := 0

namespace Cursor

/-- The start of a text. -/
def start (text : List Char) : Cursor := { rest := text, size := text.length }

variable (c : Cursor)

/-- A bound that no walk from the cursor to the end of the text reaches. -/
def bound : Nat := c.size + 1 - c.index

/-- The character after the cursor. -/
def peek : Option Char := c.rest.head?

/-- The character at a distance after the cursor. -/
def peekAt (distance : Nat) : Option Char := c.rest[distance]?

/-- Whether the character after the cursor passes a test. -/
def sees (test : Char → Bool) : Bool := c.peek.any test

/-- Whether the text ends at a distance or a character there passes a test. -/
def endsAt (distance : Nat) (test : Char → Bool) : Bool := (c.peekAt distance).all test

/-- Moves past one character. -/
def next : Cursor :=
  match c.rest with
  | [] => c
  | ch :: rest =>
    if isBreak ch && !(ch = '\r' && rest.head? = some '\n') then
      { c with rest, index := c.index + 1, line := c.line + 1, column := 0 }
    else
      { c with rest, index := c.index + 1, column := if ch = '\uFEFF' then c.column else c.column + 1 }

/-- Moves past a number of characters. -/
def skip : Nat → Cursor → Cursor
  | 0, c => c
  | n + 1, c => skip n c.next

/-- The characters after the cursor that pass a test, and the cursor after them. -/
def takeWhile (test : Char → Bool) : List Char × Cursor :=
  let taken := c.rest.takeWhile test
  (taken, c.skip taken.length)

/-- Moves past the characters that pass a test. -/
def dropWhile (test : Char → Bool) : Cursor := (c.takeWhile test).2

/-- Moves past a line break, if there is one, and gives the character it stands for. -/
def lineBreak? : Option (Char × Cursor) :=
  match c.rest with
  | '\r' :: '\n' :: _ => some ('\n', c.skip 2)
  | ch :: _ =>
    if !isBreak ch then none
    else some (if ch = '\u2028' || ch = '\u2029' then ch else '\n', c.next)
  | [] => none

/-- Whether a document marker, three equal characters before a space, follows. -/
def seesMarker (mark : Char) : Bool :=
  c.rest.take 3 = [mark, mark, mark] && c.endsAt 3 isSpace

/-- Whether the document ends or another one begins here. -/
def seesBoundary : Bool := c.seesMarker '-' || c.seesMarker '.'

end Cursor

end Dcpu16.Yaml
