import Dcpu16.Yaml.Cursor
import Dcpu16.Yaml.Error

/-!
Quoted texts. Between single quotes a quote is written twice; between double quotes a backslash starts an
escape. A line break between words becomes a space, and of several breaks in a row the first disappears.
-/

namespace Dcpu16.Yaml

/-- Characters that were read, and the cursor after them. -/
abbrev Piece := List Char × Cursor

/-- A text that was read, and the cursor after it. -/
abbrev Passage := Text × Cursor

namespace Quoted

/-- The characters that one letter after a backslash stands for. -/
def shortEscapes : List (Char × Char) :=
  [('0', '\x00'), ('a', '\x07'), ('b', '\x08'), ('t', '\t'), ('\t', '\t'), ('n', '\n'), ('v', '\x0b'),
    ('f', '\x0c'), ('r', '\r'), ('e', '\x1b'), (' ', ' '), ('"', '"'), ('\\', '\\'), ('/', '/'),
    ('N', '\x85'), ('_', '\xa0'), ('L', '\u2028'), ('P', '\u2029')]

/-- The number of digits after the letters of numbered escapes. -/
def numberedEscapes : List (Char × Nat) := [('x', 2), ('u', 4), ('U', 8)]

/-- The code point with the number in an escape. -/
def codePoint (code : Nat) : Except Error CodePoint :=
  if code < 0x110000 then .ok (.ofNat code) else .error (if code < 0x80000000 then .codeRange else .codeWidth)

/-- Moves over blank lines and the spaces around them and gives the breaks. -/
def breaks (fuel : Nat) (c : Cursor) : Except Error Piece :=
  match fuel with
  | 0 => .ok ([], c)
  | fuel + 1 =>
    if c.seesBoundary then .error .unfinishedText
    else
      let c := c.dropWhile isGap
      match c.lineBreak? with
      | none => .ok ([], c)
      | some (ch, c) => do
        let (rest, c) ← breaks fuel c
        return (ch :: rest, c)

/-- Reads the spaces or the line breaks between two words. -/
def gap (c : Cursor) : Except Error Piece :=
  let (spaces, c) := c.takeWhile isGap
  if c.rest = [] then .error .unfinishedText
  else
    match c.lineBreak? with
    | none => .ok (spaces, c)
    | some (first, c) => do
      let (more, c) ← breaks c.bound c
      let joint := if first ≠ '\n' then [first] else if more = [] then [' '] else []
      return (joint ++ more, c)

/-- Reads the escape after a backslash. -/
def escape (c : Cursor) : Except Error Passage :=
  match c.peek with
  | none => .error .badEscape
  | some letter =>
    match shortEscapes.lookup letter, numberedEscapes.lookup letter with
    | some ch, _ => .ok ([.char ch], c.next)
    | none, some count =>
      let c := c.next
      let digits := c.rest.take count
      if digits.length = count && digits.all fun d => (Numeral.digitValue? 16 d).isSome then do
        let p ← codePoint (Numeral.ofDigits 16 (digits.filterMap (Numeral.digitValue? 16)))
        return ([p], c.skip count)
      else .error .badEscape
    | none, none =>
      match c.lineBreak? with
      | none => .error .badEscape
      | some (_, c) => do
        let (more, c) ← breaks c.bound c
        return (Text.ofChars more, c)

/-- Reads a text up to its closing quote. -/
def body (quote : Char) (fuel : Nat) (c : Cursor) : Except Error Passage :=
  match fuel with
  | 0 => .error .unfinishedText
  | fuel + 1 =>
    match c.peek with
    | none => .error .unfinishedText
    | some ch => do
      if ch = quote then
        if quote = '\x27' && c.peekAt 1 = some quote then
          let (rest, c) ← body quote fuel (c.skip 2)
          return (.char quote :: rest, c)
        else return ([], c.next)
      else
        let (first, c) ←
          if isSpace ch then (gap c).map fun (more, c) => (Text.ofChars more, c)
          else if quote = '"' && ch = '\\' then escape c.next
          else .ok ([.char ch], c.next)
        let (rest, c) ← body quote fuel c
        return (first ++ rest, c)

/-- Reads a quoted text from its opening quote on. -/
def read (c : Cursor) : Except Error Passage := body (c.peek.getD '"') c.bound c.next

end Quoted

end Dcpu16.Yaml
