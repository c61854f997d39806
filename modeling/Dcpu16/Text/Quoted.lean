import Dcpu16.Numeral.Digit
import Dcpu16.Text.Printable

/-!
Quoted text for messages. The quote is single unless the text holds single quotes and no double ones. The quote
itself, the backslash and everything unprintable are escaped, so what is written consists of characters.
-/

namespace Dcpu16.Text

open Numeral (HexStyle)

/-- A quotation mark. -/
inductive Quote where
  | single
  | double
  deriving DecidableEq, Repr

namespace Quote

/-- The character of a quotation mark. -/
def char : Quote → Char
  | single => '\x27'
  | double => '"'

/-- The mark that needs fewer escapes, the single one if it makes no difference. -/
def forText (text : Text) : Quote :=
  if text.contains (.char '\x27') && !text.contains (.char '"') then double else single

end Quote

/-- A code point by its number, in two, four or eight digits. -/
def numbered (code : Nat) : List Char :=
  let (letter, width) := if code < 0x100 then ('x', 2) else if code < 0x10000 then ('u', 4) else ('U', 8)
  '\\' :: letter :: (HexStyle.text { width } code).toList

/-- A code point as it stands between quotation marks. -/
def escape (quote : Quote) : CodePoint → List Char
  | .char c =>
    if c = quote.char || c = '\\' then ['\\', c]
    else if c = '\n' then ['\\', 'n']
    else if c = '\r' then ['\\', 'r']
    else if c = '\t' then ['\\', 't']
    else if isPrintable (.char c) then [c]
    else numbered c.toNat
  | p => numbered p.code

/-- The characters of a text between quotation marks. -/
def quotedChars (text : Text) : List Char :=
  let quote := Quote.forText text
  quote.char :: text.flatMap (escape quote) ++ [quote.char]

/-- A text between quotation marks. -/
def quoted (text : Text) : String := String.ofList (quotedChars text)

end Dcpu16.Text
