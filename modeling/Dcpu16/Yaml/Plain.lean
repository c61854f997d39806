import Dcpu16.Yaml.Quoted

/-!
Plain texts, which have no quotes. A plain text ends at a colon with a space after it, at a comment, at a line
that is indented too little, and inside brackets also at the signs that structure them. It may go on over
several lines, which are joined like those of a quoted text.
-/

namespace Dcpu16.Yaml.Plain

/-- Where a plain text stands: inside brackets or not, and the least column of its further lines. -/
structure Place where
  inBrackets : Bool
  column : Int

/-- Whether a plain text can start at a cursor. -/
def starts (inBrackets : Bool) (c : Cursor) : Bool :=
  match c.peek with
  | none => false
  | some ch =>
    !(isSpace ch || "-?:,[]\x7b\x7d#&*!|>'\"%@\x60".toList.contains ch) ||
      (!c.endsAt 1 isSpace && (ch = '-' || (!inBrackets && (ch = '?' || ch = ':'))))

/-- Whether a plain text ends before the first of some characters. -/
def stopsAt (inBrackets : Bool) : List Char → Bool
  | [] => true
  | ch :: rest =>
    isSpace ch
      || (ch = ':' && rest.head?.all fun d => isSpace d || (inBrackets && ",[]\x7b\x7d".toList.contains d))
      || (inBrackets && ",?[]\x7b\x7d".toList.contains ch)

/-- The number of characters up to the end of a word. -/
def wordLength (inBrackets : Bool) : List Char → Nat
  | [] => 0
  | ch :: rest => if stopsAt inBrackets (ch :: rest) then 0 else 1 + wordLength inBrackets rest

/-- What stands between two words: characters, the cursor after them, and whether there was a line break. No
text can go on after a missing joint. -/
structure Joint where
  chars : List Char
  cursor : Cursor
  crossed : Bool

/-- Moves over spaces and blank lines; nothing is given back if the document ends in between. -/
def breaks (fuel : Nat) (c : Cursor) : Option (List Char) × Cursor :=
  match fuel with
  | 0 => (some [], c)
  | fuel + 1 =>
    if c.sees (· = ' ') then breaks fuel c.next
    else
      match c.lineBreak? with
      | none => (some [], c)
      | some (ch, c) =>
        if c.seesBoundary then (none, c)
        else
          let (rest, c) := breaks fuel c
          (rest.map (ch :: ·), c)

/-- Reads what stands after a word. -/
def joint (c : Cursor) : Joint :=
  let (spaces, c) := c.takeWhile (· = ' ')
  match c.lineBreak? with
  | none => ⟨spaces, c, false⟩
  | some (first, c) =>
    if c.seesBoundary then ⟨[], c, true⟩
    else
      match breaks c.bound c with
      | (none, c) => ⟨[], c, true⟩
      | (some more, c) =>
        ⟨(if first ≠ '\n' then [first] else if more = [] then [' '] else []) ++ more, c, true⟩

/-- A plain text with the cursor after it and the joint after its last word. -/
structure Result where
  chars : List Char
  cursor : Cursor
  crossed : Bool

/-- Reads words and the joints between them. `before` is the joint before the next word. -/
def words (place : Place) (fuel : Nat) (before : Joint) : Result :=
  let c := before.cursor
  let length := if c.sees (· = '#') then 0 else wordLength place.inBrackets c.rest
  match fuel, length with
  | 0, _ | _, 0 => ⟨[], c, before.crossed⟩
  | fuel + 1, length =>
    let word := before.chars ++ c.rest.take length
    let after := joint (c.skip length)
    if after.chars = [] || after.cursor.sees (· = '#')
        || (!place.inBrackets && after.cursor.column < place.column) then
      ⟨word, after.cursor, after.crossed⟩
    else
      let result := words place fuel after
      { result with chars := word ++ result.chars }

/-- Reads a plain text. The cursor stands after the space that follows it. -/
def read (place : Place) (c : Cursor) : Result := words place c.bound ⟨[], c, false⟩

end Dcpu16.Yaml.Plain
