import Dcpu16.Yaml.Quoted

/-!
Block texts. The header says whether lines are folded, what happens to the breaks at the end, and perhaps how
far the lines are indented; otherwise the first line that is not blank decides.
-/

namespace Dcpu16.Yaml.Block

/-- What happens to the line breaks at the end of a block text. -/
inductive Chomping where
  | clip
  | strip
  | keep
  deriving DecidableEq, Repr

/-- The header of a block text. -/
structure Header where
  chomping : Chomping := .clip
  indent : Option Nat := none

/-! ### Headers -/

/-- Reads a sign for the breaks at the end. -/
def chompingSign (c : Cursor) : Chomping × Cursor :=
  match c.peek with
  | some '+' => (.keep, c.next)
  | some '-' => (.strip, c.next)
  | _ => (.clip, c)

/-- Reads a digit for the indentation, which is not zero. -/
def indentDigit (c : Cursor) : Except Error (Option Nat × Cursor) :=
  match c.peek with
  | some d =>
    if !d.isDigit then .ok (none, c)
    else if d = '0' then .error .badHeader
    else .ok (some (d.toNat - '0'.toNat), c.next)
  | none => .ok (none, c)

/-- Reads a sign and a digit in either order. -/
def indicators (c : Cursor) : Except Error (Header × Cursor) := do
  let (chomping, c) := chompingSign c
  let (indent, c) ← indentDigit c
  let (chomping, c) := if chomping = .clip then chompingSign c else (chomping, c)
  return ({ chomping, indent }, c)

/-- Reads the rest of the line of the header, which may hold a comment. -/
def endOfHeader (c : Cursor) : Except Error Cursor :=
  if !c.endsAt 0 fun ch => ch = ' ' || isBreak ch then .error .badHeader
  else
    let c := c.dropWhile (· = ' ')
    let c := if c.sees (· = '#') then c.dropWhile (!isBreak ·) else c
    match c.lineBreak? with
    | some (_, c) => .ok c
    | none => if c.rest = [] then .ok c else .error .badHeader

/-! ### Lines -/

/-- Moves over blank lines and leading spaces; gives the breaks and the greatest column reached. -/
def leading (fuel deepest : Nat) (c : Cursor) : List Char × Nat × Cursor :=
  match fuel with
  | 0 => ([], deepest, c)
  | fuel + 1 =>
    if c.sees (· = ' ') then
      let c := c.next
      leading fuel (max deepest c.column) c
    else
      match c.lineBreak? with
      | none => ([], deepest, c)
      | some (ch, c) =>
        let (rest, deepest, c) := leading fuel deepest c
        (ch :: rest, deepest, c)

/-- Moves over spaces up to a column. -/
def indentTo (column : Nat) (c : Cursor) : Cursor :=
  c.skip (min (column - c.column) (c.rest.takeWhile (· = ' ')).length)

/-- Moves over blank lines to the next line at a column; gives the breaks. -/
def breaks (column fuel : Nat) (c : Cursor) : Piece :=
  let c := indentTo column c
  match fuel with
  | 0 => ([], c)
  | fuel + 1 =>
    match c.lineBreak? with
    | none => ([], c)
    | some (ch, c) =>
      let (rest, c) := breaks column fuel c
      (ch :: rest, c)

/-- Reads the lines of a text at a column. `before` holds the breaks before the first line. -/
def lines (folded : Bool) (chomping : Chomping) (column fuel : Nat) (before : List Char) (c : Cursor) : Piece :=
  let ending (last : List Char) (before : List Char) : List Char :=
    match chomping with
    | .strip => []
    | .clip => last
    | .keep => last ++ before
  match fuel with
  | 0 => ([], c)
  | fuel + 1 =>
    if c.column ≠ column || c.rest = [] then (ending [] before, c)
    else
      let flush := !c.sees isGap
      let (line, c) := c.takeWhile (!isBreak ·)
      let (last, c) := c.lineBreak?.elim ([], c) fun (ch, c) => ([ch], c)
      let (after, c) := breaks column c.bound c
      if c.column = column && c.rest ≠ [] then
        let joint :=
          if folded && last = ['\n'] && flush && !c.sees isGap then if after = [] then [' '] else [] else last
        let (rest, c) := lines folded chomping column fuel after c
        (before ++ line ++ joint ++ rest, c)
      else (before ++ line ++ ending last after, c)

/-- Reads a block text from its sign on; `outer` is the indentation around it. -/
def read (outer : Int) (c : Cursor) : Except Error Piece := do
  let folded := c.sees (· = '>')
  let (header, c) ← indicators c.next
  let c ← endOfHeader c
  let least := (max (outer + 1) 1).toNat
  match header.indent with
  | some n =>
    let column := least + n - 1
    let (before, c) := breaks column c.bound c
    return lines folded header.chomping column c.bound before c
  | none =>
    let (before, deepest, c) := leading c.bound 0 c
    return lines folded header.chomping (max least deepest) c.bound before c

end Dcpu16.Yaml.Block
