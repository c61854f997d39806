import Dcpu16.Yaml.Block
import Dcpu16.Yaml.Plain

/-!
Tokens of a document. Indentation becomes tokens of its own: a list or a map that is laid out in lines starts
with a token and ends with one when a line is indented less.

Tokens are read one at a time, and no further than the next one needs. That a text is a key only shows at the
colon after it, so places where a key may have started are remembered, one for each level of brackets, and the
token for the key is put in front of them later; a token that may yet prove to be a key is not given out. A key
ends on the line it starts on and is at most 1024 characters long.
-/

namespace Dcpu16.Yaml

/-- A token of a document. A text is either plain, and may stand for something else than a text, or not. -/
inductive Token where
  | documentStart
  | documentEnd
  | linesOfList
  | linesOfMap
  | linesEnd
  | openList
  | closeList
  | openMap
  | closeMap
  | comma
  | entry
  | key
  | value
  | alias (name : String)
  | anchor (name : String)
  | plain (word : String)
  | text (t : Text)
  | streamEnd
  deriving DecidableEq, Repr

/-- A place where a key may have started: the number of its token and where it is. A key is required where the
indentation admits nothing else. -/
structure KeyPlace where
  position : Nat
  required : Bool
  index : Nat
  line : Nat
  column : Nat

/-- A text that has been read up to a cursor. Of the tokens so far, those in the queue have not been taken. -/
structure Lexer where
  cursor : Cursor
  queue : List Token := []
  taken : Nat := 0
  indent : Int := -1
  outer : List Int := []
  depth : Nat := 0
  keyAllowed : Bool := true
  keys : List (Nat × KeyPlace) := []
  finished : Bool := false

namespace Lexer

/-- The start of a text. A byte order mark there is skipped. -/
def start (text : List Char) : Lexer :=
  let cursor := Cursor.start text
  { cursor := if cursor.sees (· = '\uFEFF') then cursor.next else cursor }

variable (l : Lexer)

/-- The number of the token that comes next. -/
def count : Nat := l.taken + l.queue.length

/-- Appends a token. -/
def emit (t : Token) : Lexer := { l with queue := l.queue ++ [t] }

/-- Puts a token in front of the one with a number. -/
def emitAt (position : Nat) (t : Token) : Lexer := { l with queue := l.queue.insertIdx (position - l.taken) t }

/-- Whether the cursor is inside brackets. -/
def inBrackets : Bool := l.depth ≠ 0

/-! ### Keys -/

/-- Forgets the places where a key can no longer have started. -/
def dropStaleKeys : Except Error Lexer :=
  let stale := fun (_, k) => k.line ≠ l.cursor.line || l.cursor.index - k.index > 1024
  if l.keys.any fun k => stale k && k.2.required then .error .unfinishedKey
  else .ok { l with keys := l.keys.filter (!stale ·) }

/-- Forgets the place at this level of brackets. -/
def removeKey : Except Error Lexer :=
  match l.keys.lookup l.depth with
  | some k =>
    if k.required then .error .unfinishedKey
    else .ok { l with keys := l.keys.filter (·.1 ≠ l.depth) }
  | none => .ok l

/-- Remembers the cursor as a place where a key may start. -/
def saveKey : Except Error Lexer := do
  if !l.keyAllowed then return l
  let l ← l.removeKey
  let place : KeyPlace :=
    { position := l.count
      required := !l.inBrackets && l.indent = l.cursor.column
      index := l.cursor.index
      line := l.cursor.line
      column := l.cursor.column }
  return { l with keys := (l.depth, place) :: l.keys }

/-! ### Indentation -/

/-- Ends the lists and maps that are indented more than a column. -/
def unwindFrom (column : Int) (l : Lexer) : List Int → Lexer
  | [] => l
  | indent :: outer =>
    if l.indent > column then unwindFrom column { l.emit .linesEnd with indent, outer } outer else l

/-- Ends the lists and maps that are indented more than a column, which counts only outside brackets. -/
def unwind (column : Int) : Lexer := if l.inBrackets then l else unwindFrom column l l.outer

/-- Starts a list or map at a column that is indented more than what is around it. -/
def indentTo (column : Nat) (position : Nat) (t : Token) : Lexer :=
  if l.indent < column then
    { l.emitAt position t with indent := column, outer := l.indent :: l.outer }
  else l

/-! ### Tokens -/

/-- Moves over spaces, comments and line breaks; after a line break outside brackets a key may start. -/
def skipBlank (fuel : Nat) (l : Lexer) : Lexer :=
  let c := l.cursor.dropWhile (· = ' ')
  let c := if c.sees (· = '#') then c.dropWhile (!isBreak ·) else c
  match fuel, c.lineBreak? with
  | 0, _ | _, none => { l with cursor := c }
  | fuel + 1, some (_, c) => skipBlank fuel { l with cursor := c, keyAllowed := l.keyAllowed || !l.inBrackets }

/-- Appends a token of some characters. -/
def sign (t : Token) (length : Nat) : Lexer := { l.emit t with cursor := l.cursor.skip length }

/-- Ends everything that is open for a document marker. -/
def marker (t : Token) : Except Error Lexer := do
  let l ← (l.unwind (-1)).removeKey
  return ({ l with keyAllowed := false }).sign t 3

/-- Opens a bracket. -/
def openBracket (t : Token) : Except Error Lexer := do
  let l ← l.saveKey
  return ({ l with depth := l.depth + 1, keyAllowed := true }).sign t 1

/-- Closes a bracket. -/
def closeBracket (t : Token) : Except Error Lexer := do
  if !l.inBrackets then throw .badStructure
  let l ← l.removeKey
  return ({ l with depth := l.depth - 1, keyAllowed := false }).sign t 1

/-- Reads a comma. -/
def comma : Except Error Lexer := do
  let l ← l.removeKey
  return ({ l with keyAllowed := true }).sign .comma 1

/-- Reads the dash of an entry. -/
def entry : Except Error Lexer := do
  if !l.inBrackets && !l.keyAllowed then throw .misplaced
  let l := if l.inBrackets then l else l.indentTo l.cursor.column l.count .linesOfList
  let l ← l.removeKey
  return ({ l with keyAllowed := true }).sign .entry 1

/-- Reads a question mark before a key. -/
def explicitKey : Except Error Lexer := do
  if !l.inBrackets && !l.keyAllowed then throw .misplaced
  let l := if l.inBrackets then l else l.indentTo l.cursor.column l.count .linesOfMap
  let l ← l.removeKey
  return ({ l with keyAllowed := !l.inBrackets }).sign .key 1

/-- Reads the colon before a value. The key before it, if there is one, gets its token now. -/
def value : Except Error Lexer := do
  match l.keys.lookup l.depth with
  | some k =>
    let l := { l with keys := l.keys.filter (·.1 ≠ l.depth) }.emitAt k.position .key
    let l := if l.inBrackets then l else l.indentTo k.column k.position .linesOfMap
    return ({ l with keyAllowed := false }).sign .value 1
  | none =>
    if !l.inBrackets && !l.keyAllowed then throw .misplaced
    let l := if l.inBrackets then l else l.indentTo l.cursor.column l.count .linesOfMap
    let l ← l.removeKey
    return ({ l with keyAllowed := !l.inBrackets }).sign .value 1

/-- Whether a character can occur in the name of an anchor. -/
def isNameChar (c : Char) : Bool := c.isAlphanum || c = '-' || c = '_'

/-- Reads an anchor or an alias. -/
def name (t : String → Token) : Except Error Lexer := do
  let l ← l.saveKey
  let (name, c) := l.cursor.next.takeWhile isNameChar
  if name = [] || !c.endsAt 0 fun ch => isSpace ch || "?:,]\x7d%@\x60".toList.contains ch then throw .badName
  return { ({ l with keyAllowed := false }).emit (t (String.ofList name)) with cursor := c }

/-- Reads a quoted text. -/
def quoted : Except Error Lexer := do
  let l ← l.saveKey
  let (text, c) ← Quoted.read l.cursor
  return { ({ l with keyAllowed := false }).emit (.text text) with cursor := c }

/-- Reads a plain text. -/
def plain : Except Error Lexer := do
  let l ← l.saveKey
  let result := Plain.read ⟨l.inBrackets, l.indent + 1⟩ l.cursor
  return { l.emit (.plain (String.ofList result.chars)) with
    cursor := result.cursor
    keyAllowed := result.crossed }

/-- Reads a block text. -/
def block : Except Error Lexer := do
  let l ← l.removeKey
  let (chars, c) ← Block.read l.indent l.cursor
  return { ({ l with keyAllowed := true }).emit (.text (Text.ofChars chars)) with cursor := c }

/-- Reads the next token; the cursor is on its first character. -/
def token (first : Char) : Except Error Lexer :=
  let c := l.cursor
  if c.column = 0 && c.seesMarker '-' then l.marker .documentStart
  else if c.column = 0 && c.seesMarker '.' then l.marker .documentEnd
  else
    match first with
    | '[' => l.openBracket .openList
    | '\x7b' => l.openBracket .openMap
    | ']' => l.closeBracket .closeList
    | '\x7d' => l.closeBracket .closeMap
    | ',' => l.comma
    | '*' => l.name .alias
    | '&' => l.name .anchor
    | '\x27' => l.quoted
    | '"' => l.quoted
    | _ =>
      let apart := c.endsAt 1 isSpace
      if first = '-' && apart then l.entry
      else if first = '?' && (l.inBrackets || apart) then l.explicitKey
      else if first = ':' && (l.inBrackets || apart) then l.value
      else if (first = '|' || first = '>') && !l.inBrackets then l.block
      else if Plain.starts l.inBrackets c then l.plain
      else .error .unexpectedCharacter

/-- Ends everything that is open at the end of the text. -/
def finish : Except Error Lexer := do
  let l ← (l.unwind (-1)).removeKey
  return { l.emit .streamEnd with keys := [], finished := true }

/-- Reads on for one more token. -/
def fetch : Except Error Lexer := do
  let l ← (skipBlank l.cursor.bound l).dropStaleKeys
  let l := l.unwind l.cursor.column
  match l.cursor.peek with
  | none => l.finish
  | some first => l.token first

/-! ### Taking tokens -/

/-- Reads on until the next token is certain: there is one, and it cannot prove to be a key any more. -/
def fill (fuel : Nat) (l : Lexer) : Except Error Lexer :=
  match fuel with
  | 0 => .ok l
  | fuel + 1 => do
    if l.finished then return l
    let l ← l.dropStaleKeys
    if l.queue.isEmpty || l.keys.any (·.2.position = l.taken) then fill fuel (← l.fetch) else return l

/-- The text with its next token certain. Every further token takes a character or ends the text. -/
def ready : Except Error Lexer := l.fill (l.cursor.bound + 1)

/-- The token at the front of the queue. -/
def front : Token := l.queue.head?.getD .streamEnd

/-- Takes the token at the front of the queue. -/
def take : Lexer := { l with queue := l.queue.drop 1, taken := l.taken + 1 }

end Lexer

end Dcpu16.Yaml
