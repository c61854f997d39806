import Dcpu16.Yaml.Filling

/-!
The data of a document. A reference to a list or map that does not lead back into itself gives way to the list or
map; only the others need a table.

A document in a file comes in pieces. A piece with a character that no document holds is refused when reading
gets to it, while what comes before it has been read already; so an escape in front of it that stands for no code
point is found first.
-/

namespace Dcpu16.Yaml

/-! ### References -/

/-- The value, where a reference gives way to a list or map that is known. -/
def settle (known : Array (Option Value)) : Value → Value
  | .shared n => (known[n]?.getD none).getD (.shared n)
  | v => v

/-- A list or map where references give way to lists and maps that are known. -/
def settleParts (known : Array (Option Value)) : Value → Value
  | .list items => .list (items.map (settle known))
  | .map entries => .map (entries.map fun (k, v) => (k, settle known v))
  | v => v

/-- Whether a value is not a reference. -/
def isSettled : Value → Bool
  | .shared _ => false
  | _ => true

/-- Whether a list or map contains no references. -/
def partsSettled : Value → Bool
  | .list items => items.all isSettled
  | .map entries => entries.all fun (_, v) => isSettled v
  | _ => true

/-- The lists and maps that are known after one more of them is looked at. -/
def settleOne (contents known : Array (Option Value)) (id : Nat) : Array (Option Value) :=
  match (contents[id]?.getD none).map (settleParts known) with
  | some v => if partsSettled v then known.setIfInBounds id (some v) else known
  | none => known

/-- How many lists and maps are known. -/
def knownCount (known : Array (Option Value)) : Nat := known.countP Option.isSome

/-- The lists and maps that do not lead back into themselves. They are looked at in an order until nothing
changes. -/
def settleAll (contents : Array (Option Value)) (order : Array Nat) :
    Nat → Array (Option Value) → Array (Option Value)
  | 0, known => known
  | fuel + 1, known =>
    let more := order.foldl (settleOne contents) known
    if knownCount more = knownCount known then known else settleAll contents order fuel more

/-- The data of a graph. -/
def dataOf (g : Graph) : Except Error Data := do
  let (root, f) ← Filling.run g
  let known := settleAll f.contents g.ended g.ended.size (Array.replicate g.nodes.size none)
  let root := settle known root
  let table := f.contents.toList.map fun v => settleParts known (v.getD .null)
  return { root, table := if isSettled root then [] else table }

/-! ### Reading -/

/-- The data of some characters; without a document they are null. -/
def ofChars (cs : List Char) : Except Error Data := do
  match ← Graph.ofChars cs with
  | none => return { root := .null }
  | some g => dataOf g

/-- The characters of a text up to the first code point that no document holds. -/
def allowedPart : Text → List Char
  | .char c :: rest => if isAllowed c then c :: allowedPart rest else []
  | _ => []

/-- The data of a text. -/
def read (text : Text) : Except Error Data :=
  let cs := allowedPart text
  if cs.length = text.length then ofChars cs else .error .forbiddenCharacter

/-- The position at which the piece of a file starts that holds a position. -/
def pieceStart (position : Nat) : Nat := if position < 8192 then 0 else position - position % 4096

/-- The data of a text that comes from a file. -/
def readPieces (text : Text) : Except Error Data :=
  let cs := allowedPart text
  if cs.length = text.length then ofChars cs
  else
    match Graph.ofChars (cs.take (pieceStart cs.length)) with
    | .error .codeRange => .error .codeRange
    | .error .codeWidth => .error .codeWidth
    | _ => .error .forbiddenCharacter

end Dcpu16.Yaml
