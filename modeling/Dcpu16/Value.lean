import Dcpu16.Decimal.Text
import Dcpu16.Table
import Dcpu16.Text.Quoted

/-!
Data of a machine description before it has a meaning: texts, numbers, truth values, lists and maps. A map keeps
its entries in order of appearance. Numbers count as keys by their value, whatever their kind, and the truth
values count as one and zero.

A list or a map may contain itself. Such a collection stands in a table beside the data, and the data holds
references to it, which give its number in the table. Its text shows an ellipsis where it comes again inside
itself.

Documents can also hold dates, and with explicit tags byte strings, sets and tuples. These kinds are left out: a reader
that meets one refuses it.
-/

namespace Dcpu16

/-- A piece of data. -/
inductive Value where
  | null
  | bool (b : Bool)
  | int (n : Int)
  | float (x : Binary64)
  | text (t : Text)
  | list (items : List Value)
  | map (entries : List (Value × Value))
  /-- A reference to the list or map with a number in a table. -/
  | shared (n : Nat)
  deriving Repr

namespace Value

/-! ### Keys -/

/-- The integer that a value counts as. -/
def asInt? : Value → Option Int
  | bool b => some b.toNat
  | int n => some n
  | _ => none

/-- Whether two values are the same key. What is not a number is no key's equal, not even its own. -/
def sameKey (v w : Value) : Bool :=
  match v, w with
  | null, null => true
  | text s, text t => s == t
  | float x, float y => x.same y
  | float x, w => w.asInt?.any x.equalsInt
  | v, float y => v.asInt?.any y.equalsInt
  | v, w => v.asInt?.isSome && v.asInt? == w.asInt?

/-- The map that gives keys their values in turn. -/
def mapOfPairs (pairs : List (Value × Value)) : Value := map (Entries.ofPairs sameKey pairs)

/-- The value of a text key among entries. -/
def lookup (name : Text) : List (Value × Value) → Option Value
  | [] => none
  | (text key, value) :: rest => if key = name then some value else lookup name rest
  | _ :: rest => lookup name rest

/-! ### Emptiness -/

/-- Whether a value counts as missing: null, false, zero, or an empty text, list or map. -/
def isEmpty : Value → Bool
  | null => true
  | bool b => !b
  | int n => n == 0
  | float x => x.isZero
  | text t => t.isEmpty
  | list items => items.isEmpty
  | map entries => entries.isEmpty
  | shared _ => false

/-! ### Text -/

/-- The name of the kind of a value in messages. -/
def kind : Value → String
  | null => "NoneType"
  | bool _ => "bool"
  | int _ => "int"
  | float _ => "float"
  | text _ => "str"
  | list _ => "list"
  | map _ => "dict"
  | shared _ => "object"

/-- The decimal text of an integer, unless it has more than 4300 digits. -/
def integerText? (n : Int) : Option String := if n.natAbs < Nat.pow 10 4300 then some (toString n) else none

mutual
/-- The text of a value inside a list or a map, where texts are quoted; `sharedText?` writes what a
reference stands for. -/
def innerText? (sharedText? : Nat → Option String) : Value → Option String
  | null => some "None"
  | bool b => some (if b then "True" else "False")
  | int n => integerText? n
  | float x => some x.text
  | text t => some t.quoted
  | list items => do return "[" ++ ", ".intercalate (← itemTexts? sharedText? items) ++ "]"
  | map entries => do return "\x7b" ++ ", ".intercalate (← entryTexts? sharedText? entries) ++ "\x7d"
  | shared n => sharedText? n
/-- The texts of the items of a list. -/
def itemTexts? (sharedText? : Nat → Option String) : List Value → Option (List String)
  | [] => some []
  | v :: rest => do return (← innerText? sharedText? v) :: (← itemTexts? sharedText? rest)
/-- The texts of the entries of a map. -/
def entryTexts? (sharedText? : Nat → Option String) : List (Value × Value) → Option (List String)
  | [] => some []
  | (k, v) :: rest => do
    return ((← innerText? sharedText? k) ++ ": " ++ (← innerText? sharedText? v)) ::
      (← entryTexts? sharedText? rest)
end

/-- What stands for a collection inside itself. -/
def ellipsis : Value → String
  | map _ => "\x7b...\x7d"
  | _ => "[...]"

end Value

/-! ### Tables of collections -/

/-- The table of the collections that data has references to. -/
abbrev Collections := List Value

namespace Collections

variable (table : Collections)

/-- The value itself, or the collection that it is a reference to. -/
def resolve : Value → Value
  | .shared n => table[n]?.getD .null
  | v => v

/-- The text of the collection with a number while those in `active` are being written. One of these comes
again inside itself. Every collection is written inside different ones, so their number bounds the depth. -/
def textOf? : Nat → List Nat → Nat → Option String
  | 0, _, _ => none
  | depth + 1, active, n =>
    let v := table.resolve (.shared n)
    if active.contains n then some v.ellipsis else v.innerText? (textOf? depth (n :: active))

/-- The text of a value; it is missing if an integer inside is too long to be written. -/
def toText? (v : Value) : Option Text :=
  match v with
  | .text t => some t
  | v => (v.innerText? (table.textOf? (table.length + 1) [])).map Text.ofString

end Collections

/-- Data with the table of the collections that contain themselves. -/
structure Data where
  root : Value
  table : Collections := []
  deriving Repr

/-- The data itself, where a reference does not count. -/
def Data.value (d : Data) : Value := d.table.resolve d.root

end Dcpu16
