import Dcpu16.Yaml.Token

/-!
The graph of a document. Its nodes are numbered in the order in which they begin. An alias stands for the node
with its anchor, and a list or a map has its anchor from its beginning on, so it can contain itself.

Lists and maps are laid out in lines or between brackets; in a map laid out in lines the entries of a list need
not be indented more than its key. What is left out is an empty text.
-/

namespace Dcpu16.Yaml

/-- An entry of a map: the numbers of its key and of its value. -/
abbrev Entry := Nat × Nat

/-- A node of a document. Lists and maps name what they contain by number. -/
inductive Node where
  | plain (word : String)
  | text (t : Text)
  | list (items : List Nat)
  | map (entries : List Entry)
  deriving DecidableEq, Repr

/-- The graph of a document, with its lists and maps in the order in which they end. -/
structure Graph where
  nodes : Array Node
  ended : Array Nat
  root : Nat

namespace Graph

/-- The node with a number. -/
def node (g : Graph) (id : Nat) : Node := g.nodes[id]?.getD (.plain "")

/-- Changes the node with a number. -/
def replace (g : Graph) (id : Nat) (n : Node) : Graph := { g with nodes := g.nodes.setIfInBounds id n }

/-! ### Building -/

/-- A graph that is being built: the tokens that are left, the nodes so far and their anchors. -/
structure Builder where
  lexer : Lexer
  nodes : Array Node := #[]
  ended : Array Nat := #[]
  anchors : List (String × Nat) := []

/-- A step of building a graph. -/
abbrev Build := StateT Builder (Except Error)

namespace Build

/-- The next token. -/
def peek : Build Token := do
  let b ← get
  let lexer ← b.lexer.ready
  set { b with lexer }
  return lexer.front

/-- Whether the next token is one of some. -/
def sees (tokens : List Token) : Build Bool := return tokens.contains (← peek)

/-- Moves past the next token. -/
def drop : Build Unit := modify fun b => { b with lexer := b.lexer.take }

/-- Moves past a token if it is the next one. -/
def accept (t : Token) : Build Bool := do
  if (← peek) = t then
    drop
    return true
  else return false

/-- Moves past a token, which has to be the next one. -/
def expect (t : Token) : Build Unit := do
  if !(← accept t) then throw .badStructure

/-- Checks that an anchor is new. -/
def checkAnchor (name : String) : Build Unit := do
  if (← get).anchors.any (·.1 = name) then throw .duplicateAnchor

/-- Adds a node and gives it its anchor. -/
def add (anchor : Option String) (n : Node) : Build Nat := do
  let b ← get
  let id := b.nodes.size
  let anchors := (anchor.map (·, id)).toList ++ b.anchors
  set { b with nodes := b.nodes.push n, anchors }
  return id

/-- Ends a list or map. -/
def finish (id : Nat) (n : Node) : Build Nat := do
  modify fun b => { b with nodes := b.nodes.setIfInBounds id n, ended := b.ended.push id }
  return id

/-- Adds the node for what is left out. -/
def empty : Build Nat := add none (.plain "")

/-- Adds the node that is left out after an anchor; without an anchor there has to be a node. -/
def missing (anchor : Option String) : Build Nat :=
  if anchor.isSome then add anchor (.plain "") else throw .badStructure

/-! ### Nodes -/

mutual
/-- Builds a node. Lists and maps laid out in lines only occur outside brackets (`block`), and lists whose
entries are not indented only as parts of maps (`flush`). -/
def node (block flush : Bool) : Nat → Build Nat
  | 0 => throw .badStructure
  | fuel + 1 => do
    match ← peek with
    | .alias name =>
      drop
      match (← get).anchors.lookup name with
      | some id => return id
      | none => throw .undefinedAlias
    | .anchor name =>
      drop
      let _ ← peek
      checkAnchor name
      content block flush (some name) fuel
    | _ => content block flush none fuel
/-- Builds a node after its anchor. -/
def content (block flush : Bool) (anchor : Option String) : Nat → Build Nat
  | 0 => throw .badStructure
  | fuel + 1 => do
    match ← peek with
    | .plain word =>
      drop
      add anchor (.plain word)
    | .text t =>
      drop
      add anchor (.text t)
    | .openList =>
      drop
      let id ← add anchor (.list [])
      finish id (.list (← bracketItems true fuel))
    | .openMap =>
      drop
      let id ← add anchor (.map [])
      finish id (.map (← bracketEntries true fuel))
    | .entry =>
      if !flush then return ← missing anchor
      let id ← add anchor (.list [])
      finish id (.list (← flushItems fuel))
    | .linesOfList =>
      if !block then return ← missing anchor
      drop
      let id ← add anchor (.list [])
      let items ← lineItems fuel
      expect .linesEnd
      finish id (.list items)
    | .linesOfMap =>
      if !block then return ← missing anchor
      drop
      let id ← add anchor (.map [])
      let entries ← lineEntries fuel
      expect .linesEnd
      finish id (.map entries)
    | _ => missing anchor
/-- Builds the entries of a list laid out in lines. -/
def lineItems : Nat → Build (List Nat)
  | 0 => throw .badStructure
  | fuel + 1 => do
    if !(← accept .entry) then return []
    let item ← if ← sees [.entry, .linesEnd] then empty else node true false fuel
    return item :: (← lineItems fuel)
/-- Builds the entries of a list that is not indented. -/
def flushItems : Nat → Build (List Nat)
  | 0 => throw .badStructure
  | fuel + 1 => do
    if !(← accept .entry) then return []
    let item ← if ← sees [.entry, .key, .value, .linesEnd] then empty else node true false fuel
    return item :: (← flushItems fuel)
/-- Builds a key or a value of a map laid out in lines. -/
def linePart : Nat → Build Nat
  | 0 => throw .badStructure
  | fuel + 1 => do if ← sees [.key, .value, .linesEnd] then empty else node true true fuel
/-- Builds the entries of a map laid out in lines. -/
def lineEntries : Nat → Build (List Entry)
  | 0 => throw .badStructure
  | fuel + 1 => do
    if !(← accept .key) then return []
    let key ← linePart fuel
    let value ← if ← accept .value then linePart fuel else empty
    return (key, value) :: (← lineEntries fuel)
/-- Builds the value of an entry between brackets that end with a token. -/
def bracketValue (close : Token) : Nat → Build Nat
  | 0 => throw .badStructure
  | fuel + 1 => do
    if !(← accept .value) then return ← empty
    if ← sees [.comma, close] then empty else node false false fuel
/-- Builds the key of an entry between brackets that end with a token. -/
def bracketKey (close : Token) : Nat → Build Nat
  | 0 => throw .badStructure
  | fuel + 1 => do if ← sees [.value, .comma, close] then empty else node false false fuel
/-- Builds the items of a list in brackets up to its end. A single entry of a map is an item. -/
def bracketItems (first : Bool) : Nat → Build (List Nat)
  | 0 => throw .badStructure
  | fuel + 1 => do
    if ← accept .closeList then return []
    if !first then expect .comma
    if ← accept .closeList then return []
    let item ←
      if ← accept .key then do
        let id ← add none (.map [])
        let key ← bracketKey .closeList fuel
        let value ← bracketValue .closeList fuel
        finish id (.map [(key, value)])
      else node false false fuel
    return item :: (← bracketItems false fuel)
/-- Builds the entries of a map in brackets up to its end. -/
def bracketEntries (first : Bool) : Nat → Build (List Entry)
  | 0 => throw .badStructure
  | fuel + 1 => do
    if ← accept .closeMap then return []
    if !first then expect .comma
    if ← accept .closeMap then return []
    let entry ←
      if ← accept .key then do
        let key ← bracketKey .closeMap fuel
        let value ← bracketValue .closeMap fuel
        pure (key, value)
      else do
        let key ← node false false fuel
        pure (key, ← empty)
    return entry :: (← bracketEntries false fuel)
end

/-! ### Documents -/

/-- Moves past end markers. -/
def dropEnds : Nat → Build Unit
  | 0 => return
  | fuel + 1 => do if ← accept .documentEnd then dropEnds fuel

/-- Builds the only document of a stream, if there is one, and gives its root. -/
def document (fuel : Nat) : Build (Option Nat) := do
  if ← sees [.streamEnd] then return none
  let root ←
    if ← accept .documentStart then
      if ← sees [.documentStart, .documentEnd, .streamEnd] then empty else node true false fuel
    else node true false fuel
  dropEnds fuel
  if ← accept .documentStart then throw .severalDocuments
  expect .streamEnd
  return some root

end Build

/-- The graph of a text, if it holds a document. Every character gives at most four tokens. -/
def ofChars (text : List Char) : Except Error (Option Graph) := do
  let (root, b) ← (Build.document (16 * text.length + 32)).run { lexer := .start text }
  return root.map fun root => { nodes := b.nodes, ended := b.ended, root }

end Graph

end Dcpu16.Yaml
