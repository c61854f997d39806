import Dcpu16.Yaml.Merge

/-!
The contents of the lists and maps of a document. They are filled one after the other, in the order in which they
are met from the root on, so of two mistakes the one that is met first is reported. A key that comes again takes
the new value.
-/

namespace Dcpu16.Yaml

/-- The lists and maps of a graph as they are filled: what they contain by number, where what has been met but
not filled is null, and the order in which they were met. No merge is deeper than `depth`. -/
structure Filling where
  graph : Graph
  depth : Nat
  contents : Array (Option Value)
  met : Array Nat := #[]

namespace Filling

/-- The start of filling a graph. -/
def start (g : Graph) : Filling :=
  { graph := g, depth := g.mergeDepth, contents := Array.replicate g.nodes.size none }

/-- A step of filling. -/
abbrev Fill := StateT Filling (Except Error)

/-- Whether a list or map has been met. -/
def hasMet (f : Filling) (id : Nat) : Bool := (f.contents[id]?.getD none).isSome

/-- Sets what a list or map contains. -/
def put (f : Filling) (id : Nat) (v : Value) : Filling :=
  { f with contents := f.contents.setIfInBounds id (some v) }

/-- Meets a list or map. -/
def meet (id : Nat) : Fill Unit :=
  modify fun f => if f.hasMet id then f else { f.put id .null with met := f.met.push id }

/-- The value of a node; for a list or map it is a reference. -/
def valueOf (id : Nat) : Fill Value := do
  match (← get).graph.node id with
  | .plain word => Scalar.value word
  | .text t => return .text t
  | _ =>
    meet id
    return .shared id

/-- The value of a key, which is neither a list nor a map. -/
def keyOf (id : Nat) : Fill Value := do
  match ← valueOf id with
  | .shared _ => throw .badKey
  | v => return v

/-- Whether two values are the same key in a document, where all that is not a number is one key. -/
def sameKey (v w : Value) : Bool :=
  match v, w with
  | .float .nan, .float .nan => true
  | v, w => v.sameKey w

/-- Adds an entry to those of a map. -/
def addEntry (entries : List (Value × Value)) (e : Entry) : Fill (List (Value × Value)) := do
  let key ← keyOf e.1
  let value ← valueOf e.2
  return Entries.put sameKey key value entries

/-- The entries of a map of the graph without its merges. -/
def takeEntries (id : Nat) : Fill (List Entry) := do
  let f ← get
  let (entries, graph) ← (Graph.flatten f.depth id).run f.graph
  set { f with graph }
  return entries

/-- Fills a list or map. -/
def fill (id : Nat) : Fill Unit := do
  let contents ←
    match (← get).graph.node id with
    | .list items => do pure (.list (← items.mapM valueOf))
    | _ => do pure (.map (← (← takeEntries id).foldlM addEntry []))
  modify (·.put id contents)

/-- Fills what has been met, from a position in the order of meeting on. Nothing is met twice. -/
def fillFrom (next : Nat) : Nat → Fill Unit
  | 0 => return
  | fuel + 1 => do
    match (← get).met[next]? with
    | none => return
    | some id =>
      fill id
      fillFrom (next + 1) fuel

/-- Fills everything that is met from the root on, and gives the value of the root. -/
def run (g : Graph) : Except Error (Value × Filling) :=
  (do
    let root ← valueOf g.root
    fillFrom 0 g.nodes.size
    return root : Fill Value).run (start g)

end Filling

end Dcpu16.Yaml
