import Dcpu16.Yaml.Graph
import Dcpu16.Yaml.Scalar

/-!
Merges. An entry with the key `<<` stands for the entries of the map that is its value, or of several maps in a
list, of which the first prevails. The merged entries come before those of the map itself, where later entries
prevail. Merging changes the graph for good: a map that has been merged somewhere has no merge keys any more,
and a key `=` has become a text wherever it occurs.
-/

namespace Dcpu16.Yaml.Graph

open Scalar (Form)

/-- A change to a graph. -/
abbrev Change := StateT Graph (Except Error)

variable (g : Graph)

/-- The entries of the map with a number. -/
def entriesOf (id : Nat) : List Entry :=
  match g.node id with
  | .map entries => entries
  | _ => []

/-- Whether a node is a plain text of a form. -/
def hasForm (form : Form) (id : Nat) : Bool :=
  match g.node id with
  | .plain word => Scalar.formOf word = form
  | _ => false

/-- Splits the first merge off some entries: the number of its value and the other entries. -/
def splitMerge? : List Entry → Option (Nat × List Entry)
  | [] => none
  | e :: rest =>
    if g.hasForm .merge e.1 then some (e.2, rest)
    else (splitMerge? rest).map fun (source, others) => (source, e :: others)

/-- The graph where the keys `=` of some entries are texts. -/
def fixKeys (entries : List Entry) : Graph :=
  entries.foldl (fun g e => if g.hasForm .default e.1 then g.replace e.1 (.text "=") else g) g

mutual
/-- Replaces the merges of a map by entries, and gives all of its entries. -/
def flatten : Nat → Nat → Change (List Entry)
  | 0, _ => throw .badMerge
  | depth + 1, id => do
    let merged ← takeMerges depth id
    let entries := merged ++ (← get).entriesOf id
    modify fun g => (g.fixKeys entries).replace id (.map entries)
    return entries
/-- Takes the merges out of a map and gives the entries that they stand for. -/
def takeMerges : Nat → Nat → Change (List Entry)
  | 0, _ => throw .badMerge
  | depth + 1, id => do
    let g ← get
    match g.splitMerge? (g.entriesOf id) with
    | none => return []
    | some (source, others) =>
      modify (·.replace id (.map others))
      let merged ← mergedFrom depth source
      return merged ++ (← takeMerges depth id)
/-- The entries of the value of a merge. -/
def mergedFrom : Nat → Nat → Change (List Entry)
  | 0, _ => throw .badMerge
  | depth + 1, source => do
    match (← get).node source with
    | .map _ => flatten depth source
    | .list items =>
      items.foldlM (fun merged item => do
        match (← get).node item with
        | .map _ => return (← flatten depth item) ++ merged
        | _ => throw .badMerge) []
    | _ => throw .badMerge
end

/-- A depth that no merge reaches, as every merge on the way down has been taken out of the graph. -/
def mergeDepth : Nat := 3 * (List.range g.nodes.size).foldl (fun n id => n + (g.entriesOf id).length) 0 + 3

end Dcpu16.Yaml.Graph
