import Dcpu16.Text.Basic

/-!
Tables that remember order. A key keeps the position at which it first came and the value it was given last, so
the keys of a table are distinct and stand in order of appearance.
-/

namespace Dcpu16

/-! ### Entries -/

namespace Entries

variable {κ α : Type}

/-- Gives a key a value; `same` tells which keys count as one. -/
def put (same : κ → κ → Bool) (key : κ) (value : α) : List (κ × α) → List (κ × α)
  | [] => [(key, value)]
  | (k, v) :: rest => if same k key then (k, value) :: rest else (k, v) :: put same key value rest

/-- The entries left after giving keys their values in turn. -/
def ofPairs (same : κ → κ → Bool) (pairs : List (κ × α)) : List (κ × α) :=
  pairs.foldl (fun entries (k, v) => put same k v entries) []

theorem keys_put (key : Text) (value : α) (entries : List (Text × α)) :
    (put (· == ·) key value entries).map Prod.fst =
      if key ∈ entries.map Prod.fst then entries.map Prod.fst else entries.map Prod.fst ++ [key] := by
  induction entries with
  | nil => simp [put]
  | cons e rest ih =>
    obtain ⟨k, v⟩ := e
    by_cases h : k = key
    · simp [put, h]
    · simp only [put, h, beq_iff_eq, if_false, List.map_cons, ih, List.mem_cons, Ne.symm h, false_or]
      split <;> rfl

end Entries

/-! ### Tables -/

/-- A table from names to values. -/
structure Table (α : Type) where
  entries : List (Text × α)
  nodup : (entries.map Prod.fst).Nodup

namespace Table

variable {α : Type}

@[ext] theorem ext {s t : Table α} (h : s.entries = t.entries) : s = t := by
  cases s
  cases t
  simp_all

instance : EmptyCollection (Table α) := ⟨⟨[], .nil⟩⟩

instance : Inhabited (Table α) := ⟨∅⟩

/-- Gives a name a value. -/
def insert (t : Table α) (name : Text) (value : α) : Table α where
  entries := Entries.put (· == ·) name value t.entries
  nodup := by
    rw [Entries.keys_put]
    split
    · exact t.nodup
    · rename_i h
      exact List.nodup_append.2 ⟨t.nodup, by simp, by grind⟩

/-- The table left after giving names their values in turn. -/
def ofPairs (pairs : List (Text × α)) : Table α := pairs.foldl (fun t (n, v) => t.insert n v) ∅

/-- The value of a name. -/
def get? (t : Table α) (name : Text) : Option α := t.entries.lookup name

/-- The last name in order whose value passes a test. -/
def lastName? (t : Table α) (test : α → Bool) : Option Text :=
  (t.entries.reverse.find? fun e => test e.2).map Prod.fst

end Table

end Dcpu16
