import Dcpu16.Space.Basic

/-!
The laws of the address space, all stated through `inspect`. A read changes nothing but the log, a store changes
exactly the location it names (`inspect_store`), and so does a load, without a record (`cell_load`).
-/

namespace Dcpu16

/-- The location as the cells and registers are keyed: with the address of the cell that is meant. -/
def Location.normalize (p : Policy) : Location → Location
  | cell address => cell (p.normalize address)
  | register r => register r

namespace Space

variable (s : Space) (l k : Location) (w : Word)

/-! ### Reading -/

@[simp] theorem policy_touch : (s.touch l).policy = s.policy := by cases l <;> rfl

@[simp] theorem cells_touch : (s.touch l).cells = s.cells := by cases l <;> rfl

@[simp] theorem registers_touch : (s.touch l).registers = s.registers := by cases l <;> rfl

@[simp] theorem cell_touch (address : Int) : (s.touch l).cell address = s.cell address := by
  simp [cell]

@[simp] theorem inspect_touch : (s.touch l).inspect k = s.inspect k := by
  cases k <;> simp [inspect]

@[simp] theorem fst_read : (s.read l).1 = s.inspect l := rfl

@[simp] theorem snd_read : (s.read l).2 = s.touch l := rfl

/-! ### Writing -/

@[simp] theorem policy_store : (s.store l w).policy = s.policy := by cases l <;> rfl

@[simp] theorem registers_store_cell (address : Int) :
    (s.store (.cell address) w).registers = s.registers := rfl

@[simp] theorem registers_store_register (r : Register) :
    (s.store (.register r) w).registers = s.registers.set r w := rfl

@[simp] theorem cells_store_register (r : Register) : (s.store (.register r) w).cells = s.cells := rfl

theorem cell_insert (cells : Cells) (a b : Int) :
    (cells.insert a w)[b]?.getD 0 = if b = a then w else cells[b]?.getD 0 := by
  rw [Std.ExtTreeMap.getElem?_insert]
  by_cases h : b = a
  · simp [h]
  · simp [h, Ne.symm h]

theorem inspect_store :
    (s.store l w).inspect k = if k.normalize s.policy = l.normalize s.policy then w else s.inspect k := by
  cases l with
  | cell a =>
    cases k with
    | cell b => simpa [inspect, cell, store, Location.normalize] using cell_insert w s.cells _ _
    | register r => simp [inspect, store, Location.normalize]
  | register r =>
    cases k with
    | cell b => simp [inspect, cell, store, Location.normalize]
    | register q => simp [inspect, store, Location.normalize, Registers.get_set]

/-! ### Loading -/

@[simp] theorem policy_load (address value : Int) : (s.load address value).policy = s.policy := rfl

@[simp] theorem registers_load (address value : Int) : (s.load address value).registers = s.registers := rfl

@[simp] theorem log_load (address value : Int) : (s.load address value).log = s.log := rfl

theorem cell_load (address value b : Int) :
    (s.load address value).cell b =
      if s.policy.normalize b = s.policy.normalize address then Word.ofInt value else s.cell b :=
  cell_insert (Word.ofInt value) s.cells _ _

theorem loadPairs_append (xs ys : List (Int × Int)) :
    s.loadPairs (xs ++ ys) = (s.loadPairs xs).loadPairs ys := List.foldl_append

/-- Words that are loaded one after the other are pairs that are loaded. -/
theorem loadCounted_eq (words : List Int) (origin : Int) :
    s.loadCounted words origin = (words.length, s.loadPairs (placed words origin)) := by
  have pairs : placed words origin = words.zipIdx.map fun entry => (origin + entry.2, entry.1) :=
    List.mapIdx_eq_zipIdx_map
  rw [loadCounted, loadPairs, pairs, List.foldl_map]

theorem loadWords_eq (words : List Int) (origin : Int) :
    s.loadWords words origin = s.loadPairs (placed words origin) := by
  rw [loadWords, loadCounted_eq]

theorem policy_loadPairs (pairs : List (Int × Int)) : (s.loadPairs pairs).policy = s.policy := by
  induction pairs generalizing s with
  | nil => rfl
  | cons p pairs ih => exact ih (s.load p.1 p.2)

theorem cell_loadPairs_of_forall_ne {pairs : List (Int × Int)} {b : Int}
    (h : ∀ pair ∈ pairs, s.policy.normalize b ≠ s.policy.normalize pair.1) : (s.loadPairs pairs).cell b = s.cell b := by
  induction pairs generalizing s with
  | nil => rfl
  | cons pair pairs ih =>
    have later := ih (s.load pair.1 pair.2) fun q hq => h q (List.mem_cons_of_mem _ hq)
    have here := h pair (List.mem_cons_self ..)
    show ((s.load pair.1 pair.2).loadPairs pairs).cell b = _
    rw [later, cell_load, if_neg here]

/-- Of the words for one cell the last one stays. -/
theorem cell_loadPairs_append_cons (before : List (Int × Int)) {after : List (Int × Int)} {a : Int} (value : Int)
    (h : ∀ pair ∈ after, s.policy.normalize a ≠ s.policy.normalize pair.1) :
    (s.loadPairs (before ++ (a, value) :: after)).cell a = Word.ofInt value := by
  have policy : ((s.loadPairs before).load a value).policy = s.policy := s.policy_loadPairs before
  have last := ((s.loadPairs before).load a value).cell_loadPairs_of_forall_ne (policy ▸ h)
  rw [loadPairs_append]
  show (((s.loadPairs before).load a value).loadPairs after).cell a = _
  rw [last, cell_load, if_pos rfl]

end Space

end Dcpu16
