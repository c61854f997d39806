import Dcpu16.Proofs.Reachable
import Mathlib.Data.List.Dedup
import Mathlib.Data.List.Sort

/-!
What loading leaves in memory. Pairs are loaded in order, so of several pairs for one cell the last one counts
(`cell_loadPairs`), and the cells that are listed are those that were there before and those that some pair is for
(`mem_keys_memory_loadPairs`). Which pairs are for one cell is the matter of the policy. Words in consecutive cells keep
out of each other's way, unless the wrap policy takes them all the way around (`cell_loadWords`).
-/

namespace Dcpu16

/-! ### The last value -/

namespace Entries

variable {κ α : Type} {test : κ → Bool}

/-- The value of the last entry whose key passes a test. -/
def lastValue? (test : κ → Bool) : List (κ × α) → Option α
  | [] => none
  | (k, v) :: rest => (lastValue? test rest).or (if test k then some v else none)

theorem lastValue?_append (xs ys : List (κ × α)) :
    lastValue? test (xs ++ ys) = (lastValue? test ys).or (lastValue? test xs) := by
  induction xs with
  | nil => simp [lastValue?]
  | cons e xs ih =>
    obtain ⟨k, v⟩ := e
    rw [List.cons_append, lastValue?, ih, Option.or_assoc, lastValue?]

/-- What is read after a fold of writes, each of which is seen exactly if its key passes a test, is the last value. -/
theorem read_foldl {σ β : Type} (read : σ → β) {step : σ → κ × α → σ} {value : α → β}
    (h : ∀ s e, read (step s e) = if test e.1 then value e.2 else read s) (entries : List (κ × α)) (s : σ) :
    read (entries.foldl step s) = ((lastValue? test entries).map value).getD (read s) := by
  induction entries generalizing s with
  | nil => rfl
  | cons e entries ih =>
    obtain ⟨k, v⟩ := e
    rw [List.foldl_cons, ih, h, lastValue?]
    cases lastValue? test entries with
    | some w => rfl
    | none => by_cases passes : test k <;> simp [passes]

end Entries

/-! ### Loading -/

/-- Addresses that are less than `0x10000` apart name different cells under both policies. -/
theorem Policy.normalize_add_ne {p : Policy} {d : Int} (pos : 0 < d) (short : p = .sparse ∨ d < 0x10000) (a : Int) :
    p.normalize a ≠ p.normalize (a + d) := by
  cases p with
  | sparse => exact fun h => absurd (show a = a + d from h) (by omega)
  | wrap =>
    have short : d < 0x10000 := short.resolve_left nofun
    rw [normalize_wrap, normalize_wrap]
    omega

/-- The cells after loading pairs under a policy. -/
def Cells.loaded (p : Policy) (cells : Cells) (pairs : List (Int × Int)) : Cells :=
  pairs.foldl (fun cells pair => cells.insert (p.normalize pair.1) (Word.ofInt pair.2)) cells

namespace Space

variable (s : Space)

/-- Loading changes nothing but cells. -/
theorem loadPairs_eq (pairs : List (Int × Int)) :
    s.loadPairs pairs = { s with cells := Cells.loaded s.policy s.cells pairs } := by
  induction pairs generalizing s with
  | nil => rfl
  | cons pair pairs ih => exact ih (s.load pair.1 pair.2)

/-- Of the words for one cell the last one stays, and a cell that no pair is for keeps its own. -/
theorem cell_loadPairs (pairs : List (Int × Int)) (a : Int) :
    (s.loadPairs pairs).cell a =
      ((Entries.lastValue? (fun b => s.policy.normalize a = s.policy.normalize b) pairs).map Word.ofInt).getD (s.cell a) := by
  rw [loadPairs_eq]
  refine Entries.read_foldl (fun cells : Cells => cells[s.policy.normalize a]?.getD 0) (fun cells pair => ?_) pairs _
  rw [cell_insert]
  simp only [decide_eq_true_eq]

theorem mem_keys_memory {a : Int} : a ∈ s.memory.map Prod.fst ↔ a ∈ s.cells := by
  rw [memory, Std.ExtTreeMap.map_fst_toList_eq_keys, Std.ExtTreeMap.mem_keys]

/-- The cells that are listed after loading. -/
theorem mem_keys_memory_loadPairs (pairs : List (Int × Int)) (a : Int) :
    a ∈ (s.loadPairs pairs).memory.map Prod.fst ↔
      a ∈ s.memory.map Prod.fst ∨ ∃ pair ∈ pairs, s.policy.normalize pair.1 = a := by
  rw [mem_keys_memory, mem_keys_memory]
  induction pairs generalizing s with
  | nil => simp [loadPairs]
  | cons pair pairs ih =>
    show a ∈ ((s.load pair.1 pair.2).loadPairs pairs).cells ↔ _
    rw [ih, policy_load, load, Std.ExtTreeMap.mem_insert, Std.LawfulEqCmp.compare_eq_iff_eq, List.exists_mem_cons_iff, or_assoc,
      or_left_comm]

/-- The cells that are listed stand in rising order, each of them once. -/
theorem keys_memory_loadPairs (pairs : List (Int × Int)) :
    (s.loadPairs pairs).memory.map Prod.fst =
      (s.memory.map Prod.fst ++ pairs.map fun pair => s.policy.normalize pair.1).dedup.insertionSort (· ≤ ·) := by
  generalize old : s.memory.map Prod.fst ++ pairs.map (fun pair => s.policy.normalize pair.1) = keys
  have listed : ((s.loadPairs pairs).memory.map Prod.fst).SortedLT :=
    (List.pairwise_map.2 (s.loadPairs pairs).memory_pairwise).sortedLT
  have sorted : (keys.dedup.insertionSort (· ≤ ·)).SortedLT :=
    List.sortedLE_insertionSort.sortedLT_of_nodup ((List.perm_insertionSort _ _).nodup_iff.2 keys.nodup_dedup)
  refine listed.eq_of_mem_iff sorted fun a => ?_
  rw [mem_keys_memory_loadPairs, List.mem_insertionSort, List.mem_dedup, ← old, List.mem_append]
  exact or_congr_right List.mem_map.symm

/-! ### Consecutive words -/

/-- No word of a block replaces another one unless the block goes around the end of the addresses. -/
theorem cell_loadWords {words : List Int} (room : s.policy = .sparse ∨ words.length ≤ 0x10000) (origin : Int) {i : Nat}
    (inside : i < words.length) : (s.loadWords words origin).cell (origin + i) = Word.ofInt words[i] := by
  have length : (placed words origin).length = words.length := List.length_mapIdx
  have inside' : i < (placed words origin).length := length ▸ inside
  have here : (placed words origin)[i] = (origin + i, words[i]) := List.getElem_mapIdx ..
  have split : placed words origin =
      (placed words origin).take i ++ (origin + i, words[i]) :: (placed words origin).drop (i + 1) := by
    rw [← here, ← List.drop_eq_getElem_cons, List.take_append_drop]
  rw [loadWords_eq, split]
  refine s.cell_loadPairs_append_cons _ _ fun pair later => ?_
  obtain ⟨j, hj, rfl⟩ := List.mem_drop_iff_getElem.1 later
  have there : ((placed words origin)[i + 1 + j]).1 = origin + i + (j + 1 : Nat) := by
    simp only [placed, List.getElem_mapIdx]
    omega
  rw [there]
  refine Policy.normalize_add_ne (by omega) (room.imp_right fun bound => ?_) _
  omega

/-- **Of the words for one cell the last one stays, and nothing else changes.** After pairs are loaded, an address shows the
low sixteen bits of the last value for its cell, or what it showed before if there is none. The listed cells are those that
were listed before and those that some pair is for, in rising order and each of them once, with the words that they show.
Registers and log are as before. Loading consecutive words from an origin on is loading the pairs of their addresses and
themselves, and gives their number; each of them is then found in its place, if they do not go around the end of the
addresses. -/
theorem loadPairs_last_wins :
    (∀ pairs : List (Int × Int),
      let t := s.loadPairs pairs
      (∀ a, t.inspect (.cell a) =
        ((Entries.lastValue? (fun b => s.policy.normalize a = s.policy.normalize b) pairs).map Word.ofInt).getD
          (s.inspect (.cell a))) ∧
      t.memory.map Prod.fst =
        (s.memory.map Prod.fst ++ pairs.map fun pair => s.policy.normalize pair.1).dedup.insertionSort (· ≤ ·) ∧
      (∀ cell ∈ t.memory, s.policy.normalize cell.1 = cell.1 → cell.2 = t.inspect (.cell cell.1)) ∧
      t.policy = s.policy ∧ t.registers = s.registers ∧ t.log = s.log) ∧
    ∀ (words : List Int) (origin : Int),
      let pairs := words.mapIdx fun i word => (origin + i, word)
      s.loadWords words origin = s.loadPairs pairs ∧
      (∀ session : Session, session.apply (.loadWords words origin) =
        ((session.apply (.loadPairs pairs)).1, .ok (.count words.length))) ∧
      (s.policy = .sparse ∨ words.length ≤ 0x10000 → ∀ (i : Nat) (inside : i < words.length),
        ((s.loadWords words origin).inspect (.cell (origin + i))).address = words[i] % 0x10000) := by
  refine ⟨fun pairs => ⟨s.cell_loadPairs pairs, s.keys_memory_loadPairs pairs, fun cell listed normal => ?_, ?_⟩,
    fun words origin => ⟨s.loadWords_eq words origin, fun session => ?_, fun room i inside => ?_⟩⟩
  · have word := (mem_memory _).1 listed
    rw [inspect, Space.cell, policy_loadPairs, normal, word]
    rfl
  · rw [loadPairs_eq]
    exact ⟨rfl, rfl, rfl⟩
  · simp only [Session.apply, loadCounted_eq]
    rfl
  · rw [inspect, s.cell_loadWords room origin inside]
    exact Word.toNat_ofInt _

/-- Two words go to one cell under different names, a third one is too wide, and three words go around the end of the
addresses. -/
theorem loadPairs_last_wins_around_end :
    let s : Space := Space.load { policy := .wrap } 0x20 9
    let t := s.loadPairs [(5, 1), (-1, 70000), (0x10005, 2)]
    t.inspect (.cell 5) = 2 ∧ t.inspect (.cell 0x1FFFF) = 4464 ∧ t.inspect (.cell 0x20) = 9 ∧
      t.memory.map Prod.fst = [5, 0x20, 0xFFFF] ∧
      ((s.loadWords [1, 2, -1] 0xFFFF).inspect (.cell (0xFFFF + (2 : Nat)))).address = 0xFFFF := by
  intro s t
  obtain ⟨loaded, consecutive⟩ := s.loadPairs_last_wins
  obtain ⟨shows, listed, -⟩ := loaded [(5, 1), (-1, 70000), (0x10005, 2)]
  obtain ⟨-, -, found⟩ := consecutive [1, 2, -1] 0xFFFF
  exact ⟨(shows 5).trans (by decide), (shows 0x1FFFF).trans (by decide), (shows 0x20).trans (by decide),
    listed.trans (by decide), (found (Or.inr (by decide)) 2 (by decide)).trans (by decide)⟩

end Space

end Dcpu16
