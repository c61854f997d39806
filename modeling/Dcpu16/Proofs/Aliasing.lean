import Dcpu16.Proofs.Kept
import Dcpu16.Proofs.Origin
import Dcpu16.Proofs.Unwritten
import Mathlib.Data.Int.ModEq
import Mathlib.Data.List.Forall2

/-!
The names of a cell. Under the wrap policy addresses that are congruent modulo `0x10000` name the same cell. Whatever
goes to a cell goes there by the address that the policy keeps it under, so nothing that is done depends on the name by
which it is asked for (`Space.inspect_normalize` and the lemmas after it, under both policies). Commands that name the
same cells in different ways are therefore carried out in the same way (`Session.apply_eq_of_alias`), and since they leave
the very same session, so are lists of them (`Session.replies_eq_of_aliases`).
-/

namespace Dcpu16

/-! ### Places in normal form -/

namespace Space

variable (s : Space)

theorem cell_normalize (address : Int) : s.cell (s.policy.normalize address) = s.cell address := by
  rw [cell, Policy.normalize_normalize, cell]

theorem inspect_normalize (l : Location) : s.inspect (l.normalize s.policy) = s.inspect l := by
  cases l with
  | cell address => exact s.cell_normalize address
  | register r => rfl

theorem touch_normalize (l : Location) : s.touch (l.normalize s.policy) = s.touch l := by
  cases l with
  | cell address => simp only [Location.normalize, touch, cell_normalize, Policy.normalize_normalize]
  | register r => rfl

theorem store_normalize (l : Location) (w : Word) : s.store (l.normalize s.policy) w = s.store l w := by
  cases l with
  | cell address => simp only [Location.normalize, store, cell_normalize, Policy.normalize_normalize]
  | register r => rfl

theorem write_normalize (l : Location) (value : Int) : s.write (l.normalize s.policy) value = s.write l value :=
  s.store_normalize l _

theorem load_normalize (address value : Int) : s.load (s.policy.normalize address) value = s.load address value := by
  rw [load, Policy.normalize_normalize, load]

theorem read_normalize (l : Location) : s.read (l.normalize s.policy) = s.read l := by
  rw [read, inspect_normalize, touch_normalize, read]

theorem dereference_normalize (l : Location) : s.dereference (l.normalize s.policy) = s.dereference l := by
  rw [dereference, read_normalize, dereference]

/-- Storing at a place after reading it, as adding and taking one do. -/
theorem store_touch_normalize (l : Location) (w : Word) :
    (s.touch (l.normalize s.policy)).store (l.normalize s.policy) w = (s.touch l).store l w := by
  rw [touch_normalize, ← s.policy_touch l, store_normalize]

theorem increment_normalize (l : Location) : s.increment (l.normalize s.policy) = s.increment l := by
  show (s.touch _).store _ (s.inspect _ + 1) = (s.touch l).store l (s.inspect l + 1)
  rw [inspect_normalize, store_touch_normalize]

theorem decrement_normalize (l : Location) : s.decrement (l.normalize s.policy) = s.decrement l := by
  show (s.touch _).store _ (s.inspect _ - 1) = (s.touch l).store l (s.inspect l - 1)
  rw [inspect_normalize, store_touch_normalize]

/-- The words after the first one are looked up modulo `0x10000` under both policies. -/
theorem following_normalize (address : Int) (distance : Nat) :
    s.following (s.policy.normalize address) distance = s.following address distance := by
  cases h : s.policy with
  | sparse => rfl
  | wrap =>
    rw [following, following, Policy.normalize_wrap]
    congr 1
    omega

theorem operationAt_normalize (address : Int) : s.operationAt (s.policy.normalize address) = s.operationAt address := by
  simp only [operationAt, cell_normalize, following_normalize]

end Space

/-! ### Congruent addresses -/

/-- Pairs with the same values whose addresses are congruent. -/
def PairsAlias (xs ys : List (Int × Int)) : Prop :=
  List.Forall₂ (fun x y => x.1 ≡ y.1 [ZMOD 0x10000] ∧ x.2 = y.2) xs ys

/-- Places that mean the same location under the wrap policy. -/
inductive Place.Alias : Place → Place → Prop where
  | number {a b : Int} (h : a ≡ b [ZMOD 0x10000]) : Alias (.number a) (.number b)
  | name (text : Text) : Alias (.name text) (.name text)

/-- Conditions that are the same but for the place they look at. -/
inductive Watch.Alias : Watch → Watch → Prop where
  | holds {p q : Place} (h : p.Alias q) (value : Int) : Alias (.holds p value) (.holds q value)
  | other (c : Condition) : Alias (.other c) (.other c)

/-- Commands that are the same but for multiples of `0x10000` in the addresses and origins that they are given, each of
which can have its own. A listing and a table of symbols hold addresses that are shown as they are given, so such a command
only goes with itself. -/
inductive Command.Alias : Command → Command → Prop where
  | read {p q : Place} (h : p.Alias q) : Alias (.read p) (.read q)
  | inspect {p q : Place} (h : p.Alias q) : Alias (.inspect p) (.inspect q)
  | write {p q : Place} (h : p.Alias q) (value : Int) : Alias (.write p value) (.write q value)
  | increment {p q : Place} (h : p.Alias q) : Alias (.increment p) (.increment q)
  | decrement {p q : Place} (h : p.Alias q) : Alias (.decrement p) (.decrement q)
  | dereference {p q : Place} (h : p.Alias q) : Alias (.dereference p) (.dereference q)
  | load {a b : Int} (h : a ≡ b [ZMOD 0x10000]) (value : Int) : Alias (.load a value) (.load b value)
  | loadPairs {xs ys : List (Int × Int)} (h : PairsAlias xs ys) : Alias (.loadPairs xs) (.loadPairs ys)
  | loadWords (words : List Int) {a b : Int} (h : a ≡ b [ZMOD 0x10000]) : Alias (.loadWords words a) (.loadWords words b)
  | loadImage (text : Text) {a b : Int} (h : a ≡ b [ZMOD 0x10000]) : Alias (.loadImage text a) (.loadImage text b)
  | poke (registers : List (Text × Int)) {xs ys : List (Int × Int)} (h : PairsAlias xs ys) :
    Alias (.poke registers xs) (.poke registers ys)
  | run {start start' : Option Int} (h : Option.Rel (· ≡ · [ZMOD 0x10000]) start start') (budget : Option Int)
    {watch watch' : Option Watch} (hw : Option.Rel Watch.Alias watch watch') :
    Alias (.run start budget watch) (.run start' budget watch')
  | reset {a b : Int} (h : a ≡ b [ZMOD 0x10000]) : Alias (.reset a) (.reset b)
  | operation {a b : Int} (h : a ≡ b [ZMOD 0x10000]) : Alias (.operation a) (.operation b)
  | same (c : Command) : Alias c c

/-! ### Blocks of pairs -/

namespace PairsAlias

theorem refl (xs : List (Int × Int)) : PairsAlias xs xs := List.forall₂_same.2 fun _ _ => ⟨rfl, rfl⟩

theorem append {xs ys xs' ys' : List (Int × Int)} (h : PairsAlias xs ys) (h' : PairsAlias xs' ys') :
    PairsAlias (xs ++ xs') (ys ++ ys') := List.rel_append h h'

theorem shift {d : Int} (h : 0x10000 ∣ d) (xs : List (Int × Int)) : PairsAlias xs (Image.shift d xs) := by
  refine List.forall₂_map_right_iff.2 (List.forall₂_same.2 fun x _ => ⟨Int.modEq_iff_dvd.2 ?_, rfl⟩)
  show 0x10000 ∣ x.1 + d - x.1
  rwa [add_sub_cancel_left]

/-- Words from congruent origins on go to congruent addresses, however far they reach. -/
theorem placed (words : List Int) {a b : Int} (h : a ≡ b [ZMOD 0x10000]) :
    PairsAlias (Space.placed words a) (Space.placed words b) := by
  have moved : Space.placed words b = Image.shift (b - a) (Space.placed words a) := by
    rw [← Image.placed_shift, add_sub_cancel]
  rw [moved]
  exact shift h.dvd _

/-- For congruent origins a text is wrong in the same way, or is read as the same words at congruent addresses. -/
theorem image (text : Text) {a b : Int} (h : a ≡ b [ZMOD 0x10000]) :
    (∃ e, Image.read text a = .error e ∧ Image.read text b = .error e) ∨
      ∃ xs ys, Image.read text a = .ok xs ∧ Image.read text b = .ok ys ∧ PairsAlias xs ys := by
  rcases Image.read_of_origins text a b with wrong | ⟨front, back, -, -, hx, hy⟩
  · exact Or.inl wrong
  · exact Or.inr ⟨_, _, hx, hy, (shift h.dvd front).append (refl back)⟩

end PairsAlias

/-! ### Machines under the wrap policy -/

theorem Space.kept_policy (p : Policy) : Kept fun s => s.policy = p where
  registers h _ := h
  clearLog h := h
  touch h _ := h
  store h _ _ := h
  load h _ _ := h

namespace Space

variable {s : Space} (wrap : s.policy = .wrap)

include wrap

theorem normalize_eq_of_modEq {a b : Int} (h : a ≡ b [ZMOD 0x10000]) : s.policy.normalize b = s.policy.normalize a := by
  rw [wrap]
  exact h.symm

theorem load_eq_of_modEq {a b : Int} (h : a ≡ b [ZMOD 0x10000]) (value : Int) : s.load b value = s.load a value := by
  rw [← s.load_normalize b, normalize_eq_of_modEq wrap h, s.load_normalize]

theorem loadPairs_eq_of_alias {xs ys : List (Int × Int)} (h : PairsAlias xs ys) : s.loadPairs ys = s.loadPairs xs := by
  induction h generalizing s with
  | nil => rfl
  | @cons x y xs ys hxy _ ih =>
    obtain ⟨address, value⟩ := hxy
    show (s.load y.1 y.2).loadPairs ys = (s.load x.1 x.2).loadPairs xs
    rw [← value, load_eq_of_modEq wrap address]
    exact ih wrap

theorem operationAt_eq_of_modEq {a b : Int} (h : a ≡ b [ZMOD 0x10000]) : s.operationAt b = s.operationAt a := by
  rw [← s.operationAt_normalize b, normalize_eq_of_modEq wrap h, s.operationAt_normalize]

end Space

namespace Machine

variable {m : Machine}

theorem launch_eq_of_modEq {start start' : Option Int} (h : Option.Rel (· ≡ · [ZMOD 0x10000]) start start') :
    m.launch start' = m.launch start := by
  cases h with
  | none => rfl
  | some h =>
    have word := (Word.ofInt_eq_iff _ _).2 h.symm
    simp only [launch, write, Space.write, word]

theorem reset_eq_of_modEq {a b : Int} (h : a ≡ b [ZMOD 0x10000]) : m.reset b = m.reset a := by
  rw [reset, (Word.ofInt_eq_iff _ _).2 h.symm, reset]

/-- A run looks at a place by the location that its policy gives it. -/
theorem run_holds_normalize (wrap : m.space.policy = .wrap) (start budget : Option Int) (l : Location) (value : Int)
    (polls patience : Nat) :
    m.run start budget (Condition.observer patience (.holds (l.normalize .wrap) value)) polls patience =
      m.run start budget (Condition.observer patience (.holds l value)) polls patience := by
  have kept := Space.kept_policy .wrap
  refine cycle_congr (P := fun m => m.space.policy = .wrap) (fun polls m hm => ?_) (fun _ _ hm => hm)
    (fun _ hm => kept.step hm) _ _ _ _ (kept.launch wrap start)
  simp only [Condition.observer, ← hm, Space.inspect_normalize]

end Machine

/-! ### Sessions under the wrap policy -/

namespace Session

variable {s : Session} (wrap : s.machine.space.policy = .wrap)

include wrap

theorem atPlace_eq_of_alias {p q : Place} (h : p.Alias q) {act : Location → Session × Reply}
    (normal : ∀ l : Location, act (l.normalize s.machine.space.policy) = act l) : s.atPlace q act = s.atPlace p act := by
  cases h with
  | name text => rfl
  | @number a b h =>
    have same : act (.cell b) = act (.cell a) := by
      rw [← normal (.cell b), Location.normalize, Space.normalize_eq_of_modEq wrap h]
      exact normal (.cell a)
    simp only [atPlace, Place.location, same]

theorem apply_run_eq_of_alias {start start' : Option Int} (h : Option.Rel (· ≡ · [ZMOD 0x10000]) start start')
    (budget : Option Int) {watch watch' : Option Watch} (hw : Option.Rel Watch.Alias watch watch') :
    s.apply (.run start' budget watch') = s.apply (.run start budget watch) := by
  have launched := Machine.launch_eq_of_modEq (m := s.machine) h
  -- the start only matters for the launch, after which the two conditions are compared
  suffices same : s.apply (.run start budget watch') = s.apply (.run start budget watch) by
    rw [← same]
    simp only [apply, Machine.run, launched]
  cases hw with
  | none => rfl
  | some hw =>
    cases hw with
    | other c => rfl
    | holds hp value =>
      cases hp with
      | name text => rfl
      | @number a b hab =>
        have run (l : Location) := s.machine.run_holds_normalize wrap start budget l value 0 patience
        have place : (Location.cell b).normalize .wrap = (Location.cell a).normalize .wrap := congrArg Location.cell hab.symm
        have watched (c : Int) : Option.mapM Watch.condition (some (.holds (.number c) value)) =
            .ok (some (.holds (.cell c) value)) := rfl
        simp only [apply, watched, Condition.observer?]
        rw [← run (.cell b), place, run (.cell a)]

/-- **A command is carried out in the same way whatever names it has for the cells.** -/
theorem apply_eq_of_alias {c d : Command} (h : c.Alias d) : s.apply d = s.apply c := by
  cases h with
  | read h =>
    simp only [apply]
    exact atPlace_eq_of_alias wrap h fun l => by rw [Space.read_normalize]
  | inspect h =>
    simp only [apply]
    exact atPlace_eq_of_alias wrap h fun l => by rw [Space.inspect_normalize]
  | write h value =>
    simp only [apply]
    exact atPlace_eq_of_alias wrap h fun l => by rw [Space.write_normalize]
  | increment h =>
    simp only [apply]
    exact atPlace_eq_of_alias wrap h fun l => by rw [Space.increment_normalize]
  | decrement h =>
    simp only [apply]
    exact atPlace_eq_of_alias wrap h fun l => by rw [Space.decrement_normalize]
  | dereference h =>
    simp only [apply]
    exact atPlace_eq_of_alias wrap h fun l => by rw [Space.dereference_normalize]
  | load h value => simp only [apply, Space.load_eq_of_modEq wrap h]
  | loadPairs h => simp only [apply, Space.loadPairs_eq_of_alias wrap h]
  | loadWords words h => simp only [apply, Space.loadCounted_eq, Space.loadPairs_eq_of_alias wrap (.placed words h)]
  | loadImage text h =>
    rcases PairsAlias.image text h with ⟨e, hx, hy⟩ | ⟨xs, ys, hx, hy, same⟩
    · simp only [apply, hx, hy]
    · simp only [apply, hx, hy, Space.loadPairs_eq_of_alias wrap same, List.Forall₂.length_eq same]
  | poke registers h =>
    have poked := (Space.kept_policy .wrap).pokeRegisters wrap registers
    simp only [apply]
    rcases hp : pokeRegisters s.machine.space registers with ⟨t, e | done⟩
    · rfl
    · rw [hp] at poked
      simp only [Space.loadPairs_eq_of_alias poked h]
  | run h budget hw => exact apply_run_eq_of_alias wrap h budget hw
  | reset h => simp only [apply, Machine.reset_eq_of_modEq h]
  | operation h => simp only [apply, Space.operationAt_eq_of_modEq wrap h]
  | same c => rfl

/-- **Under the wrap policy addresses only matter modulo `0x10000`.** Let two lists of commands be the same but for multiples
of `0x10000` in the addresses and origins, each of which can have its own. Then a machine under the wrap policy gives the
same replies to both: the words read, the access logs and snapshots, the results of runs, the counts of words loaded, the
registers and the lists of cells. After each command the two sessions are the same as a whole. -/
theorem replies_eq_of_aliases {cs ds : List Command} (h : List.Forall₂ Command.Alias cs ds) :
    s.replies ds = s.replies cs ∧ ∀ n, s.after (ds.take n) = s.after (cs.take n) := by
  -- no relation between two sessions goes through the induction: one command after the other leaves the very same one
  induction h generalizing s with
  | nil => exact ⟨rfl, fun _ => rfl⟩
  | @cons c d cs ds hcd _ ih =>
    have here := apply_eq_of_alias wrap hcd
    obtain ⟨replies, after⟩ := ih ((Space.kept_policy .wrap).apply wrap c)
    refine ⟨?_, fun n => ?_⟩
    · rw [Session.replies, here, replies, Session.replies]
    · cases n with
      | zero => rfl
      | succ n =>
        show (s.apply d).1.after (ds.take n) = (s.apply c).1.after (cs.take n)
        rw [here, after]

omit wrap in
/-- An instruction that goes around the end of the addresses, an image behind it, and a run that ends when a cell holds a
value, all given under two sets of names. -/
theorem replies_eq_of_aliases_around_end :
    let s : Session := .fresh .wrap
    let cs : List Command :=
      [.loadWords [0x7801, 0x2000] 0xFFFF, .loadImage "7de1 1000 0020" 1, .write (.number 0x2000) 7,
        .increment (.number 0x2000), .run (some 0xFFFF) (some 5) (some (.holds (.number 0x1000) 0x20)), .log, .memory]
    let ds : List Command :=
      [.loadWords [0x7801, 0x2000] (-1), .loadImage "7de1 1000 0020" 0x10001, .write (.number (-0xE000)) 7,
        .increment (.number 0x12000), .run (some (-0x50001)) (some 5) (some (.holds (.number 0x31000) 0x20)), .log,
        .memory]
    s.machine.space.policy = .wrap ∧ List.Forall₂ Command.Alias cs ds ∧ s.replies ds = s.replies cs ∧
      (∀ n, s.after (ds.take n) = s.after (cs.take n)) ∧ (s.replies ds)[4]? = some (.ok (.run ⟨.cancelled, 2, 4⟩ 3)) := by
  intro s cs ds
  have place : (Place.number 0x1000).Alias (.number 0x31000) := .number (by decide)
  have aliases : List.Forall₂ Command.Alias cs ds :=
    .cons (.loadWords _ (by decide)) <| .cons (.loadImage _ (by decide)) <| .cons (.write (.number (by decide)) _) <|
      .cons (.increment (.number (by decide))) <|
        .cons (.run (.some (by decide)) _ (.some (.holds place _))) <| .cons (.same _) <| .cons (.same _) .nil
  obtain ⟨replies, after⟩ := replies_eq_of_aliases (s := s) rfl aliases
  have run : (s.replies cs)[4]? = some (.ok (.run ⟨.cancelled, 2, 4⟩ 3)) := by decide
  exact ⟨rfl, aliases, replies, after, (congrArg (·[4]?) replies).trans run⟩

end Session

end Dcpu16
