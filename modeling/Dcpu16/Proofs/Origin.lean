import Dcpu16.Proofs.ImageWords

/-!
The origin of an image. What is read before the first address depends on the origin, since its words go where the cursor
is, and they move with it (`readLines_shift`). A line with an address forgets where the cursor was, so nothing from there
on depends on the origin (`pairs_readLines_directed`). Between two words the cursor only goes on by one, and an address
that stands between them can be found from the words that the lines before it have (`readLines_following`).
-/

namespace Dcpu16.Image

open Space (placed)

variable {ls : List Text} {number : Nat} {cursor : Int}

/-! ### Words that move -/

/-- The words of some pairs at other addresses. -/
def shift (d : Int) (pairs : List (Int × Int)) : List (Int × Int) := pairs.map fun pair => (pair.1 + d, pair.2)

theorem shift_append (d : Int) (xs ys : List (Int × Int)) : shift d (xs ++ ys) = shift d xs ++ shift d ys :=
  List.map_append

theorem placed_shift (values : List Int) (cursor d : Int) : placed values (cursor + d) = shift d (placed values cursor) := by
  induction values generalizing cursor with
  | nil => rfl
  | cons value values ih =>
    have next : cursor + d + 1 = cursor + 1 + d := by omega
    rw [placed_cons, placed_cons, next, ih]
    rfl

/-- Pairs and the cursor after them, moved together. -/
def shiftResult (d : Int) (r : List (Int × Int) × Int) : List (Int × Int) × Int := (shift d r.1, r.2 + d)

theorem readTokens_shift (ts : List Text) (d : Int) :
    readTokens number (cursor + d) ts = (readTokens number cursor ts).map (shiftResult d) := by
  cases h : readTokens number cursor ts with
  | error e => exact readTokens_eq_error_iff.2 (readTokens_eq_error_iff.1 h)
  | ok r =>
    obtain ⟨values, words, rfl⟩ := exists_values h
    have next : cursor + d + values.length = cursor + values.length + d := by omega
    rw [readTokens_eq words, placed_shift, next]
    rfl

/-- **Words before the first address move with the cursor.** -/
theorem readLines_shift (free : ∀ line ∈ ls, address? line = none) (d : Int) :
    readLines number (cursor + d) ls = (readLines number cursor ls).map (shiftResult d) := by
  induction ls generalizing number cursor with
  | nil => rfl
  | cons line ls ih =>
    obtain ⟨first, rest⟩ := List.forall_mem_cons.1 free
    rw [readLines, readLines, readLine_eq, readLine_eq, first]
    show (readTokens number (cursor + d) (tokens line) >>= _) = Except.map _ (readTokens number cursor (tokens line) >>= _)
    rw [readTokens_shift]
    cases readTokens number cursor (tokens line) with
    | error e => rfl
    | ok r =>
      obtain ⟨pairs, middle⟩ := r
      show (readLines (number + 1) (middle + d) ls >>= _) = Except.map _ (readLines (number + 1) middle ls >>= _)
      rw [ih rest]
      cases readLines (number + 1) middle ls with
      | error e => rfl
      | ok r => exact congrArg (fun shifted => Except.ok (shifted, r.2 + d)) (shift_append d pairs r.1).symm

/-! ### Words that stay -/

/-- The lines before the first one with an address. -/
def undirected (ls : List Text) : List Text := ls.takeWhile fun line => address? line = none

/-- The first line with an address, and all lines after it. -/
def directed (ls : List Text) : List Text := ls.dropWhile fun line => address? line = none

theorem undirected_append_directed (ls : List Text) : undirected ls ++ directed ls = ls :=
  List.takeWhile_append_dropWhile

theorem address?_of_mem_undirected {line : Text} (h : line ∈ undirected ls) : address? line = none :=
  of_decide_eq_true (List.mem_takeWhile_imp (p := fun line => decide (address? line = none)) h)

/-- **Words from the first address on do not depend on the cursor.** -/
theorem pairs_readLines_directed (cursor cursor' : Int) :
    (readLines number cursor (directed ls)).map Prod.fst = (readLines number cursor' (directed ls)).map Prod.fst := by
  cases h : directed ls with
  | nil => rfl
  | cons line rest =>
    have start : ¬ address? line = none := by
      have head := List.head?_dropWhile_not (fun line => address? line = none) ls
      rw [show ls.dropWhile _ = directed ls from rfl, h] at head
      simpa using head
    obtain ⟨address, given⟩ := Option.ne_none_iff_exists'.1 start
    rw [readLines, readLines, readLine_eq, readLine_eq, given]
    rfl

/-! ### Words one after the other -/

/-- An address is given between the words before an index and the word at it. -/
def DirectedAt (ls : List Text) (i : Nat) : Prop :=
  ∃ before line later, ls = before ++ line :: later ∧ (allTokens before).length = i ∧ address? line ≠ none

theorem directedAt_iff {i : Nat} :
    DirectedAt ls i ↔ ∃ k < ls.length, (allTokens (ls.take k)).length = i ∧ (ls[k]?.bind address?).isSome := by
  constructor
  · rintro ⟨before, line, later, rfl, count, given⟩
    refine ⟨before.length, by simp, ?_, ?_⟩
    · rwa [List.take_left]
    · rw [List.getElem?_append_right (Nat.le_refl _), Nat.sub_self]
      exact Option.isSome_iff_ne_none.2 given
  · rintro ⟨k, inside, count, given⟩
    refine ⟨ls.take k, ls[k], ls.drop (k + 1), ?_, count, ?_⟩
    · rw [← List.drop_eq_getElem_cons, List.take_append_drop]
    · rw [List.getElem?_eq_getElem inside] at given
      exact Option.isSome_iff_ne_none.1 given

instance (ls : List Text) (i : Nat) : Decidable (DirectedAt ls i) := decidable_of_iff _ directedAt_iff.symm

theorem DirectedAt.cons {i : Nat} (h : DirectedAt ls i) (line : Text) :
    DirectedAt (line :: ls) ((tokens line).length + i) := by
  obtain ⟨before, found, later, rfl, rfl, given⟩ := h
  exact ⟨line :: before, found, later, rfl, List.length_append, given⟩

/-- The address after that of the last of some pairs, or the origin if there are none. -/
def following (origin : Int) (pairs : List (Int × Int)) : Int := pairs.getLast?.elim origin fun pair => pair.1 + 1

theorem following_append (origin : Int) (xs ys : List (Int × Int)) :
    following origin (xs ++ ys) = following (following origin xs) ys := by
  unfold following
  rw [List.getLast?_append]
  cases ys.getLast? <;> rfl

theorem following_cons (origin a w : Int) (pairs : List (Int × Int)) :
    following origin ((a, w) :: pairs) = following (a + 1) pairs :=
  following_append origin [(a, w)] pairs

theorem following_placed (values : List Int) (cursor : Int) :
    following cursor (placed values cursor) = cursor + values.length := by
  induction values generalizing cursor with
  | nil => exact (Int.add_zero cursor).symm
  | cons value values ih =>
    rw [placed_cons, following_cons, ih, List.length_cons]
    omega

theorem length_placed (values : List Int) (cursor : Int) : (placed values cursor).length = values.length :=
  List.length_mapIdx

/-- Words of one line. -/
theorem eq_following_of_placed {values : List Int} {cursor b v : Int} {front back : List (Int × Int)}
    (split : placed values cursor = front ++ (b, v) :: back) : b = following cursor front := by
  induction values generalizing cursor front with
  | nil => exact absurd split.symm (List.append_ne_nil_of_right_ne_nil _ (List.cons_ne_nil _ _))
  | cons value values ih =>
    rw [placed_cons] at split
    cases front with
    | nil =>
      cases split
      rfl
    | cons first front =>
      obtain ⟨rfl, rest⟩ := List.cons.inj split
      rw [following_cons]
      exact ih rest

/-- **A word goes after the one before it** if no address is given between them. -/
theorem readLines_following {pairs front back : List (Int × Int)} {next b v : Int}
    (h : readLines number cursor ls = .ok (pairs, next)) (split : pairs = front ++ (b, v) :: back)
    (free : ¬ DirectedAt ls front.length) : b = following cursor front := by
  induction ls generalizing number cursor pairs front with
  | nil =>
    cases h
    exact absurd split.symm (List.append_ne_nil_of_right_ne_nil _ (List.cons_ne_nil _ _))
  | cons line ls ih =>
    obtain ⟨here, middle, later, hhere, hlater, rfl⟩ :=
      exists_of_readLines_append (show readLines number cursor ([line] ++ ls) = .ok (pairs, next) from h)
    rw [readLines_singleton, readLine_eq] at hhere
    -- an address on the line stands before its first word
    have start : following ((address? line).elim cursor Int.ofNat) front = following cursor front := by
      cases front with
      | nil =>
        have given : address? line = none := by_contra fun given => free ⟨[], line, ls, rfl, rfl, given⟩
        rw [given]
        rfl
      | cons first front => rw [following_cons, following_cons]
    rw [← start]
    generalize (address? line).elim cursor Int.ofNat = place at hhere
    obtain ⟨values, words, hvalues⟩ := exists_values hhere
    obtain ⟨rfl, rfl⟩ := Prod.mk.inj hvalues
    have after {others : List (Int × Int)} (first : front = placed values place ++ others)
        (rest : later = others ++ (b, v) :: back) : b = following place front := by
      rw [first, following_append, following_placed]
      refine ih hlater rest fun given => free ?_
      rw [first, List.length_append, length_placed, ← words.length_eq]
      exact given.cons line
    rcases List.append_eq_append_iff.1 split with ⟨others, first, rest⟩ | ⟨others, first, rest⟩
    · exact after first rest
    · cases others with
      | nil =>
        rw [List.append_nil] at first
        exact after (first.symm.trans (List.append_nil _).symm) rest.symm
      | cons pair others =>
        obtain ⟨rfl, -⟩ := List.cons.inj rest
        exact eq_following_of_placed first

/-! ### Texts -/

section Text

variable {text : Text} {origin : Int}

theorem read_eq_error_of_undirected {e : Error} (h : readLines 1 origin (undirected text.lines) = .error e) :
    read text origin = .error e := by
  rw [read, ← undirected_append_directed text.lines, readLines_append, h]
  rfl

/-- A text is read up to the first address, and then from there on. -/
theorem read_of_undirected {front : List (Int × Int)} {middle : Int}
    (h : readLines 1 origin (undirected text.lines) = .ok (front, middle)) :
    read text origin =
      ((readLines (1 + (undirected text.lines).length) middle (directed text.lines)).map Prod.fst).map (front ++ ·) := by
  have cut : readLines 1 origin text.lines = readLines 1 origin (undirected text.lines ++ directed text.lines) := by
    rw [undirected_append_directed]
  rw [read, cut, readLines_append, h]
  show Except.map Prod.fst (readLines (1 + (undirected text.lines).length) middle (directed text.lines) >>= _) = _
  cases readLines (1 + (undirected text.lines).length) middle (directed text.lines) <;> rfl

end Text

/-- For two origins, a text is wrong in the same way, or its words before the first address are as far apart as the origins
and the others go to the same addresses. -/
theorem read_of_origins (text : Text) (o₁ o₂ : Int) :
    (∃ e, read text o₁ = .error e ∧ read text o₂ = .error e) ∨
      ∃ front back, HasWords (allTokens (undirected text.lines)) front ∧ HasWords (allTokens (directed text.lines)) back ∧
        read text o₁ = .ok (front ++ back) ∧ read text o₂ = .ok (shift (o₂ - o₁) front ++ back) := by
  have moved : readLines 1 (o₁ + (o₂ - o₁)) (undirected text.lines) =
      (readLines 1 o₁ (undirected text.lines)).map (shiftResult (o₂ - o₁)) :=
    readLines_shift (fun _ => address?_of_mem_undirected) _
  rw [show o₁ + (o₂ - o₁) = o₂ by omega] at moved
  cases hfront : readLines 1 o₁ (undirected text.lines) with
  | error e =>
    rw [hfront] at moved
    exact Or.inl ⟨e, read_eq_error_of_undirected hfront, read_eq_error_of_undirected moved⟩
  | ok r =>
    obtain ⟨front, middle⟩ := r
    rw [hfront] at moved
    rw [read_of_undirected hfront, read_of_undirected moved, pairs_readLines_directed (middle + (o₂ - o₁)) middle]
    cases hback : readLines (1 + (undirected text.lines).length) middle (directed text.lines) with
    | error e => exact Or.inl ⟨e, rfl, rfl⟩
    | ok r => exact Or.inr ⟨front, r.1, readLines_words hfront, readLines_words hback, rfl, rfl⟩

/-- **An origin only moves the words before the first address.** For two origins, a text is wrong in the same way, or it has
the same words, first those of the lines before the first address, at addresses that are apart like the origins, and then
those of the other lines, at the same addresses. Each word goes after the one before it, or the first one at the origin,
unless an address is given between them. -/
theorem read_shift (text : Text) (o₁ o₂ : Int) :
    ((∃ e, read text o₁ = .error e ∧ read text o₂ = .error e) ∨
      ∃ front back, HasWords (allTokens (undirected text.lines)) front ∧ HasWords (allTokens (directed text.lines)) back ∧
        read text o₁ = .ok (front ++ back) ∧ read text o₂ = .ok (shift (o₂ - o₁) front ++ back)) ∧
    ∀ pairs, read text o₁ = .ok pairs → ∀ front b v back, pairs = front ++ (b, v) :: back →
      ¬ DirectedAt text.lines front.length → b = following o₁ front := by
  refine ⟨read_of_origins text o₁ o₂, fun pairs accepted front b v back split free => ?_⟩
  obtain ⟨last, lines⟩ := read_eq_ok_iff.1 accepted
  exact readLines_following lines split free

/-- Comments and lines without words stand before an address without words, and more words follow on the next line. -/
theorem read_shift_comment :
    let text : Text := "a b ; 7: c\n\n;\nc\n20:\n\nd e"
    let front : List (Int × Int) := [(-2, 0xA), (-1, 0xB), (0, 0xC)]
    let back : List (Int × Int) := [(0x20, 0xD), (0x21, 0xE)]
    read text (-2) = .ok (front ++ back) ∧ read text 5 = .ok (shift 7 front ++ back) ∧
      (0 : Int) = following (-2) (front.take 2) ∧ ¬ (0x20 : Int) = following (-2) front := by
  intro text front back
  have accepted : read text (-2) = .ok (front ++ back) := by decide
  obtain ⟨origins, order⟩ := read_shift text (-2) 5
  rcases origins with ⟨e, wrong, -⟩ | ⟨front', back', words, -, same, moved⟩
  · cases accepted.symm.trans wrong
  · have length : front.length = front'.length := by
      rw [← words.length_eq]
      decide
    obtain ⟨rfl, rfl⟩ := List.append_inj (Except.ok.inj (accepted.symm.trans same)) length
    exact ⟨accepted, moved, order _ accepted (front.take 2) 0 0xC back rfl (by decide), by decide⟩

end Dcpu16.Image
