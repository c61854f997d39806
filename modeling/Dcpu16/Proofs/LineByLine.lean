import Dcpu16.Proofs.ImageLines
import Mathlib.Data.List.Forall2
import Mathlib.Data.List.Induction

/-!
Images read line by line. Between two lines a reader only has the number of the line and the address of the next word. So
an image can be cut after any line and the rest read on its own, from the address that its words would have had
(`readLines_append`), and what numbers the lines have only shows in an error (`readLines_add`). That address can be found
from the lines and the words placed so far (`readLines_next`). An error is about the first token that is not a word, and
nothing after it counts (`readLines_eq_error_iff`).
-/

namespace Dcpu16.Image

open Text (isLineEnd unlines)
open Space (placed)

/-- The address at the start of a line. -/
def address? (line : Text) : Option Nat := (splitAddress (content line)).1

/-- The tokens of a line. -/
def tokens (line : Text) : List Text := Text.words (splitAddress (content line)).2

theorem readLine_eq (number : Nat) (cursor : Int) (line : Text) :
    readLine number cursor line = readTokens number ((address? line).elim cursor Int.ofNat) (tokens line) := rfl

/-! ### What is wrong with a line -/

/-- The first of some tokens that is not a word, without its marker, and what is wrong with it. -/
def wrongToken? (ts : List Text) : Option (Text × Defect) :=
  ts.findSome? fun token =>
    match readWord (unmark token) with
    | .error defect => some (unmark token, defect)
    | .ok _ => none

/-- The first token of a line that is not a word, and what is wrong with it. -/
def wrong? (line : Text) : Option (Text × Defect) := wrongToken? (tokens line)

theorem wrongToken?_cons_of_error {token : Text} {defect : Defect} (h : readWord (unmark token) = .error defect)
    (ts : List Text) : wrongToken? (token :: ts) = some (unmark token, defect) := by
  simp only [wrongToken?, List.findSome?_cons, h]

theorem wrongToken?_cons_of_ok {token : Text} {word : Int} (h : readWord (unmark token) = .ok word) (ts : List Text) :
    wrongToken? (token :: ts) = wrongToken? ts := by
  simp only [wrongToken?, List.findSome?_cons, h]

/-- Tokens of which none is wrong are words. -/
theorem exists_words {ts : List Text} (h : wrongToken? ts = none) :
    ∃ values, List.Forall₂ (fun token value => readWord (unmark token) = .ok value) ts values := by
  induction ts with
  | nil => exact ⟨[], .nil⟩
  | cons token ts ih =>
    cases hword : readWord (unmark token) with
    | error defect => cases h.symm.trans (wrongToken?_cons_of_error hword ts)
    | ok word =>
      obtain ⟨values, hvalues⟩ := ih (wrongToken?_cons_of_ok hword ts ▸ h)
      exact ⟨word :: values, .cons hword hvalues⟩

section Tokens

variable {ts : List Text} {number : Nat} {cursor : Int}

/-- Reading tokens fails at the first one that is wrong. -/
theorem readTokens_eq_error_iff {e : Error} :
    readTokens number cursor ts = .error e ↔ wrongToken? ts = some (e.token, e.defect) ∧ e.line = number := by
  induction ts generalizing cursor with
  | nil => simp [readTokens, wrongToken?]
  | cons token ts ih =>
    cases h : readWord (unmark token) with
    | error defect =>
      have read : readTokens number cursor (token :: ts) = .error ⟨number, unmark token, defect⟩ := by
        simp only [readTokens, h]
      obtain ⟨line, token', defect'⟩ := e
      rw [read, wrongToken?_cons_of_error h, Except.error.injEq, Error.mk.injEq, Option.some_inj, Prod.mk.injEq,
        and_comm, eq_comm (a := line)]
    | ok word =>
      rw [wrongToken?_cons_of_ok h, ← @ih (cursor + 1)]
      simp only [readTokens, h]
      cases readTokens number (cursor + 1) ts with
      | error e' => exact Iff.rfl
      | ok r => constructor <;> rintro ⟨⟩

theorem wrongToken?_eq_none_of_ok {r : List (Int × Int) × Int} (h : readTokens number cursor ts = .ok r) :
    wrongToken? ts = none := by
  by_contra wrong
  obtain ⟨⟨token, defect⟩, found⟩ := Option.ne_none_iff_exists'.1 wrong
  have failed : readTokens number cursor ts = .error ⟨number, token, defect⟩ := readTokens_eq_error_iff.2 ⟨found, rfl⟩
  rw [failed] at h
  cases h

/-- Tokens that are read are words, and they are placed one after the other. -/
theorem exists_values {r : List (Int × Int) × Int} (h : readTokens number cursor ts = .ok r) :
    ∃ values, List.Forall₂ (fun token value => readWord (unmark token) = .ok value) ts values ∧
      r = (placed values cursor, cursor + values.length) := by
  obtain ⟨values, words⟩ := exists_words (wrongToken?_eq_none_of_ok h)
  exact ⟨values, words, Except.ok.inj (h.symm.trans (readTokens_eq words number cursor))⟩

/-- The last of the tokens is placed before the address that comes next. -/
theorem exists_last {pairs : List (Int × Int)} {next : Int} (h : readTokens number cursor ts = .ok (pairs, next))
    (ne : ts ≠ []) : ∃ front word, pairs = front ++ [(next - 1, word)] := by
  obtain ⟨values, words, placed⟩ := exists_values h
  obtain ⟨rfl, rfl⟩ := Prod.mk.inj placed
  rcases List.eq_nil_or_concat' values with rfl | ⟨values, value, rfl⟩
  · exact absurd (List.forall₂_nil_right_iff.1 words) ne
  · have last : cursor + ((values ++ [value]).length : Nat) - 1 = cursor + values.length := by
      rw [List.length_append, List.length_singleton]
      omega
    refine ⟨Space.placed values cursor, value, ?_⟩
    rw [placed_append, placed_cons, last]
    rfl

/-- The number of a line only shows in an error. -/
theorem readTokens_add (k : Nat) :
    readTokens (number + k) cursor ts =
      (readTokens number cursor ts).mapError fun e => { e with line := e.line + k } := by
  cases h : readTokens number cursor ts with
  | error e =>
    obtain ⟨wrong, line⟩ := readTokens_eq_error_iff.1 h
    exact readTokens_eq_error_iff.2 ⟨wrong, congrArg (· + k) line⟩
  | ok r =>
    obtain ⟨values, words, rfl⟩ := exists_values h
    exact readTokens_eq words (number + k) cursor

end Tokens

/-! ### Lines after lines -/

variable {xs ys ls : List Text} {number : Nat} {cursor : Int}

/-- **Lines are read in two parts.** The second part starts from the address after the first. -/
theorem readLines_append :
    readLines number cursor (xs ++ ys) = do
      let (pairs, middle) ← readLines number cursor xs
      let (more, last) ← readLines (number + xs.length) middle ys
      return (pairs ++ more, last) := by
  induction xs generalizing number cursor with
  | nil =>
    show readLines number cursor ys = readLines number cursor ys >>= pure
    rw [bind_pure]
  | cons line xs ih =>
    have count : number + 1 + xs.length = number + (line :: xs).length := by
      rw [List.length_cons]
      omega
    rw [List.cons_append, readLines, readLines]
    cases readLine number cursor line with
    | error e => rfl
    | ok r =>
      obtain ⟨pairs, middle⟩ := r
      show (readLines (number + 1) middle (xs ++ ys) >>= _) = ((readLines (number + 1) middle xs >>= _) >>= _)
      rw [ih, count]
      cases readLines (number + 1) middle xs with
      | error e => rfl
      | ok r =>
        obtain ⟨more, last⟩ := r
        show ((readLines _ last ys >>= _) >>= _) = (readLines _ last ys >>= _)
        cases readLines (number + (line :: xs).length) last ys with
        | error e => rfl
        | ok r => exact congrArg (fun pairs => Except.ok (pairs, r.2)) (List.append_assoc ..).symm

theorem readLines_singleton (line : Text) : readLines number cursor [line] = readLine number cursor line := by
  show (readLine number cursor line >>= fun r => Except.ok (r.1 ++ [], r.2)) = _
  simp only [List.append_nil]
  exact bind_pure _

/-- Lines that are read consist of lines that are read. -/
theorem exists_of_readLines_append {pairs : List (Int × Int)} {last : Int}
    (h : readLines number cursor (xs ++ ys) = .ok (pairs, last)) :
    ∃ front middle back, readLines number cursor xs = .ok (front, middle) ∧
      readLines (number + xs.length) middle ys = .ok (back, last) ∧ pairs = front ++ back := by
  rw [readLines_append] at h
  cases hxs : readLines number cursor xs with
  | error e =>
    rw [hxs] at h
    cases h
  | ok r =>
    obtain ⟨front, middle⟩ := r
    rw [hxs] at h
    change (readLines (number + xs.length) middle ys >>= _) = _ at h
    cases hys : readLines (number + xs.length) middle ys with
    | error e =>
      rw [hys] at h
      cases h
    | ok r =>
      rw [hys] at h
      cases h
      exact ⟨front, middle, _, rfl, hys, rfl⟩

theorem readLines_add (k : Nat) :
    readLines (number + k) cursor ls =
      (readLines number cursor ls).mapError fun e => { e with line := e.line + k } := by
  induction ls generalizing number cursor with
  | nil => rfl
  | cons line ls ih =>
    have count : number + k + 1 = number + 1 + k := Nat.add_right_comm ..
    rw [readLines, readLines, readLine_eq, readTokens_add, ← readLine_eq, count]
    cases readLine number cursor line with
    | error e => rfl
    | ok r =>
      obtain ⟨pairs, middle⟩ := r
      show (readLines (number + 1 + k) middle ls >>= _) = Except.mapError _ (readLines (number + 1) middle ls >>= _)
      rw [ih]
      cases readLines (number + 1) middle ls <;> rfl

theorem readLines_cons_eq_error_iff {line : Text} {pairs : List (Int × Int)} {middle : Int}
    (h : readLine number cursor line = .ok (pairs, middle)) {e : Error} :
    readLines number cursor (line :: ls) = .error e ↔ readLines (number + 1) middle ls = .error e := by
  rw [readLines, h]
  show (readLines (number + 1) middle ls >>= _) = _ ↔ _
  cases readLines (number + 1) middle ls with
  | error e' => exact Iff.rfl
  | ok r => constructor <;> rintro ⟨⟩

/-- **Reading fails at the first line that is wrong.** What comes after it does not count, nor does the address of its
words. -/
theorem readLines_eq_error_iff {e : Error} :
    readLines number cursor ls = .error e ↔
      ∃ before line later, ls = before ++ line :: later ∧ (∀ l ∈ before, wrong? l = none) ∧
        wrong? line = some (e.token, e.defect) ∧ e.line = number + before.length := by
  induction ls generalizing number cursor with
  | nil =>
    constructor
    · rintro ⟨⟩
    · rintro ⟨before, line, later, split, -⟩
      exact absurd split.symm (List.append_ne_nil_of_right_ne_nil _ (List.cons_ne_nil _ _))
  | cons line ls ih =>
    cases h : readLine number cursor line with
    | error e' =>
      obtain ⟨wrong, here⟩ := readTokens_eq_error_iff.1 h
      have failed : readLines number cursor (line :: ls) = .error e' := by
        rw [readLines, h]
        rfl
      rw [failed]
      constructor
      · rintro ⟨⟩
        exact ⟨[], line, ls, rfl, List.forall_mem_nil _, wrong, here⟩
      · rintro ⟨before, line', later, split, right, wrong', there⟩
        cases before with
        | nil =>
          cases split
          exact h.symm.trans (readTokens_eq_error_iff.2 ⟨wrong', there⟩)
        | cons first before =>
          cases split
          cases (right line (List.mem_cons_self ..)).symm.trans wrong
    | ok r =>
      obtain ⟨pairs, middle⟩ := r
      have right : wrong? line = none := wrongToken?_eq_none_of_ok h
      rw [readLines_cons_eq_error_iff h, ih]
      constructor
      · rintro ⟨before, line', later, rfl, all, wrong, there⟩
        refine ⟨line :: before, line', later, rfl, List.forall_mem_cons.2 ⟨right, all⟩, wrong, there.trans ?_⟩
        rw [List.length_cons]
        omega
      · rintro ⟨before, line', later, split, all, wrong, there⟩
        cases before with
        | nil =>
          cases split
          cases right.symm.trans wrong
        | cons first before =>
          cases split
          refine ⟨before, line', later, rfl, (List.forall_mem_cons.1 all).2, wrong, there.trans ?_⟩
          rw [List.length_cons]
          omega

/-! ### The address after some lines -/

/-- Where the next word goes after some lines of which the words were placed: at the last address given if no word
follows it, or else after the last word, or else at the origin. -/
def nextAddress (origin : Int) (ls : List Text) (pairs : List (Int × Int)) : Int :=
  match (ls.reverse.takeWhile fun line => tokens line = []).findSome? address?, pairs.getLast? with
  | some address, _ => address
  | none, some (last, _) => last + 1
  | none, none => origin

section Next

variable (origin : Int) (ls : List Text) {line : Text} (pairs : List (Int × Int))

theorem nextAddress_of_no_tokens (h : tokens line = []) :
    nextAddress origin (ls ++ [line]) pairs = (address? line).elim (nextAddress origin ls pairs) Int.ofNat := by
  have trailing : ((ls ++ [line]).reverse.takeWhile fun line => tokens line = []) =
      line :: ls.reverse.takeWhile fun line => tokens line = [] := by
    rw [List.reverse_append]
    exact List.takeWhile_cons_of_pos (decide_eq_true h)
  rw [nextAddress, trailing, List.findSome?_cons]
  cases address? line <;> rfl

theorem nextAddress_of_tokens (h : tokens line ≠ []) (last word : Int) :
    nextAddress origin (ls ++ [line]) (pairs ++ [(last, word)]) = last + 1 := by
  have trailing : ((ls ++ [line]).reverse.takeWhile fun line => tokens line = []) = [] := by
    rw [List.reverse_append]
    exact List.takeWhile_cons_of_neg (mt of_decide_eq_true h)
  rw [nextAddress, trailing, List.getLast?_concat]
  rfl

end Next

/-- The address from which reading goes on is the next one. -/
theorem readLines_next {origin next : Int} {pairs : List (Int × Int)}
    (h : readLines number origin ls = .ok (pairs, next)) : next = nextAddress origin ls pairs := by
  induction ls using List.reverseRecOn generalizing pairs next with
  | nil =>
    cases h
    rfl
  | append_singleton ls line ih =>
    obtain ⟨front, middle, back, hfront, hback, rfl⟩ := exists_of_readLines_append h
    rw [readLines_singleton, readLine_eq, ih hfront] at hback
    by_cases none : tokens line = []
    · rw [none] at hback
      cases hback
      rw [List.append_nil, nextAddress_of_no_tokens origin ls front none]
    · obtain ⟨before, word, rfl⟩ := exists_last hback none
      rw [← List.append_assoc, nextAddress_of_tokens origin ls _ none, Int.sub_add_cancel]

/-! ### Texts of lines -/

/-- Reading a text of lines is reading the lines: an empty one at the end does not count. -/
theorem read_unlines (unbroken : ∀ line ∈ ls, ∀ p ∈ line, ¬ isLineEnd p) (origin : Int) :
    read (unlines ls) origin = (readLines 1 origin ls).map Prod.fst := by
  rw [read, Text.lines_unlines unbroken]
  split
  next last =>
    obtain ⟨init, rfl⟩ := List.getLast?_eq_some_iff.1 last
    have empty (number : Nat) (cursor : Int) : readLines number cursor [[]] = .ok ([], cursor) := rfl
    rw [List.dropLast_concat, readLines_append]
    simp only [empty]
    cases readLines 1 origin init with
    | error e => rfl
    | ok r => exact congrArg Except.ok (List.append_nil _).symm
  next => rfl

/-- **Reading goes line by line.** Let no line have a break in it. If the first lines cannot be read, then neither can they
with more lines after them, for the same reason. If they can be read, then the others are read from the address that is
next, and their words come after the first ones, or else their error is reported, with its line counted from the first. An
error is about the first wrong token of the first line that has one. -/
theorem read_append (xs ys : List Text) (unbroken : ∀ line ∈ xs ++ ys, ∀ p ∈ line, ¬ isLineEnd p) (origin : Int) :
    (∀ e, read (unlines xs) origin = .error e → read (unlines (xs ++ ys)) origin = .error e) ∧
    (∀ pairs, read (unlines xs) origin = .ok pairs →
      read (unlines (xs ++ ys)) origin =
        match read (unlines ys) (nextAddress origin xs pairs) with
        | .ok more => .ok (pairs ++ more)
        | .error e => .error { e with line := e.line + xs.length }) ∧
    ∀ e, read (unlines xs) origin = .error e ↔
      ∃ before line later, xs = before ++ line :: later ∧ (∀ l ∈ before, wrong? l = none) ∧
        wrong? line = some (e.token, e.defect) ∧ e.line = before.length + 1 := by
  have first (l : Text) (hl : l ∈ xs) := unbroken l (List.mem_append_left ys hl)
  have second (l : Text) (hl : l ∈ ys) := unbroken l (List.mem_append_right xs hl)
  rw [read_unlines first, read_unlines unbroken, readLines_append]
  refine ⟨fun e he => ?_, fun pairs hpairs => ?_, fun e => ?_⟩
  · cases hxs : readLines 1 origin xs with
    | error e' =>
      rw [hxs] at he
      exact he
    | ok r =>
      rw [hxs] at he
      cases he
  · cases hxs : readLines 1 origin xs with
    | error e' =>
      rw [hxs] at hpairs
      cases hpairs
    | ok r =>
      obtain ⟨front, middle⟩ := r
      rw [hxs] at hpairs
      cases hpairs
      rw [read_unlines second, ← readLines_next hxs]
      show Except.map Prod.fst (readLines (1 + xs.length) middle ys >>= _) = _
      rw [readLines_add]
      cases readLines 1 middle ys <;> rfl
  · have reads : (readLines 1 origin xs).map Prod.fst = .error e ↔ readLines 1 origin xs = .error e := by
      cases readLines 1 origin xs with
      | error e' => constructor <;> rintro ⟨⟩ <;> rfl
      | ok r => constructor <;> rintro ⟨⟩
    rw [reads, readLines_eq_error_iff]
    simp only [Nat.add_comm 1]

/-- The first two lines give words and an address without words. After them comes a word on the line after a comment, and
then a line with two tokens that are wrong. -/
theorem read_append_comment :
    let front : List Text := ["0010: a b", "20:"]
    let back : List Text := ["; c", "d", "1 12345 zz"]
    read (unlines (front ++ back)) 5 = .error ⟨5, "12345", .tooWide⟩ ∧
      read (unlines (front ++ back.take 2)) 5 = .ok [(0x10, 0xA), (0x11, 0xB), (0x20, 0xD)] := by
  intro front back
  have placed : read (unlines front) 5 = .ok [(0x10, 0xA), (0x11, 0xB)] := by decide
  have next : nextAddress 5 front [(0x10, 0xA), (0x11, 0xB)] = 0x20 := by decide
  obtain ⟨-, after, -⟩ := read_append front back (by decide) 5
  obtain ⟨-, after', -⟩ := read_append front (back.take 2) (by decide) 5
  have wrong : read (unlines back) 0x20 = .error ⟨3, "12345", .tooWide⟩ := by decide
  have right : read (unlines (back.take 2)) 0x20 = .ok [(0x20, 0xD)] := by decide
  rw [after _ placed, after' _ placed, next, wrong, right]
  exact ⟨rfl, rfl⟩

end Dcpu16.Image
