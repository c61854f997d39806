import Dcpu16.Text.Layout
import Mathlib.Data.List.TakeWhile

/-!
Texts put together from lines and words, and taken apart again. A text of lines with any breaks between them has these
lines (`lines_of_lined`), as long as no line is empty or has a break in it. A text of words between blanks has these words
(`words_intercalate`), and blanks at the ends can be put on and stripped.
-/

namespace Dcpu16.Text

/-! ### Lines -/

/-- What stands between two lines. -/
inductive IsBreak : Text → Prop where
  | single {p : CodePoint} (h : isLineEnd p) : IsBreak [p]
  | pair : IsBreak [.char '\r', .char '\n']

/-- A text consists of lines with a break after each of them, after the last one perhaps not. -/
inductive Lined : List Text → Text → Prop where
  | nil : Lined [] []
  | last (line : Text) : Lined [line] line
  | cons (line : Text) {brk text : Text} {ls : List Text} (h : IsBreak brk) (rest : Lined ls text) :
    Lined (line :: ls) (line ++ (brk ++ text))

/-- A line that can be found again: it is not empty, and no break is in it. -/
def Unbroken (line : Text) : Prop := line ≠ [] ∧ ∀ p ∈ line, ¬ isLineEnd p

theorem linesFrom_append {line : Text} (h : ∀ p ∈ line, ¬ isLineEnd p) (current rest : Text) :
    linesFrom current (line ++ rest) = linesFrom (line.reverse ++ current) rest := by
  induction line generalizing current with
  | nil => rfl
  | cons p line ih =>
    have hp : ¬ isLineEnd p := h p (List.mem_cons_self ..)
    have unpaired (rest' : Text) (heq : p = .char '\r') : line ++ rest ≠ .char '\n' :: rest' := by
      subst heq
      exact absurd (by decide) hp
    rw [List.cons_append, linesFrom, if_neg hp, ih fun q hq => h q (List.mem_cons_of_mem _ hq),
      List.reverse_cons, List.append_assoc]
    · rfl
    · exact unpaired

theorem linesFrom_break {brk rest : Text} (h : IsBreak brk) (unbroken : ∀ p ∈ rest.head?, ¬ isLineEnd p)
    (current : Text) : linesFrom current (brk ++ rest) = current.reverse :: linesFrom [] rest := by
  cases h with
  | pair => rfl
  | @single p hp =>
    have unpaired (rest' : Text) (_ : p = .char '\r') : rest ≠ .char '\n' :: rest' := by
      rintro rfl
      exact absurd (by decide) (unbroken _ rfl)
    rw [List.singleton_append, linesFrom, if_pos hp]
    exact unpaired

/-- No text of such lines begins with a break. -/
theorem Lined.head {ls : List Text} {text : Text} (lined : Lined ls text) (unbroken : ∀ line ∈ ls, Unbroken line) :
    ∀ p ∈ text.head?, ¬ isLineEnd p := by
  have first {line : Text} (h : Unbroken line) (rest : Text) : ∀ p ∈ (line ++ rest).head?, ¬ isLineEnd p := by
    obtain ⟨q, tail, rfl⟩ := List.exists_cons_of_ne_nil h.1
    rintro p ⟨⟩
    exact h.2 q (List.mem_cons_self ..)
  cases lined with
  | nil => exact fun p hp => by cases hp
  | last line => exact List.append_nil text ▸ first (unbroken text (List.mem_cons_self ..)) []
  | cons line h rest => exact first (unbroken line (List.mem_cons_self ..)) _

/-- **The lines of a text are those it consists of.** -/
theorem lines_of_lined {ls : List Text} {text : Text} (lined : Lined ls text) (unbroken : ∀ line ∈ ls, Unbroken line) :
    lines text = ls := by
  induction lined with
  | nil => rfl
  | last line =>
    have h := unbroken line (List.mem_cons_self ..)
    have split := linesFrom_append h.2 [] []
    rw [List.append_nil, List.append_nil] at split
    rw [lines, split, linesFrom, if_neg (mt List.reverse_eq_nil_iff.1 h.1), List.reverse_reverse]
  | cons line h rest ih =>
    have later : ∀ line ∈ _, Unbroken line := fun l hl => unbroken l (List.mem_cons_of_mem _ hl)
    rw [lines, linesFrom_append (unbroken line (List.mem_cons_self ..)).2, linesFrom_break h (rest.head later),
      List.append_nil, List.reverse_reverse, ← lines, ih later]

theorem lined_intercalate {brk : Text} (h : IsBreak brk) (ls : List Text) : Lined ls (brk.intercalate ls) := by
  induction ls with
  | nil => exact .nil
  | cons line ls ih =>
    cases ls with
    | nil => exact List.intercalate_singleton ▸ .last line
    | cons next ls =>
      rw [List.intercalate_cons_cons, List.append_assoc]
      exact .cons line h ih

/-- Lines joined by line feeds. -/
def unlines (ls : List Text) : Text := List.intercalate [.char '\n'] ls

/-- Joined lines are found again, but for an empty one at the end. -/
theorem lines_unlines {ls : List Text} (h : ∀ line ∈ ls, ∀ p ∈ line, ¬ isLineEnd p) :
    lines (unlines ls) = if ls.getLast? = some [] then ls.dropLast else ls := by
  induction ls with
  | nil => rfl
  | cons line ls ih =>
    have first := linesFrom_append (h line (List.mem_cons_self ..)) []
    cases ls with
    | nil =>
      have split := first []
      rw [List.append_nil, List.append_nil] at split
      rw [unlines, List.intercalate_singleton, lines, split, linesFrom, List.reverse_reverse]
      simp
    | cons next ls =>
      have feed (rest : Text) : linesFrom line.reverse (.char '\n' :: rest) = line :: lines rest := by
        rw [linesFrom, if_pos (by decide), List.reverse_reverse, lines]
        simp
      rw [unlines, List.intercalate_cons_cons, List.append_assoc, List.singleton_append, lines, first, List.append_nil,
        feed, ← unlines, ih fun l hl => h l (List.mem_cons_of_mem _ hl), List.getLast?_cons_cons, List.dropLast_cons_cons]
      split <;> rfl

/-! ### Words -/

/-- A word: it is not empty, and no blank is in it. -/
def Solid (word : Text) : Prop := word ≠ [] ∧ ∀ p ∈ word, ¬ isBlank p

theorem words_of_solid {word : Text} (h : Solid word) : words word = [word] := by
  rw [words, List.splitOnP_eq_singleton fun p hp => Bool.eq_false_iff.2 (h.2 p hp)]
  exact List.filter_cons_of_pos (decide_eq_true h.1)

/-- What a text is cut into are words. -/
theorem solid_of_mem_words {word text : Text} (h : word ∈ words text) : Solid word := by
  obtain ⟨piece, ne⟩ := List.mem_filter.1 h
  refine ⟨of_decide_eq_true ne, ?_⟩
  clear h ne
  induction text generalizing word with
  | nil =>
    rw [List.splitOnP_nil, List.mem_singleton] at piece
    simp [piece]
  | cons p text ih =>
    obtain ⟨first, pieces, split⟩ := List.exists_cons_of_ne_nil (List.splitOnP_ne_nil isBlank text)
    rw [List.splitOnP_cons_eq_if_modifyHead, split] at piece
    rw [split] at ih
    by_cases blank : isBlank p
    · rw [if_pos blank] at piece
      rcases List.mem_cons.1 piece with rfl | piece
      · simp
      · exact ih piece
    · rw [if_neg blank, List.modifyHead_cons] at piece
      rcases List.mem_cons.1 piece with rfl | piece
      · simpa [blank] using ih (List.mem_cons_self ..)
      · exact ih (List.mem_cons_of_mem _ piece)

theorem words_append_cons (front rest : Text) {p : CodePoint} (h : isBlank p) :
    words (front ++ p :: rest) = words front ++ words rest := by
  rw [words, List.splitOnP_append_cons _ _ h, List.filter_append]
  rfl

theorem words_blanks_append {gap : Text} (h : ∀ p ∈ gap, isBlank p) (rest : Text) : words (gap ++ rest) = words rest := by
  induction gap with
  | nil => rfl
  | cons p gap ih =>
    have := words_append_cons [] (gap ++ rest) (h p (List.mem_cons_self ..))
    rw [List.cons_append, ← List.nil_append (p :: _), this, ih fun q hq => h q (List.mem_cons_of_mem _ hq)]
    rfl

/-- **The words of a text are those it consists of.** -/
theorem words_intercalate {p : CodePoint} (h : isBlank p) {ws : List Text} (solid : ∀ w ∈ ws, Solid w) :
    words (List.intercalate [p] ws) = ws := by
  induction ws with
  | nil => rfl
  | cons w ws ih =>
    have hw := words_of_solid (solid w (List.mem_cons_self ..))
    cases ws with
    | nil => rw [List.intercalate_singleton, hw]
    | cons next ws =>
      rw [List.intercalate_cons_cons, List.append_assoc, List.singleton_append, words_append_cons _ _ h, hw,
        ih fun v hv => solid v (List.mem_cons_of_mem _ hv)]
      rfl

theorem mem_intercalate {sep : Text} {ws : List Text} {p : CodePoint} (h : p ∈ sep.intercalate ws) :
    p ∈ sep ∨ ∃ w ∈ ws, p ∈ w := by
  induction ws with
  | nil => cases h
  | cons w ws ih =>
    cases ws with
    | nil =>
      rw [List.intercalate_singleton] at h
      exact Or.inr ⟨w, List.mem_cons_self .., h⟩
    | cons next ws =>
      rw [List.intercalate_cons_cons, List.mem_append, List.mem_append] at h
      rcases h with (h | h) | h
      · exact Or.inr ⟨w, List.mem_cons_self .., h⟩
      · exact Or.inl h
      · exact (ih h).imp_right fun ⟨v, hv, hp⟩ => ⟨v, List.mem_cons_of_mem w hv, hp⟩

/-! ### Blanks at the ends -/

theorem strip_append {text margin : Text} (first : ∀ p ∈ text.head?, ¬ isBlank p)
    (last : ∀ p ∈ text.getLast?, ¬ isBlank p) (blank : ∀ p ∈ margin, isBlank p) (ne : text ≠ []) : strip (text ++ margin) = text := by
  have front : (text ++ margin).dropWhile isBlank = text ++ margin := by
    obtain ⟨p, rest, rfl⟩ := List.exists_cons_of_ne_nil ne
    exact List.dropWhile_cons_of_neg (first p rfl)
  have back : (margin.reverse ++ text.reverse).dropWhile isBlank = text.reverse := by
    rw [List.dropWhile_append_of_pos fun p hp => blank p (List.mem_reverse.1 hp)]
    obtain ⟨p, rest, hrev⟩ := List.exists_cons_of_ne_nil (mt List.reverse_eq_nil_iff.1 ne)
    rw [hrev]
    refine List.dropWhile_cons_of_neg (last p ?_)
    rw [← List.head?_reverse, hrev]
    rfl
  rw [strip, front, dropEndWhile, List.reverse_append, back, List.reverse_reverse]

theorem strip_subset (text : Text) : strip text ⊆ text := by
  intro p hp
  have front : p ∈ (text.dropWhile isBlank).reverse := (List.dropWhile_suffix isBlank).subset (List.mem_reverse.1 hp)
  exact (List.dropWhile_suffix isBlank).subset (List.mem_reverse.1 front)

theorem words_append_blanks (text : Text) {margin : Text} (h : ∀ p ∈ margin, isBlank p) :
    words (text ++ margin) = words text := by
  cases margin with
  | nil => rw [List.append_nil]
  | cons p margin =>
    have none := words_blanks_append (fun q hq => h q (List.mem_cons_of_mem p hq)) []
    rw [List.append_nil] at none
    rw [words_append_cons _ _ (h p (List.mem_cons_self ..)), none]
    exact List.append_nil _

theorem words_strip (text : Text) : words (strip text) = words text := by
  have taken {t : Text} {p : CodePoint} (hp : p ∈ t.takeWhile isBlank) : isBlank p := List.mem_takeWhile_imp hp
  have front (t : Text) : words (t.dropWhile isBlank) = words t := by
    have whole : t.takeWhile isBlank ++ t.dropWhile isBlank = t := List.takeWhile_append_dropWhile
    calc words (t.dropWhile isBlank) = words (t.takeWhile isBlank ++ t.dropWhile isBlank) :=
          (words_blanks_append (fun _ => taken) _).symm
      _ = words t := by rw [whole]
  have back (t : Text) : words (dropEndWhile isBlank t) = words t := by
    have whole : dropEndWhile isBlank t ++ (t.reverse.takeWhile isBlank).reverse = t := by
      rw [dropEndWhile, ← List.reverse_append, List.takeWhile_append_dropWhile, List.reverse_reverse]
    calc words (dropEndWhile isBlank t) = words (dropEndWhile isBlank t ++ (t.reverse.takeWhile isBlank).reverse) :=
          (words_append_blanks _ fun p hp => taken (List.mem_reverse.1 hp)).symm
      _ = words t := by rw [whole]
  rw [strip, back, front]

/-! ### Strings -/

theorem ofString_intercalate (sep : String) (ss : List String) :
    ofString (sep.intercalate ss) = (ofString sep).intercalate (ss.map ofString) := by
  rw [ofString, ofChars, String.toList_intercalate]
  induction ss with
  | nil => rfl
  | cons s ss ih =>
    cases ss with
    | nil => simp [ofString, ofChars]
    | cons t ss =>
      simp only [List.map_cons, List.intercalate_cons_cons, List.map_append] at ih ⊢
      rw [ih]
      rfl

end Dcpu16.Text
