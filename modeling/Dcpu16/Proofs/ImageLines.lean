import Dcpu16.Image
import Dcpu16.Proofs.Hexadecimal
import Dcpu16.Proofs.Layout

/-!
Reading the lines of an image. The digits of base sixteen are no blanks, end no line and are not the marks of an address,
a comment or a marker, so a word is one token and is read as the number it writes (`readWord_of_writesHex`), an address
ends at its colon (`splitAddress_append`), and what follows a semicolon is not looked at (`content_append`).
-/

namespace Dcpu16.Image

open Numeral (WritesHex hexAlphabet)
open Text (isBlank isLineEnd ofChars strip)

/-! ### Words -/

/-- The digits of base sixteen are neither blanks nor breaks nor marks. -/
theorem plain_of_mem_alphabet {c : Char} (h : c ∈ hexAlphabet) :
    ¬ isBlank (.char c) ∧ ¬ isLineEnd (.char c) ∧ c ≠ ':' ∧ c ≠ ';' ∧ c ≠ 'x' ∧ c ≠ 'X' := by
  have plain : ∀ c ∈ hexAlphabet,
      ¬ isBlank (.char c) ∧ ¬ isLineEnd (.char c) ∧ c ≠ ':' ∧ c ≠ ';' ∧ c ≠ 'x' ∧ c ≠ 'X' :=
    List.all_iff_forall_prop.1 (by decide)
  exact plain c h

theorem mem_ofChars {cs : List Char} {p : CodePoint} : p ∈ ofChars cs ↔ ∃ c ∈ cs, .char c = p := List.mem_map

/-- The markers that a word may have, none among them. -/
def wordMarkers : List (List Char) := [[], ['0', 'x'], ['0', 'X']]

theorem nil_mem_wordMarkers : [] ∈ wordMarkers := List.mem_cons_self ..

/-- No character of a marker and of digits is a blank or a break or begins a comment. -/
theorem plain_of_mem_append {marker cs : List Char} {n : Nat} (hm : marker ∈ wordMarkers) (h : WritesHex cs n)
    {p : CodePoint} (hp : p ∈ ofChars (marker ++ cs)) : ¬ isBlank p ∧ ¬ isLineEnd p ∧ p ≠ .char ';' := by
  have marks : ∀ c ∈ wordMarkers.flatten, ¬ isBlank (.char c) ∧ ¬ isLineEnd (.char c) ∧ c ≠ ';' :=
    List.all_iff_forall_prop.1 (by decide)
  obtain ⟨c, hc, rfl⟩ := mem_ofChars.1 hp
  have plain : ¬ isBlank (.char c) ∧ ¬ isLineEnd (.char c) ∧ c ≠ ';' := by
    rcases List.mem_append.1 hc with hc | hc
    · exact marks c (List.mem_flatten_of_mem hm hc)
    · obtain ⟨blank, lineEnd, -, semicolon, -⟩ := plain_of_mem_alphabet (h.mem_alphabet hc)
      exact ⟨blank, lineEnd, semicolon⟩
  exact ⟨plain.1, plain.2.1, fun he => plain.2.2 (CodePoint.char.inj he)⟩

/-- A marker is taken off digits. -/
theorem unmark_of_alphabet {marker cs : List Char} (hm : marker ∈ wordMarkers) (h : ∀ c ∈ cs, c ∈ hexAlphabet) :
    unmark (ofChars (marker ++ cs)) = ofChars cs := by
  simp only [wordMarkers, List.mem_cons, List.not_mem_nil, or_false] at hm
  rcases hm with rfl | rfl | rfl
  · have letters {c : Char} (hc : c ∈ cs) : c ≠ 'x' ∧ c ≠ 'X' := by
      obtain ⟨-, -, -, -, hx, hX⟩ := plain_of_mem_alphabet (h c hc)
      exact ⟨hx, hX⟩
    cases cs with
    | nil => rfl
    | cons c cs =>
      cases cs with
      | nil => simp [ofChars, unmark]
      | cons d cs =>
        obtain ⟨hx, hX⟩ := letters (List.mem_cons_of_mem c (List.mem_cons_self ..))
        simp [ofChars, unmark, hx, hX]
  · rfl
  · rfl

theorem unmark_append {marker cs : List Char} {n : Nat} (hm : marker ∈ wordMarkers) (h : WritesHex cs n) :
    unmark (ofChars (marker ++ cs)) = ofChars cs := unmark_of_alphabet hm fun _ => h.mem_alphabet

theorem readWord_of_writesHex {cs : List Char} {n : Nat} (h : WritesHex cs n) (le : n ≤ 0xFFFF) :
    readWord (ofChars cs) = .ok (n : Int) := by
  have fits : ¬ (n : Int) > 0xFFFF := by omega
  rw [readWord, Numeral.readInteger_of_writesHex h]
  simp only [fits, if_false]

/-- A marker and digits make one token. -/
theorem solid_append {marker cs : List Char} {n : Nat} (hm : marker ∈ wordMarkers) (h : WritesHex cs n) :
    Text.Solid (ofChars (marker ++ cs)) :=
  ⟨fun he => h.ne_nil (List.append_eq_nil_iff.1 (List.map_eq_nil_iff.1 he)).2,
    fun _ hp => (plain_of_mem_append hm h hp).1⟩

/-! ### Tokens -/

theorem placed_cons (value : Int) (values : List Int) (cursor : Int) :
    Space.placed (value :: values) cursor = (cursor, value) :: Space.placed values (cursor + 1) := by
  have shift (i : Nat) : cursor + ((i + 1 : Nat) : Int) = cursor + 1 + i := by omega
  simp only [Space.placed, List.mapIdx_cons, shift, Int.natCast_zero, Int.add_zero]

theorem placed_append (xs ys : List Int) (cursor : Int) :
    Space.placed (xs ++ ys) cursor = Space.placed xs cursor ++ Space.placed ys (cursor + xs.length) := by
  induction xs generalizing cursor with
  | nil => simp [Space.placed]
  | cons x xs ih =>
    have shift : cursor + 1 + (xs.length : Int) = cursor + ((x :: xs).length : Nat) := by
      rw [List.length_cons]
      omega
    rw [List.cons_append, placed_cons, placed_cons, ih, shift, List.cons_append]

/-- Tokens that are words are placed one after the other. -/
theorem readTokens_eq {tokens : List Text} {values : List Int}
    (h : List.Forall₂ (fun token value => readWord (unmark token) = .ok value) tokens values) (number : Nat)
    (cursor : Int) :
    readTokens number cursor tokens = .ok (Space.placed values cursor, cursor + values.length) := by
  induction h generalizing cursor with
  | nil => simp [readTokens, Space.placed]
  | @cons token value tokens values hvalue rest ih =>
    have shift : cursor + 1 + (values.length : Int) = cursor + ((value :: values).length : Nat) := by
      rw [List.length_cons]
      omega
    simp only [readTokens, hvalue, ih (cursor + 1), placed_cons, ← shift]
    rfl

/-! ### Lines -/

/-- Blanks and a comment after the content of a line do not count. -/
theorem content_append {text margin comment : Text} (ne : text ≠ []) (first : ∀ p ∈ text.head?, ¬ isBlank p)
    (last : ∀ p ∈ text.getLast?, ¬ isBlank p) (uncommented : .char ';' ∉ text) (blank : ∀ p ∈ margin, isBlank p)
    (commented : ∀ p ∈ comment.head?, p = .char ';') : content (text ++ (margin ++ comment)) = text := by
  have all : ∀ p ∈ text ++ margin, decide (p ≠ .char ';') = true := by
    intro p hp
    refine decide_eq_true fun he => ?_
    subst he
    rcases List.mem_append.1 hp with hp | hp
    · exact uncommented hp
    · exact absurd (blank _ hp) (by decide)
  have stop : ∀ p ∈ comment.head?, ¬ decide (p ≠ .char ';') = true := by
    intro p hp
    rw [commented p hp]
    decide
  have before : (text ++ margin ++ comment).takeWhile (fun p => decide (p ≠ .char ';')) = text ++ margin := by
    have split := Numeral.span_append all stop
    rw [List.span_eq_takeWhile_dropWhile] at split
    exact congrArg Prod.fst split
  rw [content, ← List.append_assoc, before]
  exact Text.strip_append first last blank ne

theorem content_of_uncommented {line : Text} (h : .char ';' ∉ line) : content line = strip line := by
  have all : ∀ p ∈ line, decide (p ≠ .char ';') = true := fun p hp => decide_eq_true fun he => h (he ▸ hp)
  rw [content, List.takeWhile_eq_self_iff.2 all]

/-- Without a colon there is no address. -/
theorem splitAddress_of_no_colon {line : Text} (h : .char ':' ∉ line) : splitAddress line = (none, line) := by
  unfold splitAddress
  rw [List.span_eq_takeWhile_dropWhile]
  simp only
  split
  next rest _ hrest =>
    refine absurd ?_ h
    have suffix := (List.dropWhile_suffix isBlank).trans
      (List.dropWhile_suffix (fun p => (hexDigit? p).isSome) (l := line))
    rw [hrest] at suffix
    exact suffix.subset (List.mem_cons_self ..)
  next => rfl

/-- The digits before a colon are an address. -/
theorem splitAddress_append {cs : List Char} {n : Nat} (h : WritesHex cs n) (rest : Text) :
    splitAddress (ofChars cs ++ .char ':' :: rest) = (some n, rest) := by
  obtain ⟨ds, digits, value⟩ := h.exists_digits
  have all : ∀ p ∈ ofChars cs, (hexDigit? p).isSome := by
    intro p hp
    obtain ⟨c, hc, rfl⟩ := mem_ofChars.1 hp
    exact h.isSome_digitValue hc
  have stop : ∀ p ∈ (CodePoint.char ':' :: rest).head?, ¬ (hexDigit? p).isSome := by
    rintro p ⟨⟩
    decide
  have values : (ofChars cs).filterMap hexDigit? = ds := by
    calc (ofChars cs).filterMap hexDigit? = cs.filterMap (id ∘ Numeral.digitValue? 16) := List.filterMap_map ..
      _ = (ds.map some).filterMap id := by rw [← List.filterMap_map, digits]
      _ = ds := by rw [List.filterMap_map]; exact List.filterMap_some
  have colon : (CodePoint.char ':' :: rest).dropWhile isBlank = .char ':' :: rest :=
    List.dropWhile_cons_of_neg (by decide)
  obtain ⟨c, cs', rfl⟩ := List.exists_cons_of_ne_nil h.ne_nil
  rw [splitAddress, Numeral.span_append all stop]
  simp only [colon]
  show (some (Numeral.ofDigits 16 ((ofChars (c :: cs')).filterMap hexDigit?)), rest) = _
  rw [values, value]

/-- A line of words without marks is read word by word. -/
theorem readLine_of_unmarked {line : Text} (uncommented : .char ';' ∉ line) (unaddressed : .char ':' ∉ line)
    (number : Nat) (cursor : Int) : readLine number cursor line = readTokens number cursor (Text.words line) := by
  have stripped : .char ':' ∉ strip line := fun h => unaddressed (Text.strip_subset line h)
  rw [readLine, content_of_uncommented uncommented, splitAddress_of_no_colon stripped]
  show readTokens number cursor (Text.words (strip line)) = _
  rw [Text.words_strip]

theorem readLines_cons {number : Nat} {cursor middle last : Int} {line : Text} {rest : List Text}
    {pairs more : List (Int × Int)}
    (first : readLine number cursor line = .ok (pairs, middle))
    (later : readLines (number + 1) middle rest = .ok (more, last)) :
    readLines number cursor (line :: rest) = .ok (pairs ++ more, last) := by
  rw [readLines, first]
  show (readLines (number + 1) middle rest >>= _) = _
  rw [later]
  rfl

end Dcpu16.Image
