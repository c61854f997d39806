import Dcpu16.Proofs.LineByLine
import Dcpu16.Space.Lemmas

/-!
Which texts are images. The format describes a word as a marker or none and digits for a number of sixteen bits
(`IsHexWord`), but a reader takes more: when it has removed one marker, any literal in base sixteen will do, with a sign, a
second marker, joints and digits of other scripts, and only numbers that are too great are refused
(`readWord_eq_ok_iff`). So a text is an image exactly if all its tokens are such literals, and the words of the format are
those of them that have nothing but digits after the first marker (`isHexWord_iff`). The difference shows when words are
loaded: a cell gives back the number that was read only if it is not negative (`read_ok_iff`).
-/

namespace Dcpu16.Image

open Numeral (Literal digitValue? hexAlphabet isMargin ofDigits plainChar readInteger)
open Text (isBlank ofChars)

/-! ### Tokens -/

/-- All tokens of some lines. -/
def allTokens (ls : List Text) : List Text := ls.flatMap tokens

theorem solid_of_mem_allTokens {ls : List Text} {token : Text} (h : token ∈ allTokens ls) : Text.Solid token := by
  obtain ⟨line, -, hline⟩ := List.mem_flatMap.1 h
  exact Text.solid_of_mem_words hline

/-- A token is a marker, which may be empty, and what is left of it without the marker. -/
theorem exists_marker (token : Text) : ∃ marker ∈ wordMarkers, token = ofChars marker ++ unmark token := by
  unfold unmark
  split
  next rest => exact ⟨['0', 'x'], by decide, rfl⟩
  next rest => exact ⟨['0', 'X'], by decide, rfl⟩
  next => exact ⟨[], by decide, rfl⟩

theorem unmark_subset (token : Text) : unmark token ⊆ token := by
  obtain ⟨marker, -, split⟩ := exists_marker token
  intro p hp
  rw [split]
  exact List.mem_append_right _ hp

/-! ### Words -/

/-- Only blanks are read as margins. -/
theorem isBlank_of_isMargin {p : CodePoint} (h : isMargin (plainChar p)) : isBlank p := by
  have foreign {p : CodePoint} (h : isMargin (Numeral.foreignChar p)) : isBlank p := by
    unfold Numeral.foreignChar at h
    split at h
    next blank => exact blank
    next =>
      split at h
      next d hd =>
        obtain ⟨first, found, rfl⟩ := Option.map_eq_some_iff.1 hd
        have small : p.code - first < 10 := by
          have := List.find?_some found
          simp at this
          omega
        generalize p.code - first = d at small h
        have solid : ∀ d < 10, ¬ isMargin (Char.ofNat ('0'.toNat + d)) := by decide
        exact absurd h (solid d small)
      next => exact absurd h (by decide)
  unfold plainChar at h
  split at h
  next c =>
    split at h
    next =>
      have blanks : ∀ c ∈ [' ', '\t', '\n', '\r', '\x0b', '\x0c'], isBlank (.char c) :=
        List.all_iff_forall_prop.1 (by decide)
      exact blanks c (List.contains_iff_mem.1 h)
    next => exact foreign h
  next => exact foreign h

/-- A text without blanks is read exactly if it is a literal. -/
theorem readInteger_eq_ok_iff_literal {token : Text} (solid : ∀ p ∈ token, ¬ isBlank p) {n : Int} :
    readInteger .sixteen token = .ok n ↔ Literal .sixteen (token.map plainChar) n := by
  have noMargin : ∀ c ∈ token.map plainChar, ¬ isMargin c := by
    intro c hc margin
    obtain ⟨p, hp, rfl⟩ := List.mem_map.1 hc
    exact solid p hp (isBlank_of_isMargin margin)
  rw [Numeral.readInteger_eq_ok_iff]
  constructor
  · rintro ⟨front, literal, back, split, margin, margin', h⟩
    rw [split] at noMargin ⊢
    have front_nil : front = [] := List.eq_nil_iff_forall_not_mem.2 fun c hc =>
      noMargin c (by simp [hc]) (margin c hc)
    have back_nil : back = [] := List.eq_nil_iff_forall_not_mem.2 fun c hc =>
      noMargin c (by simp [hc]) (margin' c hc)
    simpa [front_nil, back_nil] using h
  · intro h
    exact ⟨[], _, [], by simp, by simp, by simp, h⟩

/-- **A token is read exactly if it is a literal after its marker, and not too great.** -/
theorem readWord_eq_ok_iff {token : Text} (solid : ∀ p ∈ token, ¬ isBlank p) {n : Int} :
    readWord (unmark token) = .ok n ↔ Literal .sixteen ((unmark token).map plainChar) n ∧ n ≤ 0xFFFF := by
  rw [← readInteger_eq_ok_iff_literal fun p hp => solid p (unmark_subset token hp), readWord]
  cases readInteger .sixteen (unmark token) with
  | error e => simp
  | ok word =>
    simp only [Except.ok.injEq]
    split
    · constructor
      · rintro ⟨⟩
      · rintro ⟨rfl, small⟩
        omega
    · rw [Except.ok.injEq]
      constructor
      · rintro rfl
        exact ⟨rfl, by omega⟩
      · exact And.left

/-! ### Words of the format -/

/-- A word as the format has it: a marker or none, and digits in base sixteen for a number of sixteen bits. -/
def IsHexWord (token : Text) : Prop :=
  ∃ marker ∈ wordMarkers, ∃ (cs : List Char) (ds : List Nat), token = ofChars (marker ++ cs) ∧ cs ≠ [] ∧
    cs.map (digitValue? 16) = ds.map some ∧ ofDigits 16 ds ≤ 0xFFFF

/-- The digits of a word are no blanks. -/
theorem unblank_of_digits {cs : List Char} {ds : List Nat} (h : cs.map (digitValue? 16) = ds.map some) :
    ∀ p ∈ ofChars cs, ¬ isBlank p := by
  intro p hp
  obtain ⟨c, hc, rfl⟩ := mem_ofChars.1 hp
  exact (plain_of_mem_alphabet (Numeral.mem_alphabet_of_digits h c hc)).1

/-- A word of the format is read as the number that its digits write. -/
theorem IsHexWord.exists_readWord {token : Text} (h : IsHexWord token) :
    ∃ n : Nat, readWord (unmark token) = .ok (n : Int) := by
  obtain ⟨marker, hm, cs, ds, rfl, ne, digits, small⟩ := h
  refine ⟨ofDigits 16 ds, ?_⟩
  rw [unmark_of_alphabet hm (Numeral.mem_alphabet_of_digits digits), readWord, Numeral.readInteger_of_digits ne digits]
  have fits : ¬ (ofDigits 16 ds : Int) > 0xFFFF := by omega
  simp only [fits, if_false]

theorem exists_digits_of_forall {text : Text} (h : ∀ p ∈ text, (hexDigit? p).isSome) :
    ∃ (cs : List Char) (ds : List Nat), text = ofChars cs ∧ cs.map (digitValue? 16) = ds.map some := by
  induction text with
  | nil => exact ⟨[], [], rfl, rfl⟩
  | cons p text ih =>
    obtain ⟨first, rest⟩ := List.forall_mem_cons.1 h
    obtain ⟨cs, ds, rfl, hds⟩ := ih rest
    obtain ⟨d, hd⟩ := Option.isSome_iff_exists.1 first
    cases p with
    | char c => exact ⟨c :: cs, d :: ds, rfl, by rw [List.map_cons, hds, List.map_cons]; exact congrArg (· :: _) hd⟩
    | surrogate => cases hd

/-- **The words of the format** are the literals that have nothing but digits after the marker. -/
theorem isHexWord_iff {token : Text} :
    IsHexWord token ↔ (∃ n ≤ (0xFFFF : Int), Literal .sixteen ((unmark token).map plainChar) n) ∧
      ∀ p ∈ unmark token, (hexDigit? p).isSome := by
  constructor
  · rintro ⟨marker, hm, cs, ds, rfl, ne, digits, small⟩
    have literal := (readInteger_eq_ok_iff_literal (unblank_of_digits digits)).1 (Numeral.readInteger_of_digits ne digits)
    rw [unmark_of_alphabet hm (Numeral.mem_alphabet_of_digits digits)]
    refine ⟨⟨_, by omega, literal⟩, fun p hp => ?_⟩
    obtain ⟨c, hc, rfl⟩ := mem_ofChars.1 hp
    obtain ⟨d, -, hd⟩ := List.mem_map.1 (digits ▸ List.mem_map_of_mem hc : digitValue? 16 c ∈ ds.map some)
    exact Option.isSome_of_eq_some hd.symm
  · rintro ⟨⟨n, small, literal⟩, plain⟩
    obtain ⟨marker, hm, split⟩ := exists_marker token
    obtain ⟨cs, ds, hcs, digits⟩ := exists_digits_of_forall plain
    rw [hcs] at literal
    have ne : cs ≠ [] := by
      rintro rfl
      obtain ⟨c, rest, heq, -⟩ := literal.exists_cons
      cases heq
    -- the digits are read as one number only
    have value : n = ofDigits 16 ds := by
      have first := (readInteger_eq_ok_iff_literal (unblank_of_digits digits)).2 literal
      exact Except.ok.inj (first.symm.trans (Numeral.readInteger_of_digits ne digits))
    refine ⟨marker, hm, cs, ds, ?_, ne, digits, by omega⟩
    rw [split, hcs]
    simp [ofChars]

/-! ### Words that are read -/

/-- The words of some pairs are the values of the tokens, in order. -/
def HasWords (ts : List Text) (pairs : List (Int × Int)) : Prop :=
  List.Forall₂ (fun token pair => readWord (unmark token) = .ok pair.2) ts pairs

namespace HasWords

variable {ts : List Text} {pairs : List (Int × Int)}

theorem placed {values : List Int} (h : List.Forall₂ (fun token value => readWord (unmark token) = .ok value) ts values)
    (cursor : Int) : HasWords ts (Space.placed values cursor) := by
  induction h generalizing cursor with
  | nil => exact .nil
  | cons first rest ih =>
    rw [placed_cons]
    exact .cons first (ih (cursor + 1))

theorem literals (h : HasWords ts pairs) (solid : ∀ token ∈ ts, ∀ p ∈ token, ¬ isBlank p) :
    List.Forall₂ (fun token pair => Literal .sixteen ((unmark token).map plainChar) pair.2) ts pairs := by
  induction h with
  | nil => exact .nil
  | cons first rest ih =>
    obtain ⟨here, later⟩ := List.forall_mem_cons.1 solid
    exact .cons ((readWord_eq_ok_iff here).1 first).1 (ih later)

/-- What holds of all values of tokens holds of the words. -/
theorem forall_mem {P : Int → Prop} (h : HasWords ts pairs)
    (values : ∀ token ∈ ts, ∀ n, readWord (unmark token) = .ok n → P n) : ∀ pair ∈ pairs, P pair.2 := by
  induction h with
  | nil => exact List.forall_mem_nil _
  | cons first rest ih =>
    obtain ⟨here, later⟩ := List.forall_mem_cons.1 values
    exact List.forall_mem_cons.2 ⟨here _ first, ih later⟩

end HasWords

/-! ### Lines -/

variable {ls : List Text} {number : Nat} {cursor : Int}

/-- The words that are read are those of the tokens, in order. -/
theorem readLines_words {r : List (Int × Int) × Int} (h : readLines number cursor ls = .ok r) :
    HasWords (allTokens ls) r.1 := by
  induction ls generalizing number cursor r with
  | nil =>
    cases h
    exact .nil
  | cons line ls ih =>
    obtain ⟨pairs, last⟩ := r
    obtain ⟨front, middle, back, hfront, hback, rfl⟩ :=
      exists_of_readLines_append (show readLines number cursor ([line] ++ ls) = .ok (pairs, last) from h)
    rw [readLines_singleton, readLine_eq] at hfront
    obtain ⟨values, words, hvalues⟩ := exists_values hfront
    obtain ⟨rfl, -⟩ := Prod.mk.inj hvalues
    exact List.rel_append (HasWords.placed words _) (ih hback)

/-- Lines are read exactly if all their tokens are. -/
theorem readLines_isOk_iff :
    (∃ r, readLines number cursor ls = .ok r) ↔ ∀ token ∈ allTokens ls, ∃ n, readWord (unmark token) = .ok n := by
  constructor
  · rintro ⟨r, h⟩ token htoken
    obtain ⟨i, hi, rfl⟩ := List.getElem_of_mem htoken
    obtain ⟨length, words⟩ := List.forall₂_iff_get.1 (readLines_words h)
    exact ⟨_, words i hi (length ▸ hi)⟩
  · intro all
    cases h : readLines number cursor ls with
    | ok r => exact ⟨r, rfl⟩
    | error e =>
      obtain ⟨before, line, later, rfl, -, wrong, -⟩ := readLines_eq_error_iff.1 h
      have right : wrong? line = none := by
        refine List.findSome?_eq_none_iff.2 fun token htoken => ?_
        obtain ⟨n, hn⟩ := all token (List.mem_flatMap.2 ⟨line, by simp, htoken⟩)
        simp only [hn]
      cases right.symm.trans wrong

/-! ### Texts -/

theorem read_eq_ok_iff {text : Text} {origin : Int} {pairs : List (Int × Int)} :
    read text origin = .ok pairs ↔ ∃ last, readLines 1 origin text.lines = .ok (pairs, last) := by
  rw [read]
  cases readLines 1 origin text.lines with
  | error e => simp [Except.map]
  | ok r =>
    obtain ⟨pairs', last⟩ := r
    simp [Except.map]

/-- A text is read exactly if each of its tokens is a literal after its marker, and not too great. -/
theorem exists_read_iff (text : Text) (origin : Int) :
    (∃ pairs, read text origin = .ok pairs) ↔
      ∀ token ∈ allTokens text.lines, ∃ n ≤ (0xFFFF : Int), Literal .sixteen ((unmark token).map plainChar) n := by
  have words : (∃ pairs, read text origin = .ok pairs) ↔ ∃ r, readLines 1 origin text.lines = .ok r := by
    simp only [read_eq_ok_iff, Prod.exists]
  rw [words, readLines_isOk_iff]
  refine forall₂_congr fun token htoken => exists_congr fun n => ?_
  rw [readWord_eq_ok_iff (solid_of_mem_allTokens htoken).2, and_comm]

/-- **Which texts are images.** A text is read exactly if each of its tokens is, after one marker, a literal in base sixteen
for a number that is not too great. The texts of which all tokens are words of the format are those among them that have
nothing but digits after the markers. The words of an image are the numbers that its tokens write, in order. When it is
loaded, a cell has the low sixteen bits of the last word for it, which is the number that was read exactly if that is not
negative; the words of the format are not. -/
theorem read_ok_iff (text : Text) (origin : Int) :
    ((∃ pairs, read text origin = .ok pairs) ↔
      ∀ token ∈ allTokens text.lines, ∃ n ≤ (0xFFFF : Int), Literal .sixteen ((unmark token).map plainChar) n) ∧
    ((∀ token ∈ allTokens text.lines, IsHexWord token) ↔
      (∃ pairs, read text origin = .ok pairs) ∧
        ∀ token ∈ allTokens text.lines, ∀ p ∈ unmark token, (hexDigit? p).isSome) ∧
    ∀ pairs, read text origin = .ok pairs →
      List.Forall₂ (fun token pair => Literal .sixteen ((unmark token).map plainChar) pair.2) (allTokens text.lines) pairs ∧
      (∀ pair ∈ pairs, pair.2 ≤ 0xFFFF) ∧
      ((∀ token ∈ allTokens text.lines, IsHexWord token) → ∀ pair ∈ pairs, 0 ≤ pair.2) ∧
      ∀ (s : Space) before a w after, pairs = before ++ (a, w) :: after →
        (∀ pair ∈ after, s.policy.normalize a ≠ s.policy.normalize pair.1) →
        ((s.loadPairs pairs).inspect (.cell a)).address = w % 0x10000 ∧
          (((s.loadPairs pairs).inspect (.cell a)).address = w ↔ 0 ≤ w) := by
  refine ⟨exists_read_iff text origin, ?_, fun pairs accepted => ?_⟩
  · rw [exists_read_iff, ← forall₂_and]
    exact forall₂_congr fun token _ => isHexWord_iff
  · obtain ⟨last, lines⟩ := read_eq_ok_iff.1 accepted
    have words : HasWords (allTokens text.lines) pairs := readLines_words lines
    have solid (token : Text) (htoken : token ∈ allTokens text.lines) := (solid_of_mem_allTokens htoken).2
    have small : ∀ pair ∈ pairs, pair.2 ≤ 0xFFFF :=
      words.forall_mem fun token htoken n hn => ((readWord_eq_ok_iff (solid token htoken)).1 hn).2
    refine ⟨words.literals solid, small, fun format => ?_, fun s before a w after split single => ?_⟩
    · refine words.forall_mem fun token htoken n hn => ?_
      obtain ⟨k, hk⟩ := (format token htoken).exists_readWord
      rw [Except.ok.inj (hn.symm.trans hk)]
      exact Int.natCast_nonneg k
    have fits : w ≤ 0xFFFF := small (a, w) (by simp [split])
    have stored : ((s.loadPairs pairs).inspect (.cell a)).address = w % 0x10000 := by
      rw [split]
      show ((s.loadPairs _).cell a).address = _
      rw [s.cell_loadPairs_append_cons before w single]
      exact Word.toNat_ofInt w
    refine ⟨stored, ?_⟩
    rw [stored]
    omega

/-- Two words for one cell, of which the first has the format and the second has two markers, and a word that is negative. -/
theorem read_ok_iff_markers :
    let text : Text := "0010: 0x7C01 30 ; 1:\n11: 0x0X1 -f"
    let pairs : List (Int × Int) := [(0x10, 0x7C01), (0x11, 0x30), (0x11, 1), (0x12, -15)]
    read text 0 = .ok pairs ∧ (∀ token ∈ allTokens (text.lines.take 1), IsHexWord token) ∧
      (¬ ∀ token ∈ allTokens text.lines, IsHexWord token) ∧
      ((({} : Space).loadPairs pairs).inspect (.cell 0x11)).address = 1 ∧
      ((({} : Space).loadPairs pairs).inspect (.cell 0x12)).address ≠ -15 := by
  intro text pairs
  have accepted : read text 0 = .ok pairs := by decide
  obtain ⟨-, format, words⟩ := read_ok_iff text 0
  obtain ⟨-, format', -⟩ := read_ok_iff (ofChars "0010: 0x7C01 30 ; 1:".toList) 0
  obtain ⟨-, -, -, loaded⟩ := words pairs accepted
  have last := (loaded {} (pairs.take 2) 0x11 1 (pairs.drop 3) rfl (by decide)).2.2 (by decide)
  have negative := mt (loaded {} (pairs.take 3) 0x12 (-15) [] rfl (by decide)).2.1 (by decide)
  have plain := format'.2 ⟨⟨pairs.take 2, by decide⟩, by decide⟩
  have other := mt format.1 fun h => absurd h.2 (by decide)
  exact ⟨accepted, plain, other, last, negative⟩

/-- A token with a sign is no word of the format. It is read as a negative number, and a cell that it is loaded into gives
back another one. -/
theorem read_negative_word :
    (¬ ∀ token ∈ allTokens (ofChars ['-', '1']).lines, IsHexWord token) ∧ read (ofChars ['-', '1']) 0 = .ok [(0, -1)] ∧
      ((({} : Space).loadPairs [(0, -1)]).inspect (.cell 0)).address = 0xFFFF := by
  refine ⟨fun format => ?_, by decide, by decide⟩
  obtain ⟨-, digits⟩ := isHexWord_iff.1 (format (ofChars ['-', '1']) (by decide))
  exact absurd (digits (.char '-') (by decide)) (by decide)

end Dcpu16.Image
