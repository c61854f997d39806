import Dcpu16.Numeral.Integer
import Mathlib.Data.Bool.AllAny
import Mathlib.Data.List.TakeDrop
import Mathlib.Data.List.TakeWhile
import Mathlib.Tactic.IntervalCases

/-!
Which texts are read as integers. A literal has a sign, a mark of its base and digits; the sign and the mark may be missing,
and single joints may stand between the digits (`Literal`). A text is read exactly if it is a literal with margins around
it, and then as the integer that the literal writes (`readInteger_eq_ok_iff`). Both directions rest on one fact: signs,
letters of marks, margins and digits with their joints are kinds of characters that have nothing in common, so a reader that
takes off one after the other stops where the next part begins.
-/

namespace Dcpu16.Numeral

/-! ### Characters -/

/-- The digits in base sixteen. What holds of all of them is decided digit by digit. -/
def hexAlphabet : List Char := ['0', '1', '2', '3', '4', '5', '6', '7', '8', '9',
  'a', 'b', 'c', 'd', 'e', 'f', 'A', 'B', 'C', 'D', 'E', 'F']

/-- The digits in the other bases are among them. -/
theorem mem_hexAlphabet {base : Nat} {c : Char} (h : (digitValue? base c).isSome) : c ∈ hexAlphabet := by
  have range : 48 ≤ c.toNat ∧ c.toNat ≤ 57 ∨ 97 ≤ c.toNat ∧ c.toNat ≤ 102 ∨ 65 ≤ c.toNat ∧ c.toNat ≤ 70 := by
    unfold digitValue? at h
    simp only [Bool.and_eq_true, decide_eq_true_eq] at h
    split at h
    next hc => exact Or.inl hc
    next =>
      split at h
      next hc => exact Or.inr (Or.inl hc)
      next =>
        split at h
        next hc => exact Or.inr (Or.inr hc)
        next => cases h
  rw [← Char.ofNat_toNat c]
  generalize c.toNat = n at range
  rcases range with ⟨lower, upper⟩ | ⟨lower, upper⟩ | ⟨lower, upper⟩ <;> interval_cases n <;> decide

/-- A digit is no margin and no sign. -/
theorem plain_of_digit {base : Nat} {c : Char} (h : (digitValue? base c).isSome) :
    ¬ isMargin c ∧ c ≠ '+' ∧ c ≠ '-' ∧ c ≠ '_' := by
  have plain : ∀ c ∈ hexAlphabet, ¬ isMargin c ∧ c ≠ '+' ∧ c ≠ '-' ∧ c ≠ '_' := List.all_iff_forall_prop.1 (by decide)
  exact plain c (mem_hexAlphabet h)

theorem not_isDigitOrJoint_of_isMargin {base : Nat} {c : Char} (h : isMargin c) : ¬ isDigitOrJoint base c := by
  intro digit
  rcases Bool.or_eq_true .. ▸ digit with joint | digit
  · rw [of_decide_eq_true joint] at h
    exact absurd h (by decide)
  · exact (plain_of_digit digit).1 h

/-- The letter of a mark is no digit of its base, no joint and no margin. -/
theorem plain_of_mem_markers {base : Base} {m : Char} (h : m ∈ base.markers) :
    ¬ isDigitOrJoint base.value m ∧ ¬ isMargin m := by
  have plain : ∀ m ∈ base.markers, ¬ isDigitOrJoint base.value m ∧ ¬ isMargin m :=
    List.all_iff_forall_prop.1 (by cases base <;> decide)
  exact plain m h

theorem span_append {α : Type} {test : α → Bool} {xs rest : List α} (all : ∀ x ∈ xs, test x)
    (stop : ∀ y ∈ rest.head?, ¬ test y) : (xs ++ rest).span test = (xs, rest) := by
  rw [List.span_eq_takeWhile_dropWhile, List.takeWhile_append_of_pos all, List.dropWhile_append_of_pos all]
  cases rest with
  | nil => rw [List.takeWhile_nil, List.dropWhile_nil, List.append_nil]
  | cons y rest =>
    have hy : ¬ test y := stop y rfl
    rw [List.takeWhile_cons_of_neg hy, List.dropWhile_cons_of_neg hy, List.append_nil]

/-! ### Digits -/

/-- Digits and their values, the most significant first. A joint may stand between two of them. -/
inductive Digits (base : Nat) : List Char → List Nat → Prop where
  | last {c : Char} {d : Nat} (h : digitValue? base c = some d) : Digits base [c] [d]
  | cons {c : Char} {d : Nat} {cs : List Char} {ds : List Nat} (h : digitValue? base c = some d)
      (rest : Digits base cs ds) : Digits base (c :: cs) (d :: ds)
  | joint {c : Char} {d : Nat} {cs : List Char} {ds : List Nat} (h : digitValue? base c = some d)
      (rest : Digits base cs ds) : Digits base (c :: '_' :: cs) (d :: ds)

namespace Digits

variable {base : Nat} {cs : List Char} {ds : List Nat}

theorem exists_cons (h : Digits base cs ds) : ∃ c rest, cs = c :: rest ∧ (digitValue? base c).isSome := by
  cases h with
  | last hc => exact ⟨_, _, rfl, Option.isSome_of_eq_some hc⟩
  | cons hc rest => exact ⟨_, _, rfl, Option.isSome_of_eq_some hc⟩
  | joint hc rest => exact ⟨_, _, rfl, Option.isSome_of_eq_some hc⟩

theorem isDigitOrJoint (h : Digits base cs ds) : ∀ c ∈ cs, isDigitOrJoint base c := by
  have digit {c : Char} {d : Nat} (hc : digitValue? base c = some d) : Numeral.isDigitOrJoint base c := by
    simp [Numeral.isDigitOrJoint, hc]
  induction h with
  | last hc => simpa using digit hc
  | cons hc rest ih => simpa using ⟨digit hc, ih⟩
  | joint hc rest ih => simpa using ⟨digit hc, by simp [Numeral.isDigitOrJoint], ih⟩

/-- Digits without joints. -/
theorem of_map (ne : cs ≠ []) (h : cs.map (digitValue? base) = ds.map some) : Digits base cs ds := by
  induction cs generalizing ds with
  | nil => exact absurd rfl ne
  | cons c cs ih =>
    cases ds with
    | nil => simp at h
    | cons d ds =>
      obtain ⟨hc, hcs⟩ := List.cons.inj h
      cases cs with
      | nil =>
        have : ds = [] := by simpa using hcs.symm
        rw [this]
        exact .last hc
      | cons c' cs => exact .cons hc (ih (by simp) hcs)

end Digits

/-- **Digits are found exactly where there are some.** -/
theorem digitValues?_eq_some_iff {base : Nat} {cs : List Char} {ds : List Nat} :
    digitValues? base cs = some ds ↔ Digits base cs ds := by
  constructor
  · intro h
    fun_induction digitValues? base cs generalizing ds with
    | case1 => cases h
    | case2 c =>
      obtain ⟨d, hd, rfl⟩ := Option.map_eq_some_iff.1 h
      exact .last hd
    | case3 c rest ih =>
      simp only [Option.bind_eq_bind, Option.bind_eq_some_iff, Option.pure_def, Option.some.injEq] at h
      obtain ⟨d, hd, ds', hds, rfl⟩ := h
      exact .joint hd (ih hds)
    | case4 c rest _ _ ih =>
      simp only [Option.bind_eq_bind, Option.bind_eq_some_iff, Option.pure_def, Option.some.injEq] at h
      obtain ⟨d, hd, ds', hds, rfl⟩ := h
      exact .cons hd (ih hds)
  · intro h
    induction h with
    | last hc => simp [digitValues?, hc]
    | cons hc rest ih =>
      obtain ⟨c', rest', rfl, digit⟩ := rest.exists_cons
      have unjoined : c' ≠ '_' := (plain_of_digit digit).2.2.2
      rw [digitValues?, hc, ih]
      · rfl
      · simp
      · intro tail heq
        exact unjoined (List.cons.inj heq).1
    | joint hc rest ih =>
      rw [digitValues?, hc, ih]
      rfl

/-! ### Literals -/

/-- What may stand before the digits of a base: nothing, or `0` and a letter, with a joint after it or without. -/
def Base.marks (base : Base) : List (List Char) := [] :: base.markers.flatMap fun m => [['0', m], ['0', m, '_']]

/-- A number without a sign: a mark and digits, of which there are no more than the base allows. -/
inductive Magnitude (base : Base) : List Char → Nat → Prop where
  | intro {mark body : List Char} {ds : List Nat} (marked : mark ∈ base.marks) (digits : Digits base.value body ds)
      (short : ∀ limit ∈ base.digitLimit?, ds.length ≤ limit) : Magnitude base (mark ++ body) (ofDigits base.value ds)

/-- An integer: a number with a sign or without one. -/
inductive Literal (base : Base) : List Char → Int → Prop where
  | unsigned {cs : List Char} {n : Nat} (h : Magnitude base cs n) : Literal base cs n
  | plus {cs : List Char} {n : Nat} (h : Magnitude base cs n) : Literal base ('+' :: cs) n
  | minus {cs : List Char} {n : Nat} (h : Magnitude base cs n) : Literal base ('-' :: cs) (-n)

section Marks

variable {base : Base}

theorem mem_marks {mark : List Char} :
    mark ∈ base.marks ↔ mark = [] ∨ ∃ m ∈ base.markers, mark = ['0', m] ∨ mark = ['0', m, '_'] := by
  simp [Base.marks]

/-- A mark is dropped whole. -/
theorem exists_mark (base : Base) (cs : List Char) : ∃ mark ∈ base.marks, cs = mark ++ dropMarker base cs := by
  unfold dropMarker
  split
  next m rest =>
    split
    next hm => exact ⟨['0', m, '_'], mem_marks.2 (Or.inr ⟨m, List.contains_iff_mem.1 hm, Or.inr rfl⟩), rfl⟩
    next => exact ⟨[], mem_marks.2 (Or.inl rfl), rfl⟩
  next m rest _ =>
    split
    next hm => exact ⟨['0', m], mem_marks.2 (Or.inr ⟨m, List.contains_iff_mem.1 hm, Or.inl rfl⟩), rfl⟩
    next => exact ⟨[], mem_marks.2 (Or.inl rfl), rfl⟩
  next => exact ⟨[], mem_marks.2 (Or.inl rfl), rfl⟩

theorem dropMarker_eq {cs : List Char} (h : ∀ c ∈ cs, c ∉ base.markers) : dropMarker base cs = cs := by
  unfold dropMarker
  split
  next m rest =>
    rw [if_neg]
    simpa using h m (by simp)
  next m rest _ =>
    rw [if_neg]
    simpa using h m (by simp)
  next => rfl

/-- Nothing but the mark is dropped. -/
theorem dropMarker_append {mark body back : List Char} {ds : List Nat} (marked : mark ∈ base.marks)
    (digits : Digits base.value body ds) (margin : ∀ c ∈ back, isMargin c) :
    dropMarker base (mark ++ (body ++ back)) = body ++ back := by
  rcases mem_marks.1 marked with rfl | ⟨m, hm, rfl | rfl⟩
  · rw [List.nil_append]
    refine dropMarker_eq fun c hc marker => ?_
    obtain ⟨noDigit, noMargin⟩ := plain_of_mem_markers marker
    rcases List.mem_append.1 hc with hc | hc
    · exact noDigit (digits.isDigitOrJoint c hc)
    · exact noMargin (margin c hc)
  · obtain ⟨c, rest, rfl, digit⟩ := digits.exists_cons
    have unjoined : c ≠ '_' := (plain_of_digit digit).2.2.2
    simp [dropMarker, hm, unjoined]
  · simp [dropMarker, hm]

end Marks

/-! ### Numbers without a sign -/

/-- The digits that a text without a sign has after its mark, and what follows them. -/
def digitSpan (base : Base) (cs : List Char) : List Char × List Char :=
  (dropMarker base cs).span (isDigitOrJoint base.value)

section Magnitudes

variable {base : Base}

theorem Magnitude.exists_cons {cs : List Char} {n : Nat} (h : Magnitude base cs n) :
    ∃ c rest, cs = c :: rest ∧ (digitValue? base.value c).isSome := by
  obtain ⟨marked, digits, -⟩ := h
  rcases mem_marks.1 marked with rfl | ⟨m, -, rfl | rfl⟩
  · exact digits.exists_cons
  · exact ⟨'0', _, rfl, by cases base <;> decide⟩
  · exact ⟨'0', _, rfl, by cases base <;> decide⟩

/-- A text without a sign is read exactly if it is a number, with a margin after it. -/
theorem digitSpan_iff {cs : List Char} {n : Nat} :
    (∃ ds, digitValues? base.value (digitSpan base cs).1 = some ds ∧ (∀ limit ∈ base.digitLimit?, ds.length ≤ limit) ∧
      (∀ c ∈ (digitSpan base cs).2, isMargin c) ∧ ofDigits base.value ds = n) ↔
    ∃ number back, cs = number ++ back ∧ (∀ c ∈ back, isMargin c) ∧ Magnitude base number n := by
  constructor
  · rintro ⟨ds, values, short, margin, rfl⟩
    obtain ⟨mark, marked, split⟩ := exists_mark base cs
    have whole : dropMarker base cs = (digitSpan base cs).1 ++ (digitSpan base cs).2 := by
      rw [digitSpan, List.span_eq_takeWhile_dropWhile, List.takeWhile_append_dropWhile]
    refine ⟨mark ++ (digitSpan base cs).1, (digitSpan base cs).2, ?_, margin, ?_⟩
    · rw [List.append_assoc, ← whole, ← split]
    · exact .intro marked (digitValues?_eq_some_iff.1 values) short
  · rintro ⟨_, back, rfl, margin, ⟨marked, digits, short⟩⟩
    have stop : ∀ c ∈ back.head?, ¬ isDigitOrJoint base.value c := fun c hc =>
      not_isDigitOrJoint_of_isMargin (margin c (List.mem_of_mem_head? hc))
    have parts {mark body : List Char} {ds : List Nat} (marked : mark ∈ base.marks)
        (digits : Digits base.value body ds) : digitSpan base (mark ++ body ++ back) = (body, back) := by
      rw [digitSpan, List.append_assoc, dropMarker_append marked digits margin,
        span_append digits.isDigitOrJoint stop]
    rw [parts marked digits]
    exact ⟨_, digitValues?_eq_some_iff.2 digits, short, margin, rfl⟩

end Magnitudes

/-! ### Reading -/

section Reading

variable {base : Base} {text : Text} {n : Int}

/-- A text is read if what is left of it without margin and sign is a number, with a margin after it. -/
theorem readInteger_eq_ok_iff_number {negative : Bool} {body : List Char}
    (signed : splitSign ((text.map plainChar).dropWhile isMargin) = (negative, body)) :
    readInteger base text = .ok n ↔
      ∃ k : Nat, (∃ number back, body = number ++ back ∧ (∀ c ∈ back, isMargin c) ∧ Magnitude base number k) ∧
        n = if negative then -(k : Int) else k := by
  simp only [← digitSpan_iff]
  rcases parts : digitSpan base body with ⟨digits, rest⟩
  have span : (dropMarker base body).span (isDigitOrJoint base.value) = (digits, rest) := parts
  cases values : digitValues? base.value digits with
  | none =>
    have refused : readInteger base text = .error (.invalid base text) := by
      simp only [readInteger, signed, span, values]
    simp [refused]
  | some ds =>
    have accepted : readInteger base text =
        if base.digitLimit?.any (· < ds.length) then .error (.tooLong ds.length)
        else if rest.all isMargin then
          .ok (if negative then -(ofDigits base.value ds : Int) else (ofDigits base.value ds : Int))
        else .error (.invalid base text) := by
      simp only [readInteger, signed, span, values]
    have limit : base.digitLimit?.any (· < ds.length) = true ↔ ¬ ∀ limit ∈ base.digitLimit?, ds.length ≤ limit := by
      cases base.digitLimit? <;> simp
    rw [accepted]
    simp only [limit]
    split
    next long =>
      constructor
      · rintro ⟨⟩
      · rintro ⟨k, ⟨ds', hds, short, -⟩, -⟩
        rw [← Option.some.inj hds] at short
        exact absurd short long
    next short =>
      split
      next margin =>
        rw [Except.ok.injEq]
        constructor
        · rintro rfl
          exact ⟨_, ⟨ds, rfl, not_not.1 short, List.all_eq_true.1 margin, rfl⟩, rfl⟩
        · rintro ⟨k, ⟨ds', hds, -, -, rfl⟩, rfl⟩
          rw [Option.some.inj hds]
      next margin =>
        constructor
        · rintro ⟨⟩
        · rintro ⟨k, ⟨ds', -, -, all, -⟩, -⟩
          exact absurd (List.all_eq_true.2 all) margin

theorem Literal.exists_cons {cs : List Char} (h : Literal base cs n) : ∃ c rest, cs = c :: rest ∧ ¬ isMargin c := by
  cases h with
  | unsigned h =>
    obtain ⟨c, rest, rfl, digit⟩ := h.exists_cons
    exact ⟨c, rest, rfl, (plain_of_digit digit).1⟩
  | plus h => exact ⟨'+', _, rfl, by decide⟩
  | minus h => exact ⟨'-', _, rfl, by decide⟩

/-- **The texts that are read are the literals, with margins around them.** -/
theorem readInteger_eq_ok_iff :
    readInteger base text = .ok n ↔ ∃ front literal back, text.map plainChar = front ++ (literal ++ back) ∧
      (∀ c ∈ front, isMargin c) ∧ (∀ c ∈ back, isMargin c) ∧ Literal base literal n := by
  constructor
  · intro read
    have split : text.map plainChar =
        (text.map plainChar).takeWhile isMargin ++ (text.map plainChar).dropWhile isMargin :=
      List.takeWhile_append_dropWhile.symm
    have front : ∀ c ∈ (text.map plainChar).takeWhile isMargin, isMargin c := fun c => List.mem_takeWhile_imp
    cases signed : splitSign ((text.map plainChar).dropWhile isMargin) with
    | mk negative body =>
      obtain ⟨k, ⟨number, back, rfl, margin, magnitude⟩, rfl⟩ := (readInteger_eq_ok_iff_number signed).1 read
      unfold splitSign at signed
      split at signed
      next rest heq =>
        obtain ⟨rfl, rfl⟩ := Prod.mk.inj signed
        exact ⟨_, '-' :: number, back, split.trans (congrArg _ heq), front, margin, .minus magnitude⟩
      next rest heq =>
        obtain ⟨rfl, rfl⟩ := Prod.mk.inj signed
        exact ⟨_, '+' :: number, back, split.trans (congrArg _ heq), front, margin, .plus magnitude⟩
      next =>
        obtain ⟨rfl, heq⟩ := Prod.mk.inj signed
        exact ⟨_, number, back, split.trans (congrArg _ heq), front, margin, .unsigned magnitude⟩
  · rintro ⟨front, literal, back, split, margin, margin', literals⟩
    have rest : (text.map plainChar).dropWhile isMargin = literal ++ back := by
      obtain ⟨c, tail, rfl, solid⟩ := literals.exists_cons
      rw [split, List.dropWhile_append_of_pos margin]
      exact List.dropWhile_cons_of_neg solid
    cases literals with
    | @unsigned _ k h =>
      have signed : splitSign ((text.map plainChar).dropWhile isMargin) = (false, literal ++ back) := by
        obtain ⟨c, tail, rfl, digit⟩ := h.exists_cons
        obtain ⟨-, plus, minus, -⟩ := plain_of_digit digit
        simp [rest, splitSign, plus, minus]
      exact (readInteger_eq_ok_iff_number signed).2 ⟨k, ⟨_, back, rfl, margin', h⟩, rfl⟩
    | @plus cs k h =>
      have signed : splitSign ((text.map plainChar).dropWhile isMargin) = (false, cs ++ back) := by
        rw [rest]
        rfl
      exact (readInteger_eq_ok_iff_number signed).2 ⟨k, ⟨_, back, rfl, margin', h⟩, rfl⟩
    | @minus cs k h =>
      have signed : splitSign ((text.map plainChar).dropWhile isMargin) = (true, cs ++ back) := by
        rw [rest]
        rfl
      exact (readInteger_eq_ok_iff_number signed).2 ⟨k, ⟨_, back, rfl, margin', h⟩, rfl⟩

end Reading

end Dcpu16.Numeral
