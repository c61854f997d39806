import Dcpu16.Config.Read
import Dcpu16.Proofs.Hexadecimal

/-!
How integers may be spelled in a description: as they are, in base ten with a sign and with blanks around them, or behind a
marker in base sixteen. Only texts of the last kind begin with the marker, so it is clear in which base a text is to be read,
and each spelling is read as the integer that it spells (`integerOf_of_spells`).
-/

namespace Dcpu16

open Text (isBlank ofChars)

namespace Numeral

/-! ### Base ten -/

/-- A text writes a number in base ten: any zeros, then its digits, and no more of them than a literal may have. -/
structure WritesDecimal (cs : List Char) (n : Nat) : Prop where
  digits : ∃ zeros, cs = List.replicate zeros '0' ++ Nat.toDigits 10 n
  short : cs.length ≤ 4300

/-- A text writes an integer in base ten, with a sign or without one. -/
inductive WritesInteger : List Char → Int → Prop where
  | unsigned {cs : List Char} {n : Nat} (h : WritesDecimal cs n) : WritesInteger cs n
  | plus {cs : List Char} {n : Nat} (h : WritesDecimal cs n) : WritesInteger ('+' :: cs) n
  | minus {cs : List Char} {n : Nat} (h : WritesDecimal cs n) : WritesInteger ('-' :: cs) (-n)

/-- The values of the digits, and what they are worth together. -/
theorem WritesDecimal.exists_digits {cs : List Char} {n : Nat} (h : WritesDecimal cs n) :
    ∃ ds : List Nat, cs.map (digitValue? 10) = ds.map some ∧ ofDigits 10 ds = n := by
  obtain ⟨zeros, rfl⟩ := h.digits
  exact exists_values (by decide) (by decide) zeros n

/-- The digits are a number without a sign, as literals have it. -/
theorem WritesDecimal.magnitude {cs : List Char} {n : Nat} (h : WritesDecimal cs n) : Magnitude .ten cs n := by
  obtain ⟨ds, values, rfl⟩ := h.exists_digits
  have ne : cs ≠ [] := by
    rintro rfl
    obtain ⟨zeros, empty⟩ := h.digits
    exact Nat.toDigits_ne_nil (List.append_eq_nil_iff.1 empty.symm).2
  have short : ds.length ≤ 4300 := by
    have lengths := congrArg List.length values
    rw [List.length_map, List.length_map] at lengths
    rw [← lengths]
    exact h.short
  have unmarked : Magnitude .ten ([] ++ cs) (ofDigits 10 ds) := by
    refine .intro (mem_marks.2 (Or.inl rfl)) (.of_map ne values) fun limit hlimit => ?_
    cases hlimit
    exact short
  exact unmarked

namespace WritesInteger

variable {cs : List Char} {n : Int} (h : WritesInteger cs n)

include h

theorem literal : Literal .ten cs n := by
  cases h with
  | unsigned h => exact .unsigned h.magnitude
  | plus h => exact .plus h.magnitude
  | minus h => exact .minus h.magnitude

/-- An integer in base ten is written with signs and digits. -/
theorem mem_signed {c : Char} (hc : c ∈ cs) : c ∈ '+' :: '-' :: hexAlphabet := by
  have digit {cs : List Char} {n : Nat} (h : WritesDecimal cs n) (hc : c ∈ cs) : c ∈ hexAlphabet := by
    obtain ⟨ds, values, -⟩ := h.exists_digits
    obtain ⟨d, -, hd⟩ := List.mem_map.1 (values ▸ List.mem_map_of_mem hc : digitValue? 10 c ∈ ds.map some)
    exact mem_hexAlphabet (Option.isSome_of_eq_some hd.symm)
  cases h with
  | unsigned h => simp [digit h hc]
  | plus h =>
    rcases List.mem_cons.1 hc with rfl | hc
    · simp
    · simp [digit h hc]
  | minus h =>
    rcases List.mem_cons.1 hc with rfl | hc
    · simp
    · simp [digit h hc]

end WritesInteger

theorem plain_of_mem_signed {c : Char} (h : c ∈ '+' :: '-' :: hexAlphabet) : c.toNat < 0x80 ∧ c ≠ 'x' ∧ c ≠ 'X' := by
  have plain : ∀ c ∈ '+' :: '-' :: hexAlphabet, c.toNat < 0x80 ∧ c ≠ 'x' ∧ c ≠ 'X' :=
    List.all_iff_forall_prop.1 (by decide)
  exact plain c h

/-! ### Blanks around a literal -/

/-- The blanks that a literal may have around it: all but the information separators. -/
def isSpace (p : CodePoint) : Bool := isBlank p && !(0x1C ≤ p.code && p.code ≤ 0x1F)

theorem isMargin_plainChar {p : CodePoint} (h : isSpace p) : isMargin (plainChar p) := by
  rw [isSpace, Bool.and_eq_true] at h
  obtain ⟨blank, other⟩ := h
  have foreign : isMargin (foreignChar p) := by
    rw [foreignChar, if_pos blank]
    decide
  cases p with
  | surrogate n => exact foreign
  | char c =>
    rw [plainChar]
    split
    next ascii =>
      have small : ∀ n < 0x80, n ∈ Text.blanks → ¬ (0x1C ≤ n ∧ n ≤ 0x1F) → isMargin (Char.ofNat n) := by decide
      have outside : ¬ (0x1C ≤ c.toNat ∧ c.toNat ≤ 0x1F) := by
        rintro ⟨lower, upper⟩
        simp [CodePoint.code, lower, upper] at other
      have margin := small c.toNat ascii (List.contains_iff_mem.1 blank) outside
      rwa [Char.ofNat_toNat] at margin
    next => exact foreign

/-- An integer in base ten is read with blanks around it. -/
theorem readInteger_of_writesInteger {cs : List Char} {n : Int} (h : WritesInteger cs n) {front back : Text}
    (before : ∀ p ∈ front, isSpace p) (after : ∀ p ∈ back, isSpace p) :
    readInteger .ten (front ++ (ofChars cs ++ back)) = .ok n := by
  have margin {text : Text} (blank : ∀ p ∈ text, isSpace p) : ∀ c ∈ text.map plainChar, isMargin c := by
    intro c hc
    obtain ⟨p, hp, rfl⟩ := List.mem_map.1 hc
    exact isMargin_plainChar (blank p hp)
  refine readInteger_eq_ok_iff.2 ⟨front.map plainChar, cs, back.map plainChar, ?_, margin before, margin after, h.literal⟩
  rw [List.map_append, List.map_append, map_plainChar_ofChars fun c hc => (plain_of_mem_signed (h.mem_signed hc)).1]

/-! ### Base sixteen behind a marker -/

/-- A number in base sixteen is read behind a marker. -/
theorem readInteger_of_marked {m : Char} (marker : m ∈ Base.sixteen.markers) {cs : List Char} {n : Nat} (h : WritesHex cs n) :
    readInteger .sixteen (ofChars ('0' :: m :: cs)) = .ok (n : Int) := by
  obtain ⟨ds, values, rfl⟩ := h.exists_digits
  have magnitude : Magnitude .sixteen (['0', m] ++ cs) (ofDigits 16 ds) :=
    .intro (mem_marks.2 (Or.inr ⟨m, marker, Or.inl rfl⟩)) (.of_map h.ne_nil values) nofun
  refine readInteger_eq_ok_iff.2 ⟨[], ['0', m] ++ cs, [], ?_, nofun, nofun, .unsigned magnitude⟩
  have ascii : ∀ c ∈ '0' :: m :: cs, c.toNat < 0x80 := by
    have marks : ∀ m ∈ '0' :: Base.sixteen.markers, m.toNat < 0x80 := List.all_iff_forall_prop.1 (by decide)
    intro c hc
    rcases List.mem_cons.1 hc with rfl | hc
    · decide
    rcases List.mem_cons.1 hc with rfl | hc
    · exact marks c (List.mem_cons_of_mem _ marker)
    · exact ascii_of_mem_alphabet (h.mem_alphabet hc)
  rw [map_plainChar_ofChars ascii]
  simp

end Numeral

/-! ### Values -/

namespace Config

open Numeral (WritesHex WritesInteger isSpace)

/-- A value spells an integer. -/
inductive Spells : Value → Int → Prop where
  | integer (n : Int) : Spells (.int n) n
  | decimal (front back : Text) {cs : List Char} {n : Int} (before : ∀ p ∈ front, isSpace p) (after : ∀ p ∈ back, isSpace p)
      (h : WritesInteger cs n) : Spells (.text (front ++ (ofChars cs ++ back))) n
  | hexadecimal {m : Char} {cs : List Char} {n : Nat} (marker : m = 'x' ∨ m = 'X') (h : WritesHex cs n) :
      Spells (.text (ofChars ('0' :: m :: cs))) n

theorem mem_of_isMarked {text : Text} (h : isMarked text) : .char 'x' ∈ text ∨ .char 'X' ∈ text := by
  unfold isMarked at h
  split at h
  next => simp
  next => simp
  next => cases h

/-- **An integer is read however it is spelled.** -/
theorem integerOf_of_spells {v : Value} {n : Int} (h : Spells v n) (table : Collections) : integerOf table v = .ok n := by
  cases h with
  | integer n => rfl
  | @decimal front back cs n before after h =>
    have unmarked : ¬ isMarked (front ++ (ofChars cs ++ back)) := by
      intro marked
      have outside {p : CodePoint} (blank : isSpace p) : p ≠ .char 'x' ∧ p ≠ .char 'X' := by
        constructor <;> rintro rfl <;> exact absurd blank (by decide)
      have inside {p : CodePoint} (hp : p ∈ ofChars cs) : p ≠ .char 'x' ∧ p ≠ .char 'X' := by
        obtain ⟨c, hc, rfl⟩ := List.mem_map.1 hp
        obtain ⟨-, hx, hX⟩ := Numeral.plain_of_mem_signed (h.mem_signed hc)
        exact ⟨fun e => hx (CodePoint.char.inj e), fun e => hX (CodePoint.char.inj e)⟩
      have all : ∀ p ∈ front ++ (ofChars cs ++ back), p ≠ .char 'x' ∧ p ≠ .char 'X' := by
        intro p hp
        rcases List.mem_append.1 hp with hp | hp
        · exact outside (before p hp)
        rcases List.mem_append.1 hp with hp | hp
        · exact inside hp
        · exact outside (after p hp)
      rcases mem_of_isMarked marked with hp | hp
      · exact (all _ hp).1 rfl
      · exact (all _ hp).2 rfl
    simp only [integerOf, if_neg unmarked, Numeral.readInteger_of_writesInteger h before after]
    rfl
  | @hexadecimal m cs n marker h =>
    have marked : isMarked (ofChars ('0' :: m :: cs)) := by
      rcases marker with rfl | rfl <;> rfl
    have mem : m ∈ Numeral.Base.sixteen.markers := by
      rcases marker with rfl | rfl <;> decide
    simp only [integerOf, if_pos marked, Numeral.readInteger_of_marked mem h]
    rfl

end Config

end Dcpu16
