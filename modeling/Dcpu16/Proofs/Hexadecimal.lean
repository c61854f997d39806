import Dcpu16.Numeral.Digit
import Dcpu16.Proofs.Literals
import Mathlib.Data.Bool.AllAny

/-!
Numbers in base sixteen, written and read. A number may be written with letters of either case and after any number of
zeros (`WritesHex`). All of these are literals without sign, mark and joints, so a reader gets the same number from them
(`readInteger_of_writesHex`). What a style without a marker puts out is one of them.
-/

namespace Dcpu16.Numeral

/-! ### Digits -/

/-- What is to be shown of small forms is shown of the capitals, one by one, and of what is its own small form. -/
theorem toLower_cases {motive : Char → Prop} (capital : ∀ n, 65 ≤ n → n ≤ 90 → motive (Char.ofNat n))
    (other : ∀ c, c.toLower = c → motive c) (c : Char) : motive c := by
  by_cases h : 65 ≤ c.toNat ∧ c.toNat ≤ 90
  · rw [← Char.ofNat_toNat c]
    exact capital c.toNat h.1 h.2
  · exact other c (dif_neg h)

theorem digitValue?_toLower (c : Char) : digitValue? 16 c.toLower = digitValue? 16 c := by
  cases c using toLower_cases with
  | capital n lower upper => interval_cases n <;> decide
  | other c same => rw [same]

theorem digitValue?_digitChar {base d : Nat} (le : base ≤ 16) (h : d < base) : digitValue? base d.digitChar = some d := by
  have hex : ∀ d < 16, digitValue? 16 d.digitChar = some d := by decide
  have value := hex d (by omega)
  unfold digitValue? at value ⊢
  simp only [Option.filter_eq_some_iff] at value ⊢
  exact ⟨value.1, decide_eq_true h⟩

theorem ofDigits_append_singleton (base : Nat) (ds : List Nat) (d : Nat) :
    ofDigits base (ds ++ [d]) = ofDigits base ds * base + d := List.foldl_append

theorem ofDigits_zeros (base k : Nat) (ds : List Nat) :
    ofDigits base (List.replicate k 0 ++ ds) = ofDigits base ds := by
  induction k with
  | zero => rfl
  | succ k ih =>
    rw [List.replicate_succ, List.cons_append, ofDigits, List.foldl_cons, Nat.zero_mul]
    exact ih

theorem exists_digits_toDigits {base : Nat} (two : 1 < base) (n : Nat) :
    ∃ ds : List Nat, (∀ d ∈ ds, d < base) ∧ Nat.toDigits base n = ds.map Nat.digitChar ∧ ofDigits base ds = n := by
  induction n using Nat.strongRecOn with
  | ind n ih =>
    rw [Nat.toDigits_eq_if two]
    split
    next h => exact ⟨[n], fun d hd => List.mem_singleton.1 hd ▸ h, rfl, by simp [ofDigits]⟩
    next h =>
      obtain ⟨ds, small, digits, value⟩ := ih (n / base) (Nat.div_lt_self (by omega) two)
      refine ⟨ds ++ [n % base], fun d hd => ?_, ?_, ?_⟩
      · rcases List.mem_append.1 hd with hd | hd
        · exact small d hd
        · rw [List.mem_singleton.1 hd]
          exact Nat.mod_lt n (by omega)
      · rw [digits, List.map_append, List.map_singleton]
      · rw [ofDigits_append_singleton, value, Nat.div_add_mod']

/-- The values of zeros and the digits of a number, and what they are worth together. -/
theorem exists_values {base : Nat} (two : 1 < base) (le : base ≤ 16) (zeros n : Nat) :
    ∃ ds : List Nat, (List.replicate zeros '0' ++ Nat.toDigits base n).map (digitValue? base) = ds.map some ∧
      ofDigits base ds = n := by
  obtain ⟨ds, small, digits, value⟩ := exists_digits_toDigits two n
  refine ⟨List.replicate zeros 0 ++ ds, ?_, by rw [ofDigits_zeros, value]⟩
  have zero : digitValue? base '0' = some 0 := digitValue?_digitChar le (d := 0) (by omega)
  have values : (Nat.toDigits base n).map (digitValue? base) = ds.map some := by
    rw [digits, List.map_map]
    exact List.map_congr_left fun d hd => digitValue?_digitChar le (small d hd)
  rw [List.map_append, List.map_replicate, zero, values, List.map_append, List.map_replicate]

/-! ### Written numbers -/

/-- A text writes a number in base sixteen: any zeros, then its digits, with letters of either case. -/
def WritesHex (cs : List Char) (n : Nat) : Prop :=
  ∃ zeros, cs.map Char.toLower = List.replicate zeros '0' ++ Nat.toDigits 16 n

namespace WritesHex

variable {cs : List Char} {n : Nat} (h : WritesHex cs n)

include h

/-- The values of the digits, and what they are worth together. -/
theorem exists_digits : ∃ ds : List Nat, cs.map (digitValue? 16) = ds.map some ∧ ofDigits 16 ds = n := by
  obtain ⟨zeros, hcs⟩ := h
  obtain ⟨ds, values, value⟩ := exists_values (by decide) (Nat.le_refl 16) zeros n
  refine ⟨ds, ?_, value⟩
  have lower : cs.map (digitValue? 16) = (cs.map Char.toLower).map (digitValue? 16) := by
    rw [List.map_map]
    exact List.map_congr_left fun c _ => (digitValue?_toLower c).symm
  rw [lower, hcs, values]

theorem ne_nil : cs ≠ [] := by
  rintro rfl
  obtain ⟨zeros, hcs⟩ := h
  exact Nat.toDigits_ne_nil (List.append_eq_nil_iff.1 hcs.symm).2

theorem isSome_digitValue {c : Char} (hc : c ∈ cs) : (digitValue? 16 c).isSome := by
  obtain ⟨ds, hds, -⟩ := h.exists_digits
  obtain ⟨d, -, hd⟩ := List.mem_map.1 (hds ▸ List.mem_map_of_mem hc : digitValue? 16 c ∈ ds.map some)
  rw [← hd]
  rfl

theorem mem_alphabet {c : Char} (hc : c ∈ cs) : c ∈ hexAlphabet := mem_hexAlphabet (h.isSome_digitValue hc)

end WritesHex

/-- Words in a listing are written numbers. -/
theorem HexStyle.writesHex_text {style : HexStyle} (unmarked : style.marker = []) (n : Nat) :
    WritesHex (style.text n).toList n := by
  obtain ⟨ds, small, digits, -⟩ := exists_digits_toDigits (show 1 < 16 by decide) n
  have lower : (hexDigits style.capital n).map Char.toLower = Nat.toDigits 16 n := by
    have cases_digit : ∀ d < 16, d.digitChar.toLower = d.digitChar ∧ d.digitChar.toUpper.toLower = d.digitChar := by
      decide
    rw [hexDigits, digits]
    split
    · rw [List.map_map, List.map_map]
      exact List.map_congr_left fun d hd => (cases_digit d (small d hd)).2
    · rw [List.map_map]
      exact List.map_congr_left fun d hd => (cases_digit d (small d hd)).1
  have written : (style.text n).toList =
      List.replicate (style.width - (hexDigits style.capital n).length) '0' ++ hexDigits style.capital n := by
    simp [HexStyle.text, unmarked, Int.not_lt.2 (Int.natCast_nonneg n)]
  exact ⟨_, by rw [written, List.map_append, lower, List.map_replicate]; rfl⟩

/-! ### Reading -/

/-- Characters of ASCII are read as they stand. -/
theorem map_plainChar_ofChars {cs : List Char} (ascii : ∀ c ∈ cs, c.toNat < 0x80) :
    (Text.ofChars cs).map plainChar = cs := by
  rw [Text.ofChars, List.map_map]
  exact (List.map_congr_left fun c hc => if_pos (ascii c hc)).trans (List.map_id cs)

theorem ascii_of_mem_alphabet {c : Char} (h : c ∈ hexAlphabet) : c.toNat < 0x80 := by
  have ascii : ∀ c ∈ hexAlphabet, c.toNat < 0x80 := List.all_iff_forall_prop.1 (by decide)
  exact ascii c h

theorem mem_alphabet_of_digits {cs : List Char} {ds : List Nat} (h : cs.map (digitValue? 16) = ds.map some) :
    ∀ c ∈ cs, c ∈ hexAlphabet := by
  intro c hc
  obtain ⟨d, -, hd⟩ := List.mem_map.1 (h ▸ List.mem_map_of_mem hc : digitValue? 16 c ∈ ds.map some)
  exact mem_hexAlphabet (Option.isSome_of_eq_some hd.symm)

/-- Digits without a sign, a mark or joints are read as the number that they write. -/
theorem readInteger_of_digits {cs : List Char} {ds : List Nat} (ne : cs ≠ [])
    (digits : cs.map (digitValue? 16) = ds.map some) :
    readInteger .sixteen (Text.ofChars cs) = .ok (ofDigits 16 ds : Int) := by
  have magnitude : Magnitude .sixteen ([] ++ cs) (ofDigits 16 ds) :=
    .intro (mem_marks.2 (Or.inl rfl)) (.of_map ne digits) nofun
  refine readInteger_eq_ok_iff.2 ⟨[], cs, [], ?_, nofun, nofun, .unsigned magnitude⟩
  rw [map_plainChar_ofChars fun c hc => ascii_of_mem_alphabet (mem_alphabet_of_digits digits c hc), List.nil_append,
    List.append_nil]

/-- **A number is read however it is written in base sixteen.** -/
theorem readInteger_of_writesHex {cs : List Char} {n : Nat} (h : WritesHex cs n) :
    readInteger .sixteen (Text.ofChars cs) = .ok (n : Int) := by
  obtain ⟨ds, digits, value⟩ := h.exists_digits
  rw [readInteger_of_digits h.ne_nil digits, value]

end Dcpu16.Numeral
