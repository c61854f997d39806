import Dcpu16.Proofs.ImageLines
import Dcpu16.Proofs.Length
import Mathlib.Data.List.Forall2

/-!
A listing is an image of memory. The words on a line are those of the instruction at its address and follow each other in
memory modulo `0x10000` (`words_operationAt`), and the next line begins where they end. So the words of all lines are a
stretch of memory without gaps (`flatMap_tokens_listing`), and the text of these words is an image that reads as that
stretch (`listing_image`).
-/

namespace Dcpu16

open Numeral (WritesHex)

/-! ### The words of a line -/

/-- The words on a line of a listing, as they are written. -/
def Line.tokens (l : Line) : List Text := Text.words (Text.ofString l.words)

/-- The number of words on a line of a listing. -/
def Line.size (l : Line) : Nat := l.tokens.length

/-- The number of words on all lines of a listing. -/
def Line.total (ls : List Line) : Nat := (ls.map Line.size).sum

/-- The text of a word in a listing. -/
def Word.token (w : Word) : Text := Text.ofString (wordStyle.text w.address)

namespace Word

variable (w : Word)

theorem ofString_text : Text.ofString (wordStyle.text w.address) = w.token := rfl

/-- The characters of a word in a listing. -/
def chars : List Char := (wordStyle.text w.address).toList

theorem writesHex_chars : WritesHex w.chars w.toNat := Numeral.HexStyle.writesHex_text rfl w.toNat

theorem token_eq : w.token = Text.ofChars w.chars := rfl

theorem solid_token : Text.Solid w.token := by
  have h := Image.solid_append Image.nil_mem_wordMarkers w.writesHex_chars
  rwa [List.nil_append, ← token_eq] at h

theorem unmark_token : Image.unmark w.token = w.token := by
  have h := Image.unmark_append Image.nil_mem_wordMarkers w.writesHex_chars
  rwa [List.nil_append, ← token_eq] at h

theorem readWord_token : Image.readWord w.token = .ok w.address := by
  have fits : w.toNat ≤ 0xFFFF := by
    have := w.isLt
    omega
  exact Image.readWord_of_writesHex w.writesHex_chars fits

end Word

namespace Operation

variable (op : Operation)

/-- The words of an instruction. -/
def words : List Word := op.word :: op.trailing

theorem length_words : op.words.length = op.length := Nat.add_comm ..

theorem ofString_hexWords : Text.ofString op.hexWords = List.intercalate [.char ' '] (op.words.map Word.token) := by
  have blank : Text.ofString " " = [.char ' '] := rfl
  have token : (Text.ofString ∘ fun w : Word => wordStyle.text w.address) = Word.token := by
    funext w
    rw [Function.comp_apply, Word.ofString_text]
  rw [hexWords, Text.ofString_intercalate, List.map_map, blank, token, words]

theorem words_hexWords : Text.words (Text.ofString op.hexWords) = op.words.map Word.token := by
  have blank : Text.isBlank (.char ' ') := by decide
  rw [ofString_hexWords]
  refine Text.words_intercalate blank fun token h => ?_
  obtain ⟨w, -, rfl⟩ := List.mem_map.1 h
  exact w.solid_token

/-- The words of an instruction are written with digits and spaces. -/
theorem mem_hexWords {p : CodePoint} (hp : p ∈ Text.ofString op.hexWords) :
    p = .char ' ' ∨ ∃ c ∈ Numeral.hexAlphabet, p = .char c := by
  rw [ofString_hexWords] at hp
  rcases Text.mem_intercalate hp with hp | ⟨token, htoken, hp⟩
  · exact Or.inl (List.mem_singleton.1 hp)
  · obtain ⟨w, -, rfl⟩ := List.mem_map.1 htoken
    obtain ⟨c, hc, rfl⟩ := Image.mem_ofChars.1 hp
    exact Or.inr ⟨c, w.writesHex_chars.mem_alphabet hc, rfl⟩

/-- The words of an instruction make a line of a text. -/
theorem unbroken_hexWords : Text.Unbroken (Text.ofString op.hexWords) := by
  refine ⟨fun empty => ?_, fun p hp => ?_⟩
  · have none := op.words_hexWords
    rw [empty, words] at none
    cases none
  · rcases op.mem_hexWords hp with rfl | ⟨c, hc, rfl⟩
    · decide
    · exact (Image.plain_of_mem_alphabet hc).2.1

end Operation

namespace Space

variable (s : Space)

/-- The line of a listing for the instruction at an address. -/
def line (address : Int) : Line := ⟨address, (s.operationAt address).hexWords, (s.operationAt address).text⟩

theorem tokens_line (address : Int) : (s.line address).tokens = (s.operationAt address).words.map Word.token :=
  (s.operationAt address).words_hexWords

theorem size_line (address : Int) : (s.line address).size = (s.operationAt address).length := by
  rw [Line.size, tokens_line, List.length_map, Operation.length_words]

theorem listing_succ (start : Int) (count : Nat) :
    s.listing start (count + 1) = s.line start :: s.listing ((start + (s.line start).size) % 0x10000) count := by
  rw [size_line]
  rfl

/-! ### Stretches of memory -/

/-- A number of words of memory from an address on. Past the last address the stretch goes on at `0`. -/
def stretch (start : Int) (count : Nat) : List Word :=
  (List.range count).map fun i : Nat => s.cell ((start + i) % 0x10000)

theorem length_stretch (start : Int) (count : Nat) : (s.stretch start count).length = count := by
  rw [stretch, List.length_map, List.length_range]

theorem stretch_add (start : Int) (m n : Nat) :
    s.stretch start (m + n) = s.stretch start m ++ s.stretch ((start + m) % 0x10000) n := by
  have shift (i : Nat) : (start + ((m + i : Nat) : Int)) % 0x10000 = ((start + m) % 0x10000 + i) % 0x10000 := by omega
  simp only [stretch, List.range_add, List.map_append, List.map_map, Function.comp_def, shift]

/-- The words of an instruction follow each other in memory. -/
theorem words_operationAt {address : Int} (nonneg : 0 ≤ address) (lt : address < 0x10000) :
    (s.operationAt address).words = s.stretch address (s.operationAt address).length := by
  have first : s.stretch address 1 = [s.cell address] := by
    simp [stretch, Int.emod_eq_of_lt nonneg lt]
  have optional (start : Int) (taken : Bool) :
      s.stretch start taken.toNat = if taken then [s.cell (start % 0x10000)] else [] := by
    cases taken <;> simp [stretch]
  have trailing (distance : Nat) :
      (address + ((1 + distance : Nat) : Int)) % 0x10000 % 0x10000 = (address + 1 + distance) % 0x10000 := by omega
  rw [length_operationAt, Instruction.size, stretch_add, stretch_add, first, Mode.extraWords, Mode.extraWords, optional,
    optional, List.append_assoc]
  have next : (address + ((1 : Nat) : Int)) % 0x10000 % 0x10000 = (address + 1 + ((0 : Nat) : Int)) % 0x10000 := by omega
  simp only [trailing, next]
  rfl

/-! ### Listings -/

@[simp] theorem total_nil : Line.total [] = 0 := rfl

theorem total_cons (l : Line) (ls : List Line) : Line.total (l :: ls) = l.size + Line.total ls := List.sum_cons

theorem length_listing (start : Int) (count : Nat) : (s.listing start count).length = count := by
  induction count generalizing start with
  | zero => rfl
  | succ count ih => rw [listing_succ, List.length_cons, ih]

theorem exists_of_mem_listing {start : Int} {count : Nat} {l : Line} (h : l ∈ s.listing start count) :
    ∃ address, l = s.line address := by
  induction count generalizing start with
  | zero => cases h
  | succ count ih =>
    rw [listing_succ] at h
    rcases List.mem_cons.1 h with rfl | h
    · exact ⟨start, rfl⟩
    · exact ih h

theorem next_range (start : Int) (size : Nat) : 0 ≤ (start + size) % 0x10000 ∧ (start + size) % 0x10000 < 0x10000 := by
  omega

section Range

variable {start : Int} (nonneg : 0 ≤ start) (lt : start < 0x10000)

include nonneg lt

theorem tokens_line_eq : (s.line start).tokens = (s.stretch start (s.line start).size).map Word.token := by
  rw [tokens_line, size_line, words_operationAt s nonneg lt]

/-- The words on the lines of a listing are a stretch of memory. -/
theorem flatMap_tokens_listing (count : Nat) :
    (s.listing start count).flatMap Line.tokens =
      (s.stretch start (Line.total (s.listing start count))).map Word.token := by
  induction count generalizing start with
  | zero => rfl
  | succ count ih =>
    obtain ⟨nonneg', lt'⟩ := next_range start (s.line start).size
    rw [listing_succ, List.flatMap_cons, ih nonneg' lt', s.tokens_line_eq nonneg lt, total_cons, stretch_add,
      List.map_append]

/-- A line begins where the words on the lines before it end. -/
theorem address_of_getElem?_listing {count k : Nat} {l : Line} (h : (s.listing start count)[k]? = some l) :
    l.address = (start + Line.total ((s.listing start count).take k)) % 0x10000 := by
  induction count generalizing start k with
  | zero => cases h
  | succ count ih =>
    rw [listing_succ] at h ⊢
    cases k with
    | zero =>
      cases h
      rw [List.take_zero, total_nil, Int.natCast_zero, Int.add_zero, Int.emod_eq_of_lt nonneg lt]
      rfl
    | succ k =>
      obtain ⟨nonneg', lt'⟩ := next_range start (s.line start).size
      rw [List.getElem?_cons_succ] at h
      rw [ih nonneg' lt' h, List.take_succ_cons, total_cons]
      omega

/-- A listing can be continued where its last line ends. -/
theorem listing_add (m n : Nat) :
    s.listing start (m + n) =
      s.listing start m ++ s.listing ((start + Line.total (s.listing start m)) % 0x10000) n := by
  induction m generalizing start with
  | zero =>
    rw [listing, total_nil, Int.natCast_zero, Int.add_zero, Int.emod_eq_of_lt nonneg lt, Nat.zero_add, List.nil_append]
  | succ m ih =>
    obtain ⟨nonneg', lt'⟩ := next_range start (s.line start).size
    have shift (rest : Nat) : ((start + (s.line start).size) % 0x10000 + rest) % 0x10000 =
        (start + (((s.line start).size + rest : Nat) : Int)) % 0x10000 := by omega
    rw [Nat.succ_add, listing_succ, listing_succ, ih nonneg' lt', total_cons, shift, List.cons_append]

/-- The text of a line is read as the words on it. -/
theorem readLine_line (number : Nat) (cursor : Int) :
    Image.readLine number cursor (Text.ofString (s.line start).words) =
      .ok (placed ((s.stretch start (s.line start).size).map Word.address) cursor, cursor + (s.line start).size) := by
  have unmarked {p : CodePoint} (hp : p ∈ Text.ofString (s.line start).words) : p ≠ .char ';' ∧ p ≠ .char ':' := by
    rcases (s.operationAt start).mem_hexWords hp with rfl | ⟨c, hc, rfl⟩
    · decide
    · obtain ⟨-, -, colon, semicolon, -⟩ := Image.plain_of_mem_alphabet hc
      exact ⟨fun h => semicolon (CodePoint.char.inj h), fun h => colon (CodePoint.char.inj h)⟩
  have values (ws : List Word) : List.Forall₂ (fun token value => Image.readWord (Image.unmark token) = .ok value)
      (ws.map Word.token) (ws.map Word.address) := by
    rw [List.forall₂_map_left_iff, List.forall₂_map_right_iff, List.forall₂_same]
    exact fun w _ => by rw [w.unmark_token, w.readWord_token]
  rw [Image.readLine_of_unmarked (fun h => (unmarked h).1 rfl) (fun h => (unmarked h).2 rfl)]
  show Image.readTokens number cursor (s.line start).tokens = _
  rw [s.tokens_line_eq nonneg lt, Image.readTokens_eq (values _), List.length_map, length_stretch]

theorem readLines_listing (count number : Nat) (cursor : Int) :
    Image.readLines number cursor ((s.listing start count).map fun l => Text.ofString l.words) =
      .ok (placed ((s.stretch start (Line.total (s.listing start count))).map Word.address) cursor,
        cursor + Line.total (s.listing start count)) := by
  induction count generalizing start number cursor with
  | zero => simp [listing, Image.readLines, stretch, placed, Line.total]
  | succ count ih =>
    obtain ⟨nonneg', lt'⟩ := next_range start (s.line start).size
    have first := s.readLine_line nonneg lt number cursor
    have later := ih nonneg' lt' (number + 1) (cursor + (s.line start).size)
    rw [listing_succ, List.map_cons, Image.readLines_cons first later, total_cons, stretch_add, List.map_append,
      Image.placed_append, List.length_map, length_stretch, Int.natCast_add, Int.add_assoc]

/-- Word by word, a listing shows memory. -/
theorem readWord_tokens_listing (count : Nat) :
    ((s.listing start count).flatMap Line.tokens).map Image.readWord =
      (s.stretch start (Line.total (s.listing start count))).map fun w => .ok w.address := by
  rw [s.flatMap_tokens_listing nonneg lt, List.map_map]
  refine List.map_congr_left fun w _ => ?_
  rw [Function.comp_apply, w.readWord_token]

omit nonneg lt in
theorem lines_listing (count : Nat) :
    (Text.ofString ("\n".intercalate ((s.listing start count).map Line.words))).lines =
      (s.listing start count).map fun l => Text.ofString l.words := by
  have feed : Text.IsBreak (Text.ofString "\n") := .single (by decide)
  rw [Text.ofString_intercalate, List.map_map, Function.comp_def]
  refine Text.lines_of_lined (Text.lined_intercalate feed _) fun line hline => ?_
  obtain ⟨l, hl, rfl⟩ := List.mem_map.1 hline
  obtain ⟨address, rfl⟩ := s.exists_of_mem_listing hl
  exact (s.operationAt address).unbroken_hexWords

omit nonneg lt in
theorem placed_stretch (count : Nat) :
    placed ((s.stretch start count).map Word.address) start =
      (List.range count).map fun i : Nat => (start + i, (s.cell ((start + i) % 0x10000)).address) := by
  refine List.ext_getElem? fun i => ?_
  rw [placed, List.getElem?_mapIdx, stretch, List.map_map, List.getElem?_map, List.getElem?_map]
  rcases Nat.lt_or_ge i count with h | h
  · rw [List.getElem?_range h]
    rfl
  · rw [List.getElem?_eq_none (List.length_range ▸ h)]
    rfl

theorem read_listing (count : Nat) :
    Image.read (Text.ofString ("\n".intercalate ((s.listing start count).map Line.words))) start =
      .ok (placed ((s.stretch start (Line.total (s.listing start count))).map Word.address) start) := by
  rw [Image.read, lines_listing, s.readLines_listing nonneg lt]
  rfl

/-- **A listing is an image of memory without gaps, and its words read as that image.** -/
theorem listing_image (count : Nat) :
    let lines := s.listing start count
    let total := Line.total lines
    lines.length = count ∧
      (lines.flatMap Line.tokens).map Image.readWord =
        (List.range total).map (fun i : Nat => .ok (s.inspect (.cell ((start + i) % 0x10000))).address) ∧
      (∀ k l, lines[k]? = some l → l.address = (start + Line.total (lines.take k)) % 0x10000) ∧
      (∀ more, s.listing start (count + more) = lines ++ s.listing ((start + total) % 0x10000) more) ∧
      Image.read (Text.ofString ("\n".intercalate (lines.map Line.words))) start =
        .ok ((List.range total).map fun i : Nat => (start + i, (s.inspect (.cell ((start + i) % 0x10000))).address)) := by
  intro lines total
  have words : (lines.flatMap Line.tokens).map Image.readWord =
      (List.range total).map (fun i : Nat => .ok (s.inspect (.cell ((start + i) % 0x10000))).address) := by
    rw [s.readWord_tokens_listing nonneg lt, stretch, List.map_map]
    rfl
  have image : Image.read (Text.ofString ("\n".intercalate (lines.map Line.words))) start =
      .ok ((List.range total).map fun i : Nat => (start + i, (s.inspect (.cell ((start + i) % 0x10000))).address)) := by
    rw [s.read_listing nonneg lt, placed_stretch]
    rfl
  exact ⟨s.length_listing start count, words, fun k l h => s.address_of_getElem?_listing nonneg lt h,
    s.listing_add nonneg lt count, image⟩

end Range

/-- Around the end of memory, with an undefined instruction that takes a word for its selector. -/
theorem listing_image_around_end :
    let s := ({ policy := .wrap } : Space).loadPairs [(0xFFFF, 0x7DE0), (0, 0x1111), (1, 0x2222)]
    (0 : Int) ≤ 0xFFFF ∧ (0xFFFF : Int) < 0x10000 ∧ Line.total (s.listing 0xFFFF 2) = 4 ∧
      Image.read (Text.ofString ("\n".intercalate ((s.listing 0xFFFF 2).map Line.words))) 0xFFFF =
        .ok [(0xFFFF, 0x7DE0), (0x10000, 0x1111), (0x10001, 0x2222), (0x10002, 0)] := by
  intro s
  have total : Line.total (s.listing 0xFFFF 2) = 4 := by decide
  obtain ⟨-, -, -, -, image⟩ := s.listing_image (show (0 : Int) ≤ 0xFFFF by decide) (by decide) 2
  rw [total] at image
  exact ⟨by decide, by decide, total, image.trans (by decide)⟩

end Space

end Dcpu16
