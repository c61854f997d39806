import Dcpu16.Proofs.ImageLines
import Dcpu16.Proofs.Reachable
import Mathlib.Data.List.Forall2

/-!
Memory written as text and read again. A row of such a text gives one cell: its address before a colon and its word, in
base sixteen, with blanks and a comment as the writer likes (`Row`). However its rows are written, the text reads as the
cells, and loading what was read gives memory back (`read_memory`), since cells are listed by rising address and kept
under the addresses that the policy gives.
-/

namespace Dcpu16

open Image (readLine readLines readTokens readWord wordMarkers)
open Numeral (WritesHex)
open Text (isBlank isLineEnd ofChars)

/-! ### Rows -/

/-- A line for one cell, in parts. The margin and the comment may be empty. -/
structure Row where
  address : List Char
  gap : Text
  marker : List Char
  word : List Char
  margin : Text
  comment : Text

namespace Row

/-- The word behind its marker. -/
def token (r : Row) : Text := ofChars (r.marker ++ r.word)

/-- What the line says, without margin and comment. -/
def entry (r : Row) : Text := ofChars r.address ++ .char ':' :: (r.gap ++ r.token)

/-- The line. -/
def text (r : Row) : Text := r.entry ++ (r.margin ++ r.comment)

/-- A line gives the word of a cell. -/
structure Places (r : Row) (cell : Int × Word) : Prop where
  address : WritesHex r.address cell.1.toNat
  gap : ∀ p ∈ r.gap, isBlank p
  marker : r.marker ∈ wordMarkers
  word : WritesHex r.word cell.2.toNat
  margin : ∀ p ∈ r.margin, isBlank p
  comment : ∀ p ∈ r.comment.head?, p = .char ';'
  unbroken : ∀ p ∈ r.gap ++ (r.margin ++ r.comment), ¬ isLineEnd p

namespace Places

variable {r : Row} {cell : Int × Word} (h : r.Places cell)

include h

theorem solid : Text.Solid r.token := Image.solid_append h.marker h.word

/-- The characters of the address and of the word are neither blanks nor breaks nor semicolons. -/
theorem plain {p : CodePoint} (hp : p ∈ ofChars r.address ∨ p ∈ r.token) :
    ¬ isBlank p ∧ ¬ isLineEnd p ∧ p ≠ .char ';' := by
  rcases hp with hp | hp
  · exact Image.plain_of_mem_append Image.nil_mem_wordMarkers h.address hp
  · exact Image.plain_of_mem_append h.marker h.word hp

/-- The margin and the comment do not count. -/
theorem content_text : Image.content r.text = r.entry := by
  refine Image.content_append (by simp [entry]) (fun p hp => ?_) (fun p hp => ?_) (fun hp => ?_) h.margin h.comment
  · obtain ⟨c, cs, hcs⟩ := List.exists_cons_of_ne_nil h.address.ne_nil
    refine (h.plain (Or.inl ?_)).1
    rw [entry, hcs] at hp
    rw [hcs]
    cases hp
    exact List.mem_cons_self ..
  · rw [entry, ← List.cons_append, ← List.append_assoc, List.getLast?_append_of_ne_nil _ h.solid.1] at hp
    exact (h.plain (Or.inr (List.mem_of_getLast? hp))).1
  · rcases List.mem_append.1 hp with hp | hp
    · exact (h.plain (Or.inl hp)).2.2 rfl
    · rcases List.mem_append.1 ((List.mem_cons.1 hp).resolve_left (by decide)) with hp | hp
      · exact absurd (h.gap _ hp) (by decide)
      · exact (h.plain (Or.inr hp)).2.2 rfl

/-- A line is read as the cell that it gives. -/
theorem readLine_text (nonneg : 0 ≤ cell.1) (number : Nat) (cursor : Int) :
    readLine number cursor r.text = .ok ([(cell.1, cell.2.address)], cell.1 + 1) := by
  have words : Text.words (r.gap ++ r.token) = [r.token] := by
    rw [Text.words_blanks_append h.gap, Text.words_of_solid h.solid]
  have word : readWord (Image.unmark r.token) = .ok cell.2.address := by
    have fits : cell.2.toNat ≤ 0xFFFF := by
      have := cell.2.isLt
      omega
    rw [token, Image.unmark_append h.marker h.word, Image.readWord_of_writesHex h.word fits]
    rfl
  have address : ((cell.1.toNat : Nat) : Int) = cell.1 := Int.toNat_of_nonneg nonneg
  rw [readLine, h.content_text, entry, Image.splitAddress_append h.address]
  show readTokens number (cell.1.toNat : Nat) (Text.words (r.gap ++ r.token)) = _
  rw [words, Image.readTokens_eq (.cons word .nil), address]
  simp [Space.placed]

theorem unbroken_text : Text.Unbroken r.text := by
  refine ⟨by simp [text, entry], fun p hp => ?_⟩
  have parts : p ∈ ofChars r.address ∨ p = .char ':' ∨ p ∈ r.token ∨ p ∈ r.gap ++ (r.margin ++ r.comment) := by
    simp only [text, entry, List.mem_append, List.mem_cons] at hp ⊢
    tauto
  rcases parts with hp | rfl | hp | hp
  · exact (h.plain (Or.inl hp)).2.1
  · decide
  · exact (h.plain (Or.inr hp)).2.1
  · exact h.unbroken p hp

end Places

end Row

/-- The addresses and words of cells, as an image has them. -/
def imageOf (cells : List (Int × Word)) : List (Int × Int) := cells.map fun (a, w) => (a, w.address)

/-- Lines are read as the cells that they give, in order. -/
theorem exists_readLines_rows {rows : List Row} {cells : List (Int × Word)} (written : List.Forall₂ Row.Places rows cells)
    (nonneg : ∀ cell ∈ cells, 0 ≤ cell.1) (number : Nat) (cursor : Int) :
    ∃ last, readLines number cursor (rows.map Row.text) = .ok (imageOf cells, last) := by
  induction written generalizing number cursor with
  | nil => exact ⟨cursor, rfl⟩
  | @cons r cell rows cells places rest ih =>
    obtain ⟨last, later⟩ := ih (fun c hc => nonneg c (List.mem_cons_of_mem _ hc)) (number + 1) (cell.1 + 1)
    have first := places.readLine_text (nonneg cell (List.mem_cons_self ..)) number cursor
    exact ⟨last, Image.readLines_cons first later⟩

theorem unbroken_rows {rows : List Row} {cells : List (Int × Word)} (written : List.Forall₂ Row.Places rows cells) :
    ∀ line ∈ rows.map Row.text, Text.Unbroken line := by
  induction written with
  | nil => exact fun line hline => absurd hline List.not_mem_nil
  | cons places rest ih => exact List.forall_mem_cons.2 ⟨places.unbroken_text, ih⟩

/-! ### Loading -/

namespace Space

/-- After loading, a cell has the word loaded into it, or else the one that it had. -/
theorem getElem?_cells_loadPairs (s : Space) {cells : List (Int × Word)} (sorted : cells.Pairwise fun x y => x.1 < y.1)
    (normal : ∀ cell ∈ cells, s.policy.normalize cell.1 = cell.1) (a : Int) (w : Word) :
    (s.loadPairs (imageOf cells)).cells[a]? = some w ↔
      (a, w) ∈ cells ∨ s.cells[a]? = some w ∧ ∀ cell ∈ cells, cell.1 ≠ a := by
  induction cells generalizing s with
  | nil => simp [imageOf, loadPairs]
  | cons cell cells ih =>
    obtain ⟨b, v⟩ := cell
    obtain ⟨before, sorted⟩ := List.pairwise_cons.1 sorted
    have hb : s.policy.normalize b = b := normal (b, v) (List.mem_cons_self ..)
    have loaded : (s.load b v.address).cells = s.cells.insert b v := by
      rw [load, hb, Word.ofInt_address]
    have rest := ih (s.load b v.address) sorted fun c hc => normal c (List.mem_cons_of_mem _ hc)
    show ((s.load b v.address).loadPairs (imageOf cells)).cells[a]? = some w ↔ _
    rw [rest, loaded, Std.ExtTreeMap.getElem?_insert, List.mem_cons, List.forall_mem_cons]
    by_cases h : b = a
    · subst h
      have others : ∀ c ∈ cells, c.1 ≠ b := fun c hc => (before c hc).ne'
      have absent : (b, w) ∉ cells := fun hw => others _ hw rfl
      have loadedLast : v = w ∧ (∀ c ∈ cells, c.1 ≠ b) ↔ w = v := by
        rw [and_iff_left others, eq_comm]
      simpa [absent] using loadedLast
    · have other : (a, w) ≠ (b, v) := fun he => h (congrArg Prod.fst he).symm
      simp [h, other]

/-- The cells of a normal space, loaded where no cell was ever written, are all there is. -/
theorem cells_loadPairs_memory {p : Policy} {s : Space} (h : s.Normal p) :
    (({ policy := p } : Space).loadPairs (imageOf s.memory)).cells = s.cells := by
  refine Std.ExtTreeMap.ext_getElem? fun a => Option.ext fun w => ?_
  rw [getElem?_cells_loadPairs _ s.memory_pairwise (fun cell hcell => h.memory hcell), mem_memory]
  simp

end Space

/-- **However memory is written as text, row by row, the text reads as the cells, and loading them gives memory back.** -/
theorem Machine.Reaches.read_memory {p : Policy} {m : Machine} (reached : Reaches (fresh p) m)
    (nonneg : ∀ cell ∈ m.space.memory, 0 ≤ cell.1) {rows : List Row}
    (written : List.Forall₂ Row.Places rows m.space.memory) {text : Text} (lined : Text.Lined (rows.map Row.text) text)
    (origin : Int) :
    Image.read text origin = .ok (imageOf m.space.memory) ∧
      let loaded := ({ policy := p } : Space).loadPairs (imageOf m.space.memory)
      loaded.memory = m.space.memory ∧
        ∀ address, loaded.inspect (.cell address) = m.space.inspect (.cell address) := by
  have normal : m.space.Normal p := reached.normal_of_fresh
  obtain ⟨last, read⟩ := exists_readLines_rows written nonneg 1 origin
  refine ⟨?_, ?_, fun address => ?_⟩
  · rw [Image.read, Text.lines_of_lined lined (unbroken_rows written), read]
    rfl
  · rw [Space.memory, Space.cells_loadPairs_memory normal, Space.memory]
  · rw [Space.inspect, Space.inspect, Space.cell, Space.cell, Space.cells_loadPairs_memory normal,
      Space.policy_loadPairs, normal.policy]

/-- Two cells: one with a marker and a colon in its comment, one past the end of the usual addresses and with a word that
begins like a number in another base. -/
theorem Machine.Reaches.read_memory_commented :
    let commands : List Command := [.write (.number 0x12345) 0xB1, .write (.number 0x10) 0xBEEF]
    let m := (commands.foldl (fun (s : Session) c => (s.apply c).1) (.fresh .sparse)).machine
    let rows : List Row :=
      [⟨"0010".toList, Text.ofString " ", "0x".toList, "bEEf".toList, Text.ofString "  ", Text.ofString ";20: 1"⟩,
        ⟨"12345".toList, [], [], "0b1".toList, [], []⟩]
    Reaches (fresh .sparse) m ∧ (∀ cell ∈ m.space.memory, 0 ≤ cell.1) ∧ List.Forall₂ Row.Places rows m.space.memory ∧
      Text.Lined (rows.map Row.text) (Text.ofString "0010: 0xbEEf  ;20: 1\r\n12345:0b1") ∧
      Image.read (Text.ofString "0010: 0xbEEf  ;20: 1\r\n12345:0b1") 7 = .ok [(0x10, 0xBEEF), (0x12345, 0xB1)] ∧
      (({ policy := .sparse } : Space).loadPairs [(0x10, 0xBEEF), (0x12345, 0xB1)]).memory = m.space.memory := by
  intro commands m rows
  have reached : Reaches (fresh .sparse) m := (Reaches.refl _).session (s := .fresh .sparse) commands
  have memory : m.space.memory = [(0x10, 0xBEEF), (0x12345, 0xB1)] := by decide
  have nonneg : ∀ cell ∈ m.space.memory, 0 ≤ cell.1 := by
    rw [memory]
    decide
  have written : List.Forall₂ Row.Places rows m.space.memory := by
    rw [memory]
    refine .cons ?_ (.cons ?_ .nil)
    · exact ⟨⟨2, by decide⟩, by decide, by decide, ⟨0, by decide⟩, by decide, by decide, by decide⟩
    · exact ⟨⟨0, by decide⟩, by decide, by decide, ⟨1, by decide⟩, by decide, by decide, by decide⟩
  have lined : Text.Lined (rows.map Row.text) (Text.ofString "0010: 0xbEEf  ;20: 1\r\n12345:0b1") :=
    .cons _ .pair (.last _)
  have image : imageOf m.space.memory = [(0x10, 0xBEEF), (0x12345, 0xB1)] := by
    rw [memory]
    decide
  obtain ⟨read, loaded, -⟩ := reached.read_memory nonneg written lined 7
  rw [image] at read loaded
  exact ⟨reached, nonneg, written, lined, read, loaded⟩

end Dcpu16
